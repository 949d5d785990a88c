import ClickGen.Proofs.Code.ListLiteral

/-!
Literals at the front of any source.

A literal in single quotes ends at the first quote that is not escaped, so that a reader knows where
it ends without looking at what follows. Main statement: what is written for a text is read off the
front of any source as that text, and holds no control character; what is written for a list of
texts is read as that list. Nothing is lost by writing either.
-/

namespace ClickGen.Code

open Lexer

/-- Reads on up to the quote that closes the literal under way. -/
def Lexer.close? : Mode → Text → Option (Text × Text)
  | _, [] => none
  | m, c :: rest =>
    match step m c with
    | some ([], next) => close? next rest
    | some ([.string s], .between) => some (s, rest)
    | _ => none

/-- Reads a literal off the front of a source: the text that it stands for, and what follows its
closing quote. -/
def readLiteral? : Text → Option (Text × Text)
  | '\'' :: rest => close? (.string []) rest
  | _ => none

lemma close?_of_silent? {m next : Mode} {s : Text} (h : silent? m s = some next) (rest : Text) :
    close? m (s ++ rest) = close? next rest := by
  induction s generalizing m with
  | nil =>
    obtain rfl : m = next := Option.some.inj h
    rfl
  | cons c s ih =>
    obtain ⟨mid, hstep, hsilent⟩ := silent?_cons.mp h
    rw [List.cons_append, close?, hstep]
    exact ih hsilent

lemma readLiteral?_append (s rest : Text) : readLiteral? (literal s ++ rest) = some (s, rest) := by
  have hclose : step (.string (s.reverse ++ [])) '\'' = some ([.string s], .between) := by
    simp [step, stepString]
  rw [literal, List.cons_append, List.append_assoc, readLiteral?,
    close?_of_silent? (silent?_escaped [] s), List.singleton_append, close?, hclose]

def isControl (c : Char) : Bool := c.toNat < 0x20 || c.toNat == 0x7F

lemma isControl_hexDigit : ∀ n < 16, isControl (hexDigit n) = false := by decide

lemma all_escapeChar (c : Char) : (escapeChar c).all (!isControl ·) := by
  unfold escapeChar
  split
  · rfl
  · rfl
  · rfl
  · rfl
  · rfl
  · split
    · next hcontrol =>
      have hlt : c.toNat < 0x80 := by
        simp only [Bool.or_eq_true, decide_eq_true_eq, beq_iff_eq] at hcontrol
        omega
      have hhigh := isControl_hexDigit (c.toNat / 16) (by omega)
      have hlow := isControl_hexDigit (c.toNat % 16) (by omega)
      have hmarks : ['\\', 'x'].all (!isControl ·) := rfl
      simp_all
    · next hplain => simpa [isControl] using hplain

lemma isControl_of_mem_literal {s : Text} {c : Char} (h : c ∈ literal s) : isControl c = false := by
  rw [literal, List.mem_cons, List.mem_append, List.mem_singleton, List.mem_flatMap] at h
  rcases h with rfl | ⟨d, -, hd⟩ | rfl
  · rfl
  · simpa using List.all_eq_true.mp (all_escapeChar d) c hd
  · rfl

lemma literal_injective : Function.Injective literal := by
  intro s t h
  have hs := readLiteral?_append s []
  rw [h, readLiteral?_append] at hs
  simpa using hs.symm

lemma listLiteral_injective : Function.Injective listLiteral := by
  intro items others h
  have hread := readList?_listLiteral items
  rw [h, readList?_listLiteral] at hread
  exact (Option.some.inj hread).symm

/-- **Literals read back.** Whatever follows it in a source, the literal of a text is read as the
text, up to its last character and no further; the scan for tokens finds it there too, unless a
third quote stands right behind an empty one. It holds no control character. The literal of a list
is read as the list. So no two texts and no two lists are written alike. -/
theorem literals_read_back (s rest : Text) (items : List Text) :
    readLiteral? (literal s ++ rest) = some (s, rest) ∧
      ((s = [] → rest.head? ≠ some '\'') →
        Lexer.run .between (literal s ++ rest) = (Lexer.run .between rest).map (.string s :: ·)) ∧
      (∀ c ∈ literal s, 0x20 ≤ c.toNat ∧ c.toNat ≠ 0x7F) ∧
      readList? (listLiteral items) = some items ∧
      Function.Injective literal ∧ Function.Injective listLiteral := by
  refine ⟨readLiteral?_append s rest, run_literal, fun c hc => ?_, readList?_listLiteral items,
    literal_injective, listLiteral_injective⟩
  simpa [isControl] using isControl_of_mem_literal hc

end ClickGen.Code
