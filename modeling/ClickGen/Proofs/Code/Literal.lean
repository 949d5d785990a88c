import ClickGen.Code.Literal
import ClickGen.Proofs.Code.Token
import ClickGen.Text.Numeral

/-!
What is written as Python source is read back as tokens.

`Reads v ts` says that the source `v` is read as the tokens `ts` wherever a mark follows it; the
mark is needed because a name or a numeral ends only where the next token begins. Names, numerals,
literals and lists of literals all read back, whatever characters a literal stands for.
-/

namespace ClickGen.Code

open Lexer

/-- The source is read as the tokens, before any mark. -/
def Reads (v : Text) (ts : List Token) : Prop :=
  ∀ c rest, isMark c → run .between (v ++ c :: rest) = (run .between (c :: rest)).map (ts ++ ·)

lemma run_silent {m next : Mode} {c : Char} (h : step m c = some ([], next)) (rest : Text) :
    run m (c :: rest) = run next rest := by
  simp [run, h]

lemma start_mark {c : Char} (h : isMark c) : start c = some ([.mark c], .between) := by
  simp only [isMark, Bool.or_eq_true, beq_iff_eq] at h
  rcases h with (((((rfl | rfl) | rfl) | rfl) | rfl) | rfl) | rfl <;> rfl

lemma startAfter_mark (t : Token) {c : Char} (h : isMark c) :
    startAfter t c = some ([t, .mark c], .between) := by
  simp [startAfter, start_mark h]

lemma run_mark {c : Char} (h : isMark c) (rest : Text) :
    run .between (c :: rest) = (run .between rest).map (.mark c :: ·) := by
  simp [run, step, start_mark h]

@[simp] lemma run_blank (rest : Text) : run .between (' ' :: rest) = run .between rest := by
  simp [run, step, start]

@[simp] lemma run_newline (rest : Text) :
    run .between ('\n' :: rest) = (run .between rest).map (.newline :: ·) := by
  simp [run, step, start]

lemma run_ended {m : Mode} {t : Token} {c : Char} (h : isMark c)
    (hm : step m c = startAfter t c) (rest : Text) :
    run m (c :: rest) = (run .between (c :: rest)).map (t :: ·) := by
  have hs : step m c = some ([t, .mark c], .between) := by rw [hm, startAfter_mark t h]
  rw [run_mark h, run, hs]
  simp [Function.comp_def]

lemma mark_apart {c : Char} (h : isMark c) :
    continuesIdentifier c = false ∧ startsIdentifier c = false ∧ isNumeral c = false ∧
      c ≠ '\'' := by
  simp only [isMark, Bool.or_eq_true, beq_iff_eq] at h
  rcases h with (((((rfl | rfl) | rfl) | rfl) | rfl) | rfl) | rfl <;> decide

/-! ### Putting readings together -/

lemma reads_nil : Reads [] [] := by
  intro c rest _
  simp

lemma Reads.blank {v : Text} {ts : List Token} (h : Reads v ts) : Reads (' ' :: v) ts := by
  intro c rest hc
  rw [List.cons_append, run_blank, h c rest hc]

lemma Reads.mark {v : Text} {ts : List Token} {m : Char} (hm : isMark m) (h : Reads v ts) :
    Reads (m :: v) (.mark m :: ts) := by
  intro c rest hc
  rw [List.cons_append, run_mark hm, h c rest hc]
  simp [Function.comp_def]

lemma Reads.append {u v : Text} {ts us : List Token} {m : Char} (hu : Reads u ts)
    (hm : isMark m) (hv : Reads v us) : Reads (u ++ m :: v) (ts ++ .mark m :: us) := by
  intro c rest hc
  have h : run .between (m :: (v ++ c :: rest)) =
      (run .between (c :: rest)).map (.mark m :: us ++ ·) := by
    simpa using hv.mark hm c rest hc
  rw [List.append_assoc, List.cons_append, hu m _ hm, h]
  simp [Function.comp_def]

lemma Reads.call {f v : Text} {ts us : List Token} (hf : Reads f ts) (hv : Reads v us) :
    Reads (f ++ '(' :: (v ++ [')'])) (ts ++ .mark '(' :: (us ++ [.mark ')'])) :=
  hf.append rfl (hv.append rfl reads_nil)

def isWord : Text → Bool
  | [] => false
  | c :: rest => startsIdentifier c && rest.all continuesIdentifier

lemma run_name (raw w rest : Text) (h : w.all continuesIdentifier) :
    run (.name raw) (w ++ rest) = run (.name (w.reverse ++ raw)) rest := by
  induction w generalizing raw with
  | nil => rfl
  | cons c w ih =>
    simp only [List.all_cons, Bool.and_eq_true] at h
    have hs : step (.name raw) c = some ([], .name (c :: raw)) := by simp [step, h.1]
    rw [List.cons_append, run_silent hs, ih (c :: raw) h.2]
    simp

lemma digit_not_letter {c : Char} (h : startsIdentifier c) : Text.isDigit c = false := by
  by_contra hn
  simp only [startsIdentifier, Text.isAsciiAlpha, Text.isDigit, Bool.not_eq_false, Bool.or_eq_true,
    Bool.and_eq_true, decide_eq_true_eq, beq_iff_eq, Char.le_def, UInt32.le_iff_toNat_le] at h hn
  rcases h with h | rfl
  · simp at h hn
    omega
  · simp at hn

lemma start_letter {c : Char} (h : startsIdentifier c) : start c = some ([], .name [c]) := by
  have hne : ∀ d, startsIdentifier d = false → c ≠ d := by
    rintro d hd rfl
    simp [h] at hd
  simp [start, h, hne ' ' rfl, hne '\n' rfl, hne '\'' rfl, hne '.' rfl]

lemma run_word {w : Text} (h : isWord w) (rest : Text) :
    run .between (w ++ rest) = run (.name w.reverse) rest := by
  cases w with
  | nil => simp [isWord] at h
  | cons c w =>
    simp only [isWord, Bool.and_eq_true] at h
    rw [List.cons_append, run_silent (m := .between) (start_letter h.1), run_name [c] w rest h.2]
    simp

lemma reads_word {w : Text} (h : isWord w) : Reads w [.name w] := by
  intro c rest hc
  obtain ⟨hcont, -, -, hquote⟩ := mark_apart hc
  rw [run_word h, run_ended hc (t := .name w)]
  · simp
  · simp [step, hcont, hquote]

lemma reads_dotted {w v : Text} (hw : isWord w) (hv : isWord v) :
    Reads (w ++ '.' :: v) [.name w, .mark '.', .name v] := by
  intro c rest hc
  have hpoint : step (.name w.reverse) '.' = some ([.name w], .point) := by
    have : continuesIdentifier '.' = false := by decide
    simp [step, this, startAfter, start]
  cases v with
  | nil => simp [isWord] at hv
  | cons d v =>
    have hd : startsIdentifier d := by simp_all [isWord]
    have hafter : step .point d = some ([.mark '.'], .name [d]) := by
      simp [step, digit_not_letter hd, startAfter, start_letter hd]
    have hword := reads_word hv c rest hc
    rw [List.cons_append, run_silent (m := .between) (start_letter hd)] at hword
    rw [List.append_assoc, run_word hw, List.cons_append, run, hpoint, List.cons_append]
    simp only [run, hafter, hword]
    simp [Function.comp_def]

/-- A numeral begins with a digit, a sign, or a point before a digit. -/
def startsNumeral : Text → Bool
  | [] => false
  | c :: rest =>
    if c = '.' then rest.head?.any Text.isDigit else Text.isDigit c || c == '+' || c == '-'

def isBare (n : Text) : Bool := startsNumeral n && n.all isNumeral

lemma run_number (raw w rest : Text) (h : w.all isNumeral) :
    run (.number raw) (w ++ rest) = run (.number (w.reverse ++ raw)) rest := by
  induction w generalizing raw with
  | nil => rfl
  | cons c w ih =>
    simp only [List.all_cons, Bool.and_eq_true] at h
    have hs : step (.number raw) c = some ([], .number (c :: raw)) := by simp [step, h.1]
    rw [List.cons_append, run_silent hs, ih (c :: raw) h.2]
    simp

lemma start_digit {c : Char} (h : Text.isDigit c || c == '+' || c == '-') :
    start c = some ([], .number [c]) := by
  have hne : ∀ d, (Text.isDigit d || d == '+' || d == '-') = false → c ≠ d := by
    rintro d hd rfl
    simp [h] at hd
  have hletter : startsIdentifier c = false := by
    by_contra hn
    simp only [Bool.not_eq_false] at hn
    have hd := digit_not_letter hn
    have hsign : c ≠ '+' ∧ c ≠ '-' := by
      constructor <;> (rintro rfl; simp [startsIdentifier, Text.isAsciiAlpha] at hn)
    simp [hd, hsign] at h
  simp [start, h, hletter, hne ' ' rfl, hne '\n' rfl, hne '\'' rfl, hne '.' rfl]

lemma run_bare {n : Text} (h : isBare n) (rest : Text) :
    run .between (n ++ rest) = run (.number n.reverse) rest := by
  rw [isBare, Bool.and_eq_true] at h
  obtain ⟨hstart, hall⟩ := h
  cases n with
  | nil => simp [startsNumeral] at hstart
  | cons c n =>
    simp only [List.all_cons, Bool.and_eq_true] at hall
    rw [startsNumeral] at hstart
    split at hstart
    · next hc =>
      subst hc
      cases n with
      | nil => simp at hstart
      | cons d n =>
        have hd : Text.isDigit d := by simpa using hstart
        have hopen : start '.' = some ([], .point) := rfl
        have hpoint : step .point d = some ([], .number [d, '.']) := by simp [step, hd]
        have hn : n.all isNumeral := by simp_all
        rw [List.cons_append, List.cons_append, run_silent (m := .between) hopen,
          run_silent hpoint, run_number [d, '.'] n rest hn]
        simp
    · rw [List.cons_append, run_silent (m := .between) (start_digit hstart),
        run_number [c] n rest hall.2]
      simp

lemma reads_bare {n : Text} (h : isBare n) : Reads n [.number n] := by
  intro c rest hc
  obtain ⟨-, hletter, hnumeral, hquote⟩ := mark_apart hc
  rw [run_bare h, run_ended hc (t := .number n)]
  · simp
  · simp [step, hletter, hnumeral, hquote]

/-! ### Literals -/

/-- Where the scan stands after a text that ends no token. -/
def Lexer.silent? : Mode → Text → Option Mode
  | m, [] => some m
  | m, c :: s =>
    match step m c with
    | some ([], next) => silent? next s
    | _ => none

lemma silent?_cons {m next : Mode} {c : Char} {s : Text} :
    silent? m (c :: s) = some next ↔
      ∃ mid, step m c = some ([], mid) ∧ silent? mid s = some next := by
  rw [silent?]
  split
  · next mid hstep => simp [hstep]
  · next hstep =>
    constructor
    · intro h
      cases h
    · rintro ⟨mid, hsilent, -⟩
      exact absurd hsilent (hstep mid)

lemma silent?_append {m mid next : Mode} {s t : Text} (hs : silent? m s = some mid)
    (ht : silent? mid t = some next) : silent? m (s ++ t) = some next := by
  induction s generalizing m with
  | nil =>
    obtain rfl : m = mid := Option.some.inj hs
    exact ht
  | cons c s ih =>
    obtain ⟨after, hstep, hsilent⟩ := silent?_cons.mp hs
    exact silent?_cons.mpr ⟨after, hstep, ih hsilent⟩

lemma run_of_silent? {m next : Mode} {s : Text} (h : silent? m s = some next) (rest : Text) :
    run m (s ++ rest) = run next rest := by
  induction s generalizing m with
  | nil =>
    obtain rfl : m = next := Option.some.inj h
    rfl
  | cons c s ih =>
    obtain ⟨mid, hstep, hsilent⟩ := silent?_cons.mp h
    rw [List.cons_append, run_silent hstep, ih hsilent]

lemma hexValue_hexDigit : ∀ n < 16, Text.hexValue? (hexDigit n) = some n := by decide

lemma silent?_escapeChar (raw : Text) (c : Char) :
    silent? (.string raw) (escapeChar c) = some (.string (c :: raw)) := by
  unfold escapeChar
  split
  · rfl
  · rfl
  · rfl
  · rfl
  · rfl
  · next hslash hquote hline hreturn _ =>
    split
    · next hcontrol =>
      have hlt : c.toNat < 0x80 := by
        simp only [Bool.or_eq_true, decide_eq_true_eq, beq_iff_eq] at hcontrol
        omega
      have hhigh := hexValue_hexDigit (c.toNat / 16) (by omega)
      have hlow := hexValue_hexDigit (c.toNat % 16) (by omega)
      have hc : Char.ofNat (c.toNat / 16 * 16 + c.toNat % 16) = c := by
        rw [show c.toNat / 16 * 16 + c.toNat % 16 = c.toNat by omega]
        exact Char.ofNat_toNat c
      have hfirst : step (.hex raw) (hexDigit (c.toNat / 16)) =
          some ([], .hexDigit raw (c.toNat / 16)) := by
        simp [step, hhigh]
      have hsecond : step (.hexDigit raw (c.toNat / 16)) (hexDigit (c.toNat % 16)) =
          some ([], .string (c :: raw)) := by
        simp [step, hlow, hc]
      exact silent?_cons.mpr ⟨.escape raw, rfl, silent?_cons.mpr ⟨.hex raw, rfl,
        silent?_cons.mpr ⟨_, hfirst, silent?_cons.mpr ⟨_, hsecond, rfl⟩⟩⟩⟩
    · next hplain =>
      have hends : endsSource c = false := by
        have h0 : c ≠ '\x00' := by
          rintro rfl
          simp at hplain
        simp only [endsSource, Bool.or_eq_false_iff, beq_eq_false_iff_ne]
        exact ⟨⟨hline, hreturn⟩, h0⟩
      have hstep : step (.string raw) c = some ([], .string (c :: raw)) := by
        have h1 : c ≠ '\'' := hquote
        have h2 : c ≠ '\\' := hslash
        simp [step, stepString, h1, h2, hends]
      exact silent?_cons.mpr ⟨_, hstep, rfl⟩

lemma silent?_escaped (raw s : Text) :
    silent? (.string raw) (s.flatMap escapeChar) = some (.string (s.reverse ++ raw)) := by
  induction s generalizing raw with
  | nil => rfl
  | cons c s ih =>
    have hrest := silent?_append (silent?_escapeChar raw c) (ih (c :: raw))
    simpa using hrest

/-- The first character written for a character is no quote, so two quotes never meet inside a
literal. -/
lemma escapeChar_head (c : Char) : ∃ d more, escapeChar c = d :: more ∧ d ≠ '\'' := by
  unfold escapeChar
  split
  · exact ⟨_, _, rfl, by decide⟩
  · exact ⟨_, _, rfl, by decide⟩
  · exact ⟨_, _, rfl, by decide⟩
  · exact ⟨_, _, rfl, by decide⟩
  · exact ⟨_, _, rfl, by decide⟩
  · next hquote _ _ _ =>
    split
    · exact ⟨_, _, rfl, by decide⟩
    · exact ⟨c, [], rfl, hquote⟩

lemma run_quoted {c : Char} (h : c ≠ '\'') (rest : Text) :
    run .quoted (c :: rest) = run (.string []) (c :: rest) := by
  have hs : step .quoted c = step (.string []) c := by simp [step, h]
  rw [run, hs, run]

lemma run_emptied {rest : Text} (h : rest.head? ≠ some '\'') :
    run .emptied rest = (run .between rest).map (.string [] :: ·) := by
  cases rest with
  | nil => rfl
  | cons c rest =>
    have hc : c ≠ '\'' := by simpa using h
    have hstep : step .emptied c = startAfter (.string []) c := by simp [step, hc]
    rw [run, run, hstep, startAfter]
    simp only [step]
    cases start c with
    | none => rfl
    | some next => simp [Function.comp_def]

/-- **A literal reads back** as the text that it was written for, whatever follows it; only a quote
right behind an empty literal would make three quotes of the two. -/
lemma run_literal {s rest : Text} (h : s = [] → rest.head? ≠ some '\'') :
    run .between (literal s ++ rest) = (run .between rest).map (.string s :: ·) := by
  have hopen : ∀ t, run .between ('\'' :: t) = run .quoted t := fun t => run_silent rfl t
  rw [literal, List.cons_append, hopen, List.append_assoc]
  cases s with
  | nil =>
    have hclose : step .quoted '\'' = some ([], .emptied) := rfl
    exact (run_silent hclose rest).trans (run_emptied (h rfl))
  | cons c s =>
    obtain ⟨x, more, hx, hne⟩ := escapeChar_head c
    have hstart : ∀ t, run .quoted ((c :: s).flatMap escapeChar ++ t) =
        run (.string []) ((c :: s).flatMap escapeChar ++ t) := by
      intro t
      rw [List.flatMap_cons, hx, List.append_assoc, List.cons_append, run_quoted hne]
    have hclose : step (.string ((c :: s).reverse ++ [])) '\'' =
        some ([.string (c :: s)], .between) := by
      simp [step, stepString]
    rw [hstart, run_of_silent? (silent?_escaped [] (c :: s)), List.singleton_append, run, hclose]
    rfl

lemma reads_literal (s : Text) : Reads (literal s) [.string s] := by
  intro c rest hc
  have hquote : c ≠ '\'' := (mark_apart hc).2.2.2
  exact run_literal fun _ => by simpa using hquote

lemma tokens?_literal (s : Text) : tokens? (literal s) = some [.string s] := by
  have h := @run_literal s [] fun _ => by simp
  simpa [tokens?, run, finish] using h

def listTokens (items : List Text) : List Token :=
  .mark '[' :: ((items.map Token.string).intersperse (.mark ',') ++ [.mark ']'])

lemma reads_items (items : List Text) :
    Reads (List.intercalate ", " (items.map literal))
      ((items.map Token.string).intersperse (.mark ',')) := by
  induction items with
  | nil => exact reads_nil
  | cons s items ih =>
    cases items with
    | nil => simpa using reads_literal s
    | cons t items =>
      have hrest := (reads_literal s).append (m := ',') rfl ih.blank
      simpa [List.intercalate_cons_cons, List.append_assoc] using hrest

lemma reads_listLiteral (items : List Text) : Reads (listLiteral items) (listTokens items) := by
  have h := (reads_items items).append (m := ']') rfl reads_nil
  exact h.mark (m := '[') rfl

end ClickGen.Code
