import ClickGen.Proofs.Code.Literal

/-!
The physical lines of a source, as its tokens tell them: a character that ends a line is read as
the end of a line or refused, never as a part of a token.
-/

namespace ClickGen

namespace Code

open Lexer

lemma mem_of_start_newline {ts : List Token} {next : Mode} (h : start '\n' = some (ts, next)) :
    .newline ∈ ts := by
  obtain ⟨rfl, -⟩ : [.newline] = ts ∧ Mode.between = next := by simpa [start] using h
  simp

lemma mem_of_startAfter_newline {t : Token} {ts : List Token} {next : Mode}
    (h : startAfter t '\n' = some (ts, next)) : .newline ∈ ts := by
  obtain ⟨rfl, -⟩ : [t, .newline] = ts ∧ Mode.between = next := by
    simpa [startAfter, start] using h
  simp

lemma mem_of_step_newline {m : Mode} {ts : List Token} {next : Mode}
    (h : step m '\n' = some (ts, next)) : .newline ∈ ts := by
  cases m with
  | between => exact mem_of_start_newline h
  | name raw => exact mem_of_startAfter_newline (t := .name raw.reverse) h
  | number raw => exact mem_of_startAfter_newline (t := .number raw.reverse) h
  | point => exact mem_of_startAfter_newline (t := .mark '.') h
  | emptied => exact mem_of_startAfter_newline (t := .string []) h
  | quoted => cases h
  | string => cases h
  | escape => cases h
  | hex => cases h
  | hexDigit => cases h

lemma step_return (m : Mode) : step m '\r' = none := by
  cases m <;> rfl

/-- **Lines are told by tokens.** A source whose tokens hold no end of a line is one line. -/
lemma newline_notMem {m : Mode} {s : Text} {ts : List Token} (h : run m s = some ts)
    (hts : .newline ∉ ts) : '\n' ∉ s := by
  induction s generalizing m ts with
  | nil => simp
  | cons c s ih =>
    rw [run] at h
    split at h
    · cases h
    · next us next hstep =>
      obtain ⟨vs, hrun, rfl⟩ := Option.map_eq_some_iff.mp h
      have hvs : .newline ∉ vs := fun hv => hts (List.mem_append_right us hv)
      have hc : c ≠ '\n' := by
        rintro rfl
        exact hts (List.mem_append_left vs (mem_of_step_newline hstep))
      simpa using ⟨hc.symm, ih hrun hvs⟩

lemma return_notMem {m : Mode} {s : Text} {ts : List Token} (h : run m s = some ts) :
    '\r' ∉ s := by
  induction s generalizing m ts with
  | nil => simp
  | cons c s ih =>
    rw [run] at h
    split at h
    · cases h
    · next us next hstep =>
      obtain ⟨vs, hrun, rfl⟩ := Option.map_eq_some_iff.mp h
      have hc : c ≠ '\r' := by
        rintro rfl
        rw [step_return] at hstep
        cases hstep
      simpa using ⟨hc.symm, ih hrun⟩

lemma Reads.newline_notMem {v : Text} {ts : List Token} (h : Reads v ts) (hts : .newline ∉ ts) :
    '\n' ∉ v := by
  have hread := h ',' [] rfl
  have hcomma : run .between [','] = some [.mark ','] := rfl
  rw [hcomma, Option.map_some] at hread
  have hline := Code.newline_notMem hread (by simpa using hts)
  simp_all

end Code

end ClickGen
