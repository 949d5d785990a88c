import ClickGen.Url.Percent
import Mathlib.Data.List.Basic
import Mathlib.Tactic.Lemma

/-!
Encoding what is encoded. A byte is written with characters that no part of a URL encodes, so that
encoding a text for the same part again leaves it as it is.
-/

namespace ClickGen.Url

variable {encodes : Char → Bool} {s : Text} {c : Char}

/-- A character of ASCII with a shape of its own. -/
def IsVisible (c : Char) : Prop := 0x20 < c.toNat ∧ c.toNat < 0x7F

lemma isVisible_of_all (h : s.all fun c => 0x20 < c.toNat && c.toNat < 0x7F) :
    ∀ c ∈ s, IsVisible c := by
  simpa [IsVisible] using h

lemma isVisible_of_kept (halways : ∀ d, encodesAlways d → encodes d) (hspace : encodes ' ')
    (h : encodes c = false) : IsVisible c := by
  have hne : c.toNat ≠ 0x20 := by
    intro heq
    obtain rfl : c = ' ' := Char.toNat_inj.mp heq
    rw [hspace] at h
    cases h
  have hkept : ¬ encodesAlways c := fun hc => by simp [halways c hc] at h
  simp only [encodesAlways, isControl, Bool.or_eq_true, decide_eq_true_eq, beq_iff_eq,
    not_or] at hkept
  obtain ⟨⟨hlow, hdelete⟩, hhigh⟩ := hkept
  exact ⟨by omega, by omega⟩

def codeCharacters : Text := "%0123456789ABCDEF"

lemma hexDigit_mem_codeCharacters : ∀ n < 16, hexDigit n ∈ codeCharacters := by decide

lemma mem_codeCharacters {b : UInt8} (h : c ∈ encodeByte b) : c ∈ codeCharacters := by
  have hb : b.toNat < 256 := b.toNat_lt
  simp only [encodeByte, List.mem_cons, List.not_mem_nil, or_false] at h
  rcases h with rfl | rfl | rfl
  · decide
  · exact hexDigit_mem_codeCharacters _ (by omega)
  · exact hexDigit_mem_codeCharacters _ (by omega)

lemma mem_percentEncode (h : c ∈ percentEncode encodes s) :
    c ∈ codeCharacters ∨ c ∈ s ∧ encodes c = false := by
  obtain ⟨d, hd, hc⟩ := List.mem_flatMap.mp h
  split at hc
  · obtain ⟨b, -, hb⟩ := List.mem_flatMap.mp hc
    exact .inl (mem_codeCharacters hb)
  · next hkept =>
    obtain rfl := List.mem_singleton.mp hc
    exact .inr ⟨hd, by simpa using hkept⟩

lemma percentEncode_eq_self (h : ∀ c ∈ s, encodes c = false) : percentEncode encodes s = s := by
  rw [percentEncode, List.flatMap_congr fun c hc => if_neg (by simp [h c hc])]
  simp

lemma kept_of_mem_percentEncode (hcode : codeCharacters.all (!encodes ·))
    (h : c ∈ percentEncode encodes s) : encodes c = false := by
  rcases mem_percentEncode h with hc | ⟨-, hc⟩
  · simpa using List.all_eq_true.mp hcode c hc
  · exact hc

lemma percentEncode_percentEncode (hcode : codeCharacters.all (!encodes ·)) (s : Text) :
    percentEncode encodes (percentEncode encodes s) = percentEncode encodes s :=
  percentEncode_eq_self fun _ hc => kept_of_mem_percentEncode hcode hc

end ClickGen.Url
