import ClickGen.Text.Basic

/-!
UTF-8 as bytes. Reading is strict, saying how many bytes were valid before the first fault, or
lenient, putting the replacement character for each ill-formed run of bytes.
-/

namespace ClickGen

abbrev Bytes := List UInt8

namespace Text

def toUtf8 (s : Text) : Bytes := s.flatMap String.utf8EncodeChar

/-- The smallest and largest byte that may follow the first byte of a longer character, and the
number of continuation bytes in all. -/
def following (b : UInt8) : Option (UInt8 × UInt8 × Nat) :=
  if 0xC2 ≤ b && b ≤ 0xDF then some (0x80, 0xBF, 1)
  else if b == 0xE0 then some (0xA0, 0xBF, 2)
  else if b == 0xED then some (0x80, 0x9F, 2)
  else if 0xE1 ≤ b && b ≤ 0xEF then some (0x80, 0xBF, 2)
  else if b == 0xF0 then some (0x90, 0xBF, 3)
  else if 0xF1 ≤ b && b ≤ 0xF3 then some (0x80, 0xBF, 3)
  else if b == 0xF4 then some (0x80, 0x8F, 3)
  else none

/-- Up to `n` further continuation bytes, after `seen` bytes that give `code`. -/
def continuation (code seen : Nat) : Nat → Bytes → Option Char × Nat
  | 0, _ => (some (Char.ofNat code), seen)
  | _ + 1, [] => (none, seen)
  | n + 1, b :: rest =>
    if 0x80 ≤ b && b ≤ 0xBF then
      continuation (code * 64 + (b.toNat - 0x80)) (seen + 1) n rest
    else (none, seen)

/-- The character that the bytes begin with, and how many bytes it takes; without a character,
how many bytes form the ill-formed run. -/
def charAt (b : UInt8) (rest : Bytes) : Option Char × Nat :=
  if b < 0x80 then (some (Char.ofNat b.toNat), 1)
  else
    match following b, rest with
    | none, _ => (none, 1)
    | some _, [] => (none, 1)
    | some (lo, hi, n), c :: rest =>
      if lo ≤ c && c ≤ hi then
        let head := (b.toNat % Nat.pow 2 (6 - n)) * 64 + (c.toNat - 0x80)
        continuation head 2 (n - 1) rest
      else (none, 1)

/-- Reads bytes as text; a fault is told by the number of bytes that were valid before it.
`skip` bytes belong to the character before. -/
def decodeFrom (position skip : Nat) : Bytes → Except Nat Text
  | [] => .ok []
  | b :: rest =>
    match skip with
    | skip + 1 => decodeFrom (position + 1) skip rest
    | 0 =>
      match charAt b rest with
      | (some c, size) => (decodeFrom (position + 1) (size - 1) rest).map (c :: ·)
      | (none, _) => .error position

/-- Reads bytes as text, or says how many bytes were valid before the first fault. -/
def ofUtf8 (bytes : Bytes) : Except Nat Text := decodeFrom 0 0 bytes

theorem decodeFrom_ascii {s : Text} (h : ∀ c ∈ s, c.toNat < 0x80) (position : Nat) :
    decodeFrom position 0 (toUtf8 s) = .ok s := by
  induction s generalizing position with
  | nil => rfl
  | cons c s ih =>
    obtain ⟨hc, hs⟩ := List.forall_mem_cons.mp h
    have hencode : String.utf8EncodeChar c = [UInt8.ofNat c.toNat] :=
      if_pos (Nat.le_of_lt_succ hc)
    have hbyte : (UInt8.ofNat c.toNat).toNat = c.toNat :=
      UInt8.toNat_ofNat_of_lt' (Nat.lt_trans hc (by decide))
    have hlow : UInt8.ofNat c.toNat < 0x80 := by
      rw [UInt8.lt_iff_toNat_lt, hbyte]
      exact hc
    have hchar (rest : Bytes) : charAt (UInt8.ofNat c.toNat) rest = (some c, 1) := by
      unfold charAt
      rw [if_pos hlow, hbyte, Char.ofNat_toNat]
    rw [toUtf8, List.flatMap_cons, hencode, List.singleton_append, decodeFrom, hchar]
    simp only
    rw [← toUtf8, ih hs]
    rfl

/-- Text in ASCII is read from its bytes. -/
theorem ofUtf8_ascii {s : Text} (h : ∀ c ∈ s, c.toNat < 0x80) : ofUtf8 (toUtf8 s) = .ok s :=
  decodeFrom_ascii h 0

def lenientFrom (skip : Nat) : Bytes → Text
  | [] => []
  | b :: rest =>
    match skip with
    | skip + 1 => lenientFrom skip rest
    | 0 =>
      let (c, size) := charAt b rest
      c.getD '\uFFFD' :: lenientFrom (size - 1) rest

/-- Reads bytes as text, with the replacement character for each ill-formed run. -/
def ofUtf8Lenient (bytes : Bytes) : Text := lenientFrom 0 bytes

end Text

end ClickGen
