import ClickGen.Proofs.Except
import ClickGen.Xml.Tag
import Mathlib.Tactic.SplitIfs

/-!
What one character does to a reader of attributes. It goes on in another state, ends a value, or is
refused; what holds of all that is read is shown over these three cases.
-/

namespace ClickGen.Xml

/-- What a character makes of a state that it does not end an attribute in. -/
inductive AttributeState.Goes (seen : SeenKeys) (c : Char) :
    AttributeState → SeenKeys → AttributeState → Prop where
  | gap (hspace : isSpace c) : Goes seen c .between seen .between
  | first (position : Nat) (hspace : isSpace c = false) :
    Goes seen c .between seen (.key position [c])
  | keyMore (start : Nat) (raw : Text) (hsign : c ≠ '=') (hspace : isSpace c = false) :
    Goes seen c (.key start raw) seen (.key start (c :: raw))
  | keyEnd (start : Nat) (raw : Text) (hspace : isSpace c) :
    Goes seen c (.key start raw) seen (.afterKey start raw.reverse)
  | keyEquals (start : Nat) {raw : Text} (hsign : c = '=') (hnew : seen.lookup raw.reverse = none) :
    Goes seen c (.key start raw) ((raw.reverse, start) :: seen) (.beforeValue raw.reverse)
  | afterGap (start : Nat) (key : Text) (hspace : isSpace c) :
    Goes seen c (.afterKey start key) seen (.afterKey start key)
  | afterEquals (start : Nat) {key : Text} (hsign : c = '=') (hnew : seen.lookup key = none) :
    Goes seen c (.afterKey start key) ((key, start) :: seen) (.beforeValue key)
  | valueGap (key : Text) (hspace : isSpace c) :
    Goes seen c (.beforeValue key) seen (.beforeValue key)
  | quote (key : Text) (hquote : c = '"' ∨ c = '\'') :
    Goes seen c (.beforeValue key) seen (.value key c [])
  | valueMore (key : Text) {quote : Char} (raw : Text) (hquote : c ≠ quote) :
    Goes seen c (.value key quote raw) seen (.value key quote (c :: raw))

lemma equalsAfter_cases (seen : SeenKeys) (start : Nat) (key : Text) :
    (seen.lookup key = none ∧ equalsAfter seen start key = .ok ((key, start) :: seen,
      .beforeValue key)) ∨ ∃ cause, equalsAfter seen start key = .error (.attribute cause) := by
  unfold equalsAfter
  cases h : seen.lookup key with
  | none => exact .inl ⟨rfl, rfl⟩
  | some previous => exact .inr ⟨_, rfl⟩

lemma attributesFrom_cons (size position : Nat) (seen : SeenKeys) (state : AttributeState)
    (c : Char) (rest : Text) :
    (∃ seen' state', state.Goes seen c seen' state' ∧
      attributesFrom size position seen state (c :: rest) =
        attributesFrom size (position + c.utf8Size) seen' state' rest) ∨
    (∃ key raw, state = .value key c raw ∧
      attributesFrom size position seen state (c :: rest) = (do
        let value ← (expand raw.reverse).mapError Fault.reference
        let more ← attributesFrom size (position + c.utf8Size) seen .between rest
        return (key, value) :: more)) ∨
    ∃ cause, attributesFrom size position seen state (c :: rest) = .error (.attribute cause) := by
  cases state with
  | between =>
    rw [attributesFrom]
    split_ifs with hspace
    · exact .inl ⟨_, _, .gap hspace, rfl⟩
    · exact .inl ⟨_, _, .first position (by simpa using hspace), rfl⟩
  | key start raw =>
    rw [attributesFrom]
    split_ifs with hsign hspace
    · rcases equalsAfter_cases seen start raw.reverse with ⟨hnew, hequals⟩ | ⟨cause, hequals⟩
      · rw [hequals]
        exact .inl ⟨_, _, .keyEquals start hsign hnew, rfl⟩
      · rw [hequals]
        exact .inr (.inr ⟨cause, rfl⟩)
    · exact .inl ⟨_, _, .keyEnd start raw hspace, rfl⟩
    · exact .inl ⟨_, _, .keyMore start raw hsign (by simpa using hspace), rfl⟩
  | afterKey start key =>
    rw [attributesFrom]
    split_ifs with hsign hspace
    · rcases equalsAfter_cases seen start key with ⟨hnew, hequals⟩ | ⟨cause, hequals⟩
      · rw [hequals]
        exact .inl ⟨_, _, .afterEquals start hsign hnew, rfl⟩
      · rw [hequals]
        exact .inr (.inr ⟨cause, rfl⟩)
    · exact .inl ⟨_, _, .afterGap start key hspace, rfl⟩
    · exact .inr (.inr ⟨_, rfl⟩)
  | beforeValue key =>
    rw [attributesFrom]
    split_ifs with hspace hquote
    · exact .inl ⟨_, _, .valueGap key hspace, rfl⟩
    · exact .inl ⟨_, _, .quote key hquote, rfl⟩
    · exact .inr (.inr ⟨_, rfl⟩)
  | value key quote raw =>
    rw [attributesFrom]
    split_ifs with hquote
    · exact .inr (.inl ⟨key, raw, hquote ▸ rfl, rfl⟩)
    · exact .inl ⟨_, _, .valueMore key raw hquote, rfl⟩

end ClickGen.Xml
