import ClickGen.Proofs.Xml.Keys

/-!
What stands in a tag whose attributes can be read. Behind the name, each attribute is a key, an
equals sign and a value in quotes, with white space around each of them. The attributes are the
keys and the values as they follow one another, with the references in each value replaced, and a
tag that is written so is read exactly when no key is in it twice.

One direction goes through the states of the reader of attributes, of which `Awaits` says what has
to come in them. The other reads a tag part by part.
-/

namespace ClickGen.Xml

def IsGap (s : Text) : Prop := ∀ c ∈ s, isSpace c

def IsQuote (c : Char) : Prop := c = '"' ∨ c = '\''

/-- What a key goes on with behind its first character, which alone may be an equals sign. -/
def IsKeyRest (s : Text) : Prop := ∀ c ∈ s, c ≠ '=' ∧ isSpace c = false

/-- The part of a tag behind its name, with the attributes that it spells. -/
inductive Spells : Text → List (Text × Text) → Prop where
  | done {gap : Text} (hgap : IsGap gap) : Spells gap []
  | entry {gap key before after raw value rest : Text} {first quote : Char}
      {attributes : List (Text × Text)} (hgap : IsGap gap) (hfirst : isSpace first = false)
      (hkey : IsKeyRest key) (hbefore : IsGap before) (hafter : IsGap after)
      (hquote : IsQuote quote) (hraw : quote ∉ raw) (hvalue : expand raw = .ok value)
      (hrest : Spells rest attributes) :
    Spells
      (gap ++ (first :: (key ++ (before ++ '=' :: (after ++ quote :: (raw ++ quote :: rest))))))
      ((first :: key, value) :: attributes)

lemma isGap_nil : IsGap [] := by simp [IsGap]

lemma IsGap.cons {c : Char} {gap : Text} (hc : isSpace c) (h : IsGap gap) : IsGap (c :: gap) :=
  List.forall_mem_cons.mpr ⟨hc, h⟩

lemma Spells.space {c : Char} {s : Text} {attributes : List (Text × Text)} (hc : isSpace c)
    (h : Spells s attributes) : Spells (c :: s) attributes := by
  cases h with
  | done hgap => exact .done (hgap.cons hc)
  | entry hgap hfirst hkey hbefore hafter hquote hraw hvalue hrest =>
    rw [← List.cons_append]
    exact .entry (hgap.cons hc) hfirst hkey hbefore hafter hquote hraw hvalue hrest

/-- What comes behind the opening quote of a value. -/
def AwaitsEnd (key : Text) (quote : Char) (read s : Text)
    (attributes : List (Text × Text)) : Prop :=
  ∃ raw rest value more, s = raw ++ quote :: rest ∧ quote ∉ raw ∧
    expand (read ++ raw) = .ok value ∧ Spells rest more ∧ attributes = (key, value) :: more

/-- What comes behind an equals sign. -/
def AwaitsValue (key s : Text) (attributes : List (Text × Text)) : Prop :=
  ∃ after quote rest, s = after ++ quote :: rest ∧ IsGap after ∧ IsQuote quote ∧
    AwaitsEnd key quote [] rest attributes

/-- What comes behind a key. -/
def AwaitsEquals (key s : Text) (attributes : List (Text × Text)) : Prop :=
  ∃ before rest, s = before ++ '=' :: rest ∧ IsGap before ∧ AwaitsValue key rest attributes

/-- What comes inside a key. -/
def AwaitsKey (read s : Text) (attributes : List (Text × Text)) : Prop :=
  ∃ key rest, s = key ++ rest ∧ IsKeyRest key ∧ AwaitsEquals (read ++ key) rest attributes

/-- What has to come for the attributes to be read from a state on. -/
def AttributeState.Awaits : AttributeState → Text → List (Text × Text) → Prop
  | .between => Spells
  | .key _ raw => AwaitsKey raw.reverse
  | .afterKey _ name => AwaitsEquals name
  | .beforeValue name => AwaitsValue name
  | .value name quote raw => AwaitsEnd name quote raw.reverse

section Awaits

variable {c quote : Char} {key read s : Text} {attributes : List (Text × Text)}

lemma awaitsEnd_close {rest value : Text} {more : List (Text × Text)}
    (hvalue : expand read = .ok value) (h : Spells rest more) :
    AwaitsEnd key quote read (quote :: rest) ((key, value) :: more) :=
  ⟨[], rest, value, more, rfl, List.not_mem_nil, by rwa [List.append_nil], h, rfl⟩

lemma awaitsEnd_more (hc : c ≠ quote) (h : AwaitsEnd key quote (read ++ [c]) s attributes) :
    AwaitsEnd key quote read (c :: s) attributes := by
  obtain ⟨raw, rest, value, more, rfl, hraw, hvalue, hmore, rfl⟩ := h
  rw [List.append_assoc] at hvalue
  have hnot : quote ∉ c :: raw := List.not_mem_cons_of_ne_of_not_mem (Ne.symm hc) hraw
  exact ⟨c :: raw, rest, value, more, rfl, hnot, hvalue, hmore, rfl⟩

lemma awaitsValue_quote (hc : IsQuote c) (h : AwaitsEnd key c [] s attributes) :
    AwaitsValue key (c :: s) attributes :=
  ⟨[], c, s, rfl, isGap_nil, hc, h⟩

lemma awaitsValue_space (hc : isSpace c) (h : AwaitsValue key s attributes) :
    AwaitsValue key (c :: s) attributes := by
  obtain ⟨after, quote, rest, rfl, hafter, hquote, h⟩ := h
  exact ⟨c :: after, quote, rest, rfl, hafter.cons hc, hquote, h⟩

lemma awaitsEquals_sign (h : AwaitsValue key s attributes) :
    AwaitsEquals key ('=' :: s) attributes :=
  ⟨[], s, rfl, isGap_nil, h⟩

lemma awaitsEquals_space (hc : isSpace c) (h : AwaitsEquals key s attributes) :
    AwaitsEquals key (c :: s) attributes := by
  obtain ⟨before, rest, rfl, hbefore, h⟩ := h
  exact ⟨c :: before, rest, rfl, hbefore.cons hc, h⟩

lemma awaitsKey_end (h : AwaitsEquals read s attributes) : AwaitsKey read s attributes :=
  ⟨[], s, rfl, by simp [IsKeyRest], by rwa [List.append_nil]⟩

lemma awaitsKey_more (hequals : c ≠ '=') (hc : isSpace c = false)
    (h : AwaitsKey (read ++ [c]) s attributes) : AwaitsKey read (c :: s) attributes := by
  obtain ⟨key, rest, rfl, hkey, h⟩ := h
  rw [List.append_assoc] at h
  exact ⟨c :: key, rest, rfl, List.forall_mem_cons.mpr ⟨⟨hequals, hc⟩, hkey⟩, h⟩

lemma spells_first (hc : isSpace c = false) (h : AwaitsKey [c] s attributes) :
    Spells (c :: s) attributes := by
  obtain ⟨key, rest, rfl, hkey, before, rest, rfl, hbefore, after, quote, rest, rfl, hafter, hquote,
    raw, rest, value, more, rfl, hraw, hvalue, hmore, rfl⟩ := h
  exact .entry isGap_nil hc hkey hbefore hafter hquote hraw hvalue hmore

end Awaits

lemma awaits_of_attributesFrom {size position : Nat} {seen : SeenKeys} {state : AttributeState}
    {s : Text} {attributes : List (Text × Text)}
    (h : attributesFrom size position seen state s = .ok attributes) :
    state.Awaits s attributes := by
  induction s generalizing position seen state attributes with
  | nil =>
    cases state with
    | between =>
      cases h
      exact Spells.done isGap_nil
    | key | afterKey | beforeValue | value => cases h
  | cons c rest ih =>
    rcases attributesFrom_cons size position seen state c rest with
      ⟨seen', state', hgoes, hread⟩ | ⟨key, raw, rfl, hread⟩ | ⟨cause, hread⟩
    · have hrest := ih (hread ▸ h)
      cases hgoes with
      | gap hspace => exact Spells.space hspace hrest
      | first position hspace => exact spells_first hspace hrest
      | keyMore start raw hsign hspace =>
        rw [AttributeState.Awaits, List.reverse_cons] at hrest
        exact awaitsKey_more hsign hspace hrest
      | keyEnd start raw hspace => exact awaitsKey_end (awaitsEquals_space hspace hrest)
      | keyEquals start hsign hnew =>
        obtain rfl := hsign
        exact awaitsKey_end (awaitsEquals_sign hrest)
      | afterGap start key hspace => exact awaitsEquals_space hspace hrest
      | afterEquals start hsign hnew =>
        obtain rfl := hsign
        exact awaitsEquals_sign hrest
      | valueGap key hspace => exact awaitsValue_space hspace hrest
      | quote key hquote => exact awaitsValue_quote hquote hrest
      | valueMore key raw hquote =>
        rw [AttributeState.Awaits, List.reverse_cons] at hrest
        exact awaitsEnd_more hquote hrest
    · obtain ⟨value, hvalue, h⟩ := bind_eq_ok.mp (hread ▸ h)
      obtain ⟨more, hmore, h⟩ := bind_eq_ok.mp h
      obtain rfl : (key, value) :: more = attributes := Except.ok.inj h
      exact awaitsEnd_close (mapError_eq_ok.mp hvalue) (ih hmore)
    · cases hread ▸ h

/-! ### What is spelled is read -/

section Reading

variable (size : Nat) (seen : SeenKeys) (position : Nat)

lemma attributesFrom_space (c : Char) (rest : Text) (h : isSpace c) :
    attributesFrom size position seen .between (c :: rest) =
      attributesFrom size (position + c.utf8Size) seen .between rest := by
  rw [attributesFrom, if_pos h]

lemma attributesFrom_first {c : Char} (h : isSpace c = false) (rest : Text) :
    attributesFrom size position seen .between (c :: rest) =
      attributesFrom size (position + c.utf8Size) seen (.key position [c]) rest := by
  rw [attributesFrom, h, if_neg Bool.false_ne_true]

lemma attributesFrom_gap {state : AttributeState}
    (hstate : ∀ position c rest, isSpace c →
      attributesFrom size position seen state (c :: rest) =
        attributesFrom size (position + c.utf8Size) seen state rest)
    {gap : Text} (h : IsGap gap) (rest : Text) :
    attributesFrom size position seen state (gap ++ rest) =
      attributesFrom size (position + Text.byteSize gap) seen state rest := by
  induction gap generalizing position with
  | nil => rfl
  | cons c gap ih =>
    obtain ⟨hc, hgap⟩ := List.forall_mem_cons.mp h
    rw [List.cons_append, hstate position c (gap ++ rest) hc, ih _ hgap, Text.byteSize_cons,
      Nat.add_assoc]

lemma ne_sign_of_isSpace {c : Char} (h : isSpace c) : c ≠ '=' := by
  rintro rfl
  cases h

lemma attributesFrom_key (start : Nat) (raw : Text) {key : Text} (h : IsKeyRest key)
    (rest : Text) :
    attributesFrom size position seen (.key start raw) (key ++ rest) =
      attributesFrom size (position + Text.byteSize key) seen (.key start (key.reverse ++ raw))
        rest := by
  induction key generalizing position raw with
  | nil => rfl
  | cons c key ih =>
    obtain ⟨hc, hkey⟩ := List.forall_mem_cons.mp h
    have hrest := ih (position + c.utf8Size) (c :: raw) hkey
    rw [List.cons_append, attributesFrom]
    simpa [hc, Nat.add_assoc] using hrest

lemma attributesFrom_equals (start : Nat) {key before : Text} (hseen : seen.lookup key = none)
    (hbefore : IsGap before) (rest : Text) :
    ∃ next, attributesFrom size position seen (.key start key.reverse) (before ++ '=' :: rest) =
      attributesFrom size next ((key, start) :: seen) (.beforeValue key) rest := by
  have hnew : equalsAfter seen start key = .ok ((key, start) :: seen, .beforeValue key) := by
    rw [equalsAfter, hseen]
  cases before with
  | nil =>
    rw [List.nil_append, attributesFrom, if_pos rfl, List.reverse_reverse, hnew]
    exact ⟨_, rfl⟩
  | cons c before =>
    obtain ⟨hc, hbefore⟩ := List.forall_mem_cons.mp hbefore
    have hgap : ∀ position d rest, isSpace d →
        attributesFrom size position seen (.afterKey start key) (d :: rest) =
          attributesFrom size (position + d.utf8Size) seen (.afterKey start key) rest := by
      intro position d rest hd
      rw [attributesFrom, if_neg (ne_sign_of_isSpace hd), if_pos hd]
    rw [List.cons_append, attributesFrom, if_neg (ne_sign_of_isSpace hc), if_pos hc,
      List.reverse_reverse, attributesFrom_gap size seen _ hgap hbefore, attributesFrom,
      if_pos rfl, hnew]
    exact ⟨_, rfl⟩

lemma attributesFrom_quote (key : Text) {after : Text} {quote : Char} (hafter : IsGap after)
    (hquote : IsQuote quote) (rest : Text) :
    ∃ next, attributesFrom size position seen (.beforeValue key) (after ++ quote :: rest) =
      attributesFrom size next seen (.value key quote []) rest := by
  have hgap : ∀ position d rest, isSpace d →
      attributesFrom size position seen (.beforeValue key) (d :: rest) =
        attributesFrom size (position + d.utf8Size) seen (.beforeValue key) rest := by
    intro position d rest hd
    rw [attributesFrom, if_pos hd]
  have hspace : ¬isSpace quote := by rcases hquote with rfl | rfl <;> decide
  rw [attributesFrom_gap size seen position hgap hafter, attributesFrom, if_neg hspace]
  exact ⟨_, if_pos hquote⟩

lemma attributesFrom_value (key : Text) {quote : Char} (read : Text) {raw : Text}
    (h : quote ∉ raw) (rest : Text) :
    attributesFrom size position seen (.value key quote read) (raw ++ rest) =
      attributesFrom size (position + Text.byteSize raw) seen
        (.value key quote (raw.reverse ++ read)) rest := by
  induction raw generalizing position read with
  | nil => rfl
  | cons c raw ih =>
    rw [List.mem_cons, not_or] at h
    have hc : c ≠ quote := Ne.symm h.1
    have hrest := ih (position + c.utf8Size) (c :: read) h.2
    rw [List.cons_append, attributesFrom]
    simpa [hc, Nat.add_assoc] using hrest

lemma attributesFrom_close (key : Text) (quote : Char) {raw value : Text}
    (hvalue : expand raw = .ok value) (rest : Text) :
    ∃ next, attributesFrom size position seen (.value key quote raw.reverse) (quote :: rest) =
      (attributesFrom size next seen .between rest).map ((key, value) :: ·) := by
  rw [attributesFrom, if_pos rfl, List.reverse_reverse, hvalue]
  exact ⟨_, rfl⟩

/-- One attribute, whatever comes behind it. -/
lemma attributesFrom_entry {gap key before after raw value : Text} {first quote : Char}
    (hgap : IsGap gap) (hfirst : isSpace first = false) (hkey : IsKeyRest key)
    (hbefore : IsGap before) (hafter : IsGap after) (hquote : IsQuote quote) (hraw : quote ∉ raw)
    (hvalue : expand raw = .ok value) (hseen : seen.lookup (first :: key) = none) (rest : Text) :
    ∃ start next, attributesFrom size position seen .between
        (gap ++ (first :: (key ++ (before ++ '=' :: (after ++ quote :: (raw ++ quote :: rest)))))) =
      (attributesFrom size next ((first :: key, start) :: seen) .between rest).map
        ((first :: key, value) :: ·) := by
  have hread : key.reverse ++ [first] = (first :: key).reverse := by rw [List.reverse_cons]
  obtain ⟨_, hequals⟩ := attributesFrom_equals size seen _ (position + Text.byteSize gap) hseen
    hbefore (after ++ quote :: (raw ++ quote :: rest))
  obtain ⟨_, hopen⟩ := attributesFrom_quote size _ _ (first :: key) hafter hquote
    (raw ++ quote :: rest)
  obtain ⟨_, hclose⟩ := attributesFrom_close size _ _ (first :: key) quote hvalue rest
  rw [attributesFrom_gap size seen position (attributesFrom_space size seen) hgap,
    attributesFrom_first size seen _ hfirst, attributesFrom_key size seen _ _ _ hkey, hread,
    hequals, hopen, attributesFrom_value size _ _ _ _ hraw, List.append_nil, hclose]
  exact ⟨_, _, rfl⟩

end Reading

lemma attributesFrom_of_spells (size : Nat) {s : Text} {attributes : List (Text × Text)}
    (h : Spells s attributes) (position : Nat) {seen : SeenKeys}
    (hnew : AreNew seen (attributes.map Prod.fst)) :
    attributesFrom size position seen .between s = .ok attributes := by
  induction h generalizing position seen with
  | @done gap hgap =>
    have hread := attributesFrom_gap size seen position (attributesFrom_space size seen) hgap []
    rwa [List.append_nil] at hread
  | entry hgap hfirst hkey hbefore hafter hquote hraw hvalue _ ih =>
    obtain ⟨start, next, hread⟩ := attributesFrom_entry size seen position hgap hfirst hkey hbefore
      hafter hquote hraw hvalue (hnew.unseen _ List.mem_cons_self) _
    rw [hread, ih next (hnew.of_cons start).2]
    rfl

/-- The attributes of a tag are those that it spells, and no key is twice among them. -/
theorem Tag.attributes_eq_ok_iff {tag : Tag} {attributes : List (Text × Text)} :
    tag.attributes = .ok attributes ↔
      Spells tag.body attributes ∧ (attributes.map Prod.fst).Nodup := by
  constructor
  · intro h
    exact ⟨awaits_of_attributesFrom h, Tag.attributes_nodup h⟩
  · rintro ⟨hspells, hnodup⟩
    exact attributesFrom_of_spells _ hspells _ ⟨hnodup, fun _ _ => rfl⟩

end ClickGen.Xml
