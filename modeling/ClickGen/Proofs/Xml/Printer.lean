import ClickGen.Xml.Tree
import Mathlib.Data.List.Nodup
import Mathlib.Tactic.Lemma

/-!
Element trees as XML text: each element with its attributes in order, its text, and then its
children, so that no text stands between or behind children. White space in a text is printed by
its code, since a reader drops what stands at the ends of a text.
-/

namespace ClickGen.Xml

/-- The reference for a character with a meaning in markup. -/
def markupName? : Char → Option Text
  | '&' => some "amp".toList
  | '<' => some "lt".toList
  | '>' => some "gt".toList
  | '"' => some "quot".toList
  | '\'' => some "apos".toList
  | _ => none

/-- The reference for a character in a text, where white space has one too. -/
def textName? (c : Char) : Option Text :=
  match c with
  | ' ' => some "#32".toList
  | '\t' => some "#9".toList
  | '\n' => some "#10".toList
  | '\r' => some "#13".toList
  | _ => markupName? c

/-- A character, by a reference when `name?` names it. -/
def escapeOne (name? : Char → Option Text) (c : Char) : Text :=
  match name? c with
  | some name => '&' :: (name ++ [';'])
  | none => [c]

/-- A text with references for the characters that `name?` names. -/
def escape (name? : Char → Option Text) (s : Text) : Text := s.flatMap (escapeOne name?)

/-- A character that the reference of another one may hold. -/
def isReferenceChar (c : Char) : Bool := Text.isAsciiAlnum c || c == '#'

lemma ne_of_isReferenceChar {c d : Char} (hd : isReferenceChar d)
    (hc : isReferenceChar c = false) : d ≠ c := by
  rintro rfl
  rw [hc] at hd
  exact Bool.noConfusion hd

/-- A naming of characters that reading undoes. -/
structure IsNaming (name? : Char → Option Text) : Prop where
  ampersand : name? '&' ≠ none
  plain : ∀ {c name}, name? c = some name → name.all isReferenceChar
  resolves : ∀ {c name}, name? c = some name → ∀ start stop, resolve start stop name = .ok c

lemma isNaming_markupName : IsNaming markupName? where
  ampersand := by simp [markupName?]
  plain := by
    intro c name h
    unfold markupName? at h
    split at h <;> simp at h <;> subst h <;> decide
  resolves := by
    intro c name h start stop
    unfold markupName? at h
    split at h <;> simp at h <;> subst h <;> rfl

lemma isNaming_textName : IsNaming textName? where
  ampersand := by simp [textName?, markupName?]
  plain := by
    intro c name h
    unfold textName? at h
    split at h
    iterate 4 simp at h; subst h; decide
    exact isNaming_markupName.plain h
  resolves := by
    intro c name h start stop
    unfold textName? at h
    split at h
    iterate 4 simp at h; subst h; rfl
    exact isNaming_markupName.resolves h start stop

lemma expandFrom_name (size position start : Nat) (raw name rest : Text)
    (h : name.all isReferenceChar) :
    ∃ stop, expandFrom size position (some (start, raw)) (name ++ ';' :: rest) =
      (do
        let found ← resolve start stop (raw.reverse ++ name)
        return found :: (← expandFrom size (stop + 1) none rest)) := by
  induction name generalizing position raw with
  | nil => exact ⟨position, by simp [expandFrom]; rfl⟩
  | cons d name ih =>
    rw [List.all_cons, Bool.and_eq_true] at h
    have hsemicolon : d ≠ ';' := ne_of_isReferenceChar h.1 (by decide)
    have hampersand : d ≠ '&' := ne_of_isReferenceChar h.1 (by decide)
    obtain ⟨stop, hstop⟩ := ih (position + d.utf8Size) (d :: raw) h.2
    refine ⟨stop, ?_⟩
    rw [List.cons_append, expandFrom]
    simpa [hsemicolon, hampersand] using hstop

lemma expandFrom_escape {name? : Char → Option Text} (hn : IsNaming name?) (size position : Nat)
    (s : Text) : expandFrom size position none (escape name? s) = .ok s := by
  induction s generalizing position with
  | nil => rfl
  | cons c s ih =>
    have hcons : escape name? (c :: s) = escapeOne name? c ++ escape name? s := rfl
    rw [hcons, escapeOne]
    cases hc : name? c with
    | none =>
      have hne : c ≠ '&' := fun h => hn.ampersand (h ▸ hc)
      rw [List.singleton_append, expandFrom]
      simp only [hne, ite_false, ih]
      rfl
    | some name =>
      obtain ⟨stop, hstop⟩ := expandFrom_name size (position + '&'.utf8Size) position [] name
        (escape name? s) (hn.plain hc)
      rw [List.cons_append, List.append_assoc, List.singleton_append, expandFrom]
      simp only [ite_true, hstop, List.reverse_nil, List.nil_append, hn.resolves hc, ih]
      rfl

/-- Reading the references of a text undoes writing them. -/
theorem expand_escape {name? : Char → Option Text} (hn : IsNaming name?) (s : Text) :
    expand (escape name? s) = .ok s :=
  expandFrom_escape hn _ _ s

/-! ### Elements -/

/-- A character that names and keys may hold. -/
def isNameChar (c : Char) : Bool :=
  !(isSpace c || c == '<' || c == '>' || c == '/' || c == '=' || c == '&' || c == '"' ||
    c == '\'')

/-- A name that markup can carry as it is. -/
def isName (name : Text) : Bool :=
  !name.isEmpty && name.all isNameChar && name.head? != some '!' && name.head? != some '?'

def printAttribute (entry : Text × Text) : Text :=
  ' ' :: (entry.1 ++ '=' :: '"' :: (escape markupName? entry.2 ++ ['"']))

def printAttributes (attributes : List (Text × Text)) : Text := attributes.flatMap printAttribute

mutual

def print : Element → Text
  | ⟨name, attributes, text, children⟩ =>
    '<' :: (name ++ printAttributes attributes) ++ '>' :: escape textName? text ++
      printAll children ++ '<' :: '/' :: (name ++ ['>'])

def printAll : List Element → Text
  | [] => []
  | e :: rest => print e ++ printAll rest

end

/-- An element that can be printed: its names and keys are names, no key is there twice, and its
children can be printed. Values and texts are arbitrary. -/
inductive Printable : Element → Prop where
  | mk {e : Element}
    (name : isName e.name)
    (keys : ∀ entry ∈ e.attributes, isName entry.1)
    (distinct : (e.attributes.map Prod.fst).Nodup)
    (children : ∀ child ∈ e.children, Printable child) : Printable e

end ClickGen.Xml
