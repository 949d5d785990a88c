import ClickGen.Proofs.Xml.Printer
import ClickGen.Proofs.Xml.Scan
import ClickGen.Proofs.Xml.Spelling

/-!
Printed tags: the scan finds their end, and a reader of attributes finds the attributes that were
printed.
-/

namespace ClickGen.Xml

lemma of_isNameChar {c : Char} (h : isNameChar c) :
    isSpace c = false ∧ c ≠ '>' ∧ c ≠ '/' ∧ c ≠ '=' ∧ c ≠ '"' ∧ c ≠ '\'' := by
  simp only [isNameChar, Bool.not_eq_true', Bool.or_eq_false_iff, beq_eq_false_iff_ne] at h
  obtain ⟨⟨⟨⟨⟨⟨⟨hspace, -⟩, hgt⟩, hslash⟩, heq⟩, -⟩, hdouble⟩, hsingle⟩ := h
  exact ⟨hspace, hgt, hslash, heq, hdouble, hsingle⟩

lemma isNameChar_of_mem {name : Text} (h : isName name) : ∀ c ∈ name, isNameChar c := by
  simp only [isName, Bool.and_eq_true] at h
  exact List.all_eq_true.mp h.1.1.2

lemma exists_cons_of_isName {name : Text} (h : isName name) :
    ∃ c rest, name = c :: rest ∧ c ≠ '!' ∧ c ≠ '?' := by
  cases name with
  | nil => simp [isName] at h
  | cons c rest =>
    simp only [isName, Bool.and_eq_true, List.head?_cons, bne_iff_ne, ne_eq,
      Option.some.injEq] at h
    exact ⟨c, rest, rfl, h.1.2, h.2⟩

lemma of_mem_escape {name? : Char → Option Text} (hn : IsNaming name?) {s : Text} {d : Char}
    (h : d ∈ escape name? s) :
    name? d = none ∨ d = '&' ∨ d = ';' ∨ isReferenceChar d := by
  obtain ⟨c, -, hd⟩ := List.mem_flatMap.mp h
  rw [escapeOne] at hd
  cases hc : name? c with
  | none =>
    rw [hc, List.mem_singleton] at hd
    exact .inl (hd ▸ hc)
  | some name =>
    simp only [hc, List.mem_cons, List.mem_append, List.not_mem_nil, or_false] at hd
    rcases hd with hd | hd | hd
    · exact .inr (.inl hd)
    · exact .inr (.inr (.inr (List.all_eq_true.mp (hn.plain hc) d hd)))
    · exact .inr (.inr (.inl hd))

lemma quote_notMem_escape (s : Text) : '"' ∉ escape markupName? s := by
  intro h
  rcases of_mem_escape isNaming_markupName h with h | h | h | h
  · simp [markupName?] at h
  all_goals exact absurd h (by decide)

lemma of_mem_escape_textName {s : Text} {d : Char} (h : d ∈ escape textName? s) :
    d ≠ '<' ∧ isSpace d = false := by
  have hrest : ∀ c, textName? c ≠ none → c ≠ '&' → c ≠ ';' → isReferenceChar c = false → d ≠ c := by
    rintro c hname hampersand hsemicolon hplain rfl
    rcases of_mem_escape isNaming_textName h with h | h | h | h
    · exact hname h
    · exact hampersand h
    · exact hsemicolon h
    · simp [hplain] at h
  have hspace : ∀ c, isSpace c → d ≠ c := by
    intro c hc
    simp only [isSpace, Bool.or_eq_true, beq_iff_eq] at hc
    rcases hc with ((rfl | rfl) | rfl) | rfl <;>
      exact hrest _ (by simp [textName?]) (by decide) (by decide) (by decide)
  refine ⟨hrest '<' (by simp [textName?, markupName?]) (by decide) (by decide) (by decide), ?_⟩
  by_contra hd
  exact hspace d (by simpa using hd) rfl

lemma quoteStep_plain {v : Text} (h : ∀ c ∈ v, c ≠ '>' ∧ c ≠ '\'' ∧ c ≠ '"') :
    v.foldlM Scanner.quoteStep none = some none := by
  induction v with
  | nil => rfl
  | cons c v ih =>
    have hc : Scanner.quoteStep none c = some none := by
      simp [Scanner.quoteStep, h c (by simp)]
    rw [List.foldlM_cons, hc]
    exact ih fun d hd => h d (by simp [hd])

lemma quoteStep_quoted {q : Char} {v : Text} (h : q ∉ v) :
    v.foldlM Scanner.quoteStep (some q) = some (some q) := by
  induction v with
  | nil => rfl
  | cons c v ih =>
    rw [List.mem_cons, not_or] at h
    have hc : Scanner.quoteStep (some q) c = some (some q) := by
      simp [Scanner.quoteStep, Ne.symm h.1]
    rw [List.foldlM_cons, hc]
    exact ih h.2

lemma quoteStep_name {name : Text} (h : isName name) :
    name.foldlM Scanner.quoteStep none = some none :=
  quoteStep_plain fun c hc => by simp [of_isNameChar (isNameChar_of_mem h c hc)]

lemma quoteStep_append {v w : Text} {quote next last : Option Char}
    (hv : v.foldlM Scanner.quoteStep quote = some next)
    (hw : w.foldlM Scanner.quoteStep next = some last) :
    (v ++ w).foldlM Scanner.quoteStep quote = some last := by
  rw [List.foldlM_append, hv]
  exact hw

lemma quoteStep_printAttribute {entry : Text × Text} (h : isName entry.1) :
    (printAttribute entry).foldlM Scanner.quoteStep none = some none := by
  have hkey : ([' '] ++ entry.1).foldlM Scanner.quoteStep none = some none :=
    quoteStep_append rfl (quoteStep_name h)
  have hvalue : (escape markupName? entry.2 ++ ['"']).foldlM Scanner.quoteStep (some '"') =
      some none :=
    quoteStep_append (quoteStep_quoted (quote_notMem_escape entry.2)) rfl
  have hparts : printAttribute entry =
      [' '] ++ entry.1 ++ (['=', '"'] ++ (escape markupName? entry.2 ++ ['"'])) := by
    simp [printAttribute]
  rw [hparts]
  exact quoteStep_append hkey (quoteStep_append rfl hvalue)

lemma quoteStep_printAttributes {attributes : List (Text × Text)}
    (h : ∀ entry ∈ attributes, isName entry.1) :
    (printAttributes attributes).foldlM Scanner.quoteStep none = some none := by
  induction attributes with
  | nil => rfl
  | cons entry rest ih =>
    have hentry := quoteStep_printAttribute (h entry (by simp))
    have hrest := ih fun other hother => h other (by simp [hother])
    rw [printAttributes, List.flatMap_cons]
    exact quoteStep_append hentry hrest

def startTag (name : Text) (attributes : List (Text × Text)) : Tag :=
  ⟨name, printAttributes attributes⟩

lemma printAttributes_getLast {attributes : List (Text × Text)} (h : attributes ≠ []) :
    (printAttributes attributes).getLast? = some '"' := by
  obtain ⟨front, entry, rfl⟩ := List.eq_nil_or_concat' attributes |>.resolve_left h
  have hlast : printAttribute entry =
      (' ' :: (entry.1 ++ '=' :: '"' :: escape markupName? entry.2)) ++ ['"'] := by
    simp [printAttribute]
  rw [printAttributes, List.flatMap_append, List.flatMap_singleton, hlast, ← List.append_assoc,
    List.getLast?_concat]

lemma isStart_startTag {name : Text} {attributes : List (Text × Text)} (hn : isName name)
    (hk : ∀ entry ∈ attributes, isName entry.1) :
    Scanner.IsStart (startTag name attributes) where
  first := by
    obtain ⟨c, rest, rfl, hbang, hquestion⟩ := exists_cons_of_isName hn
    have hc := of_isNameChar (isNameChar_of_mem hn c (by simp))
    simp [startTag, hbang, hquestion, hc]
  last := by
    rw [startTag, List.getLast?_append]
    by_cases ha : attributes = []
    · subst ha
      intro h
      have hmem : '/' ∈ name := List.mem_of_getLast? (by simpa [printAttributes] using h)
      exact (of_isNameChar (isNameChar_of_mem hn '/' hmem)).2.2.1 rfl
    · simp [printAttributes_getLast ha]
  quotes := quoteStep_append (quoteStep_name hn) (quoteStep_printAttributes hk)
  name := fun c hc => (of_isNameChar (isNameChar_of_mem hn c hc)).1
  body := by
    cases attributes with
    | nil => simp [startTag, printAttributes]
    | cons entry rest => simp [startTag, printAttributes, printAttribute, isSpace]

/-! ### The attributes of a printed tag -/

lemma spells_printAttributes {attributes : List (Text × Text)}
    (hk : ∀ entry ∈ attributes, isName entry.1) :
    Spells (printAttributes attributes) attributes := by
  induction attributes with
  | nil => exact .done isGap_nil
  | cons entry rest ih =>
    obtain ⟨key, value⟩ := entry
    obtain ⟨hkey, hrest⟩ := List.forall_mem_cons.mp hk
    have hplain : ∀ d ∈ key, d ≠ '=' ∧ isSpace d = false := fun d hd => by
      simp [of_isNameChar (isNameChar_of_mem hkey d hd)]
    obtain ⟨first, more, rfl, -⟩ := exists_cons_of_isName hkey
    obtain ⟨hfirst, hmore⟩ := List.forall_mem_cons.mp hplain
    have hspace : IsGap [' '] := isGap_nil.cons rfl
    have hprinted := Spells.entry hspace hfirst.2 hmore isGap_nil isGap_nil (.inl rfl)
      (quote_notMem_escape value) (expand_escape isNaming_markupName value) (ih hrest)
    have hparts : printAttributes ((first :: more, value) :: rest) =
        [' '] ++ first :: (more ++ ([] ++ '=' :: ([] ++ '"' ::
          (escape markupName? value ++ '"' :: printAttributes rest)))) := by
      simp [printAttributes, printAttribute]
    rwa [hparts]

/-- A printed tag opens the element with the attributes that were printed. -/
lemma element_startTag (name : Text) {attributes : List (Text × Text)}
    (hk : ∀ entry ∈ attributes, isName entry.1) (hd : (attributes.map Prod.fst).Nodup) :
    (startTag name attributes).element = .ok ⟨name, attributes, [], []⟩ := by
  have hread : (startTag name attributes).attributes = .ok attributes :=
    Tag.attributes_eq_ok_iff.mpr ⟨spells_printAttributes hk, hd⟩
  rw [Tag.element_eq, hread]
  rfl

end ClickGen.Xml
