import ClickGen.Proofs.Field.Reading

/-!
No text of a model escapes its quotes.

`Field.reading` says what a reader finds in the option of a field: the texts of the model in
literals and bare numerals, fixed words and marks everywhere else. Main statement: the source of
an option is read as exactly this decorator, one physical line an item, and the literals give back
the flag, the parameter name, the help, the choices and the default as the model has them.
-/

namespace ClickGen

open Code Decorator

namespace Field

def kindReading (f : Field) : List (Text × List Token) :=
  match f.kind with
  | .flag => [("is_flag", [.name "True"]), ("callback", [.name "bool_as_string"])]
  | .text => []
  | .integer =>
    [("type", rangeTokens "IntRange" "int" (integerBound? f.props.minimum?)
      (integerBound? f.props.maximum?))]
  | .float =>
    [("type", rangeTokens "FloatRange" "float" (floatBound? f.props.minimum?)
      (floatBound? f.props.maximum?))]
  | .choice =>
    ("type", callTokens "Choice" (listTokens (choiceList f.props))) ::
      (if f.props.multiple then
        [("multiple", [.name "True"]), ("callback", [.name "tuple_to_csv"])]
      else [])
  | .list => [("multiple", [.name "True"]), ("callback", [.name "tuple_to_csv"])]
  | .other => [("type", [.name "str"])]

/-- The default when an entry is created, as it is read. -/
def defaultReading (f : Field) : List Token :=
  match f.kind, f.props.default? with
  | .flag, default? => [.name (Code.boolean (default?.any meansOn))]
  | _, none => [.name "None"]
  | kind, some text =>
    if f.isMultiple then listTokens (listed text)
    else if kind = .integer ∧ (Text.readInt64 text).isSome then [.number text]
    else if kind = .float ∧ Text.isDecimal text then [.number text]
    else [.string text]

/-- The arguments that depend on what the option is for, as they are read. -/
def purposeReading (f : Field) : Purpose → List (Text × List Token)
  | .create =>
    [("show_default", [.name "True"]), ("default", f.defaultReading),
      ("required", [.name (Code.boolean f.isRequired)])]
  | .update => [("default", [.name "None"])]

def reading (f : Field) (purpose : Purpose) : Reading where
  names := f.names
  arguments := ("help", [.string f.help]) :: (f.kindReading ++ f.purposeReading purpose)

lemma readsValue_boolean (b : Bool) : ReadsValue (Code.boolean b) [.name (Code.boolean b)] := by
  cases b with
  | true => exact readsValue_word rfl (by decide)
  | false => exact readsValue_word rfl (by decide)

lemma readsArgument {key v : Text} {ts : List Token} (hk : key ∈ keywords)
    (h : ReadsValue v ts) : ReadsArgument (key, v) (key, ts) := ⟨rfl, hk, h⟩

lemma readsArgument_word {key w : Text} (hk : key ∈ keywords) (h : isWord w)
    (hw : .name w ∈ fixed) : ReadsArgument (key, w) (key, [.name w]) :=
  readsArgument hk (readsValue_word h hw)

lemma isBare_of_integerBound (bound? : Option Text) : ∀ n ∈ integerBound? bound?, isBare n := by
  intro n h
  obtain ⟨i, -, rfl⟩ := Option.map_eq_some_iff.mp h
  exact isBare_ofInt i

lemma isBare_of_floatBound (bound? : Option Text) : ∀ n ∈ floatBound? bound?, isBare n := by
  intro n h
  obtain ⟨-, hdecimal⟩ := Option.filter_eq_some_iff.mp h
  exact isBare_of_isDecimal hdecimal

lemma kindArguments_read {f : Field} {arguments : List (Text × Text)}
    (h : f.kindArguments? = some arguments) :
    List.Forall₂ ReadsArgument arguments f.kindReading := by
  have hseveral : List.Forall₂ ReadsArgument
      [("multiple", "True"), ("callback", "tuple_to_csv")]
      [("multiple", [.name "True"]), ("callback", [.name "tuple_to_csv"])] :=
    .cons (readsArgument_word (by decide) rfl (by decide))
      (.cons (readsArgument_word (by decide) rfl (by decide)) .nil)
  unfold kindArguments? at h
  unfold kindReading
  cases hk : f.kind with
  | flag =>
    simp only [hk, Option.some.injEq] at h
    subst h
    exact .cons (readsArgument_word (by decide) rfl (by decide))
      (.cons (readsArgument_word (by decide) rfl (by decide)) .nil)
  | text =>
    simp only [hk, Option.some.injEq] at h
    subst h
    exact .nil
  | integer =>
    simp only [hk, Option.some.injEq] at h
    subst h
    have hrange := readsValue_range "IntRange" "int" rfl (by decide) rfl
      (by decide) (isBare_of_integerBound f.props.minimum?)
      (isBare_of_integerBound f.props.maximum?)
    exact .cons (readsArgument (by decide) hrange) .nil
  | float =>
    simp only [hk, Option.some.injEq] at h
    subst h
    have hrange := readsValue_range "FloatRange" "float" rfl (by decide) rfl
      (by decide) (isBare_of_floatBound f.props.minimum?)
      (isBare_of_floatBound f.props.maximum?)
    exact .cons (readsArgument (by decide) hrange) .nil
  | choice =>
    simp only [hk] at h
    split at h
    · cases h
    · simp only [Option.some.injEq] at h
      subst h
      have hlist := readsValue_call "Choice" rfl (by decide)
        (readsValue_list (choiceList f.props))
      refine .cons (readsArgument (by decide) hlist) ?_
      split
      · exact hseveral
      · exact .nil
  | list =>
    simp only [hk, Option.some.injEq] at h
    subst h
    exact hseveral
  | other =>
    simp only [hk, Option.some.injEq] at h
    subst h
    exact .cons (readsArgument_word (by decide) rfl (by decide)) .nil

lemma givenDefault_read (f : Field) (text : Text) :
    ReadsValue
      (if f.isMultiple then listLiteral (listed text)
        else if f.kind = .integer ∧ (Text.readInt64 text).isSome then text
        else if f.kind = .float ∧ Text.isDecimal text then text
        else literal text)
      (if f.isMultiple then listTokens (listed text)
        else if f.kind = .integer ∧ (Text.readInt64 text).isSome then [.number text]
        else if f.kind = .float ∧ Text.isDecimal text then [.number text]
        else [.string text]) := by
  split
  · exact readsValue_list _
  · split
    · next hinteger => exact readsValue_number (isBare_of_readInt64 hinteger.2)
    · split
      · next hfloat => exact readsValue_number (isBare_of_isDecimal hfloat.2)
      · exact readsValue_literal _

lemma createDefault_read (f : Field) : ReadsValue f.createDefault f.defaultReading := by
  have hgiven := givenDefault_read f
  unfold createDefault defaultReading
  cases hk : f.kind
  case flag => exact readsValue_boolean _
  all_goals
    rw [hk] at hgiven
    cases f.props.default? with
    | none => exact readsValue_word (w := "None") rfl (by decide)
    | some text => exact hgiven text

lemma purposeArguments_read (f : Field) (purpose : Purpose) :
    List.Forall₂ ReadsArgument (f.purposeArguments purpose) (f.purposeReading purpose) := by
  cases purpose with
  | create =>
    exact .cons (readsArgument_word (by decide) rfl (by decide))
      (.cons (readsArgument (by decide) (createDefault_read f))
        (.cons (readsArgument (by decide) (readsValue_boolean _)) .nil))
  | update => exact .cons (readsArgument_word (by decide) rfl (by decide)) .nil

lemma arguments_read {f : Field} {purpose : Purpose} {d : Decorator}
    (h : f.decorator? purpose = some d) :
    d.names = f.names ∧ List.Forall₂ ReadsArgument d.arguments (f.reading purpose).arguments := by
  obtain ⟨arguments, hkind, rfl⟩ := Option.map_eq_some_iff.mp h
  refine ⟨rfl, .cons (readsArgument (by decide) (readsValue_literal f.help)) ?_⟩
  exact List.rel_append (kindArguments_read hkind) (purposeArguments_read f purpose)

lemma literals_listTokens (items : List Text) : literals (listTokens items) = items := by
  have hitems : ∀ items : List Text,
      literals ((items.map Token.string).intersperse (.mark ',')) = items := by
    intro items
    induction items with
    | nil => rfl
    | cons s items ih =>
      cases items with
      | nil => rfl
      | cons t items => simpa [literals] using ih
  simpa [literals, listTokens, List.filterMap_append] using hitems items

/-! ### The whole option -/

/-- Everything that an option is made of besides literals and numerals. -/
def vocabulary : List Token := Reading.opening ++ keywords.map Token.name ++ fixed

/-- The source `code` of the option of `f` is one decorator, which holds the texts of the model in
quotes and gives them back. -/
structure IsQuoted (f : Field) (purpose : Purpose) (code : Text) : Prop where
  /-- The source is read as one decorator and nothing else. -/
  tokens : tokens? code = some (f.reading purpose).tokens
  /-- Between its first and its last line there is one physical line an item. -/
  lines : ∃ lines, Text.splitOn '\n' code = "@click.option(".toList :: (lines ++ [[')']]) ∧
    lines.length = (f.reading purpose).names.length + (f.reading purpose).arguments.length
  noReturn : '\r' ∉ code
  /-- Outside of literals and numerals there are fixed words and marks only. -/
  held : ∀ t ∈ (f.reading purpose).tokens,
    (∃ s, t = .string s) ∨ (∃ n, t = .number n ∧ n.all isNumeral) ∨ t ∈ vocabulary
  flag : (f.reading purpose).names.head? =
    some (if f.kind = .flag then "--" ++ f.name ++ "/--no-" ++ f.name else "--" ++ f.name)
  /-- The flag and, where there is one, the parameter name are read back. -/
  names : (f.reading purpose).names = f.names
  help : (f.reading purpose).value? "help" = some [.string f.help]
  /-- The choices are read back, behind an empty one unless a value is required. -/
  choices : f.kind = .choice → ((f.reading purpose).value? "type").map literals =
    some (if f.props.required then f.props.choices else [] :: f.props.choices)
  /-- The default of a text, of a single choice and of an unknown type is read back. -/
  default : purpose = .create →
    f.kind = .text ∨ f.kind = .other ∨ (f.kind = .choice ∧ ¬ f.props.multiple) →
      ∀ text, f.props.default? = some text →
        (f.reading purpose).value? "default" = some [.string text]

lemma held_tokens {f : Field} {purpose : Purpose} {arguments : List (Text × Text)}
    (h : List.Forall₂ ReadsArgument arguments (f.reading purpose).arguments) :
    ∀ t ∈ (f.reading purpose).tokens,
      (∃ s, t = .string s) ∨ (∃ n, t = .number n ∧ n.all isNumeral) ∨ t ∈ vocabulary := by
  have hvalue : ∀ (arguments : List (Text × Text)) bs, List.Forall₂ ReadsArgument arguments bs →
      ∀ b ∈ bs, b.1 ∈ keywords ∧ ∀ t ∈ b.2, IsHeld t := by
    intro arguments bs hread b hb
    induction hread with
    | nil => simp at hb
    | cons hab _ ih =>
      rcases List.mem_cons.mp hb with rfl | hb
      · obtain ⟨hkey, hmem, hvalue⟩ := hab
        exact ⟨hkey ▸ hmem, hvalue.held⟩
      · exact ih hb
  have hopening : ∀ t ∈ Reading.opening, t ∈ vocabulary := fun t ht => by
    simp [vocabulary, ht]
  have hfixed : ∀ t ∈ fixed, t ∈ vocabulary := fun t ht => by simp [vocabulary, ht]
  intro t ht
  rw [Reading.tokens, List.mem_append, List.mem_append, List.mem_flatMap] at ht
  rcases ht with (ht | ⟨ts, hts, ht⟩) | ht
  · exact .inr (.inr (hopening t ht))
  · rcases List.mem_append.mp ht with ht | ht
    · rcases List.mem_append.mp hts with hts | hts
      · obtain ⟨s, -, rfl⟩ := List.mem_map.mp hts
        exact .inl ⟨s, by simpa using ht⟩
      · obtain ⟨b, hb, rfl⟩ := List.mem_map.mp hts
        obtain ⟨hkey, hheld⟩ := hvalue _ _ h b hb
        simp only [List.mem_cons] at ht
        rcases ht with rfl | rfl | ht
        · refine .inr (.inr ?_)
          simp [vocabulary, hkey]
        · exact .inr (.inr (hfixed _ (by decide)))
        · rcases hheld t ht with hs | hn | hmem
          · exact .inl hs
          · exact .inr (.inl hn)
          · exact .inr (.inr (hfixed t hmem))
    · simp only [List.mem_cons, List.not_mem_nil, or_false] at ht
      rcases ht with rfl | rfl
      · exact .inr (.inr (hfixed _ (by decide)))
      · exact .inr (.inr (hopening _ (by decide)))
  · refine .inr (.inr (hfixed t ?_))
    simp only [List.mem_singleton] at ht
    subst ht
    decide

lemma names_head (f : Field) (purpose : Purpose) : (f.reading purpose).names.head? =
    some (if f.kind = .flag then "--" ++ f.name ++ "/--no-" ++ f.name else "--" ++ f.name) := by
  have hflag : f.flag =
      if f.kind = .flag then "--" ++ f.name ++ "/--no-" ++ f.name else "--" ++ f.name := by
    unfold Field.flag
    cases f.kind <;> rfl
  rw [← hflag]
  unfold reading Field.names
  split
  · rfl
  · split <;> rfl

lemma choices_read {f : Field} (purpose : Purpose) (h : f.kind = .choice) :
    ((f.reading purpose).value? "type").map literals =
      some (if f.props.required then f.props.choices else [] :: f.props.choices) := by
  have hlist : (f.reading purpose).value? "type" =
      some (callTokens "Choice" (listTokens (choiceList f.props))) := by
    unfold Reading.value? reading kindReading
    rw [h]
    rfl
  rw [hlist, Option.map_some, ← choiceList]
  have hliterals := literals_listTokens (choiceList f.props)
  simpa [literals, callTokens, List.filterMap_append] using hliterals

lemma default_read {f : Field} {text : Text}
    (hkind : f.kind = .text ∨ f.kind = .other ∨ (f.kind = .choice ∧ ¬ f.props.multiple))
    (h : f.props.default? = some text) :
    (f.reading .create).value? "default" = some [.string text] := by
  have hdefault : f.defaultReading = [.string text] := by
    unfold defaultReading isMultiple
    rcases hkind with hk | hk | ⟨hk, hm⟩
    · simp [hk, h]
    · simp [hk, h]
    · simp [hk, h, hm]
  have hvalue : (f.reading .create).value? "default" = some f.defaultReading := by
    unfold Reading.value? reading kindReading purposeReading
    rcases hkind with hk | hk | ⟨hk, hm⟩
    · simp [hk, List.lookup_cons]
    · simp [hk, List.lookup_cons]
    · simp [hk, hm, List.lookup_cons]
  rw [hvalue, hdefault]

/-- **No text of a model escapes its quotes.** The source of the option of any field element, for
creating as for updating, is one decorator with a physical line for each item, and what the model
says is in it as literals, which give it back, or as bare numerals. -/
theorem code?_isQuoted (e : Element) (purpose : Purpose) (code : Text)
    (h : (Field.ofElement e).code? purpose = some code) :
    IsQuoted (Field.ofElement e) purpose code := by
  generalize Field.ofElement e = f at h ⊢
  obtain ⟨d, hd, rfl⟩ := Option.map_eq_some_iff.mp h
  obtain ⟨hnames, harguments⟩ := arguments_read hd
  have hitems := items_read (r := f.reading purpose) hnames harguments
  have htokens := tokens_render (hitems.imp fun _ _ hitem => hitem.1)
  refine
    { tokens := htokens
      lines := ⟨d.items.map body, splitOn_render hitems, ?_⟩
      noReturn := return_notMem htokens
      held := held_tokens harguments
      flag := names_head f purpose
      names := rfl
      help := ?_
      choices := choices_read purpose
      default := ?_ }
  · rw [List.length_map, hitems.length_eq]
    simp [Reading.items]
  · rfl
  · rintro rfl hkind text hdefault
    exact default_read hkind hdefault

/-- A choice whose name, values and default hold quotes, a backslash and the end of a line. -/
def hostile : Element :=
  { name := "it's", attributes := [("type", "OptionField")],
    children := [{ name := "default", text := "a\\'" },
      { name := "OptionValues", children := [{ name := "b\n" }, { name := "c'," }] }] }

def hostileCode : Text :=
  "@click.option(\n    '--it\\'s',\n    'it_s',\n    help='The value for it\\'s.',\n" ++
    "    type=click.Choice(['', 'b\\n', 'c\\',']),\n    show_default=True,\n" ++
    "    default='a\\\\\\'',\n    required=False,\n)"

theorem hostile_isQuoted : (Field.ofElement hostile).code? .create = some hostileCode ∧
    IsQuoted (Field.ofElement hostile) .create hostileCode := by
  have h : (Field.ofElement hostile).code? .create = some hostileCode := by decide +kernel
  exact ⟨h, code?_isQuoted hostile .create hostileCode h⟩

end Field

end ClickGen
