import ClickGen.Proofs.Code.ListLiteral
import ClickGen.Proofs.Field.Update
import ClickGen.Proofs.Text.Trim

/-!
Defaults of several values.

A field that takes several values has its default as one text, with commas between the values and
white space around them. The option that creates an entry has the values as a list of literals. Main
statement: the list is read back as the parts between the commas without the white space around
them, except for those that are blank; and nothing more is lost, because the values with commas
between them are a default for the same list.
-/

namespace ClickGen

open Code Decorator

namespace Decorator

def listDefault? (source : Text) : Option (List Text) :=
  ((argumentsOf source).lookup "default".toList).bind readList?

end Decorator

namespace Field

/-- The field has an option that takes several values. -/
def TakesSeveral (f : Field) : Prop :=
  f.kind = .list ∨ f.kind = .choice ∧ f.props.multiple ∧ f.props.choices ≠ []

structure IsValue (v : Text) : Prop where
  comma_notMem : ',' ∉ v
  ne_nil : v ≠ []
  isTrimmed : Text.IsTrimmed Text.isBlank v

lemma isValue_of_mem_listed {d v : Text} (h : v ∈ listed d) : IsValue v := by
  obtain ⟨hmem, hne⟩ := List.mem_filter.mp h
  obtain ⟨part, hpart, rfl⟩ := List.mem_map.mp hmem
  exact
    { comma_notMem := fun hcomma =>
        Text.notMem_of_mem_splitOn hpart (Text.mem_of_mem_trim hcomma)
      ne_nil := by simpa using hne
      isTrimmed := Text.isTrimmed_trim _ _ }

lemma listed_intercalate {values : List Text} (h : ∀ v ∈ values, IsValue v) :
    listed (List.intercalate [','] values) = values := by
  by_cases hne : values = []
  · subst hne
    rfl
  have htrim : values.map Text.trimBlank = values :=
    (List.map_congr_left fun v hv => (h v hv).isTrimmed.trim_eq).trans (List.map_id values)
  rw [listed, Text.splitOn_intercalate hne fun v hv => (h v hv).comma_notMem, htrim]
  exact List.filter_eq_self.mpr fun v hv => by simpa using (h v hv).ne_nil

lemma default?_intercalate {values : List Text} (hne : values ≠ []) (h : ∀ v ∈ values, IsValue v)
    {e : Element}
    (he : (e.child? "default").map Element.text = some (List.intercalate [','] values)) :
    (Props.ofElement e).default? = some (List.intercalate [','] values) := by
  obtain ⟨child, hchild, htext⟩ := Option.map_eq_some_iff.mp he
  have hcontent : child.content = List.intercalate [','] values := by
    rw [Element.content, htext]
    exact (Text.isTrimmed_intercalate _ fun v hv => ⟨(h v hv).ne_nil, (h v hv).isTrimmed⟩).trim_eq
  have hfull : (List.intercalate [','] values).isEmpty = false := by
    simpa using Text.intercalate_ne_nil [','] hne fun v hv => (h v hv).ne_nil
  rw [Props.ofElement, Props.textOf?, hchild, Option.bind_some, hcontent, hfull,
    if_neg Bool.false_ne_true]

variable {f : Field} {d : Text}

lemma createDefault_of_takesSeveral (hf : f.TakesSeveral) (hd : f.props.default? = some d) :
    f.createDefault = listLiteral (listed d) := by
  unfold createDefault isMultiple
  rcases hf with hk | ⟨hk, hm, -⟩
  · simp [hk, hd]
  · simp [hk, hd, hm]

lemma exists_code_of_takesSeveral (hf : f.TakesSeveral) (hd : f.props.default? = some d) :
    ∃ code, f.code? .create = some code ∧
      (argumentsOf code).lookup "default".toList = some (listLiteral (listed d)) := by
  have hsome : (f.code? .create).isSome := by
    refine code?_isSome.mpr fun ⟨hk, hempty⟩ => ?_
    rcases hf with hlist | ⟨-, -, hchoices⟩
    · rw [hk] at hlist
      cases hlist
    · exact hchoices hempty
  obtain ⟨code, hcode⟩ := Option.isSome_iff_exists.mp hsome
  exact ⟨code, hcode, by rw [lookup_default f hcode, createDefault_of_takesSeveral hf hd]⟩

/-- **Defaults of several values.** The default of the option is read back as the parts between the
commas of the model's text, in order, without the white space around them and without the blank
ones. Every value can stand between commas. Where there are any, the values with commas between
them are a default that an element can have, and every field with this default that takes several
values has the same default in its option. -/
theorem code?_listDefault (hf : f.TakesSeveral) (hd : f.props.default? = some d) :
    ∃ code values, f.code? .create = some code ∧ listDefault? code = some values ∧
      values = ((Text.splitOn ',' d).map Text.trimBlank).filter (fun part => part ≠ []) ∧
      (∀ v ∈ values, ',' ∉ v ∧ v ≠ [] ∧ Text.IsTrimmed Text.isBlank v) ∧
      (values ≠ [] →
        (∀ e : Element,
          (e.child? "default").map Element.text = some (List.intercalate [','] values) →
          (Props.ofElement e).default? = some (List.intercalate [','] values)) ∧
        ∀ g : Field, g.TakesSeveral →
          g.props.default? = some (List.intercalate [','] values) →
          ∃ code', g.code? .create = some code' ∧ (argumentsOf code').lookup "default".toList =
            (argumentsOf code).lookup "default".toList) := by
  obtain ⟨code, hcode, hdefault⟩ := exists_code_of_takesSeveral hf hd
  have hvalues : ∀ v ∈ listed d, IsValue v := fun v hv => isValue_of_mem_listed hv
  refine ⟨code, listed d, hcode, ?_, ?_, fun v hv => ?_, fun hne => ⟨fun e he => ?_, ?_⟩⟩
  · rw [listDefault?, hdefault, Option.bind_some, readList?_listLiteral]
  · refine List.filter_congr fun part _ => ?_
    rw [Bool.eq_iff_iff]
    simp
  · exact ⟨(hvalues v hv).comma_notMem, (hvalues v hv).ne_nil, (hvalues v hv).isTrimmed⟩
  · exact default?_intercalate hne hvalues he
  · intro g hg hgd
    obtain ⟨code', hcode', hdefault'⟩ := exists_code_of_takesSeveral hg hgd
    rw [listed_intercalate hvalues] at hdefault'
    exact ⟨code', hcode', hdefault'.trans hdefault.symm⟩

/-- A list with a default that has a value twice, a quote, an empty part and a blank one. -/
def scattered : Field := ⟨"lists", .list, { default? := some " a,, it's\t,\u3000,a" }⟩

/-- A choice of several values with the same default, written in the shortest way. -/
def gathered : Field :=
  ⟨"type", .choice, { multiple := true, choices := ["a"], default? := some "a,it's,a" }⟩

theorem code?_listDefault_scattered : scattered.TakesSeveral ∧ gathered.TakesSeveral ∧
    ∃ code code', scattered.code? .create = some code ∧ gathered.code? .create = some code' ∧
      listDefault? code = some ["a".toList, "it's".toList, "a".toList] ∧
      (argumentsOf code').lookup "default".toList = (argumentsOf code).lookup "default".toList := by
  have hscattered : scattered.TakesSeveral := .inl rfl
  have hgathered : gathered.TakesSeveral := .inr ⟨rfl, rfl, by decide⟩
  obtain ⟨code, values, hcode, hread, hvalues, -, hagain⟩ := code?_listDefault hscattered rfl
  obtain rfl : values = ["a".toList, "it's".toList, "a".toList] := by
    rw [hvalues]
    decide
  obtain ⟨code', hcode', hsame⟩ := (hagain (by decide)).2 gathered hgathered rfl
  exact ⟨hscattered, hgathered, code, code', hcode, hcode', hread, hsame⟩

end Field

end ClickGen
