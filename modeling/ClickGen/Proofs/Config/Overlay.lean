import ClickGen.Proofs.Config.Settings

/-!
A configuration as a layer over the defaults.

What a document mentions is taken from its entries wherever they stand, so that nothing here
depends on the order of keys. Main statement, for documents whose known names are tables: a
configuration is read exactly if there is no unknown name in the document or in its tables and
every setting has a value of its kind; then each setting that is mentioned is what is given there,
and each other one is its default, whatever else is mentioned.
-/

namespace ClickGen.Config

def IsTexts (v : Toml.Value) (texts : List Text) : Prop :=
  ∃ byHeaders items, v = .array byHeaders items ∧ items.map (·.2) = texts.map .text

def IsPath (v : Toml.Value) (path? : Option Text) : Prop := ∃ t, v = .text t ∧ path? = some t

variable {item : Item} {texts : List Text}

lemma readString_eq_ok {expected t : Text} :
    readString expected item = .ok t ↔ item.2 = .text t := by
  obtain ⟨span, v⟩ := item
  cases v <;> simp [readString]

lemma mapM_readString_eq_ok {expected : Text} {items : List Item} :
    items.mapM (readString expected) = .ok texts ↔ items.map (·.2) = texts.map .text := by
  induction items generalizing texts with
  | nil =>
    rw [List.mapM_nil, pure_eq_ok, List.map_nil]
    exact (List.map_eq_nil_iff.trans eq_comm).symm.trans eq_comm
  | cons item items ih =>
    rw [List.mapM_cons, bind_eq_ok, List.map_cons]
    constructor
    · rintro ⟨t, ht, hrest⟩
      obtain ⟨others, hothers, heq⟩ := bind_eq_ok.mp hrest
      obtain rfl := pure_eq_ok.mp heq
      rw [readString_eq_ok.mp ht, ih.mp hothers, List.map_cons]
    · intro h
      cases texts with
      | nil => cases h
      | cons t others =>
        obtain ⟨ht, hothers⟩ := List.cons.inj h
        exact ⟨t, readString_eq_ok.mpr ht, bind_eq_ok.mpr ⟨others, ih.mpr hothers, rfl⟩⟩

lemma readStrings_eq_ok : readStrings item = .ok texts ↔ IsTexts item.2 texts := by
  obtain ⟨span, v⟩ := item
  cases v with
  | array byHeaders items =>
    refine mapM_readString_eq_ok.trans ⟨fun h => ⟨byHeaders, items, rfl, h⟩, ?_⟩
    rintro ⟨_, _, heq, h⟩
    obtain ⟨rfl, rfl⟩ := Toml.Value.array.inj heq
    exact h
  | _ => simp [readStrings, IsTexts]

lemma readPath_eq_ok {path? : Option Text} : readPath item = .ok path? ↔ IsPath item.2 path? := by
  unfold readPath
  rw [map_eq_pure_bind, bind_eq_ok]
  exact exists_congr fun t => and_congr readString_eq_ok (pure_eq_ok.trans eq_comm)

/-! ### What a document mentions -/

/-- The document has a table of the name, in which the key has the value. -/
def Mentions (entries : Toml.Entries) (table name : Text) (v : Toml.Value) : Prop :=
  ∃ maker inner, Given entries table (.table maker inner) ∧ Given inner name v

def tableNames : List Text := ["policy", "paths"]

def policyNames : List Text := ["ignored_types", "ignored_create_names", "ignored_update_names"]

def pathNames : List Text :=
  ["template_basedir", "template_command", "template_facade", "command_output_dir",
    "facade_output_dir"]

/-- What stands under the known names are tables. -/
def HasTables (entries : Toml.Entries) : Prop :=
  ∀ entry ∈ entries, entry.1.name ∈ tableNames → ∃ maker inner, entry.2.2 = .table maker inner

/-- The table has a setting of the name, and the value is one for it. -/
def Fits (table name : Text) (v : Toml.Value) : Prop :=
  table = "policy".toList ∧ name ∈ policyNames ∧ (∃ texts, IsTexts v texts) ∨
    table = "paths".toList ∧ name ∈ pathNames ∧ ∃ t, v = .text t

/-- Nothing is unknown, and every value fits its setting. -/
structure IsUsable (entries : Toml.Entries) : Prop where
  known : ∀ entry ∈ entries, entry.1.name ∈ tableNames
  fits : ∀ table name v, Mentions entries table name v → Fits table name v

/-- The configuration has what the entries mention, and is the default one in all else. -/
structure IsOverlay (entries : Toml.Entries) (c : Config) : Prop where
  ignoredTypes : Takes IsTexts (Mentions entries "policy" "ignored_types")
    ["UniqueIdField"] c.policy.ignoredTypes
  ignoredCreateNames : Takes IsTexts (Mentions entries "policy" "ignored_create_names")
    ["name"] c.policy.ignoredCreateNames
  ignoredUpdateNames : Takes IsTexts (Mentions entries "policy" "ignored_update_names")
    [] c.policy.ignoredUpdateNames
  templates? : Takes IsPath (Mentions entries "paths" "template_basedir")
    none c.paths.templates?
  commandTemplate? : Takes IsPath (Mentions entries "paths" "template_command")
    none c.paths.commandTemplate?
  facadeTemplate? : Takes IsPath (Mentions entries "paths" "template_facade")
    none c.paths.facadeTemplate?
  commandDirectory? : Takes IsPath (Mentions entries "paths" "command_output_dir")
    none c.paths.commandDirectory?
  facadeDirectory? : Takes IsPath (Mentions entries "paths" "facade_output_dir")
    none c.paths.facadeDirectory?

lemma governs_policySettings :
    Governs policySettings "ignored_types" (·.ignoredTypes) (fun _ => IsTexts) ∧
      Governs policySettings "ignored_create_names" (·.ignoredCreateNames) (fun _ => IsTexts) ∧
      Governs policySettings "ignored_update_names" (·.ignoredUpdateNames) (fun _ => IsTexts) := by
  unfold policySettings
  refine ⟨.own rfl ?_ (.other (by decide) ?_ (.other (by decide) ?_ .nil)),
    .other (by decide) ?_ (.own rfl ?_ (.other (by decide) ?_ .nil)),
    .other (by decide) ?_ (.other (by decide) ?_ (.own rfl ?_ .nil))⟩
  all_goals first
    | exact keeps_of_read fun _ _ => rfl
    | exact sets_of_read (fun _ _ => rfl) fun _ _ _ => readStrings_eq_ok.mp

lemma governs_pathSettings :
    Governs pathSettings "template_basedir" (·.templates?) (fun _ => IsPath) ∧
      Governs pathSettings "template_command" (·.commandTemplate?) (fun _ => IsPath) ∧
      Governs pathSettings "template_facade" (·.facadeTemplate?) (fun _ => IsPath) ∧
      Governs pathSettings "command_output_dir" (·.commandDirectory?) (fun _ => IsPath) ∧
      Governs pathSettings "facade_output_dir" (·.facadeDirectory?) (fun _ => IsPath) := by
  unfold pathSettings
  refine ⟨?_, ?_, ?_, ?_, ?_⟩
  all_goals repeat' first
    | exact .nil
    | refine .other (by decide) (keeps_of_read fun _ _ => rfl) ?_
    | refine .own rfl (sets_of_read (fun _ _ => rfl) fun _ _ _ => readPath_eq_ok.mp) ?_

/-- What a setting that is a table takes over: all that the table says. -/
def TakesOver {α : Type} (settings : List (Setting α)) (a : α) (v : Toml.Value) (b : α) : Prop :=
  ∀ maker inner, v = .table maker inner → applyEntries settings a inner = .ok b

lemma takesOver_of_applyValue {α : Type} {label : Text} {settings : List (Setting α)} {a b : α}
    (h : applyValue label settings item a = .ok b) : TakesOver settings a item.2 b := by
  rintro maker inner heq
  rw [applyValue, heq] at h
  exact h

lemma governs_settings :
    Governs settings "policy" (·.policy) (TakesOver policySettings) ∧
      Governs settings "paths" (·.paths) (TakesOver pathSettings) := by
  unfold settings
  refine ⟨.own rfl ?_ (.other (by decide) ?_ .nil), .other (by decide) ?_ (.own rfl ?_ .nil)⟩
  all_goals first
    | exact keeps_of_read fun _ _ => rfl
    | exact sets_of_read (fun _ _ => rfl) fun _ _ _ => takesOver_of_applyValue

/-! ### What can be used -/

variable {entries inner : Toml.Entries}

lemma exists_applyEntries_policySettings (p : Policy) :
    (∃ p', applyEntries policySettings p inner = .ok p') ↔
      ∀ entry ∈ inner, Fits "policy" entry.1.name entry.2.2 := by
  have hread (item : Item) (p : Policy) :
      (∃ texts, readStrings item = .ok texts) ↔ ∃ texts, IsTexts item.2 texts :=
    exists_congr fun _ => readStrings_eq_ok
  rw [exists_applyEntries fun _ item => ∃ texts, IsTexts item.2 texts]
  · exact forall₂_congr fun _ _ => by simp [Fits, namesOf, policySettings, policyNames]
  · rintro entry - setting hmem -
    simp only [policySettings, List.mem_cons, List.not_mem_nil, or_false] at hmem
    rcases hmem with rfl | rfl | rfl <;> exact accepts_of_read (hread entry.2)

lemma exists_applyEntries_pathSettings (p : Paths) :
    (∃ p', applyEntries pathSettings p inner = .ok p') ↔
      ∀ entry ∈ inner, Fits "paths" entry.1.name entry.2.2 := by
  have hread (item : Item) (p : Paths) :
      (∃ path?, readPath item = .ok path?) ↔ ∃ t, item.2 = .text t := by
    simp [readPath_eq_ok, IsPath]
  rw [exists_applyEntries fun _ item => ∃ t, item.2 = .text t]
  · exact forall₂_congr fun _ _ => by simp [Fits, namesOf, pathSettings, pathNames]
  · rintro entry - setting hmem -
    simp only [pathSettings, List.mem_cons, List.not_mem_nil, or_false] at hmem
    rcases hmem with rfl | rfl | rfl | rfl | rfl <;> exact accepts_of_read (hread entry.2)

def FitsInside (table : Text) (v : Toml.Value) : Prop :=
  ∀ maker inner, v = .table maker inner → ∀ entry ∈ inner, Fits table entry.1.name entry.2.2

lemma exists_applyValue {α : Type} {label table : Text} {settings : List (Setting α)}
    (h : ∀ a inner, (∃ b, applyEntries settings a inner = .ok b) ↔
      ∀ entry ∈ inner, Fits table entry.1.name entry.2.2)
    {maker : Toml.Maker} (hitem : item.2 = .table maker inner) (a : α) :
    (∃ b, applyValue label settings item a = .ok b) ↔ FitsInside table item.2 := by
  rw [applyValue, hitem, h]
  refine ⟨fun hfits maker inner heq => ?_, fun hfits => hfits maker inner rfl⟩
  obtain ⟨-, rfl⟩ := Toml.Value.table.inj heq
  exact hfits

lemma exists_ofEntries (htables : HasTables entries) :
    (∃ c, ofEntries entries = .ok c) ↔
      ∀ entry ∈ entries, entry.1.name ∈ tableNames ∧ FitsInside entry.1.name entry.2.2 := by
  refine exists_applyEntries (fun table item => FitsInside table item.2) ?_ ({} : Config)
  intro entry hentry setting hmem hname
  simp only [settings, List.mem_cons, List.not_mem_nil, or_false] at hmem
  have hknown : entry.1.name ∈ tableNames := by
    rw [← hname]
    rcases hmem with rfl | rfl <;> decide
  obtain ⟨maker, inner, hitem⟩ := htables entry hentry hknown
  rcases hmem with rfl | rfl
  · exact accepts_of_read fun c =>
      exists_applyValue (fun p _ => exists_applyEntries_policySettings p) hitem c.policy
  · exact accepts_of_read fun c =>
      exists_applyValue (fun p _ => exists_applyEntries_pathSettings p) hitem c.paths

lemma isUsable_iff : IsUsable entries ↔
    ∀ entry ∈ entries, entry.1.name ∈ tableNames ∧ FitsInside entry.1.name entry.2.2 := by
  constructor
  · rintro ⟨hknown, hfits⟩ ⟨key, span, v⟩ hmem
    refine ⟨hknown _ hmem, ?_⟩
    rintro maker inner rfl ⟨inside, span', v'⟩ hinside
    exact hfits _ _ _ ⟨maker, inner, ⟨key, span, hmem, rfl⟩, inside, span', hinside, rfl⟩
  · intro h
    refine ⟨fun entry hmem => (h entry hmem).1, ?_⟩
    rintro table name v ⟨maker, inner, ⟨key, span, hmem, rfl⟩, inside, span', hinside, rfl⟩
    exact (h _ hmem).2 maker inner rfl _ hinside

lemma Governs.takes_mentions {α β : Type} {settings : List (Setting α)} {name table : Text}
    {get : α → β} {reads : β → Toml.Value → β → Prop} {a b : α}
    (hgoverns : Governs settings name get reads) (hdistinct : entries.IsDistinct)
    (htables : HasTables entries) (htable : table ∈ tableNames)
    (htakes : Takes (TakesOver settings a) (Given entries table) a b) :
    Takes (reads (get a)) (Mentions entries table name) (get a) (get b) := by
  have htakesInner {maker : Toml.Maker} {inner : Toml.Entries}
      (hgiven : Given entries table (.table maker inner)) :
      Takes (reads (get a)) (Given inner name) (get a) (get b) := by
    obtain ⟨key, span, hmem, -⟩ := id hgiven
    have hinner : inner.IsDistinct :=
      Toml.Value.isDistinct_table_iff.mp (hdistinct.values _ hmem)
    exact hgoverns.takes hinner.names (htakes.1 _ hgiven maker inner rfl)
  constructor
  · rintro v ⟨maker, inner, hgiven, hinside⟩
    exact (htakesInner hgiven).1 v hinside
  · intro hno
    by_cases hgiven : ∃ maker inner, Given entries table (.table maker inner)
    · obtain ⟨maker, inner, hgiven⟩ := hgiven
      exact (htakesInner hgiven).2 fun v hinside => hno v ⟨maker, inner, hgiven, hinside⟩
    · rw [htakes.2]
      rintro v ⟨key, span, hmem, rfl⟩
      obtain ⟨maker, inner, rfl⟩ := htables _ hmem htable
      exact hgiven ⟨maker, inner, key, span, hmem, rfl⟩

lemma isOverlay_of_ofEntries {c : Config} (hdistinct : entries.IsDistinct)
    (htables : HasTables entries) (h : ofEntries entries = .ok c) : IsOverlay entries c := by
  have hpolicy := governs_settings.1.takes hdistinct.names h
  have hpaths := governs_settings.2.takes hdistinct.names h
  obtain ⟨hignored, hcreate, hupdate⟩ := governs_policySettings
  obtain ⟨htemplates, hcommand, hfacade, hcommandOut, hfacadeOut⟩ := governs_pathSettings
  exact ⟨hignored.takes_mentions hdistinct htables (by decide) hpolicy,
    hcreate.takes_mentions hdistinct htables (by decide) hpolicy,
    hupdate.takes_mentions hdistinct htables (by decide) hpolicy,
    htemplates.takes_mentions hdistinct htables (by decide) hpaths,
    hcommand.takes_mentions hdistinct htables (by decide) hpaths,
    hfacade.takes_mentions hdistinct htables (by decide) hpaths,
    hcommandOut.takes_mentions hdistinct htables (by decide) hpaths,
    hfacadeOut.takes_mentions hdistinct htables (by decide) hpaths⟩

lemma parse_eq_ok {source : Text} {c : Config} (hread : Toml.parse? source = some entries) :
    parse source = .ok c ↔ ofEntries entries = .ok c := by
  rw [parse, hread]
  exact mapError_eq_ok

/-- **A configuration overlays the defaults.** A document is a configuration exactly if it knows
all its names and has a fitting value for each; every setting is then what the document gives for
it, or its default. -/
theorem parse_overlay {source : Text} (hread : Toml.parse? source = some entries)
    (htables : HasTables entries) :
    ((∃ c, parse source = .ok c) ↔ IsUsable entries) ∧
      ∀ c, parse source = .ok c → IsOverlay entries c := by
  refine ⟨?_, fun c hparse => ?_⟩
  · rw [isUsable_iff, ← exists_ofEntries htables]
    exact exists_congr fun _ => parse_eq_ok hread
  · exact isOverlay_of_ofEntries (Toml.parse?_isDistinct hread) htables
      ((parse_eq_ok hread).mp hparse)

/-- A document with one setting in each table. -/
def layered : Text := "[paths]\ntemplate_facade='f'\n[policy]\nignored_types=['a']"

def layeredEntries : Toml.Entries :=
  [(⟨"paths", ⟨1, 6⟩⟩, ⟨0, 7⟩, .table .header
      [(⟨"template_facade", ⟨8, 23⟩⟩, ⟨24, 27⟩, .text "f")]),
    (⟨"policy", ⟨29, 35⟩⟩, ⟨28, 36⟩, .table .header
      [(⟨"ignored_types", ⟨37, 50⟩⟩, ⟨51, 56⟩, .array false [(⟨52, 55⟩, .text "a")])])]

lemma layered_eq : layered =
    ['[', 'p', 'a', 't', 'h', 's', ']', '\n', 't', 'e', 'm', 'p', 'l', 'a', 't', 'e', '_', 'f', 'a',
      'c', 'a', 'd', 'e', '=', '\'', 'f', '\'', '\n', '[', 'p', 'o', 'l', 'i', 'c', 'y', ']', '\n',
      'i', 'g', 'n', 'o', 'r', 'e', 'd', '_', 't', 'y', 'p', 'e', 's', '=', '[', '\'', 'a', '\'',
      ']'] := by decide

set_option maxRecDepth 4000 in
lemma parse?_layered : Toml.parse? layered = some layeredEntries := by
  rw [layered_eq]
  rfl

lemma of_mentions_layered {table name : Text} {v : Toml.Value}
    (h : Mentions layeredEntries table name v) :
    table = "paths".toList ∧ name = "template_facade".toList ∧ v = .text "f" ∨
      table = "policy".toList ∧ name = "ignored_types".toList ∧
        v = .array false [(⟨52, 55⟩, .text "a")] := by
  obtain ⟨maker, inner, ⟨key, span, hmem, rfl⟩, inside, span', hinside, rfl⟩ := h
  simp only [layeredEntries, List.mem_cons, List.not_mem_nil, or_false, Prod.mk.injEq,
    Toml.Value.table.injEq] at hmem
  rcases hmem with ⟨rfl, -, -, rfl⟩ | ⟨rfl, -, -, rfl⟩
  · obtain ⟨rfl, -, rfl⟩ := by simpa using hinside
    exact .inl ⟨rfl, rfl, rfl⟩
  · obtain ⟨rfl, -, rfl⟩ := by simpa using hinside
    exact .inr ⟨rfl, rfl, rfl⟩

theorem parse_overlay_layered : ∃ c, parse layered = .ok c ∧
    c.policy.ignoredCreateNames = ["name".toList] ∧ c.paths.facadeTemplate? = some "f".toList := by
  have htables : HasTables layeredEntries := by
    simp [HasTables, layeredEntries]
  have husable : IsUsable layeredEntries := by
    refine ⟨by simp [layeredEntries, tableNames], fun table name v h => ?_⟩
    rcases of_mentions_layered h with ⟨rfl, rfl, rfl⟩ | ⟨rfl, rfl, rfl⟩
    · exact .inr ⟨rfl, by decide, "f", rfl⟩
    · exact .inl ⟨rfl, by decide, ["a"], false, _, rfl, rfl⟩
  obtain ⟨hexists, hoverlay⟩ := parse_overlay parse?_layered htables
  obtain ⟨c, hc⟩ := hexists.mpr husable
  refine ⟨c, hc, (hoverlay c hc).ignoredCreateNames.2 fun v h => ?_, ?_⟩
  · rcases of_mentions_layered h with ⟨h, -⟩ | ⟨-, h, -⟩
    · exact absurd h (by decide)
    · exact absurd h (by decide)
  · obtain ⟨t, ht, hpath⟩ := (hoverlay c hc).facadeTemplate?.1 (.text "f")
      ⟨.header, _, ⟨_, _, List.mem_cons_self, rfl⟩, _, _, List.mem_cons_self, rfl⟩
    obtain rfl := Toml.Value.text.inj ht
    exact hpath

end ClickGen.Config
