import ClickGen.Proofs.File.Stray
import ClickGen.Proofs.Request.OnDisk

/-!
Requests made again. What a request renders depends on files only by what it reads in them, so that
it renders the same as long as these keep their content. Where its artifacts go does not depend on
files at all; they are there after the first run, and a second run that leaves files alone skips
every one of them.
-/

namespace ClickGen

namespace FileTree

structure KeepsFiles (t t' : FileTree) : Prop extends Keeps t t' where
  file : ∀ {place content}, t.file? place = some content → t'.file? place = some content

variable {t t' : FileTree} {path : Bytes}

lemma KeepsFiles.read (h : KeepsFiles t t') {content : Bytes} (hr : t.read path = .ok content) :
    t'.read path = .ok content := by
  rw [read_eq_ok] at hr ⊢
  obtain ⟨place, hlocate, hfile⟩ := hr
  exact ⟨place, h.locate hlocate, h.file hfile⟩

lemma KeepsFiles.readText (h : KeepsFiles t t') {s : Text} (hr : t.readText path = .ok s) :
    t'.readText path = .ok s := by
  obtain ⟨content, hread, hs⟩ := bind_eq_ok.mp hr
  exact bind_eq_ok.mpr ⟨content, h.read hread, hs⟩

end FileTree

open FileTree (KeepsFiles)

section Rendering

variable {t t' : FileTree} {web : Web}

lemma Locator.fetch_eq_ok {locator : Locator} {s : Text} :
    locator.fetch t web = .ok s ↔
      ∃ bytes, locator.fetchBytes t web = .ok bytes ∧ Text.ofUtf8 bytes = .ok s := by
  unfold Locator.fetch
  cases locator.fetchBytes t web with
  | error fault => simp
  | ok bytes => simp [mapError_eq_ok]

lemma fetch_of_keepsFiles (h : KeepsFiles t t') {locator : Locator} {s : Text}
    (hs : locator.fetch t web = .ok s) : locator.fetch t' web = .ok s := by
  rw [Locator.fetch_eq_ok] at hs ⊢
  obtain ⟨bytes, hbytes, hs⟩ := hs
  refine ⟨bytes, ?_, hs⟩
  cases locator with
  | remote url => exact hbytes
  | onDisk path => exact mapError_eq_ok.mpr (h.read (mapError_eq_ok.mp hbytes))

lemma resolve_of_keepsFiles (h : KeepsFiles t t') {locator tag : Text} {e : Element}
    (he : resolve t locator tag web = .ok e) : resolve t' locator tag web = .ok e := by
  obtain ⟨place, hplace, he⟩ := bind_eq_ok.mp he
  obtain ⟨model, hmodel, he⟩ := bind_eq_ok.mp he
  obtain ⟨xml, hxml, hmodel⟩ := bind_eq_ok.mp hmodel
  have hmodel' : Model.load t' web place = .ok model :=
    bind_eq_ok.mpr ⟨xml, fetch_of_keepsFiles h hxml, hmodel⟩
  exact bind_eq_ok.mpr ⟨place, hplace, bind_eq_ok.mpr ⟨model, hmodel', he⟩⟩

lemma renderFile_of_keepsFiles (h : KeepsFiles t t') {directory template : Text}
    {globals : Template.Frame} {s : Text}
    (hs : Template.renderFile t directory template globals = .ok s) :
    Template.renderFile t' directory template globals = .ok s := by
  unfold Template.renderFile at hs ⊢
  simp only at hs ⊢
  split at hs
  · cases hs
  · next source hsource =>
    rw [h.readText hsource]
    exact hs

end Rendering

/-- Where the module of a command is, among modules. -/
def CommandSpec.modulePath (spec : CommandSpec) : Text :=
  Path.join (Text.snake spec.group) (Text.snake spec.command ++ ".py")

def Placed.skip (p : Placed) : Placed := { p with result := .skipped }

namespace Request

open FileTree (WriteResult)

def destination (r : Request) (kind : ArtifactKind) : Text :=
  Path.join (r.layout kind).directory r.spec.modulePath

variable {r : Request} {t t' : FileTree} {web : Web}

lemma renderOne_of_keepsFiles (h : KeepsFiles t t') {kind : ArtifactKind} {a : Artifact}
    (ha : r.renderOne t kind web = .ok a) : r.renderOne t' kind web = .ok a := by
  obtain ⟨v, hv, ha⟩ := bind_eq_ok.mp ha
  obtain ⟨e, he, hv⟩ := bind_eq_ok.mp hv
  obtain ⟨content, hcontent, ha⟩ := bind_eq_ok.mp ha
  have hv' : r.derive t' web = .ok v := bind_eq_ok.mpr ⟨e, resolve_of_keepsFiles h he, hv⟩
  exact bind_eq_ok.mpr ⟨v, hv', bind_eq_ok.mpr ⟨content, renderFile_of_keepsFiles h hcontent, ha⟩⟩

lemma render_of_keepsFiles (h : KeepsFiles t t') {as : List Artifact}
    (has : r.render t web = .ok as) : r.render t' web = .ok as :=
  renderKinds_eq_ok.mpr
    ((renderKinds_eq_ok.mp has).imp fun _ _ ha => renderOne_of_keepsFiles h ha)

lemma renderOne_path {kind : ArtifactKind} {a : Artifact} (h : r.renderOne t kind web = .ok a) :
    r.path a = r.destination kind := by
  obtain ⟨v, hv, h⟩ := bind_eq_ok.mp h
  obtain ⟨e, -, hv⟩ := bind_eq_ok.mp hv
  obtain ⟨content, -, h⟩ := bind_eq_ok.mp h
  cases hv
  cases h
  rfl

lemma map_placed_of_renderKinds {view : ArtifactKind → FileTree} {web : ArtifactKind → Web}
    {kinds : List ArtifactKind} {as : List Artifact} (h : renderKinds view web r kinds = .ok as)
    (result : WriteResult) : as.map (r.placed · result) =
      kinds.map fun kind => ⟨kind, r.destination kind, result⟩ := by
  replace h := renderKinds_eq_ok.mp h
  induction h with
  | nil => rfl
  | cons ha _ ih =>
    rw [List.map_cons, List.map_cons, ih, placed, renderOne_kind ha, renderOne_path ha]

lemma path_mem_of_render {as : List Artifact} (h : r.render t web = .ok as) {a : Artifact}
    (ha : a ∈ as) : ∃ kind, r.path a = r.destination kind := by
  have hmem := List.mem_map_of_mem ha (f := (r.placed · .written))
  rw [map_placed_of_renderKinds h] at hmem
  obtain ⟨kind, -, heq⟩ := List.mem_map.mp hmem
  exact ⟨kind, (congrArg Placed.path heq).symm⟩

/-! ### What is skipped -/

lemma Run.map_skip {as : List Artifact} {done : List Placed} (h : Run r t as t' (.ok done)) :
    done.map Placed.skip = as.map (r.placed · .skipped) := by
  induction as generalizing t done with
  | nil =>
    cases h
    rfl
  | cons a rest ih =>
    obtain ⟨next, result, more, -, hrun, rfl⟩ := h.of_cons_ok
    rw [List.map_cons, List.map_cons, ih hrun]
    rfl

lemma exists?_of_store {next : FileTree} {a : Artifact} {result : WriteResult}
    (h : r.store t a = (next, .ok result)) : next.exists? (Text.toUtf8 (r.path a)) := by
  cases stores h with
  | skipped _ present => exact present
  | written _ _ locate => exact FileTree.exists?_iff.mpr ⟨_, locate⟩

lemma Run.exists? {as : List Artifact} {done : List Placed} (h : Run r t as t' (.ok done))
    {a : Artifact} (ha : a ∈ as) : t'.exists? (Text.toUtf8 (r.path a)) := by
  induction as generalizing t done with
  | nil => cases ha
  | cons other rest ih =>
    obtain ⟨next, result, more, hstore, hrun, rfl⟩ := h.of_cons_ok
    rcases List.mem_cons.mp ha with rfl | hrest
    · exact hrun.keeps.exists? (exists?_of_store hstore)
    · exact ih hrun hrest

lemma placeAll_skipped (hrule : r.overwrite = .ifMissing) {as : List Artifact}
    (h : ∀ a ∈ as, t.exists? (Text.toUtf8 (r.path a))) :
    r.placeAll t as = (t, .ok (as.map (r.placed · .skipped))) := by
  induction as with
  | nil => rfl
  | cons a rest ih =>
    have hstore : r.store t a = (t, .ok .skipped) := by
      rw [store, hrule, FileTree.store, if_pos ⟨rfl, h a (by simp)⟩]
    have hrest := ih fun other hother => h other (by simp [hother])
    rw [placeAll, place_eq, hstore]
    simp only [hrest, List.map_cons]

/-- **Made again**, a request that leaves files alone skips everything and changes nothing, if it
can still be rendered. -/
theorem generate_again (hrule : r.overwrite = .ifMissing) {done : List Placed}
    (h : r.generate t web = (t', .ok done)) :
    r.generate t' web = (t', .ok (done.map Placed.skip)) ↔ ∃ as, r.render t' web = .ok as := by
  rcases generate_run h with ⟨failure, -, -, hfail⟩ | ⟨as, hrender, hrun⟩
  · cases hfail
  constructor
  · intro hagain
    rcases generate_run hagain with ⟨failure, -, -, hfail⟩ | ⟨again, hrender', -⟩
    · cases hfail
    · exact ⟨again, hrender'⟩
  · rintro ⟨again, hrender'⟩
    have hsame : again.map (r.placed · .skipped) = as.map (r.placed · .skipped) := by
      rw [map_placed_of_renderKinds hrender, map_placed_of_renderKinds hrender']
    have hthere : ∀ a ∈ again, t'.exists? (Text.toUtf8 (r.path a)) := by
      intro a ha
      have hmem := List.mem_map_of_mem ha (f := (r.placed · .skipped))
      rw [hsame] at hmem
      obtain ⟨first, hfirst, heq⟩ := List.mem_map.mp hmem
      have hpath : r.path first = r.path a := congrArg Placed.path heq
      exact hpath ▸ hrun.exists? hfirst
    rw [generate, hrender']
    simp only [placeAll_skipped hrule hthere, hsame, hrun.map_skip]

end Request

end ClickGen
