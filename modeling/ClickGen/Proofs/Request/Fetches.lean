import ClickGen.Proofs.Request.OnDisk

/-!
A model that changes while its artifacts are rendered. Each artifact fetches the model on its own,
so that it has the columns of the document that it was shown. Two artifacts of one run agree about the
columns as far as these documents do: always when both were shown the same, and not in general.
-/

namespace ClickGen

lemma resolve_eq_of_fetchBytes {files files' : FileTree} {web web' : Web} {locator : Text}
    (h : ∀ place, Locator.parse locator = .ok place →
      place.fetchBytes files web = place.fetchBytes files' web') (tag : Text) :
    resolve files locator tag web = resolve files' locator tag web' := by
  rw [resolve, resolve]
  cases hplace : Locator.parse locator with
  | error failure => rfl
  | ok place =>
    simp only [ok_bind, Model.load, Locator.fetch, h place hplace]

namespace Request

variable {view : ArtifactKind → FileTree} {web : ArtifactKind → Web} {r : Request}

/-- The artifact is what its kind is rendered to, with these columns, from the files and the web as
they are when its turn comes. -/
def RenderedFrom (view : ArtifactKind → FileTree) (web : ArtifactKind → Web) (r : Request)
    (columns : List Text) (a : Artifact) : Prop :=
  ∃ v, r.derive (view a.kind) (web a.kind) = .ok v ∧ v.columns = columns ∧
    Artifact.render (view a.kind) r.templates (r.layout a.kind).template a.kind v = .ok a

lemma renderOne_fetched {kind : ArtifactKind} {a : Artifact}
    (h : r.renderOne (view kind) kind (web kind) = .ok a) :
    a.kind = kind ∧ ∃ e, resolve (view kind) r.locator r.tag (web kind) = .ok e ∧
      r.RenderedFrom view web (e.children.map Element.name) a := by
  have hkind := renderOne_kind h
  obtain ⟨v, hv, h⟩ := bind_eq_ok.mp h
  obtain ⟨e, he, hderive⟩ := bind_eq_ok.mp hv
  obtain rfl := Except.ok.inj hderive
  subst hkind
  exact ⟨rfl, e, he, _, hv, rfl, h⟩

lemma RenderedFrom.columns_eq {columns : List Text} {a : Artifact} {e : Element}
    (h : r.RenderedFrom view web columns a)
    (he : resolve (view a.kind) r.locator r.tag (web a.kind) = .ok e) :
    columns = e.children.map Element.name := by
  obtain ⟨v, hv, rfl, -⟩ := h
  rw [derive, he, ok_bind] at hv
  rw [← Except.ok.inj hv]
  rfl

/-- **Whether the artifacts agree about the fields**: each of the two artifacts is rendered from the
names of the fields in the document that it was shown. They are rendered from the same columns
exactly when these names are the same in both documents, and so whenever both were shown the same
bytes. -/
theorem renderKinds_columns {as : List Artifact}
    (h : renderKinds view web r ArtifactKind.all = .ok as) :
    ∃ command facade e e', as = [command, facade] ∧
      resolve (view .command) r.locator r.tag (web .command) = .ok e ∧
      resolve (view .facade) r.locator r.tag (web .facade) = .ok e' ∧
      r.RenderedFrom view web (e.children.map Element.name) command ∧
      r.RenderedFrom view web (e'.children.map Element.name) facade ∧
      ((∃ columns, r.RenderedFrom view web columns command ∧
          r.RenderedFrom view web columns facade) ↔
        e.children.map Element.name = e'.children.map Element.name) ∧
      ((∀ place, Locator.parse r.locator = .ok place →
          place.fetchBytes (view .command) (web .command) =
            place.fetchBytes (view .facade) (web .facade)) → e = e') := by
  rcases renderKinds_eq_ok.mp h with _ | ⟨hcommand, _ | ⟨hfacade, _ | _⟩⟩
  next command facade =>
  obtain ⟨hkind, e, he, hrendered⟩ := renderOne_fetched hcommand
  obtain ⟨hkind', e', he', hrendered'⟩ := renderOne_fetched hfacade
  refine ⟨command, facade, e, e', rfl, he, he', hrendered, hrendered', ⟨?_, ?_⟩, ?_⟩
  · rintro ⟨columns, hcolumns, hcolumns'⟩
    rw [← hcolumns.columns_eq (by rw [hkind, he]), ← hcolumns'.columns_eq (by rw [hkind', he'])]
  · intro hsame
    exact ⟨_, hrendered, hsame ▸ hrendered'⟩
  · intro hshown
    have hsame := resolve_eq_of_fetchBytes hshown r.tag
    exact Except.ok.inj (he.symm.trans (hsame.trans he'))

/-! ### A model that changes -/

/-- Two templates that show the columns, and a model with one field of this name. -/
def filesWith (field : Text) : FileTree where
  entries := [
    ([Text.toUtf8 "m"], .file (Text.toUtf8 ("<a><" ++ field ++ "/></a>"))),
    ([Text.toUtf8 "c"], .file (Text.toUtf8 "\x7b\x7b column_list \x7d\x7d")),
    ([Text.toUtf8 "f"], .file (Text.toUtf8 "\x7b\x7b column_list \x7d\x7d"))]

/-- The field gets another name between the two fetches. -/
def renamed : ArtifactKind → FileTree
  | .command => filesWith "x"
  | .facade => filesWith "y"

lemma renderKinds_renamed :
    renderKinds renamed (fun _ => .offline) (sample "x" "y") ArtifactKind.all =
      .ok [⟨.command, "g/k.py", "['x']"⟩, ⟨.facade, "g/k.py", "['y']"⟩] := by decide +kernel

theorem renderKinds_columns_renamed :
    renderKinds renamed (fun _ => .offline) (sample "x" "y") ArtifactKind.all =
        .ok [⟨.command, "g/k.py", "['x']"⟩, ⟨.facade, "g/k.py", "['y']"⟩] ∧
      ∃ command facade e e', [⟨.command, "g/k.py", "['x']"⟩, ⟨.facade, "g/k.py", "['y']"⟩] =
          [command, facade] ∧
        resolve (renamed .command) "m" "a" .offline = .ok e ∧
        resolve (renamed .facade) "m" "a" .offline = .ok e' ∧
        (sample "x" "y").RenderedFrom renamed (fun _ => .offline) (e.children.map Element.name)
          command ∧
        (sample "x" "y").RenderedFrom renamed (fun _ => .offline) (e'.children.map Element.name)
          facade := by
  obtain ⟨command, facade, e, e', has, he, he', hcommand, hfacade, -⟩ :=
    renderKinds_columns renderKinds_renamed
  exact ⟨renderKinds_renamed, command, facade, e, e', has, he, he', hcommand, hfacade⟩

/-- The command lists the field under its first name, and the facade under its second. -/
theorem not_forall_same_columns :
    ¬ ∀ (view : ArtifactKind → FileTree) (web : ArtifactKind → Web) (r : Request)
      (as : List Artifact), renderKinds view web r ArtifactKind.all = .ok as →
        ∃ columns, ∀ a ∈ as, r.RenderedFrom view web columns a := by
  intro h
  obtain ⟨columns, hcolumns⟩ := h _ _ _ _ renderKinds_renamed
  have hcommand := hcolumns _ List.mem_cons_self
  have hfacade := hcolumns _ (List.mem_cons_of_mem _ List.mem_cons_self)
  have he : resolve (renamed .command) "m" "a" .offline =
      .ok ⟨"a", [], [], [⟨"x", [], [], []⟩]⟩ := by decide +kernel
  have he' : resolve (renamed .facade) "m" "a" .offline =
      .ok ⟨"a", [], [], [⟨"y", [], [], []⟩]⟩ := by decide +kernel
  have hx := hcommand.columns_eq he
  have hy := hfacade.columns_eq he'
  exact absurd (hx.symm.trans hy) (by decide)

end Request

end ClickGen
