import ClickGen.Proofs.Request.Rerun
import ClickGen.Proofs.Xml.Nesting

/-!
The stages of a generation: a model is located, read, decoded, parsed and searched for its tag, and
then the templates of the command and of the facade are rendered, in this order. The first stage
that fails decides what becomes of the whole; and while the model cannot be had, nothing else in the
request counts.
-/

namespace ClickGen

/-- The locator is the address of something on the web. -/
def Locator.IsWebAddress (input : Text) : Prop :=
  ∃ url, Url.read? (Text.trimBlank input) = some url ∧
    (url.scheme = "http".toList ∨ url.scheme = "https".toList)

namespace Locator

lemma parse_cases {input : Text} (h : ¬ IsWebAddress input) :
    (∃ path, parse input = .ok (.onDisk path)) ∨
      ∃ reason, parse input =
        .error (.unreachable (Text.trimBlank input) (.invalidLocator reason)) := by
  unfold parse
  simp only
  split_ifs
  · exact .inr ⟨_, rfl⟩
  · split
    · exact .inl ⟨_, rfl⟩
    · next url hurl =>
      split_ifs with hweb
      · exact absurd ⟨url, hurl, hweb⟩ h
      · split
        · exact .inl ⟨_, rfl⟩
        · exact .inr ⟨_, rfl⟩
      · exact .inl ⟨_, rfl⟩
      · exact .inr ⟨_, rfl⟩

end Locator

inductive Stage where
  | locator | file | encoding | document | tag
  | template (kind : ArtifactKind)
  deriving DecidableEq

section Model

variable (files : FileTree) (locator : Text)

/-- The locator leads to a file, which has these bytes. -/
def HasBytes (path bytes : Bytes) : Prop :=
  Locator.parse locator = .ok (.onDisk path) ∧ files.read path = .ok bytes

/-- The bytes of the file are those of a text. -/
def HasText (path : Bytes) (xml : Text) : Prop :=
  ∃ bytes, HasBytes files locator path bytes ∧ Text.ofUtf8 bytes = .ok xml

/-- The text of the file is accepted as a document. -/
def HasTree (path : Bytes) (root : Element) : Prop :=
  ∃ xml, HasText files locator path xml ∧ Model.readTree xml (Text.ofUtf8Lenient path) = .ok root

/-- The tag occurs in the document. -/
def HasElement (tag : Text) (e : Element) : Prop :=
  ∃ path root, HasTree files locator path root ∧ root.find? tag = some e

/-- A stage on the way to the model that fails behind others that do not, and its failure. -/
inductive ModelFailsAt (tag : Text) : Stage → Failure → Prop where
  | locator {reason : Text} (h : Locator.parse locator =
      .error (.unreachable (Text.trimBlank locator) (.invalidLocator reason))) :
    ModelFailsAt tag .locator (.unreachable (Text.trimBlank locator) (.invalidLocator reason))
  | file {path : Bytes} {fault : FileFault} (hplace : Locator.parse locator = .ok (.onDisk path))
      (h : files.read path = .error fault) :
    ModelFailsAt tag .file (.unreachable (Text.ofUtf8Lenient path) (.file fault))
  | encoding {path bytes : Bytes} {valid : Nat} (hbytes : HasBytes files locator path bytes)
      (h : Text.ofUtf8 bytes = .error valid) :
    ModelFailsAt tag .encoding (.malformed (Text.ofUtf8Lenient path) "document is not valid UTF-8"
      valid (Text.byteSize (Text.ofUtf8Lenient bytes)))
  | document {path : Bytes} {xml message : Text} {position : Nat}
      (hxml : HasText files locator path xml) (h : Model.readTree xml (Text.ofUtf8Lenient path) =
        .error (.malformed (Text.ofUtf8Lenient path) message position (Text.byteSize xml))) :
    ModelFailsAt tag .document
      (.malformed (Text.ofUtf8Lenient path) message position (Text.byteSize xml))
  | tag {path : Bytes} {root : Element} (hroot : HasTree files locator path root)
      (h : root.find? tag = none) :
    ModelFailsAt tag .tag (.notFound tag (Text.ofUtf8Lenient path))

end Model

section Resolving

variable {files : FileTree} {locator tag : Text}

lemma HasText.fetch {path : Bytes} {xml : Text} (h : HasText files locator path xml) (web : Web) :
    (Locator.onDisk path).fetch files web = .ok xml := by
  obtain ⟨bytes, ⟨-, hread⟩, hxml⟩ := h
  exact Locator.fetch_eq_ok.mpr ⟨bytes, mapError_eq_ok.mpr hread, hxml⟩

lemma HasText.parse {path : Bytes} {xml : Text} (h : HasText files locator path xml) :
    Locator.parse locator = .ok (.onDisk path) := h.choose_spec.1.1

lemma HasTree.parse {path : Bytes} {root : Element} (h : HasTree files locator path root) :
    Locator.parse locator = .ok (.onDisk path) := h.choose_spec.1.parse

lemma HasTree.load {path : Bytes} {root : Element} (h : HasTree files locator path root)
    (web : Web) : Model.load files web (.onDisk path) = .ok ⟨.onDisk path, root⟩ := by
  obtain ⟨xml, hxml, hroot⟩ := h
  exact bind_eq_ok.mpr ⟨xml, hxml.fetch web, bind_eq_ok.mpr ⟨root, hroot, rfl⟩⟩

lemma HasElement.resolve {e : Element} (h : HasElement files locator tag e) (web : Web) :
    resolve files locator tag web = .ok e := by
  obtain ⟨path, root, hroot, he⟩ := h
  rw [ClickGen.resolve, hroot.parse, ok_bind, hroot.load, ok_bind, Model.resolve, he]

lemma ModelFailsAt.resolve {stage : Stage} {failure : Failure}
    (h : ModelFailsAt files locator tag stage failure) (web : Web) :
    resolve files locator tag web = .error failure := by
  cases h with
  | locator h => rw [ClickGen.resolve, h, error_bind]
  | file hplace h =>
    rw [ClickGen.resolve, hplace, ok_bind, Model.load, Locator.fetch, Locator.fetchBytes, h]
    rfl
  | encoding hbytes h =>
    obtain ⟨hplace, hread⟩ := hbytes
    rw [ClickGen.resolve, hplace, ok_bind, Model.load, Locator.fetch, Locator.fetchBytes, hread]
    simp only [Except.mapError, h]
    rfl
  | document hxml h =>
    rw [ClickGen.resolve, hxml.parse, ok_bind, Model.load, hxml.fetch, ok_bind, Model.parse]
    rw [Locator.display, h]
    rfl
  | tag hroot h =>
    rw [ClickGen.resolve, hroot.parse, ok_bind, hroot.load, ok_bind, Model.resolve, h]
    rfl

lemma exists_element_or_fails (h : ¬ Locator.IsWebAddress locator) (files : FileTree)
    (tag : Text) : (∃ e, HasElement files locator tag e) ∨
      ∃ stage failure, ModelFailsAt files locator tag stage failure := by
  rcases Locator.parse_cases h with ⟨path, hplace⟩ | ⟨reason, hrefused⟩
  swap
  · exact .inr ⟨_, _, .locator hrefused⟩
  cases hread : files.read path with
  | error fault => exact .inr ⟨_, _, .file hplace hread⟩
  | ok bytes =>
    cases htext : Text.ofUtf8 bytes with
    | error valid => exact .inr ⟨_, _, .encoding ⟨hplace, hread⟩ htext⟩
    | ok xml =>
      have hxml : HasText files locator path xml := ⟨bytes, ⟨hplace, hread⟩, htext⟩
      by_cases htree : ∃ t, Model.readTree xml (Text.ofUtf8Lenient path) = .ok t
      · obtain ⟨root, hroot⟩ := htree
        cases hfind : root.find? tag with
        | none => exact .inr ⟨_, _, .tag ⟨xml, hxml, hroot⟩ hfind⟩
        | some e => exact .inl ⟨e, path, root, ⟨xml, hxml, hroot⟩, hfind⟩
      · obtain ⟨message, position, hmalformed⟩ := Model.exists_malformed htree
        exact .inr ⟨_, _, .document hxml hmalformed⟩

lemma ModelFailsAt.of_read {files' : FileTree} {stage : Stage} {failure : Failure}
    (h : ModelFailsAt files locator tag stage failure)
    (hsame : ∀ path, Locator.parse locator = .ok (.onDisk path) →
      files'.read path = files.read path) :
    ModelFailsAt files' locator tag stage failure := by
  have hbytes : ∀ {path bytes}, HasBytes files locator path bytes →
      HasBytes files' locator path bytes := fun h => ⟨h.1, (hsame _ h.1).trans h.2⟩
  have hxml : ∀ {path xml}, HasText files locator path xml → HasText files' locator path xml :=
    fun ⟨bytes, h, hxml⟩ => ⟨bytes, hbytes h, hxml⟩
  have htree : ∀ {path root}, HasTree files locator path root → HasTree files' locator path root :=
    fun ⟨xml, h, hroot⟩ => ⟨xml, hxml h, hroot⟩
  cases h with
  | locator h => exact .locator h
  | file hplace h => exact .file hplace ((hsame _ hplace).trans h)
  | encoding h hfault => exact .encoding (hbytes h) hfault
  | document h hfault => exact .document (hxml h) hfault
  | tag h hnone => exact .tag (htree h) hnone

end Resolving

/-! ### The templates -/

namespace Template

variable {files : FileTree} {directory template : Text} {globals : Frame}

/-- The template in a file can be read, and gives this text. -/
def Gives (files : FileTree) (path : Text) (globals : Frame) (content : Text) : Prop :=
  ∃ source t, files.readText (Text.toUtf8 path) = .ok source ∧ parse? source = some t ∧
    t.render? globals = some content

lemma renderFile_of_gives {content : Text}
    (h : Gives files (Path.join directory template) globals content) :
    renderFile files directory template globals = .ok content := by
  obtain ⟨source, t, hsource, ht, hcontent⟩ := h
  simp only [renderFile, hsource, renderSource, ht, hcontent]

lemma renderFile_of_not_gives
    (h : ¬ ∃ content, Gives files (Path.join directory template) globals content) :
    renderFile files directory template globals =
      .error (.template (Path.join directory template)) := by
  unfold renderFile
  simp only
  split
  · rfl
  · next source hsource =>
    unfold renderSource
    split
    · rfl
    · next t ht =>
      split
      · rfl
      · next content hcontent => exact absurd ⟨content, source, t, hsource, ht, hcontent⟩ h

end Template

namespace Request

def templatePath (r : Request) (kind : ArtifactKind) : Text :=
  Path.join r.templates (r.layout kind).template

/-- The template of a kind can be rendered with the fields of an element. -/
def Renders (files : FileTree) (r : Request) (e : Element) (kind : ArtifactKind) : Prop :=
  ∃ content, Template.Gives files (r.templatePath kind) (Variables.derive e r.policy r.spec).frame
    content

/-- A stage of a generation that fails behind others that do not, and its failure. -/
inductive FailsAt (files : FileTree) (r : Request) : Stage → Failure → Prop where
  | model {stage : Stage} {failure : Failure}
      (h : ModelFailsAt files r.locator r.tag stage failure) : FailsAt files r stage failure
  | command {e : Element} (he : HasElement files r.locator r.tag e)
      (h : ¬ r.Renders files e .command) :
    FailsAt files r (.template .command) (.template (r.templatePath .command))
  | facade {e : Element} (he : HasElement files r.locator r.tag e)
      (hcommand : r.Renders files e .command) (h : ¬ r.Renders files e .facade) :
    FailsAt files r (.template .facade) (.template (r.templatePath .facade))

variable {files : FileTree} {r : Request} {web : Web}

lemma render_eq : r.render files web = (do
    let command ← r.renderOne files .command web
    let facade ← r.renderOne files .facade web
    return [command, facade]) := by
  rw [render, ArtifactKind.all, renderKinds, renderKinds, renderKinds]
  cases r.renderOne files .command web with
  | error failure => rfl
  | ok command => cases r.renderOne files .facade web <;> rfl

lemma renderOne_eq {e : Element} (he : HasElement files r.locator r.tag e) (kind : ArtifactKind) :
    r.renderOne files kind web = Artifact.render files r.templates (r.layout kind).template kind
      (.derive e r.policy r.spec) := by
  rw [renderOne, derive, he.resolve, ok_bind]
  rfl

lemma renderOne_of_renders {e : Element} (he : HasElement files r.locator r.tag e)
    {kind : ArtifactKind} (h : r.Renders files e kind) (web : Web) :
    ∃ a, r.renderOne files kind web = .ok a := by
  obtain ⟨content, hcontent⟩ := h
  rw [renderOne_eq he, Artifact.render, Template.renderFile_of_gives hcontent]
  exact ⟨_, rfl⟩

lemma renderOne_of_not_renders {e : Element} (he : HasElement files r.locator r.tag e)
    {kind : ArtifactKind} (h : ¬ r.Renders files e kind) :
    r.renderOne files kind web = .error (.template (r.templatePath kind)) := by
  rw [renderOne_eq he, Artifact.render, Template.renderFile_of_not_gives h]
  rfl

lemma render_of_renders {e : Element} (he : HasElement files r.locator r.tag e)
    (h : ∀ kind, r.Renders files e kind) (web : Web) : ∃ as, r.render files web = .ok as := by
  obtain ⟨command, hcommand⟩ := renderOne_of_renders he (h .command) web
  obtain ⟨facade, hfacade⟩ := renderOne_of_renders he (h .facade) web
  rw [render_eq, hcommand, ok_bind, hfacade]
  exact ⟨_, rfl⟩

lemma FailsAt.render {stage : Stage} {failure : Failure} (h : r.FailsAt files stage failure)
    (web : Web) : r.render files web = .error failure := by
  cases h with
  | model h => rw [render_eq, renderOne, derive, h.resolve, error_bind, error_bind, error_bind]
  | command he h => rw [render_eq, renderOne_of_not_renders he h, error_bind]
  | facade he hcommand h =>
    obtain ⟨command, hcommand⟩ := renderOne_of_renders he hcommand web
    rw [render_eq, hcommand, ok_bind, renderOne_of_not_renders he h, error_bind]

lemma renders_or_fails (h : ¬ Locator.IsWebAddress r.locator) (files : FileTree) :
    (∃ e, HasElement files r.locator r.tag e ∧ ∀ kind, r.Renders files e kind) ∨
      ∃ stage failure, r.FailsAt files stage failure := by
  rcases exists_element_or_fails h files r.tag with ⟨e, he⟩ | ⟨stage, failure, hfails⟩
  · by_cases hcommand : r.Renders files e .command
    · by_cases hfacade : r.Renders files e .facade
      · exact .inl ⟨e, he, fun kind => by cases kind <;> assumption⟩
      · exact .inr ⟨_, _, .facade he hcommand hfacade⟩
    · exact .inr ⟨_, _, .command he hcommand⟩
  · exact .inr ⟨stage, failure, .model hfails⟩

/-- **The first stage that fails decides**: a request for a model that is not on the web can be
rendered exactly when its locator leads to a file, the file is that of a text, the text is accepted
as a document, the tag occurs in it, and both templates can be rendered; and it fails with a failure
exactly when this is the failure of a stage behind others that do not fail. Where the model cannot
be had, the failure is the same for every other request for the tag in the same place, whatever else
is on disk. -/
theorem render_stages {r : Request} (hlocal : ¬ Locator.IsWebAddress r.locator) (files : FileTree)
    (web : Web) :
    ((∃ as, r.render files web = .ok as) ↔
        ∃ e, HasElement files r.locator r.tag e ∧ ∀ kind, r.Renders files e kind) ∧
      (∀ failure, r.render files web = .error failure ↔
        ∃ stage, r.FailsAt files stage failure) ∧
      ∀ stage failure, ModelFailsAt files r.locator r.tag stage failure →
        ∀ (other : Request) (files' : FileTree) (web' : Web), other.locator = r.locator →
          other.tag = r.tag → (∀ path, Locator.parse r.locator = .ok (.onDisk path) →
            files'.read path = files.read path) →
          other.render files' web' = .error failure := by
  have hcases := renders_or_fails hlocal files
  refine ⟨⟨?_, ?_⟩, fun failure => ⟨?_, ?_⟩, ?_⟩
  · rintro ⟨as, has⟩
    rcases hcases with hrenders | ⟨stage, failure, hfails⟩
    · exact hrenders
    · cases has.symm.trans (hfails.render web)
  · rintro ⟨e, he, hrenders⟩
    exact render_of_renders he hrenders web
  · intro hfailure
    rcases hcases with ⟨e, he, hrenders⟩ | ⟨stage, other, hfails⟩
    · obtain ⟨as, has⟩ := render_of_renders he hrenders web
      cases has.symm.trans hfailure
    · obtain rfl := Except.error.inj ((hfails.render web).symm.trans hfailure)
      exact ⟨stage, hfails⟩
  · rintro ⟨stage, hfails⟩
    exact hfails.render web
  · intro stage failure hfails other files' web' hlocator htag hsame
    have hother := hfails.of_read hsame
    rw [← hlocator, ← htag] at hother
    exact (FailsAt.model hother).render web'

lemma not_isWebAddress_sample (command facade : Text) :
    ¬ Locator.IsWebAddress (sample command facade).locator := by
  rintro ⟨url, hurl, -⟩
  have hnone : Url.read? (Text.trimBlank "m") = none := by decide +kernel
  cases hnone.symm.trans hurl

/-- With both templates there, and without the one of the facade. -/
theorem render_stages_sample :
    ¬ Locator.IsWebAddress (sample "x" "y").locator ∧
      (∃ e, HasElement sampleFiles "m" "a" e ∧
        ∀ kind, (sample "x" "y").Renders sampleFiles e kind) ∧
      ∃ stage, { sample "x" "y" with facade := ⟨"g", "y"⟩ }.FailsAt sampleFiles stage
        (.template "g") := by
  have hlocal := not_isWebAddress_sample "x" "y"
  have hrender : (sample "x" "y").render sampleFiles =
      .ok [⟨.command, "g/k.py", "command"⟩, ⟨.facade, "g/k.py", "facade"⟩] := by decide +kernel
  have hmissing : { sample "x" "y" with facade := ⟨"g", "y"⟩ }.render sampleFiles =
      .error (.template "g") := by decide +kernel
  have hfails := (render_stages (r := { sample "x" "y" with facade := ⟨"g", "y"⟩ }) hlocal
    sampleFiles .offline).2.1 (.template "g")
  exact ⟨hlocal, (render_stages hlocal sampleFiles .offline).1.mp ⟨_, hrender⟩,
    hfails.mp hmissing⟩

end Request

end ClickGen
