import ClickGen.Proofs.Code.FieldName
import ClickGen.Proofs.Field.Line

/-!
The parameter that an option sets.

An option is declared by the literals at the beginning of its decorator. The parameter that click
passes its value in is called by the second of them; without a second one it is called like the
flag, with underscores for dashes and in lower case. Main statement: in the option of a field it is
an identifier, and the name of the field wherever that is one.
-/

namespace ClickGen

open Code

namespace Decorator

/-- The literals at the beginning, each on a line of its own. -/
def leadingStrings : List Token → List Text
  | .string s :: .mark ',' :: .newline :: rest => s :: leadingStrings rest
  | _ => []

def declarations? (source : Text) : Option (List Text) :=
  (tokens? source).bind fun ts =>
    if Reading.opening.isPrefixOf ts then some (leadingStrings (ts.drop Reading.opening.length))
    else none

/-- The name that follows from a flag without its two dashes. Of a flag with a negative only what
stands before the slash counts. -/
def parameterOfFlag (flag : Text) : Text :=
  Text.lower ((((Text.splitOn '/' flag).headD []).drop 2).map fun c => if c = '-' then '_' else c)

def parameterOf? : List Text → Option Text
  | [] => none
  | [flag] => some (parameterOfFlag flag)
  | _ :: name :: _ => some name

def parameter? (source : Text) : Option Text := (declarations? source).bind parameterOf?

lemma leadingStrings_items (names : List Text) {rest : List Token} (h : leadingStrings rest = []) :
    leadingStrings ((names.map fun n => [Token.string n]).flatMap (· ++ [.mark ',', .newline]) ++
      rest) = names := by
  induction names with
  | nil => exact h
  | cons n names ih => simpa [leadingStrings] using ih

lemma leadingStrings_tokens (r : Reading) :
    leadingStrings (r.tokens.drop Reading.opening.length) = r.names := by
  have hrest : leadingStrings ((r.arguments.map fun a => Token.name a.1 :: .mark '=' :: a.2).flatMap
      (· ++ [.mark ',', .newline]) ++ [.mark ')']) = [] := by
    cases r.arguments with
    | nil => rfl
    | cons a rest => rfl
  rw [Reading.tokens, List.append_assoc, List.drop_left, Reading.items, List.flatMap_append,
    List.append_assoc, leadingStrings_items r.names hrest]

end Decorator

open Decorator

namespace Field

/-! ### The option of a field -/

def flags (f : Field) : List Text :=
  match f.kind with
  | .flag => ["--" ++ f.name, "--no-" ++ f.name]
  | _ => ["--" ++ f.name]

lemma mem_flags {f : Field} {s : Text} :
    s ∈ f.flags ↔ s = "--" ++ f.name ∨ f.kind = .flag ∧ s = "--no-" ++ f.name := by
  unfold flags
  cases f.kind <;> simp

lemma flag_eq (f : Field) : f.flag = List.intercalate ['/'] f.flags := by
  unfold flag flags
  cases f.kind <;> simp [List.intercalate]

lemma parameterOfFlag_flag {f : Field} (h : isIdentifier f.name) :
    parameterOfFlag f.flag = derivedName f.name := by
  have hslash : '/' ∉ "--".toList ++ f.name := by
    intro hmem
    rcases List.mem_append.mp hmem with hmem | hmem
    · exact absurd hmem (by decide)
    · exact absurd (continuesIdentifier_of_mem h hmem) (by decide)
  have hhead : (Text.splitOn '/' f.flag).headD [] = "--" ++ f.name := by
    rw [flag_eq]
    unfold flags
    cases f.kind
    case flag =>
      have hcut := Text.splitOn_append hslash ("--no-" ++ f.name)
      simpa [List.intercalate] using congrArg (·.headD []) hcut
    all_goals simpa [List.intercalate] using congrArg (·.headD []) (Text.splitOn_of_notMem hslash)
  rw [parameterOfFlag, hhead]
  rfl

lemma parameterOf?_names (f : Field) : parameterOf? f.names = some (parameterName f.name) := by
  unfold names parameterName
  split
  · next h =>
    rw [parameterOf?, parameterOfFlag_flag h.2, h.1, if_pos h.2]
  · split <;> rfl

lemma exists_names (f : Field) : ∃ more, f.names = List.intercalate ['/'] f.flags :: more := by
  unfold names
  rw [← flag_eq]
  split
  · exact ⟨_, rfl⟩
  · split
    · exact ⟨_, rfl⟩
    · exact ⟨_, rfl⟩

lemma declarations?_code? {f : Field} {purpose : Purpose} {code : Text}
    (h : f.code? purpose = some code) : declarations? code = some f.names := by
  obtain ⟨d, hd, rfl⟩ := Option.map_eq_some_iff.mp h
  obtain ⟨hnames, harguments⟩ := arguments_read hd
  have hitems := items_read (r := f.reading purpose) hnames harguments
  have htokens := tokens_render (hitems.imp fun _ _ hitem => hitem.1)
  have hopening : Reading.opening.isPrefixOf (f.reading purpose).tokens := by
    rw [List.isPrefixOf_iff_prefix, Reading.tokens, List.append_assoc]
    exact List.prefix_append _ _
  rw [declarations?, htokens, Option.bind_some, if_pos hopening, leadingStrings_tokens]
  rfl

lemma parameter?_code? {f : Field} {purpose : Purpose} {code : Text}
    (h : f.code? purpose = some code) : parameter? code = some (parameterName f.name) := by
  rw [parameter?, declarations?_code? h, Option.bind_some, parameterOf?_names]

/-- **Payload keys.** Every field has an option for either purpose, but for a choice without values.
The parameter that the option sets is an identifier: the name of the field itself where that is
one, and else the identifier that the name is turned into. -/
theorem code?_parameter (f : Field) (purpose : Purpose) :
    ((f.code? purpose).isSome ↔ ¬ (f.kind = .choice ∧ f.props.choices = [])) ∧
      ∀ code ∈ f.code? purpose, ∃ p, parameter? code = some p ∧ isIdentifier p ∧
        (isIdentifier f.name → p = f.name) ∧ (¬ isIdentifier f.name → p = fieldName f.name) := by
  refine ⟨code?_isSome, fun code hcode => ⟨parameterName f.name, parameter?_code? hcode, ?_, ?_, ?_⟩⟩
  · exact isIdentifier_parameterName f.name
  · exact fun h => if_pos h
  · exact fun h => if_neg h

/-- A name that is an identifier, but no flag gives it back. -/
def mixedField : Field := ⟨"linkedServer", .integer, {}⟩

/-- A digit at the front, a dot, a dash, and capitals outside ASCII, one of which has a small form
of two characters. -/
def strangeField : Field := ⟨"2fa.Über-İd", .flag, {}⟩

theorem code?_parameter_sample :
    (∃ code ∈ mixedField.code? .update, isIdentifier mixedField.name ∧
      parameter? code = some "linkedServer".toList) ∧
    ∃ code ∈ strangeField.code? .create, ¬ isIdentifier strangeField.name ∧
      parameter? code = some "_2fa__ber_i_d".toList := by
  constructor
  · obtain ⟨hsome, hall⟩ := code?_parameter mixedField .update
    obtain ⟨code, hcode⟩ := Option.isSome_iff_exists.mp (hsome.mpr (by decide))
    obtain ⟨p, hp, -, hsame, -⟩ := hall code hcode
    have hname : isIdentifier mixedField.name := by decide
    exact ⟨code, hcode, hname, hp.trans (congrArg some (hsame hname))⟩
  · obtain ⟨hsome, hall⟩ := code?_parameter strangeField .create
    obtain ⟨code, hcode⟩ := Option.isSome_iff_exists.mp (hsome.mpr (by decide))
    obtain ⟨p, hp, -, -, hother⟩ := hall code hcode
    have hname : ¬ isIdentifier strangeField.name := by decide
    have hfield : fieldName strangeField.name = "_2fa__ber_i_d" := by decide
    exact ⟨code, hcode, hname, hp.trans (congrArg some ((hother hname).trans hfield))⟩

end Field

end ClickGen
