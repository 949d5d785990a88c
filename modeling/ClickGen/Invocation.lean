import ClickGen.Config
import ClickGen.Request

/-!
What the command line asks for. The words `new`, `command` and a module type lead to the
arguments of a command; switches may stand before every one of them. An invocation that cannot be
understood is refused as a whole.
-/

namespace ClickGen

/-- An option that takes a value. -/
inductive Slot where
  | model | tag | templates | commandTemplate | facadeTemplate | commandDirectory
  | facadeDirectory | config
  deriving DecidableEq

namespace Slot

def longNames : List (Text × Slot) :=
  [("url", model), ("tag", tag), ("template-basedir", templates), ("tb", templates),
    ("template-command", commandTemplate), ("tc", commandTemplate),
    ("template-facade", facadeTemplate), ("tf", facadeTemplate),
    ("command-output-dir", commandDirectory), ("cod", commandDirectory),
    ("facade-output-dir", facadeDirectory), ("fod", facadeDirectory), ("config", config)]

def shortNames : List (Char × Slot) := [('u', model), ('t', tag), ('c', config)]

/-- Whether a value may be empty: a path may not. -/
def allowsEmpty : Slot → Bool
  | model | tag => true
  | _ => false

end Slot

/-- The arguments of a command. -/
structure Arguments where
  moduleType : ModuleType
  /-- The names of the group and the command. -/
  names : List Text := []
  values : List (Slot × Text) := []
  dryRun : Bool := false
  skipExisting : Bool := false
  /-- How often more output was asked for here. -/
  verbosity : Nat := 0
  deriving DecidableEq

namespace Arguments

def value? (a : Arguments) (slot : Slot) : Option Text := a.values.lookup slot

/-- Gives an option its value, once. -/
def give? (a : Arguments) (slot : Slot) (value : Text) : Option Arguments :=
  if (a.value? slot).isSome ∨ (value.isEmpty ∧ ¬slot.allowsEmpty) then none
  else some { a with values := (slot, value) :: a.values }

/-- Adds a name, of which there are two. -/
def addName? (a : Arguments) (name : Text) : Option Arguments :=
  if a.names.length < 2 then some { a with names := a.names ++ [name] } else none

/-- The count after one more switch; it goes no further than a byte does. -/
def oneMore (count : Nat) : Nat := min (count + 1) 255

def louder (a : Arguments) : Arguments := { a with verbosity := oneMore a.verbosity }

end Arguments

inductive Invocation where
  | help
  | version
  /-- Generate a command, from a model at `model` with the tag `tag`. -/
  | generate (group command model tag : Text) (verbosity : Nat) (arguments : Arguments)
  deriving DecidableEq

namespace Invocation

/-- Whether a word is an option; a lone hyphen is none. -/
def isOption : Text → Bool
  | '-' :: _ :: _ => true
  | _ => false

/-- The name and the value of `name=value`. -/
def splitEquals (s : Text) : Text × Option Text :=
  match Text.cutAt? ['='] s with
  | some (name, value) => (name, some value)
  | none => (s, none)

/-! ### Arguments of a command -/

/-- What a word with options says. -/
inductive Effect where
  | help
  | given (a : Arguments)
  /-- The value of the option is the next word. -/
  | awaits (slot : Slot) (a : Arguments)

/-- An option in its long form, after the two hyphens. -/
def readLong? (a : Arguments) (word : Text) : Option Effect :=
  match splitEquals word with
  | (name, attached?) =>
    match Slot.longNames.lookup name, attached? with
    | some slot, some value => (a.give? slot value).map .given
    | some slot, none => some (.awaits slot a)
    | none, some _ => none
    | none, none =>
      if name = "verbose".toList then some (.given a.louder)
      else if name = "help".toList then some .help
      else if name = "dry-run".toList then
        if a.dryRun then none else some (.given { a with dryRun := true })
      else if name = "skip-existing".toList then
        if a.skipExisting then none else some (.given { a with skipExisting := true })
      else none

/-- Options of one letter, after the hyphen. The first that takes a value takes what is left of
the word, if anything is. -/
def readShort? (a : Arguments) : Text → Option Effect
  | [] => some (.given a)
  | c :: rest =>
    match Slot.shortNames.lookup c with
    | some slot =>
      match rest with
      | [] => some (.awaits slot a)
      | '=' :: value => (a.give? slot value).map .given
      | value => (a.give? slot value).map .given
    | none =>
      if c = 'v' then readShort? a.louder rest
      else if c = 'h' then some .help
      else none

def readOption? (a : Arguments) : Text → Option Effect
  | '-' :: '-' :: word => readLong? a word
  | '-' :: letters => readShort? a letters
  | _ => none

/-- The invocation for arguments that are complete. `outer` is the verbosity asked for before. -/
def ofArguments? (outer : Nat) (a : Arguments) : Option Invocation :=
  match a.names, a.value? .model, a.value? .tag with
  | [group, command], some model, some tag =>
    some (.generate group command model tag (if a.verbosity = 0 then outer else a.verbosity) a)
  | _, _, _ => none

/-- Adds names that follow two hyphens on their own, whatever they look like. -/
def addNames? (a : Arguments) : List Text → Option Arguments
  | [] => some a
  | name :: rest =>
    match a.addName? name with
    | some a => addNames? a rest
    | none => none

/-- Reads the arguments of a command. -/
def readArguments? (outer : Nat) (a : Arguments) : List Text → Option Invocation
  | [] => ofArguments? outer a
  | word :: rest =>
    if word = ['-', '-'] then (addNames? a rest).bind (ofArguments? outer)
    else if isOption word then
      match readOption? a word, rest with
      | none, _ => none
      | some .help, _ => some .help
      | some (.given a), rest => readArguments? outer a rest
      | some (.awaits _ _), [] => none
      | some (.awaits slot a), value :: rest =>
        if isOption value then none
        else
          match a.give? slot value with
          | some a => readArguments? outer a rest
          | none => none
    else
      match a.addName? word with
      | some a => readArguments? outer a rest
      | none => none

/-! ### Words that lead to a command -/

/-- How far the words before the arguments have come. -/
inductive Stage where
  | program | new | command
  deriving DecidableEq

/-- Where a word leads from a stage: to another stage, or to words that lead nowhere further. -/
def Stage.next? (stage : Stage) (word : Text) : Option (Option Stage) :=
  if word = "help".toList then some none
  else
    match stage with
    | program => if word = "new".toList then some (some new) else none
    | new => if word = "command".toList then some (some command) else none
    | command =>
      if word = ModuleType.core.label ∨ word = ModuleType.plugin.label then some none else none

/-- Whether there is help on what words lead to. -/
def hasHelp : Option Stage → List Text → Bool
  | _, [] => true
  | none, _ :: _ => false
  | some stage, word :: rest =>
    match stage.next? word with
    | some next? => hasHelp next? rest
    | none => false

/-- What a switch says before the arguments. -/
inductive Signal where
  | stop (i : Invocation)
  | count (verbosity : Nat)

/-- Switches of one letter. Only the program itself has a version. -/
def readLetters? (stage : Stage) (count : Nat) : Text → Option Signal
  | [] => some (.count count)
  | c :: rest =>
    if c = 'v' then readLetters? stage (Arguments.oneMore count) rest
    else if c = 'h' then some (.stop .help)
    else if c = 'V' ∧ stage = .program then some (.stop .version)
    else none

def readSwitch? (stage : Stage) (count : Nat) (word : Text) : Option Signal :=
  if word = "--verbose".toList then some (.count (Arguments.oneMore count))
  else if word = "--help".toList then some (.stop .help)
  else if word = "--version".toList ∧ stage = .program then some (.stop .version)
  else
    match word with
    | '-' :: '-' :: _ => none
    | '-' :: letters => readLetters? stage count letters
    | _ => none

/-- Reads the words up to the arguments. `count` is the verbosity asked for at this stage, and
`outer` what the stages before asked for; the last stage that asks counts. -/
def readWords? (stage : Stage) (outer count : Nat) : List Text → Option Invocation
  | [] => none
  | word :: rest =>
    let asked := if count = 0 then outer else count
    if isOption word then
      match readSwitch? stage count word with
      | some (.count count) => readWords? stage outer count rest
      | some (.stop i) => some i
      | none => none
    else if word = "help".toList then if hasHelp (some stage) rest then some .help else none
    else
      match stage with
      | .program => if word = "new".toList then readWords? .new asked 0 rest else none
      | .new => if word = "command".toList then readWords? .command asked 0 rest else none
      | .command =>
        if word = ModuleType.core.label then readArguments? asked { moduleType := .core } rest
        else if word = ModuleType.plugin.label then
          readArguments? asked { moduleType := .plugin } rest
        else none

/-- Reads the words after the name of the program. -/
def parse? (words : List Text) : Option Invocation := readWords? .program 0 0 words

end Invocation

/-- The request that arguments make together with a configuration. What the arguments give counts
more than the configuration, and that more than the defaults. -/
def Arguments.request (a : Arguments) (group command model tag : Text) (c : Config) : Request :=
  let pick (slot : Slot) (setting? : Option Text) (fallback : Text) : Text :=
    ((a.value? slot).or setting?).getD fallback
  let templates := pick .templates c.paths.templates? Request.defaultTemplates
  let base := Request.ofModel model tag ⟨group, command, a.moduleType⟩ templates
  { base with
    policy := c.policy
    command :=
      ⟨pick .commandTemplate c.paths.commandTemplate? base.command.template,
        pick .commandDirectory c.paths.commandDirectory? base.command.directory⟩
    facade :=
      ⟨pick .facadeTemplate c.paths.facadeTemplate? base.facade.template,
        pick .facadeDirectory c.paths.facadeDirectory? base.facade.directory⟩
    overwrite := if a.skipExisting then .ifMissing else .always }

end ClickGen
