import ClickGen.Xml.Fault

/-!
References in text and attribute values: the five named characters, and characters given by a
decimal or hexadecimal code. Everything else stands for itself.
-/

namespace ClickGen.Xml

def namedCharacters : List (Text × Char) :=
  [("lt", '<'), ("gt", '>'), ("amp", '&'), ("apos", '\''), ("quot", '"')]

/-- Reads digits of a base; `bad` names the fault of a character that is no digit. -/
def readDigits (base : Nat) (digit? : Char → Option Nat)
    (bad : Char → ReferenceFault) (code : Nat) : Text → Except ReferenceFault Nat
  | [] => .ok code
  | c :: rest =>
    match digit? c with
    | some d => readDigits base digit? bad (code * base + d) rest
    | none => .error (bad (leadByte c))

def decimalValue? (c : Char) : Option Nat :=
  if Text.isDigit c then some (c.toNat - '0'.toNat) else none

/-- The code in a numeric reference, after its `#`. -/
def readCode : Text → Except ReferenceFault Nat
  | 'x' :: digits =>
    if Text.byteSize digits > 6 then .error .longHexadecimal
    else readDigits 16 Text.hexValue? .hexadecimalDigit 0 digits
  | digits =>
    if Text.byteSize digits > 7 then .error .longDecimal
    else readDigits 10 decimalValue? .decimalDigit 0 digits

/-- The character that a reference stands for, given by what is between `&` at byte `start` and
`;` at byte `stop`. -/
def resolve (start stop : Nat) (name : Text) : Except ReferenceFault Char :=
  match name with
  | '#' :: digits => do
    let code ← readCode digits
    if code = 0 then throw (.null start stop)
    else if code.isValidChar then return Char.ofNat code
    else throw (.notACharacter code)
  | _ =>
    match namedCharacters.lookup name with
    | some c => .ok c
    | none => .error (.unknown (start + 1) stop name)

/-- Replaces references from byte `position` of a text of `size` bytes on. Inside a reference,
`pending` has the byte of its `&` and the characters after it, last first. -/
def expandFrom (size position : Nat) (pending : Option (Nat × Text)) :
    Text → Except ReferenceFault Text
  | [] =>
    match pending with
    | none => .ok []
    | some (start, _) => .error (.unterminated start size)
  | c :: rest =>
    let next := position + c.utf8Size
    match pending with
    | none =>
      if c = '&' then expandFrom size next (some (position, [])) rest
      else do return c :: (← expandFrom size next none rest)
    | some (start, name) =>
      if c = ';' then do
        let found ← resolve start position name.reverse
        return found :: (← expandFrom size next none rest)
      else if c = '&' then .error (.unterminated start size)
      else expandFrom size next (some (start, c :: name)) rest

/-- The text with each reference replaced by its character. -/
def expand (s : Text) : Except ReferenceFault Text := expandFrom (Text.byteSize s) 0 none s

end ClickGen.Xml
