import ClickGen.Text.Basic

/-!
Punycode: a text with characters outside ASCII, written in ASCII. Its characters of ASCII come
first, then a hyphen if there are any of them, then the others in the order of their codes, each as
the number of steps from the one before it: a step is one place further in the text, and behind the
last place the next code follows. Numbers are in base 36 with the lowest digit first; a digit below
its threshold is the last one, and the thresholds follow the size of the numbers so far.
-/

namespace ClickGen.Url.Punycode

/-- The letters `a` to `z` are the digits up to 25, and those of decimal numbers follow. -/
def digit (n : Nat) : Char := Char.ofNat (if n < 26 then 'a'.toNat + n else '0'.toNat + (n - 26))

def digitValue? (c : Char) : Option Nat :=
  if 'a' ≤ c && c ≤ 'z' then some (c.toNat - 'a'.toNat)
  else if Text.isDigit c then some (c.toNat - '0'.toNat + 26)
  else none

/-- The threshold of a digit; `weight` is 36 for the first one and grows by 36. -/
def threshold (bias weight : Nat) : Nat := max 1 (min 26 (weight - bias))

theorem threshold_pos (bias weight : Nat) : 0 < threshold bias weight :=
  Nat.lt_of_lt_of_le Nat.zero_lt_one (Nat.le_max_left ..)

def biasOf (size above : Nat) : Nat :=
  if 455 < size then biasOf (size / 35) (above + 36) else above + 36 * size / (size + 38)
termination_by size

/-- The bias after a number of steps that led to a character, `count` of them by now. -/
def adapt (steps count : Nat) (first : Bool) : Nat :=
  let size := if first then steps / 700 else steps / 2
  biasOf (size + size / count) 0

/-- The code of the first character outside ASCII. -/
def firstCode : Nat := 0x80

def firstBias : Nat := 72

/-! ### Writing -/

def writeNumber (bias weight n : Nat) : Text :=
  let least := threshold bias weight
  if n < least then [digit n]
  else
    digit (least + (n - least) % (36 - least)) ::
      writeNumber bias (weight + 36) ((n - least) / (36 - least))
termination_by n
decreasing_by
  have hpos := threshold_pos bias weight
  have hle := Nat.div_le_self (n - threshold bias weight) (36 - threshold bias weight)
  omega

structure Progress where
  written : Text
  /-- The steps since the last character that was written. -/
  steps : Nat
  bias : Nat
  /-- How many characters have been written. -/
  count : Nat

/-- Goes past one character on the way through the text for those with a code. `basic` is the
number of characters of ASCII. -/
def Progress.pass (basic code : Nat) (p : Progress) (c : Char) : Progress :=
  if c.toNat < code then { p with steps := p.steps + 1 }
  else if c.toNat = code then
    { written := p.written ++ writeNumber p.bias 36 p.steps
      steps := 0
      bias := adapt p.steps (p.count + 1) (p.count == basic)
      count := p.count + 1 }
  else p

/-- Writes the characters with these codes; `next` is the code that the steps have come to. -/
def writeCodes (s : Text) (basic next : Nat) : List Nat → Progress → Text
  | [], p => p.written
  | code :: codes, p =>
    let found := { p with steps := p.steps + (code - next) * (p.count + 1) }
    let p := s.foldl (Progress.pass basic code) found
    writeCodes s basic (code + 1) codes { p with steps := p.steps + 1 }

def encode (s : Text) : Text :=
  let basic := s.filter (·.toNat < firstCode)
  let codes := ((s.map Char.toNat).filter (firstCode ≤ ·)).eraseDups.mergeSort
  writeCodes s basic.length firstCode codes
    { written := if basic.isEmpty then [] else basic ++ ['-']
      steps := 0
      bias := firstBias
      count := basic.length }

/-! ### Reading -/

/-- Reads numbers and puts in the characters that they lead to. The steps are counted from place 0
at the code, those up to `start` belong to the character before; `scale` is what the next digit
counts for. -/
def readCodes (s : Text) (code bias start steps scale weight : Nat) : Text → Option Text
  | [] => if weight = 36 then some s else none
  | c :: rest =>
    (digitValue? c).bind fun d =>
      let steps := steps + d * scale
      let least := threshold bias weight
      if least ≤ d then
        readCodes s code bias start steps (scale * (36 - least)) (weight + 36) rest
      else
        let count := s.length + 1
        let found := code + steps / count
        let place := steps % count
        if found.isValidChar then
          readCodes (s.insertIdx place (Char.ofNat found)) found
            (adapt (steps - start) count (start == 0)) (place + 1) (place + 1) 1 36 rest
        else none

def decode? (s : Text) : Option Text :=
  let digits := (s.reverse.takeWhile (· != '-')).reverse
  let basic := (s.take (s.length - digits.length)).dropLast
  readCodes basic firstCode firstBias 0 0 1 36 digits

end ClickGen.Url.Punycode
