import ClickGen.Text.Numeral
import ClickGen.Time.Moment

/-!
Moments read from text: a number of seconds, or a date and a time in one of a few forms.
-/

namespace ClickGen.Moment

/-- What a form asks for at a place. -/
inductive Part where
  | year | month | hour | minute | second | fraction | weekday | offset
  | monthName (long : Bool)
  /-- A day, with two digits or with as many as it takes. -/
  | day (padded : Bool)
  | mark (c : Char)

namespace Part

/-- Reads so many digits. -/
def digits? (count : Nat) (s : Text) : Option (Nat × Text) :=
  let digits := s.take count
  if digits.length = count ∧ digits.all Text.isDigit then
    some (Text.digitsValue digits, s.drop count)
  else none

/-- Reads one of several names, and tells which it is. -/
def name? (names : List Text) (s : Text) : Option (Nat × Text) :=
  match names.findIdx? fun name => name.isPrefixOf s with
  | some i => some (i, s.drop (names.getD i []).length)
  | none => none

/-- A sign, if there is one that counts as negative, and what follows it. -/
def sign? : Text → Option (Bool × Text)
  | '-' :: rest => some (true, rest)
  | '+' :: rest => some (false, rest)
  | _ => none

/-- Reads a part of a moment. -/
def read? (part : Part) (m : Moment) (s : Text) : Option (Moment × Text) :=
  match part with
  | year => do
    let (negative, s) := Text.takeSign s
    let (n, s) ← digits? 4 s
    return ({ m with year := if negative then -(n : Int) else n }, s)
  | month => (digits? 2 s).map fun r => ({ m with month := r.1 }, r.2)
  | monthName long =>
    (name? (if long then monthNames else monthNames.map short) s).map fun r =>
      ({ m with month := r.1 + 1 }, r.2)
  | day true => (digits? 2 s).map fun r => ({ m with day := r.1 }, r.2)
  | day false =>
    ((digits? 2 s).or (digits? 1 s)).map fun r => ({ m with day := r.1 }, r.2)
  | hour => (digits? 2 s).map fun r => ({ m with hour := r.1 }, r.2)
  | minute => (digits? 2 s).map fun r => ({ m with minute := r.1 }, r.2)
  | second => (digits? 2 s).map fun r => ({ m with second := r.1 }, r.2)
  | fraction =>
    let digits := (s.takeWhile Text.isDigit).take 9
    if digits.isEmpty then none
    else
      let padded := digits ++ List.replicate (9 - digits.length) '0'
      some ({ m with nanosecond := Text.digitsValue padded }, s.drop digits.length)
  | weekday => (name? (weekdayNames.map short) s).map fun r => (m, r.2)
  | offset => do
    let (negative, s) ← sign? s
    let (hours, s) ← digits? 2 s
    let (minutes, s) ← digits? 2 s
    if minutes > 59 then none
    let minutes : Int := (hours * 60 + minutes : Nat)
    return ({ m with offset := if negative then -minutes else minutes }, s)
  | mark c =>
    match s with
    | d :: rest => if d = c then some (m, rest) else none
    | [] => none

end Part

def timeOfDay : List Part := [.hour, .mark ':', .minute, .mark ':', .second]

def blank : Part := .mark ' '

/-- The forms that moments are written in. -/
def forms : List (List Part) := [
  [.year, .mark '-', .month, .mark '-', .day true, blank] ++ timeOfDay ++ [blank, .offset],
  [.year, .mark '-', .month, .mark '-', .day true, blank] ++ timeOfDay ++
    [.mark '.', .fraction, blank, .offset],
  [.day true, blank, .monthName true, blank, .year, blank] ++ timeOfDay ++ [blank, .offset],
  [.day true, blank, .monthName false, blank, .year, blank] ++ timeOfDay ++ [blank, .offset],
  [.month, .mark '/', .day true, .mark '/', .year, blank] ++ timeOfDay ++ [blank, .offset],
  [.weekday, blank, .monthName false, blank, .day false, blank] ++ timeOfDay ++
    [blank, .year, blank, .offset]]

/-- Whether there is such a moment. -/
def isValid (m : Moment) : Bool :=
  Time.isDate m.year m.month m.day && m.hour ≤ 23 && m.minute ≤ 59 && m.second ≤ 59

/-- Reads a moment in one form, which takes the whole text. -/
def readForm? (m : Moment) : List Part → Text → Option Moment
  | [], s => if s.isEmpty && m.isValid then some m else none
  | part :: parts, s =>
    match part.read? m s with
    | some (m, rest) => readForm? m parts rest
    | none => none

/-- Whether a text ends in an offset. -/
def endsInOffset (s : Text) : Bool :=
  match s.reverse with
  | d :: c :: b :: a :: sign :: _ =>
    (sign == '+' || sign == '-') && (a == '0' || a == '1') && [b, c, d].all Text.isDigit
  | _ => false

/-- Reads a moment. Without an offset it is one of universal time. -/
def ofText? (s : Text) : Option Moment :=
  match Text.readInt64 s with
  | some seconds => ofTimestamp? seconds
  | none =>
    let s := if endsInOffset s then s else s ++ " +0000"
    forms.findSome? fun form => readForm? {} form s

end ClickGen.Moment
