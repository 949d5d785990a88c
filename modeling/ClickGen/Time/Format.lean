import ClickGen.Time.Moment

/-!
Moments written after a pattern. In a pattern a percent sign begins a directive: flags and a width,
and a letter that says what stands there. Everything else stands for itself.
-/

namespace ClickGen.Moment

/-- How a directive wants its part to look. -/
structure Look where
  /-- What fills the width, and nothing when there is no filling. -/
  filling? : Option (Option Char) := none
  upper : Bool := false
  swapped : Bool := false
  colons : Nat := 0
  width? : Option Nat := none

namespace Look

/-- The look with one flag more. -/
def flag? (look : Look) (c : Char) : Option Look :=
  match c with
  | '-' => some { look with filling? := some none }
  | '_' => some { look with filling? := some (some ' ') }
  | '^' => some { look with upper := true }
  | '#' => some { look with swapped := true }
  | ':' => some { look with colons := look.colons + 1 }
  | '0' => if look.width?.isSome then none else some { look with filling? := some (some '0') }
  | _ => none

/-- The flags and the width that a directive begins with, and what follows them. -/
def read (look : Look) : Text → Look × Text
  | [] => (look, [])
  | c :: rest =>
    match look.flag? c with
    | some look => look.read rest
    | none =>
      if Text.isDigit c then
        read { look with width? := some (look.width?.getD 0 * 10 + (c.toNat - '0'.toNat)) } rest
      else (look, c :: rest)

/-- Fills a text up at its left. -/
def fill (look : Look) (width : Nat) (filler : Char) (s : Text) : Text :=
  match look.filling?.getD (some filler) with
  | some filler => List.replicate (look.width?.getD width - s.length) filler ++ s
  | none => s

/-- A number of at least `width` digits. -/
def number (look : Look) (width : Nat) (filler : Char) (i : Int) : Text :=
  if i < 0 then '-' :: look.fill width filler (Text.ofNat i.natAbs)
  else look.fill width filler (Text.ofNat i.natAbs)

/-- A word. The flag that swaps the case makes it upper, unless `lowers` says otherwise. -/
def word (look : Look) (lowers : Bool) (s : Text) : Text :=
  let cased :=
    if look.swapped && lowers then s.map Char.toLower
    else if look.upper || look.swapped then s.map Char.toUpper
    else s
  look.fill 0 ' ' cased

end Look

/-- The first digits of a fraction of a second. -/
def fractionDigits (m : Moment) (count : Nat) : Text :=
  let digits := Text.ofNat m.nanosecond
  let all := List.replicate (9 - digits.length) '0' ++ digits
  (all ++ List.replicate (count - 9) '0').take count

/-- The hour on a clock with twelve. -/
def clockHour (m : Moment) : Nat := (m.hour + 11) % 12 + 1

def twoDigits (n : Nat) : Text := Look.number {} 2 '0' n

/-- The offset, with colons between its parts as the look asks for. -/
def writeOffset (m : Moment) (look : Look) : Text :=
  let minutes := m.offset.natAbs
  let colon : Text := if look.colons = 0 then [] else [':']
  let digits :=
    twoDigits (minutes / 60) ++ colon ++ twoDigits (minutes % 60) ++
      (if look.colons < 2 then [] else ":00")
  let sign := if m.offset < 0 then '-' else '+'
  sign :: (List.replicate (look.width?.getD 0 - digits.length - 1) '0' ++ digits)

/-- What a directive of one letter stands for, when it is not put together from others. -/
def part? (m : Moment) (look : Look) (letter : Char) : Option Text :=
  match letter with
  | 'Y' => some (look.number 4 '0' m.year)
  | 'C' => some (look.number 2 '0' (m.year / 100))
  | 'y' => some (look.number 2 '0' (m.year % 100))
  | 'm' => some (look.number 2 '0' m.month)
  | 'B' => some (look.word false m.monthName)
  | 'b' | 'h' => some (look.word false (short m.monthName))
  | 'd' => some (look.number 2 '0' m.day)
  | 'e' => some (look.number 2 ' ' m.day)
  | 'j' => some (look.number 3 '0' m.dayOfYear)
  | 'H' => some (look.number 2 '0' m.hour)
  | 'k' => some (look.number 2 ' ' m.hour)
  | 'I' => some (look.number 2 '0' m.clockHour)
  | 'l' => some (look.number 2 ' ' m.clockHour)
  | 'P' => some (look.word true (if m.hour < 12 then "am" else "pm"))
  | 'p' => some (look.word true (if m.hour < 12 then "AM" else "PM"))
  | 'M' => some (look.number 2 '0' m.minute)
  | 'S' => some (look.number 2 '0' m.second)
  | 'L' => some (m.fractionDigits (look.width?.getD 3))
  | 'N' => some (m.fractionDigits (look.width?.getD 9))
  | 'z' => some (m.writeOffset look)
  | 'Z' => some (m.writeOffset { colons := 1 })
  | 'A' => some (look.word false m.weekdayName)
  | 'a' => some (look.word false (short m.weekdayName))
  | 'u' => some (look.number 1 '0' m.weekdayFromMonday)
  | 'w' => some (look.number 1 '0' m.weekday)
  | 'G' => some (look.number 4 '0' m.calendarWeek.1)
  | 'g' => some (look.number 2 '0' (m.calendarWeek.1 % 100))
  | 'V' => some (look.number 2 '0' m.calendarWeek.2)
  | 'U' => some (look.number 2 '0' (m.weekOfYear 0))
  | 'W' => some (look.number 2 '0' (m.weekOfYear 1))
  | 's' => some (look.number 1 '0' m.timestamp)
  | 'n' => some (look.word false ['\n'])
  | 't' => some (look.word false ['\t'])
  | '%' => some (look.word false ['%'])
  | _ => none

/-- The pattern that a directive of one letter is short for. -/
def pattern? : Char → Option Text
  | 'c' => some "%a %b %e %H:%M:%S %Y"
  | 'D' | 'x' => some "%m/%d/%y"
  | 'F' => some "%Y-%m-%d"
  | 'v' => some "%e-%^b-%Y"
  | 'r' => some "%I:%M:%S %p"
  | 'R' => some "%H:%M"
  | 'T' | 'X' => some "%H:%M:%S"
  | '+' => some "%a %b %e %H:%M:%S %Z %Y"
  | _ => none

/-- The moment after a pattern of at most `n` characters, where a directive that is none stands for
itself. A directive has to have a letter. -/
def formatWith? (m : Moment) (directive? : Look → Char → Option Text) : Nat → Text → Option Text
  | _, [] => some []
  | 0, _ => none
  | n + 1, '%' :: rest =>
    match Look.read {} rest with
    | (_, []) => none
    | (look, letter :: after) =>
      let shown :=
        match directive? look letter with
        | some shown => shown
        | none => '%' :: rest.take (rest.length - after.length)
      (formatWith? m directive? n after).map (shown ++ ·)
  | n + 1, c :: rest => (formatWith? m directive? n rest).map (c :: ·)

/-- The moment after a pattern without patterns in it. -/
def formatFlat? (m : Moment) (pattern : Text) : Option Text :=
  formatWith? m m.part? pattern.length pattern

/-- The moment after a pattern. -/
def format? (m : Moment) (pattern : Text) : Option Text :=
  formatWith? m directive? pattern.length pattern
where
  directive? (look : Look) (letter : Char) : Option Text :=
    match m.part? look letter with
    | some shown => some shown
    | none =>
      match pattern? letter with
      | some inner => (m.formatFlat? inner).map (look.word false)
      | none => none

end ClickGen.Moment
