import ClickGen.Url.Name

/-!
Hosts of a URL: domain names, addresses of four numbers in any of the notations that are read
as such, and addresses of eight groups in brackets.
-/

namespace ClickGen.Url

inductive Host where
  | domain (name : Text)
  | v4 (address : Nat)
  | v6 (groups : List Nat)
  deriving DecidableEq

namespace Host

/-! ### Four numbers -/

def readDigits (base : Nat) (s : Text) : Option Nat :=
  s.foldlM (fun n c =>
    (Text.hexValue? c).bind fun d => if d < base then some (n * base + d) else none) 0

/-- A number in hexadecimal after `0x`, in octal after a further `0`, else in decimal. -/
def readNumber? : Text → Option Nat
  | [] => none
  | '0' :: 'x' :: digits | '0' :: 'X' :: digits => readDigits 16 digits
  | '0' :: c :: digits => readDigits 8 (c :: digits)
  | digits => readDigits 10 digits

/-- The labels of a domain name, without the empty one after a dot at the end. -/
def labels (name : Text) : List Text :=
  let parts := Text.splitOn '.' name
  if parts.getLast? = some [] then parts.dropLast else parts

/-- Whether the last label is a number, so that the name has to be an address. -/
def endsInNumber (name : Text) : Bool :=
  match (labels name).getLast? with
  | none => false
  | some last => (!last.isEmpty && last.all Text.isDigit) || (readNumber? last).isSome

/-- The address that numbers stand for: one byte each but for the last, which fills the rest. -/
def address? (numbers : List Nat) : Option Nat :=
  match numbers.getLast? with
  | none => none
  | some last =>
    let front := numbers.dropLast
    if front.length > 3 || last ≥ Nat.pow 256 (4 - front.length) || front.any (· > 255) then none
    else some (front.zipIdx.foldl (fun sum (n, i) => sum + n * Nat.pow 256 (3 - i)) last)

/-! ### Eight groups -/

def isHex (c : Char) : Bool := (Text.hexValue? c).isSome

/-- A number from 0 to 255 without leading zeros. -/
def readByte? (s : Text) : Option Nat :=
  if s.isEmpty || !s.all Text.isDigit || (s.length > 1 && s.head? = some '0') then none
  else
    let n := Text.digitsValue s
    if n > 255 then none else some n

/-- Four numbers between dots, as the two groups that they fill. -/
def readEmbedded? (s : Text) : Option (List Nat) :=
  match (Text.splitOn '.' s).mapM readByte? with
  | some [a, b, c, d] => some [a * 256 + b, c * 256 + d]
  | _ => none

/-- Reads groups after those in `groups`; `gap` tells how many of those stand before the place
where a double colon leaves out groups of zero. Each round takes at least one character. -/
def readGroups (groups : List Nat) (gap : Option Nat) :
    Nat → Text → Option (List Nat × Option Nat)
  | _, [] => some (groups, gap)
  | 0, _ => none
  | rounds + 1, c :: rest =>
    if groups.length = 8 then none
    else if c = ':' then
      if gap.isSome then none
      else readGroups (groups ++ [0]) (some (groups.length + 1)) rounds rest
    else
      let digits := ((c :: rest).take 4).takeWhile isHex
      let group := (readDigits 16 digits).getD 0
      match (c :: rest).drop digits.length with
      | [] => some (groups ++ [group], gap)
      | '.' :: _ =>
        if digits.isEmpty || groups.length > 6 then none
        else (readEmbedded? (c :: rest)).map fun embedded => (groups ++ embedded, gap)
      | ':' :: after =>
        if after.isEmpty then none else readGroups (groups ++ [group]) gap rounds after
      | _ => none

/-- Reads what stands between the brackets of an address in groups. -/
def readV6? (s : Text) : Option (List Nat) := do
  let (groups, gap) ←
    match s with
    | ':' :: ':' :: rest => readGroups [0] (some 1) rest.length rest
    | ':' :: _ => none
    | _ => readGroups [] none s.length s
  match gap with
  | none => if groups.length = 8 then some groups else none
  | some before =>
    some (groups.take before ++ List.replicate (8 - groups.length) 0 ++ groups.drop before)

/-- How many groups of zero follow each other at the front. -/
def zeros (groups : List Nat) : Nat := (groups.takeWhile (· = 0)).length

/-- The first longest run of at least two groups of zero: where it starts, and its length. -/
def longestRun (groups : List Nat) : Option (Nat × Nat) :=
  (List.range groups.length).foldl
    (fun best i =>
      let length := zeros (groups.drop i)
      if length > 1 && best.all (fun found => length > found.2) then some (i, length) else best)
    none

def renderGroups (groups : List Nat) : Text :=
  List.intercalate ":" (groups.map (Nat.toDigits 16))

def render : Host → Text
  | domain name => name
  | v4 address =>
    List.intercalate "." ([3, 2, 1, 0].map fun i => Text.ofNat (address / Nat.pow 256 i % 256))
  | v6 groups =>
    let shown :=
      match longestRun groups with
      | some (start, length) =>
        renderGroups (groups.take start) ++ "::" ++ renderGroups (groups.drop (start + length))
      | none => renderGroups groups
    "[" ++ shown ++ "]"

/-! ### Reading -/

/-- What stands between brackets at both ends; nothing when only one is there. -/
def bracketed? (s : Text) : Option (Option Text) :=
  match s with
  | '[' :: rest => some (if rest.getLast? = some ']' then some rest.dropLast else none)
  | _ => none

/-- The host that a name in lower case is read as. -/
def ofName? (name : Text) : Option Host :=
  if name.isEmpty then none
  else if endsInNumber name then (((labels name).mapM readNumber?).bind address?).map v4
  else some (domain name)

/-- Reads the host of a web or file URL. -/
def read? (s : Text) (toAscii? : Mapping := lettersToAscii?) : Option Host :=
  match bracketed? s with
  | some inner => (inner.bind readV6?).map v6
  | none =>
    match Text.ofUtf8 (percentDecode s) with
    | .error _ => none
    | .ok name => (keptName? toAscii? name).bind ofName?

/-- Whether the host of any other URL can be read; it may be empty. -/
def isOpaque (s : Text) : Bool :=
  match bracketed? s with
  | some inner => (inner.bind readV6?).isSome
  | none => !s.any isForbidden

end Host

end ClickGen.Url
