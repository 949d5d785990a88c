import ClickGen.Template.Arrange
import ClickGen.Template.Number
import ClickGen.Text.Cluster
import ClickGen.Text.Markup
import ClickGen.Time.Format
import ClickGen.Time.Reader
import ClickGen.Url.Percent

/-!
Filters: functions from a value and arguments to a value. A filter that its input or its
arguments do not suit has no result.
-/

namespace ClickGen.Template

inductive Filter where
  | abs | append | atLeast | atMost | capitalize | ceil | compact | concat | date | default
  | dividedBy | downcase | escape | escapeOnce | first | floor | join | last | lstrip | map | minus
  | modulo | newlineToBr | plus | prepend | remove | removeFirst | replace | replaceFirst | reverse
  | round | rstrip | size | slice | sort | sortNatural | split | strip | stripHtml | stripNewlines
  | sum | times | truncate | truncateWords | uniq | upcase | urlDecode | urlEncode | whereEquals
  deriving DecidableEq

namespace Filter

/-- A filter as templates write it, with the least and the largest number of its arguments. -/
structure Entry where
  name : Text
  filter : Filter
  least : Nat
  most : Nat

def table : List Entry := [
  ⟨"abs", abs, 0, 0⟩, ⟨"append", append, 1, 1⟩, ⟨"at_least", atLeast, 1, 1⟩,
  ⟨"at_most", atMost, 1, 1⟩, ⟨"capitalize", capitalize, 0, 0⟩, ⟨"ceil", ceil, 0, 0⟩,
  ⟨"compact", compact, 0, 1⟩, ⟨"concat", concat, 1, 1⟩, ⟨"date", date, 1, 1⟩,
  ⟨"default", default, 1, 1⟩, ⟨"divided_by", dividedBy, 1, 1⟩, ⟨"downcase", downcase, 0, 0⟩,
  ⟨"escape", escape, 0, 0⟩, ⟨"escape_once", escapeOnce, 0, 0⟩, ⟨"first", first, 0, 0⟩,
  ⟨"floor", floor, 0, 0⟩, ⟨"join", join, 0, 1⟩, ⟨"last", last, 0, 0⟩, ⟨"lstrip", lstrip, 0, 0⟩,
  ⟨"map", map, 1, 1⟩, ⟨"minus", minus, 1, 1⟩, ⟨"modulo", modulo, 1, 1⟩,
  ⟨"newline_to_br", newlineToBr, 0, 0⟩, ⟨"plus", plus, 1, 1⟩, ⟨"prepend", prepend, 1, 1⟩,
  ⟨"remove", remove, 1, 1⟩, ⟨"remove_first", removeFirst, 1, 1⟩, ⟨"replace", replace, 1, 2⟩,
  ⟨"replace_first", replaceFirst, 1, 2⟩, ⟨"reverse", reverse, 0, 0⟩, ⟨"round", round, 0, 1⟩,
  ⟨"rstrip", rstrip, 0, 0⟩, ⟨"size", size, 0, 0⟩, ⟨"slice", slice, 1, 2⟩, ⟨"sort", sort, 0, 1⟩,
  ⟨"sort_natural", sortNatural, 0, 1⟩, ⟨"split", split, 1, 1⟩, ⟨"strip", strip, 0, 0⟩,
  ⟨"strip_html", stripHtml, 0, 0⟩, ⟨"strip_newlines", stripNewlines, 0, 0⟩, ⟨"sum", sum, 0, 1⟩,
  ⟨"times", times, 1, 1⟩, ⟨"truncate", truncate, 0, 2⟩, ⟨"truncatewords", truncateWords, 0, 2⟩,
  ⟨"uniq", uniq, 0, 0⟩, ⟨"upcase", upcase, 0, 0⟩, ⟨"url_decode", urlDecode, 0, 0⟩,
  ⟨"url_encode", urlEncode, 0, 0⟩, ⟨"where", whereEquals, 1, 2⟩]

/-- The filter of a name, when it takes so many arguments. -/
def named? (name : Text) (arguments : Nat) : Option Filter :=
  match table.find? fun entry => entry.name = name with
  | some entry =>
    if entry.least ≤ arguments ∧ arguments ≤ entry.most then some entry.filter else none
  | none => none

/-! ### Parts of texts and lists -/

/-- The `length` items from `offset` on, where a negative offset counts from the end of so many. -/
def part {α : Type} (offset : Int) (length total : Nat) (items : List α) : List α :=
  let start := if offset < 0 then offset + total else offset
  if start < 0 then [] else (items.drop start.toNat).take length

/-- The beginning of a text that takes more than `length` bytes, with a mark at its end. The bytes
that the mark leaves are how many clusters are kept. -/
def truncated? (length : Nat) (mark s : Text) : Option Text :=
  if length < Text.byteSize s then
    some (((Text.clusters s).take (length - Text.byteSize mark)).flatten ++ mark)
  else none

/-- The first words of a text that has more, with a mark at their end. -/
def truncatedWords? (length : Nat) (mark s : Text) : Option Text :=
  let words := Text.splitOn ' ' s
  if length < words.length then some (List.intercalate [' '] (words.take length) ++ mark) else none

def isNewline (c : Char) : Bool := c == '\n' || c == '\r'

/-- Encoded in what goes into a URL: all but letters, digits and three marks. -/
def encodesInUrl (c : Char) : Bool :=
  !(Text.isAsciiAlnum c || c == '-' || c == '.' || c == '_')

/-! ### Application -/

/-- A filter on numbers of 64 bits. -/
def onNumbers (f : Int → Int → Option Int) (a b : Value) : Option Value := do
  return .int (Value.wrap (← f (← a.toInt?) (← b.toInt?)))

def onText (f : Text → Text) (v : Value) : Option Value := some (.text (f v.print))

def onList (f : List Value → Option Value) : Value → Option Value
  | .list items => f items
  | _ => none

/-- Items as they are, or with the values under a key. -/
def views? (key? : Option Text) (items : List Value) : Option (List Viewed) :=
  match key? with
  | some key => viewedAt? key items
  | none => some (viewed items)

def quotient? (a b : Int) : Option Int := if b = 0 then none else some (a.tdiv b)

def remainder? (a b : Int) : Option Int := if b = 0 then none else some (a.tmod b)

def applyWhere (key : Text) (wanted? : Option Value) (v : Value) : Option Value :=
  let keeps (item : Value) : Bool :=
    match field? key item, wanted? with
    | some found, some wanted => Value.same found wanted
    | some found, none => found.isTruthy
    | none, _ => false
  match v with
  | .list items => some (if items.all Value.isObject then .list (items.filter keeps) else .nil)
  | .object _ => some (.list ([v].filter keeps))
  | _ => none

def applySlice (offset : Value) (length? : Option Value) (v : Value) : Option Value := do
  let offset ← offset.toInt?
  let length ← (length?.getD (Value.int 1)).toInt?
  if length < 1 then none
  match v with
  | .list items => return .list (part offset length.toNat items.length items)
  | v => return .text (part offset length.toNat (Text.byteSize v.print) v.print)

/-- A filter that cuts a text to a length and marks the cut. A value that is not cut stays what it
is, and so does every value when the length is negative. -/
def applyTruncation (cut? : Nat → Text → Text → Option Text) (arguments : List Value) (v : Value) :
    Option Value := do
  let length ← (arguments[0]?.getD (Value.int 50)).toInt?
  let mark := (arguments[1]?.map Value.print).getD "..."
  if length < 0 then some v
  else
    match cut? length.toNat mark v.print with
    | some cut => some (.text cut)
    | none => some v

/-- A text that tells a moment, written after a pattern. Any other value stays what it is. -/
def applyDate (pattern : Text) (v : Value) : Option Value :=
  match v with
  | .text t =>
    match Moment.ofText? t with
    | some m => if pattern.isEmpty then some v else (m.format? pattern).map .text
    | none => some v
  | v => some v

/-- Sorts items, or items by what is at the end of a path into them. -/
def applySort (find : Text → Option Value) (order? : Value → Value → Option Ordering)
    (path? : Option Text) (v : Value) : Option Value :=
  let views? :=
    match path? with
    | some path => viewedAlong? find path (sequence v)
    | none => some (viewed (sequence v))
  views?.map fun views => .list (sortBy (comesBefore order?) views)

def applyRound (places : Value) (v : Value) : Option Value := do
  if (← places.toInt?) < 0 then none
  return .int (← Rounding.nearest.value? v)

/-- What a filter makes of a value. Variables are looked for where a filter is given a path. -/
def apply (find : Text → Option Value) (filter : Filter) (v : Value) (arguments : List Value) :
    Option Value :=
  let argument := arguments.headD .nil
  let key? := arguments.head?.map Value.print
  match filter with
  | append => some (.text (v.print ++ argument.print))
  | prepend => some (.text (argument.print ++ v.print))
  | capitalize => onText Text.capitalize v
  | downcase => onText Text.lower v
  | upcase => onText Text.upper v
  | lstrip => onText (Text.trimStart Text.isBlank) v
  | rstrip => onText (Text.trimEnd Text.isBlank) v
  | strip => onText Text.trimBlank v
  | stripNewlines => onText (·.filter (!isNewline ·)) v
  | stripHtml => onText Text.stripMarkup v
  | newlineToBr => onText (Text.replaceAll "\n" "<br />\n") v
  | escape => if v.isNil then some .nil else onText Text.escapeMarkup v
  | escapeOnce => if v.isNil then some .nil else onText Text.escapeMarkupOnce v
  | urlEncode =>
    if v.isNil then some .nil else onText (Url.percentEncode encodesInUrl) v
  | urlDecode =>
    if v.isNil then some .nil
    else
      let spaced := v.print.map fun c => if c = '+' then ' ' else c
      (Text.ofUtf8 (Url.percentDecode spaced)).toOption.map .text
  | remove => onText (Text.replaceAll argument.print []) v
  | removeFirst => onText (Text.replaceFirst argument.print []) v
  | replace =>
    onText (Text.replaceAll argument.print ((arguments[1]?.map Value.print).getD [])) v
  | replaceFirst =>
    onText (Text.replaceFirst argument.print ((arguments[1]?.map Value.print).getD [])) v
  | split =>
    let s := v.print
    some (.list (if s.isEmpty then [] else (Text.splitAround argument.print s).map .text))
  | truncate => applyTruncation truncated? arguments v
  | truncateWords => applyTruncation truncatedWords? arguments v
  | slice => applySlice argument arguments[1]? v
  | size =>
    match v with
    | .list items => some (.int items.length)
    | .object fields => some (.int fields.length)
    | v => some (.int (if v.isScalar then Text.byteSize v.print else 0))
  | first =>
    match v with
    | .list items => some (items.headD .nil)
    | v => if v.isScalar then some (.text (v.print.take 1)) else none
  | last =>
    match v with
    | .list items => some (items.getLastD .nil)
    | v => if v.isScalar then some (.text v.print.getLast?.toList) else none
  | default => some (if v.isMissing then argument else v)
  | date => applyDate argument.print v
  | join =>
    let mark := key?.getD [' ']
    onList (fun items => some (.text (mark.intercalate (items.map Value.print)))) v
  | reverse => onList (fun items => some (.list items.reverse)) v
  | concat => onList (fun items => onList (fun more => some (.list (items ++ more))) argument) v
  | map => onList (fun items => some (.list (items.filterMap (field? argument.print)))) v
  | compact => onList (fun items => do
      let views ← views? key? items
      return .list ((views.filter (!·.view.isNil)).map Viewed.item)) v
  | uniq => onList (fun items => some (.list (distinct [] items))) v
  | sort => applySort find Value.order? key? v
  | sortNatural => applySort find naturalOrder key? v
  | sum => do
    let views ← views? key? (sequence v)
    return .int (views.foldl (fun total seen => Value.wrap (total + seen.view.toInt?.getD 0)) 0)
  | whereEquals => applyWhere argument.print arguments[1]? v
  | abs => v.toInt?.map fun i => .int (Value.wrap i.natAbs)
  | ceil => (Rounding.up.value? v).map .int
  | floor => (Rounding.down.value? v).map .int
  | round => applyRound (arguments.headD (Value.int 0)) v
  | plus => onNumbers (fun a b => some (a + b)) v argument
  | minus => onNumbers (fun a b => some (a - b)) v argument
  | times => onNumbers (fun a b => some (a * b)) v argument
  | dividedBy => onNumbers quotient? v argument
  | modulo => onNumbers remainder? v argument
  | atLeast => onNumbers (fun a b => some (max a b)) v argument
  | atMost => onNumbers (fun a b => some (min a b)) v argument

end Filter

end ClickGen.Template
