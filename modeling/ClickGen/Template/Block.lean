import ClickGen.Template.Argument

/-!
Blocks: the nodes from a tag to the tag that ends them. Tags that divide a block, such as `else`,
are looked for only where the block may have them. A reader that fails says which pieces it leaves,
because a comment goes on there.
-/

namespace ClickGen.Template

/-- What a reader of pieces comes to, if it succeeds, and the pieces that it leaves. -/
structure Reading (α : Type) where
  result? : Option α
  rest : List Piece

namespace Reading

variable {α β : Type}

def done (a : α) (rest : List Piece) : Reading α := ⟨some a, rest⟩

def failed (rest : List Piece) : Reading α := ⟨none, rest⟩

def ofOption (a? : Option α) (rest : List Piece) : Reading α := ⟨a?, rest⟩

def map (f : α → β) (r : Reading α) : Reading β := ⟨r.result?.map f, r.rest⟩

/-- Goes on reading after a success. -/
def andThen (r : Reading α) (f : α → List Piece → Reading β) : Reading β :=
  match r.result? with
  | some a => f a r.rest
  | none => failed r.rest

end Reading

/-! ### Text that is not looked into -/

/-- The text up to the tag that ends it. -/
def readRaw : List Piece → Reading Text
  | [] => .failed []
  | .tag name tokens source :: rest =>
    if name = "endraw".toList then
      if tokens.isEmpty then .done [] rest else .failed rest
    else (readRaw rest).map (source ++ ·)
  | piece :: rest => (readRaw rest).map (piece.source ++ ·)

/-! ### Blocks -/

/-- The nodes up to a tag that ends or divides a block, and that tag. At the end of the template
there is no such tag. -/
structure Block where
  nodes : List Node
  stop? : Option (Text × List Token)

namespace Block

/-- The block with a node in front. -/
def push (node : Node) (b : Block) : Block := { b with nodes := node :: b.nodes }

/-- Whether a block stopped at the tag `name`. -/
def stopsAt (b : Block) (name : Text) : Bool := b.stop?.any (·.1 == name)

/-- Whether the tag that a block stopped at has nothing else in it. -/
def stopsBare (b : Block) : Bool := b.stop?.any (·.2.isEmpty)

/-- The node of a block that ends at the tag `name`. -/
def closed (name : Text) (node : List Node → Node) (b : Block) (rest : List Piece) :
    Reading Node :=
  if b.stopsAt name && b.stopsBare then .done (node b.nodes) rest else .failed rest

/-- The node of a block that ends at the tag `name`, with a part after `else` if it has one, read
by `more`. A strict block has nothing else in that tag. -/
def closedWithElse (strict : Bool) (name : Text) (more : List Piece → Reading Block)
    (node : List Node → List Node → Node) (b : Block) (rest : List Piece) : Reading Node :=
  if b.stopsAt "else" then
    if strict && !b.stopsBare then .failed rest
    else (more rest).andThen (closed name (node b.nodes))
  else closed name (node · []) b rest

end Block

mutual

/-- Nodes up to a tag of `stops`. -/
def readNodes : Nat → List Text → List Piece → Reading Block
  | _, _, [] => .done ⟨[], none⟩ []
  | 0, _, _ => .failed []
  | n + 1, stops, .plain t :: rest => (readNodes n stops rest).map (Block.push (.plain t))
  | n + 1, stops, .output phrase _ :: rest =>
    match phrase.chain? with
    | some chain => (readNodes n stops rest).map (Block.push (.output chain))
    | none => .failed rest
  | _ + 1, _, .stray _ :: _ => .failed []
  | n + 1, stops, .tag name tokens _ :: rest =>
    if stops.contains name then .done ⟨[], some (name, tokens)⟩ rest
    else
      match Tag.table.lookup name with
      | none => .failed rest
      | some tag =>
        (readTagNode n tag tokens rest).andThen fun node rest =>
          (readNodes n stops rest).map (Block.push node)

/-- The node that a tag begins. -/
def readTagNode : Nat → Tag → List Token → List Piece → Reading Node
  | 0, _, _, _ => .failed []
  | n + 1, tag, tokens, rest =>
    match tag with
    | .assignTag => .ofOption (readAssign? tokens) rest
    | .breakTag => .ofOption (if tokens.isEmpty then some (.interrupt .stop) else none) rest
    | .continueTag => .ofOption (if tokens.isEmpty then some (.interrupt .next) else none) rest
    | .cycleTag => .ofOption (readCycle? tokens) rest
    | .incrementTag => .ofOption ((soleName? tokens).map .increment) rest
    | .decrementTag => .ofOption ((soleName? tokens).map .decrement) rest
    | .includeTag => .ofOption (if isInclude tokens then some .partialTemplate else none) rest
    | .renderTag => .ofOption (if isRender tokens then some .partialTemplate else none) rest
    | .rawTag => if tokens.isEmpty then (readRaw rest).map .plain else .failed rest
    | .commentTag =>
      if tokens.isEmpty then (readComment n rest).map fun _ => .plain [] else .failed rest
    | .captureTag =>
      match soleName? tokens with
      | some name =>
        (readNodes n ["endcapture"] rest).andThen (Block.closed "endcapture" (.capture name))
      | none => .failed rest
    | .ifChangedTag =>
      if tokens.isEmpty then
        (readNodes n ["endifchanged"] rest).andThen (Block.closed "endifchanged" .ifChanged)
      else .failed rest
    | .ifTag => readChoice n tokens rest
    | .unlessTag =>
      match readCondition? tokens with
      | some condition =>
        (readNodes n ["else", "endunless"] rest).andThen
          (Block.closedWithElse false "endunless" (readNodes n ["endunless"])
            (.choose (.not condition)))
      | none => .failed rest
    | .caseTag =>
      match tokens with
      | [t] =>
        match t.value? with
        | some e => (readNodes n ["when", "else", "endcase"] rest).andThen (readCases n e)
        | none => .failed rest
      | _ => .failed rest
    | .forTag =>
      match readLoop? false tokens with
      | some head =>
        (readNodes n ["else", "endfor"] rest).andThen
          (Block.closedWithElse true "endfor" (readNodes n ["endfor"]) (.loop head))
      | none => .failed rest
    | .tableTag =>
      match readLoop? true tokens with
      | some head =>
        (readNodes n ["endtablerow"] rest).andThen (Block.closed "endtablerow" (.table head))
      | none => .failed rest

/-- A choice, read from the condition on, with further choices after `elsif`. -/
def readChoice : Nat → List Token → List Piece → Reading Node
  | 0, _, _ => .failed []
  | n + 1, tokens, rest =>
    match readCondition? tokens with
    | none => .failed rest
    | some condition =>
      (readNodes n ["elsif", "else", "endif"] rest).andThen fun b rest =>
        match b.stop? with
        | some (name, tokens) =>
          if name = "elsif".toList then
            (readChoice n tokens rest).map fun other => .choose condition b.nodes [other]
          else
            b.closedWithElse false "endif" (readNodes n ["endif"]) (.choose condition) rest
        | none => .failed rest

/-- The cases of a value after the block `b`, whose own nodes belong to the case before. -/
def readCases : Nat → Expr → Block → List Piece → Reading Node
  | 0, _, _, _ => .failed []
  | n + 1, e, b, rest =>
    match b.stop? with
    | some (name, tokens) =>
      if name = "when".toList then
        match readValues? ["or", ","] tokens with
        | some values =>
          (readNodes n ["when", "else", "endcase"] rest).andThen fun case rest =>
            (readCases n e case rest).map fun other =>
              .choose (.oneOf e values) case.nodes [other]
        | none => .failed rest
      else
        b.closedWithElse true "endcase" (readNodes n ["endcase"])
          (fun _ otherwise => .choose (.oneOf e []) [] otherwise) rest
    | none => .failed rest

/-- Reads to the end of a comment. Tags in it are read as elsewhere, so that what they hide cannot
end the comment, but only those of comments have to be in order. -/
def readComment : Nat → List Piece → Reading Unit
  | _, [] => .failed []
  | 0, _ => .failed []
  | n + 1, .tag name tokens _ :: rest =>
    if name = "endcomment".toList then
      if tokens.isEmpty then .done () rest else .failed rest
    else
      match Tag.table.lookup name with
      | none => readComment n rest
      | some tag =>
        match readTagNode n tag tokens rest with
        | ⟨node?, rest⟩ =>
          if tag = .commentTag ∧ node?.isNone then .failed rest else readComment n rest
  | n + 1, _ :: rest => readComment n rest

end

end ClickGen.Template
