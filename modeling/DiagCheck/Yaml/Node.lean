import DiagCheck.Yaml.Token

/-!
# Nodes

The tokens of a text describe a tree of scalars, sequences and mappings. A node that is left out
behind a mark is an empty scalar.
-/

namespace DiagCheck.Yaml

inductive Node where
  | plain (t : Text)
  | text (ps : Points)
  | sequence (items : List Node)
  | mapping (entries : List (Node × Node))
  deriving Repr

namespace Node

def empty : Node := .plain []

/-- Where nodes may stand: in brackets, in a block, or in a block mapping, whose sequences need
not be indented deeper than its keys. -/
inductive Place where
  | flow
  | block
  | member
  deriving DecidableEq, Repr

/-- An item in brackets: a node, or a key with its value. -/
abbrev Item := Node × Option Node

/-- In a sequence, a key with its value is a mapping of its own. -/
def ofItem : Item → Node
  | (n, none) => n
  | (k, some v) => .mapping [(k, v)]

/-- In a mapping, a node alone is a key without a value. -/
def entryOfItem : Item → Node × Node
  | (k, v) => (k, v.getD empty)

def endsEntry (t : Token) : Bool := t == .entry || t == .key || t == .value || t == .blockEnd

def endsMember (t : Token) : Bool := t == .key || t == .value || t == .blockEnd

def endsItem (close t : Token) : Bool := t == .value || t == .comma || t == close

/-- Takes something from the beginning of some tokens. -/
abbrev Taking (α : Type) := List Token → Except Fault (α × List Token)

/-- What is wrong where no rule goes on. -/
def refuse : List Token → Except Fault α
  | .cut f :: _ => .error f
  | _ => .error .malformed

/-- The node behind a mark; it is left out if a token that `ends` comes next. -/
def content (ends : Token → Bool) (take : Taking Node) : Taking Node := fun ts =>
  if ts.head?.any ends then .ok (empty, ts) else take ts

/-- The value behind a key; it is left out if its mark is. -/
def value (ends : Token → Bool) (take : Taking Node) : Taking Node
  | .value :: ts => content ends take ts
  | ts => .ok (empty, ts)

/-- A key, whose mark has been taken, and its value. -/
def pair (ends : Token → Bool) (take : Taking Node) : Taking (Node × Node) := fun ts => do
  let (k, ts) ← content ends take ts
  let (v, ts) ← value ends take ts
  return ((k, v), ts)

def item (close : Token) (take : Taking Node) : Taking Item
  | .key :: ts => (pair (endsItem close) take ts).map fun ((k, v), ts) => ((k, some v), ts)
  | ts => (take ts).map fun (n, ts) => ((n, none), ts)

mutual

def take (place : Place) : Nat → Taking Node
  | 0, ts => refuse ts
  | _ + 1, [] => refuse []
  | fuel + 1, t :: ts => match t with
    | .plain t => .ok (.plain t, ts)
    | .text ps => .ok (.text ps, ts)
    | .bracket => (items .bracketEnd fuel ts).map fun (is, ts) => (.sequence (is.map ofItem), ts)
    | .brace => (items .braceEnd fuel ts).map fun (is, ts) => (.mapping (is.map entryOfItem), ts)
    | .sequenceStart =>
      if place = .flow then refuse (t :: ts)
      else do
        let (ns, ts) ← entries fuel ts
        match ts with
        | .blockEnd :: ts => return (.sequence ns, ts)
        | ts => refuse ts
    | .mappingStart =>
      if place = .flow then refuse (t :: ts)
      else (members fuel ts).map fun (es, ts) => (.mapping es, ts)
    | .entry =>
      if place = .member then
        (entries fuel (t :: ts)).map fun (ns, ts) => (.sequence ns, ts)
      else refuse (t :: ts)
    | _ => refuse (t :: ts)

def entries : Nat → Taking (List Node)
  | 0, ts => refuse ts
  | fuel + 1, .entry :: ts => do
    let (n, ts) ← content endsEntry (take .block fuel) ts
    let (ns, ts) ← entries fuel ts
    return (n :: ns, ts)
  | _ + 1, ts => .ok ([], ts)

/-- The members of a block mapping and the mark of its end. -/
def members : Nat → Taking (List (Node × Node))
  | 0, ts => refuse ts
  | _ + 1, .blockEnd :: ts => .ok ([], ts)
  | fuel + 1, .key :: ts => do
    let (e, ts) ← pair endsMember (take .member fuel) ts
    let (es, ts) ← members fuel ts
    return (e :: es, ts)
  | _ + 1, ts => refuse ts

/-- The items in brackets and the closing bracket, in front of which a comma may stand. -/
def items (close : Token) : Nat → Taking (List Item)
  | 0, ts => refuse ts
  | fuel + 1, ts =>
    if ts.head? = some close then .ok ([], ts.tail)
    else do
      let (i, ts) ← item close (take .flow fuel) ts
      match ts with
      | .comma :: ts => (items close fuel ts).map fun (is, ts) => (i :: is, ts)
      | ts => if ts.head? = some close then return ([i], ts.tail) else refuse ts

end

def atDocumentEnd (ts : List Token) : Bool :=
  ts.head?.all fun t => t == .documentStart || t == .documentEnd

/-- The node of a document. A document without a mark at its beginning has a node. -/
def document (ts : List Token) : Except Fault (Node × List Token) :=
  let fuel := 2 * (ts.length + 1)
  match ts with
  | .documentStart :: ts =>
    if atDocumentEnd ts then .ok (empty, ts) else take .block fuel ts
  | ts => take .block fuel ts

/-- The node of the only document. A text without a document stands for an empty one. -/
def ofTokens : List Token → Except Fault Node
  | [] => .ok empty
  | ts => do
    let (n, ts) ← document ts
    match ts.dropWhile (· == .documentEnd) with
    | [] => return n
    | ts => refuse ts

def ofInput (i : Input) : Except Fault Node := ofTokens (Token.ofInput i)

end Node

end DiagCheck.Yaml
