import ProductLine.Yaml.Tag
import ProductLine.Yaml.Token

/-!
# YAML nodes

The tokens of a text describe one node: a scalar, a sequence or a mapping, each with its tag. A node may be
given a name and meant again by it later; inside itself the name stands for an empty collection.
-/

namespace ProductLine

namespace Yaml

/-- A scalar or a collection with its tag. -/
inductive Node where
  | scalar (tag : Tag) (text : List Char)
  | sequence (tag : Tag) (items : List Node)
  | mapping (tag : Tag) (entries : List (Node × Node))
deriving Inhabited

namespace Node

/-- The tokens left, and the nodes named so far. -/
structure Reader where
  tokens : List Token
  names : List (List Char × Node)

/-- A step of reading nodes. -/
abbrev Read := StateT Reader Option

/-- The next token. -/
def peek : Read (Option Token) := do return (← get).tokens.head?

/-- Skips a token. -/
def advance : Read Unit := modify fun r => { r with tokens := r.tokens.tail }

/-- Refuses the tokens. -/
def refuse {α : Type} : Read α := fun _ => none

/-- Skips a token that has to come. -/
def expect (t : Token) : Read Unit := do
  if (← peek) = some t then advance else refuse

/-- Whether one of some tokens comes next. -/
def isNext (ts : List Token) : Read Bool := do
  return (← peek).any ts.contains

/-- The node that stands where none is written. -/
def nothing : Node := scalar .null []

/-- The shorthands for the beginnings of tags. -/
abbrev Handles := List (List Char × List Char)

/-- The shorthands that need not be declared. -/
def standardHandles : Handles := [(['!'], ['!']), (['!', '!'], Tag.common.toList)]

/-- The anchor before a node. -/
def anchor? : Read (Option (List Char)) := do
  match ← peek with
  | some (.anchor name) => advance; return some name
  | _ => return none

/-- The tag before a node. -/
def tag? (handles : Handles) : Read (Option (List Char)) := do
  match ← peek with
  | some (.tag none suffix) => advance; return some suffix
  | some (.tag (some handle) suffix) =>
    advance
    match handles.lookup handle with
    | some beginning => return some (beginning ++ suffix)
    | none => refuse
  | _ => return none

/-- Gives a node a name that is not taken. -/
def name (anchor : Option (List Char)) (n : Node) : Read Unit :=
  match anchor with
  | some name => do
    if ((← get).names.lookup name).isSome then refuse
    modify fun r => { r with names := (name, n) :: r.names }
  | none => return

/-- Gives a node the name that an empty collection held for it. -/
def rename (anchor : Option (List Char)) (n : Node) : Read Node := do
  match anchor with
  | some name => modify fun r => { r with names := (name, n) :: r.names.filter (·.1 ≠ name) }
  | none => pure ()
  return n

/-- The tag of a collection. -/
def collectionTag (standard : Tag) (tag : Option (List Char)) : Tag :=
  match tag with
  | some t => if t = ['!'] then standard else .ofName t
  | none => standard

/-- The tag of a scalar. -/
def scalarTag (tag : Option (List Char)) (text : List Char) (isPlain : Bool) : Tag :=
  match tag with
  | some t => if t = ['!'] then .ofPlain text else .ofName t
  | none => if isPlain then .ofPlain text else .text

/-- A sequence whose items are read by `read`. -/
def list (anchor tag : Option (List Char)) (read : Read (List Node)) : Read Node := do
  let tag := collectionTag .list tag
  name anchor (sequence tag [])
  rename anchor (sequence tag (← read))

/-- A mapping whose entries are read by `read`. -/
def map (anchor tag : Option (List Char)) (read : Read (List (Node × Node))) : Read Node := do
  let tag := collectionTag .map tag
  name anchor (mapping tag [])
  rename anchor (mapping tag (← read))

mutual

/-- A node. Collections of lines are allowed in a `block`, and items without indentation after a key. -/
def node (handles : Handles) : (fuel : Nat) → (block bare : Bool) → Read Node
  | 0, _, _ => refuse
  | fuel + 1, block, bare => do
    match ← peek with
    | some (.alias name) =>
      advance
      match (← get).names.lookup name with
      | some n => return n
      | none => refuse
    | _ =>
      let early ← anchor?
      let tag ← tag? handles
      let late ← if early.isNone ∧ tag.isSome then anchor? else pure none
      let anchor := early.or late
      match ← peek with
      | some (.scalar text isPlain) =>
        advance
        let n := scalar (scalarTag tag text isPlain) text
        name anchor n
        return n
      | some .flowSequence =>
        advance
        list anchor tag (flowItems handles fuel true)
      | some .flowMapping =>
        advance
        map anchor tag (flowEntries handles fuel true)
      | some .sequence =>
        if !block then refuse
        advance
        list anchor tag (items handles fuel)
      | some .mapping =>
        if !block then refuse
        advance
        map anchor tag (entries handles fuel)
      | next =>
        if bare ∧ next = some .entry then list anchor tag (bareItems handles fuel)
        else if anchor.isSome ∨ tag.isSome then
          let n := scalar (scalarTag tag [] tag.isNone) []
          name anchor n
          return n
        else refuse

/-- The items of a sequence of lines. -/
def items (handles : Handles) : (fuel : Nat) → Read (List Node)
  | 0 => refuse
  | fuel + 1 => do
    match ← peek with
    | some .entry =>
      advance
      let item ← if ← isNext [.entry, .blockEnd] then pure nothing else node handles fuel true false
      return item :: (← items handles fuel)
    | some .blockEnd => advance; return []
    | _ => refuse

/-- Items that are not indented below their key. -/
def bareItems (handles : Handles) : (fuel : Nat) → Read (List Node)
  | 0 => refuse
  | fuel + 1 => do
    match ← peek with
    | some .entry =>
      advance
      let item ← if ← isNext [.entry, .key, .value, .blockEnd] then pure nothing else node handles fuel true false
      return item :: (← bareItems handles fuel)
    | _ => return []

/-- The entries of a mapping of lines. -/
def entries (handles : Handles) : (fuel : Nat) → Read (List (Node × Node))
  | 0 => refuse
  | fuel + 1 => do
    match ← peek with
    | some .key =>
      advance
      let ends := [.key, .value, .blockEnd]
      let key ← if ← isNext ends then pure nothing else node handles fuel true true
      let value ← if ← isNext [.value] then do
          advance
          if ← isNext ends then pure nothing else node handles fuel true true
        else pure nothing
      return (key, value) :: (← entries handles fuel)
    | some .blockEnd => advance; return []
    | _ => refuse

/-- The items of a flow sequence; one of them may be an entry of a mapping of its own. -/
def flowItems (handles : Handles) : (fuel : Nat) → (first : Bool) → Read (List Node)
  | 0, _ => refuse
  | fuel + 1, first => do
    if ← isNext [.flowSequenceEnd] then
      advance
      return []
    if !first then expect .flowEntry
    match ← peek with
    | some .flowSequenceEnd => advance; return []
    | some .key =>
      let entry ← flowEntry handles fuel .flowSequenceEnd
      return mapping .map [entry] :: (← flowItems handles fuel false)
    | _ =>
      let item ← node handles fuel false false
      return item :: (← flowItems handles fuel false)

/-- An entry behind the mark of its key, in a flow collection that ends with `closing`. -/
def flowEntry (handles : Handles) : (fuel : Nat) → (closing : Token) → Read (Node × Node)
  | 0, _ => refuse
  | fuel + 1, closing => do
    advance
    let key ← if ← isNext [.value, .flowEntry, closing] then pure nothing else node handles fuel false false
    let value ← if ← isNext [.value] then do
        advance
        if ← isNext [.flowEntry, closing] then pure nothing else node handles fuel false false
      else pure nothing
    return (key, value)

/-- The entries of a flow mapping. -/
def flowEntries (handles : Handles) : (fuel : Nat) → (first : Bool) → Read (List (Node × Node))
  | 0, _ => refuse
  | fuel + 1, first => do
    if ← isNext [.flowMappingEnd] then
      advance
      return []
    if !first then expect .flowEntry
    match ← peek with
    | some .flowMappingEnd => advance; return []
    | some .key =>
      let entry ← flowEntry handles fuel .flowMappingEnd
      return entry :: (← flowEntries handles fuel false)
    | _ =>
      let key ← node handles fuel false false
      return (key, nothing) :: (← flowEntries handles fuel false)

end

/-- The lines before a document: whether a version was given, and the shorthands declared. -/
def directives : (fuel : Nat) → (versioned : Bool) → Handles → Read Handles
  | 0, _, _ => refuse
  | fuel + 1, versioned, handles => do
    match ← peek with
    | some (.version major) =>
      advance
      if versioned ∨ Tag.digits 10 major ≠ 1 then refuse
      directives fuel true handles
    | some (.shorthand handle target) =>
      advance
      if (handles.lookup handle).isSome then refuse
      directives fuel versioned (handles ++ [(handle, target)])
    | some .remark => advance; directives fuel versioned handles
    | _ => return handles

/-- Whether a token stands before a document. -/
def isPreamble : Token → Bool
  | .version _ => true
  | .shorthand _ _ => true
  | .remark => true
  | .documentStart => true
  | _ => false

/-- The node of the only document, if there is one. -/
def document : Read (Option Node) := do
  let fuel := 4 * (← get).tokens.length + 4
  match ← peek with
  | none => return none
  | some first =>
    let n ← if isPreamble first then do
        let handles ← directives fuel false []
        expect .documentStart
        match ← peek with
        | none => pure nothing
        | some next =>
          if isPreamble next ∨ next = .documentEnd then pure nothing
          else node (handles ++ standardHandles) fuel true false
      else node standardHandles fuel true false
    if ((← get).tokens.dropWhile (· == .documentEnd)).isEmpty then return some n else refuse

end Node

/-- The node of a text: nothing inside if the text is empty, and nothing at all if it is no YAML. -/
def ofText? (cs : List Char) : Option (Option Node) := do
  let (n, _) ← Node.document.run ⟨← tokens cs, []⟩
  return n

end Yaml

end ProductLine
