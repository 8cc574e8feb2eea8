import InstallMarkup.Yaml.Token

/-!
# YAML nodes

The structure of a document: scalars, sequences and mappings, each perhaps with an anchor and a tag,
and aliases, which stand for nodes with anchors. A text holds one document. An alias comes after its
anchor, but it may stand inside the node that the anchor is given to.

What is missing where a node may be left out is an empty plain scalar.
-/

namespace InstallMarkup.Yaml

/-- The anchor and the tag before a node. Anchors are numbered. -/
structure Properties where
  anchor : Option Nat := none
  tag : Option Tag := none
  deriving DecidableEq, Repr

/-- A part of a document. -/
inductive Node where
  | scalar (properties : Properties) (style : ScalarStyle) (text : String)
  | sequence (properties : Properties) (items : List Node)
  | mapping (properties : Properties) (entries : List (Node × Node))
  | alias (anchor : Nat)
  deriving Repr, Inhabited

namespace Node

/-- What stands for a node that is left out. -/
def empty : Node := scalar {} .plain ""

/-! ## Anchors -/

/-- The node with its number, if it has one. -/
def numbered (properties : Properties) (node : Node) : List (Nat × Node) :=
  properties.anchor.toList.map (·, node)

mutual

/-- The nodes with an anchor, in the order they begin in. -/
def anchored : Node → List (Nat × Node)
  | scalar properties style text => numbered properties (scalar properties style text)
  | sequence properties items =>
    numbered properties (sequence properties items) ++ anchoredItems items
  | mapping properties entries =>
    numbered properties (mapping properties entries) ++ anchoredEntries entries
  | .alias _ => []

def anchoredItems : List Node → List (Nat × Node)
  | [] => []
  | item :: rest => anchored item ++ anchoredItems rest

def anchoredEntries : List (Node × Node) → List (Nat × Node)
  | [] => []
  | (key, value) :: rest => anchored key ++ (anchored value ++ anchoredEntries rest)

end

mutual

/-- How many scalars, aliases and ends of collections it is written with. -/
def size : Node → Nat
  | scalar _ _ _ => 1
  | sequence _ items => 2 + sizeItems items
  | mapping _ entries => 2 + sizeEntries entries
  | .alias _ => 1

def sizeItems : List Node → Nat
  | [] => 0
  | item :: rest => size item + sizeItems rest

def sizeEntries : List (Node × Node) → Nat
  | [] => 0
  | (key, value) :: rest => size key + size value + sizeEntries rest

end

/-! ## Reading from tokens -/

/-- What is left to read, and the anchors so far, each name once, with their numbers. -/
structure Pending where
  tokens : List Token
  anchors : List (String × Nat) := []

/-- A reading of the tokens in front. -/
abbrev TokenReader (α : Type) : Type := StateT Pending Option α

namespace TokenReader

def peek : TokenReader (Option Token) := do return (← get).tokens.head?

def skip : TokenReader Unit := modify fun p => { p with tokens := p.tokens.drop 1 }

/-- Steps over the token in front and gives it. -/
def next : TokenReader (Option Token) := do
  let token ← peek
  skip
  return token

/-- Steps over the given token, which must be in front. -/
def expect (token : Token) : TokenReader Unit := do
  if (← next) == some token then return ()
  else failure

/-- Steps over the given token, if it is in front, and tells whether it was. -/
def found (token : Token) : TokenReader Bool := do
  if (← peek) == some token then
    skip
    return true
  else return false

/-- Reads a node unless one of the given tokens shows that it is left out. -/
def unlessAt (tokens : List Token) (node : TokenReader Node) : TokenReader Node := do
  match ← peek with
  | some token => if tokens.contains token then return empty else node
  | none => node

end TokenReader

open TokenReader

/-- Where a node stands. -/
inductive Position where
  /-- In a flow collection. -/
  | flow
  /-- Where a block may begin. -/
  | block
  /-- At a key or value of a block mapping, where a block sequence need not be indented. -/
  | blockPart
  deriving DecidableEq, Repr

/-! ## Anchors and tags -/

/-- The tag of a handle and a suffix. Each handle stands for what its tags begin with. -/
def resolvedTag? (handles : List (String × Tag)) (handle : String) (suffix : Tag) : Option Tag :=
  if handle.isEmpty then some suffix else (handles.lookup handle).map (· ++ suffix)

/-- Numbers an anchor by how many names there are before it. A name that is given again counts as
one of them; its number may be given to a later anchor too, and then stands for that. -/
def numberAnchor (name : String) : TokenReader Nat := do
  let state ← get
  let number := state.anchors.length
  set { state with anchors := (name, number) :: state.anchors.filter (·.1 != name) }
  return number

/-- The anchor and the tag in front, in either order. -/
def properties (handles : List (String × Tag)) : TokenReader Properties := do
  let state ← get
  match state.tokens with
  | .anchor anchor :: .tag handle suffix :: tokens
  | .tag handle suffix :: .anchor anchor :: tokens =>
    set { state with tokens }
    let tag ← resolvedTag? handles handle suffix
    return { anchor := some (← numberAnchor anchor), tag := some tag }
  | .anchor anchor :: tokens =>
    set { state with tokens }
    return { anchor := some (← numberAnchor anchor) }
  | .tag handle suffix :: tokens =>
    set { state with tokens }
    return { tag := some (← resolvedTag? handles handle suffix) }
  | _ => return {}

/-! ## Collections

Each reader of a collection starts after the token that opens it and is given the reader of the
nodes in it. Its fuel exceeds the number of tokens left. -/

/-- The items of a block sequence. -/
def blockItems (item : TokenReader Node) : Nat → TokenReader (List Node)
  | 0 => failure
  | fuel + 1 => do
    match ← next with
    | some .blockEnd => return []
    | some .blockEntry =>
      let first ← unlessAt [.blockEntry, .blockEnd] item
      return first :: (← blockItems item fuel)
    | _ => failure

/-- The items of a block sequence that is not indented: it ends where no further item begins. -/
def plainItems (item : TokenReader Node) : Nat → TokenReader (List Node)
  | 0 => failure
  | fuel + 1 => do
    if ← found .blockEntry then
      let first ← unlessAt [.blockEntry, .key, .value, .blockEnd] item
      return first :: (← plainItems item fuel)
    else return []

/-- The value after a key, which may be left out with its colon. -/
def valueUnlessAt (tokens : List Token) (value : TokenReader Node) : TokenReader Node := do
  if ← found .value then unlessAt tokens value
  else return empty

/-- The entries of a block mapping. -/
def blockEntries (part : TokenReader Node) : Nat → TokenReader (List (Node × Node))
  | 0 => failure
  | fuel + 1 => do
    match ← next with
    | some .blockEnd => return []
    | some .key =>
      let key ← unlessAt [.key, .value, .blockEnd] part
      let value ← valueUnlessAt [.key, .value, .blockEnd] part
      return (key, value) :: (← blockEntries part fuel)
    | _ => failure

/-- The parts of a flow collection, with commas between them and perhaps one after the last. -/
def flowParts {α : Type} (closing : Token) (part : TokenReader α) :
    Nat → Bool → TokenReader (List α)
  | 0, _ => failure
  | fuel + 1, isFirst => do
    if ← found closing then return []
    if !isFirst then expect .flowEntry
    if ← found closing then return []
    let first ← part
    return first :: (← flowParts closing part fuel false)

/-- An item of a flow sequence; a key makes a mapping with one entry. A key that is left out takes
the token after its mark with it. -/
def flowItem (node : TokenReader Node) : TokenReader Node := do
  if ← found .key then
    let key ← match ← peek with
      | some .value | some .flowEntry | some .flowSequenceEnd => do
        skip
        pure empty
      | _ => node
    let value ← valueUnlessAt [.flowEntry, .flowSequenceEnd] node
    return mapping {} [(key, value)]
  else node

/-- An entry of a flow mapping. What has no colon after it is a key without a value. -/
def flowEntry (node : TokenReader Node) : TokenReader (Node × Node) := do
  if ← found .key then
    let key ← unlessAt [.value, .flowEntry, .flowMappingEnd] node
    let value ← valueUnlessAt [.flowEntry, .flowMappingEnd] node
    return (key, value)
  else return (← node, empty)

/-! ## Nodes -/

/-- A node. The fuel exceeds the number of tokens left. -/
def read (handles : List (String × Tag)) : Nat → Position → TokenReader Node
  | 0, _ => failure
  | fuel + 1, position => do
    if let some (.alias name) ← peek then
      skip
      return .alias (← (← get).anchors.lookup name)
    let given ← properties handles
    match position, ← peek with
    | _, some (.scalar text style) =>
      skip
      return scalar given style text
    | .blockPart, some .blockEntry =>
      return sequence given (← plainItems (read handles fuel .block) (fuel + 1))
    | _, some .flowSequenceStart =>
      skip
      let item := flowItem (read handles fuel .flow)
      return sequence given (← flowParts .flowSequenceEnd item (fuel + 1) true)
    | _, some .flowMappingStart =>
      skip
      let entry := flowEntry (read handles fuel .flow)
      return mapping given (← flowParts .flowMappingEnd entry (fuel + 1) true)
    | .block, some .blockSequenceStart | .blockPart, some .blockSequenceStart =>
      skip
      return sequence given (← blockItems (read handles fuel .block) (fuel + 1))
    | .block, some .blockMappingStart | .blockPart, some .blockMappingStart =>
      skip
      return mapping given (← blockEntries (read handles fuel .blockPart) (fuel + 1))
    | _, _ =>
      if given.anchor.isSome || given.tag.isSome then return scalar given .plain ""
      else failure

/-! ## Documents -/

/-- The handles that need no directive. -/
def standardHandles : List (String × Tag) :=
  [("!", .text "!"), ("!!", .text "tag:yaml.org,2002:")]

/-- Reads the directives before a document and gives the handles that they declare. A version must
be one that this reading is for, and neither it nor a handle may be declared twice. -/
def directives? (versioned : Bool) (handles : List (String × Tag)) :
    List Token → Option (List (String × Tag) × List Token)
  | .versionDirective major minor :: rest =>
    if versioned || major != 1 || (minor != 1 && minor != 2) then none
    else directives? true handles rest
  | .tagDirective handle lead :: rest =>
    if (handles.lookup handle).isSome then none
    else directives? versioned (handles ++ [(handle, lead)]) rest
  | rest => some (handles, rest)

/-- Whether a token ends a document or begins the next one. -/
def isDocumentMark : Token → Bool
  | .versionDirective _ _ | .tagDirective _ _ | .documentStart | .documentEnd => true
  | _ => false

/-- The node of a document's tokens. Only the marks that end it may follow. -/
def ofContent? (handles : List (String × Tag)) (tokens : List Token) : Option Node := do
  let (node, rest) ← (read (handles ++ standardHandles) (tokens.length + 1) .block).run { tokens }
  if rest.tokens.all (· == .documentEnd) then some node else none

/-- The node of a text's tokens. A document need not be opened, and may be empty where it is opened
or where there is nothing at all. -/
def ofTokens? (tokens : List Token) : Option Node :=
  match tokens with
  | [] => some empty
  | .versionDirective _ _ :: _ | .tagDirective _ _ :: _ | .documentStart :: _ =>
    match directives? false [] tokens with
    | some (handles, .documentStart :: rest) =>
      if rest.head?.all isDocumentMark then
        if rest.all (· == .documentEnd) then some empty else none
      else ofContent? handles rest
    | _ => none
  | _ => ofContent? [] tokens

/-- The node of a text. -/
def ofText? (s : String) : Option Node := (tokens? s).bind ofTokens?

end Node

end InstallMarkup.Yaml
