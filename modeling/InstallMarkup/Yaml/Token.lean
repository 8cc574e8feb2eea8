import InstallMarkup.Yaml.Scalar
import InstallMarkup.Yaml.Tag

/-!
# YAML tokens

A text is cut into tokens before its structure is read. Blocks have no brackets; their tokens are
made from the columns of what stands in them. The first thing in a block mapping is a key, but that
shows only at the colon after it: a place where a key may begin is therefore remembered, and if a
colon follows on the same line, the tokens that open the key are put in at that place.
-/

namespace InstallMarkup.Yaml

/-- How a scalar is written, as far as its meaning depends on it. -/
inductive ScalarStyle where
  | plain
  | literal
  | quotedOrFolded
  deriving DecidableEq, Repr

inductive Token where
  | versionDirective (major minor : Nat)
  | tagDirective (handle : String) (lead : Tag)
  | documentStart
  | documentEnd
  | blockSequenceStart
  | blockMappingStart
  | blockEnd
  | flowSequenceStart
  | flowSequenceEnd
  | flowMappingStart
  | flowMappingEnd
  | blockEntry
  | flowEntry
  | key
  | value
  | alias (name : String)
  | anchor (name : String)
  | tag (handle : String) (suffix : Tag)
  | scalar (text : String) (style : ScalarStyle)
  deriving DecidableEq, Repr

/-! ## Names, tags and directives -/

/-- The name of an anchor or alias. It must end before a space or one of a few marks. -/
def anchorName? (cs : List Char) : Option (List Char) :=
  let name := cs.takeWhile isNameChar
  let rest := cs.dropWhile isNameChar
  let ends := atSpace rest || rest.head?.any ("?:,]\x7d%@\x60".toList.contains ·)
  if name.isEmpty || !ends then none else some name

/-- A tag with its handle and suffix, the number of its characters and the rest. A tag in angle
brackets has no handle. The mark alone is a suffix without a handle, and so is a mark whose suffix
ends at once. The fuel exceeds the number of characters left. -/
def tag? (inFlow : Bool) (fuel : Nat) (cs : List Char) : Option (Token × Nat × List Char) := do
  let (token, width, rest) ← match cs with
    | '!' :: '<' :: rest => do
      let w ← Tag.wholeWord? true fuel rest
      match w.rest with
      | '>' :: rest => some (Token.tag "" (.ofCharacters w.characters), w.width + 3, rest)
      | _ => none
    | _ => do
      let (handle, rest) ← Tag.handle? cs
      if 2 ≤ handle.length && handle.getLast? == some '!' then
        let w ← Tag.wholeWord? false fuel rest
        let suffix := Tag.ofCharacters w.characters
        some (Token.tag (String.ofList handle) suffix, handle.length + w.width, w.rest)
      else
        let w ← Tag.word? false fuel rest
        let token := match Tag.ofCharacters ((handle.drop 1).map some ++ w.characters) with
          | .text "" => Token.tag "" (.text "!")
          | suffix => Token.tag "!" suffix
        some (token, handle.length + w.width, w.rest)
  if atSpace rest || (inFlow && rest.head? == some ',') then some (token, width, rest) else none

/-- A number of a version: one to nine digits. -/
def versionNumber? (cs : List Char) : Option (Nat × List Char) :=
  let digits := cs.takeWhile Char.isDigit
  if 9 < digits.length then none
  else (Digits.read? 10 digits).map fun n => (n, cs.dropWhile Char.isDigit)

/-- A directive after its percent sign, and the rest of its line. -/
def directive? (cs : List Char) : Option (Token × List Char) := do
  let name := cs.takeWhile isNameChar
  let rest := cs.dropWhile isNameChar
  if !atSpace rest then none
  let rest := rest.dropWhile isBlank
  match String.ofList name with
  | "YAML" =>
    match ← versionNumber? rest with
    | (major, '.' :: rest) =>
      let (minor, rest) ← versionNumber? rest
      some (.versionDirective major minor, rest)
    | _ => none
  | "TAG" =>
    let (handle, rest) ← Tag.handle? rest
    if handle.length ≠ 1 && (handle.getLast? != some '!') then none
    if !(rest.head?.any isBlank) then none
    let rest := rest.dropWhile isBlank
    let w ← Tag.wholeWord? true (rest.length + 1) rest
    if !atSpace w.rest then none
    some (.tagDirective (String.ofList handle) (.ofCharacters w.characters), w.rest)
  | _ => none

/-! ## The state of the cutting -/

/-- A place where a key may have begun. -/
structure PossibleKey where
  /-- Whether nothing but a key may stand there. -/
  required : Bool
  /-- How many tokens stand before it. -/
  position : Nat
  line : Nat
  column : Nat
  byteColumn : Nat
  deriving DecidableEq, Repr

/-- Tokens so far, and what the next ones depend on. -/
structure Cutting where
  cursor : Cursor
  /-- The tokens so far, last one first. -/
  tokens : List Token := []
  /-- How many these are. -/
  count : Nat := 0
  /-- The column of the innermost block; no block is `-1`. -/
  indent : Int := -1
  /-- The columns of the blocks around it. -/
  outer : List Int := []
  /-- Whether a key may begin here. -/
  keyAllowed : Bool := true
  /-- The place where a key may have begun in the innermost flow collection, or outside them all. -/
  possible : Option PossibleKey := none
  /-- The same for each flow collection around the innermost, and for what is outside. -/
  around : List (Option PossibleKey) := []

namespace Cutting

/-- Whether the cursor is in a flow collection. -/
def inFlow (s : Cutting) : Bool := !s.around.isEmpty

def push (s : Cutting) (t : Token) : Cutting :=
  { s with tokens := t :: s.tokens, count := s.count + 1 }

/-- Puts a token in so that `position` tokens stand before it. -/
def insertAt (s : Cutting) (position : Nat) (t : Token) : Cutting :=
  let later := s.count - position
  { s with tokens := s.tokens.take later ++ t :: s.tokens.drop later, count := s.count + 1 }

/-- Steps over `n` characters. -/
def advance (s : Cutting) (n : Nat) : Cutting := { s with cursor := s.cursor.skip n }

/-- A key ends on the line it begins on, within this many bytes. -/
def maxKeyLength : Nat := 1024

/-- Whether a key that began at `k` can no longer be followed by a colon. -/
def isStale (s : Cutting) (k : PossibleKey) : Bool :=
  k.line < s.cursor.line || k.byteColumn + maxKeyLength < s.cursor.byteColumn

/-- Forgets a place that is stale, unless a key is required there. -/
def freshened? (s : Cutting) : Option PossibleKey → Option (Option PossibleKey)
  | some k => if s.isStale k then (if k.required then none else some none) else some (some k)
  | none => some none

/-- Forgets all places that are stale. -/
def freshen? (s : Cutting) : Option Cutting := do
  let possible ← s.freshened? s.possible
  let around ← s.around.mapM s.freshened?
  some { s with possible, around }

/-- Gives up the innermost place, unless a key is required there. -/
def dropKey? (s : Cutting) : Option Cutting :=
  if s.possible.any (·.required) then none else some { s with possible := none }

/-- Remembers the cursor as a place where a key may begin, if one may. -/
def saveKey? (s : Cutting) : Option Cutting :=
  if s.keyAllowed then do
    let s ← s.dropKey?
    let k : PossibleKey :=
      { required := !s.inFlow && s.indent == (s.cursor.column : Int)
        position := s.count
        line := s.cursor.line
        column := s.cursor.column
        byteColumn := s.cursor.byteColumn }
    some { s with possible := some k }
  else some s

/-- Opens a block at a column, if that is to the right of the innermost; the token that opens it is
put in so that `position` tokens stand before it. -/
def openBlock (s : Cutting) (column position : Nat) (t : Token) : Cutting :=
  if !s.inFlow && s.indent < (column : Int) then
    { s.insertAt position t with indent := column, outer := s.indent :: s.outer }
  else s

/-- Closes the blocks to the right of a column; the columns of the blocks around the innermost are
given as the list that the recursion follows. -/
def closeBlocks (s : Cutting) (column : Int) : List Int → Cutting
  | [] => s
  | outer :: rest =>
    if column < s.indent then
      { s.push .blockEnd with indent := outer, outer := rest }.closeBlocks column rest
    else s

/-- Closes the blocks to the right of a column, outside flow collections. -/
def closeTo (s : Cutting) (column : Int) : Cutting :=
  if s.inFlow then s else s.closeBlocks column s.outer

/-! ## Between tokens -/

/-- Steps over blanks, comments and line ends. A tabulator counts as a blank except where a key may
begin in a block. A line may begin with a byte order mark. -/
def skipSpace (s : Cutting) : Nat → Cutting
  | 0 => s
  | fuel + 1 =>
    let tabs := s.inFlow || !s.keyAllowed
    let cursor := s.cursor.skipByteOrderMark
    let cursor := (cursor.skipWhile fun c => c == ' ' || (tabs && c == '\t')).skipComment
    match takeBreak? cursor.rest with
    | some _ =>
      { s with cursor := cursor.skipBreak, keyAllowed := s.keyAllowed || !s.inFlow }.skipSpace fuel
    | none => { s with cursor }

/-! ## The tokens -/

/-- A directive line. -/
def cutDirective? (s : Cutting) : Option Cutting := do
  let s ← (s.closeTo (-1)).dropKey?
  let line := s.cursor.rest.drop 1
  let (token, rest) ← directive? line
  let cursor := s.cursor.moveTo rest (line.length + 1 - rest.length)
  let cursor := (cursor.skipWhile isBlank).skipComment
  if !atLineEnd cursor.rest then none
  some { s.push token with cursor := cursor.skipBreak, keyAllowed := false }

/-- The mark that opens or closes a document. -/
def cutDocumentMark? (s : Cutting) (t : Token) : Option Cutting := do
  let s ← (s.closeTo (-1)).dropKey?
  some { (s.push t).advance 3 with keyAllowed := false }

/-- The opening of a flow collection. -/
def cutFlowStart? (s : Cutting) (t : Token) : Option Cutting := do
  let s ← s.saveKey?
  some { (s.push t).advance 1 with
    keyAllowed := true, possible := none, around := s.possible :: s.around }

/-- The closing of a flow collection. -/
def cutFlowEnd? (s : Cutting) (t : Token) : Option Cutting := do
  let s ← s.dropKey?
  let s := { (s.push t).advance 1 with keyAllowed := false }
  match s.around with
  | possible :: around => some { s with possible, around }
  | [] => some s

/-- The comma of a flow collection. -/
def cutFlowEntry? (s : Cutting) : Option Cutting := do
  let s ← s.dropKey?
  some { (s.push .flowEntry).advance 1 with keyAllowed := true }

/-- The hyphen of a block sequence. -/
def cutBlockEntry? (s : Cutting) : Option Cutting := do
  if !s.inFlow && !s.keyAllowed then none
  let s := s.openBlock s.cursor.column s.count .blockSequenceStart
  let s ← s.dropKey?
  some { (s.push .blockEntry).advance 1 with keyAllowed := true }

/-- The question mark before a key. -/
def cutKey? (s : Cutting) : Option Cutting := do
  if !s.inFlow && !s.keyAllowed then none
  let s := s.openBlock s.cursor.column s.count .blockMappingStart
  let s ← s.dropKey?
  some { (s.push .key).advance 1 with keyAllowed := !s.inFlow }

/-- The colon before a value. What was remembered as a possible key is one now. -/
def cutValue? (s : Cutting) : Option Cutting :=
  match s.possible with
  | some k =>
    let s := (s.insertAt k.position .key).openBlock k.column k.position .blockMappingStart
    some { (s.push .value).advance 1 with possible := none, keyAllowed := false }
  | none =>
    if !s.inFlow && !s.keyAllowed then none
    else
      let s := s.openBlock s.cursor.column s.count .blockMappingStart
      some { (s.push .value).advance 1 with keyAllowed := !s.inFlow }

/-- An anchor or alias. -/
def cutAnchor? (s : Cutting) (token : String → Token) : Option Cutting := do
  let s ← s.saveKey?
  let name ← anchorName? (s.cursor.rest.drop 1)
  some { (s.push (token (String.ofList name))).advance (name.length + 1) with keyAllowed := false }

/-- A tag. -/
def cutTag? (s : Cutting) (fuel : Nat) : Option Cutting := do
  let s ← s.saveKey?
  let (token, width, rest) ← tag? s.inFlow fuel s.cursor.rest
  some { s.push token with cursor := s.cursor.moveTo rest width, keyAllowed := false }

/-- A literal or folded block. -/
def cutBlockScalar? (s : Cutting) (folded : Bool) (fuel : Nat) : Option Cutting := do
  let s ← s.dropKey?
  let r ← scanBlock? folded s.indent fuel s.cursor
  let style := if folded then ScalarStyle.quotedOrFolded else ScalarStyle.literal
  some { s.push (.scalar r.text style) with cursor := r.cursor, keyAllowed := true }

/-- A scalar between quotation marks. -/
def cutQuoted? (s : Cutting) (scan? : Cursor → Option Scanned) : Option Cutting := do
  let s ← s.saveKey?
  let r ← scan? s.cursor
  some { s.push (.scalar r.text .quotedOrFolded) with cursor := r.cursor, keyAllowed := false }

/-- A plain scalar. A key may follow it if it ended with its line. -/
def cutPlain? (s : Cutting) (fuel : Nat) : Option Cutting := do
  let s ← s.saveKey?
  let r ← scanPlain? s.inFlow s.indent fuel s.cursor
  some { s.push (.scalar r.text .plain) with cursor := r.cursor, keyAllowed := r.endedLine }

/-- Whether a plain scalar can begin with `c` before `rest`. -/
def startsPlain (inFlow : Bool) (c : Char) (rest : List Char) : Bool :=
  !(isBlank c || isBreak c || "-?:,[]\x7b\x7d#&*!|>'\"%@\x60".toList.contains c) ||
    (c == '-' && !rest.head?.any isBlank) ||
    (!inFlow && (c == '?' || c == ':') && !atSpace rest)

/-- The token at the cursor, which stands at a character `c`. The fuel exceeds the number of
characters left. -/
def cutToken? (s : Cutting) (fuel : Nat) (c : Char) (rest : List Char) : Option Cutting :=
  let inFlow := s.inFlow
  if s.cursor.column == 0 && c == '%' then s.cutDirective?
  else if s.cursor.column == 0 && atDocumentMark s.cursor.rest then
    s.cutDocumentMark? (if c == '-' then .documentStart else .documentEnd)
  else if c == '[' then s.cutFlowStart? .flowSequenceStart
  else if c == '{' then s.cutFlowStart? .flowMappingStart
  else if c == ']' then s.cutFlowEnd? .flowSequenceEnd
  else if c == '}' then s.cutFlowEnd? .flowMappingEnd
  else if c == ',' then s.cutFlowEntry?
  else if c == '-' && atSpace rest then s.cutBlockEntry?
  else if c == '?' && (inFlow || atSpace rest) then s.cutKey?
  else if c == ':' && (inFlow || atSpace rest) then s.cutValue?
  else if c == '*' then s.cutAnchor? .alias
  else if c == '&' then s.cutAnchor? .anchor
  else if c == '!' then s.cutTag? fuel
  else if c == '|' && !inFlow then s.cutBlockScalar? false fuel
  else if c == '>' && !inFlow then s.cutBlockScalar? true fuel
  else if c == '\'' then s.cutQuoted? (scanSingleQuoted? fuel)
  else if c == '"' then s.cutQuoted? (scanDoubleQuoted? fuel)
  else if startsPlain inFlow c rest then s.cutPlain? fuel
  else none

/-- Cuts the rest of a text. The fuel exceeds the number of characters left. -/
def run? (s : Cutting) : Nat → Option (List Token)
  | 0 => none
  | fuel + 1 => do
    let s := s.skipSpace (fuel + 1)
    let s ← s.freshen?
    let s := s.closeTo s.cursor.column
    match s.cursor.rest with
    | [] => do
      let s ← (s.closeTo (-1)).dropKey?
      some s.tokens.reverse
    | c :: rest => (← s.cutToken? (fuel + 1) c rest).run? fuel

end Cutting

/-- The tokens of a text. -/
def tokens? (s : String) : Option (List Token) :=
  if s.toList.all isAllowed then
    let cursor := Cursor.start s
    Cutting.run? { cursor } (cursor.rest.length + 1)
  else none

end InstallMarkup.Yaml
