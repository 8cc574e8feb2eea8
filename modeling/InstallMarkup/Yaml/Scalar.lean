import InstallMarkup.Text.Digits
import InstallMarkup.Yaml.Cursor

/-!
# YAML scalars

The five ways to write a scalar: plain, between single or double quotation marks, and as a literal
or folded block. In the first three a single line end between words counts as a space and further
ones as themselves. Each scanner starts at the scalar and gives its text and the place after it. Its
fuel exceeds the number of characters left.
-/

namespace InstallMarkup.Yaml

/-! ## Gaps

A gap is what stands between two words of a scalar: blanks, or line ends with the blanks around
them dropped. -/

/-- Blanks and line ends between two words. -/
structure Gap where
  /-- The blanks, last one first, as long as no line has ended. -/
  blanks : List Char := []
  /-- Whether a line has ended in the gap. -/
  broken : Bool := false
  /-- The first line end, if it was not an escaped one. -/
  first : List Char := []
  /-- The line ends after the first, last one first. -/
  later : List Char := []

namespace Gap

/-- What the gap adds to the text. -/
def text (g : Gap) : List Char :=
  if g.broken then
    if g.first = ['\n'] then
      if g.later.isEmpty then [' '] else g.later.reverse
    else g.first ++ g.later.reverse
  else g.blanks.reverse

/-- The gap with another line end. -/
def addBreak (g : Gap) (b : Char) : Gap :=
  if g.broken then { g with later := b :: g.later }
  else { blanks := [], broken := true, first := [b], later := [] }

/-- The gap with another blank. -/
def addBlank (g : Gap) (b : Char) : Gap :=
  if g.broken then g else { g with blanks := b :: g.blanks }

/-- Steps over the blanks and line ends that a text begins with; the place of the text is given.
After a line end a tabulator to the left of column `least` is refused. -/
def scan? (least : Int) (g : Gap) (line column extra : Nat) : List Char → Option (Gap × Cursor)
  | '\r' :: '\n' :: rest => scan? least (g.addBreak '\n') (line + 1) 0 0 rest
  | c :: rest =>
    if isBlank c then
      if g.broken && c == '\t' && (column : Int) < least then none
      else scan? least (g.addBlank c) line (column + 1) extra rest
    else if c == '\u2028' || c == '\u2029' then scan? least (g.addBreak c) (line + 1) 0 0 rest
    else if isBreak c then scan? least (g.addBreak '\n') (line + 1) 0 0 rest
    else some (g, { rest := c :: rest, line, column, extra })
  | [] => some (g, { rest := [], line, column, extra })

/-- The gap at a place, and the place after it; `broken` tells whether a line has ended already. -/
def at? (least : Int) (broken : Bool) (c : Cursor) : Option (Gap × Cursor) :=
  scan? least { broken } c.line c.column c.extra c.rest

end Gap

/-! ## Plain scalars -/

/-- The word that a text begins with. A colon ends it before a space, and in a flow collection so do
the marks of collections; there a colon right before such a mark is refused. -/
def plainWord? (inFlow : Bool) : List Char → Option (List Char)
  | [] => some []
  | c :: rest =>
    if isBlank c || isBreak c then some []
    else if inFlow && c == ':' && rest.head?.any (fun d => isFlowMark d || d == '?') then none
    else if (c == ':' && atSpace rest) || (inFlow && isFlowMark c) then some []
    else (plainWord? inFlow rest).map (c :: ·)

/-- A scalar as it was scanned. -/
structure Scanned where
  text : String
  cursor : Cursor
  /-- Whether the scan ended on a later line than the last word. -/
  endedLine : Bool := false

/-- A plain scalar that ends before a gap; `sofar` holds its characters, last one first. -/
def Scanned.plain (sofar : List Char) (gap : Gap) (cursor : Cursor) : Scanned :=
  { text := String.ofList sofar.reverse, cursor, endedLine := gap.broken }

/-- The rest of a plain scalar; `sofar` holds its characters before, last one first, and `gap` what
follows them. -/
def plainRest? (inFlow : Bool) (least : Int) :
    Nat → List Char → Gap → Cursor → Option Scanned
  | 0, _, _, _ => none
  | fuel + 1, sofar, gap, c =>
    if (c.column == 0 && atDocumentMark c.rest) || c.rest.head? == some '#' then
      some (.plain sofar gap c)
    else
      match plainWord? inFlow c.rest with
      | none => none
      | some [] => some (.plain sofar gap c)
      | some word =>
        let sofar := word.reverse ++ (gap.text.reverse ++ sofar)
        match Gap.at? least false (c.skip word.length) with
        | none => none
        | some (gap, next) =>
          if !inFlow && (next.column : Int) < least then some (.plain sofar gap next)
          else plainRest? inFlow least fuel sofar gap next

/-- A plain scalar in a block of the given indentation. -/
def scanPlain? (inFlow : Bool) (indent : Int) (fuel : Nat) (c : Cursor) : Option Scanned :=
  plainRest? inFlow (indent + 1) fuel [] {} c

/-! ## Quoted scalars -/

/-- A part of a quoted scalar without spaces. -/
structure QuotedWord where
  text : List Char
  /-- How many characters it takes. -/
  width : Nat
  rest : List Char
  /-- Whether it ends in an escaped line end, which is the first of `rest`. -/
  escapedBreak : Bool := false

namespace QuotedWord

def cons (c : Char) (width : Nat) (w : QuotedWord) : QuotedWord :=
  { w with text := c :: w.text, width := w.width + width }

end QuotedWord

/-- The word that a text between single quotation marks begins with. -/
def singleQuotedWord : List Char → QuotedWord
  | '\'' :: '\'' :: rest => (singleQuotedWord rest).cons '\'' 2
  | c :: rest =>
    if c == '\'' || isBlank c || isBreak c then ⟨[], 0, c :: rest, false⟩
    else (singleQuotedWord rest).cons c 1
  | [] => ⟨[], 0, [], false⟩

/-- The character of a backslash and a letter. -/
def letterEscape? : Char → Option Char
  | '0' => some '\x00'
  | 'a' => some '\x07'
  | 'b' => some '\x08'
  | 't' => some '\t'
  | '\t' => some '\t'
  | 'n' => some '\n'
  | 'v' => some '\x0b'
  | 'f' => some '\x0c'
  | 'r' => some '\r'
  | 'e' => some '\x1b'
  | ' ' => some ' '
  | '"' => some '"'
  | '/' => some '/'
  | '\\' => some '\\'
  | 'N' => some '\u0085'
  | '_' => some '\u00a0'
  | 'L' => some '\u2028'
  | 'P' => some '\u2029'
  | _ => none

/-- The character whose code point some hexadecimal digits write. -/
def codeEscape? (digits : List Char) : Option Char :=
  match Digits.read? 16 digits with
  | some n => if (0xd800 ≤ n ∧ n ≤ 0xdfff) ∨ 0x10ffff < n then none else some (Char.ofNat n)
  | none => none

/-- The word that a text between double quotation marks begins with. -/
def doubleQuotedWord? : List Char → Option QuotedWord
  | [] => some ⟨[], 0, [], false⟩
  | '\\' :: 'x' :: a :: b :: rest => do
    some ((← doubleQuotedWord? rest).cons (← codeEscape? [a, b]) 4)
  | '\\' :: 'u' :: a :: b :: c :: d :: rest => do
    some ((← doubleQuotedWord? rest).cons (← codeEscape? [a, b, c, d]) 6)
  | '\\' :: 'U' :: a :: b :: c :: d :: e :: f :: g :: h :: rest => do
    some ((← doubleQuotedWord? rest).cons (← codeEscape? [a, b, c, d, e, f, g, h]) 10)
  | '\\' :: c :: rest =>
    if isBreak c then some ⟨[], 1, c :: rest, true⟩
    else do some ((← doubleQuotedWord? rest).cons (← letterEscape? c) 2)
  | c :: rest =>
    if c == '"' || isBlank c || isBreak c then some ⟨[], 0, c :: rest, false⟩
    else do some ((← doubleQuotedWord? rest).cons c 1)

/-- The rest of a quoted scalar up to its closing mark; `sofar` holds its characters before, last
one first. -/
def quotedRest? (word? : List Char → Option QuotedWord) (mark : Char) :
    Nat → List Char → Cursor → Option Scanned
  | 0, _, _ => none
  | fuel + 1, sofar, c =>
    if (c.column == 0 && atDocumentMark c.rest) || c.rest.isEmpty then none
    else
      match word? c.rest with
      | none => none
      | some w =>
        let sofar := w.text.reverse ++ sofar
        let c := c.moveTo w.rest w.width
        let c := if w.escapedBreak then c.skipBreak else c
        if c.rest.head? == some mark then some ⟨String.ofList sofar.reverse, c.skip 1, false⟩
        else
          match Gap.at? 0 w.escapedBreak c with
          | none => none
          | some (gap, c) => quotedRest? word? mark fuel (gap.text.reverse ++ sofar) c

/-- A scalar between single quotation marks. -/
def scanSingleQuoted? (fuel : Nat) (c : Cursor) : Option Scanned :=
  quotedRest? (fun cs => some (singleQuotedWord cs)) '\'' fuel [] (c.skip 1)

/-- A scalar between double quotation marks. -/
def scanDoubleQuoted? (fuel : Nat) (c : Cursor) : Option Scanned :=
  quotedRest? doubleQuotedWord? '"' fuel [] (c.skip 1)

/-! ## Block scalars -/

/-- What becomes of the line ends at the end of a block scalar. -/
inductive Chomping where
  /-- All are dropped. -/
  | strip
  /-- One is kept. -/
  | clip
  /-- All are kept. -/
  | keep
  deriving DecidableEq, Repr

def Chomping.ofChar? : Char → Option Chomping
  | '+' => some .keep
  | '-' => some .strip
  | _ => none

/-- The indentation that a digit states; zero is refused. -/
def indentDigit? (c : Char) : Option Nat :=
  if c.isDigit && c != '0' then some (c.toNat - '0'.toNat) else none

/-- The chomping and the indentation that the head of a block scalar states, in either order, and
what follows them. An indentation of zero stands for none stated. -/
def blockHead? (c : Cursor) : Option (Chomping × Nat × Cursor) :=
  match c.rest with
  | [] => some (.clip, 0, c)
  | a :: rest =>
    match Chomping.ofChar? a with
    | some chomping =>
      match rest with
      | b :: _ =>
        if b.isDigit then (indentDigit? b).map fun n => (chomping, n, c.skip 2)
        else some (chomping, 0, c.skip 1)
      | [] => some (chomping, 0, c.skip 1)
    | none =>
      if a.isDigit then
        (indentDigit? a).map fun n =>
          match rest.head?.bind Chomping.ofChar? with
          | some chomping => (chomping, n, c.skip 2)
          | none => (.clip, n, c.skip 1)
      else some (.clip, 0, c)

/-- Steps over empty lines and over the indentation of the next line, counting spaces up to column
`indent`, or all of them where it is zero. A tabulator within the indentation is refused. Gives the
line ends, last one first, the largest column of a line, and the place. -/
def blockBreaks? (indent line column largest : Nat) (breaks : List Char) :
    List Char → Option (List Char × Nat × Cursor)
  | '\r' :: '\n' :: rest =>
    blockBreaks? indent (line + 1) 0 (max largest column) ('\n' :: breaks) rest
  | c :: rest =>
    let within := indent == 0 || column < indent
    if within && c == ' ' then blockBreaks? indent line (column + 1) largest breaks rest
    else if within && c == '\t' then none
    else if c == '\u2028' || c == '\u2029' then
      blockBreaks? indent (line + 1) 0 (max largest column) (c :: breaks) rest
    else if isBreak c then
      blockBreaks? indent (line + 1) 0 (max largest column) ('\n' :: breaks) rest
    else some (breaks, max largest column, { rest := c :: rest, line, column })
  | [] => some (breaks, max largest column, { rest := [], line, column })

/-- A block scalar while it is read. -/
structure Block where
  /-- The characters of the lines before, last one first. -/
  sofar : List Char := []
  /-- The end of the last line. -/
  lineEnd : List Char := []
  /-- The line ends of the empty lines after it, last one first. -/
  breaks : List Char := []
  /-- Whether the last line began with a blank. -/
  startedBlank : Bool := false

/-- The characters after which the next line follows. A folded block turns the end of a line into a
space, or into nothing where empty lines follow, unless one of the two lines begins with a blank. -/
def Block.joined (b : Block) (folded startsBlank : Bool) : List Char :=
  if folded && b.lineEnd == ['\n'] && !b.startedBlank && !startsBlank then
    if b.breaks.isEmpty then ' ' :: b.sofar else b.breaks ++ b.sofar
  else b.breaks ++ (b.lineEnd ++ b.sofar)

/-- The lines of a block scalar at column `indent`, from the first of them on. -/
def blockLines? (folded : Bool) (indent : Nat) :
    Nat → Block → Cursor → Option (Block × Cursor)
  | 0, _, _ => none
  | fuel + 1, b, c =>
    if c.column == indent && !c.rest.isEmpty then
      let startsBlank := c.rest.head?.any isBlank
      let line := c.rest.takeWhile (!isBreak ·)
      let sofar := line.reverse ++ b.joined folded startsBlank
      let c := c.skip line.length
      let lineEnd := (takeBreak? c.rest).toList.map (·.1)
      let c := c.skipBreak
      match blockBreaks? indent c.line c.column 0 [] c.rest with
      | none => none
      | some (breaks, _, c) =>
        blockLines? folded indent fuel { sofar, lineEnd, breaks, startedBlank := startsBlank } c
    else some (b, c)

/-- A literal or folded block in a block of the given indentation. -/
def scanBlock? (folded : Bool) (outer : Int) (fuel : Nat) (c : Cursor) : Option Scanned := do
  let (chomping, stated, c) ← blockHead? (c.skip 1)
  let c := (c.skipWhile isBlank).skipComment
  if !atLineEnd c.rest then none
  let c := c.skipBreak
  let indent := if stated = 0 then 0 else (max outer 0).toNat + stated
  let (breaks, largest, c) ← blockBreaks? indent c.line c.column 0 [] c.rest
  let indent :=
    if indent = 0 then max (max largest (outer + 1).toNat) 1 else indent
  let (b, c) ← blockLines? folded indent fuel { breaks } c
  let ending := match chomping with
    | .strip => b.sofar
    | .clip => b.lineEnd ++ b.sofar
    | .keep => b.breaks ++ (b.lineEnd ++ b.sofar)
  some ⟨String.ofList ending.reverse, c, false⟩

end InstallMarkup.Yaml
