/-!
# Places in a YAML text

What is left of a text, and the line and column that it begins at. Columns decide how a block is
nested, so every step over a character keeps count. Five characters end a line, and a carriage
return with a line feed after it ends one line, not two. The length of a key is measured in bytes,
which are counted beside the columns.
-/

namespace InstallMarkup.Yaml

/-! ## Character classes -/

/-- Whether a text may hold the character at all. -/
def isAllowed (c : Char) : Bool :=
  let n := c.toNat
  n == 0x09 || n == 0x0a || n == 0x0d || (0x20 ≤ n && n ≤ 0x7e) || n == 0x85 ||
    (0xa0 ≤ n && n ≤ 0xd7ff) || (0xe000 ≤ n && n ≤ 0xfffd) || 0x10000 ≤ n

/-- A space or a tabulator. -/
def isBlank (c : Char) : Bool := c == ' ' || c == '\t'

/-- A character that ends a line. -/
def isBreak (c : Char) : Bool :=
  c == '\r' || c == '\n' || c == '\u0085' || c == '\u2028' || c == '\u2029'

/-- A character of names: an ASCII letter or digit, an underscore or a hyphen. -/
def isNameChar (c : Char) : Bool := c.isAlphanum || c == '_' || c == '-'

/-- A character that closes or separates the parts of a flow collection. -/
def isFlowMark (c : Char) : Bool :=
  c == ',' || c == '[' || c == ']' || c == '{' || c == '}'

/-- Whether a text begins with a blank or a line end, or is at its own end. -/
def atSpace : List Char → Bool
  | [] => true
  | c :: _ => isBlank c || isBreak c

/-- Whether a text begins with a line end or is at its own end. -/
def atLineEnd : List Char → Bool
  | [] => true
  | c :: _ => isBreak c

/-- Whether a text begins with the mark that opens or closes a document. -/
def atDocumentMark : List Char → Bool
  | '-' :: '-' :: '-' :: rest => atSpace rest
  | '.' :: '.' :: '.' :: rest => atSpace rest
  | _ => false

/-- The line end that a text begins with as it counts in a scalar, and the rest. The ends of older
machines all count as a line feed; the separators of lines and paragraphs stay what they are. -/
def takeBreak? : List Char → Option (Char × List Char)
  | '\r' :: '\n' :: rest => some ('\n', rest)
  | c :: rest =>
    if c == '\u2028' || c == '\u2029' then some (c, rest)
    else if isBreak c then some ('\n', rest)
    else none
  | [] => none

/-! ## Cursors -/

/-- How many bytes more than characters some characters take. -/
def extraBytes (cs : List Char) : Nat := cs.foldl (fun n c => n + (c.utf8Size - 1)) 0

/-- What is left of a text, and where that begins. -/
structure Cursor where
  rest : List Char
  line : Nat := 0
  /-- How many characters of the line stand before it. -/
  column : Nat := 0
  /-- How many bytes more than characters these are. -/
  extra : Nat := 0
  deriving Repr

namespace Cursor

/-- The start of a text. -/
def start (s : String) : Cursor := { rest := s.toList }

/-- How many bytes of the line stand before it. -/
def byteColumn (c : Cursor) : Nat := c.column + c.extra

/-- Steps to `rest`, which is `n` characters further on the same line. -/
def moveTo (c : Cursor) (rest : List Char) (n : Nat) : Cursor :=
  { c with rest, column := c.column + n, extra := c.extra + extraBytes (c.rest.take n) }

/-- Steps over `n` characters of the same line. -/
def skip (c : Cursor) (n : Nat) : Cursor := c.moveTo (c.rest.drop n) n

/-- Steps over the characters of a class in front. -/
def skipWhile (c : Cursor) (p : Char → Bool) : Cursor := c.skip (c.rest.takeWhile p).length

/-- Steps over a line end, if there is one. -/
def skipBreak (c : Cursor) : Cursor :=
  match takeBreak? c.rest with
  | some (_, rest) => { rest, line := c.line + 1 }
  | none => c

/-- Steps over a comment, if one begins here. -/
def skipComment (c : Cursor) : Cursor :=
  match c.rest with
  | '#' :: _ => c.skipWhile (!isBreak ·)
  | _ => c

/-- Steps over a byte order mark, if the line begins with one. The mark counts as a column. -/
def skipByteOrderMark (c : Cursor) : Cursor :=
  match c.rest with
  | '\ufeff' :: _ => if c.column = 0 then c.skip 1 else c
  | _ => c

end Cursor

end InstallMarkup.Yaml
