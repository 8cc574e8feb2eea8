import InstallMarkup.Json.Value

/-!
# Writing JSON

Two layouts: everything on one line without spaces, and one member or item to a line, indented by
two spaces. Empty arrays and objects are closed at once in both. In a text only the quotation mark,
the backslash and the control characters below the space are escaped. What has no value is written
as null.
-/

namespace InstallMarkup.Json

/-! ## Texts -/

/-- The hexadecimal digit of a value below sixteen, letters small. -/
def hexDigit (n : Nat) : Char :=
  "0123456789abcdef".toList.getD n '0'

/-- A character as it stands between quotation marks. -/
def escaped (c : Char) : List Char :=
  match c with
  | '"' => ['\\', '"']
  | '\\' => ['\\', '\\']
  | '\x08' => ['\\', 'b']
  | '\x0c' => ['\\', 'f']
  | '\n' => ['\\', 'n']
  | '\r' => ['\\', 'r']
  | '\t' => ['\\', 't']
  | c =>
    if c.toNat < 0x20 then
      ['\\', 'u', '0', '0', hexDigit (c.toNat / 16), hexDigit (c.toNat % 16)]
    else [c]

/-- A text between quotation marks. -/
def quoted (s : String) : String :=
  String.ofList ('"' :: s.toList.flatMap escaped ++ ['"'])

/-! ## One line -/

mutual

/-- The value on one line. -/
def compact : Json → String
  | null => "null"
  | bool true => "true"
  | bool false => "false"
  | integer n => toString n
  | fraction numeral => numeral
  | string text => quoted text
  | array items => "[" ++ ",".intercalate (compactItems items) ++ "]"
  | object members => "\x7b" ++ ",".intercalate (compactMembers members) ++ "\x7d"
  | illegible => "null"

def compactItems : List Json → List String
  | [] => []
  | item :: rest => compact item :: compactItems rest

def compactMembers : List (String × Json) → List String
  | [] => []
  | (name, value) :: rest => (quoted name ++ ":" ++ compact value) :: compactMembers rest

end

/-! ## One member to a line -/

/-- The break before a line at the given depth. -/
def lineBreak (depth : Nat) : String :=
  String.ofList ('\n' :: List.replicate (2 * depth) ' ')

mutual

/-- The value with one member or item to a line; `depth` is the depth of the line it stands on. -/
def indented (depth : Nat) : Json → String
  | array [] => "[]"
  | array items =>
    "[" ++ ",".intercalate (indentedItems (depth + 1) items) ++ lineBreak depth ++ "]"
  | object [] => "\x7b\x7d"
  | object members =>
    "\x7b" ++ ",".intercalate (indentedMembers (depth + 1) members) ++ lineBreak depth ++ "\x7d"
  | value => value.compact

def indentedItems (depth : Nat) : List Json → List String
  | [] => []
  | item :: rest => (lineBreak depth ++ indented depth item) :: indentedItems depth rest

def indentedMembers (depth : Nat) : List (String × Json) → List String
  | [] => []
  | (name, value) :: rest =>
    (lineBreak depth ++ quoted name ++ ": " ++ indented depth value) ::
      indentedMembers depth rest

end

/-- The value with one member or item to a line. -/
def pretty (value : Json) : String := value.indented 0

end InstallMarkup.Json
