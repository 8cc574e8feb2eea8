import InstallMarkup.Json.Value
import InstallMarkup.Text.Digits

/-!
# Reading JSON

The grammar is read strictly: no comments, no commas before a closing bracket, no characters after
the value but blanks, no control characters in a text. A parser takes the characters that are left
and gives a value with what is left after it.

Two rules go beyond the grammar: escapes of surrogates come in pairs, and arrays and objects nest up
to a limit. What breaks them is read to its end all the same and is illegible, so that a value is
only refused where it is wanted.
-/

namespace InstallMarkup.Json

/-- How deep arrays and objects may nest and be legible. -/
def nestingLimit : Nat := 127

/-! ## Blanks and numerals -/

/-- The four blanks of JSON. -/
def isBlank (c : Char) : Bool :=
  c == ' ' || c == '\n' || c == '\t' || c == '\r'

def skipBlanks (cs : List Char) : List Char := cs.dropWhile isBlank

/-- The digits in front, and the rest. -/
def spanDigits (cs : List Char) : List Char × List Char := cs.span Char.isDigit

/-- The whole digits of a numeral: a single zero, or digits that do not begin with one. -/
def wholeDigits? (cs : List Char) : Option (List Char × List Char) :=
  match spanDigits cs with
  | ([], _) => none
  | (['0'], rest) => some (['0'], rest)
  | ('0' :: _, _) => none
  | (digits, rest) => some (digits, rest)

/-- The fraction of a numeral, if it has one: a point and digits. -/
def fractionPart? (cs : List Char) : Option (List Char × List Char) :=
  match cs with
  | '.' :: rest =>
    match spanDigits rest with
    | ([], _) => none
    | (digits, rest) => some ('.' :: digits, rest)
  | _ => some ([], cs)

/-- The digits of an exponent after its sign. -/
def exponentDigits? (lead cs : List Char) : Option (List Char × List Char) :=
  match spanDigits cs with
  | ([], _) => none
  | (digits, rest) => some (lead ++ digits, rest)

/-- The exponent of a numeral, if it has one: the letter E, perhaps a sign, and digits. -/
def exponentPart? (cs : List Char) : Option (List Char × List Char) :=
  match cs with
  | e :: rest =>
    if e == 'e' || e == 'E' then
      match rest with
      | '+' :: rest => exponentDigits? [e, '+'] rest
      | '-' :: rest => exponentDigits? [e, '-'] rest
      | rest => exponentDigits? [e] rest
    else some ([], cs)
  | [] => some ([], [])

/-- A numeral. Without a fraction and an exponent it is an integer, unless it is a negative zero. -/
def number? (cs : List Char) : Option (Json × List Char) := do
  let (sign, rest) := match cs with
    | '-' :: rest => (['-'], rest)
    | rest => ([], rest)
  let (whole, rest) ← wholeDigits? rest
  let (fractional, rest) ← fractionPart? rest
  let (exponent, rest) ← exponentPart? rest
  let magnitude ← Digits.read? 10 whole
  if fractional.isEmpty && exponent.isEmpty then
    if sign.isEmpty then some (integer magnitude, rest)
    else if magnitude = 0 then some (fraction "-0", rest)
    else some (integer (-magnitude), rest)
  else some (fraction (String.ofList (sign ++ whole ++ fractional ++ exponent)), rest)

/-! ## Texts -/

/-- The number that four hexadecimal digits write. -/
def hexQuad? (a b c d : Char) : Option Nat := Digits.read? 16 [a, b, c, d]

/-- The character of a backslash and a letter. -/
def shortEscape? : Char → Option Char
  | '"' => some '"'
  | '\\' => some '\\'
  | '/' => some '/'
  | 'b' => some '\x08'
  | 'f' => some '\x0c'
  | 'n' => some '\n'
  | 'r' => some '\r'
  | 't' => some '\t'
  | _ => none

/-- The code points of a text up to its closing quotation mark, and the rest; `sofar` holds the code
points before, the last one first. Surrogates stand as they are written. -/
def codePoints? (sofar : List Nat) : List Char → Option (List Nat × List Char)
  | [] => none
  | '"' :: rest => some (sofar.reverse, rest)
  | '\\' :: 'u' :: a :: b :: c :: d :: rest =>
    match hexQuad? a b c d with
    | some n => codePoints? (n :: sofar) rest
    | none => none
  | '\\' :: letter :: rest =>
    match shortEscape? letter with
    | some ch => codePoints? (ch.toNat :: sofar) rest
    | none => none
  | ch :: rest => if ch.toNat < 0x20 then none else codePoints? (ch.toNat :: sofar) rest

/-- Whether a code point is the first half of a surrogate pair. -/
def isHighSurrogate (n : Nat) : Bool := 0xd800 ≤ n && n ≤ 0xdbff

/-- Whether a code point is the second half of a surrogate pair. -/
def isLowSurrogate (n : Nat) : Bool := 0xdc00 ≤ n && n ≤ 0xdfff

/-- The character of a surrogate pair. -/
def ofSurrogates (high low : Nat) : Char :=
  Char.ofNat (0x10000 + (high - 0xd800) * 0x400 + (low - 0xdc00))

/-- The characters of some code points, if the surrogates among them come in pairs; `sofar` holds
the characters before, the last one first. -/
def ofCodePoints? (sofar : List Char) : List Nat → Option (List Char)
  | [] => some sofar.reverse
  | [n] =>
    if isHighSurrogate n || isLowSurrogate n then none else some (Char.ofNat n :: sofar).reverse
  | n :: m :: rest =>
    if isLowSurrogate n then none
    else if !isHighSurrogate n then ofCodePoints? (Char.ofNat n :: sofar) (m :: rest)
    else if isLowSurrogate m then ofCodePoints? (ofSurrogates n m :: sofar) rest
    else none

/-- A text after its opening quotation mark, and the rest. It has an end even where it has no
value. -/
def text? (cs : List Char) : Option (Option String × List Char) :=
  (codePoints? [] cs).map fun (codes, rest) => ((ofCodePoints? [] codes).map String.ofList, rest)

/-! ## Values -/

/-- The object of some members, if every name is legible. -/
def ofMembers (members : List (Option String × Json)) : Json :=
  match members.mapM fun (name?, value) => name?.map (·, value) with
  | some members => object members
  | none => illegible

/-- An array or object at a place where `depth` more may be opened. -/
def atDepth (depth : Nat) (value : Json) : Json := if depth = 0 then illegible else value

mutual

/-- A value. `fuel` exceeds the number of characters left; `depth` is how many arrays and objects
may still be opened for what is in them to be legible. -/
def value? : Nat → Nat → List Char → Option (Json × List Char)
  | 0, _, _ => none
  | fuel + 1, depth, cs =>
    match skipBlanks cs with
    | 'n' :: 'u' :: 'l' :: 'l' :: rest => some (null, rest)
    | 't' :: 'r' :: 'u' :: 'e' :: rest => some (bool true, rest)
    | 'f' :: 'a' :: 'l' :: 's' :: 'e' :: rest => some (bool false, rest)
    | '"' :: rest => (text? rest).map fun (text?, rest) => ((text?.map string).getD illegible, rest)
    | '[' :: rest =>
      match skipBlanks rest with
      | ']' :: rest => some (atDepth depth (array []), rest)
      | rest =>
        (items? fuel (depth - 1) rest).map fun (items, rest) => (atDepth depth (array items), rest)
    | '{' :: rest =>
      match skipBlanks rest with
      | '}' :: rest => some (atDepth depth (object []), rest)
      | rest =>
        (members? fuel (depth - 1) rest).map fun (members, rest) =>
          (atDepth depth (ofMembers members), rest)
    | rest => number? rest

/-- The items of an array up to its closing bracket. -/
def items? : Nat → Nat → List Char → Option (List Json × List Char)
  | 0, _, _ => none
  | fuel + 1, depth, cs =>
    match value? fuel depth cs with
    | none => none
    | some (item, rest) =>
      match skipBlanks rest with
      | ']' :: rest => some ([item], rest)
      | ',' :: rest => (items? fuel depth rest).map fun (items, rest) => (item :: items, rest)
      | _ => none

/-- The members of an object up to its closing brace. -/
def members? : Nat → Nat → List Char → Option (List (Option String × Json) × List Char)
  | 0, _, _ => none
  | fuel + 1, depth, cs =>
    match skipBlanks cs with
    | '"' :: rest =>
      match text? rest with
      | none => none
      | some (name?, rest) =>
        match skipBlanks rest with
        | ':' :: rest =>
          match value? fuel depth rest with
          | none => none
          | some (value, rest) =>
            match skipBlanks rest with
            | '}' :: rest => some ([(name?, value)], rest)
            | ',' :: rest =>
              (members? fuel depth rest).map fun (members, rest) =>
                ((name?, value) :: members, rest)
            | _ => none
        | _ => none
    | _ => none

end

/-- The value that a text writes. -/
def ofText? (s : String) : Option Json :=
  let cs := s.toList
  match value? (2 * cs.length + 2) nestingLimit cs with
  | some (value, rest) => if (skipBlanks rest).isEmpty then some value else none
  | none => none

end InstallMarkup.Json
