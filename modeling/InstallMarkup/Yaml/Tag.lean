import InstallMarkup.Text.Digits
import InstallMarkup.Yaml.Cursor

/-!
# YAML tags

A tag is written as a handle and a suffix, and the handle stands for what its tags begin with. In a
suffix, and in what a handle stands for, a character may be written by its bytes, each of them as a
percent sign and two digits. Such bytes have the shape of a character, a first one that tells their
number and later ones between 80 and BF, but they may be more than the character needs or give a
code point that no character has. A tag with bytes of this kind is a tag without a text.
-/

namespace InstallMarkup.Yaml

/-- A tag, or a part of one. -/
inductive Tag where
  | text (s : String)
  /-- There are bytes in it that are no character. -/
  | illegible
  deriving DecidableEq, Repr

namespace Tag

/-- One part of a tag before another. -/
def append : Tag → Tag → Tag
  | text s, text t => text (s ++ t)
  | _, _ => illegible

instance : Append Tag := ⟨append⟩

/-- The tag of some characters, where `none` stands for bytes that are no character. The character
zero ends a tag, and what comes after it does not count. -/
def ofCharacters (cs : List (Option Char)) : Tag :=
  match (cs.takeWhile (· != some '\x00')).mapM id with
  | some cs => text (String.ofList cs)
  | none => illegible

/-! ## Characters by their bytes -/

/-- The number of bytes of a character whose first byte this is. -/
def byteCount? (first : Nat) : Option Nat :=
  if first < 0x80 then some 1
  else if 0xc0 ≤ first ∧ first < 0xe0 then some 2
  else if 0xe0 ≤ first ∧ first < 0xf0 then some 3
  else if 0xf0 ≤ first ∧ first < 0xf8 then some 4
  else none

/-- The bytes that follow the first one of a character, each as a percent sign and two digits. -/
def laterBytes? : Nat → Nat → List Char → Option (Nat × List Char)
  | 0, sofar, rest => some (sofar, rest)
  | n + 1, sofar, '%' :: a :: b :: rest =>
    match Digits.read? 16 [a, b] with
    | some byte =>
      if 0x80 ≤ byte ∧ byte < 0xc0 then laterBytes? n (sofar * 0x40 + (byte - 0x80)) rest else none
    | none => none
  | _, _, _ => none

/-- The character of a code point, if there is one and it takes the given number of bytes. -/
def character? (code count : Nat) : Option Char :=
  let c := Char.ofNat code
  if c.toNat = code ∧ c.utf8Size = count then some c else none

/-- A character that is written by its bytes, or `none` for bytes that only have the shape of one,
with the number of bytes and the rest; `rest` follows the first percent sign. -/
def escapedCharacter? : List Char → Option (Option Char × Nat × List Char)
  | a :: b :: rest => do
    let first ← Digits.read? 16 [a, b]
    let count ← byteCount? first
    let lead := if count = 1 then first else first % (1 <<< (7 - count))
    let (code, rest) ← laterBytes? (count - 1) lead rest
    some (character? code count, count, rest)
  | _ => none

/-! ## Parts of tags -/

/-- The characters of a tag that a text begins with. -/
structure Word where
  characters : List (Option Char)
  /-- How many characters of the text it takes. -/
  width : Nat
  rest : List Char

namespace Word

def cons (c : Option Char) (width : Nat) (w : Word) : Word :=
  { w with characters := c :: w.characters, width := w.width + width }

end Word

/-- Whether a character may stand in a tag. The marks of flow sequences may in a bracketed one. -/
def isTagChar (bracketed : Bool) (c : Char) : Bool :=
  isNameChar c || ";/?:@&=+$.!~*'()".toList.contains c ||
    (bracketed && (c == ',' || c == '[' || c == ']'))

/-- The characters of a tag in front. The fuel exceeds the number of characters left. -/
def word? (bracketed : Bool) : Nat → List Char → Option Word
  | 0, _ => none
  | _ + 1, [] => some ⟨[], 0, []⟩
  | fuel + 1, c :: rest =>
    if c == '%' then do
      let (ch, count, rest) ← escapedCharacter? rest
      some ((← word? bracketed fuel rest).cons ch (3 * count))
    else if isTagChar bracketed c then do
      some ((← word? bracketed fuel rest).cons (some c) 1)
    else some ⟨[], 0, c :: rest⟩

/-- The characters of a tag in front, at least one of them, be it the zero that ends the tag. -/
def wholeWord? (bracketed : Bool) (fuel : Nat) (cs : List Char) : Option Word := do
  let w ← word? bracketed fuel cs
  if w.characters.isEmpty then none
  some w

/-- The handle of a tag: an exclamation mark, name characters, and perhaps a second mark. -/
def handle? : List Char → Option (List Char × List Char)
  | '!' :: rest =>
    let name := rest.takeWhile isNameChar
    match rest.dropWhile isNameChar with
    | '!' :: rest => some ('!' :: name ++ ['!'], rest)
    | rest => some ('!' :: name, rest)
  | _ => none

end Tag

end InstallMarkup.Yaml
