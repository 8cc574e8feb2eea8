/-!
# GUIDs

A GUID is written as thirty-two hexadecimal digits in five groups with hyphens between them, with or
without braces around the whole and in either case. `Guid.normalize?` gives the one form that rows
hold: braces and capitals.
-/

namespace InstallMarkup.Guid

/-- Whether a character is an ASCII hexadecimal digit. -/
def isHexDigit (c : Char) : Bool :=
  c.isDigit || ('a' ≤ c && c ≤ 'f') || ('A' ≤ c && c ≤ 'F')

/-- The numbers of digits in the five groups. -/
def groupLengths : List Nat := [8, 4, 4, 4, 12]

/-- Whether a text is groups of hexadecimal digits of the given lengths with a hyphen between each
two. -/
def isGrouped : List Nat → List Char → Bool
  | [], cs => cs.isEmpty
  | [n], cs => cs.length == n && cs.all isHexDigit
  | n :: ns, cs =>
    (cs.take n).length == n && (cs.take n).all isHexDigit &&
      match cs.drop n with
      | '-' :: rest => isGrouped ns rest
      | _ => false

/-- The text without its braces, if it has both; otherwise the text itself. -/
def unbraced (cs : List Char) : List Char :=
  match cs with
  | '{' :: inner =>
    match inner.getLast? with
    | some '}' => inner.dropLast
    | _ => cs
  | _ => cs

/-- The form in which rows hold a GUID, if the text is one. -/
def normalize? (s : String) : Option String :=
  let digits := unbraced s.toList
  if isGrouped groupLengths digits then
    some (String.ofList ('{' :: digits.map Char.toUpper ++ ['}']))
  else none

end InstallMarkup.Guid
