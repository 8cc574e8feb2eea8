/-!
# Numerals

Reading a natural number in a radix up to sixteen. A numeral has at least one digit, letters count
in either case, and leading zeros are allowed.
-/

namespace InstallMarkup.Digits

/-- The value of a digit, a letter counting from ten in either case. -/
def digit? (c : Char) : Option Nat :=
  if '0' ≤ c ∧ c ≤ '9' then some (c.toNat - '0'.toNat)
  else if 'a' ≤ c ∧ c ≤ 'f' then some (c.toNat - 'a'.toNat + 10)
  else if 'A' ≤ c ∧ c ≤ 'F' then some (c.toNat - 'A'.toNat + 10)
  else none

/-- The value of a digit that the radix has. -/
def digitBelow? (radix : Nat) (c : Char) : Option Nat :=
  match digit? c with
  | some d => if d < radix then some d else none
  | none => none

/-- Reads digits on from the value `sofar`; fails at a character that is no digit of the radix. -/
def readFrom? (radix sofar : Nat) : List Char → Option Nat
  | [] => some sofar
  | c :: cs =>
    match digitBelow? radix c with
    | some d => readFrom? radix (sofar * radix + d) cs
    | none => none

/-- The number that a nonempty list of digits writes. -/
def read? (radix : Nat) : List Char → Option Nat
  | [] => none
  | cs => readFrom? radix 0 cs

/-- A number below `limit`, with an optional plus sign in front. -/
def unsigned? (radix limit : Nat) (cs : List Char) : Option Nat :=
  let digits := match cs with
    | '+' :: rest => rest
    | _ => cs
  match read? radix digits with
  | some n => if n < limit then some n else none
  | none => none

end InstallMarkup.Digits
