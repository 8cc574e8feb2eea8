/-!
# Six-bit text

Bytes as text over sixty-four characters, three bytes to four characters, without padding. The
alphabet is the usual one except for its last two characters, which are a period and an underscore,
so that the text can stand inside an identifier.
-/

namespace InstallMarkup.SixBit

/-- The sixty-four characters in the order of their values. -/
def alphabet : List Char :=
  "ABCDEFGHIJKLMNOPQRSTUVWXYZabcdefghijklmnopqrstuvwxyz0123456789._".toList

/-- The character of a value below sixty-four. -/
def digit (value : Nat) : Char :=
  alphabet.getD value 'A'

/-- The text of a list of bytes; one or two bytes left over give two or three characters. -/
def encode : List UInt8 → List Char
  | x :: y :: z :: rest =>
    digit (x.toNat / 4) :: digit (x.toNat % 4 * 16 + y.toNat / 16) ::
      digit (y.toNat % 16 * 4 + z.toNat / 64) :: digit (z.toNat % 64) :: encode rest
  | [x, y] =>
    [digit (x.toNat / 4), digit (x.toNat % 4 * 16 + y.toNat / 16), digit (y.toNat % 16 * 4)]
  | [x] => [digit (x.toNat / 4), digit (x.toNat % 4 * 16)]
  | [] => []

/-- Four characters for three bytes, rounded up: twenty bytes take twenty-seven characters. -/
theorem length_encode (bytes : List UInt8) :
    (encode bytes).length = (4 * bytes.length + 2) / 3 := by
  fun_induction encode bytes with
  | case1 x y z rest ih =>
    simp only [List.length_cons, ih]
    omega
  | case2 => simp
  | case3 => simp
  | case4 => simp

end InstallMarkup.SixBit
