import InstallMarkup.Text.Blank
import InstallMarkup.Text.Digits

/-!
# Sets of named flags

A mask column holds a set of flags, one bit each. In a document the set is written by name: the
names of its flags in the order of their declaration with a bar between each two, and the bits that
no flag declares in hexadecimal at the end. Reading takes the names in any order.
-/

namespace InstallMarkup

/-- A declared flag: its name and its bit. -/
structure Flag where
  name : String
  bit : UInt32
  deriving DecidableEq, Repr

/-- A set of flags out of a list of declarations. Other bits may be set too. -/
structure FlagSet (flags : List Flag) where
  bits : UInt32
  deriving DecidableEq, Repr

namespace FlagSet

variable {flags : List Flag}

/-- The set without flags. -/
def empty : FlagSet flags := ⟨0⟩

/-- The set of the flags of either. -/
def union (s t : FlagSet flags) : FlagSet flags := ⟨s.bits ||| t.bits⟩

/-- Whether a flag belongs to the set. -/
def holds (s : FlagSet flags) (flag : Flag) : Bool :=
  s.bits &&& flag.bit == flag.bit

/-- The declared flags of the set. -/
def members (s : FlagSet flags) : List Flag :=
  flags.filter s.holds

/-- The bits of the set that no flag declares. -/
def undeclared (s : FlagSet flags) : UInt32 :=
  flags.foldl (fun bits flag => bits &&& ~~~flag.bit) s.bits

/-- The set as a document writes it. -/
def text (s : FlagSet flags) : String :=
  let names := s.members.map (·.name)
  let rest := if s.undeclared = 0 then []
    else ["0x" ++ String.ofList (Nat.toDigits 16 s.undeclared.toNat)]
  " | ".intercalate (names ++ rest)

/-- The bits that one piece of a written set stands for: a hexadecimal number or the name of a
declared flag. -/
def pieceBits? (flags : List Flag) (piece : List Char) : Option UInt32 :=
  match piece with
  | '0' :: 'x' :: digits => (Digits.unsigned? 16 UInt32.size digits).map UInt32.ofNat
  | _ => (flags.find? fun flag => flag.name.toList == piece).map (·.bit)

/-- The union of the bits of the pieces, if each is one. -/
def piecesBits? (flags : List Flag) : List (List Char) → Option UInt32
  | [] => some 0
  | piece :: rest =>
    match pieceBits? flags (Text.trim piece), piecesBits? flags rest with
    | some bits, some others => some (bits ||| others)
    | _, _ => none

/-- Reads a written set; a text without anything but blanks is the empty set. -/
def ofText? (s : String) : Option (FlagSet flags) :=
  if (Text.trim s.toList).isEmpty then some empty
  else (piecesBits? flags (Text.pieces '|' s.toList)).map (⟨·⟩)

end FlagSet

end InstallMarkup
