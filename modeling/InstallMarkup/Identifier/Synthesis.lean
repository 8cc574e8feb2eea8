import InstallMarkup.Digest.Sha256
import InstallMarkup.Fault
import InstallMarkup.Text.SixBit

/-!
# Computed identifiers

A node without an identifier of its own gets one from its content. The fields are written one after
the other into the *material*, in a form from which they can be read back: a bar, then the length in
bytes, a colon and the value for a field that is present, or a bar and a dash for one that is not.
The identifier is the tag of the family followed by the first twenty bytes of the material's SHA-256
digest as six-bit text.

Equal content gives equal identifiers, whatever was compiled before; there is no counter.
-/

namespace InstallMarkup.Identifier

/-- One field of the material, without the bar in front of it. -/
def fieldText : Option String → String
  | some value => toString value.utf8ByteSize ++ ":" ++ value
  | none => "-"

/-- The text that is hashed. -/
def material (family : IdentifierFamily) (fields : List (Option String)) : String :=
  family.tag ++ String.join (fields.map fun field => "|" ++ fieldText field)

/-- How many bytes of the digest go into the identifier. -/
def digestLength : Nat := 20

/-- The identifier of a material, under a family's tag. -/
def ofMaterial (family : IdentifierFamily) (material : String) : Identifier :=
  let digest := Sha256.digest (material.toList.flatMap String.utf8EncodeChar)
  ⟨family.tag ++ String.ofList (SixBit.encode (digest.take digestLength))⟩

/-- The identifier of a node of the given family with these fields. The number of fields must be
the family's own. -/
def synthesize (family : IdentifierFamily) (fields : List (Option String)) :
    Except CompileFault Identifier :=
  if fields.length = family.fieldCount then
    .ok (ofMaterial family (material family fields))
  else
    .error (.identifierFieldCount family fields.length)

end InstallMarkup.Identifier
