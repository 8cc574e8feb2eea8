import InstallMarkup.Permission.Vocabulary

/-!
# Access masks

A grant is written as yes and no to names of rights. Its mask is the union of the masks of the
rights that are granted. One mask is reserved: generic reading alone reads as no access at all
further on, so no grant may come to it.
-/

namespace InstallMarkup

/-- The rights granted so far on an object. -/
structure AccessMask (kind : ObjectKind) where
  bits : UInt32 := 0
  deriving DecidableEq, Repr

namespace AccessMask

variable {kind : ObjectKind}

/-- The mask of generic reading alone. -/
def genericReadOnly : UInt32 := 0x80000000

/-- Nothing granted. -/
def empty : AccessMask kind := {}

/-- Says yes or no to a right; fails if the object has no such right. A no takes nothing away. -/
def answer? (m : AccessMask kind) (name : String) (granted : Bool) : Option (AccessMask kind) :=
  match kind.mask? name with
  | some bits => some (if granted then ⟨m.bits ||| bits⟩ else m)
  | none => none

/-- The mask as a grant holds it, unless it is the reserved one. -/
def finished? (m : AccessMask kind) : Option UInt32 :=
  if m.bits = genericReadOnly then none else some m.bits

end AccessMask

/-- Why a list of answers makes no mask. -/
inductive EncodeError where
  /-- The object has no right of this name. -/
  | unknownPermission (name : String)
  /-- The answers come to generic reading alone. -/
  | genericReadOnly
  deriving DecidableEq, Repr

namespace EncodeError

def name : EncodeError → String
  | unknownPermission _ => "UnknownPermission"
  | genericReadOnly => "GenericReadOnly"

def message : EncodeError → String
  | unknownPermission name => s!"'{name}' is not a permission of this object kind"
  | genericReadOnly => "GenericRead alone grants no access"

end EncodeError

namespace AccessMask

variable {kind : ObjectKind}

/-- Takes answers in order, up to the first unknown right. -/
def answerAll (m : AccessMask kind) : List (String × Bool) → Except EncodeError (AccessMask kind)
  | [] => .ok m
  | (name, granted) :: rest =>
    match m.answer? name granted with
    | some m => m.answerAll rest
    | none => .error (.unknownPermission name)

/-- The mask that a list of answers comes to. -/
def encode (kind : ObjectKind) (answers : List (String × Bool)) : Except EncodeError UInt32 :=
  match (empty : AccessMask kind).answerAll answers with
  | .ok m =>
    match m.finished? with
    | some bits => .ok bits
    | none => .error .genericReadOnly
  | .error e => .error e

end AccessMask

end InstallMarkup
