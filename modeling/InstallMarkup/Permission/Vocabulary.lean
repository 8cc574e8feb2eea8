/-!
# The vocabulary of rights

A vocabulary is a list of names for consecutive bits of an access mask. Every object understands the
standard and the generic rights; the low bits mean something else for each kind of object.
-/

namespace InstallMarkup

/-- Names for consecutive bits of an access mask. -/
structure RightsVocabulary where
  /-- The bit of the first name. -/
  offset : Nat
  names : List String
  deriving DecidableEq, Repr

namespace RightsVocabulary

/-- The mask of a name: the one bit at its place. -/
def mask? (v : RightsVocabulary) (name : String) : Option UInt32 :=
  (v.names.idxOf? name).map fun i => 1 <<< UInt32.ofNat (v.offset + i)

/-- Rights that every object understands. -/
def standard : RightsVocabulary where
  offset := 16
  names := ["Delete", "ReadPermission", "ChangePermission", "TakeOwnership", "Synchronize"]

/-- Rights that each object maps to its own. -/
def generic : RightsVocabulary where
  offset := 28
  names := ["GenericAll", "GenericExecute", "GenericWrite", "GenericRead"]

def folder : RightsVocabulary where
  offset := 0
  names := ["Read", "CreateFile", "CreateChild", "ReadExtendedAttributes",
    "WriteExtendedAttributes", "Traverse", "DeleteChild", "ReadAttributes", "WriteAttributes"]

def file : RightsVocabulary where
  offset := 0
  names := ["Read", "Write", "Append", "ReadExtendedAttributes", "WriteExtendedAttributes",
    "Execute", "FileAllRights", "ReadAttributes", "WriteAttributes"]

def registry : RightsVocabulary where
  offset := 0
  names := ["Read", "Write", "CreateSubkeys", "EnumerateSubkeys", "Notify", "CreateLink"]

def service : RightsVocabulary where
  offset := 0
  names := ["ServiceQueryConfig", "ServiceChangeConfig", "ServiceQueryStatus",
    "ServiceEnumerateDependents", "ServiceStart", "ServiceStop", "ServicePauseContinue",
    "ServiceInterrogate", "ServiceUserDefinedControl"]

end RightsVocabulary

/-- The kind of object that a grant secures. -/
inductive ObjectKind where
  | folder
  | file
  | registry
  | service
  deriving DecidableEq, Repr, Inhabited

namespace ObjectKind

def all : List ObjectKind := [folder, file, registry, service]

def name : ObjectKind → String
  | folder => "Folder"
  | file => "File"
  | registry => "Registry"
  | service => "Service"

/-- The table that objects of the kind belong to, as grants name it. -/
def table : ObjectKind → String
  | folder => "CreateFolder"
  | file => "File"
  | registry => "Registry"
  | service => "ServiceInstall"

/-- The rights of the kind's own. -/
def vocabulary : ObjectKind → RightsVocabulary
  | folder => .folder
  | file => .file
  | registry => .registry
  | service => .service

/-- All rights of a file: every file right and every standard right. -/
def fileAllRights : UInt32 := 0x001f01ff

/-- The mask of one of the kind's own rights. All rights of a file are more than one bit. -/
def ownMask? (kind : ObjectKind) (name : String) : Option UInt32 :=
  if kind = .file ∧ name = "FileAllRights" then some fileAllRights
  else kind.vocabulary.mask? name

/-- The mask of a right of an object: a standard one, a generic one, or one of the kind's own, in
this order. -/
def mask? (kind : ObjectKind) (name : String) : Option UInt32 :=
  (RightsVocabulary.standard.mask? name).or
    ((RightsVocabulary.generic.mask? name).or (kind.ownMask? name))

/-- The names of all rights of an object. -/
def rights (kind : ObjectKind) : List String :=
  RightsVocabulary.standard.names ++ RightsVocabulary.generic.names ++ kind.vocabulary.names

end ObjectKind

end InstallMarkup
