/-!
# Platforms and native actions

Packages are compiled for one of four platforms. Rows may depend on a native action that carries
them out at installation; an action is built for a set of platforms, and its name ends in a suffix
for the platform at hand.
-/

namespace InstallMarkup

/-- The processor that a package is built for. -/
inductive Platform where
  | x86
  | x64
  | arm
  | arm64
  deriving DecidableEq, Repr, Inhabited

namespace Platform

def all : List Platform := [x86, x64, arm, arm64]

def name : Platform → String
  | x86 => "x86"
  | x64 => "x64"
  | arm => "arm"
  | arm64 => "arm64"

/-- What the name of an action ends in when it is built for the platform. -/
def actionSuffix : Platform → String
  | x86 => "_X86"
  | x64 => "_X64"
  | arm => "_ARM"
  | arm64 => "_A64"

/-- A text with its ASCII capitals made small. -/
def lowered (s : String) : String :=
  s.map Char.toLower

/-- The platform that a word names; words are taken without regard to ASCII case, and three of the
platforms have a second name. -/
def ofWord? (word : String) : Option Platform :=
  match lowered word with
  | "x86" => some x86
  | "intel" => some x86
  | "x64" => some x64
  | "amd64" => some x64
  | "arm" => some arm
  | "arm64" => some arm64
  | "a64" => some arm64
  | _ => none

/-- The sentence about a word that names no platform. -/
def unknownMessage (word : String) : String :=
  "unknown platform '" ++ lowered word ++ "'"

/-- The bit that stands for the platform in a set of platforms. -/
def bit : Platform → UInt8
  | x86 => 0x1
  | x64 => 0x2
  | arm => 0x4
  | arm64 => 0x8

end Platform

/-- A set of platforms, one bit each. -/
structure PlatformSet where
  bits : UInt8
  deriving DecidableEq, Repr

namespace PlatformSet

/-- The set of the listed platforms. -/
def ofList (platforms : List Platform) : PlatformSet :=
  ⟨platforms.foldl (fun bits p => bits ||| p.bit) 0⟩

/-- Every platform. -/
def full : PlatformSet := ofList Platform.all

def supports (s : PlatformSet) (p : Platform) : Bool :=
  s.bits &&& p.bit == p.bit

end PlatformSet

/-- An action that the engine runs natively, and the platforms that it is built for. -/
structure NativeAction where
  name : String
  platforms : PlatformSet
  deriving DecidableEq, Repr

namespace NativeAction

/-- The name of the action as built for a platform, under the package's action prefix. -/
def qualifiedName (action : NativeAction) (lead : String) (platform : Platform) : String :=
  lead ++ action.name ++ platform.actionSuffix

/-- The action that applies permission grants. It is not built for 32-bit ARM. -/
def secureObjects : NativeAction :=
  ⟨"SchedSecureObjects", .ofList [.x86, .x64, .arm64]⟩

end NativeAction

end InstallMarkup
