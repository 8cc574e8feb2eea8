import InstallMarkup.FlagSet

/-!
# Flags of the search tables

Each result that an author can ask a search for is one flag of the mask column of its table.
-/

namespace InstallMarkup

/-! ## Files and directories -/

/-- The declared flags of file and directory searches, which share a table. -/
def fileSearchFlags : List Flag := [
  ⟨"DEFAULT", 0x001⟩,
  ⟨"MIN_VERSION_INCLUSIVE", 0x002⟩,
  ⟨"MAX_VERSION_INCLUSIVE", 0x004⟩,
  ⟨"MIN_SIZE_INCLUSIVE", 0x008⟩,
  ⟨"MAX_SIZE_INCLUSIVE", 0x010⟩,
  ⟨"MIN_DATE_INCLUSIVE", 0x020⟩,
  ⟨"MAX_DATE_INCLUSIVE", 0x040⟩,
  ⟨"WANT_VERSION", 0x080⟩,
  ⟨"WANT_EXISTS", 0x100⟩,
  ⟨"IS_DIRECTORY", 0x200⟩]

abbrev FileSearchFlags := FlagSet fileSearchFlags

namespace FileSearchFlags

/-- A search for a file, whose result is the path unless another flag says otherwise. -/
def plainFile : FileSearchFlags := ⟨0x001⟩
/-- The result is the version of the file. -/
def wantVersion : FileSearchFlags := ⟨0x080⟩
/-- The result is whether the file or directory exists. -/
def wantExists : FileSearchFlags := ⟨0x100⟩
/-- A search for a directory. -/
def isDirectory : FileSearchFlags := ⟨0x200⟩

end FileSearchFlags

/-! ## Components -/

/-- The declared flags of component searches. -/
def componentSearchFlags : List Flag := [
  ⟨"KEY_PATH", 0x1⟩,
  ⟨"STATE", 0x2⟩,
  ⟨"WANT_DIRECTORY", 0x4⟩]

abbrev ComponentSearchFlags := FlagSet componentSearchFlags

namespace ComponentSearchFlags

/-- The result is the key path of the component. -/
def keyPath : ComponentSearchFlags := ⟨0x1⟩
/-- The result is the installation state of the component. -/
def state : ComponentSearchFlags := ⟨0x2⟩
/-- The result is the directory of the component. -/
def wantDirectory : ComponentSearchFlags := ⟨0x4⟩

end ComponentSearchFlags

/-! ## Products -/

/-- The declared flags of product searches. -/
def productSearchFlags : List Flag := [
  ⟨"VERSION", 0x01⟩,
  ⟨"LANGUAGE", 0x02⟩,
  ⟨"STATE", 0x04⟩,
  ⟨"ASSIGNMENT", 0x08⟩,
  ⟨"UPGRADE_CODE", 0x10⟩]

abbrev ProductSearchFlags := FlagSet productSearchFlags

namespace ProductSearchFlags

/-- The result is the version of the product. -/
def version : ProductSearchFlags := ⟨0x01⟩
/-- The result is the language of the product. -/
def language : ProductSearchFlags := ⟨0x02⟩
/-- The result is the installation state of the product. -/
def state : ProductSearchFlags := ⟨0x04⟩
/-- The result is the assignment of the product, to a user or to the machine. -/
def assignment : ProductSearchFlags := ⟨0x08⟩
/-- The code is that of the product's upgrades, not of the product itself. -/
def upgradeCode : ProductSearchFlags := ⟨0x10⟩

end ProductSearchFlags

/-! ## The registry -/

/-- The declared flags of registry searches. -/
def registrySearchFlags : List Flag := [
  ⟨"RAW", 0x01⟩,
  ⟨"COMPATIBLE", 0x02⟩,
  ⟨"EXPAND_ENVIRONMENT_VARIABLES", 0x04⟩,
  ⟨"WANT_VALUE", 0x08⟩,
  ⟨"WANT_EXISTS", 0x10⟩,
  ⟨"WIN64", 0x20⟩]

abbrev RegistrySearchFlags := FlagSet registrySearchFlags

namespace RegistrySearchFlags

/-- The value is taken as it stands. -/
def raw : RegistrySearchFlags := ⟨0x01⟩
/-- The value is converted as older engines did. -/
def compatible : RegistrySearchFlags := ⟨0x02⟩
/-- Environment variables in the value are replaced. -/
def expandEnvironmentVariables : RegistrySearchFlags := ⟨0x04⟩
/-- The result is the value. -/
def wantValue : RegistrySearchFlags := ⟨0x08⟩
/-- The result is whether the key or value exists. -/
def wantExists : RegistrySearchFlags := ⟨0x10⟩
/-- The 64-bit view of the registry is searched. -/
def win64 : RegistrySearchFlags := ⟨0x20⟩

end RegistrySearchFlags

end InstallMarkup
