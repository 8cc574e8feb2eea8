/-!
# Built-in variables

The variables that the engine sets itself. A search may not store its result in one of them, unless
the configuration allows it. Their names are matched without regard to ASCII case, as the engine
matches them.
-/

namespace InstallMarkup

/-- The names of the variables that the engine sets itself. -/
def builtinVariables : List String := [
  "AdminToolsFolder",
  "AppDataFolder",
  "CommonAppDataFolder",
  "CommonFiles64Folder",
  "CommonFiles6432Folder",
  "CommonFilesFolder",
  "CompatibilityMode",
  "ComputerName",
  "Date",
  "DesktopFolder",
  "FavoritesFolder",
  "FontsFolder",
  "InstallerName",
  "InstallerVersion",
  "LocalAppDataFolder",
  "LogonUser",
  "MyPicturesFolder",
  "NativeMachine",
  "NTProductType",
  "NTSuiteBackOffice",
  "NTSuiteDataCenter",
  "NTSuiteEnterprise",
  "NTSuitePersonal",
  "NTSuiteSmallBusiness",
  "NTSuiteSmallBusinessRestricted",
  "NTSuiteWebServer",
  "PersonalFolder",
  "Privileged",
  "ProcessorArchitecture",
  "ProgramFiles64Folder",
  "ProgramFiles6432Folder",
  "ProgramFilesFolder",
  "ProgramMenuFolder",
  "RebootPending",
  "SendToFolder",
  "ServicePackLevel",
  "StartMenuFolder",
  "StartupFolder",
  "System64Folder",
  "SystemFolder",
  "SystemLanguageID",
  "TempFolder",
  "TemplateFolder",
  "TerminalServer",
  "UserLanguageID",
  "UserUILanguageID",
  "VersionMsi",
  "VersionNT",
  "VersionNT64",
  "WindowsFolder",
  "WindowsVolume",
  "WixBundleAction",
  "WixBundleElevated",
  "WixBundleForcedRestartPackage",
  "WixBundleInstalled",
  "WixBundleProviderKey",
  "WixBundleTag",
  "WixBundleVersion"]

/-- Whether a name is that of a built-in variable, in any ASCII case. -/
def isBuiltinVariable (name : String) : Bool :=
  builtinVariables.any fun builtin => builtin.map Char.toLower == name.map Char.toLower

end InstallMarkup
