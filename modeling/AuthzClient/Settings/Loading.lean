import AuthzClient.Settings.Environment
import AuthzClient.Settings.Reading
import AuthzClient.Settings.Yaml.Document

/-!
Loading a configuration: the standard one, a file over it if one is named, and environment variables over both.
-/

namespace AuthzClient.Settings

/-- A file that is named: its bytes, if it can be read. -/
abbrev File := Option (List UInt8)

def ofFile : File → Except SettingFault Json
  | some bytes => Yaml.settings bytes
  | none => .error .other

/-- The configuration that a file, if one is named, and environment variables give. -/
def load (file : Option File) (pairs : List (String × String)) : Except ClientError Configuration :=
  let standard := Configuration.standard.toSettings
  match file.map ofFile with
  | some (.error fault) => .error (.settings "" fault)
  | some (.ok settings) => read (overlay (overlay standard settings) (Environment.settings pairs))
  | none => read (overlay standard (Environment.settings pairs))

end AuthzClient.Settings
