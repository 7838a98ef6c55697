import FunctionChurn.Disk.Resolve
import FunctionChurn.Settings.Basic
import FunctionChurn.Text.Content
import FunctionChurn.Yaml.Document

/-!
# Settings files

* `Settings.place` is the settings file for a path, which may be the file or its directory.
* `Settings.ofContent` reads the bytes of a file.
* `Settings.load` does both; without a file all settings are the usual ones.
* `SettingsError` is what can be wrong with a file.  `SettingsFailure` adds what goes wrong in spite
  of a good file: values that cannot be, paths that lead nowhere, and what the system refuses.

What is said about a text that is no YAML is up to whoever reads it.
-/

namespace FunctionChurn

/-! ## Faults -/

/-- Why the text of a file cannot be had. -/
inductive ReadFault where
  | system (f : SystemFault)
  | notText (m : Utf8.Malformed)
  deriving DecidableEq

/-- The sentence for it. -/
def ReadFault.message : ReadFault → String
  | .system f => f.message
  | .notText m => m.message

/-- **What is wrong with a settings file.** -/
inductive SettingsError where
  | unreadable (name : String) (fault : ReadFault)
  /-- Its text is no YAML. -/
  | unparsable (name : String) (text : List Char)
  /-- The document is not a mapping. -/
  | notMapping
  deriving DecidableEq

/-- What a settings file is called. -/
def settingsName : String := ".hotspots.yml"

/-- The sentence for a settings error, given what is said about a text that is no YAML. -/
def SettingsError.message (explain : List Char → String) : SettingsError → String
  | .unreadable name fault => "Failed to read " ++ name ++ ": " ++ fault.message
  | .unparsable name text => "Failed to parse " ++ name ++ ": " ++ explain text
  | .notMapping => settingsName ++ " must contain a mapping at the root"

/-- **Why there are no settings.** -/
inductive SettingsFailure where
  | file (e : SettingsError)
  /-- A value cannot be. -/
  | value (f : Yaml.LoadFault)
  | unwritable (u : Unwritable)
  /-- The links of a path do not end. -/
  | linkLoop (path : String)
  /-- A path begins with the tilde of somebody unknown. -/
  | unknownHome
  /-- The system refuses to look at a path, or cannot be asked about it. -/
  | system (f : SystemFault)
  deriving DecidableEq

/-- The sentence for a settings failure. -/
def SettingsFailure.message (explain : List Char → String) : SettingsFailure → String
  | .file e => e.message explain
  | .value f => f.message
  | .unwritable u => u.message
  | .linkLoop path => "Symlink loop from " ++ Text.quote path
  | .unknownHome => "Could not determine home directory."
  | .system f => f.message

namespace Settings

/-! ## Reading -/

/-- The failure of reading a text as YAML. -/
def readFailure (name : String) (text : List Char) : Yaml.LoadFault → SettingsFailure
  | .malformed => .file (.unparsable name text)
  | f => .value f

/-- **The settings in a document.**  A document that says nothing leaves all as usual. -/
def ofValue (root : String) : Yaml.Value → Except SettingsFailure Settings
  | .null => .ok { root }
  | .mapping pairs => (ofPairs root pairs).mapError .unwritable
  | _ => .error (.file .notMapping)

/-- The settings in the text of a file. -/
def ofText (root name : String) (text : List Char) : Except SettingsFailure Settings :=
  if text.all Text.isBlank then .ok { root }
  else
    match Yaml.read text with
    | .error f => .error (readFailure name text f)
    | .ok v => ofValue root v

/-- **The settings in the bytes of a file.** -/
def ofContent (root name : String) (bytes : Bytes) : Except SettingsFailure Settings :=
  match Text.ofContent bytes with
  | .error m => .error (.file (.unreadable name (.notText m)))
  | .ok text => ofText root name text

/-! ## Finding -/

/-- The path of the settings file for a path that is a directory or not. -/
def filePath (path : String) (directory : Bool) : String :=
  if directory then Path.join path settingsName else path

/-- Why nobody's home directory is known by the tilde in front of a path. -/
def homeFailure (path : String) : SettingsFailure :=
  if Path.holdsNull ((Path.names path).headD "") then .system .nullByte else .unknownHome

/-- **The place of the settings file for a path**, absolute and free of links. -/
def place (d : Disk) (path : String) : Except SettingsFailure String :=
  match d.expandHome path with
  | none => .error (homeFailure path)
  | some path =>
      match d.isDirectory path with
      | .error f => .error (.system f)
      | .ok directory =>
          if !directory && Path.holdsNull path then .error (.system .nullByte)
          else (d.settle (filePath path directory)).mapError .linkLoop

/-- The directory that a place is in, free of links. -/
def directoryOf (d : Disk) (place : String) : Except SettingsFailure String :=
  (d.settle (Path.absolute (Path.names place).dropLast)).mapError .linkLoop

/-- The settings in the file at a place, for its directory.  Without a file all are the usual ones. -/
def loadFrom (d : Disk) (root place : String) : Except SettingsFailure Settings :=
  let name := Path.baseName place
  match d.exists place with
  | .error f => .error (.system f)
  | .ok false => .ok { root }
  | .ok true =>
      match d.read place with
      | .error f => .error (.file (.unreadable name (.system f)))
      | .ok bytes => ofContent root name bytes

/-- **The settings for a path.** -/
def load (d : Disk) (path : String) : Except SettingsFailure Settings :=
  match place d path with
  | .error f => .error f
  | .ok found =>
      match directoryOf d found with
      | .error f => .error f
      | .ok root => loadFrom d root found

end Settings

end FunctionChurn
