import ForeignCollections.Error
import ForeignCollections.Json.Reader
import ForeignCollections.Json.Record
import ForeignCollections.Text.Basic

/-!
Configuration: which registrars to leave out even when they are available, and the filter for
log records. A text gives both as a JSON record in which either may be missing; the list of
registrars can be replaced by a list separated by commas. What can go wrong while the program is set
up is told by cause.
-/

namespace ForeignCollections

inductive FileFault where
  | notFound
  | isDirectory
  | notText
  deriving DecidableEq

namespace FileFault

def label : FileFault → String
  | notFound => "NotFound"
  | isDirectory => "IsADirectory"
  | notText => "InvalidData"

end FileFault

/-- Why the program cannot be set up. -/
inductive SetupError where
  | collection (e : CollectionError)
  | file (fault : FileFault)
  | json (fault : Json.Fault)
  | blankRegistrar (id : String)

namespace SetupError

def blankDetail (id : String) : String :=
  "disabled_registrars contains a blank id: " ++ Text.quoted id

/-- The wording of an error. Why a JSON text is refused is left open. -/
def message : SetupError → String
  | collection e => e.message
  | file fault => "I/O error: " ++ fault.label
  | json _ => "JSON serialization/deserialization error: *"
  | blankRegistrar id => "Configuration error: " ++ blankDetail id

def inspect : SetupError → String
  | collection e => "Collection(" ++ e.inspect ++ ")"
  | file fault => "Io(" ++ fault.label ++ ")"
  | json _ => "Json(Error(*))"
  | blankRegistrar id => "Config(" ++ Text.quoted (blankDetail id) ++ ")"

end SetupError

open Json (Record)

/-- What stands at the place of a configuration file. -/
inductive ConfigFile where
  | missing
  | directory
  | notText
  | text (content : String)

def ConfigFile.ofBytes (content : ByteArray) : ConfigFile :=
  match String.fromUTF8? content with
  | some s => text s
  | none => notText

structure Config where
  disabled : List String := []
  logFilter : Option String := none
  deriving DecidableEq

namespace Config

/-- A configuration of which some fields have been read. -/
structure Draft where
  disabled : Option (List String) := none
  logFilter : Option (Option String) := none

/-- What is missing has its default. -/
def record : Record Draft Config where
  fields :=
    [.of "disabled_registrars" (·.disabled) (fun d x => { d with disabled := some x }) .someTexts,
     .of "log_filter" (·.logFilter) (fun d x => { d with logFilter := some x }) .aTextOrNull]
  start := {}
  mayEndEarly := true
  finish d := some ⟨d.disabled.getD [], d.logFilter.getD none⟩

def checked (c : Config) : Except SetupError Config :=
  match c.disabled.find? Text.isBlank with
  | some id => .error (.blankRegistrar id)
  | none => .ok c

def ofText (s : String) : Except SetupError Config :=
  match record.parse s with
  | .ok c => c.checked
  | .error fault => .error (.json fault)

def ofFile : ConfigFile → Except SetupError Config
  | .missing => .error (.file .notFound)
  | .directory => .error (.file .isDirectory)
  | .notText => .error (.file .notText)
  | .text content => ofText content

/-- The ids in a list separated by commas: trimmed, and without the blank ones. -/
def idsOf (list : String) : List String :=
  ((Text.pieces ',' list).map Text.trim).filter (· ≠ "")

def override (c : Config) (list : String) : Config := { c with disabled := idsOf list }

def isDisabled (c : Config) (id : String) : Bool := c.disabled.contains id

def effectiveLogFilter (c : Config) : String := c.logFilter.getD "info"

end Config

end ForeignCollections
