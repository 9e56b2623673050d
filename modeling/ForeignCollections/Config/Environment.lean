import ForeignCollections.Config.Basic
import ForeignCollections.Registry.Basic

/-!
Where the configuration comes from, and the registry it leaves. A file that is named explicitly
counts instead of the one in the home directory, also when it is missing; a list of registrars
to leave out that is set, be it empty, replaces the one in the file.
-/

namespace ForeignCollections

/-- Where a configuration comes from. -/
structure Environment where
  homeFile : ConfigFile := .missing
  /-- The file that is named explicitly, if one is; then the one at home does not count. -/
  namedFile : Option ConfigFile := none
  /-- The list that replaces the registrars to leave out, if it is set. -/
  disabledList : Option String := none

namespace Environment

def file (env : Environment) : ConfigFile := env.namedFile.getD env.homeFile

def fileConfig (env : Environment) : Except SetupError Config :=
  match env.file with
  | .missing => .ok {}
  | file => Config.ofFile file

def config (env : Environment) : Except SetupError Config :=
  env.fileConfig.map fun c => env.disabledList.elim c c.override

end Environment

namespace Registry

/-- The registry over those registrars that the configuration does not leave out. -/
def configured (c : Config) (registrars : List Registrar) : Except CollectionError Registry :=
  build (registrars.filter fun g => !c.isDisabled g.id)

end Registry

namespace Environment

def registry (env : Environment) (registrars : List Registrar) : Except SetupError Registry :=
  match env.config with
  | .ok c => (Registry.configured c registrars).mapError .collection
  | .error e => .error e

end Environment

end ForeignCollections
