import ForeignCollections.Cli.Arguments
import ForeignCollections.Config.Environment
import ForeignCollections.Json.Parser
import ForeignCollections.Registry.Report
import ForeignCollections.Value.Json
import ForeignCollections.Vavr.Conversion

/-!
The commands. Each one turns a registry and its operands into the lines to print, or into an
error; the registry is set up from the environment before any command runs. Tables are plain text:
every cell with a blank on both sides, filled up to the widest cell of its column, and a rule above,
between and below the rows.
-/

namespace ForeignCollections.Cli.Table

def fill (width : Nat) (s : String) : String :=
  s ++ String.ofList (List.replicate (width - s.length) ' ')

def widths (rows : List (List String)) : List Nat :=
  rows.foldl (fun ws row => (row.zipIdx).map fun c => max (ws.getD c.2 0) c.1.length) []

def rule (ws : List Nat) : String :=
  "+" ++ String.join (ws.map fun w => String.ofList (List.replicate (w + 2) '-') ++ "+")

def line (ws : List Nat) (row : List String) : String :=
  "|" ++ String.join (List.zipWith (fun w s => " " ++ fill w s ++ " |") ws row)

/-- The lines of a table; all rows have the same number of cells. -/
def render (rows : List (List String)) : List String :=
  let ws := widths rows
  rule ws :: rows.flatMap fun row => [line ws row, rule ws]

end ForeignCollections.Cli.Table

namespace ForeignCollections.Cli

/-- Why a command fails. -/
inductive Failure where
  | setup (e : SetupError)
  | collection (e : CollectionError)
  | json (fault : Json.Fault)

/-- What the program leaves behind: its status, and what it printed if it was used rightly. -/
inductive Outcome where
  | usage
  | success (output : String)
  | failure (reason : Failure)

def programName : String := "collbridge"

def version : String := "0.1.0"

def registrars : List Registrar := [Vavr.registrar]

def unlines (lines : List String) : String := String.join (lines.map (· ++ "\n"))

def typesTable (r : Registry) : List String :=
  let row (role : String) (t : Ty) : List String :=
    [t.name, role, if r.paginationTypes.any (· == t) then "yes" else ""]
  Table.render
    (["Type", "Role", "Pagination"] ::
      (r.mapTypes.map (row "map") ++ r.collectionTypes.map (row "collection")))

def types (r : Registry) (json : Bool) : List String :=
  if json then [r.report.toJson.pretty]
  else if r.registrars.isEmpty then ["No collection registrars available."]
  else ("Registrars: " ++ ", ".intercalate r.registrarIds) :: typesTable r

def boolText (b : Bool) : String := if b then "true" else "false"

def classify (r : Registry) (name : String) : Except Failure (List String) := do
  let t ← (r.lookup name).mapError .collection
  let c := r.classify t
  .ok
    (["Type:        " ++ c.typeName,
      "Custom:      " ++ boolText c.isCustom,
      "Map:         " ++ boolText c.isMap,
      "Collection:  " ++ boolText c.isCollection] ++
      (c.mapBaseType.map ("Map base:    " ++ ·)).toList)

/-- Converts the value that a JSON text stands for. -/
def convertText (r : Registry) (target : Ty) (text : String) : Except Failure Value := do
  let json ← (Json.parse text).mapError .json
  let value ← (Value.ofJson json).mapError .collection
  (r.ruleBook.convert value target).mapError .collection

def convertedJson (value : Value) : Json :=
  .object [("type", .text value.runtimeType.name), ("value", value.toJson)]

def convert (r : Registry) (name text : String) : Except Failure (List String) := do
  let target ← (r.lookup name).mapError .collection
  let value ← convertText r target text
  .ok [(convertedJson value).pretty]

def schema : List String :=
  ["Registry report (collbridge types --json):", Schema.report.pretty, "",
   "Type classification:", Schema.classification.pretty]

def Command.run (r : Registry) : Command → Except Failure (List String)
  | .types json => .ok (Cli.types r json)
  | .classify type => Cli.classify r type
  | .convert type json => Cli.convert r type json
  | .schema => .ok Cli.schema

/-- Runs the program. -/
def run (env : Environment) (args : List String) : Outcome :=
  match Request.parse args with
  | none => .usage
  | some .version => .success (unlines [programName ++ " " ++ version])
  | some (.command c) =>
    match env.registry registrars with
    | .error e => .failure (.setup e)
    | .ok r =>
      match c.run r with
      | .ok lines => .success (unlines lines)
      | .error e => .failure e

namespace Failure

/-- The complaint on the error output. Why a JSON text is refused is left open, and so is how
the complaint ends then. -/
def text : Failure → String
  | setup (.json fault) => "Error: " ++ (SetupError.json fault).inspect
  | setup e => "Error: " ++ e.inspect ++ "\n"
  | collection e => "Error: " ++ e.inspect ++ "\n"
  | json _ => "Error: Error(*)"

end Failure

namespace Outcome

def status : Outcome → Nat
  | success _ => 0
  | failure _ => 1
  | usage => 2

end Outcome

end ForeignCollections.Cli
