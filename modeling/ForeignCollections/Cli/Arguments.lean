/-!
Arguments of the command line. An argument that starts with a dash and goes on is an option;
after a double dash every argument is an operand. Nothing is taken for granted: an option that
a command does not know, a missing operand or one too many make the whole line unusable.
-/

namespace ForeignCollections.Cli

/-- What the program can be asked to do with a registry. -/
inductive Command where
  | types (json : Bool)
  | classify (type : String)
  | convert (type json : String)
  | schema
  deriving DecidableEq

inductive Request where
  | version
  | command (c : Command)
  deriving DecidableEq

def isOption (arg : String) : Bool :=
  match arg.toList with
  | '-' :: _ :: _ => true
  | _ => false

def operands : List String → Option (List String)
  | [] => some []
  | arg :: rest =>
    if arg = "--" then some rest
    else if isOption arg then none
    else (operands rest).map (arg :: ·)

/-- The arguments of `types`: `--json`, once at most, and no operand. -/
def typesArguments (json : Bool) : List String → Option Command
  | [] => some (.types json)
  | arg :: rest =>
    if arg = "--json" ∧ !json then typesArguments true rest
    else if arg = "--" ∧ rest = [] then some (.types json)
    else none

def Command.parse (name : String) (args : List String) : Option Command :=
  match name with
  | "types" => typesArguments false args
  | "classify" =>
    match operands args with
    | some [type] => some (.classify type)
    | _ => none
  | "convert" =>
    match operands args with
    | some [type, json] => some (.convert type json)
    | _ => none
  | "schema" =>
    match operands args with
    | some [] => some .schema
    | _ => none
  | _ => none

/-- The argument asks for the version: in full, or by its letter whatever follows it. -/
def isVersion (arg : String) : Bool :=
  arg = "--version" ||
    match arg.toList with
    | '-' :: 'V' :: _ => true
    | _ => false

/-- The request of a command line, or none if it cannot be understood. -/
def Request.parse : List String → Option Request
  | [] => none
  | arg :: rest =>
    if isVersion arg then some .version else (Command.parse arg rest).map .command

end ForeignCollections.Cli
