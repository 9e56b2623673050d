import ForeignCollections.Json.Basic
import ForeignCollections.Text.Quoted

/-!
What can go wrong with types, registries and conversions, by cause, and the wording of each.
-/

namespace ForeignCollections

/-- Why a type, a registry or a conversion is refused. -/
inductive CollectionError where
  | blankTypeName
  | mapAndCollection (type : String)
  | unknownType (name : String)
  /-- Only 64-bit integers can become values. -/
  | notIntegral (number : Json.Number)
  /-- A rule or an unwrapper gave this reason of its own. -/
  | refused (reason : String)
  | noMatchingBase (type : String) (candidates : List String)
  | unsupported (type : String)
  /-- A container of type `source` does not make one of type `target`. -/
  | cannotBuild (target source : String)
  | noConverter (source target : String)

namespace CollectionError

inductive Category where
  | invalidArgument
  | noMatchingBaseType
  | unsupportedForeignType
  | noConverter
  deriving DecidableEq

def category : CollectionError → Category
  | blankTypeName | mapAndCollection _ | unknownType _ | notIntegral _ | refused _ =>
    .invalidArgument
  | noMatchingBase _ _ => .noMatchingBaseType
  | unsupported _ | cannotBuild _ _ => .unsupportedForeignType
  | noConverter _ _ => .noConverter

def detail : CollectionError → String
  | blankTypeName => "Type must not be empty"
  | mapAndCollection type =>
    "Type " ++ type ++ " must not be registered as both a map and a collection type"
  | unknownType name => "Unknown type: " ++ name
  | notIntegral number => "Only integral numbers are supported: " ++ number.text
  | refused reason => reason
  | noMatchingBase type candidates =>
    "Type " ++ type ++ " not contained in candidates " ++ Text.quotedList candidates
  | unsupported type => type
  | cannotBuild target source => "cannot build " ++ target ++ " from " ++ source
  | noConverter source target =>
    "No converter found capable of converting from " ++ source ++ " to " ++ target

def message (e : CollectionError) : String :=
  match e.category with
  | .invalidArgument => "Invalid argument: " ++ e.detail
  | .unsupportedForeignType => "Unsupported foreign collection: " ++ e.detail
  | .noMatchingBaseType | .noConverter => e.detail

/-- The form of an error that shows its class and its parts, texts in quotes. -/
def inspect : CollectionError → String
  | noMatchingBase type candidates =>
    "NoMatchingBaseType \x7b type_name: " ++ Text.quoted type ++ ", candidates: " ++
      Text.quotedList candidates ++ " \x7d"
  | noConverter source target =>
    "NoConverter \x7b source_type: " ++ Text.quoted source ++ ", target_type: " ++
      Text.quoted target ++ " \x7d"
  | e =>
    let label :=
      if e.category = .unsupportedForeignType then "UnsupportedForeignType"
      else "InvalidArgument"
    label ++ "(" ++ Text.quoted e.detail ++ ")"

end CollectionError

end ForeignCollections
