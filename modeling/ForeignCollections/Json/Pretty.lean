import ForeignCollections.Json.Basic
import ForeignCollections.Json.Text

/-!
The indented form of a JSON value: one item or member to a line, two spaces for each level,
and nothing between the brackets of what is empty.
-/

namespace ForeignCollections.Json

def newline (level : Nat) : List Char := '\n' :: List.replicate (2 * level) ' '

/-- Entries, each on a line of its own at `level + 1`, between two brackets. -/
def block (opening closing : Char) (level : Nat) (entries : List (List Char)) : List Char :=
  match entries with
  | [] => [opening, closing]
  | e :: es =>
    opening :: (newline (level + 1) ++ e ++
      es.flatMap (fun e => ',' :: (newline (level + 1) ++ e)) ++ newline level ++ [closing])

mutual

/-- A value whose lines after the first start at `level`. -/
def prettyAt (level : Nat) : Json → List Char
  | .null => ['n', 'u', 'l', 'l']
  | .bool true => ['t', 'r', 'u', 'e']
  | .bool false => ['f', 'a', 'l', 's', 'e']
  | .number n => n.chars
  | .text s => writtenText s
  | .array items => block '[' ']' level (prettyItems (level + 1) items)
  | .object members => block '{' '}' level (prettyMembers (level + 1) members)

def prettyItems (level : Nat) : List Json → List (List Char)
  | [] => []
  | j :: js => prettyAt level j :: prettyItems level js

def prettyMembers (level : Nat) : List (String × Json) → List (List Char)
  | [] => []
  | (k, j) :: ms =>
    (writtenText k ++ [':', ' '] ++ prettyAt level j) :: prettyMembers level ms

end

def pretty (j : Json) : String := String.ofList (prettyAt 0 j)

end ForeignCollections.Json
