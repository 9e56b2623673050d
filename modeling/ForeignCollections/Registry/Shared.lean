import ForeignCollections.Config.Environment

/-!
The registry that a process shares. It is published at most once; whoever comes later meets
the same one, and an initialiser that fails leaves nothing behind.
-/

namespace ForeignCollections

/-- The shared registry, if one has been published. -/
structure SharedRegistry where
  published : Option Registry

/-- What comes of asking for the shared registry with an initialiser at hand. -/
structure Access (ε : Type) where
  result : Except ε Registry
  ran : Bool
  state : SharedRegistry

namespace SharedRegistry

def unpublished : SharedRegistry := ⟨none⟩

/-- Publishes a registry and gives back the shared one; if one is published already, the new
one is rejected and given back as the error. -/
def publish (s : SharedRegistry) (r : Registry) : Except Registry Registry × SharedRegistry :=
  match s.published with
  | none => (.ok r, ⟨some r⟩)
  | some _ => (.error r, s)

/-- The shared registry; if there is none, the one that the initialiser makes, which is
published. -/
def getOrInit {ε : Type} (s : SharedRegistry) (init : Unit → Except ε Registry) : Access ε :=
  match s.published with
  | some r => ⟨.ok r, false, s⟩
  | none =>
    match init () with
    | .ok r => ⟨.ok r, true, ⟨some r⟩⟩
    | .error e => ⟨.error e, true, s⟩

def getOrSetUp (s : SharedRegistry) (env : Environment) (registrars : List Registrar) :
    Access SetupError :=
  s.getOrInit fun _ => env.registry registrars

end SharedRegistry

end ForeignCollections
