import HealthWatch.NameMap
import HealthWatch.Text.Quoted

/-!
# The registry

The registry holds one handle under each name that was registered, and
remembers whether it has been closed.  A handle is known by its number.
Registering a name again hands the old handle back; closing takes nothing out.
-/

namespace HealthWatch

/-- Handles by name. -/
structure Registry where
  handles : NameMap Nat
  closed : Bool

namespace Registry

/-- A registry without names. -/
def empty : Registry := ⟨.empty, false⟩

/-- Puts a handle under a name.  The handle that was there is handed back. -/
def register (r : Registry) (name : String) (handle : Nat) : Option Nat × Registry :=
  (r.handles.get? name, { r with handles := r.handles.insert name handle })

/-- The handle under a name. -/
def get? (r : Registry) (name : String) : Option Nat := r.handles.get? name

/-- Every name with its handle. -/
def all (r : Registry) : List (String × Nat) := r.handles.entries

/-- The names in increasing order. -/
def names (r : Registry) : List String := r.handles.names

/-- How many names there are. -/
def size (r : Registry) : Nat := r.handles.size

/-- Whether there is no name. -/
def isEmpty (r : Registry) : Bool := r.handles.isEmpty

/-- One line that shows the names and whether the registry has been closed. -/
def summary (r : Registry) : String :=
  "DependencyRegistry \x7b dependencies: " ++ Text.quotedList r.names ++ ", closed: " ++
    (if r.closed then "true" else "false") ++ " \x7d"

end Registry

end HealthWatch
