import Compaction.Error
import Compaction.Processor
import Compaction.Registry.StageArgs

/-!
# The registry

* `Factory` : builds a processor from arguments;
* `Registry` : factories under names, for the built-in processors or for processors of any other kind;
* `Registry.map` : the registry for processors of another kind, for instance for `AnyProcessor`;
* `Registry.register` : adds a factory under a name that is not taken;
* `Registry.get` : builds the processor under a name;
* `Registry.contains`, `Registry.names` : membership, and the names in ascending order.
-/

namespace Compaction

abbrev Factory (α : Type := Processor) := StageArgs → Except Error α

structure Registry (α : Type := Processor) where
  factories : Table (Factory α) := []

namespace Registry

variable {α β : Type}

def empty : Registry α := {}

def contains (registry : Registry α) (name : String) : Bool := registry.factories.contains name

def names (registry : Registry α) : List String := registry.factories.names

/-- The registry with a factory under a name, whatever was there. -/
def insert (registry : Registry α) (name : String) (factory : Factory α) : Registry α :=
  ⟨registry.factories.insert name factory⟩

/-- The registry in which every processor that is built is turned into one of another kind. -/
def map (f : α → β) (registry : Registry α) : Registry β :=
  ⟨registry.factories.map fun entry => (entry.1, fun args => (entry.2 args).map f)⟩

/-- Adds a factory under a name, and reports it. A name that is taken keeps its factory. -/
def register (registry : Registry α) (name : String) (factory : Factory α) :
    Except Error (Registry α × List Event) :=
  if registry.contains name then .error (.duplicateProcessor name)
  else .ok (registry.insert name factory, [.registered name])

def get (registry : Registry α) (name : String) (args : StageArgs) : Except Error α :=
  match registry.factories.find? name with
  | some factory => factory args
  | none => .error (.unknownProcessor name)

end Registry

end Compaction
