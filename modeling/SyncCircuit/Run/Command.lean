import SyncCircuit.Run.Basic

/-!
# Commands

The requests that can change a run, as data, so that whole histories can be given as lists.
-/
namespace SyncCircuit

/-- A request that can change a run. -/
inductive Command where
  | advance
  | advanceBy (n : Nat)
  | reset
  | setSwitch (name : String) (value : Bool)
  | addMonitor (ref : OutputRef)
  | removeMonitor (label : String)
deriving DecidableEq, Repr

/-- The answer to a request that was carried out. -/
inductive Reply where
  | done
  | snapshot (s : Snapshot)
  | trace (t : Trace)
deriving DecidableEq, Repr

namespace Step

variable {net : Network} {α β : Type}

/-- Changes the answer of a step. -/
def map (f : α → β) (s : Step net α) : Step net β := ⟨s.answer.map f, s.run, s.events⟩

end Step

namespace Run

variable {net : Network}

/-- Carries out a request. -/
def perform (r : Run net) : Command → Step net Reply
  | .advance => r.advance.map .snapshot
  | .advanceBy n => (r.advanceBy n).map fun _ => .done
  | .reset => r.reset.map fun _ => .done
  | .setSwitch name value => (r.setSwitch name value).map fun _ => .done
  | .addMonitor ref => (r.addMonitor ref).map fun _ => .done
  | .removeMonitor label => (r.removeMonitor label).map .trace

/-- The run after a list of requests. -/
def performAll (r : Run net) (cs : List Command) : Run net :=
  cs.foldl (fun r c => (r.perform c).run) r

@[simp] theorem performAll_nil (r : Run net) : r.performAll [] = r := rfl

@[simp] theorem performAll_cons (r : Run net) (c : Command) (cs : List Command) :
    r.performAll (c :: cs) = (r.perform c).run.performAll cs := rfl

theorem performAll_append (r : Run net) (cs ds : List Command) :
    r.performAll (cs ++ ds) = (r.performAll cs).performAll ds := List.foldl_append

end Run

end SyncCircuit
