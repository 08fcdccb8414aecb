import HostFacets.Search.Body
import HostFacets.Search.Response

/-!
Computations that talk to the search engine.

A dialogue is finished, or asks one request and goes on with the reply. It says nothing about where
replies come from, so whatever is proved of all replies holds of every engine.
-/

namespace HostFacets.Search

structure Request where
  index : String
  body : Body
deriving Repr

inductive Dialogue (α : Type) where
  | done (answer : α)
  | ask (request : Request) (next : Reply → Dialogue α)

namespace Dialogue

def map (f : α → β) : Dialogue α → Dialogue β
  | .done a => .done (f a)
  | .ask request next => .ask request fun reply => (next reply).map f

/-- Holds the dialogue with an engine that has a state; the requests are listed in their order. -/
def run (engine : σ → Request → Reply × σ) (state : σ) : Dialogue α → α × List Request × σ
  | .done a => (a, [], state)
  | .ask request next =>
    let (reply, state) := engine state request
    let (a, requests, state) := (next reply).run engine state
    (a, request :: requests, state)

/-- Changing the answer changes neither the requests nor the engine's state. -/
@[simp] theorem run_map (f : α → β) (engine : σ → Request → Reply × σ) (state : σ)
    (d : Dialogue α) :
    (d.map f).run engine state = (f (d.run engine state).1, (d.run engine state).2) := by
  induction d generalizing state with
  | done a => rfl
  | ask request next ih => simp [map, run, ih]

end Dialogue

end HostFacets.Search
