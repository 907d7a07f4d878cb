import Lookout.Source.Memory

/-!
# Runs of the registry in memory

What happens to a registry in memory are calls from outside, lists that begin, and what readers do:
they subscribe, read, cancel and go away. A run is a list of such events in any order.
-/
set_option autoImplicit false

namespace Lookout.Memory

inductive Event where
  | change (c : Change)
  /-- A list of a service begins. -/
  | list (service : String)
  | subscribe (service : String)
  | receive (id : SubscriptionId)
  | cancel (id : SubscriptionId)
  | drop (id : SubscriptionId)

def react (m : Memory) : Event → Memory
  | .change c => m.apply c
  | .list service => m.countList service
  | .subscribe service =>
    match m.subscribe service with
    | .ok (m, _) => m
    | .error _ => m
  | .receive id => (m.receive id).2
  | .cancel id => m.modify id Subscription.cancel
  | .drop id => m.modify id Subscription.drop

def run (m : Memory) (events : List Event) : Memory := events.foldl react m

@[simp]
theorem run_nil (m : Memory) : m.run [] = m := rfl

theorem run_concat (m : Memory) (events : List Event) (e : Event) :
    m.run (events ++ [e]) = (m.run events).react e := by
  simp [run]

end Lookout.Memory
