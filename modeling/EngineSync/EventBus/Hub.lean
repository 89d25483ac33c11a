import EngineSync.EventBus
import EngineSync.Handle
import EngineSync.Pending

/-!
# A bus at work

A bus together with the handles of its subscriptions and the calls of its listeners.  A listener that
was called comes back whenever it likes; until then it may subscribe, dispose any handle and publish
events of its own, and so may everybody else.  So a publication goes on one step at a time: it looks
up its listeners, calls the next one, or takes up what the last one came back with.
-/
namespace EngineSync

/-- A call of a listener, by a number that is never used again. -/
structure Calling (α : Type) where
  number : Nat
  subscription : Subscription α
deriving DecidableEq, Repr, Inhabited

/-- A publication under way. -/
inductive Publication (α : Type) where
  | arriving (event : Event)
  | delivering (delivery : Delivery α (Calling α))
deriving DecidableEq, Repr, Inhabited

/-- The listener that a publication has called and not heard of. -/
def Publication.calling? {α : Type} : Publication α → Option (Calling α)
  | .arriving _ => none
  | .delivering delivery => delivery.current

/-- A bus, the handles of its subscriptions, how often listeners were called, and what they came
back with. -/
structure Hub (α ε : Type) where
  bus : EventBus α
  handles : Handles SubscriptionId
  calls : Nat
  answers : List (Nat × Except ε Unit)
deriving Repr, Inhabited

namespace Hub
variable {α ε : Type}

/-- A bus without listeners. -/
def empty : Hub α ε :=
  ⟨.empty, .empty, 0, []⟩

/-- Subscribes a listener; its handle ends the subscription. -/
def subscribe (hub : Hub α ε) (kind : EventKind) (listener : α) : Hub α ε × HandleId :=
  let (bus, id) := hub.bus.subscribe kind listener
  let (handles, handle) := hub.handles.add kind.subscriptionLabel id
  ({ hub with bus, handles }, handle)

/-- Disposes a handle; the label is that of a handle that was live. -/
def dispose (hub : Hub α ε) (handle : HandleId) : Hub α ε × Option String :=
  match hub.handles.pending? handle with
  | none => (hub, none)
  | some (label, id) =>
    ({ hub with bus := hub.bus.unsubscribe id, handles := hub.handles.retire handle }, some label)

/-- A listener comes back from a call, as it does once. -/
def answer (hub : Hub α ε) (call : Nat) (result : Except ε Unit) : Hub α ε :=
  if call < hub.calls ∧ (hub.answers.lookup call).isNone then
    { hub with answers := hub.answers ++ [(call, result)] }
  else hub

/-- Lets a publication go on by one step. -/
def poll (hub : Hub α ε) : Publication α → Hub α ε × Progress (Publication α) (Except ε Unit)
  | .arriving event => (hub, .pending (.delivering (hub.bus.deliver event)))
  | .delivering ⟨_, none, []⟩ => (hub, .finished (.ok ()))
  | .delivering ⟨event, none, next :: waiting⟩ =>
    ({ hub with calls := hub.calls + 1 },
      .pending (.delivering ⟨event, some ⟨hub.calls, next⟩, waiting⟩))
  | .delivering ⟨event, some calling, waiting⟩ =>
    match hub.answers.lookup calling.number with
    | none => (hub, .pending (.delivering ⟨event, some calling, waiting⟩))
    | some (.ok ()) => (hub, .pending (.delivering ⟨event, none, waiting⟩))
    | some (.error failure) => (hub, .finished (.error failure))

end Hub
end EngineSync
