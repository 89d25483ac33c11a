import EngineSync.Event
import EngineSync.Text.Outline

/-!
# The event bus

Listeners subscribe to a kind of event and are called in the order in which they subscribed.  A
subscription is known by a number that is never used again, so taking one away leaves every other
one in its place.  A delivery goes to those who were subscribed when it began; whoever subscribes or
leaves meanwhile makes no difference to it.
-/
namespace EngineSync

/-- The number of a subscription. -/
abbrev SubscriptionId := Nat

/-- A listener and what it waits for. -/
structure Subscription (α : Type) where
  id : SubscriptionId
  kind : EventKind
  listener : α
deriving DecidableEq, Repr, Inhabited

/-- The listeners, in the order in which they subscribed. -/
structure EventBus (α : Type) where
  nextId : SubscriptionId
  subscriptions : List (Subscription α)
deriving DecidableEq, Repr, Inhabited

namespace EventBus
variable {α : Type}

/-- A bus without listeners. -/
def empty : EventBus α :=
  ⟨0, []⟩

/-- Adds a listener behind all others. -/
def subscribe (bus : EventBus α) (kind : EventKind) (listener : α) : EventBus α × SubscriptionId :=
  (⟨bus.nextId + 1, bus.subscriptions ++ [⟨bus.nextId, kind, listener⟩]⟩, bus.nextId)

/-- Takes a subscription away. -/
def unsubscribe (bus : EventBus α) (id : SubscriptionId) : EventBus α :=
  { bus with subscriptions := bus.subscriptions.filter (·.id ≠ id) }

/-- The subscriptions to a kind, in order. -/
def subscribers (bus : EventBus α) (kind : EventKind) : List (Subscription α) :=
  bus.subscriptions.filter (·.kind = kind)

/-- How many listeners a kind has. -/
def count (bus : EventBus α) (kind : EventKind) : Nat :=
  (bus.subscribers kind).length

/-- The outline of a bus. -/
def outline (bus : EventBus α) : String :=
  Text.outline "EventBus" [("listeners", Decimal.natural bus.subscriptions.length)] false

end EventBus

/-- The label of a handle that ends a subscription. -/
def EventKind.subscriptionLabel (kind : EventKind) : String :=
  "subscription:" ++ kind.name

/-- An event under delivery: the call that is under way, if any, and who comes after it. -/
structure Delivery (α β : Type) where
  event : Event
  current : Option β
  waiting : List (Subscription α)
deriving DecidableEq, Repr, Inhabited

/-- The delivery of an event to those who are subscribed now. -/
def EventBus.deliver {α β : Type} (bus : EventBus α) (event : Event) : Delivery α β :=
  ⟨event, none, bus.subscribers event.kind⟩

end EngineSync
