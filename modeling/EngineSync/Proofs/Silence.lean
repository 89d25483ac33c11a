import EngineSync.Proofs.PastWorld

/-!
# What nobody reads

The journal is written and never read, and the open documents are read only when an activation
starts or is ready.  So a call does the same whatever the journal says (`World.silent_poll`), and,
unless it activates, whatever documents are open (`World.bare_poll`).  Both are cases of a past that
holds nothing else (`Past.mere`).
-/
namespace EngineSync

/-! ## Numbers that are not ahead -/

/-- Every number is the same. -/
def Shift.zero : Shift where
  session := 0
  collection := 0
  handle := 0
  gate := 0
  activation := 0
  ticket := 0
  outside := 0
  seats := 0
  number id := id
  number_injective _ _ same := same
  number_succ _ _ := rfl

namespace Shift

@[simp] theorem zero_engineCall : zero.engineCall = id := by
  funext call
  cases call <;> simp [engineCall, zero]

@[simp] theorem zero_ticketAt : zero.ticketAt = id := by
  funext ticket
  simp [ticketAt, zero]

@[simp] theorem zero_sessionState : zero.sessionState = id := by
  funext session
  simp [sessionState, zero]

@[simp] theorem zero_release : zero.release = id := by
  funext release
  cases release <;> simp [Shift.release, zero]

@[simp] theorem zero_handleAt : zero.handleAt = id := by
  funext handle
  simp [handleAt]

@[simp] theorem zero_handles : zero.handles = id := by
  funext ids
  simp [handles, zero]

@[simp] theorem zero_formattingGate : zero.formattingGate = id := by
  funext gate
  simp [formattingGate, featureGate]

@[simp] theorem zero_listener : zero.listener = id := by
  funext listener
  cases listener <;> simp [Shift.listener, zero]

@[simp] theorem zero_subscription : zero.subscription = id := by
  funext sub
  simp [subscription, show zero.number = id from rfl]

@[simp] theorem zero_route : zero.route = id := by
  funext call
  cases call <;> simp [route, zero]

@[simp] theorem zero_forwarding : zero.forwarding = id := by
  funext ⟨doc, closes, stage⟩
  cases stage <;> simp [Shift.forwarding, forwardingStage, zero]

@[simp] theorem zero_replay : zero.replay = id := by
  funext replay
  simp [Shift.replay]

@[simp] theorem zero_syncCall : zero.syncCall = id := by
  funext call
  cases call <;> simp [syncCall]

@[simp] theorem zero_activationAt : zero.activationAt = id := by
  funext activation
  simp [activationAt]
  simp [zero]

@[simp] theorem zero_listenerCall : zero.listenerCall = id := by
  funext call
  rcases call with ⟨id, stage⟩ | number
  · cases stage <;> simp [listenerCall, listenerStage] <;> simp [zero]
  · simp [listenerCall, zero]

@[simp] theorem zero_call : zero.call = id := by
  funext call
  rcases call with ⟨name, stage⟩ | stage | ⟨id, call⟩
  · cases stage <;> simp [Shift.call, activateStage] <;> simp [zero]
  · cases stage <;> simp [Shift.call, publishStage]
  · simp [Shift.call]
    simp [zero]

@[simp] theorem zero_move : zero.move = id := by
  funext move
  cases move <;> simp [Shift.move, zero]

@[simp] theorem zero_entry : zero.entry = id := by
  funext entry
  simp [Shift.entry, zero]

end Shift

/-! ## A past of nothing but a journal -/

/-- Nothing was there but a journal, and other documents may be open. -/
def Past.mere (journal : Journal) (documents : List Document → List Document) : Past where
  calls := []
  completed := []
  tickets := 0
  sessions := []
  handles := []
  gates := []
  collections := []
  ledger := .empty
  journal := journal
  activations := []
  outsideCalls := 0
  answers answers := answers
  documents := documents
  seats := 0
  number id := id
  number_injective _ _ same := same
  number_succ _ _ := rfl

namespace World

/-- The world with another journal and other open documents. -/
def redress (world : World) (journal : Journal) (docs : List Document) : World :=
  { world with env := { world.env with journal, openDocuments := docs } }

@[simp] theorem mere_shift (journal : Journal) (documents : List Document → List Document) :
    (Past.mere journal documents).shift = .zero := rfl

theorem mere_world (world : World) (journal : Journal) (documents : List Document → List Document) :
    (Past.mere journal documents).world world =
      world.redress (journal ++ world.env.journal) (documents world.env.openDocuments) := by
  simp only [Past.world, Past.environment, Past.engine, Past.table, Past.bus, Past.ledgerAfter,
    mere_shift,
    Shift.zero_engineCall, Shift.zero_ticketAt, Shift.zero_sessionState, Shift.zero_handleAt,
    Shift.zero_subscription, Shift.zero_formattingGate, Shift.zero_activationAt, Shift.zero_entry,
    List.map_id, redress]
  simp [Past.mere, Shift.zero, Ledger.empty]

/-- The world without its journal. -/
def silent (world : World) : World :=
  world.redress [] world.env.openDocuments

/-- The world without its journal and the open documents. -/
def bare (world : World) : World :=
  world.redress [] []

/-- What a bare world is without: the journal and the open documents. -/
def dress (world : World) : Past :=
  Past.mere world.env.journal fun _ => world.env.openDocuments

@[simp] theorem dress_shift (world : World) : world.dress.shift = .zero := rfl

variable {world world' : World} {call : Call} {calls : List Call}

theorem Sound.redress (h : Sound world calls) (journal : Journal) (docs : List Document) :
    Sound (world.redress journal docs) calls := by
  have noted := h.plain (.single (.journal world.env journal))
  exact ⟨noted.owned.outside world.env.files world.env.source docs, { noted.orderly with }⟩

theorem Sound.of_silent (same : world.silent = world'.silent) (h : Sound world' calls) :
    Sound world calls := by
  have heard := (h.redress [] world'.env.openDocuments).redress world.env.journal
    world.env.openDocuments
  rw [show world'.redress [] world'.env.openDocuments = world.silent from same.symm] at heard
  exact heard

end World

theorem Progress.map_self {κ ρ : Type} (progress : Progress κ ρ) :
    progress.map id (fun result => result) = progress := by
  cases progress <;> rfl

namespace World
variable {world world' : World} {call : Call} {calls : List Call}

theorem mere_hears (journal : Journal) (documents : List Document → List Document) (world : World) :
    (Past.mere journal documents).Hears world := by
  intro call
  rw [mere_shift, show Shift.zero.outside = 0 from rfl, Nat.zero_add]
  rfl

theorem mere_admits (journal : Journal) (documents : List Document → List Document)
    (world : World) {move : WorldMove}
    (keeps : ∀ docs, move = .documents docs → documents docs = docs) :
    (Past.mere journal documents).Admits world move := by
  cases move with
  | report => exact fun _ => rfl
  | documents docs => exact keeps docs rfl
  | answer call result =>
    rw [Past.Admits, mere_shift, show Shift.zero.outside = 0 from rfl, Nat.zero_add]
    rfl
  | _ => trivial

/-! ## The journal -/

/-- A world is what it is without its journal, and the journal. -/
theorem mere_silent (world : World) :
    (Past.mere world.env.journal id).world world.silent = world := by
  rw [mere_world]
  simp [silent, redress]

theorem silent_mere (journal : Journal) (world : World) :
    ((Past.mere journal id).world world).silent = world.silent := by
  rw [mere_world]
  rfl

/-- **Nobody reads the journal**: a chance is what it is without it. -/
theorem silent_poll (sound : Sound world (call :: calls)) :
    (world.poll call).2 = (world.silent.poll call).2 ∧
      (world.poll call).1.silent = (world.silent.poll call).1.silent := by
  have polled := (Past.mere world.env.journal id).world_poll world.silent (mere_hears _ _ _)
    (Nat.zero_le _) call (fun _ _ _ _ => rfl) (sound.redress _ _)
  rw [mere_silent, mere_shift, Shift.zero_call, id] at polled
  rw [polled]
  exact ⟨Progress.map_self _, silent_mere _ _⟩

theorem silent_cancel (sound : Sound world (call :: calls)) :
    (world.cancel call).silent = (world.silent.cancel call).silent := by
  have cancelled := (Past.mere world.env.journal id).world_cancel world.silent call
    (sound.redress _ _)
  rw [mere_silent, mere_shift, Shift.zero_call, id] at cancelled
  rw [cancelled]
  exact silent_mere _ _

theorem silent_surround (sound : Sound world calls) (move : WorldMove) :
    (world.surround move).silent = (world.silent.surround move).silent := by
  have moved := (Past.mere world.env.journal id).world_surround world.silent (Nat.zero_le _)
    (sound.redress [] world.env.openDocuments) move (mere_admits _ _ _ fun _ _ => rfl)
  rw [mere_silent, mere_shift, Shift.zero_move, id] at moved
  rw [moved]
  exact silent_mere _ _

/-! ## The open documents -/

/-- A world is what it is without its journal and the open documents, dressed in these. -/
theorem dress_bare (world : World) : world.dress.world world.bare = world := by
  rw [dress, mere_world]
  simp [bare, redress]

theorem bare_mere (journal : Journal) (documents : List Document → List Document) (world : World) :
    ((Past.mere journal documents).world world).bare = world.bare := by
  rw [mere_world]
  rfl

/-- Past the start of an activation, nobody reads the open documents. -/
theorem bare_poll (sound : Sound world (call :: calls))
    (elsewhere : ∀ name stage, call ≠ .activate name stage) :
    (world.poll call).2 = (world.bare.poll call).2 ∧
      (world.poll call).1.bare = (world.bare.poll call).1.bare := by
  have polled := world.dress.world_poll world.bare (mere_hears _ _ _) (Nat.zero_le _) call
    (fun name stage same => absurd same (elsewhere name stage)) (sound.redress _ _)
  rw [dress_bare, dress_shift, Shift.zero_call, id] at polled
  rw [polled]
  exact ⟨Progress.map_self _, bare_mere _ _ _⟩

theorem bare_cancel (sound : Sound world (call :: calls)) :
    (world.cancel call).bare = (world.bare.cancel call).bare := by
  have cancelled := world.dress.world_cancel world.bare call (sound.redress _ _)
  rw [dress_bare, dress_shift, Shift.zero_call, id] at cancelled
  rw [cancelled]
  exact bare_mere _ _ _

theorem bare_surround (sound : Sound world calls) (move : WorldMove) :
    (world.surround move).bare = (world.bare.surround move).bare := by
  by_cases documents : ∃ docs, move = .documents docs
  · obtain ⟨docs, rfl⟩ := documents
    rfl
  · have moved := world.dress.world_surround world.bare (Nat.zero_le _) (sound.redress [] []) move
      (mere_admits _ _ _ fun docs same => absurd ⟨docs, same⟩ documents)
    rw [dress_bare, dress_shift, Shift.zero_move, id] at moved
    rw [moved]
    exact bare_mere _ _ _

end World
end EngineSync
