import EngineSync.Proofs.Bystanders

/-!
# Open documents on their way

While the open documents are replayed, the session hears of nothing else: it has recorded its
creation, its first profile and the updates of the tracked documents, in order, as far as the replay
has come, and at most one call of it is under way.  `Sync.Sending` says so of the way to the
session, and every step of a replay keeps it.
-/
namespace EngineSync

/-- The update of a document, as the engine records it. -/
def Document.updateCall (doc : Document) (session : SessionId) : EngineCall :=
  .request session (.update doc.uri doc.version doc.text)

/-- The documents that a replay has not handed to the engine yet. -/
def Replay.unsent (replay : Replay) : List Document :=
  ((replay.current.toList.filter fun forwarding => !forwarding.isCalling).map (·.doc)) ++
    replay.waiting

/-- How many documents a replay has handed to the engine: those that were forwarded, and the one
whose call is under way. -/
def Replay.issued (replay : Replay) : Nat :=
  replay.forwarded + (replay.current.toList.filter Forwarding.isCalling).length

namespace Engine
variable {engine after : Engine} {session : SessionId}

theorem callsOf_issue (request : Request) : (engine.issue session request).1.callsOf session =
    engine.callsOf session ++ [.request session request] := by
  obtain ⟨granted, permits, issued⟩ := engine.issue_eq session request
  simp [issued, callsOf, EngineCall.session?]

theorem claimsOf_issue (request : Request) : (engine.issue session request).1.claimsOf session =
    engine.claimsOf session ++ [(engine.nextTicket, session, request)] := by
  simp [claimsOf, claims_issue]

theorem isDisposed_issue (request : Request) :
    (engine.issue session request).1.isDisposed session = engine.isDisposed session := by
  obtain ⟨granted, permits, issued⟩ := engine.issue_eq session request
  simp [issued, isDisposed]

/-- An answer changes nothing but the calls under way. -/
theorem collect?_keeps {id : TicketId} {answer : Except EngineFailure Unit}
    (h : engine.collect? id = some (after, answer)) :
    after.callsOf session = engine.callsOf session ∧
      after.claimsOf session = (engine.claimsOf session).filter (·.1 ≠ id) ∧
      after.isDisposed session = engine.isDisposed session := by
  have claims := claims_collect? h
  obtain ⟨ticket, -, -, -, -, rfl⟩ := collect?_eq h
  refine ⟨rfl, ?_, rfl⟩
  rw [claimsOf, claims, claimsOf, List.filter_filter, List.filter_filter]
  exact List.filter_congr fun claim _ => Bool.and_comm _ _

end Engine

namespace Sync

/-- A replay of documents is under way, after some calls about its session. -/
structure Sending (docs : List Document) (before : List EngineCall) (sync : Sync)
    (replay : Replay) : Prop where
  updates : ∀ forwarding ∈ replay.current, forwarding.closes = false
  tracked : ∀ forwarding ∈ replay.current, forwarding.stage ≠ .arriving →
    sync.filter.tracks forwarding.doc = true
  sent : ∃ sent, docs.filter sync.filter.tracks =
      sent ++ replay.unsent.filter sync.filter.tracks ∧ sent.length = replay.issued ∧
    sync.engine.callsOf sync.session = before ++ sent.map (·.updateCall sync.session)
  claims : (sync.engine.claimsOf sync.session).Sublist
    (replay.current.toList.filterMap fun forwarding => forwarding.ticket?.map fun ticket =>
      (ticket, sync.session, forwarding.request))
  disposed : sync.engine.isDisposed sync.session = false
  total : replay.total = docs.length

/-- What becomes of such a replay: it goes on, or every tracked document was sent and answered, or
the engine refused the last one that was sent. -/
def Sends (docs : List Document) (before : List EngineCall) (sync : Sync) :
    Progress Replay (Except EngineFailure Nat) → Prop
  | .pending replay => Sending docs before sync replay
  | .finished (.ok count) => count = (docs.filter sync.filter.tracks).length ∧
    sync.engine.callsOf sync.session =
      before ++ (docs.filter sync.filter.tracks).map (·.updateCall sync.session) ∧
    sync.engine.claimsOf sync.session = []
  | .finished (.error _) => sync.engine.isDisposed sync.session = false ∧
    ∃ sent, sent <+: docs.filter sync.filter.tracks ∧
      sync.engine.callsOf sync.session = before ++ sent.map (·.updateCall sync.session)

variable {docs : List Document} {before : List EngineCall} {sync after : Sync} {replay : Replay}
  {moves : List LaneMove} {progress : Progress Replay (Except EngineFailure Nat)}

theorem Sending.go {forwarding : Forwarding} {rest : List Document} {forwarded total : Nat}
    {result : Progress Forwarding ForwardingResult}
    (h : Sending docs before sync ⟨some forwarding, rest, forwarded, total⟩)
    (hop : Hop sync forwarding moves after result) :
    Sends docs before after (continued rest forwarded total result) := by
  have closes := h.updates forwarding rfl
  obtain ⟨sent, split, count, calls⟩ := h.sent
  cases hop with
  | skip arriving untracked =>
    have quiet : sync.engine.claimsOf sync.session = [] := by
      simpa [Forwarding.ticket?, arriving] using h.claims
    rw [if_neg (by simp [closes])]
    refine ⟨by simp, by simp, ⟨sent, ?_, ?_, calls⟩, ?_, h.disposed, h.total⟩
    · simpa [Replay.unsent, Forwarding.isCalling, arriving, untracked, log] using split
    · simpa [Replay.issued, Forwarding.isCalling, arriving, Replay.countOne] using count
    · show (sync.engine.claimsOf sync.session).Sublist _
      rw [quiet]
      exact List.nil_sublist _
  | reach arriving tracked entered =>
    refine ⟨fun _ same => ?_, fun _ same _ => ?_, ⟨sent, ?_, ?_, calls⟩, ?_, h.disposed, h.total⟩
    · cases same
      exact closes
    · cases same
      exact tracked
    · simpa [Replay.unsent, Forwarding.isCalling, arriving] using split
    · simpa [Replay.issued, Forwarding.isCalling, arriving] using count
    · simpa [Forwarding.ticket?, arriving] using h.claims
  | refuse queued holds disposed =>
    rw [h.disposed] at disposed
    cases disposed
  | @issue lane turn queued holds open' =>
    have tracked := h.tracked forwarding rfl (by simp [queued])
    have quiet : sync.engine.claimsOf sync.session = [] := by
      simpa [Forwarding.ticket?, queued] using h.claims
    have request : forwarding.request = .update forwarding.doc.uri forwarding.doc.version
        forwarding.doc.text := by
      simp [Forwarding.request, closes]
    refine ⟨fun _ same => ?_, fun _ same _ => ?_, ⟨sent ++ [forwarding.doc], ?_, ?_, ?_⟩, ?_, ?_,
      h.total⟩
    · cases same
      exact closes
    · cases same
      exact tracked
    · simpa [Replay.unsent, Forwarding.isCalling, queued, tracked, log] using split
    · simpa [Replay.issued, Forwarding.isCalling, queued, List.filter] using count
    · show (sync.engine.issue sync.session forwarding.request).1.callsOf sync.session = _
      rw [Engine.callsOf_issue, calls, request]
      simp [Document.updateCall, log]
    · show ((sync.engine.issue sync.session forwarding.request).1.claimsOf sync.session).Sublist _
      have number : (sync.engine.issue sync.session forwarding.request).2 =
          sync.engine.nextTicket := by
        obtain ⟨granted, permits, issued⟩ :=
          sync.engine.issue_eq sync.session forwarding.request
        rw [issued]
      rw [Engine.claimsOf_issue, quiet, number]
      exact List.Sublist.refl _
    · exact (Engine.isDisposed_issue forwarding.request).trans h.disposed
  | @collect lane turn ticket engine answer calling collected =>
    obtain ⟨same, fewer, disposed⟩ := @Engine.collect?_keeps _ _ sync.session _ _ collected
    have quiet : engine.claimsOf sync.session = [] := by
      have own : (sync.engine.claimsOf sync.session).Sublist
          [(ticket, sync.session, forwarding.request)] := by
        simpa [Forwarding.ticket?, calling] using h.claims
      rw [fewer]
      exact List.sublist_nil.mp (by simpa using own.filter (·.1 ≠ ticket))
    cases answer with
    | error failure => exact ⟨disposed.trans h.disposed, sent, ⟨_, split.symm⟩, same.trans calls⟩
    | ok taken =>
      refine ⟨by simp, by simp, ⟨sent, ?_, ?_, same.trans calls⟩, ?_,
        disposed.trans h.disposed, h.total⟩
      · simpa [Replay.unsent, Forwarding.isCalling, calling, depart] using split
      · simpa [Replay.issued, Forwarding.isCalling, calling, Replay.countOne] using count
      · show (engine.claimsOf sync.session).Sublist _
        rw [quiet]
        exact List.nil_sublist _

theorem Sending.hop (h : Sending docs before sync replay)
    (hop : ReplayHop sync replay moves after progress) : Sends docs before after progress := by
  obtain ⟨sent, split, count, calls⟩ := h.sent
  cases hop with
  | next doc rest forwarded total =>
    refine ⟨fun _ same => ?_, fun _ same off => ?_, ⟨sent, ?_, ?_, calls⟩, h.claims, h.disposed,
      h.total⟩
    · cases same
      rfl
    · cases same
      exact absurd rfl off
    · simpa [Replay.unsent, Forwarding.isCalling, Forwarding.update] using split
    · simpa [Replay.issued, Forwarding.isCalling, Forwarding.update] using count
  | go hop => exact h.go hop
  | done forwarded total =>
    have all : docs.filter sync.filter.tracks = sent := by simpa [Replay.unsent] using split
    refine ⟨?_, ?_, List.sublist_nil.mp h.claims⟩
    · show forwarded = (docs.filter sync.filter.tracks).length
      rw [all, count]
      rfl
    · show sync.engine.callsOf sync.session = _
      rw [calls, ← all]
      rfl

/-- **A chance leaves a replay as it should be.** -/
theorem Sending.poll (h : Sending docs before sync replay) :
    Sends docs before (sync.pollReplay replay).1 (sync.pollReplay replay).2 := by
  have chain := sync.pollReplay_hops replay
  revert h
  generalize (sync.pollReplay replay).1 = after, (sync.pollReplay replay).2 = progress,
    sync.callMoves (.replay replay) = moves at chain
  intro h
  induction chain with
  | rest => exact h
  | finish hop => exact h.hop hop
  | step hop _ ih => exact ih (h.hop hop)

/-- Only the calls of the session matter, and what is left of those under way. -/
theorem Sending.mono (h : Sending docs before sync replay) (session : after.session = sync.session)
    (filter : after.filter = sync.filter)
    (calls : after.engine.callsOf sync.session = sync.engine.callsOf sync.session)
    (claims : (after.engine.claimsOf sync.session).Sublist (sync.engine.claimsOf sync.session))
    (disposed : after.engine.isDisposed sync.session = sync.engine.isDisposed sync.session) :
    Sending docs before after replay := by
  refine ⟨h.updates, ?_, ?_, ?_, ?_, h.total⟩
  · rw [filter]
    exact h.tracked
  · rw [filter, session, calls]
    exact h.sent
  · rw [session]
    exact claims.trans h.claims
  · rw [session, disposed]
    exact h.disposed

end Sync

namespace World

/-! ## From the first profile to the end of a replay -/

/-- What a session records before anything else. -/
def opening (session : SessionId) (settings : Settings) : List EngineCall :=
  [.create session, .request session (.configure settings.profile)]

/-- A session was created for a snapshot of the settings, right after its module was loaded and
right before it got its first profile. -/
structure Begun (world : World) (history : List WorldNote) (session : SessionId)
    (settings : Settings) : Prop where
  noted : .began session settings ∈ history
  block : ∃ size, .load size :: opening session settings <:+: world.env.engine.calls

/-- A session waits for the answer to its first profile. -/
structure Configuring (world : World) (history : List WorldNote) (session : SessionId)
    (settings : Settings) (ticket : TicketId) : Prop where
  begun : Begun world history session settings
  calls : world.env.engine.callsOf session = opening session settings
  claims : (world.env.engine.claimsOf session).Sublist
    [(ticket, session, .configure settings.profile)]
  disposed : world.env.engine.isDisposed session = false

/-- The open documents of an activation are on their way. -/
structure Replaying (world : World) (history : List WorldNote) (id : ActivationId)
    (settings : Settings) (replay : Replay) : Prop where
  begun : Begun world history (world.activation id).session settings
  sending : ∃ docs, .subscribed id docs ∈ history ∧
    Sync.Sending docs (opening (world.activation id).session settings) (world.sync id) replay
  gate : (world.env.gate (world.activation id).gate).isEnabled = settings.formatting

/-- What is known of the calls that activate. -/
def Told (world : World) (history : List WorldNote) : Call → Prop
  | .activate _ (.configuring _ session settings ticket) =>
    Configuring world history session settings ticket
  | .activate _ (.replaying id settings replay) => Replaying world history id settings replay
  | _ => True

variable {world world' : World} {history history' : List WorldNote} {session : SessionId}
  {settings : Settings} {ticket : TicketId} {id : ActivationId} {replay : Replay}
  {name : String} {call : Call} {calls : List Call}

theorem Begun.mono (h : Begun world history session settings) (more : history ⊆ history')
    (later : world.env.engine.calls <+: world'.env.engine.calls) :
    Begun world' history' session settings := by
  obtain ⟨size, block⟩ := h.block
  exact ⟨more h.noted, size, block.trans later.isInfix⟩

theorem Configuring.mono (h : Configuring world history session settings ticket)
    (more : history ⊆ history') (later : world.env.engine.calls <+: world'.env.engine.calls)
    (quiet : Environment.Quiet session world.env world'.env) :
    Configuring world' history' session settings ticket where
  begun := h.begun.mono more later
  calls := quiet.calls.trans h.calls
  claims := quiet.claims.trans h.claims
  disposed := quiet.disposed.trans h.disposed

theorem Replaying.mono (h : Replaying world history id settings replay)
    (more : history ⊆ history') (later : world.env.engine.calls <+: world'.env.engine.calls)
    (rests : Rests id world world') : Replaying world' history' id settings replay := by
  obtain ⟨docs, noted, sending⟩ := h.sending
  refine ⟨?_, ⟨docs, more noted, ?_⟩, rests.isEnabled.trans h.gate⟩
  · rw [rests.activation]
    exact h.begun.mono more later
  · rw [rests.activation]
    have same : world'.sync id = (world.activation id).sync world'.env := by
      rw [World.sync, rests.activation]
    rw [same]
    exact sending.mono rfl rfl rests.quiet.calls rests.quiet.claims rests.quiet.disposed

/-! ## Other calls and moves -/

theorem Told.other (h : Sound world (call :: calls)) {other : Call} (mem : other ∈ calls)
    (told : Told world history other) (more : history ⊆ history')
    (edits : Environment.Edits (.sessions (Sound.Busy world call)) world.env world'.env)
    (rests : ∀ id < world.activations.length, (world.activation id).barrier ≠ .open →
      call.replaying? ≠ some id → Rests id world world') : Told world' history' other := by
  have later := (Environment.Edits.evolves edits).calls
  match other with
  | .activate name (.configuring collection session settings ticket) =>
    have newborn : (collection, session) ∈ calls.filterMap Call.newborn? :=
      List.mem_filterMap.mpr ⟨_, mem, rfl⟩
    exact Configuring.mono told more later (h.quiet_newborn newborn edits)
  | .activate name (.replaying id settings replay) =>
    have lt : id < world.activations.length :=
      h.orderly.ids_lt _ (List.mem_cons_of_mem _ mem) id List.mem_cons_self
    have waits := (h.orderly.replaying id
      (List.mem_filterMap.mpr ⟨_, List.mem_cons_of_mem _ mem, rfl⟩)).1
    have closed : (world.activation id).barrier ≠ .open := by
      rw [waits]
      nofun
    exact Replaying.mono told more later (rests id lt closed (h.replays_once mem rfl))
  | .activate name .arriving | .publish stage | .sync id call => trivial

theorem Told.surround (h : Sound world calls) (mem : call ∈ calls)
    (told : Told world history call) (move : WorldMove) :
    Told (world.surround move) history call := by
  have later := h.calls_surround move
  match call with
  | .activate name (.configuring collection session settings ticket) =>
    have newborn : (collection, session) ∈ calls.filterMap Call.newborn? :=
      List.mem_filterMap.mpr ⟨_, mem, rfl⟩
    exact Configuring.mono told (List.Subset.refl _) later (h.quiet_surround newborn move)
  | .activate name (.replaying id settings replay) =>
    have lt : id < world.activations.length := h.orderly.ids_lt _ mem id List.mem_cons_self
    have waits := (h.orderly.replaying id (List.mem_filterMap.mpr ⟨_, mem, rfl⟩)).1
    have closed : (world.activation id).barrier ≠ .open := by
      rw [waits]
      nofun
    exact Replaying.mono told (List.Subset.refl _) later (h.rests_surround_closed lt closed move)
  | .activate name .arriving | .publish stage | .sync id call => trivial

/-! ## The call itself -/

theorem Configuring.start (h : Sound world calls) {env env' : Environment}
    (opened : world.prepared.openSession world.modulePath
      (some world.env.collections.length) = (env, .ok session))
    (applied : env.applyProfile session settings.profile = (env', .ok ticket)) :
    Configuring { world with env := env' } (history ++ [.began session settings]) session settings
      ticket := by
  obtain ⟨created, -, size, granted, permits, journal, made⟩ := began_eq opened applied
  obtain ⟨calls, claims⟩ := h.owned.unborn session (Nat.le_of_eq created.symm)
  have recorded : env'.engine.calls = world.env.engine.calls ++
      .load size :: opening session settings := by
    rw [made]
    rfl
  refine ⟨⟨by simp, size, ?_⟩, ?_, ?_, ?_⟩
  · show _ <:+: env'.engine.calls
    rw [recorded]
    exact (List.suffix_append _ _).isInfix
  · show env'.engine.calls.filter _ = _
    rw [recorded, List.filter_append]
    have none : world.env.engine.calls.filter (·.session? = some session) = [] := calls
    rw [none]
    simp [opening, EngineCall.session?]
  · have claim : env'.engine.claimsOf session = world.env.engine.claimsOf session ++
        [(ticket, session, .configure settings.profile)] := by
      rw [made]
      simp [Engine.claimsOf, Engine.claims, Ticket.claim]
    show (env'.engine.claimsOf session).Sublist _
    rw [claim, claims]
    exact List.Sublist.refl _
  · show env'.engine.isDisposed session = false
    rw [made, created]
    simp [Engine.isDisposed]

theorem sync_putSync (lt : id < world.activations.length) {sync : Sync}
    (session : sync.session = (world.activation id).session)
    (filter : sync.filter = (world.activation id).filter) :
    (world.putSync id sync).sync id = sync := by
  have own : (world.putSync id sync).activation id =
      { world.activation id with lanes := sync.lanes } := by
    refine (activation_setActivation _ id id _).trans ?_
    exact if_pos ⟨rfl, lt⟩
  rw [World.sync, own, Activation.sync, ← session, ← filter]
  rfl

theorem Configuring.subscribe {collection : CollectionId} {env : Environment}
    (h : Sound world (.activate name (.configuring collection session settings ticket) :: calls))
    (told : Configuring world history session settings ticket)
    (collected : world.env.collectProfile? settings.profile ticket = some (env, .ok ())) :
    Replaying (World.welcome { world with env } collection session settings)
      (history ++ [.subscribed world.activations.length world.env.openDocuments])
      world.activations.length settings (.start world.env.openDocuments) := by
  obtain ⟨⟨engine, answer⟩, found, he⟩ := Option.map_eq_some_iff.mp collected
  obtain ⟨same, fewer, open'⟩ := @Engine.collect?_keeps _ _ session _ _ found
  cases he
  have ready := h.collects collected
  have lt := (ready.owned.newborn_within _ List.mem_cons_self).2
  have edits := Activation.install_edits world.language world.activations.length session collection
    settings.formatting ready.tidy
  have quiet := Environment.Edits.quiet edits (.inl lt) fun names => by
    rcases names with no | ⟨kind, no⟩ <;> cases no
  have none : engine.claimsOf session = [] := by
    rw [fewer]
    exact List.sublist_nil.mp (by simpa using told.claims.filter (·.1 ≠ ticket))
  -- the activation is the last one, and it has the session
  have own : (World.welcome { world with env := ({ world.env with engine }.log
      (Session.appliedEntries settings.profile (.ok ()))) } collection session settings).activation
        world.activations.length = (Activation.install ({ world.env with engine }.log
          (Session.appliedEntries settings.profile (.ok ()))) world.language
            world.activations.length session collection settings.formatting).2 := by
    rw [activation_welcome]
    exact if_pos rfl
  have later : world.env.engine.calls <+: (World.welcome { world with env := ({ world.env with
      engine }.log (Session.appliedEntries settings.profile (.ok ()))) } collection session
        settings).env.engine.calls := by
    have first : Environment.Edits .plain world.env ({ world.env with engine }.log
        (Session.appliedEntries settings.profile (.ok ()))) :=
      Environment.collectProfile?_edits collected
    exact (Environment.Edits.evolves first).calls.trans (Environment.Edits.evolves edits).calls
  refine ⟨?_, ⟨world.env.openDocuments, by simp, ?_⟩, ?_⟩
  · rw [own]
    exact told.begun.mono (List.subset_append_left _ _) later
  · rw [World.sync, own]
    refine ⟨nofun, nofun, ⟨[], rfl, rfl, ?_⟩, ?_, ?_, rfl⟩
    · exact (quiet.calls.trans (same.trans told.calls)).trans (List.append_nil _).symm
    · refine List.Sublist.trans quiet.claims ?_
      show (engine.claimsOf session).Sublist _
      rw [none]
      exact List.nil_sublist _
    · exact quiet.disposed.trans (open'.trans told.disposed)
  · rw [own]
    exact Activation.install_enabled _ _ _ _ _

/-- A replay that goes on is as it should be. -/
theorem Replaying.poll (lt : id < world.activations.length)
    (told : Replaying world history id settings replay) {sync : Sync} {replay' : Replay}
    (polled : (world.sync id).pollReplay replay = (sync, .pending replay')) :
    Replaying (world.putSync id sync) history id settings replay' := by
  obtain ⟨docs, noted, sending⟩ := told.sending
  have becomes : Sync.Becomes (world.activation id).work world.env (world.sync id)
      ((world.sync id).pollReplay replay).1 :=
    Sync.becomes_pollReplay replay (Activation.work_session _)
  have sends := sending.poll
  rw [polled] at becomes sends
  have core := world.activation_putSync id sync
  have session : ((world.putSync id sync).activation id).session = (world.activation id).session :=
    (congrArg Activation.session core :)
  have gate : ((world.putSync id sync).activation id).gate = (world.activation id).gate :=
    (congrArg Activation.gate core :)
  refine ⟨?_, ⟨docs, noted, ?_⟩, ?_⟩
  · rw [session]
    exact told.begun.mono (List.Subset.refl _) (Environment.Edits.evolves becomes.edits).calls
  · rw [session, sync_putSync lt becomes.session becomes.filter]
    exact sends
  · rw [gate]
    exact told.gate

/-- The documents that were open when an activation subscribed have all reached its session. -/
theorem Replaying.sent (told : Replaying world history id settings replay) {sync : Sync}
    {count : Nat} (polled : (world.sync id).pollReplay replay = (sync, .finished (.ok count))) :
    ∃ docs, .subscribed id docs ∈ history ∧
      sync.engine.callsOf (world.activation id).session =
        opening (world.activation id).session settings ++
          (docs.filter (world.activation id).filter.tracks).map
            (·.updateCall (world.activation id).session) := by
  obtain ⟨docs, noted, sending⟩ := told.sending
  have becomes : Sync.Becomes (world.activation id).work world.env (world.sync id)
      ((world.sync id).pollReplay replay).1 :=
    Sync.becomes_pollReplay replay (Activation.work_session _)
  have sends := sending.poll
  rw [polled] at becomes sends
  obtain ⟨-, calls, -⟩ := sends
  rw [becomes.session, becomes.filter] at calls
  exact ⟨docs, noted, calls⟩

/-! ## Every world that can be reached -/

theorem Told.hop {notes : List WorldNote} {progress : Progress Call CallResult}
    (h : Sound world (call :: calls)) (told : ∀ next ∈ call :: calls, Told world history next)
    (hop : Hop world call notes world' progress) :
    ∀ next ∈ progress.rest ++ calls, Told world' (history ++ notes) next := by
  intro next hn
  have own := told call List.mem_cons_self
  rcases List.mem_append.mp hn with new | old
  · cases hop with
    | began opened applied =>
      rw [List.mem_singleton.mp new]
      exact Configuring.start h opened applied
    | subscribed collected =>
      rw [List.mem_singleton.mp new]
      exact Configuring.subscribe h own collected
    | @replay name id settings replay sync replay' polled =>
      rw [List.mem_singleton.mp new]
      rw [List.append_nil]
      exact Replaying.poll (h.lt_of_ids List.mem_cons_self) own polled
    | refused | rejected | ready | failed | finish => cases new
    | publish | call =>
      rw [List.mem_singleton.mp new]
      trivial
    | @listen event listener waiting _ _ progress step =>
      rcases progress with listener' | failure | ⟨⟩
      · rw [List.mem_singleton.mp new]
        trivial
      · cases new
      · rw [List.mem_singleton.mp new]
        trivial
    | sync id call =>
      simp only [World.poll] at new
      revert new
      rcases (world.sync id).pollCall call with ⟨sync, call' | result⟩ <;> intro new
      · rw [List.mem_singleton.mp new]
        trivial
      · cases new
  · refine Told.other h old (told next (List.mem_cons_of_mem _ old))
      (List.subset_append_left _ _) (h.sessions_hop hop) fun id lt closed still => ?_
    exact (h.leaves_hop_closed lt closed still hop).rests

/-- What is known of the calls that activate is known along every run. -/
theorem told_tells : Tells fun world calls history =>
    Sound world calls ∧ ∀ call ∈ calls, Told world history call where
  tidy h := h.1.tidy
  perm hp h := ⟨h.1.perm hp, fun call hc => h.2 call (hp.mem_iff.mpr hc)⟩
  accept {world calls history request call} h accepted := by
    refine ⟨h.1.accepts accepted, fun next hn => ?_⟩
    rcases List.mem_cons.mp hn with rfl | old
    · cases request with
      | activate | publish =>
        cases accepted
        trivial
      | sync id request =>
        simp only [World.accept, Option.ite_none_right_eq_some, Option.some.injEq] at accepted
        rw [← accepted.2]
        trivial
    · exact h.2 next old
  hop h step := ⟨h.1.hop step, Told.hop h.1 h.2 step⟩
  cancel h := by
    refine ⟨h.1.cancels, fun next hn => ?_⟩
    refine Told.other h.1 hn (h.2 next (List.mem_cons_of_mem _ hn)) (List.Subset.refl _)
      h.1.sessions_cancel fun id lt closed still => ?_
    exact (h.1.leaves_cancel_closed lt closed still).rests
  surround move h := ⟨h.1.surrounds move, fun call hc => Told.surround h.1 hc (h.2 call hc) move⟩

end World
end EngineSync
