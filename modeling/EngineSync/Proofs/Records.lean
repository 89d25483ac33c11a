import EngineSync.Proofs.Endings

/-!
# What a session has recorded

The log of an activation's session starts with its creation, its first profile and the updates of
the documents that were open when the activation subscribed, in order and those that are not tracked
left out.  While the documents are on their way nothing else is there, after them anything may
follow, and if they never arrive nothing follows but the disposal of the session.
-/
namespace EngineSync.World

/-- What the session of an activation has recorded, by the state of the barrier. -/
def Logged (world : World) (id : ActivationId) (settings : Settings) (docs : List Document) :
    Prop :=
  let session := (world.activation id).session
  let tracked := docs.filter (world.activation id).filter.tracks
  let updates (docs : List Document) := docs.map (·.updateCall session)
  let recorded := world.env.engine.callsOf session
  match (world.activation id).barrier with
  | .replaying => ∃ sent, sent <+: tracked ∧ recorded = opening session settings ++ updates sent
  | .open => opening session settings ++ updates tracked <+: recorded
  | .abandoned => ∃ sent, sent <+: tracked ∧
    recorded = opening session settings ++ updates sent ++ [.dispose session]

/-- The session of an activation was created for a snapshot of the settings, the activation has
subscribed while some documents were open, and the session has recorded what it should. -/
structure Recorded (world : World) (history : List WorldNote) (id : ActivationId)
    (settings : Settings) (docs : List Document) : Prop where
  begun : Begun world history (world.activation id).session settings
  subscribed : .subscribed id docs ∈ history
  logged : Logged world id settings docs

/-- Every activation is in its replay, which a call is at work on, or has recorded what it
should. -/
def Accounted (world : World) (calls : List Call) (history : List WorldNote) (id : ActivationId) :
    Prop :=
  if (world.activation id).barrier = .replaying then ∃ call ∈ calls, call.replaying? = some id
  else ∃ settings docs, Recorded world history id settings docs

variable {world world' : World} {history history' : List WorldNote} {id : ActivationId}
  {settings : Settings} {docs : List Document} {replay : Replay} {name : String} {call : Call}
  {calls : List Call} {notes : List WorldNote} {progress : Progress Call CallResult}

/-- While the documents are on their way, the session has recorded those that were sent. -/
theorem Replaying.recorded (told : Replaying world history id settings replay)
    (waiting : (world.activation id).barrier = .replaying) :
    ∃ docs, Recorded world history id settings docs := by
  obtain ⟨docs, noted, sending⟩ := told.sending
  obtain ⟨sent, split, -, calls⟩ := sending.sent
  refine ⟨docs, told.begun, noted, ?_⟩
  dsimp only [Logged]
  rw [waiting]
  exact ⟨sent, ⟨_, split.symm⟩, calls⟩

theorem callsOf_grows {engine engine' : Engine} (later : engine.calls <+: engine'.calls)
    (session : SessionId) : engine.callsOf session <+: engine'.callsOf session :=
  later.filter _

/-- Once the barrier was moved, a session keeps what it has recorded; behind an abandoned barrier it
records nothing more. -/
theorem Recorded.later (h : Recorded world history id settings docs)
    (more : history ⊆ history') (later : world.env.engine.calls <+: world'.env.engine.calls)
    (same : (world'.activation id).belongings = (world.activation id).belongings)
    (moved : (world.activation id).barrier ≠ .replaying)
    (barrier : (world'.activation id).barrier = (world.activation id).barrier)
    (rests : (world.activation id).barrier = .abandoned → Rests id world world') :
    Recorded world' history' id settings docs := by
  simp only [Activation.belongings, Prod.mk.injEq] at same
  obtain ⟨session, filter, -, -⟩ := same
  refine ⟨?_, more h.subscribed, ?_⟩
  · rw [session]
    exact h.begun.mono more later
  · have logged := h.logged
    dsimp only [Logged] at logged ⊢
    rw [session, filter, barrier]
    cases state : (world.activation id).barrier with
    | replaying => exact absurd state moved
    | «open» =>
      rw [state] at logged
      exact logged.trans (callsOf_grows later _)
    | abandoned =>
      rw [state] at logged
      rw [(rests state).quiet.calls]
      exact logged

/-! ## The ends of a replay -/

/-- The documents have arrived, and the session has recorded all of them that are tracked. -/
theorem Replaying.ready
    (h : Sound world (.activate name (.replaying id settings replay) :: calls))
    (told : Replaying world history id settings replay) {sync : Sync} {count : Nat}
    (polled : (world.sync id).pollReplay replay = (sync, .finished (.ok count))) :
    ∃ docs, Recorded ((world.putSync id sync).finishActivate name id settings replay.total) history id settings
      docs := by
  have lt : id < world.activations.length := h.lt_of_ids List.mem_cons_self
  have works := works_pollReplay polled
  have worked := h.works lt works
  have lt' := works.calm.length ▸ lt
  have drops : Environment.Edits (.sessions fun _ => True)
      ((world.putSync id sync).readied id settings replay.total).env
      (((world.putSync id sync).readied id settings replay.total).drop name).env :=
    (worked.readied replay.total).sessions_drop (fun _ _ => trivial) name
  have before : world.env.engine.calls <+: (world.putSync id sync).env.engine.calls :=
    (Environment.Edits.evolves works.edits).calls
  have after : (world.putSync id sync).env.engine.calls <+:
      ((world.putSync id sync).finishActivate name id settings replay.total).env.engine.calls :=
    (Environment.Edits.evolves drops).calls
  have same : (((world.putSync id sync).finishActivate name id settings replay.total).activation id).belongings =
      (world.activation id).belongings :=
    (lasting_belongings.finishActivate _ name (.inr fun _ _ => rfl) settings).trans
      (lasting_belongings.works works id)
  simp only [Activation.belongings, Prod.mk.injEq] at same
  obtain ⟨session, filter, -, -⟩ := same
  obtain ⟨docs, noted, recorded⟩ := told.sent polled
  refine ⟨docs, ?_, noted, ?_⟩
  · rw [session]
    exact told.begun.mono (List.Subset.refl _) (before.trans after)
  · dsimp only [Logged]
    rw [session, filter, Sound.barrier_finishActivate lt']
    dsimp only
    rw [← recorded]
    exact callsOf_grows after _

/-- The barrier is abandoned after some work: the session has recorded some of the documents, in
order, and then its disposal. -/
theorem Recorded.abandoned {between : World}
    (h : Sound world (.activate name (.replaying id settings replay) :: calls))
    (works : Works id world between)
    (begun : Begun world history (world.activation id).session settings)
    (noted : .subscribed id docs ∈ history)
    (up : between.env.engine.isDisposed (world.activation id).session = false)
    (logged : ∃ sent, sent <+: docs.filter (world.activation id).filter.tracks ∧
      between.env.engine.callsOf (world.activation id).session =
        opening (world.activation id).session settings ++
          sent.map (·.updateCall (world.activation id).session)) :
    Recorded (between.abandon id) history id settings docs := by
  have lt : id < world.activations.length := h.lt_of_ids List.mem_cons_self
  have worked := h.works lt works
  have abandons : Environment.Edits (.sessions fun _ => True) between.env
      (between.abandon id).env :=
    worked.sessions_abandon trivial
  have later : world.env.engine.calls <+: (between.abandon id).env.engine.calls :=
    (Environment.Edits.evolves works.edits).calls.trans (Environment.Edits.evolves abandons).calls
  have own := congrArg Prod.fst (lasting_belongings.works works id)
  have same : ((between.abandon id).activation id).belongings = (world.activation id).belongings :=
    (lasting_belongings.abandon between (.inr fun _ _ => rfl)).trans
      (lasting_belongings.works works id)
  simp only [Activation.belongings, Prod.mk.injEq] at own same
  obtain ⟨session, filter, -, -⟩ := same
  obtain ⟨sent, early, recorded⟩ := logged
  refine ⟨?_, noted, ?_⟩
  · rw [session]
    exact begun.mono (List.Subset.refl _) later
  · dsimp only [Logged]
    rw [session, filter, Sound.barrier_abandon (works.calm.length ▸ lt)]
    refine ⟨sent, early, ?_⟩
    have disposed := worked.abandon_calls (own ▸ up)
    rw [own, recorded] at disposed
    exact disposed

/-- The engine has refused a document: the session has recorded the ones before it and this one. -/
theorem Replaying.failed
    (h : Sound world (.activate name (.replaying id settings replay) :: calls))
    (told : Replaying world history id settings replay) {sync : Sync} {failure : EngineFailure}
    (polled : (world.sync id).pollReplay replay = (sync, .finished (.error failure))) :
    ∃ docs, Recorded ((world.putSync id sync).abandon id) history id settings docs := by
  obtain ⟨docs, noted, sending⟩ := told.sending
  have becomes : Sync.Becomes (world.activation id).work world.env (world.sync id)
      ((world.sync id).pollReplay replay).1 :=
    Sync.becomes_pollReplay replay (Activation.work_session _)
  have sends := sending.poll
  rw [polled] at becomes sends
  obtain ⟨up, sent, early, recorded⟩ := sends
  rw [becomes.session] at up recorded
  rw [becomes.filter] at early
  exact ⟨docs, .abandoned h (works_pollReplay polled) told.begun noted up ⟨sent, early, recorded⟩⟩

/-- Giving up a replay makes no difference to what was recorded. -/
theorem cancelReplay_engine (sync : Sync) (replay : Replay) :
    (sync.cancelReplay replay).engine.calls = sync.engine.calls ∧
      (sync.cancelReplay replay).engine.sessions = sync.engine.sessions := by
  unfold Sync.cancelReplay
  cases replay.current with
  | none => exact ⟨rfl, rfl⟩
  | some forwarding =>
    dsimp only [Sync.cancel]
    cases forwarding.stage with
    | arriving | queued => exact ⟨rfl, rfl⟩
    | calling lane turn ticket =>
      obtain ⟨tickets, permits, cancelled, -⟩ := sync.engine.cancel_eq ticket
      dsimp only
      rw [cancelled]
      exact ⟨rfl, rfl⟩

/-- The call that activates is given up in its replay. -/
theorem Replaying.given_up
    (h : Sound world (.activate name (.replaying id settings replay) :: calls))
    (told : Replaying world history id settings replay) :
    ∃ docs, Recorded (world.cancel (.activate name (.replaying id settings replay))) history id
      settings docs := by
  obtain ⟨docs, noted, sending⟩ := told.sending
  obtain ⟨sent, split, -, recorded⟩ := sending.sent
  obtain ⟨calls, sessions⟩ := cancelReplay_engine (world.sync id) replay
  refine ⟨docs, .abandoned h (works_cancelSync world id (.replay replay)) told.begun noted ?_
    ⟨sent, ⟨_, split.symm⟩, ?_⟩⟩
  · show ((world.sync id).cancelReplay replay).engine.isDisposed _ = false
    rw [Engine.isDisposed, sessions]
    exact sending.disposed
  · show ((world.sync id).cancelReplay replay).engine.callsOf _ = _
    rw [Engine.callsOf, calls]
    exact recorded

/-! ## Every world that can be reached -/

theorem Accounted.hop (h : Sound world (call :: calls))
    (told : ∀ next ∈ call :: calls, Told world history next)
    (accounts : ∀ id < world.activations.length, Accounted world (call :: calls) history id)
    (hop : Hop world call notes world' progress) (lt : id < world'.activations.length) :
    Accounted world' (progress.rest ++ calls) (history ++ notes) id := by
  rcases Sound.newcomer_hop h hop lt with old | ⟨waiting, -, next, hn, replays⟩
  · by_cases own : call.replaying? = some id
    · -- the call replays this activation
      obtain ⟨name, settings, replay, rfl⟩ := Call.of_replaying own
      have own := told _ List.mem_cons_self
      cases hop with
      | @replay name id settings replay sync replay' polled =>
        have waiting := (h.orderly.replaying id List.mem_cons_self).1
        have barrier := (works_pollReplay polled).calm.barrier id
        rw [Accounted, if_pos (barrier.trans waiting)]
        exact ⟨_, List.mem_cons_self, rfl⟩
      | @ready name id settings replay sync count polled =>
        have lt' := (works_pollReplay polled).calm.length ▸ old
        rw [Accounted, if_neg (by rw [Sound.barrier_finishActivate lt']; nofun), List.append_nil]
        exact ⟨settings, Replaying.ready h own polled⟩
      | @failed name id settings replay sync failure polled =>
        have lt' := (works_pollReplay polled).calm.length ▸ old
        rw [Accounted, if_neg (by rw [Sound.barrier_abandon lt']; nofun), List.append_nil]
        exact ⟨settings, Replaying.failed h own polled⟩
    · have barrier := lasting_barrier.hop h old (.inl own) hop
      have same := lasting_belongings.hop h old (.inl own) hop
      have account := accounts id old
      unfold Accounted at account ⊢
      rw [barrier]
      by_cases waiting : (world.activation id).barrier = .replaying
      · rw [if_pos waiting] at account ⊢
        obtain ⟨next, hn, replays⟩ := account
        refine ⟨next, List.mem_append_right _ ?_, replays⟩
        exact (List.mem_cons.mp hn).resolve_left fun same => own (same ▸ replays)
      · rw [if_neg waiting] at account ⊢
        obtain ⟨settings, docs, recorded⟩ := account
        refine ⟨settings, docs, recorded.later (List.subset_append_left _ _)
          (Environment.Edits.evolves (h.sessions_hop hop)).calls same waiting barrier
          fun closed => ?_⟩
        exact (h.leaves_hop_closed old (by rw [closed]; nofun) own hop).rests
  · rw [Accounted, if_pos waiting]
    exact ⟨next, List.mem_append_left _ hn, replays⟩

theorem Accounted.cancel (h : Sound world (call :: calls))
    (told : ∀ next ∈ call :: calls, Told world history next)
    (account : Accounted world (call :: calls) history id)
    (lt : id < world.activations.length) : Accounted (world.cancel call) calls history id := by
  by_cases own : call.replaying? = some id
  · obtain ⟨name, settings, replay, rfl⟩ := Call.of_replaying own
    rw [Accounted, if_neg (by rw [h.replay_cancel]; nofun)]
    exact ⟨settings, Replaying.given_up h (told _ List.mem_cons_self)⟩
  · have barrier := lasting_barrier.cancel world id (.inl own)
    have same := lasting_belongings.cancel world id (.inl own)
    unfold Accounted at account ⊢
    rw [barrier]
    by_cases waiting : (world.activation id).barrier = .replaying
    · rw [if_pos waiting] at account ⊢
      obtain ⟨next, hn, replays⟩ := account
      exact ⟨next, (List.mem_cons.mp hn).resolve_left fun same => own (same ▸ replays), replays⟩
    · rw [if_neg waiting] at account ⊢
      obtain ⟨settings, docs, recorded⟩ := account
      refine ⟨settings, docs, recorded.later (List.Subset.refl _)
        (Environment.Edits.evolves h.sessions_cancel).calls same waiting barrier
        fun closed => ?_⟩
      exact (h.leaves_cancel_closed lt (by rw [closed]; nofun) own).rests

theorem Accounted.surround (h : Sound world calls) (account : Accounted world calls history id)
    (lt : id < world.activations.length) (move : WorldMove) :
    Accounted (world.surround move) calls history id := by
  have barrier := lasting_barrier.surround h id move
  have same := lasting_belongings.surround h id move
  unfold Accounted at account ⊢
  rw [barrier]
  by_cases waiting : (world.activation id).barrier = .replaying
  · rw [if_pos waiting] at account ⊢
    exact account
  · rw [if_neg waiting] at account ⊢
    obtain ⟨settings, docs, recorded⟩ := account
    refine ⟨settings, docs, recorded.later (List.Subset.refl _) (h.calls_surround move) same
      waiting barrier fun closed => ?_⟩
    exact h.rests_surround_closed lt (by rw [closed]; nofun) move

theorem Accounted.mono {calls' : List Call} (account : Accounted world calls history id)
    (more : calls ⊆ calls') : Accounted world calls' history id := by
  unfold Accounted at account ⊢
  by_cases waiting : (world.activation id).barrier = .replaying
  · rw [if_pos waiting] at account ⊢
    obtain ⟨call, hc, replays⟩ := account
    exact ⟨call, more hc, replays⟩
  · rw [if_neg waiting] at account ⊢
    exact account

/-- Every activation is accounted for along every run. -/
theorem accounted_tells : Tells fun world calls history =>
    (Sound world calls ∧ ∀ call ∈ calls, Told world history call) ∧
      ∀ id < world.activations.length, Accounted world calls history id where
  tidy h := told_tells.tidy h.1
  perm hp h := ⟨told_tells.perm hp h.1, fun id lt => (h.2 id lt).mono hp.subset⟩
  accept h accepted :=
    ⟨told_tells.accept h.1 accepted, fun id lt => (h.2 id lt).mono (List.subset_cons_self _ _)⟩
  hop h step := ⟨told_tells.hop h.1 step, fun _ lt => Accounted.hop h.1.1 h.1.2 h.2 step lt⟩
  cancel {world call calls history} h := by
    refine ⟨told_tells.cancel h.1, fun id lt => ?_⟩
    rw [Sound.length_cancel] at lt
    exact Accounted.cancel h.1.1 h.1.2 (h.2 id lt) lt
  surround move h := by
    refine ⟨told_tells.surround move h.1, fun id lt => ?_⟩
    rw [Sound.length_surround h.1.1] at lt
    exact Accounted.surround h.1.1 (h.2 id lt) lt move

/-- **Every activation is accounted for** in every world that can be reached. -/
theorem accounted_reach (outset : Outset) (actions : List (Action WorldRequest WorldMove)) :
    (Sound (outset.reach actions).state (outset.reach actions).calls ∧
      ∀ call ∈ (outset.reach actions).calls,
        Told (outset.reach actions).state ((outset.notes actions).map (·.2)) call) ∧
    ∀ id < (outset.reach actions).state.activations.length,
      Accounted (outset.reach actions).state (outset.reach actions).calls
        ((outset.notes actions).map (·.2)) id :=
  accounted_tells.reach outset
    ⟨⟨.initial outset, fun _ hc => absurd hc List.not_mem_nil⟩,
      fun _ lt => absurd lt (Nat.not_lt_zero _)⟩ actions

/-- The session of every activation has recorded what it should. -/
theorem recorded_reach (outset : Outset) (actions : List (Action WorldRequest WorldMove))
    (lt : id < (outset.reach actions).state.activations.length) :
    ∃ settings docs, Recorded (outset.reach actions).state ((outset.notes actions).map (·.2)) id
      settings docs := by
  obtain ⟨⟨sound, told⟩, accounts⟩ := accounted_reach outset actions
  have account := accounts id lt
  unfold Accounted at account
  by_cases waiting : ((outset.reach actions).state.activation id).barrier = .replaying
  · rw [if_pos waiting] at account
    obtain ⟨call, hc, replays⟩ := account
    obtain ⟨name, settings, replay, rfl⟩ := Call.of_replaying replays
    exact ⟨settings, Replaying.recorded (told _ hc) waiting⟩
  · rw [if_neg waiting] at account
    exact account

end EngineSync.World
