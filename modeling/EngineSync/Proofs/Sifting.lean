import Mathlib.Algebra.Order.Ring.Int
import EngineSync.Proofs.Silence

/-!
# Documents that are not tracked

A document that is not tracked passes the way to a session without a trace but in the journal.  So
open documents can be sifted: a call that activates does the same whether the untracked ones are
among them or not, and what it has still to send differs in these only (`World.sifted_poll`).
-/
namespace EngineSync

/-- The open documents that are still to be sent, without those that are not tracked; how many there
were at the start goes to the journal only, and is left out. -/
def Replay.sifted (filter : DocumentFilter) (replay : Replay) : Replay :=
  { replay with waiting := replay.waiting.filter filter.tracks, total := 0 }

/-- A call that sends open documents sends those that are tracked; other calls are as they are. -/
def Call.sifted (filter : DocumentFilter) : Call → Call
  | .activate name (.replaying id settings replay) =>
    .activate name (.replaying id settings (replay.sifted filter))
  | .sync id (.replay replay) => .sync id (.replay (replay.sifted filter))
  | call => call

/-- So does a request for such a call. -/
def WorldRequest.sifted (filter : DocumentFilter) : WorldRequest → WorldRequest
  | .sync id (.replay docs) => .sync id (.replay (docs.filter filter.tracks))
  | request => request

/-- Calls that read the same have both to go on, or have both come to the same end. -/
theorem Progress.alike {κ κ' ρ : Type} {progress progress' : Progress κ ρ} {f : κ → κ'}
    (same : progress.map f (fun result => result) = progress'.map f fun result => result) :
    (∃ next next', progress = .pending next ∧ progress' = .pending next' ∧ f next = f next') ∨
      ∃ result, progress = .finished result ∧ progress' = .finished result := by
  cases progress with
  | pending next =>
    cases progress' with
    | pending next' => exact .inl ⟨next, next', rfl, rfl, Progress.pending.inj same⟩
    | finished result => cases same
  | finished result =>
    cases progress' with
    | pending next => cases same
    | finished result' => exact .inr ⟨result, rfl, congrArg _ (Progress.finished.inj same).symm⟩

/-! ## The way to a session -/

namespace Sync
variable {sync sync' : Sync} {forwarding : Forwarding} {filter : DocumentFilter}

/-- The way to a session without its journal. -/
def silent (sync : Sync) : Sync :=
  { sync with journal := [] }

theorem mere_sync (sync : Sync) (journal : Journal) :
    (Past.mere journal id).sync sync = { sync with journal := journal ++ sync.journal } := by
  simp only [Past.sync, Past.engine, World.mere_shift, Shift.zero_engineCall, Shift.zero_ticketAt,
    Shift.zero_sessionState, List.map_id]
  simp [Past.mere, Shift.zero]

/-- Nobody reads the journal on the way to a session. -/
theorem silent_poll (same : sync.silent = sync'.silent) (forwarding : Forwarding) :
    (sync.poll forwarding).map silent id = (sync'.poll forwarding).map silent id := by
  -- a chance is one behind a past of nothing but a journal, and there it comes to the same
  have alone (sync : Sync) :
      (sync.poll forwarding).map silent id = (sync.silent.poll forwarding).map silent id := by
    have polled := (Past.mere sync.journal id).sync_poll sync.silent forwarding
    rw [mere_sync, World.mere_shift, Shift.zero_forwarding, id,
      show { sync.silent with journal := sync.journal ++ sync.silent.journal } = sync by
        simp [silent]] at polled
    rw [polled]
    refine Prod.ext ?_ (Progress.map_self _)
    rw [Prod.map_fst, Prod.map_fst, mere_sync]
    rfl
  rw [alone sync, alone sync', same]

/-- A document that is not tracked is not taken, and nothing is left of it. -/
theorem poll_untracked (sync : Sync) {doc : Document} (untracked : sync.filter.tracks doc = false)
    (closes : Bool) : (sync.poll ⟨doc, closes, .arriving⟩).map silent id =
      (sync.silent, .finished (.ok false)) := by
  simp only [poll, pollArriving, untracked, Bool.false_eq_true, if_false]
  split <;> rfl

theorem filter_poll (sync : Sync) (forwarding : Forwarding) :
    (sync.poll forwarding).1.filter = sync.filter := by
  have becomes := @becomes_poll (.changing fun _ => True) default sync forwarding (.inl trivial)
  exact becomes.filter

/-- The end of a chance, without what only documents that are not tracked make of it. -/
def sift (filter : DocumentFilter) (outcome : Sync × Progress Replay (Except EngineFailure Nat)) :
    Sync × Progress Replay (Except EngineFailure Nat) :=
  outcome.map silent (Progress.map (Replay.sifted filter) fun result => result)

theorem sift_pending (way : sync.silent = sync'.silent) (forwarding : Forwarding)
    (forwarded total total' : Nat) (docs : List Document) :
    sift filter (sync, .pending ⟨some forwarding, docs, forwarded, total⟩) =
      sift filter
        (sync', .pending ⟨some forwarding, docs.filter filter.tracks, forwarded, total'⟩) := by
  refine Prod.ext way ?_
  simp [sift, Progress.map, Replay.sifted]

/-- Documents go to a session as they go when those that are not tracked are left out. -/
theorem sifted_pollReplayFrom (way : sync.silent = sync'.silent) (own : sync.filter = filter)
    (total total' forwarded : Nat) (docs : List Document) :
    sift filter (sync.pollReplayFrom total forwarded docs) =
      sift filter (sync'.pollReplayFrom total' forwarded (docs.filter filter.tracks)) := by
  induction docs generalizing sync sync' forwarded with
  | nil => exact congrArg (·, _) way
  | cons doc docs ih =>
    have kept := (filter_poll sync (.update doc)).trans own
    rw [pollReplayFrom]
    rcases outcome : sync.poll (.update doc) with ⟨after, progress⟩
    rw [outcome] at kept
    by_cases tracked : filter.tracks doc = true
    · have polled := silent_poll way (.update doc)
      rw [List.filter_cons_of_pos tracked, pollReplayFrom]
      rcases outcome' : sync'.poll (.update doc) with ⟨after', progress'⟩
      rw [outcome, outcome'] at polled
      obtain ⟨way, (rfl : progress = progress')⟩ := Prod.mk.inj polled
      rcases progress with next | failure | taken
      · exact sift_pending way next forwarded total total' docs
      · exact Prod.ext way rfl
      · exact ih way kept _
    · -- the shorter row does not have this document, and the longer one goes on past it at once
      have untracked : sync.filter.tracks doc = false := own ▸ Bool.eq_false_of_not_eq_true tracked
      have polled := sync.poll_untracked untracked false
      rw [show (⟨doc, false, .arriving⟩ : Forwarding) = .update doc from rfl, outcome] at polled
      obtain ⟨quiet, (rfl : progress = .finished (.ok false))⟩ := Prod.mk.inj polled
      rw [List.filter_cons_of_neg tracked]
      exact ih (quiet.trans way) kept forwarded

theorem sifted_pollReplay (way : sync.silent = sync'.silent) (own : sync.filter = filter)
    {replay replay' : Replay} (alike : replay.sifted filter = replay'.sifted filter) :
    sift filter (sync.pollReplay replay) = sift filter (sync'.pollReplay replay') := by
  -- neither of the two need be sifted, but both do as the sifted one does
  have sifts {sync sync' : Sync} (way : sync.silent = sync'.silent) (own : sync.filter = filter)
      (replay : Replay) : sift filter (sync.pollReplay replay) =
        sift filter (sync'.pollReplay (replay.sifted filter)) := by
    rcases replay with ⟨_ | forwarding, waiting, forwarded, total⟩
    · exact sifted_pollReplayFrom way own total 0 forwarded waiting
    · have polled := silent_poll way forwarding
      have kept := (filter_poll sync forwarding).trans own
      unfold pollReplay
      dsimp only [Replay.sifted]
      rcases outcome : sync.poll forwarding with ⟨after, progress⟩
      rcases outcome' : sync'.poll forwarding with ⟨after', progress'⟩
      rw [outcome, outcome'] at polled
      rw [outcome] at kept
      obtain ⟨way, (rfl : progress = progress')⟩ := Prod.mk.inj polled
      rcases progress with next | failure | taken
      · exact sift_pending way next forwarded total 0 waiting
      · exact Prod.ext way rfl
      · exact sifted_pollReplayFrom way kept total 0 _ waiting
  have own' : sync'.filter = filter := (congrArg Sync.filter way).symm.trans own
  rw [sifts way own, alike, ← sifts rfl own']

end Sync

/-! ## Activating -/

namespace World
variable {world world' : World} {id : ActivationId} {filter : DocumentFilter}

theorem bare_putSync (id : ActivationId) (same : world.bare = world'.bare) {sync sync' : Sync}
    (way : sync.silent = sync'.silent) :
    (world.putSync id sync).bare = (world'.putSync id sync').bare := by
  have alone (world : World) (sync : Sync) :
      (world.putSync id sync).bare = world.bare.putSync id sync.silent := rfl
  rw [alone, alone, same, way]

theorem bare_abandon (lt : id < world.activations.length) :
    (world.abandon id).bare = (world.bare.abandon id).bare := by
  have abandoned := world.dress.world_abandon world.bare lt
  rw [dress_bare, dress_shift,
    show Shift.zero.activation + id = id from Nat.zero_add id] at abandoned
  rw [abandoned]
  exact bare_mere _ _ _

theorem bare_drop (alive : ∀ name id, world.live? name = some id → id < world.activations.length)
    (name : String) : (world.drop name).bare = (world.bare.drop name).bare := by
  have dropped := world.dress.world_drop world.bare alive name
  rw [dress_bare] at dropped
  rw [dropped]
  exact bare_mere _ _ _

/-- How many documents were open goes to the journal only. -/
theorem bare_finishActivate
    (alive : ∀ name id, world.live? name = some id → id < world.activations.length)
    (name : String) (settings : Settings) (total total' : Nat) :
    (world.finishActivate name id settings total).bare =
      (world.bare.finishActivate name id settings total').bare := by
  have length := World.Sound.length_setBarrier world id .open
  have finishes (world : World) (total : Nat) :
      (world.finishActivate name id settings total).bare =
        { ((world.readied id settings total).drop name).bare with
          live := ((world.readied id settings total).drop name).bare.live ++ [(name, id)] } := rfl
  have ready : (world.readied id settings total).bare =
      (world.bare.readied id settings total').bare := rfl
  have dropped : ((world.readied id settings total).drop name).bare =
      ((world.bare.readied id settings total').drop name).bare := by
    rw [bare_drop (fun name other found => length.symm ▸ alive name other found), ready,
      ← bare_drop (fun name other found => length.symm ▸ alive name other found)]
  rw [finishes, finishes, dropped]

/-- The end of a chance, without what only documents that are not tracked make of it. -/
def sift (filter : DocumentFilter) (outcome : World × Progress Call CallResult) :
    World × Progress Call CallResult :=
  outcome.map bare (Progress.map (Call.sifted filter) fun result => result)

/-- Open documents on their way to a session, up to what follows when the last has arrived. -/
theorem sifted_pollReplaying (same : world.bare = world'.bare)
    (own : (world.activation id).filter = filter)
    (alive : ∀ name id, world.live? name = some id → id < world.activations.length)
    (lt : id < world.activations.length) (name : String) (settings : Settings)
    {replay replay' : Replay} (alike : replay.sifted filter = replay'.sifted filter) :
    sift filter (world.pollReplaying name id settings replay) =
      sift filter (world'.pollReplaying name id settings replay') := by
  have way : (world.sync id).silent = (world'.sync id).silent :=
    congrArg (fun world => (world.sync id).silent) same
  have polled := Sync.sifted_pollReplay way own alike
  have length : world'.activations.length = world.activations.length :=
    congrArg (fun world => world.activations.length) same.symm
  have live (name : String) : world'.live? name = world.live? name :=
    congrArg (fun world => world.live? name) same.symm
  unfold pollReplaying
  rcases outcome : (world.sync id).pollReplay replay with ⟨sync, progress⟩
  rcases outcome' : (world'.sync id).pollReplay replay' with ⟨sync', progress'⟩
  rw [outcome, outcome'] at polled
  obtain ⟨way, result⟩ := Prod.mk.inj polled
  have put := bare_putSync id same way
  have length_put := length_putSync world id sync
  have length_put' := (length_putSync world' id sync').trans length
  obtain ⟨next, next', rfl, rfl, alike⟩ | ⟨failure | count, rfl, rfl⟩ := Progress.alike result
  · refine Prod.ext put ?_
    simp [sift, Progress.map, Call.sifted, alike]
  · refine Prod.ext ?_ rfl
    show (abandon _ id).bare = (abandon _ id).bare
    rw [bare_abandon (length_put.symm ▸ lt), put, ← bare_abandon (length_put'.symm ▸ lt)]
  · refine Prod.ext ?_ rfl
    show (finishActivate _ name id settings _).bare = (finishActivate _ name id settings _).bare
    rw [bare_finishActivate (fun name other found => length_put.symm ▸ alive name other found) name
        settings _ replay'.total, put,
      ← bare_finishActivate fun name other found =>
        length_put'.symm ▸ alive name other (live name ▸ found)]

/-- Open documents that are sent to a live activation. -/
theorem sifted_pollSync (same : world.bare = world'.bare)
    (own : (world.activation id).filter = filter) {replay replay' : Replay}
    (alike : replay.sifted filter = replay'.sifted filter) :
    sift filter (world.poll (.sync id (.replay replay))) =
      sift filter (world'.poll (.sync id (.replay replay'))) := by
  have way : (world.sync id).silent = (world'.sync id).silent :=
    congrArg (fun world => (world.sync id).silent) same
  have polled := Sync.sifted_pollReplay way own alike
  simp only [World.poll, Sync.pollCall]
  rcases outcome : (world.sync id).pollReplay replay with ⟨sync, progress⟩
  rcases outcome' : (world'.sync id).pollReplay replay' with ⟨sync', progress'⟩
  rw [outcome, outcome'] at polled
  obtain ⟨way, result⟩ := Prod.mk.inj polled
  obtain ⟨next, next', rfl, rfl, alike⟩ | ⟨result, rfl, rfl⟩ := Progress.alike result
  · refine Prod.ext (bare_putSync id same way) ?_
    simp [sift, Progress.map, Call.sifted, alike]
  · exact Prod.ext (bare_putSync id same way) rfl

theorem bare_welcome (tidy : world.env.Tidy) (collection : CollectionId) (session : SessionId)
    (settings : Settings) : (world.welcome collection session settings).bare =
      (world.bare.welcome collection session settings).bare := by
  have welcomed := world.dress.world_welcome world.bare settings { tidy with } (Nat.zero_le _)
    session collection
  rw [dress_bare, dress_shift,
    show Shift.zero.collection + collection = collection from Nat.zero_add _,
    show Shift.zero.session + session = session from Nat.zero_add _] at welcomed
  rw [welcomed]
  exact bare_mere _ _ _

/-- Two worlds differ in the journal and in open documents that are not tracked. -/
structure Sifts (filter : DocumentFilter) (world world' : World) : Prop where
  bare : world.bare = world'.bare
  docs : world.env.openDocuments.filter filter.tracks =
    world'.env.openDocuments.filter filter.tracks
  language : filter = ⟨world.language⟩

namespace Sifts
variable (h : Sifts filter world world')
include h

theorem tidy (tidy : world.env.Tidy) : world'.env.Tidy := by
  have bared : world.bare.env.Tidy := { tidy with }
  rw [h.bare] at bared
  exact { bared with }

/-- Both worlds go on with what has become of the environment. -/
theorem env (env : Environment) :
    Sifts filter { world with env := world.dress.environment env }
      { world' with env := world'.dress.environment env } := by
  have behind (world : World) : { world with env := world.dress.environment env }.bare =
      ({ world.bare with env } : World).bare := by
    have bared : (world.dress.world { world.bare with env }).bare = _ := bare_mere _ _ _
    rw [← bared]
    exact congrArg (fun between : World =>
      ({ between with env := world.dress.environment env } : World).bare) (dress_bare world).symm
  exact ⟨by rw [behind, behind, h.bare], h.docs, h.language⟩

/-- A session is up: an activation subscribes, and the open documents set out. -/
theorem startReplay (alive : ∀ name id, world.live? name = some id → id < world.activations.length)
    (tidy : world.env.Tidy) (name : String) (collection : CollectionId) (session : SessionId)
    (settings : Settings) :
    sift filter (world.startReplay name collection session settings) =
      sift filter (world'.startReplay name collection session settings) := by
  have length : world'.activations.length = world.activations.length :=
    congrArg (fun world => world.activations.length) h.bare.symm
  have welcomed : (world.welcome collection session settings).bare =
      (world'.welcome collection session settings).bare := by
    rw [bare_welcome tidy, h.bare, ← bare_welcome (h.tidy tidy)]
  have there : (world.welcome collection session settings).activations.length =
      world.activations.length + 1 := by
    simp [welcome]
  rw [startReplay_eq tidy, startReplay_eq (h.tidy tidy), length]
  refine sifted_pollReplaying welcomed ?_ (fun name id found => ?_) (there ▸ Nat.lt_succ_self _)
    name settings (congrArg (Replay.mk none · 0 0) h.docs)
  · rw [activation_welcome, if_pos rfl, h.language]
    rfl
  · rw [there]
    exact Nat.lt_succ_of_lt (alive name id found)

/-- A session that does not take its profile is disposed. -/
theorem conclude (env : Environment) (session : SessionId) (failure : EngineFailure) :
    sift filter
        ({ world with env :=
            ((world.dress.environment env).concludeBootstrap session (.error failure)).1 },
          .finished (.failed (.start (.configure failure)))) =
      sift filter
        ({ world' with env :=
            ((world'.dress.environment env).concludeBootstrap session (.error failure)).1 },
          .finished (.failed (.start (.configure failure)))) := by
  have concludes (p : Past) (zero : p.shift = .zero) :
      (p.environment env).concludeBootstrap session (.error failure) =
        (env.concludeBootstrap session (.error failure)).map p.environment
          (Except.map fun session => p.shift.session + session) := by
    have concluded := p.env_concludeBootstrap env session (.error failure)
    rwa [zero, show Shift.zero.session + session = session from Nat.zero_add _, ← zero] at concluded
  rw [concludes _ rfl, concludes _ rfl]
  exact Prod.ext (h.env _).bare rfl

theorem pollConfiguring
    (alive : ∀ name id, world.live? name = some id → id < world.activations.length)
    (tidy : world.env.Tidy) (name : String) (collection : CollectionId) (session : SessionId)
    (settings : Settings) (ticket : TicketId) :
    sift filter (world.pollConfiguring name collection session settings ticket) =
      sift filter (world'.pollConfiguring name collection session settings ticket) := by
  have collects (world : World) : world.env.collectProfile? settings.profile ticket =
      (world.bare.env.collectProfile? settings.profile ticket).map
        (Prod.map world.dress.environment fun answer => answer) := by
    have collected := world.dress.env_collectProfile? world.bare.env settings.profile ticket
    rw [dress_shift, show Shift.zero.ticket + ticket = ticket from Nat.zero_add _] at collected
    rw [← collected]
    exact congrArg (fun world => world.env.collectProfile? settings.profile ticket)
      (dress_bare world).symm
  have first := collects world
  unfold World.pollConfiguring
  rw [collects world', ← h.bare]
  cases collected : world.bare.env.collectProfile? settings.profile ticket with
  | none =>
    rw [collected] at first
    rw [first]
    exact Prod.ext h.bare rfl
  | some outcome =>
    rw [collected] at first
    rw [first]
    rcases outcome with ⟨env, failure | ⟨⟩⟩
    · exact h.conclude env session failure
    · have edits : Environment.Edits .plain world.env _ := Environment.collectProfile?_edits first
      exact (h.env env).startReplay alive (Environment.Edits.tidy edits tidy) name collection
        session settings

/-- The start of an activation. -/
theorem startActivate
    (alive : ∀ name id, world.live? name = some id → id < world.activations.length)
    (tidy : world.env.Tidy) (name : String) :
    sift filter (world.startActivate name) = sift filter (world'.startActivate name) := by
  have prepares (world : World) :
      world.prepared = world.dress.environment world.bare.prepared := by
    have prepared : (world.dress.world world.bare).prepared =
        world.dress.environment world.bare.prepared := by
      rw [World.prepared, show (world.dress.world world.bare).env.makeCollection = _ from
        world.dress.env_makeCollection world.bare.env]
      exact congrArg Prod.fst (world.dress.env_snapshot world.bare.env.makeCollection.1)
    rw [← prepared, dress_bare]
  have opens (world : World) : world.prepared.openSession world.modulePath
      (some world.env.collections.length) =
      (world.bare.prepared.openSession world.bare.modulePath
        (some world.bare.env.collections.length)).map
          world.dress.environment fun session => session := by
    have opened := world.dress.env_openSession world.bare.prepared world.bare.modulePath
      (some world.bare.env.collections.length)
    rw [← prepares, dress_shift, Option.map_some,
      show Shift.zero.collection + world.bare.env.collections.length = _ from Nat.zero_add _,
      show (fun session => Shift.zero.session + session) = id from funext Nat.zero_add,
      Except.map_id] at opened
    exact opened
  have first := opens world
  have settings : world'.env.snapshot.2 = world.env.snapshot.2 :=
    congrArg (fun world => world.env.snapshot.2) h.bare.symm
  have collections : world'.env.collections.length = world.env.collections.length :=
    congrArg (fun world => world.env.collections.length) h.bare.symm
  rw [startActivate_eq, startActivate_eq, opens world', ← h.bare, settings, collections]
  rcases opened : world.bare.prepared.openSession world.bare.modulePath
    (some world.bare.env.collections.length) with ⟨env, failure | session⟩
  · rw [opened] at first
    rw [first]
    exact Prod.ext (h.env env).bare rfl
  · rw [opened] at first
    rw [first]
    have applies (p : Past) (zero : p.shift = .zero) :
        (p.environment env).applyProfile session world.env.snapshot.2.profile =
          (env.applyProfile session world.env.snapshot.2.profile).map p.environment id := by
      have applied := p.env_applyProfile env session world.env.snapshot.2.profile
      rwa [zero, show Shift.zero.session + session = session from Nat.zero_add _,
        show (fun ticket => Shift.zero.ticket + ticket) = id from funext Nat.zero_add,
        Except.map_id] at applied
    dsimp only [Prod.map_apply]
    rw [applies _ rfl, applies _ rfl]
    rcases applied : env.applyProfile session world.env.snapshot.2.profile with
      ⟨env', failure | ticket⟩
    · exact h.conclude env' session failure
    · have applied' := applies world.dress rfl
      rw [applied] at applied'
      have edits := began_edits first applied'
      exact (h.env env').pollConfiguring alive (Environment.Edits.tidy edits tidy) name _ session _
        ticket

end Sifts

/-! ## Calls -/

/-- Every activation filters the documents in the language of the world. -/
structure Filters (filter : DocumentFilter) (world : World) : Prop where
  language : filter = ⟨world.language⟩
  activations : ∀ id < world.activations.length, (world.activation id).filter = filter

theorem filters_tells (filter : DocumentFilter) : Tells fun world calls _ =>
    Sound world calls ∧ Filters filter world where
  tidy h := h.1.tidy
  perm hp h := ⟨h.1.perm hp, h.2⟩
  accept h accepted := ⟨h.1.accepts accepted, h.2⟩
  hop {world call calls history notes after progress} h hop := by
    have language := (hosted_hop hop).language
    refine ⟨h.1.hop hop, language ▸ h.2.language, fun id lt => ?_⟩
    rcases h.1.newcomer_hop hop lt with old | ⟨-, newcomer, -⟩
    · have same := lasting_belongings.hop h.1 old (.inr fun _ _ => rfl) hop
      simp only [Activation.belongings, Prod.mk.injEq] at same
      exact same.2.1.trans (h.2.activations id old)
    · exact newcomer.trans h.2.language.symm
  cancel {world call calls history} h := by
    have language := (hosted_cancel world call).language
    refine ⟨h.1.cancels, language ▸ h.2.language, fun id lt => ?_⟩
    rw [Sound.length_cancel] at lt
    have same : ((world.cancel call).activation id).belongings = (world.activation id).belongings :=
      lasting_belongings.cancel world id (.inr fun _ _ => rfl)
    simp only [Activation.belongings, Prod.mk.injEq] at same
    exact same.2.1.trans (h.2.activations id lt)
  surround {world calls history} move h := by
    have language := (hosted_surround world move).2
    refine ⟨h.1.surrounds move, language ▸ h.2.language, fun id lt => ?_⟩
    rw [h.1.length_surround move] at lt
    have same := lasting_belongings.surround h.1 id move
    simp only [Activation.belongings, Prod.mk.injEq] at same
    exact same.2.1.trans (h.2.activations id lt)

end World

/-- Calls that read the same without documents that are not tracked. -/
theorem Call.sifted_cases {filter : DocumentFilter} {call call' : Call}
    (alike : call.sifted filter = call'.sifted filter) : call = call' ∨
      ∃ replay replay', replay.sifted filter = replay'.sifted filter ∧
        ((∃ name id settings, call = .activate name (.replaying id settings replay) ∧
          call' = .activate name (.replaying id settings replay')) ∨
        ∃ id, call = .sync id (.replay replay) ∧ call' = .sync id (.replay replay')) := by
  rcases call with ⟨name, _ | _ | ⟨id, settings, replay⟩⟩ | stage | ⟨id, forwarding | replay⟩ <;>
    rcases call' with ⟨_, _ | _ | ⟨_, _, replay'⟩⟩ | _ | ⟨_, _ | replay'⟩ <;>
    first
    | exact .inl alike
    | cases alike
    | obtain ⟨rfl, stages⟩ := Call.activate.inj alike
      obtain ⟨rfl, rfl, same⟩ := ActivateStage.replaying.inj stages
      exact .inr ⟨replay, replay', same, .inl ⟨_, _, _, rfl, rfl⟩⟩
    | obtain ⟨rfl, calls⟩ := Call.sync.inj alike
      exact .inr ⟨replay, replay', SyncCall.replay.inj calls, .inr ⟨_, rfl, rfl⟩⟩

namespace World.Sifts
variable {world world' : World} {filter : DocumentFilter} {call call' : Call} {calls : List Call}
  (h : Sifts filter world world')
include h

theorem sound (sound : Sound world calls) : Sound world' calls := by
  have bared := sound.redress [] []
  rw [show world.redress [] [] = world'.bare from h.bare] at bared
  exact bared.redress world'.env.journal world'.env.openDocuments

/-- **A chance goes as far in both worlds.** -/
theorem poll (sound : Sound world (call :: calls)) (filters : Filters filter world)
    (alike : call.sifted filter = call'.sifted filter) :
    sift filter (world.poll call) = sift filter (world'.poll call') := by
  have alive : ∀ name id, world.live? name = some id → id < world.activations.length :=
    fun _ _ found => sound.live_lt found
  rcases Call.sifted_cases alike with rfl | ⟨replay, replay', same, activates | syncs⟩
  · match call with
    | .activate name .arriving => exact h.startActivate alive sound.tidy name
    | .activate name (.configuring collection session settings ticket) =>
      exact h.pollConfiguring alive sound.tidy name collection session settings ticket
    | .activate name (.replaying id settings replay) =>
      have lt : id < world.activations.length := sound.lt_of_ids List.mem_cons_self
      exact sifted_pollReplaying h.bare (filters.activations id lt) alive lt name settings rfl
    | .publish _ | .sync _ _ =>
      obtain ⟨result, state⟩ := bare_poll sound nofun
      obtain ⟨result', state'⟩ := bare_poll (h.sound sound) nofun
      rw [← h.bare] at result' state'
      exact Prod.ext (state.trans state'.symm) (congrArg
        (Progress.map (Call.sifted filter) fun result => result) (result.trans result'.symm))
  · obtain ⟨name, id, settings, rfl, rfl⟩ := activates
    have lt : id < world.activations.length := sound.lt_of_ids List.mem_cons_self
    exact sifted_pollReplaying h.bare (filters.activations id lt) alive lt name settings same
  · obtain ⟨id, rfl, rfl⟩ := syncs
    have lt : id < world.activations.length := sound.lt_of_ids List.mem_cons_self
    exact sifted_pollSync h.bare (filters.activations id lt) same

/-- Both worlds differ as before. -/
theorem polled {calls' : List Call} (sound : Sound world (call :: calls))
    (sound' : Sound world' (call' :: calls'))
    (filters : Filters filter world) (alike : call.sifted filter = call'.sifted filter) :
    Sifts filter (world.poll call).1 (world'.poll call').1 where
  bare := congrArg Prod.fst (h.poll sound filters alike)
  docs := by rw [sound.openDocuments_poll, sound'.openDocuments_poll, h.docs]
  language := ((filters_tells filter).keeps.poll ⟨sound, filters⟩).2.language

/-- A call that is given up leaves the same in both worlds. -/
theorem cancelled (sound : Sound world (call :: calls))
    (alike : call.sifted filter = call'.sifted filter) :
    Sifts filter (world.cancel call) (world'.cancel call') := by
  have same (world : World) : world.cancel call' = world.cancel call := by
    rcases Call.sifted_cases alike with rfl | ⟨replay, replay', same, others⟩
    · rfl
    · have current : replay.current = replay'.current := by
        simpa only [Replay.sifted] using congrArg Replay.current same
      rcases others with ⟨name, id, settings, rfl, rfl⟩ | ⟨id, rfl, rfl⟩ <;>
        simp only [World.cancel, Sync.cancelCall, Sync.cancelReplay, current]
  have kept {world : World} (sound : Sound world (call :: calls)) :
      (world.cancel call).env.openDocuments = world.env.openDocuments :=
    (Environment.Edits.evolves sound.sessions_cancel).openDocuments
  refine ⟨?_, ?_, ?_⟩
  · rw [same, bare_cancel sound, h.bare, ← bare_cancel (h.sound sound)]
  · rw [same, kept sound, kept (h.sound sound), h.docs]
  · rw [(hosted_cancel world call).language, h.language]

/-- A request is accepted in both worlds or in none. -/
theorem accept {request request' : WorldRequest}
    (alike : request.sifted filter = request'.sifted filter) :
    (world.accept request).map (Call.sifted filter) =
      (world'.accept request').map (Call.sifted filter) := by
  have bared (world : World) (request : WorldRequest) :
      (world.accept request).map (Call.sifted filter) =
        (world.bare.accept (request.sifted filter)).map (Call.sifted filter) := by
    rcases request with name | event | ⟨id, doc | doc | doc | docs⟩
    case sync.replay =>
      simp only [World.accept, WorldRequest.sifted]
      rw [show world.bare.isLive id = world.isLive id from rfl]
      split
      · simp [Call.sifted, SyncRequest.call, Replay.sifted, Replay.start]
      · rfl
    all_goals rfl
  rw [bared world request, bared world' request', alike, h.bare]

/-- The surroundings move both worlds alike, and they may open other documents that are not
tracked. -/
theorem moved (sound : Sound world calls) (move : WorldMove)
    (elsewhere : ∀ docs, move ≠ .documents docs) :
    Sifts filter (world.surround move) (world'.surround move) := by
  have kept {world : World} (sound : Sound world calls) :
      (world.surround move).env.openDocuments = world.env.openDocuments := by
    have moved := world.dress.world_surround world.bare (Nat.zero_le _) (sound.redress [] []) move
      (mere_admits _ _ _ fun docs same => absurd same (elsewhere docs))
    rw [dress_bare, dress_shift, Shift.zero_move, id] at moved
    rw [moved]
    rfl
  refine ⟨?_, ?_, ?_⟩
  · rw [bare_surround sound, h.bare, ← bare_surround (h.sound sound)]
  · rw [kept sound, kept (h.sound sound), h.docs]
  · rw [(hosted_surround world move).2, h.language]

end World.Sifts
end EngineSync
