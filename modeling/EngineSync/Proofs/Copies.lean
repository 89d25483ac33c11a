import EngineSync.Proofs.Mirroring

/-!
# What the engine has of a document

What a session was asked to do with a document makes a copy of it, and so do the events in the
editor.  The session of an activation that nobody stood in front of when it subscribed is asked for
every tracked document and every event of one, once and in order, so the copies are the same.
-/
namespace EngineSync

/-- A document as the engine has it. -/
structure Copy where
  version : Int
  text : String
deriving DecidableEq, Repr

/-- What becomes of a document that the engine is asked to update or to forget. -/
def Request.applied : Option Copy → Request → Option Copy
  | _, .update _ version text => some ⟨version, text⟩
  | _, .close _ => none
  | copy, .configure _ => copy

namespace Event

/-- What becomes of a document in the editor. -/
def applied : Option Copy → Event → Option Copy
  | _, .opened doc | _, .changed doc => some ⟨doc.version, doc.text⟩
  | _, .closed _ => none
  | copy, .configuration _ => copy

/-- What the engine is to be asked for because of an event. -/
def request? : Event → Option Request
  | .opened doc | .changed doc => some doc.update
  | .closed doc => some (.close doc.uri)
  | .configuration _ => none

/-- Whether an event is one of a document that is tracked. -/
def isOf (filter : DocumentFilter) (uri : Uri) : Event → Bool
  | .opened doc | .changed doc | .closed doc => filter.tracks doc && doc.uri = uri
  | .configuration _ => false

variable {filter : DocumentFilter} {uri : Uri}

theorem due_forwarding (event : Event) :
    (event.forwarding?.toList.flatMap (·.due filter)).filter (·.uri? = some uri) =
      if event.isOf filter uri then event.request?.toList else [] := by
  have each (forwarding : Forwarding) (arriving : forwarding.stage = .arriving) :
      ([forwarding].flatMap (·.due filter)).filter (·.uri? = some uri) =
        if filter.tracks forwarding.doc && forwarding.doc.uri = uri then [forwarding.request]
        else [] := by
    rw [List.flatMap_singleton, Forwarding.due, arriving]
    by_cases tracked : filter.tracks forwarding.doc = true <;>
      by_cases here : forwarding.doc.uri = uri <;>
      simp [tracked, here, Forwarding.request_uri?]
  cases event with
  | configuration change => rfl
  | opened doc | changed doc => exact each (.update doc) rfl
  | closed doc => exact each (.close doc) rfl

theorem due_forwardings (events : List Event) :
    ((events.filterMap forwarding?).flatMap (·.due filter)).filter (·.uri? = some uri) =
      (events.filter (·.isOf filter uri)).filterMap request? := by
  induction events with
  | nil => rfl
  | cons event events ih =>
    have first := @due_forwarding filter uri event
    have split : (event :: events).filterMap forwarding? =
        event.forwarding?.toList ++ events.filterMap forwarding? := by
      cases same : event.forwarding? <;> simp [same]
    rw [split, List.flatMap_append, List.filter_append, first, ih, List.filter_cons]
    split
    · cases same : event.request? <;> simp [same]
    · rfl

/-- The engine makes of a request what the editor has made of the event. -/
theorem applied_requests (events : List Event) (copy : Option Copy) :
    (events.filterMap request?).foldl Request.applied copy = events.foldl applied copy := by
  induction events generalizing copy with
  | nil => rfl
  | cons event events ih => cases event <;> exact ih _

end Event

namespace World
variable {world : World} {calls : List Call} {id : ActivationId} {docs : List Document}
  {events : List Event}

/-- What a session is to be asked to do with one document. -/
theorem due_outlook (filter : DocumentFilter) (docs : List Document) (events : List Event)
    (uri : Uri) : ((outlook docs events).flatMap (·.due filter)).filter (·.uri? = some uri) =
      (docs.filter fun doc => filter.tracks doc && doc.uri = uri).map Document.update ++
        (events.filter (·.isOf filter uri)).filterMap Event.request? := by
  rw [outlook, List.flatMap_append, List.filter_append, due_updates, Event.due_forwardings,
    List.filter_map, List.filter_filter]
  refine congrArg (· ++ _) (congrArg _ (List.filter_congr fun doc _ => ?_))
  simp [Document.update, Request.uri?, Bool.and_comm]

/-- The open documents are asked for as if they were opened. -/
theorem applied_asked (filter : DocumentFilter) (docs : List Document) (events : List Event)
    (uri : Uri) :
    ((docs.filter fun doc => filter.tracks doc && doc.uri = uri).map Document.update ++
        (events.filter (·.isOf filter uri)).filterMap Event.request?).foldl Request.applied none =
      ((docs.map Event.opened ++ events).filter (·.isOf filter uri)).foldl Event.applied none := by
  have opened : (docs.filter fun doc => filter.tracks doc && doc.uri = uri).map Document.update =
      ((docs.map Event.opened).filter (·.isOf filter uri)).filterMap Event.request? := by
    rw [List.filter_map, List.filterMap_map, ← List.filterMap_eq_map]
    rfl
  rw [opened, ← List.filterMap_append, ← List.filter_append, Event.applied_requests]

/-- Only publications bring documents. -/
theorem backlog_eq_nil (finished : ∀ call ∈ calls, call.isPublication = false) :
    backlog id calls = [] := by
  refine List.flatMap_eq_nil_iff.mpr fun call mem => ?_
  cases call with
  | activate _ _ | sync _ _ => rfl
  | publish _ => cases finished _ mem

/-- When no publication is under way, everything has been asked for. -/
theorem Mirrors.through (h : Mirrors id docs events world calls) (up : ¬Ended id world)
    (released : (world.activation id).barrier = .open)
    (finished : ∀ call ∈ calls, call.isPublication = false) (uri : Uri) :
    let filter := (world.activation id).filter
    world.asked id uri =
      (docs.filter fun doc => filter.tracks doc && doc.uri = uri).map Document.update ++
        (events.filter (·.isOf filter uri)).filterMap Event.request? := by
  intro filter
  rcases (h.resolve_left up).2 with ⟨closed, -⟩ | ⟨-, mirrors⟩
  · rw [closed] at released
    cases released
  · have asked := mirrors.asked uri
    rw [backlog_eq_nil finished, List.flatMap_nil, List.filter_nil, List.append_nil] at asked
    exact asked.trans (due_outlook filter docs events uri)

end World

open World in
/-- **Sessions mirror their documents.**  An activation subscribes while nobody listens to
documents, and its replay is through.  Whatever the engine answers and whenever it does, and whoever
comes later: if the publications are neither given up nor overtaken and none of them is under way
any more, then its session, which was not ended, was asked for exactly the tracked documents that
were open and after them for the tracked documents of the events, in the order in which these were
published.  So what the requests make of a document is what the editor has made of it. -/
theorem exact_mirroring (outset : Outset) (ledger : Ledger)
    (before rest : List (Action WorldRequest WorldMove)) (place : Nat) (uri : Uri) :
    let work := World.machine.run (outset.host ledger) before
    let subscribed := World.machine.perform work (.poll place)
    let later := World.machine.run subscribed rest
    let id := work.state.activations.length
    let docs := work.state.env.openDocuments
    let events := work.calls.filterMap Call.unpublished? ++ rest.filterMap published?
    let filter := (later.state.activation id).filter
    id < subscribed.state.activations.length →
    (∀ kind ≠ .configurationChanged, work.state.env.bus.subscribers kind = []) →
    TakesTurns id subscribed rest →
    (later.state.activation id).barrier = .open → ¬Ended id later.state →
    (∀ call ∈ later.calls, call.isPublication = false) →
    later.state.asked id uri =
        (docs.filter fun doc => filter.tracks doc && doc.uri = uri).map Document.update ++
          (events.filter (·.isOf filter uri)).filterMap Event.request? ∧
      (later.state.asked id uri).foldl Request.applied none =
        ((docs.map Event.opened ++ events).filter (·.isOf filter uri)).foldl Event.applied none := by
  intro work subscribed later id docs events filter born alone turns released up finished
  have known := (known_tells ledger.live).machine.run (known_host outset ledger) before
  obtain ⟨noted, mirrors⟩ := subscribed_poll known born alone
  have known' := (known_tells ledger.live).machine.run known [.poll place]
  rw [Machine.chronicle, Machine.chronicle, List.append_nil] at known'
  have asked := (mirrors.run known' noted turns).through up released finished uri
  exact ⟨asked, (congrArg (·.foldl Request.applied none) asked).trans (applied_asked _ _ _ _)⟩

open World in
/-- A document changes twice and is closed, the first change while its open text is held back; the
engine holds back the second text as well and refuses the text of another document. -/
theorem exact_mirroring_of_refused_text :
    let doc (name : String) (version : Int) : Document :=
      ⟨⟨"file:///" ++ name⟩, "qsharp", version, name, false⟩
    let x := doc "x"
    let y := doc "y" 1
    let readme : Document := ⟨⟨"file:///readme"⟩, "markdown", 1, "", false⟩
    let outset : Outset := ⟨⟨false, false, false⟩, ⟨false, false, false, ["file:///y"]⟩,
      ["file:///x@1", "file:///x@2"], ⟨.directory [("engine.wasm", .file [0])]⟩, .memory .standard,
      [readme, x 1], "qsharp", "engine.wasm"⟩
    let ledger : Ledger := ⟨[], []⟩
    let publish (event : Event) : Action WorldRequest WorldMove := .start (.publish event)
    let before : List (Action WorldRequest WorldMove) := [.start (.activate "a")]
    let rest := [publish (.changed (x 2)), .poll 1, publish (.opened y), .poll 2,
      publish (.changed (x 3)), .poll 3, .move (.release "file:///x@1"), .poll 0, .poll 0, .poll 1,
      .poll 1, publish (.closed (x 3)), .poll 2, .move (.release "file:///x@2"), .poll 0, .poll 0,
      .poll 0]
    let subscribed := World.machine.perform (World.machine.run (outset.host ledger) before) (.poll 0)
    let later := World.machine.run subscribed rest
    later.results = [(0, .active), (2, .failed (.engine (.rejected "updateDocument" "refused"))),
        (1, .delivered), (3, .delivered), (4, .delivered)] ∧
      later.state.asked 0 y.uri = [y.update] ∧
      later.state.asked 0 (x 1).uri =
        [(x 1).update, (x 2).update, (x 3).update, .close (x 1).uri] ∧
      (later.state.asked 0 (x 1).uri).foldl Request.applied none = none := by
  intro doc x y readme outset ledger publish before rest subscribed later
  have born : 0 < subscribed.state.activations.length := by decide +kernel
  have alone : ∀ kind ≠ .configurationChanged, (World.machine.run (outset.host ledger)
      before).state.env.bus.subscribers kind = [] := fun _ _ => rfl
  have turns : TakesTurns 0 subscribed rest := by decide +kernel
  have released : (later.state.activation 0).barrier = .open := by decide +kernel
  have up : ¬Ended 0 later.state := by
    unfold Ended
    decide +kernel
  have finished : ∀ call ∈ later.calls, call.isPublication = false := by decide +kernel
  have mirrored (uri : Uri) :=
    exact_mirroring outset ledger before rest 0 uri born alone turns released up finished
  exact ⟨by decide +kernel, (mirrored y.uri).1.trans (by decide +kernel),
    (mirrored (x 1).uri).1.trans (by decide +kernel),
    (mirrored (x 1).uri).2.trans (by decide +kernel)⟩

open World in
/-- An activation takes the place of another one of its name.  The engine refuses a text that is
published meanwhile, so the publication ends with the listener of the old one: the new one is ready,
nothing was given up and nothing is under way, but its session was never asked for the document. -/
theorem exact_mirroring_behind_another :
    let doc (name : String) : Document := ⟨⟨"file:///" ++ name⟩, "qsharp", 1, name, false⟩
    let outset : Outset := ⟨⟨false, false, false⟩, ⟨false, false, false, []⟩, ["file:///x@1"],
      ⟨.directory [("engine.wasm", .file [0])]⟩, .memory .standard, [doc "x"], "qsharp",
      "engine.wasm"⟩
    let release : Action WorldRequest WorldMove := .move (.release "file:///x@1")
    let work := outset.reach
      [.start (.activate "a"), .poll 0, release, .poll 0, .start (.activate "a")]
    let subscribed := World.machine.perform work (.poll 0)
    let rest := [.move (.refuse ⟨false, false, false, ["file:///y"]⟩),
      .start (.publish (.opened (doc "y"))), .poll 1, release, .poll 0]
    let later := World.machine.run subscribed rest
    work.state.activations.length = 1 ∧ subscribed.state.activations.length = 2 ∧
      TakesTurns 1 subscribed rest ∧ later.state.live? "a" = some 1 ∧
      (later.state.activation 1).barrier = .open ∧ ¬Ended 1 later.state ∧ later.calls = [] ∧
      later.results = [(0, .active),
        (2, .failed (.engine (.rejected "updateDocument" "refused"))), (1, .active)] ∧
      (later.state.activation 1).filter.tracks (doc "y") = true ∧
      rest.filterMap published? = [.opened (doc "y")] ∧
      later.state.asked 1 (doc "x").uri = [(doc "x").update] ∧
      later.state.asked 1 (doc "y").uri ≠ [(doc "y").update] := by
  intro doc outset release work subscribed rest later
  have up : ¬Ended 1 later.state := by
    unfold Ended
    decide +kernel
  exact ⟨by decide +kernel, by decide +kernel, by decide +kernel, by decide +kernel,
    by decide +kernel, up, by decide +kernel, by decide +kernel, by decide +kernel,
    by decide +kernel, by decide +kernel, by decide +kernel⟩

end EngineSync
