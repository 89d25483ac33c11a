import Mathlib.Data.List.Nodup
import EngineSync.Scenario.Files

/-!
# Names in a tree

No directory has two entries of one name.  A tree has this from its start on, and no change takes it
away: an entry is put in place of one of its name, whatever way leads to it and whether the change
succeeds in the end (`FileTree.NamedOnce.changed`).
-/
namespace EngineSync

namespace Node

/-- No directory in the node has two entries of one name. -/
def NamedOnce (node : Node) : Prop :=
  ∀ place entries, node.at? place = some (.directory entries) → (entries.map (·.1)).Nodup

variable {name : String} {node : Node} {entries : List (String × Node)}

/-! ## Entries -/

theorem find?_put (other : String) :
    find? other (put name node entries) = if name = other then some node else find? other entries := by
  induction entries with
  | nil => simp [put, find?]
  | cons entry rest ih =>
    obtain ⟨first, old⟩ := entry
    by_cases here : first = name
    · subst here
      by_cases same : first = other <;> simp [put, find?, same]
    · by_cases same : first = other
      · subst same
        simp [put, find?, here, Ne.symm here]
      · simp [put, find?, here, same, ih]

theorem find?_erase (other : String) :
    find? other (entries.filter fun entry => entry.1 ≠ name) =
      if name = other then none else find? other entries := by
  induction entries with
  | nil => simp [find?]
  | cons entry rest ih =>
    obtain ⟨first, old⟩ := entry
    by_cases here : first = name
    · subst here
      by_cases same : first = other
      · simpa [find?, same] using ih
      · simpa [find?, same] using ih
    · by_cases same : first = other
      · subst same
        simp [find?, here, Ne.symm here]
      · simpa [find?, here, same] using ih

theorem mem_names_put {other : String} :
    other ∈ (put name node entries).map (·.1) ↔ other = name ∨ other ∈ entries.map (·.1) := by
  induction entries with
  | nil => simp [put]
  | cons entry rest ih =>
    obtain ⟨first, old⟩ := entry
    by_cases here : first = name
    · subst here
      simp [put]
    · simp only [put, here, if_false, List.map_cons, List.mem_cons, ih]
      exact or_left_comm

theorem nodup_put (once : (entries.map (·.1)).Nodup) :
    ((put name node entries).map (·.1)).Nodup := by
  induction entries with
  | nil => simp [put]
  | cons entry rest ih =>
    obtain ⟨first, old⟩ := entry
    obtain ⟨away, rest_once⟩ := List.nodup_cons.mp once
    by_cases here : first = name
    · subst here
      simpa [put] using once
    · simp only [put, here, if_false, List.map_cons]
      refine List.nodup_cons.mpr ⟨fun mem => ?_, ih rest_once⟩
      rcases mem_names_put.mp mem with same | older
      · exact here same
      · exact away older

/-! ## Nodes -/

theorem namedOnce_file (bytes : List UInt8) : (Node.file bytes).NamedOnce := by
  intro place entries found
  cases place <;> simp [at?] at found

theorem namedOnce_link (target : String) : (Node.link target).NamedOnce := by
  intro place entries found
  cases place <;> simp [at?] at found

theorem namedOnce_directory : (Node.directory entries).NamedOnce ↔
    (entries.map (·.1)).Nodup ∧ ∀ name node, find? name entries = some node → node.NamedOnce := by
  constructor
  · intro h
    refine ⟨h [] entries rfl, fun name node found place inner there => ?_⟩
    exact h (name :: place) inner (by simp [at?, found, there])
  · rintro ⟨once, nodes⟩ place inner there
    cases place with
    | nil =>
      obtain rfl : entries = inner := by simpa [at?] using there
      exact once
    | cons name place =>
      obtain ⟨node, found, there⟩ := Option.bind_eq_some_iff.mp there
      exact nodes name node found place inner there

theorem namedOnce_empty : (Node.directory []).NamedOnce :=
  namedOnce_directory.mpr ⟨List.nodup_nil, nofun⟩

theorem namedOnce_put (h : (Node.directory entries).NamedOnce) (new : node.NamedOnce) :
    (Node.directory (put name node entries)).NamedOnce := by
  obtain ⟨once, nodes⟩ := namedOnce_directory.mp h
  refine namedOnce_directory.mpr ⟨nodup_put once, fun other found there => ?_⟩
  rw [find?_put] at there
  split at there
  · cases there
    exact new
  · exact nodes other found there

theorem namedOnce_erase (h : (Node.directory entries).NamedOnce) :
    (Node.directory (entries.filter fun entry => entry.1 ≠ name)).NamedOnce := by
  obtain ⟨once, nodes⟩ := namedOnce_directory.mp h
  refine namedOnce_directory.mpr ⟨once.sublist (List.filter_sublist.map _), ?_⟩
  intro other found there
  rw [find?_erase] at there
  split at there
  · cases there
  · exact nodes other found there

/-- What changes the entries of one directory and keeps their names apart keeps those of the whole
node apart. -/
theorem namedOnce_updateEntries {f : List (String × Node) → List (String × Node)}
    (keeps : ∀ entries, (Node.directory entries).NamedOnce → (Node.directory (f entries)).NamedOnce)
    (place : List String) (node : Node) (h : node.NamedOnce) :
    (updateEntries f place node).NamedOnce := by
  induction place generalizing node with
  | nil =>
    cases node with
    | file => exact h
    | link => exact h
    | directory entries => exact keeps entries h
  | cons name rest ih =>
    cases node with
    | file => exact h
    | link => exact h
    | directory entries =>
      simp only [updateEntries]
      split
      · next node found =>
        exact namedOnce_put h (ih node ((namedOnce_directory.mp h).2 name node found))
      · exact h

end Node

namespace FileTree

/-- No directory of the tree has two entries of one name. -/
def NamedOnce (tree : FileTree) : Prop :=
  tree.root.NamedOnce

/-- The tree after changes one after another. -/
def changed (tree : FileTree) (steps : List Scenario.FileStep) : FileTree :=
  steps.foldl (fun tree step => (step.run tree).1) tree

theorem namedOnce_empty : empty.NamedOnce :=
  Node.namedOnce_empty

namespace NamedOnce
variable {tree : FileTree}

theorem put (h : tree.NamedOnce) (place : List String) (name : String) {node : Node}
    (new : node.NamedOnce) : (tree.put place name node).NamedOnce :=
  Node.namedOnce_updateEntries (fun _ once => Node.namedOnce_put once new) place tree.root h

theorem erase (h : tree.NamedOnce) (place : List String) (name : String) :
    (tree.erase place name).NamedOnce :=
  Node.namedOnce_updateEntries (fun _ once => Node.namedOnce_erase once) place tree.root h

theorem clear (h : tree.NamedOnce) (place : List String) : (tree.clear place).NamedOnce :=
  Node.namedOnce_updateEntries (fun _ _ => Node.namedOnce_empty) place tree.root h

/-- The entries that a path leads to have different names. -/
theorem entries (h : tree.NamedOnce) {path : String} {nodes : List (String × Node)}
    (readable : tree.entries path = .ok nodes) : (nodes.map (·.1)).Nodup := by
  unfold FileTree.entries find at readable
  cases located : tree.locate (fun _ => true) path with
  | error kind => simp [located, Except.map] at readable
  | ok found =>
    obtain ⟨place, node⟩ := found
    -- whatever was walked through, the path ends at a place of the tree
    have there : tree.at? place = some node := by
      unfold locate at located
      cases walked : tree.spot (fun _ => true) path with
      | error kind => simp [walked, Except.bind] at located
      | ok spot =>
        simp only [walked, Except.bind] at located
        split at located
        · cases located
        · split at located
          · cases located
          · next node' here =>
            split at located
            · cases located
            · cases located
              exact here
    cases node with
    | file bytes => simp [located, Except.map] at readable
    | link target => simp [located, Except.map] at readable
    | directory inner =>
      obtain rfl : inner = nodes := by simpa [located, Except.map] using readable
      exact h place inner there

/-! ## Changes -/

theorem makeDirectory (h : tree.NamedOnce) (path : String) :
    (tree.makeDirectory path).1.NamedOnce := by
  unfold FileTree.makeDirectory
  split
  · exact h.put _ _ Node.namedOnce_empty
  · exact h

theorem ensureDirectory (h : tree.NamedOnce) (path : String) :
    (tree.ensureDirectory path).1.NamedOnce := by
  have made := h.makeDirectory path
  unfold FileTree.ensureDirectory
  split
  · next tree' failed =>
    rw [failed] at made
    split <;> exact made
  · exact made

theorem ensureNested (h : tree.NamedOnce) (paths : List (List String)) :
    (tree.ensureNested paths).1.NamedOnce := by
  induction paths generalizing tree with
  | nil => exact h
  | cons parts parents ih =>
    have first := h.ensureDirectory (Path.ofParts parts)
    unfold FileTree.ensureNested
    dsimp only
    split
    · next tree' missing =>
      rw [missing] at first
      have rest := ih first
      split
      · next tree'' made =>
        rw [made] at rest
        exact rest.ensureDirectory _
      · exact rest
    · exact first

theorem writeFile (h : tree.NamedOnce) (path : String) (bytes : List UInt8) :
    (tree.writeFile path bytes).1.NamedOnce := by
  unfold FileTree.writeFile
  split
  · exact h
  · split
    · exact h
    · split
      · exact h
      · split
        · exact h
        · exact h.put _ _ (Node.namedOnce_file bytes)

theorem makeLink (h : tree.NamedOnce) (path target : String) :
    (tree.makeLink path target).1.NamedOnce := by
  unfold FileTree.makeLink
  split
  · exact h
  · split
    · exact h
    · split
      · exact h
      · split
        · exact h
        · split
          · exact h
          · exact h.put _ _ (Node.namedOnce_link target)

theorem removeEmpty (h : tree.NamedOnce) (path : String) :
    (tree.removeEmpty path).1.NamedOnce := by
  unfold FileTree.removeEmpty
  split
  · exact h
  · exact h
  · split
    · exact h
    · split
      · exact h
      · split
        · exact h
        · exact h.erase _ _
        · exact h

theorem remove (h : tree.NamedOnce) (path : String) : (tree.remove path).1.NamedOnce := by
  unfold FileTree.remove
  split
  · exact h
  · exact (h.clear _).removeEmpty path
  · exact h.erase _ _

/-- What is done once the parents of a path are made. -/
theorem withParents (h : tree.NamedOnce) {path : String} {next : FileTree → Change}
    (keeps : ∀ tree : FileTree, tree.NamedOnce → (next tree).1.NamedOnce) :
    (match tree.makeParents path with
      | (tree, .ok ()) => next tree
      | failed => failed : Change).1.NamedOnce := by
  have made := h.ensureNested (Path.parents path)
  split
  · next tree' succeeded =>
    exact keeps tree' (by rw [makeParents] at succeeded; rw [succeeded] at made; exact made)
  · exact made

/-- **Every change keeps names apart**, however it ends. -/
theorem change (h : tree.NamedOnce) (step : Scenario.FileStep) : (step.change tree).1.NamedOnce := by
  cases step with
  | write path bytes => exact h.withParents fun tree once => once.writeFile path bytes
  | makeDirectory path => exact h.ensureNested _
  | link path target => exact h.withParents fun tree once => once.makeLink path target
  | remove path => exact h.remove path

/-- So do changes one after another. -/
theorem changed (h : tree.NamedOnce) (steps : List Scenario.FileStep) :
    (tree.changed steps).NamedOnce := by
  induction steps generalizing tree with
  | nil => exact h
  | cons step rest ih =>
    have outcome : (step.run tree).1 = (step.change tree).1 := by
      unfold Scenario.FileStep.run
      split <;> next result => rw [result]
    refine @ih (step.run tree).1 ?_
    rw [outcome]
    exact h.change step

end NamedOnce
end FileTree
end EngineSync
