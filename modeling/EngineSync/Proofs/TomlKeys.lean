import Mathlib.Data.List.Nodup
import EngineSync.Toml.Document

/-!
# Keys of a document

A document that is read has every key of a table once, in its root and in every table inside,
however its lines were ordered: a line only ever adds a key that is not there yet, or gives way to a
table in place of another.  So what stands under a key does not depend on the order of the keys.
-/
namespace EngineSync.Toml

/-- Every table in a value has each of its keys once. -/
inductive Value.KeyedOnce : Value → Prop
  | string (text : String) : KeyedOnce (.string text)
  | integer (value : Int) : KeyedOnce (.integer value)
  | float (inRange : Bool) : KeyedOnce (.float inRange)
  | boolean (value : Bool) : KeyedOnce (.boolean value)
  | moment : KeyedOnce .moment
  | array {items : List Value} (each : ∀ item ∈ items, KeyedOnce item) : KeyedOnce (.array items)
  | tables {items : List (List (String × Value))}
      (once : ∀ entries ∈ items, (entries.map (·.1)).Nodup)
      (each : ∀ entries ∈ items, ∀ entry ∈ entries, KeyedOnce entry.2) : KeyedOnce (.tables items)
  | table (origin : Origin) {entries : List (String × Value)} (once : (entries.map (·.1)).Nodup)
      (each : ∀ entry ∈ entries, KeyedOnce entry.2) : KeyedOnce (.table origin entries)

/-- The entries of a table have their keys once, and so does every table in them. -/
structure KeyedOnce (entries : Entries) : Prop where
  once : (entries.map (·.1)).Nodup
  each : ∀ entry ∈ entries, entry.2.KeyedOnce

variable {key : String} {value : Value} {entries result : Entries} {origin : Origin}

/-! ## Looking up a key -/

theorem find?_eq_none_iff : find? key entries = none ↔ key ∉ entries.map (·.1) := by
  induction entries with
  | nil => simp [find?]
  | cons entry entries ih =>
    obtain ⟨k, v⟩ := entry
    rw [find?, List.map_cons, List.mem_cons]
    split
    next same => simp [same]
    next other =>
      rw [ih, not_or]
      exact ⟨fun out => ⟨Ne.symm other, out⟩, fun out => out.2⟩

theorem mem_of_find? (found : find? key entries = some value) : (key, value) ∈ entries := by
  induction entries with
  | nil => exact absurd found nofun
  | cons entry entries ih =>
    obtain ⟨k, v⟩ := entry
    rw [find?] at found
    split at found
    next same =>
      rw [← same, ← Option.some.inj found]
      exact List.mem_cons_self
    next => exact List.mem_cons_of_mem _ (ih found)

/-- Where a key stands once, what stands under it is found. -/
theorem find?_of_mem (once : (entries.map (·.1)).Nodup) (mem : (key, value) ∈ entries) :
    find? key entries = some value := by
  induction entries with
  | nil => exact absurd mem List.not_mem_nil
  | cons entry entries ih =>
    obtain ⟨k, v⟩ := entry
    rw [List.map_cons, List.nodup_cons] at once
    rw [find?]
    rcases List.mem_cons.mp mem with own | inside
    · obtain ⟨rfl, rfl⟩ := Prod.mk.inj own
      exact if_pos rfl
    · have other : k ≠ key := by
        rintro rfl
        exact once.1 (List.mem_map.mpr ⟨_, inside, rfl⟩)
      rw [if_neg other, ih once.2 inside]

/-- Where keys stand once, the same is found under a key whatever order they are in. -/
theorem find?_of_perm {others : Entries} (once : (entries.map (·.1)).Nodup)
    (perm : others.Perm entries) : find? key others = find? key entries := by
  have onceOthers : (others.map (·.1)).Nodup := (perm.map (·.1)).nodup_iff.mpr once
  cases found : find? key entries with
  | none =>
    rw [find?_eq_none_iff] at found ⊢
    exact fun mem => found ((perm.map (·.1)).subset mem)
  | some value => exact find?_of_mem onceOthers (perm.symm.subset (mem_of_find? found))

/-- Entries of other keys do not matter to a key. -/
theorem find?_filter (keep : String → Bool) (kept : keep key = true) (entries : Entries) :
    find? key (entries.filter fun entry => keep entry.1) = find? key entries := by
  induction entries with
  | nil => rfl
  | cons entry entries ih =>
    obtain ⟨k, v⟩ := entry
    rw [find?]
    split
    next same =>
      subst same
      rw [List.filter_cons, if_pos kept, find?, if_pos rfl]
    next other =>
      by_cases own : keep k = true
      · rw [List.filter_cons, if_pos own, find?, if_neg other, ih]
      · rw [List.filter_cons, if_neg own, ih]

/-! ## Changing a table -/

theorem keys_replace : (replace key value entries).map (·.1) = entries.map (·.1) := by
  induction entries with
  | nil => rfl
  | cons entry entries ih =>
    obtain ⟨k, v⟩ := entry
    rw [replace]
    split
    · rfl
    · rw [List.map_cons, List.map_cons, ih]

theorem mem_replace {entry : String × Value} (mem : entry ∈ replace key value entries) :
    entry = (key, value) ∨ entry ∈ entries := by
  induction entries with
  | nil => exact absurd mem List.not_mem_nil
  | cons first entries ih =>
    obtain ⟨k, v⟩ := first
    rw [replace] at mem
    split at mem
    next same =>
      rw [same] at mem
      exact (List.mem_cons.mp mem).imp_right (List.mem_cons_of_mem _)
    next =>
      rcases List.mem_cons.mp mem with rfl | inside
      · exact .inr List.mem_cons_self
      · exact (ih inside).imp_right (List.mem_cons_of_mem _)

namespace KeyedOnce

theorem nil : KeyedOnce [] := ⟨List.nodup_nil, nofun⟩

theorem table (tidy : KeyedOnce entries) (origin : Origin) :
    (Value.table origin entries).KeyedOnce :=
  .table origin tidy.once tidy.each

theorem of_table (tidy : (Value.table origin entries).KeyedOnce) : KeyedOnce entries := by
  cases tidy with
  | table _ once each => exact ⟨once, each⟩

theorem tables {items : List Entries} (tidy : ∀ entries ∈ items, KeyedOnce entries) :
    (Value.tables items).KeyedOnce :=
  .tables (fun entries mem => (tidy entries mem).once) fun entries mem => (tidy entries mem).each

theorem of_tables {items : List Entries} (tidy : (Value.tables items).KeyedOnce) :
    ∀ entries ∈ items, KeyedOnce entries := by
  cases tidy with
  | tables once each => exact fun entries mem => ⟨once entries mem, each entries mem⟩

theorem of_find? (tidy : KeyedOnce entries) (found : find? key entries = some value) :
    value.KeyedOnce :=
  tidy.each _ (mem_of_find? found)

theorem append_new (tidy : KeyedOnce entries) (new : find? key entries = none)
    (own : value.KeyedOnce) : KeyedOnce (entries ++ [(key, value)]) where
  once := by
    rw [List.map_append, List.map_singleton]
    refine List.nodup_append.mpr ⟨tidy.once, List.nodup_singleton _, fun k mem other single => ?_⟩
    rintro rfl
    rw [List.mem_singleton.mp single] at mem
    exact find?_eq_none_iff.mp new mem
  each := by
    intro entry mem
    rcases List.mem_append.mp mem with before | last
    · exact tidy.each entry before
    · rw [List.mem_singleton.mp last]
      exact own

theorem replace (tidy : KeyedOnce entries) (own : value.KeyedOnce) :
    KeyedOnce (replace key value entries) where
  once := by
    rw [keys_replace]
    exact tidy.once
  each := by
    intro entry mem
    rcases mem_replace mem with rfl | before
    · exact own
    · exact tidy.each entry before

theorem put (tidy : KeyedOnce entries) (own : value.KeyedOnce) :
    KeyedOnce (put key value entries) := by
  unfold Toml.put
  split
  next new => exact tidy.append_new new own
  next => exact tidy.replace own

/-- What a change keeps at the end of a path is kept on the whole way there. -/
theorem modifyAt {dotted : Bool} {change : Origin → Entries → Option Entries}
    (keeps : ∀ origin entries result, KeyedOnce entries → change origin entries = some result →
      KeyedOnce result)
    {path : List String} (tidy : KeyedOnce entries)
    (changed : modifyAt dotted change path origin entries = some result) : KeyedOnce result := by
  induction path generalizing origin entries result with
  | nil => exact keeps origin entries result tidy changed
  | cons key path ih =>
    rw [Toml.modifyAt] at changed
    split at changed
    next =>
      obtain ⟨table, inside, rfl⟩ := Option.map_eq_some_iff.mp changed
      exact tidy.put ((ih .nil inside).table _)
    next items found =>
      have own := of_tables (tidy.of_find? found)
      split at changed
      next => exact absurd changed nofun
      next item last =>
        obtain ⟨table, inside, rfl⟩ := Option.map_eq_some_iff.mp changed
        refine tidy.put (tables fun entries mem => ?_)
        rcases List.mem_append.mp mem with before | single
        · exact own entries (List.dropLast_subset _ before)
        · rw [List.mem_singleton.mp single]
          exact ih (own item (List.mem_of_getLast? last)) inside
    next origin table found =>
      split at changed
      next => exact absurd changed nofun
      next =>
        obtain ⟨table, inside, rfl⟩ := Option.map_eq_some_iff.mp changed
        exact tidy.put ((ih (of_table (tidy.of_find? found)) inside).table _)
    next => exact absurd changed nofun

theorem addKeyed {parts : List String} (tidy : KeyedOnce entries) (own : value.KeyedOnce)
    (added : addKeyed parts value origin entries = some result) : KeyedOnce result := by
  unfold Toml.addKeyed at added
  split at added
  next => exact absurd added nofun
  next key last =>
    refine tidy.modifyAt (fun origin entries result tidy changed => ?_) added
    split at changed
    next => exact absurd changed nofun
    next =>
      split at changed
      next => exact absurd changed nofun
      next new =>
        rw [← Option.some.inj changed]
        exact tidy.append_new (by simpa using new) own

theorem openTable {parts : List String} (tidy : KeyedOnce entries)
    (opened : openTable parts entries = some result) : KeyedOnce result := by
  unfold Toml.openTable at opened
  split at opened
  next => exact absurd opened nofun
  next key last =>
    refine tidy.modifyAt (fun origin entries result tidy changed => ?_) opened
    split at changed
    next new =>
      rw [← Option.some.inj changed]
      exact tidy.append_new new (nil.table _)
    next found =>
      rw [← Option.some.inj changed]
      exact tidy.replace ((of_table (tidy.of_find? found)).table _)
    next => exact absurd changed nofun

theorem openItem {parts : List String} (tidy : KeyedOnce entries)
    (opened : openItem parts entries = some result) : KeyedOnce result := by
  unfold Toml.openItem at opened
  split at opened
  next => exact absurd opened nofun
  next key last =>
    refine tidy.modifyAt (fun origin entries result tidy changed => ?_) opened
    split at changed
    next new =>
      rw [← Option.some.inj changed]
      refine tidy.append_new new (tables fun entries mem => ?_)
      rw [List.mem_singleton.mp mem]
      exact nil
    next items found =>
      rw [← Option.some.inj changed]
      refine tidy.replace (tables fun entries mem => ?_)
      rcases List.mem_append.mp mem with before | single
      · exact of_tables (tidy.of_find? found) entries before
      · rw [List.mem_singleton.mp single]
        exact nil
    next => exact absurd changed nofun

end KeyedOnce

/-! ## Reading -/

theorem keyedOnce_scalar? {text : List Char} (read : scalar? text = some value) :
    value.KeyedOnce := by
  unfold scalar? at read
  split at read
  next =>
    rw [← Option.some.inj read]
    exact .boolean _
  split at read
  next =>
    rw [← Option.some.inj read]
    exact .boolean _
  split at read
  next =>
    rw [← Option.some.inj read]
    exact .integer _
  split at read
  next float =>
    rw [← Option.some.inj read]
    unfold float? at float
    simp only at float
    split at float
    next =>
      rw [← Option.some.inj float]
      exact .float _
    split at float
    next =>
      rw [← Option.some.inj float]
      exact .float _
    next => exact absurd float nofun
  split at read
  next =>
    rw [← Option.some.inj read]
    exact .moment
  next => exact absurd read nofun

theorem keyedOnce_bareValue? {text rest : List Char} (read : bareValue? text = some (value, rest)) :
    value.KeyedOnce := by
  have scalar {raw rest' : List Char} (read : (scalar? raw).map (·, rest') = some (value, rest)) :
      value.KeyedOnce := by
    obtain ⟨own, found, same⟩ := Option.map_eq_some_iff.mp read
    rw [← (Prod.mk.inj same).1]
    exact keyedOnce_scalar? found
  unfold bareValue? at read
  simp only at read
  split at read
  next =>
    split at read
    next => exact scalar read
    next => exact scalar read
  next => exact scalar read

/-- Values, items and members that are read have their keys once. -/
theorem keyedOnce_value? (fuel : Nat) :
    (∀ depth text value rest, value? fuel depth text = some (value, rest) → value.KeyedOnce) ∧
    (∀ depth text items result rest, (∀ item ∈ items, Value.KeyedOnce item) →
      items? fuel depth text items = some (result, rest) → ∀ item ∈ result, item.KeyedOnce) ∧
    (∀ depth text entries result rest, KeyedOnce entries →
      members? fuel depth text entries = some (result, rest) → KeyedOnce result) := by
  induction fuel with
  | zero => exact ⟨nofun, nofun, nofun⟩
  | succ fuel ih =>
    obtain ⟨values, items, members⟩ := ih
    refine ⟨fun depth text value rest read => ?_, fun depth text before result rest tidy read => ?_,
      fun depth text entries result rest tidy read => ?_⟩
    · unfold value? at read
      split at read
      next =>
        obtain ⟨own, -, same⟩ := Option.map_eq_some_iff.mp read
        rw [← (Prod.mk.inj same).1]
        exact .string _
      next =>
        obtain ⟨own, -, same⟩ := Option.map_eq_some_iff.mp read
        rw [← (Prod.mk.inj same).1]
        exact .string _
      next =>
        split at read
        next => exact absurd read nofun
        next =>
          obtain ⟨own, found, same⟩ := Option.map_eq_some_iff.mp read
          rw [← (Prod.mk.inj same).1]
          exact .array (items _ _ _ own.1 own.2 (fun _ mem => absurd mem List.not_mem_nil) found)
      next =>
        split at read
        next => exact absurd read nofun
        next =>
          obtain ⟨own, found, same⟩ := Option.map_eq_some_iff.mp read
          rw [← (Prod.mk.inj same).1]
          exact (members _ _ _ own.1 own.2 .nil found).table _
      next => exact keyedOnce_bareValue? read
    · unfold items? at read
      obtain ⟨text, -, read⟩ := Option.bind_eq_some_iff.mp read
      split at read
      next =>
        rw [← (Prod.mk.inj (Option.some.inj read)).1]
        exact tidy
      next =>
        obtain ⟨⟨value, text⟩, found, read⟩ := Option.bind_eq_some_iff.mp read
        obtain ⟨text, -, read⟩ := Option.bind_eq_some_iff.mp read
        have longer : ∀ item ∈ before ++ [value], item.KeyedOnce := by
          intro item mem
          rcases List.mem_append.mp mem with first | last
          · exact tidy item first
          · rw [List.mem_singleton.mp last]
            exact values _ _ _ _ found
        split at read
        next => exact items _ _ _ _ _ longer read
        next =>
          rw [← (Prod.mk.inj (Option.some.inj read)).1]
          exact longer
        next => exact absurd read nofun
    · unfold members? at read
      obtain ⟨text, -, read⟩ := Option.bind_eq_some_iff.mp read
      split at read
      next =>
        rw [← (Prod.mk.inj (Option.some.inj read)).1]
        exact tidy
      next =>
        obtain ⟨⟨parts, text⟩, -, read⟩ := Option.bind_eq_some_iff.mp read
        obtain ⟨text, -, read⟩ := Option.bind_eq_some_iff.mp read
        split at read
        next =>
          obtain ⟨text, -, read⟩ := Option.bind_eq_some_iff.mp read
          obtain ⟨⟨value, text⟩, found, read⟩ := Option.bind_eq_some_iff.mp read
          obtain ⟨longer, added, read⟩ := Option.bind_eq_some_iff.mp read
          obtain ⟨text, -, read⟩ := Option.bind_eq_some_iff.mp read
          have tidyLonger := tidy.addKeyed (values _ _ _ _ found) added
          split at read
          next => exact members _ _ _ _ _ tidyLonger read
          next =>
            rw [← (Prod.mk.inj (Option.some.inj read)).1]
            exact tidyLonger
          next => exact absurd read nofun
        next => exact absurd read nofun

theorem keyedOnce_line? {state next : State} {text rest : List Char} (tidy : KeyedOnce state.root)
    (read : line? state text = some (next, rest)) : KeyedOnce next.root := by
  unfold line? at read
  split at read
  next =>
    obtain ⟨⟨parts, text⟩, -, read⟩ := Option.bind_eq_some_iff.mp read
    simp only at read
    split at read
    next =>
      obtain ⟨root, opened, read⟩ := Option.bind_eq_some_iff.mp read
      obtain ⟨text, -, read⟩ := Option.bind_eq_some_iff.mp read
      rw [← (Prod.mk.inj (Option.some.inj read)).1]
      exact tidy.openItem opened
    next => exact absurd read nofun
  next =>
    obtain ⟨⟨parts, text⟩, -, read⟩ := Option.bind_eq_some_iff.mp read
    simp only at read
    split at read
    next =>
      obtain ⟨root, opened, read⟩ := Option.bind_eq_some_iff.mp read
      obtain ⟨text, -, read⟩ := Option.bind_eq_some_iff.mp read
      rw [← (Prod.mk.inj (Option.some.inj read)).1]
      exact tidy.openTable opened
    next => exact absurd read nofun
  next =>
    obtain ⟨⟨parts, text⟩, -, read⟩ := Option.bind_eq_some_iff.mp read
    simp only at read
    split at read
    next =>
      obtain ⟨⟨value, text⟩, found, read⟩ := Option.bind_eq_some_iff.mp read
      obtain ⟨longer, added, read⟩ := Option.bind_eq_some_iff.mp read
      obtain ⟨text, -, read⟩ := Option.bind_eq_some_iff.mp read
      rw [← (Prod.mk.inj (Option.some.inj read)).1]
      obtain ⟨root, changed, rfl⟩ := Option.map_eq_some_iff.mp added
      exact tidy.modifyAt (fun origin entries result tidy changed =>
        tidy.addKeyed ((keyedOnce_value? _).1 _ _ _ _ found) changed) changed
    next => exact absurd read nofun

theorem keyedOnce_lines? {fuel : Nat} {state last : State} {text : List Char}
    (tidy : KeyedOnce state.root) (read : lines? fuel state text = some last) :
    KeyedOnce last.root := by
  induction fuel generalizing state text with
  | zero => exact absurd read nofun
  | succ fuel ih =>
    obtain ⟨text, -, read⟩ := Option.bind_eq_some_iff.mp read
    split at read
    next =>
      rw [← Option.some.inj read]
      exact tidy
    next =>
      obtain ⟨⟨next, text⟩, found, read⟩ := Option.bind_eq_some_iff.mp read
      exact ih (keyedOnce_line? tidy found) read

/-- **A document that is read has its keys once**, in its root and in every table. -/
theorem keyedOnce_of_parse? {text : String} {root : Entries} (read : parse? text = some root) :
    KeyedOnce root := by
  obtain ⟨last, found, rfl⟩ := Option.map_eq_some_iff.mp read
  exact keyedOnce_lines? .nil found

end EngineSync.Toml
