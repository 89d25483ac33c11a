import Mathlib.Data.List.Perm.Basic
import EngineSync.Project
import EngineSync.Proofs.TextBytes
import EngineSync.Proofs.TreeNames

/-!
# Listings

A file system yields the children of a directory in an order of its own.  The listing does not show
it: the children have different names, so they stand in the bytewise order of these in one way only
(`listing_eq`).  That they have different names is so in every directory of a tree that changes
lead to (`FileTree.NamedOnce`).
-/
namespace EngineSync

theorem Text.toBytes_injective {s s' : String} (same : toBytes s = toBytes s') : s = s' := by
  have spelled : some s = some s' := by rw [← ofBytes?_toBytes s, same, ofBytes?_toBytes s']
  exact Option.some.inj spelled

/-- Types are told by the names of the entries. -/
theorem Node.map_fst_types (entries : List (String × Node)) :
    (types entries).map (·.1) = entries.map (·.1) := by
  rw [types, List.map_map]
  rfl

namespace Project
variable {children order : List (String × FileType)}

/-- The entry of a child. -/
def entry (child : String × FileType) : DirEntry :=
  ⟨child.1, entryKind child.2⟩

theorem entryKind_spec (type : FileType) :
    (entryKind type = .file ↔ type = .regular) ∧
      (entryKind type = .directory ↔ type = .directory) := by
  cases type <;> decide

/-- The entries are those of the children. -/
theorem listing_perm_map (children : List (String × FileType)) :
    (listing children).Perm (children.map entry) :=
  List.mergeSort_perm _ _

theorem map_name_listing (children : List (String × FileType)) :
    ((listing children).map (·.name)).Perm (children.map (·.1)) := by
  have names := (listing_perm_map children).map (·.name)
  rwa [List.map_map] at names

/-- The entries are in order. -/
theorem pairwise_listing (children : List (String × FileType)) :
    (listing children).Pairwise fun a b => entryLE a b :=
  @List.pairwise_mergeSort _ entryLE (fun _ _ _ => Text.bytesLE_trans _ _ _)
    (fun _ _ => Text.bytesLE_total _ _) _

/-- Children with different names are listed in strictly increasing order. -/
theorem strict_listing (once : (children.map (·.1)).Nodup) :
    (listing children).Pairwise fun a b => Text.toBytes a.name < Text.toBytes b.name := by
  have apart : (listing children).Pairwise fun a b => a.name ≠ b.name :=
    List.pairwise_map.mp ((map_name_listing children).nodup_iff.mpr once)
  refine ((pairwise_listing children).and apart).imp fun {a b} both => ?_
  exact Text.lt_of_bytesLE both.1 fun same => both.2 (Text.toBytes_injective same)

/-- There is one way only to put the entries into strictly increasing order. -/
theorem listing_eq {entries : List DirEntry} (same : entries.Perm (children.map entry))
    (strict : entries.Pairwise fun a b => Text.toBytes a.name < Text.toBytes b.name) :
    listing children = entries := by
  have listed : (listing children).Perm entries := (listing_perm_map children).trans same.symm
  have apart : (entries.map (·.name)).Nodup := by
    refine List.pairwise_map.mpr (strict.imp fun {a b} less same => ?_)
    rw [same] at less
    exact List.lt_irrefl _ less
  have once : (children.map (·.1)).Nodup :=
    (map_name_listing children).nodup_iff.mp ((listed.map _).nodup_iff.mpr apart)
  exact listed.eq_of_pairwise (fun a b _ _ less more => absurd more (List.lt_asymm less))
    (strict_listing once) strict

/-- **The listing does not show the order** in which the children come. -/
theorem listing_perm (once : (children.map (·.1)).Nodup) (same : order.Perm children) :
    listing order = listing children :=
  listing_eq ((listing_perm_map children).trans (same.map entry).symm) (strict_listing once)

/-- What is listed under which kind. -/
theorem mem_listing (name : String) (kind : EntryKind) :
    ⟨name, kind⟩ ∈ listing children ↔ ∃ type, (name, type) ∈ children ∧
      (kind = .file ↔ type = .regular) ∧ (kind = .directory ↔ type = .directory) := by
  rw [(listing_perm_map children).mem_iff, List.mem_map]
  constructor
  · rintro ⟨⟨name', type⟩, mem, ⟨rfl, rfl⟩⟩
    exact ⟨type, mem, entryKind_spec type⟩
  · rintro ⟨type, mem, file, directory⟩
    refine ⟨(name, type), mem, ?_⟩
    have same : entryKind type = kind := by
      cases kind <;> cases type <;> simp_all [entryKind]
    exact congrArg (DirEntry.mk name) same

/-- **A listing is canonical**: for the children of a directory, which have different names, and for
every order in which they come, it is one and the same.  It has exactly one entry for each child, in
the strictly increasing order of the bytes of their names, and lists regular files and directories
as such and everything else, links to whatever included, under the third kind.  That is what every
path returns that leads to a directory with these children. -/
theorem listDirectory_canonical (once : (children.map (·.1)).Nodup) :
    let entries := listing children
    (∀ tree path nodes, FileTree.entries tree path = .ok nodes →
        (Node.types nodes).Perm children →
        files.listDirectory tree path = .ok entries ∧
          ∀ name target, (name, Node.link target) ∈ nodes → ⟨name, .other⟩ ∈ entries) ∧
      (∀ order, order.Perm children → listing order = entries) ∧
      (entries.map (·.name)).Perm (children.map (·.1)) ∧
      entries.Pairwise (fun a b => Text.toBytes a.name < Text.toBytes b.name) ∧
      ∀ name kind, ⟨name, kind⟩ ∈ entries ↔ ∃ type, (name, type) ∈ children ∧
        (kind = .file ↔ type = .regular) ∧ (kind = .directory ↔ type = .directory) := by
  intro entries
  refine ⟨fun tree path nodes readable same => ⟨?_, fun name target mem => ?_⟩,
    fun order same => listing_perm once same, map_name_listing children, strict_listing once,
    mem_listing⟩
  · simp only [listDirectory, readable, listing_perm once same]
    rfl
  · have child : (name, FileType.link) ∈ children :=
      same.mem_iff.mp (List.mem_map.mpr ⟨_, mem, rfl⟩)
    exact (mem_listing name .other).mpr ⟨.link, child, by decide⟩

/-- One directory has these children in the order in which they were made, another one in a
different order and is listed through a link to it.  The link among the children points to a
directory here and to nothing there. -/
theorem listDirectory_canonical_of_two_orders :
    let made := FileTree.empty.changed
      [.write "b.qs" [], .makeDirectory "src", .link "a" "src", .write "B.qs" [65]]
    let other := FileTree.empty.changed [.link "way" "p/", .write "p/B.qs" [],
      .link "p/a" "missing", .makeDirectory "p/src", .write "p/b.qs" [65]]
    let children : List (String × FileType) :=
      [("b.qs", .regular), ("src", .directory), ("a", .link), ("B.qs", .regular)]
    let entries : List DirEntry :=
      [⟨"B.qs", .file⟩, ⟨"a", .other⟩, ⟨"b.qs", .file⟩, ⟨"src", .directory⟩]
    (children.map (·.1)).Nodup ∧ listing children = entries ∧
      files.listDirectory made "." = .ok entries ∧ files.listDirectory other "way" = .ok entries := by
  intro made other children entries
  have yields (tree : FileTree) (path : String)
      (found : ((tree.entries path).map Node.types).toOption.any (·.isPerm children) = true) :
      ∃ nodes, tree.entries path = .ok nodes ∧ (Node.types nodes).Perm children := by
    cases read : tree.entries path with
    | error kind => simp [read, Except.map, Except.toOption] at found
    | ok nodes =>
      simp only [read, Except.map, Except.toOption, Option.any_some] at found
      exact ⟨nodes, rfl, List.isPerm_iff.mp found⟩
  obtain ⟨nodes, read, same⟩ := yields made "." (by decide +kernel)
  obtain ⟨nodes', read', same'⟩ := yields other "way" (by decide +kernel)
  have named : made.NamedOnce := FileTree.namedOnce_empty.changed _
  have once : (children.map (·.1)).Nodup :=
    (same.map (·.1)).nodup_iff.mp (by rw [Node.map_fst_types]; exact named.entries read)
  obtain ⟨lists, -, -, -, -⟩ := listDirectory_canonical once
  have listed : listing children = entries := listing_eq (by decide) (by decide +kernel)
  rw [listed] at lists
  exact ⟨once, listed, (lists made "." nodes read same).1, (lists other "way" nodes' read' same').1⟩

end Project
end EngineSync
