import Mathlib.Data.List.Forall2
import EngineSync.Project
import EngineSync.Proofs.WireCodecs

/-!
# What a manifest depends on

A manifest is read from the members of an object by their names.  Neither the order of the members
nor those of other names are seen, however deep their values are; a name of the manifest that comes
twice, or a list given as null, is refused with the path of the manifest; and the directory is the
one that was asked for, whatever the text says.
-/
namespace EngineSync

namespace Json

variable {entries others strangers : List (List Piece × Tree)} {names : List String}

/-! ## Names -/

/-- A member whose key spells a name. -/
def IsNamed (name : String) (entry : List Piece × Tree) : Prop :=
  pieceText? entry.1 = some name

/-- A member whose key spells a name that is none of those. -/
def IsStranger (names : List String) (entry : List Piece × Tree) : Prop :=
  ∃ name, IsNamed name entry ∧ name ∉ names

/-- A member with its name spelled out. -/
def spelled (entry : List Piece × Tree) : String × Tree :=
  ((pieceText? entry.1).getD "", entry.2)

theorem spelled_of_isNamed {name : String} {entry : List Piece × Tree} (named : IsNamed name entry) :
    spelled entry = (name, entry.2) := by
  rw [spelled, named, Option.getD_some]

/-- The names of an object are spelled out if every one of them can be. -/
theorem namedMembers?_eq (each : ∀ entry ∈ entries, ∃ name, IsNamed name entry) :
    namedMembers? entries = some (entries.map spelled) := by
  induction entries with
  | nil => rfl
  | cons entry entries ih =>
    obtain ⟨name, named⟩ := each entry List.mem_cons_self
    rw [namedMembers?, show pieceText? entry.1 = some name from named,
      ih fun other mem => each other (List.mem_cons_of_mem _ mem), List.map_cons,
      spelled_of_isNamed named]
    rfl

theorem isNamed_of_namedMembers? {members : List (String × Tree)}
    (spelling : namedMembers? entries = some members) :
    ∀ entry ∈ entries, ∃ name, IsNamed name entry := by
  induction entries generalizing members with
  | nil => nofun
  | cons entry entries ih =>
    obtain ⟨pieces, tree⟩ := entry
    obtain ⟨name, own, rest⟩ := Option.bind_eq_some_iff.mp spelling
    obtain ⟨more, others, -⟩ := Option.bind_eq_some_iff.mp rest
    exact List.forall_mem_cons.mpr ⟨⟨name, own⟩, ih others⟩

/-! ## Fields -/

/-- A field does not depend on the order of the members of its name. -/
theorem field?_congr {members members' : List (String × Tree)} {name : String}
    (same : (membersNamed name members').Perm (membersNamed name members)) :
    field? members' name = field? members name := by
  unfold field?
  generalize membersNamed name members' = found' at same
  generalize membersNamed name members = found at same
  match found, same with
  | [], same => rw [List.perm_nil.mp same]
  | [tree], same => rw [List.perm_singleton.mp same]
  | first :: second :: rest, same =>
    match found', same.length_eq with
    | _ :: _ :: _, _ => rfl

/-- A field is refused if its name comes twice. -/
theorem field?_of_twice {members : List (String × Tree)} {name : String} {first second : Tree}
    (twice : [(name, first), (name, second)].Sublist members) : field? members name = none := by
  have found : [first, second].Sublist (membersNamed name members) := by
    have own : [(name, first), (name, second)].filter (fun member => member.1 = name) =
        [(name, first), (name, second)] := by simp
    have kept := (twice.filter fun member => member.1 = name).map (·.2)
    rw [own] at kept
    exact kept
  unfold field?
  match membersNamed name members, found.length_le with
  | _ :: _ :: _, _ => rfl

theorem mapM_congr {α β : Type} {f g : α → Option β} {items : List α}
    (same : ∀ item ∈ items, f item = g item) : items.mapM f = items.mapM g := by
  induction items with
  | nil => rfl
  | cons item items ih =>
    rw [List.mapM_cons, List.mapM_cons, same item List.mem_cons_self,
      ih fun other mem => same other (List.mem_cons_of_mem _ mem)]

/-- **The fields of a record do not depend on the order of the members, nor on strangers among
them.** -/
theorem fields?_of_perm {fields : List (Option Tree)}
    (read : fields? names (.object entries) = some fields)
    (foreign : ∀ entry ∈ strangers, IsStranger names entry)
    (perm : others.Perm (entries ++ strangers)) :
    fields? names (.object others) = some fields := by
  obtain ⟨members, spelling, own⟩ := Option.bind_eq_some_iff.mp read
  have each := isNamed_of_namedMembers? spelling
  rw [namedMembers?_eq each] at spelling
  obtain rfl := Option.some.inj spelling
  have eachOther : ∀ entry ∈ others, ∃ name, IsNamed name entry := by
    intro entry mem
    rcases List.mem_append.mp (perm.subset mem) with known | stranger
    · exact each entry known
    · exact (foreign entry stranger).imp fun _ named => named.1
  rw [fields?, namedMembers?_eq eachOther, Option.bind_some, ← own]
  refine mapM_congr fun name known => field?_congr ?_
  -- no stranger has the name of a field
  have none : (strangers.map spelled).filter (fun member => member.1 = name) = [] := by
    rw [List.filter_eq_nil_iff]
    intro member mem same
    obtain ⟨entry, stranger, rfl⟩ := List.mem_map.mp mem
    obtain ⟨other, named, unknown⟩ := foreign entry stranger
    rw [spelled_of_isNamed named] at same
    obtain rfl := of_decide_eq_true same
    exact unknown known
  have moved := ((perm.map spelled).filter fun member => member.1 = name).map (·.2)
  rw [List.map_append, List.filter_append, none, List.append_nil] at moved
  exact moved

theorem forall₂_of_mapM {α β : Type} {f : α → Option β} {items : List α} {results : List β}
    (mapped : items.mapM f = some results) :
    List.Forall₂ (fun item result => f item = some result) items results := by
  induction items generalizing results with
  | nil =>
    obtain rfl := Option.some.inj mapped
    exact .nil
  | cons item items ih =>
    rw [List.mapM_cons] at mapped
    obtain ⟨first, own, rest⟩ := Option.bind_eq_some_iff.mp mapped
    obtain ⟨more, others, eq⟩ := Option.bind_eq_some_iff.mp rest
    obtain rfl := Option.some.inj eq
    exact .cons own (ih others)

theorem exists_of_forall₂ {α β : Type} {R : α → β → Prop} {items : List α} {results : List β}
    (each : List.Forall₂ R items results) : ∀ item ∈ items, ∃ result, R item result := by
  induction each with
  | nil => nofun
  | cons own _ ih => exact List.forall_mem_cons.mpr ⟨⟨_, own⟩, ih⟩

/-- What was found of a field is any member of its name. -/
theorem field?_of_named {members : List (String × Tree)} {name : String} {found : Option Tree}
    {tree : Tree} (read : field? members name = some found) (mem : (name, tree) ∈ members) :
    found = some tree := by
  have named : tree ∈ membersNamed name members :=
    List.mem_map.mpr ⟨(name, tree), List.mem_filter.mpr ⟨mem, by simp⟩, rfl⟩
  unfold field? at read
  generalize membersNamed name members = all at read named
  match all with
  | [only] =>
    rw [← Option.some.inj read, List.mem_singleton.mp named]
  | _ :: _ :: _ => exact absurd read nofun

/-- The fields that were read of a record are those of its members. -/
theorem field?_of_fields? {fields : List (Option Tree)}
    (read : fields? names (.object entries) = some fields) :
    List.Forall₂ (fun name field => field? (entries.map spelled) name = some field) names fields := by
  obtain ⟨members, spelling, own⟩ := Option.bind_eq_some_iff.mp read
  rw [namedMembers?_eq (isNamed_of_namedMembers? spelling)] at spelling
  obtain rfl := Option.some.inj spelling
  exact forall₂_of_mapM own

/-- A record is refused if the name of a field comes twice. -/
theorem fields?_of_twice {name : String} {first second : List Piece × Tree} (known : name ∈ names)
    (twice : [first, second].Sublist entries) (namedFirst : IsNamed name first)
    (namedSecond : IsNamed name second) : fields? names (.object entries) = none := by
  cases read : fields? names (.object entries) with
  | none => rfl
  | some fields =>
    have found := twice.map spelled
    rw [List.map_cons, List.map_singleton, spelled_of_isNamed namedFirst,
      spelled_of_isNamed namedSecond] at found
    obtain ⟨field, own⟩ := exists_of_forall₂ (field?_of_fields? read) name known
    exact absurd (own.symm.trans (field?_of_twice found)) nofun

end Json

open Json

namespace Manifest

variable {entries others strangers : List (List Piece × Tree)}

/-- **A manifest does not depend on the order of the members, nor on strangers among them.** -/
theorem ofTree?_of_perm {manifest : Manifest} (read : ofTree? (.object entries) = some manifest)
    (foreign : ∀ entry ∈ strangers, IsStranger fieldNames entry)
    (perm : others.Perm (entries ++ strangers)) : ofTree? (.object others) = some manifest := by
  cases found : fields? fieldNames (.object entries) with
  | none =>
    rw [ofTree?, found] at read
    cases read
  | some fields =>
    rw [ofTree?, found] at read
    rw [ofTree?, fields?_of_perm found foreign perm]
    exact read

theorem ofTree?_of_twice {name : String} {first second : List Piece × Tree}
    (known : name ∈ fieldNames) (twice : [first, second].Sublist entries)
    (namedFirst : IsNamed name first) (namedSecond : IsNamed name second) :
    ofTree? (.object entries) = none := by
  rw [ofTree?, fields?_of_twice known twice namedFirst namedSecond]

/-- The lists of a manifest may be left out but not be null. -/
theorem ofTree?_of_null {name : String} {entry : List Piece × Tree}
    (list : name = "lints" ∨ name = "files") (mem : entry ∈ entries) (named : IsNamed name entry)
    (null : entry.2 = .null) : ofTree? (.object entries) = none := by
  have found : (name, Tree.null) ∈ entries.map spelled := by
    rw [← null, ← spelled_of_isNamed named]
    exact List.mem_map_of_mem mem
  cases read : fields? fieldNames (.object entries) with
  | none => rw [ofTree?, read]
  | some fields =>
    rcases field?_of_fields? read with
      _ | ⟨-, _ | ⟨-, _ | ⟨ownLints, _ | ⟨ownFiles, _ | _⟩⟩⟩⟩
    rcases list with rfl | rfl
    · obtain rfl := field?_of_named ownLints found
      simp [ofTree?, read, withDefault, Tree.items?]
    · obtain rfl := field?_of_named ownFiles found
      simp [ofTree?, read, withDefault, Tree.items?]

/-- A text whose tree is known is loaded from that tree. -/
theorem load?_of_parse? (directory : String) {bytes : List UInt8} {tree : Tree}
    (parsed : Tree.parse? (Text.symbols bytes) = some tree) :
    load? directory bytes = (ofTree? tree).map fun m => { m with directory } := by
  rw [load?, parsed, Option.bind_some]

theorem directory_of_load? {directory : String} {bytes : List UInt8} {manifest : Manifest}
    (loaded : load? directory bytes = some manifest) : manifest.directory = directory := by
  obtain ⟨read, -, rfl⟩ := Option.map_eq_some_iff.mp loaded
  rfl

end Manifest

namespace Project

variable {tree : FileTree} {directory : String} {bytes : List UInt8} {manifest : Manifest}

/-- Where the manifest of a directory lies. -/
def manifestPath (directory : String) : String :=
  join directory Manifest.fileName

theorem loadManifest_of_load? (present : tree.read (manifestPath directory) = .ok bytes)
    (loaded : Manifest.load? directory bytes = some manifest) :
    (files.loadManifest tree directory).1 = .ok (some manifest) := by
  rw [manifestPath] at present
  simp only [loadManifest, present, loaded]

theorem loadManifest_of_load?_none (present : tree.read (manifestPath directory) = .ok bytes)
    (refused : Manifest.load? directory bytes = none) :
    (files.loadManifest tree directory).1 = .error (.manifest (manifestPath directory)) := by
  rw [manifestPath] at present ⊢
  simp only [loadManifest, present, refused]

/-- A manifest was loaded from the bytes that lie there. -/
theorem load?_of_loadManifest
    (loaded : (files.loadManifest tree directory).1 = .ok (some manifest)) :
    ∃ bytes, tree.read (manifestPath directory) = .ok bytes ∧
      Manifest.load? directory bytes = some manifest := by
  unfold loadManifest at loaded
  simp only at loaded
  split at loaded
  next => exact absurd loaded nofun
  next => exact absurd loaded nofun
  next bytes present =>
    split at loaded
    next found read =>
      rw [← Option.some.inj (Except.ok.inj loaded)]
      exact ⟨bytes, present, read⟩
    next => exact absurd loaded nofun

/-- **A manifest sees neither the order of the members of its text nor strangers among them.**  If
an object is loaded, then so is every text of the grammar that holds the same members in any order
and, at any places, any further ones whose names are not those of the manifest, with values of any
depth; and what is loaded is the same manifest.  An object is refused with the path of the manifest
if one of the four names comes twice in it or if a list of the manifest is null.  What is loaded of
any text lies in the directory that was asked for. -/
theorem loadManifest_members (tree : FileTree) (directory : String) :
    (∀ manifest, (files.loadManifest tree directory).1 = .ok (some manifest) →
      manifest.directory = directory) ∧
    ∀ bytes entries, tree.read (manifestPath directory) = .ok bytes →
      Tree.parse? (Text.symbols bytes) = some (.object entries) →
        (∀ manifest, (files.loadManifest tree directory).1 = .ok (some manifest) →
          ∀ strangers, (∀ entry ∈ strangers, IsStranger Manifest.fieldNames entry) →
            ∀ others, others.Perm (entries ++ strangers) →
              ∀ (other : FileTree) (text : List UInt8),
                other.read (manifestPath directory) = .ok text →
                  Written (Text.symbols text) (.object others) →
                    (files.loadManifest other directory).1 = .ok (some manifest)) ∧
        (∀ name ∈ Manifest.fieldNames, ∀ first second, [first, second].Sublist entries →
          IsNamed name first → IsNamed name second →
            (files.loadManifest tree directory).1 =
              .error (.manifest (manifestPath directory))) ∧
        (∀ name, name = "lints" ∨ name = "files" → ∀ entry ∈ entries, IsNamed name entry →
          entry.2 = .null →
            (files.loadManifest tree directory).1 =
              .error (.manifest (manifestPath directory))) := by
  refine ⟨fun manifest loaded => ?_, fun bytes entries present parsed => ?_⟩
  · obtain ⟨bytes, -, loaded⟩ := load?_of_loadManifest loaded
    exact Manifest.directory_of_load? loaded
  have own := Manifest.load?_of_parse? directory parsed
  have refused (none : Manifest.ofTree? (.object entries) = none) :
      (files.loadManifest tree directory).1 = .error (.manifest (manifestPath directory)) := by
    refine loadManifest_of_load?_none present ?_
    rw [own, none, Option.map_none]
  refine ⟨?_, fun name known first second twice namedFirst namedSecond =>
    refused (Manifest.ofTree?_of_twice known twice namedFirst namedSecond),
    fun name list entry mem named null =>
      refused (Manifest.ofTree?_of_null list mem named null)⟩
  intro manifest loaded strangers foreign others perm other text presentOther written
  obtain ⟨same, presentSame, loaded⟩ := load?_of_loadManifest loaded
  obtain rfl := Except.ok.inj (present.symm.trans presentSame)
  obtain ⟨read, readTree, placed⟩ := Option.map_eq_some_iff.mp (own.symm.trans loaded)
  refine loadManifest_of_load? presentOther ?_
  rw [Manifest.load?_of_parse? directory written.parse?, Manifest.ofTree?_of_perm readTree foreign perm,
    Option.map_some, placed]

/-! A manifest that pins its files, and texts with its members in another order among strangers
that say where it lies and hold arrays two hundred levels deep, with a name twice, and with null in
place of a list. -/

/-- Arrays in arrays. -/
def nestedArrays : Nat → Json
  | 0 => .null
  | depth + 1 => .array [nestedArrays depth]

theorem exists_reads_nestedArrays (depth : Nat) : ∃ tree, Reads (nestedArrays depth) tree := by
  induction depth with
  | zero => exact ⟨.null, reads_null⟩
  | succ depth ih =>
    obtain ⟨tree, inside⟩ := ih
    exact ⟨.array [tree], reads_array (.cons inside .nil)⟩

/-- The root directory with a manifest of that text. -/
def rootHolding (text : Json) : FileTree :=
  ⟨.directory [(Manifest.fileName, .file text.bytes)]⟩

theorem read_rootHolding (text : Json) :
    (rootHolding text).read (manifestPath "") = .ok text.bytes := by
  have route : FileTree.Route.parse (manifestPath "") = .ok ⟨[], Manifest.fileName, false⟩ := by
    have size : (manifestPath "").utf8ByteSize = 11 := by rfl
    have parts : FileTree.Path.parts (manifestPath "") = [Manifest.fileName] := by rfl
    have last : (manifestPath "").toList.getLast? = some 'n' := by decide
    have first : (manifestPath "").toList.head? = some 'q' := by decide
    have noNul : '\x00' ∉ (manifestPath "").toList := by decide
    have named : Manifest.fileName ≠ "" := by decide
    simp [FileTree.Route.parse, size, parts, last, first, noNul, named, FileTree.Path.maxLength]
  exact FileTree.read_of_root route (by decide) (by decide) (by decide) (by simp [Node.find?])

theorem written_rootHolding {members : List (String × Json)} {entries : List (List Piece × Tree)}
    (each : List.Forall₂ ReadsMember members entries) :
    Written (Text.symbols (Json.bytes (.object members))) (.object entries) := by
  rw [Json.bytes, Text.symbols_toBytes, Text.symbolsOf, Json.text, String.toList_ofList]
  exact reads_object each

theorem exists_readsMember (name : String) {value : Json} (reads : ∃ tree, Reads value tree) :
    ∃ entry, ReadsMember (name, value) entry := by
  obtain ⟨tree, reads⟩ := reads
  obtain ⟨pieces, text⟩ := readsText name
  exact ⟨(pieces, tree), text, reads⟩

def pinnedFiles : Manifest :=
  { directory := "", author := some "Ada", license := none, lints := [], files := ["a.qs"] }

def pinnedFilesAmongStrangers : Json :=
  .object
    [("manifest_dir", .string "/etc"), ("files", .array [.string "a.qs"]),
      ("manifestDir", nestedArrays 200), ("lints", .array []), ("license", .null),
      ("author", .string "Ada")]

def pinnedFilesTwice : Json :=
  .object [("files", .array [.string "a.qs"]), ("author", .string "Ada"), ("files", .array [])]

def pinnedFilesNull : Json :=
  .object [("author", .string "Ada"), ("files", .null)]

theorem loadManifest_members_of_pinned :
    (files.loadManifest (rootHolding pinnedFiles.toJson) "").1 = .ok (some pinnedFiles) ∧
    (files.loadManifest (rootHolding pinnedFilesAmongStrangers) "").1 = .ok (some pinnedFiles) ∧
    (files.loadManifest (rootHolding pinnedFilesTwice) "").1 =
      .error (.manifest (manifestPath "")) ∧
    (files.loadManifest (rootHolding pinnedFilesNull) "").1 =
      .error (.manifest (manifestPath "")) := by
  have string (s : String) : ∃ tree, Reads (.string s) tree :=
    (readsText s).imp' Tree.string fun _ text => reads_string text
  obtain ⟨pinned, readsPinned⟩ := string "a.qs"
  obtain ⟨author, ownAuthor⟩ := exists_readsMember "author" (string "Ada")
  obtain ⟨license, ownLicense⟩ := exists_readsMember "license" ⟨_, reads_null⟩
  obtain ⟨lints, ownLints⟩ := exists_readsMember "lints" ⟨_, reads_array .nil⟩
  obtain ⟨files, ownFiles⟩ := exists_readsMember "files" ⟨_, reads_array (.cons readsPinned .nil)⟩
  obtain ⟨noFiles, ownNoFiles⟩ := exists_readsMember "files" ⟨_, reads_array .nil⟩
  obtain ⟨place, ownPlace⟩ := exists_readsMember "manifestDir" (exists_reads_nestedArrays 200)
  obtain ⟨root, ownRoot⟩ := exists_readsMember "manifest_dir" (string "/etc")
  obtain ⟨key, ownKey⟩ := readsText "files"
  have loaded : (Project.files.loadManifest (rootHolding pinnedFiles.toJson) "").1 =
      .ok (some pinnedFiles) :=
    loadManifest_of_load? (read_rootHolding _) (pinnedFiles.load?_bytes nofun "")
  have members := (loadManifest_members (rootHolding pinnedFiles.toJson) "").2 _
    [author, license, lints, files] (read_rootHolding _)
    (written_rootHolding (.cons ownAuthor (.cons ownLicense (.cons ownLints (.cons ownFiles .nil))))
      ).parse?
  have twice := (loadManifest_members (rootHolding pinnedFilesTwice) "").2 _
    [files, author, noFiles] (read_rootHolding _)
    (written_rootHolding (.cons ownFiles (.cons ownAuthor (.cons ownNoFiles .nil)))).parse?
  have null := (loadManifest_members (rootHolding pinnedFilesNull) "").2 _
    [author, (key, .null)] (read_rootHolding _)
    (written_rootHolding (.cons ownAuthor (.cons ⟨ownKey, reads_null⟩ .nil))).parse?
  have foreign : ∀ entry ∈ [place, root], IsStranger Manifest.fieldNames entry := by
    intro entry mem
    simp only [List.mem_cons, List.not_mem_nil, or_false] at mem
    rcases mem with rfl | rfl
    · exact ⟨"manifestDir", ownPlace.key.2, by decide⟩
    · exact ⟨"manifest_dir", ownRoot.key.2, by decide⟩
  have reordered : [root, files, place, lints, license, author].Perm
      ([author, license, lints, files] ++ [place, root]) :=
    (List.Perm.cons root (.swap place files _)).trans
      (List.reverse_perm [author, license, lints, files, place, root])
  exact ⟨loaded,
    members.1 _ loaded [place, root] foreign _ reordered _ _ (read_rootHolding _)
      (written_rootHolding (.cons ownRoot (.cons ownFiles (.cons ownPlace (.cons ownLints
        (.cons ownLicense (.cons ownAuthor .nil))))))),
    twice.2.1 "files" (by decide) files noFiles (.cons_cons _ (.cons _ (.cons_cons _ .slnil)))
      ownFiles.key.2 ownNoFiles.key.2,
    null.2.2 "files" (.inr rfl) (key, .null) (List.mem_cons_of_mem _ List.mem_cons_self) ownKey.2
      rfl⟩

end Project
end EngineSync
