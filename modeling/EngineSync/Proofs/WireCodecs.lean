import EngineSync.Configuration
import EngineSync.DirEntry
import EngineSync.Manifest
import EngineSync.Proofs.JsonValues
import EngineSync.Proofs.TextBytes

/-!
# Payloads come back from the wire

What is written of a profile, a configuration payload, a directory entry or a manifest is read back
as it was, through the bytes of its text, and is then written in the same bytes.  Two things
settle on the way: a profile that was taken for an unrecognized one though it has a known name is
the known one, and a manifest does not carry its directory.
-/
namespace EngineSync

namespace Json

/-- The bytes of a written value. -/
def bytes (value : Json) : List UInt8 :=
  Text.toBytes value.text

/-- What is read from the bytes of a whole text. -/
def decode? {α : Type} (read : Tree → Option α) (bytes : List UInt8) : Option α :=
  (Tree.parse? (Text.symbols bytes)).bind read

/-- A value is decoded from the bytes it is written in, as the one it settles to, and that one is
written in the same bytes. -/
structure RoundTrips {α : Type} (write : α → Json) (read : Tree → Option α) (value settled : α) :
    Prop where
  decoded : decode? read (write value).bytes = some settled
  again : (write settled).bytes = (write value).bytes

variable {α : Type} {read : Tree → Option α}

theorem ReadsAs.decode? {value : Json} {result : α} (reads : ReadsAs read value result) :
    decode? read value.bytes = some result := by
  obtain ⟨tree, reads, kept⟩ := reads
  rw [Json.decode?, bytes, Text.symbols_toBytes, Text.symbolsOf, text, String.toList_ofList,
    reads.parse?, Option.bind_some, kept]

/-- **Every plain value is decoded from its own bytes.** -/
theorem Plain.decode? {depth : Nat} {value : Json} (plain : Plain depth value) :
    Json.decode? (ofTree? depth) value.bytes = some value :=
  plain.readsAs.decode?

/-! ## Records -/

theorem namedMembers?_of_reads {members : List (String × Json)} {entries : List (List Piece × Tree)}
    (each : List.Forall₂ ReadsMember members entries) :
    ∃ named, namedMembers? entries = some named ∧ named.map (·.1) = members.map (·.1) ∧
      named.map (·.2) = entries.map (·.2) := by
  induction each with
  | nil => exact ⟨[], rfl, rfl, rfl⟩
  | @cons member entry members entries first others ih =>
    obtain ⟨named, spelled, names, trees⟩ := ih
    refine ⟨(member.1, entry.2) :: named, ?_, ?_, ?_⟩
    · rw [namedMembers?, first.key.2, spelled]
      rfl
    · rw [List.map_cons, List.map_cons, names]
    · rw [List.map_cons, List.map_cons, trees]

/-- A name that stands once is that of one field. -/
theorem field?_of_mem {named : List (String × Tree)} (once : (named.map (·.1)).Nodup)
    {member : String × Tree} (mem : member ∈ named) :
    field? named member.1 = some (some member.2) := by
  have only : membersNamed member.1 named = [member.2] := by
    induction named with
    | nil => exact absurd mem List.not_mem_nil
    | cons head rest ih =>
      rw [List.map_cons, List.nodup_cons] at once
      rcases List.mem_cons.mp mem with rfl | inside
      -- the name does not stand among the others again
      · have none : rest.filter (fun other => other.1 = member.1) = [] := by
          refine List.filter_eq_nil_iff.mpr fun other mem same => once.1 ?_
          rw [← of_decide_eq_true same]
          exact List.mem_map_of_mem mem
        rw [membersNamed, List.filter_cons_of_pos (by simp), none]
        rfl
      · have other : head.1 ≠ member.1 := fun same =>
          once.1 (same ▸ List.mem_map_of_mem inside)
        have rest := ih once.2 inside
        rw [membersNamed, List.filter_cons_of_neg (by simpa using other)]
        exact rest
  rw [field?, only]

theorem mapM_field? {named part : List (String × Tree)} (once : (named.map (·.1)).Nodup)
    (inside : ∀ member ∈ part, member ∈ named) :
    (part.map (·.1)).mapM (field? named) = some (part.map fun member => some member.2) := by
  induction part with
  | nil => rfl
  | cons member part ih =>
    rw [List.map_cons, List.mapM_cons, field?_of_mem once (inside _ List.mem_cons_self),
      ih fun member mem => inside member (List.mem_cons_of_mem _ mem)]
    rfl

theorem exists_entries {members : List (String × Json)} {trees : List Tree}
    (each : List.Forall₂ (fun member tree => Reads member.2 tree) members trees) :
    ∃ entries, List.Forall₂ ReadsMember members entries ∧ entries.map (·.2) = trees := by
  induction each with
  | nil => exact ⟨[], .nil, rfl⟩
  | @cons member tree _ _ first others ih =>
    obtain ⟨entries, reads, rest⟩ := ih
    obtain ⟨pieces, key⟩ := readsText member.1
    exact ⟨(pieces, tree) :: entries, .cons ⟨key, first⟩ reads, by rw [List.map_cons, rest]⟩

/-- **A record is read field by field**, as long as no two of its fields have one name. -/
theorem readsAs_fields {members : List (String × Json)} {trees : List Tree}
    (each : List.Forall₂ (fun member tree => Reads member.2 tree) members trees)
    (once : (members.map (·.1)).Nodup) :
    ReadsAs (fields? (members.map (·.1))) (.object members) (trees.map some) := by
  obtain ⟨entries, reads, rfl⟩ := exists_entries each
  obtain ⟨named, spelled, names, trees⟩ := namedMembers?_of_reads reads
  refine ⟨.object entries, reads_object reads, ?_⟩
  rw [← names] at once
  rw [fields?, spelled, Option.bind_some, ← names, mapM_field? once fun _ mem => mem, ← trees,
    List.map_map]
  rfl

/-- What is read from any pieces that spell a text is read from the text. -/
theorem readsAs_string {s : String} {result : α}
    (kept : ∀ pieces, pieceText? pieces = some s → read (.string pieces) = some result) :
    ReadsAs read (.string s) result := by
  obtain ⟨pieces, text⟩ := readsText s
  exact ⟨.string pieces, reads_string text, kept pieces text.2⟩

theorem readsAs_text (s : String) : ReadsAs Tree.text? (.string s) s :=
  readsAs_string fun _ spelled => spelled

theorem readsAs_array {results : List α} {items : List Json}
    (each : List.Forall₂ (ReadsAs read) items results) :
    ReadsAs (fun tree => tree.items?.bind (·.mapM read)) (.array items) results := by
  obtain ⟨trees, reads, kept⟩ := ReadsAs.items each
  exact ⟨.array trees, reads_array reads, kept⟩

end Json

open Json

/-! ## Profiles and configuration payloads -/

/-- What a profile is once its name was read: one with a known name is the known one. -/
def Profile.settled : Profile → Profile
  | .base => .base
  | .unrestricted => .unrestricted
  | .unrecognized name =>
    if name = "base" then .base
    else if name = "unrestricted" then .unrestricted
    else .unrecognized name

theorem Profile.parse_name (profile : Profile) : parse profile.name = profile.settled := by
  cases profile with
  | base => rfl
  | unrestricted => exact parse_unrestricted
  | unrecognized name => rfl

theorem Profile.name_settled (profile : Profile) : profile.settled.name = profile.name := by
  rw [← parse_name, name_parse]

theorem Profile.readsAs (profile : Profile) :
    ReadsAs Profile.ofTree? profile.toJson profile.settled := by
  refine readsAs_string fun pieces spelled => ?_
  rw [ofTree?, spelled, Option.map_some, parse_name]

theorem Profile.roundTrips (profile : Profile) :
    RoundTrips toJson ofTree? profile profile.settled where
  decoded := profile.readsAs.decode?
  again := by rw [toJson, toJson, name_settled]

theorem Configuration.readsAs (c : Configuration) :
    ReadsAs ofTree? c.toJson ⟨c.targetProfile.settled⟩ := by
  obtain ⟨profile, reads, kept⟩ := c.targetProfile.readsAs
  have each : List.Forall₂ (fun (member : String × Json) tree => Reads member.2 tree)
      [("targetProfile", c.targetProfile.toJson)] [profile] := .cons reads .nil
  obtain ⟨tree, whole, fields⟩ := readsAs_fields each (by simp)
  simp only [List.map_cons, List.map_nil] at fields
  refine ⟨tree, whole, ?_⟩
  simp only [ofTree?, fields, kept, Option.map_some]

theorem Configuration.roundTrips (c : Configuration) :
    RoundTrips toJson ofTree? c ⟨c.targetProfile.settled⟩ where
  decoded := c.readsAs.decode?
  again := by rw [toJson, toJson, Profile.toJson, Profile.toJson, Profile.name_settled]

/-! ## Directory entries -/

theorem EntryKind.ofName?_name (kind : EntryKind) : ofName? kind.name = some kind := by
  cases kind <;> simp [ofName?, name]

theorem EntryKind.readsAs (kind : EntryKind) : ReadsAs ofTree? kind.toJson kind := by
  refine readsAs_string fun pieces spelled => ?_
  rw [ofTree?, spelled, Option.bind_some, ofName?_name]

theorem DirEntry.readsAs (entry : DirEntry) : ReadsAs ofTree? entry.toJson entry := by
  obtain ⟨name, readsName, keptName⟩ := readsAs_text entry.name
  obtain ⟨kind, readsKind, keptKind⟩ := entry.kind.readsAs
  have each : List.Forall₂ (fun (member : String × Json) tree => Reads member.2 tree)
      [("name", .string entry.name), ("kind", entry.kind.toJson)] [name, kind] :=
    .cons readsName (.cons readsKind .nil)
  obtain ⟨tree, whole, fields⟩ := readsAs_fields each (by simp)
  simp only [List.map_cons, List.map_nil] at fields
  refine ⟨tree, whole, ?_⟩
  simp only [ofTree?, fields, keptName, keptKind]
  rfl

/-! ## Manifests -/

theorem Manifest.readsAs_optionalText (value : Option String) :
    ReadsAs Tree.optionalText? (optionalText value) value := by
  cases value with
  | none => exact ⟨.null, reads_null, rfl⟩
  | some s =>
    refine readsAs_string fun pieces spelled => ?_
    simp only [Tree.optionalText?, Tree.text?, spelled, Option.map_some]

theorem Manifest.readsAs (m : Manifest) (plain : ∀ lint ∈ m.lints, Plain lintDepth lint) :
    ReadsAs ofTree? m.toJson { m with directory := "" } := by
  obtain ⟨author, readsAuthor, keptAuthor⟩ := readsAs_optionalText m.author
  obtain ⟨license, readsLicense, keptLicense⟩ := readsAs_optionalText m.license
  obtain ⟨lints, readsLints, keptLints⟩ :=
    readsAs_array (List.forall₂_same.mpr fun lint mem => (plain lint mem).readsAs)
  obtain ⟨files, readsFiles, keptFiles⟩ :=
    readsAs_array (List.forall₂_map_left_iff.mpr
      (List.forall₂_same.mpr fun file (_ : file ∈ m.files) => readsAs_text file))
  have each : List.Forall₂ (fun (member : String × Json) tree => Reads member.2 tree)
      [("author", optionalText m.author), ("license", optionalText m.license),
        ("lints", .array m.lints), ("files", .array (m.files.map .string))]
      [author, license, lints, files] :=
    .cons readsAuthor (.cons readsLicense (.cons readsLints (.cons readsFiles .nil)))
  obtain ⟨tree, whole, fields⟩ := readsAs_fields each (by simp)
  simp only [List.map_cons, List.map_nil] at fields
  refine ⟨tree, whole, ?_⟩
  have lintItems : Json.ofItems? lintDepth = fun trees => trees.mapM (Json.ofTree? lintDepth) :=
    funext (ofItems?_eq_mapM lintDepth)
  simp only [ofTree?, fieldNames, fields, withDefault, keptAuthor, keptLicense, lintItems,
    keptLints, keptFiles]
  rfl

/-- A written manifest is loaded from its bytes, with the directory it lies in. -/
theorem Manifest.load?_bytes (m : Manifest) (plain : ∀ lint ∈ m.lints, Plain lintDepth lint)
    (directory : String) :
    load? directory m.toJson.bytes = some { m with directory } := by
  have decoded := (m.readsAs plain).decode?
  rw [Json.decode?] at decoded
  rw [load?, decoded, Option.map_some]

/-! ## All of them -/

/-- **Payloads come back from the wire.**  Each is decoded from the bytes it is written in and is
then written in the same bytes: a profile of a known name as the known one, everything else as it
was, except that the directory of a manifest is left behind.  A manifest's lints may be any values
without binary numbers nested at most 125 levels. -/
theorem payloads_round_trip :
    (∀ profile : Profile, RoundTrips Profile.toJson Profile.ofTree? profile profile.settled) ∧
    (∀ c : Configuration,
      RoundTrips Configuration.toJson Configuration.ofTree? c ⟨c.targetProfile.settled⟩) ∧
    (∀ kind : EntryKind, RoundTrips EntryKind.toJson EntryKind.ofTree? kind kind) ∧
    (∀ entry : DirEntry, RoundTrips DirEntry.toJson DirEntry.ofTree? entry entry) ∧
    (∀ m : Manifest, (∀ lint ∈ m.lints, Plain 125 lint) →
      RoundTrips Manifest.toJson Manifest.ofTree? m { m with directory := "" }) :=
  ⟨Profile.roundTrips, Configuration.roundTrips, fun kind => ⟨kind.readsAs.decode?, rfl⟩,
    fun entry => ⟨entry.readsAs.decode?, rfl⟩, fun m plain => ⟨(m.readsAs plain).decode?, rfl⟩⟩

/-- A manifest with a text that needs escapes and a lint that holds the ends of the integers. -/
def Manifest.withNestedLint : Manifest :=
  { directory := "/work"
    author := some "Ada \"Q\" \\ \t\x01 é 𝄞"
    license := none
    lints := [.object [("level", .string "warn"),
      ("limits", .array [.number (.integer (-2 ^ 63)), .number (.integer (2 ^ 64 - 1)), .null])]]
    files := ["src/Main.qs", ""] }

theorem payloads_round_trip_of_nested_lint :
    (∀ lint ∈ Manifest.withNestedLint.lints, Plain 125 lint) ∧
      RoundTrips Manifest.toJson Manifest.ofTree? Manifest.withNestedLint
        { Manifest.withNestedLint with directory := "" } ∧
      RoundTrips Profile.toJson Profile.ofTree? (.unrecognized "base") .base := by
  have limits : Plain 124
      (.array [.number (.integer (-2 ^ 63)), .number (.integer (2 ^ 64 - 1)), .null]) := by
    refine .array fun item mem => ?_
    simp only [List.mem_cons, List.not_mem_nil, or_false] at mem
    rcases mem with rfl | rfl | rfl
    · exact .integer _ (by decide) (by decide)
    · exact .integer _ (by decide) (by decide)
    · exact .null _
  have plain : ∀ lint ∈ Manifest.withNestedLint.lints, Plain 125 lint := by
    intro lint mem
    rw [List.mem_singleton.mp mem]
    have ascending : "level".toList < "limits".toList := by decide
    refine .object (List.pairwise_pair.mpr ascending) fun member mem => ?_
    simp only [List.mem_cons, List.not_mem_nil, or_false] at mem
    rcases mem with rfl | rfl
    · exact .string _ _
    · exact limits
  exact ⟨plain, payloads_round_trip.2.2.2.2 _ plain, payloads_round_trip.1 _⟩

end EngineSync
