import EngineSync.Proofs.TextBytes
import EngineSync.Proofs.TomlKeys
import EngineSync.Settings.Source

/-!
# What a settings file comes to

A settings file is read as a whole or not at all.  Every state of its path has one outcome, told by
the tree of its text: the standard settings, a failure, or settings in which each option is the one
that is given or, for itself, the standard one.  Keys that are no options do not matter, in whatever
order they stand, and all ways to read a source show one and the same outcome.
-/
namespace EngineSync.Settings

open Toml

/-- The tree of a well-formed text: its syntax is that of TOML, and every number in it can be
represented, without which TOML has it refused. -/
def document? (text : String) : Option Entries :=
  (Toml.parse? text).filter entriesReadable

/-- A table, a string, a number or a boolean. -/
def isOrdinary : Value → Bool
  | .table _ _ => true
  | .string _ => true
  | .integer _ => true
  | .float _ => true
  | .boolean _ => true
  | _ => false

/-- The entries of the section; there are none where there is no section. -/
def options (root : Entries) : Entries :=
  match find? sectionKey root with
  | some (.table _ entries) => entries
  | _ => []

/-- The section is no table, or an option in it is of another type than its own. -/
inductive IsFaulty (root : Entries) : Prop
  | noTable {value : Value} (found : find? sectionKey root = some value)
      (other : ∀ origin entries, value ≠ .table origin entries)
  | profile {value : Value} (found : find? profileOption (options root) = some value)
      (other : ∀ name, value ≠ .string name)
  | formatting {value : Value} (found : find? formattingOption (options root) = some value)
      (other : ∀ enabled, value ≠ .boolean enabled)

/-- Each option is the one that is given, a profile by its very name, or else the standard one. -/
structure Follows (options : Entries) (settings : Settings) : Prop where
  profile : ∀ name, find? profileOption options = some (.string name) →
    settings.profile = Profile.parse name ∧ settings.profile.name = name
  noProfile : find? profileOption options = none → settings.profile = standard.profile
  formatting : ∀ enabled, find? formattingOption options = some (.boolean enabled) →
    settings.formatting = enabled
  noFormatting : find? formattingOption options = none → settings.formatting = standard.formatting

/-- Two tables have the same entries under some keys, among any others and in any order. -/
def SameUnder (keys : List String) (entries others : Entries) : Prop :=
  (others.filter fun entry => entry.1 ∈ keys).Perm (entries.filter fun entry => entry.1 ∈ keys)

/-- Two trees differ in nothing but keys and tables that are no options: the section is the same in
both, or it is a table in both with the same options. -/
def SameOptions (root other : Entries) : Prop :=
  SameUnder [sectionKey] root other ∨
    ∃ origin entries origin' entries', (sectionKey, .table origin entries) ∈ root ∧
      (sectionKey, .table origin' entries') ∈ other ∧
      SameUnder [profileOption, formattingOption] entries entries'

variable {text : String} {root other entries others : Entries} {value : Value}

/-! ## Numbers that can be represented -/

theorem isReadable_table (origin : Origin) (entries : List (String × Value)) :
    isReadable (.table origin entries) = entriesReadable entries := rfl

theorem entriesReadable_iff :
    entriesReadable entries = true ↔ ∀ entry ∈ entries, isReadable entry.2 = true := by
  induction entries with
  | nil => simp [entriesReadable]
  | cons entry entries ih =>
    obtain ⟨key, value⟩ := entry
    rw [entriesReadable, Bool.and_eq_true, ih, List.forall_mem_cons]

theorem parse?_of_document? (read : document? text = some root) :
    Toml.parse? text = some root ∧ ∀ entry ∈ root, isReadable entry.2 = true := by
  obtain ⟨parsed, readable⟩ := Option.filter_eq_some_iff.mp read
  exact ⟨parsed, entriesReadable_iff.mp readable⟩

theorem keyedOnce_of_document? (read : document? text = some root) : KeyedOnce root :=
  keyedOnce_of_parse? (parse?_of_document? read).1

/-- What a well-formed text comes to is decided by its section alone. -/
theorem parse?_eq (read : document? text = some root) :
    parse? text = ((find? sectionKey root).elim (some ⟨none, none⟩) Given.ofSection?).map
      Given.settings := by
  obtain ⟨parsed, readable⟩ := parse?_of_document? read
  have rest : entriesReadable (root.filter fun entry => entry.1 ≠ sectionKey) = true :=
    entriesReadable_iff.mpr fun entry mem => readable entry (List.mem_filter.mp mem).1
  rw [parse?, parsed, Option.bind_some, Given.ofDocument?, if_pos rest]
  cases find? sectionKey root <;> rfl

/-- A text that is not well-formed comes to nothing, as long as its section is ordinary. -/
theorem parse?_eq_none (read : document? text = none)
    (ordinary : ∀ root value, Toml.parse? text = some root → (sectionKey, value) ∈ root →
      isOrdinary value = true) : parse? text = none := by
  cases parsed : Toml.parse? text with
  | none => rw [parse?, parsed]; rfl
  | some root =>
    rw [parse?, parsed, Option.bind_some, Given.ofDocument?]
    split
    next rest =>
      -- all that cannot be represented lies in the section
      have unreadable : ¬∀ entry ∈ root, isReadable entry.2 = true := by
        rw [← entriesReadable_iff]
        intro readable
        rw [document?, parsed, Option.filter_some, if_pos readable] at read
        exact absurd read nofun
      obtain ⟨value, mem, bad⟩ : ∃ value, (sectionKey, value) ∈ root ∧ isReadable value = false := by
        by_contra none
        refine unreadable fun entry mem => ?_
        by_cases own : entry.1 = sectionKey
        · by_contra bad
          exact none ⟨entry.2, own ▸ mem, by simpa using bad⟩
        · exact entriesReadable_iff.mp rest entry (List.mem_filter.mpr ⟨mem, by simpa using own⟩)
      rw [find?_of_mem (keyedOnce_of_parse? parsed).once mem]
      have plain := ordinary root value parsed mem
      cases value with
      | string => cases bad
      | boolean => cases bad
      | integer => rfl
      | float => rfl
      | table origin entries =>
        rw [isReadable_table] at bad
        simp [Given.ofSection?, bad]
      | moment => exact absurd plain Bool.false_ne_true
      | array => exact absurd plain Bool.false_ne_true
      | tables => exact absurd plain Bool.false_ne_true
    next => rfl

/-! ## The options of a well-formed text -/

/-- A section that is a table has the options that are of their own types. -/
theorem ofSection?_table {origin : Origin} (readable : ∀ entry ∈ entries, isReadable entry.2 = true) :
    Given.ofSection? (.table origin entries) =
      (optional profileOf? (find? profileOption entries)).bind fun profile =>
        (optional formattingOf? (find? formattingOption entries)).map fun formatting =>
          ⟨profile, formatting⟩ := by
  simp only [Given.ofSection?, if_pos (entriesReadable_iff.mpr readable)]
  cases optional profileOf? (find? profileOption entries) with
  | none => rfl
  | some profile => cases optional formattingOf? (find? formattingOption entries) <;> rfl

/-- The section of a well-formed text can be represented as a whole. -/
theorem readable_of_section {origin : Origin} (read : document? text = some root)
    (found : find? sectionKey root = some (.table origin entries)) :
    ∀ entry ∈ entries, isReadable entry.2 = true := by
  have own := (parse?_of_document? read).2 _ (mem_of_find? found)
  rw [isReadable_table] at own
  exact entriesReadable_iff.mp own

/-- An option can only be there if the section is a table. -/
theorem section_of_options {key : String} (found : find? key (options root) = some value) :
    ∃ origin entries, find? sectionKey root = some (.table origin entries) ∧
      find? key entries = some value := by
  unfold options at found
  split at found
  next origin entries table => exact ⟨origin, entries, table, found⟩
  next => exact absurd found nofun

theorem options_of_section {origin : Origin}
    (found : find? sectionKey root = some (.table origin entries)) : options root = entries := by
  rw [options, found]

theorem profileOf?_eq_none (other : ∀ name, value ≠ .string name) : profileOf? value = none := by
  cases value with
  | string name => exact absurd rfl (other name)
  | _ => rfl

theorem formattingOf?_eq_none (other : ∀ enabled, value ≠ .boolean enabled) :
    formattingOf? value = none := by
  cases value with
  | boolean enabled => exact absurd rfl (other enabled)
  | _ => rfl

theorem ofSection?_eq_none (ordinary : isOrdinary value = true)
    (other : ∀ origin entries, value ≠ .table origin entries) : Given.ofSection? value = none := by
  cases value with
  | table origin entries => exact absurd rfl (other origin entries)
  | string => rfl
  | integer => rfl
  | float => rfl
  | boolean => rfl
  | moment => exact absurd ordinary Bool.false_ne_true
  | array => exact absurd ordinary Bool.false_ne_true
  | tables => exact absurd ordinary Bool.false_ne_true

/-- A faulty section fails the whole text. -/
theorem parse?_of_isFaulty (read : document? text = some root)
    (ordinary : ∀ value, (sectionKey, value) ∈ root → isOrdinary value = true) (faulty : IsFaulty root) :
    parse? text = none := by
  cases faulty with
  | noTable found other =>
    rw [parse?_eq read, found, Option.elim_some,
      ofSection?_eq_none (ordinary _ (mem_of_find? found)) other, Option.map_none]
  | profile found other =>
    obtain ⟨origin, entries, table, own⟩ := section_of_options found
    rw [parse?_eq read, table, Option.elim_some, ofSection?_table (readable_of_section read table),
      own, optional, profileOf?_eq_none other]
    rfl
  | formatting found other =>
    obtain ⟨origin, entries, table, own⟩ := section_of_options found
    rw [parse?_eq read, table, Option.elim_some, ofSection?_table (readable_of_section read table),
      own, optional, formattingOf?_eq_none other]
    simp

/-- An option of its own type is given, or it is not there. -/
theorem optional_profileOf? {found : Option Value}
    (own : ∀ value, found = some value → ∃ name, value = .string name) :
    ∃ given, optional profileOf? found = some given ∧
      (∀ name, found = some (.string name) → given = some (Profile.parse name)) ∧
      (found = none → given = none) := by
  cases found with
  | none => exact ⟨none, rfl, nofun, fun _ => rfl⟩
  | some value =>
    obtain ⟨name, rfl⟩ := own value rfl
    refine ⟨some (Profile.parse name), rfl, fun other same => ?_, nofun⟩
    rw [Value.string.inj (Option.some.inj same)]

theorem optional_formattingOf? {found : Option Value}
    (own : ∀ value, found = some value → ∃ enabled, value = .boolean enabled) :
    ∃ given, optional formattingOf? found = some given ∧
      (∀ enabled, found = some (.boolean enabled) → given = some enabled) ∧
      (found = none → given = none) := by
  cases found with
  | none => exact ⟨none, rfl, nofun, fun _ => rfl⟩
  | some value =>
    obtain ⟨enabled, rfl⟩ := own value rfl
    refine ⟨some enabled, rfl, fun other same => ?_, nofun⟩
    rw [Value.boolean.inj (Option.some.inj same)]

/-- Settings follow the options that were given. -/
theorem follows_settings {given : Given}
    (profile : ∀ name, find? profileOption entries = some (.string name) →
      given.profile = some (Profile.parse name))
    (noProfile : find? profileOption entries = none → given.profile = none)
    (formatting : ∀ enabled, find? formattingOption entries = some (.boolean enabled) →
      given.formatting = some enabled)
    (noFormatting : find? formattingOption entries = none → given.formatting = none) :
    Follows entries given.settings where
  profile name found := by
    rw [Given.settings, profile name found, Option.getD_some]
    exact ⟨rfl, Profile.name_parse name⟩
  noProfile out := by rw [Given.settings, noProfile out, Option.getD_none]
  formatting enabled found := by rw [Given.settings, formatting enabled found, Option.getD_some]
  noFormatting out := by rw [Given.settings, noFormatting out, Option.getD_none]

/-- **A section without fault gives settings in which each option follows its own key.** -/
theorem parse?_of_not_isFaulty (read : document? text = some root) (sound : ¬IsFaulty root) :
    ∃ settings, parse? text = some settings ∧ Follows (options root) settings := by
  have ownProfile : ∀ value, find? profileOption (options root) = some value →
      ∃ name, value = .string name := fun value found => by
    by_contra none
    exact sound (.profile found fun name same => none ⟨name, same⟩)
  have ownFormatting : ∀ value, find? formattingOption (options root) = some value →
      ∃ enabled, value = .boolean enabled := fun value found => by
    by_contra none
    exact sound (.formatting found fun enabled same => none ⟨enabled, same⟩)
  rw [parse?_eq read]
  cases found : find? sectionKey root with
  | none =>
    have empty : options root = [] := by rw [options, found]
    rw [empty]
    exact ⟨_, rfl, follows_settings nofun (fun _ => rfl) nofun fun _ => rfl⟩
  | some value =>
    obtain ⟨origin, entries, rfl⟩ : ∃ origin entries, value = .table origin entries := by
      by_contra none
      exact sound (.noTable found fun origin entries same => none ⟨origin, entries, same⟩)
    rw [options_of_section found] at ownProfile ownFormatting ⊢
    obtain ⟨profile, givenProfile, asGiven, orNone⟩ := optional_profileOf? ownProfile
    obtain ⟨formatting, givenFormatting, asGiven', orNone'⟩ := optional_formattingOf? ownFormatting
    rw [Option.elim_some, ofSection?_table (readable_of_section read found), givenProfile,
      givenFormatting]
    exact ⟨_, rfl, follows_settings asGiven orNone asGiven' orNone'⟩

/-! ## Keys that are no options -/

/-- Under one of the keys the same is found in both tables. -/
theorem find?_of_sameUnder {keys : List String} {key : String}
    (once : (entries.map (·.1)).Nodup) (same : SameUnder keys entries others) (mem : key ∈ keys) :
    find? key others = find? key entries := by
  let keep (key : String) : Bool := decide (key ∈ keys)
  have kept : keep key = true := decide_eq_true mem
  have onceKept : ((entries.filter fun entry => keep entry.1).map (·.1)).Nodup :=
    once.sublist (List.filter_sublist.map _)
  calc find? key others
      = find? key (others.filter fun entry => keep entry.1) := (find?_filter keep kept others).symm
    _ = find? key (entries.filter fun entry => keep entry.1) := find?_of_perm onceKept same
    _ = find? key entries := find?_filter keep kept entries

theorem keyedOnce_of_section {origin : Origin} (read : document? text = some root)
    (mem : (sectionKey, .table origin entries) ∈ root) : (entries.map (·.1)).Nodup :=
  (KeyedOnce.of_table ((keyedOnce_of_document? read).each _ mem)).once

/-- **Keys and tables that are no options do not matter**: wherever they stand, and whether they are
there at all, the same comes of the text. -/
theorem parse?_of_sameOptions {otherText : String} (read : document? text = some root)
    (readOther : document? otherText = some other) (same : SameOptions root other) :
    parse? otherText = parse? text := by
  have once := (keyedOnce_of_document? read).once
  have onceOther := (keyedOnce_of_document? readOther).once
  rw [parse?_eq read, parse?_eq readOther]
  rcases same with whole | ⟨origin, entries, origin', entries', mem, mem', own⟩
  · rw [find?_of_sameUnder once whole (List.mem_singleton.mpr rfl)]
  · have onceEntries := keyedOnce_of_section read mem
    have found := find?_of_mem once mem
    have found' := find?_of_mem onceOther mem'
    rw [found, found', Option.elim_some, Option.elim_some,
      ofSection?_table (readable_of_section read found),
      ofSection?_table (readable_of_section readOther found'),
      find?_of_sameUnder onceEntries own (by simp), find?_of_sameUnder onceEntries own (by simp)]

/-! ## Files -/

variable {files : FileTree} {path : String}

theorem load_of_text (given : files.readText path = .ok text) :
    load files path =
      (parse? text).elim (.error (.parse path)) .ok := by
  unfold load
  rw [given]
  cases found : parse? text <;> simp [found]

theorem readText_of_read {bytes : List UInt8} (read : files.read path = .ok bytes) :
    files.readText path =
      (Text.ofBytes? bytes).elim (.error .invalidData) .ok := by
  unfold FileTree.readText
  rw [read]
  cases found : Text.ofBytes? bytes <;> simp [found]

theorem readText_of_error {kind : IoKind} (read : files.read path = .error kind) :
    files.readText path = .error kind := by
  unfold FileTree.readText
  rw [read]

theorem load_of_error {kind : IoKind} (other : kind ≠ .notFound)
    (failed : files.readText path = .error kind) :
    load files path = .error (.read path kind.failure) := by
  unfold load
  rw [failed]
  cases kind <;> first | rfl | exact absurd rfl other

/-- **Settings are read as a whole or not at all.**  A missing file holds the standard settings; one
that cannot be read, or is no UTF-8, fails to be read.  A text is refused if it is not well-formed
or its section is faulty, and else gives settings in which each option follows its own key, whatever
other keys and tables there are and in whatever order.  Every way to read a source shows what came
of its file, and the standard settings as a whole where nothing did. -/
theorem load_reads (files : FileTree) (path : String)
    (ordinary : ∀ text root value, files.readText path = .ok text →
      Toml.parse? text = some root → (sectionKey, value) ∈ root → isOrdinary value = true) :
    (files.read path = .error .notFound → load files path = .ok standard) ∧
    (∀ kind, files.read path = .error kind → kind ≠ .notFound →
      load files path = .error (.read path kind.failure)) ∧
    (∀ bytes, files.read path = .ok bytes → Text.ofBytes? bytes = none →
      load files path = .error (.read path IoKind.invalidData.failure)) ∧
    (∀ bytes text, files.read path = .ok bytes → Text.ofBytes? bytes = some text →
      (document? text = none → load files path = .error (.parse path)) ∧
      ∀ root, document? text = some root →
        (IsFaulty root → load files path = .error (.parse path)) ∧
        (¬IsFaulty root →
          ∃ settings, load files path = .ok settings ∧ Follows (options root) settings) ∧
        ∀ (others : FileTree) (otherText : String) (other : Entries),
          others.readText path = .ok otherText → document? otherText = some other →
            SameOptions root other → load others path = load files path) ∧
    ∃ shown : Settings, shown = (load files path).toOption.getD standard ∧
      ((SettingsSource.file path).snapshot files).1 = shown ∧
      ((SettingsSource.file path).profile files).1 = shown.profile ∧
      ((SettingsSource.file path).formatting files).1 = shown.formatting := by
  refine ⟨fun missing => ?_, fun kind failed other => load_of_error other (readText_of_error failed),
    fun bytes read foreign => ?_, fun bytes text read spelled => ?_, _, rfl, ?_⟩
  · rw [load, readText_of_error missing]
  · refine load_of_error nofun ?_
    rw [readText_of_read read, foreign, Option.elim_none]
  · have given : files.readText path = .ok text := by
      rw [readText_of_read read, spelled, Option.elim_some]
    rw [load_of_text given]
    refine ⟨fun illFormed => ?_, fun root tree => ⟨fun faulty => ?_, fun sound => ?_,
      fun others otherText other givenOther treeOther same => ?_⟩⟩
    · rw [parse?_eq_none illFormed fun root value => ordinary text root value given, Option.elim_none]
    · rw [parse?_of_isFaulty tree
        (fun value => ordinary text root value given (parse?_of_document? tree).1) faulty,
        Option.elim_none]
    · obtain ⟨settings, found, follows⟩ := parse?_of_not_isFaulty tree sound
      exact ⟨settings, by rw [found, Option.elim_some], follows⟩
    · rw [load_of_text givenOther, parse?_of_sameOptions tree treeOther same]
  · have shown : ((SettingsSource.file path).snapshot files).1 =
        (load files path).toOption.getD standard := by
      unfold SettingsSource.snapshot
      cases loaded : load files path <;> simp [loaded, Except.toOption]
    exact ⟨shown, congrArg Settings.profile shown, congrArg Settings.formatting shown⟩

/-! One profile, given by a header or by a dotted key among other tables, and a toggle that is no
boolean. -/

/-- The root directory with a settings file of that text. -/
def rootWith (text : String) : FileTree :=
  ⟨.directory [("qside.toml", .file (Text.toBytes text))]⟩

theorem read_rootWith (text : String) :
    (rootWith text).read "qside.toml" = .ok (Text.toBytes text) := by
  have route : FileTree.Route.parse "qside.toml" = .ok ⟨[], "qside.toml", false⟩ := by
    decide +kernel
  exact FileTree.read_of_root route (by decide) (by decide) (by decide) (by simp [Node.find?])

theorem readText_rootWith (text : String) : (rootWith text).readText "qside.toml" = .ok text := by
  rw [readText_of_read (read_rootWith text), Text.ofBytes?_toBytes, Option.elim_some]

/-- The section of a tree is a table that gives a profile of that name and no toggle. -/
def givesProfile (name : String) (root : Entries) : Bool :=
  match find? sectionKey root with
  | some (.table _ entries) =>
    match entries.filter fun entry => entry.1 ∈ [profileOption, formattingOption] with
    | [(key, .string given)] => key = profileOption && given = name
    | _ => false
  | _ => false

theorem exists_of_givesProfile {name : String} (gives : givesProfile name root = true) :
    ∃ origin entries, find? sectionKey root = some (.table origin entries) ∧
      (entries.filter fun entry => entry.1 ∈ [profileOption, formattingOption]) =
        [(profileOption, .string name)] := by
  unfold givesProfile at gives
  split at gives
  next origin entries found =>
    refine ⟨origin, entries, found, ?_⟩
    split at gives
    next key given only =>
      obtain ⟨rfl, rfl⟩ := (Bool.and_eq_true_iff.mp gives).imp of_decide_eq_true of_decide_eq_true
      exact only
    next => exact absurd gives nofun
  next => exact absurd gives nofun

def adaptiveByHeader : String := "[qside]\ntargetProfile = \"adaptive\"\n"

def adaptiveByDottedKey : String :=
  "qside.other = 2\nqside.\"targetProfile\" = 'adaptive' # verbatim\n[log]\nlevel = 1e3\n"

def numericToggle : String := "[qside]\ntargetProfile = \"base\"\nenableFormatting = 1\n"

/-- Whether the section of a text, if it has one, is ordinary. -/
def hasOrdinarySection (text : String) : Bool :=
  (Toml.parse? text).all fun root =>
    root.all fun entry => entry.1 ≠ sectionKey || isOrdinary entry.2

theorem ordinary_rootWith (ordinary : hasOrdinarySection text = true) :
    ∀ given root value, (rootWith text).readText "qside.toml" = .ok given →
      Toml.parse? given = some root → (sectionKey, value) ∈ root → isOrdinary value = true := by
  intro given root value read parsed mem
  obtain rfl := Except.ok.inj ((readText_rootWith text).symm.trans read)
  rw [hasOrdinarySection, parsed, Option.all_some, List.all_eq_true] at ordinary
  simpa using ordinary _ mem

theorem load_reads_of_adaptive :
    (∃ settings, load (rootWith adaptiveByHeader) "qside.toml" = .ok settings ∧
      settings.profile.name = "adaptive" ∧ settings.formatting = true) ∧
    load (rootWith adaptiveByDottedKey) "qside.toml" =
      load (rootWith adaptiveByHeader) "qside.toml" ∧
    load (rootWith numericToggle) "qside.toml" = .error (.parse "qside.toml") := by
  have ordinary : hasOrdinarySection adaptiveByHeader = true := by decide +kernel
  have gives : (document? adaptiveByHeader).any (givesProfile "adaptive") = true := by
    decide +kernel
  have givesDotted : (document? adaptiveByDottedKey).any (givesProfile "adaptive") = true := by
    decide +kernel
  have accepted : parse? adaptiveByHeader ≠ none := by decide +kernel
  obtain ⟨root, tree, gives⟩ := (Option.any_eq_true ..).mp gives
  obtain ⟨other, treeDotted, givesDotted⟩ := (Option.any_eq_true ..).mp givesDotted
  obtain ⟨origin, entries, found, only⟩ := exists_of_givesProfile gives
  obtain ⟨origin', entries', found', only'⟩ := exists_of_givesProfile givesDotted
  have header := ((load_reads (rootWith adaptiveByHeader) "qside.toml"
    (ordinary_rootWith ordinary)).2.2.2.1 _ _ (read_rootWith _) (Text.ofBytes?_toBytes _)).2 root tree
  have sound : ¬IsFaulty root := fun faulty => accepted (parse?_of_isFaulty tree
    (fun value => ordinary_rootWith ordinary _ root value (readText_rootWith _)
      (parse?_of_document? tree).1) faulty)
  obtain ⟨settings, loaded, follows⟩ := header.2.1 sound
  rw [options_of_section found] at follows
  let keep (key : String) : Bool := decide (key ∈ [profileOption, formattingOption])
  have own : find? profileOption entries = some (.string "adaptive") := by
    rw [← find?_filter keep (by decide) entries, only]
    rfl
  have noToggle : find? formattingOption entries = none := by
    rw [← find?_filter keep (by decide) entries, only]
    rfl
  have same : SameOptions root other := by
    refine .inr ⟨origin, entries, origin', entries', mem_of_find? found, mem_of_find? found', ?_⟩
    rw [SameUnder, only, only']
  have numeric : (document? numericToggle).any (fun root =>
      (find? formattingOption (options root)).any fun value => formattingOf? value = none) = true := by
    decide +kernel
  obtain ⟨third, treeNumeric, numeric⟩ := (Option.any_eq_true ..).mp numeric
  obtain ⟨value, toggle, numeric⟩ := (Option.any_eq_true ..).mp numeric
  have refused := ((load_reads (rootWith numericToggle) "qside.toml" (ordinary_rootWith
    (by decide +kernel))).2.2.2.1 _ _ (read_rootWith _) (Text.ofBytes?_toBytes _)).2 third treeNumeric
  refine ⟨⟨settings, loaded, (follows.profile _ own).2, follows.noFormatting noToggle⟩,
    header.2.2 _ _ other (readText_rootWith _) treeDotted same,
    refused.1 (.formatting toggle fun enabled boolean => ?_)⟩
  rw [boolean] at numeric
  exact absurd numeric nofun

end EngineSync.Settings
