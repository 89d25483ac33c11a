import Mathlib.Data.List.Forall2
import EngineSync.Proofs.JsonGrammar

/-!
# Reading what was written

The written form of a value is a text of the grammar: every character of a text is written in a way
that reads as that character, and arrays and objects are put together from their parts.  So it is
read as the tree of the value (`Reads.parse?`).
-/
namespace EngineSync.Json

open Text (Symbol)

/-- The text of a value writes a tree. -/
def Reads (value : Json) (tree : Tree) : Prop :=
  Written ((render value).map .char) tree

/-- What a text is written as between its quotes spells that text. -/
def ReadsText (s : String) (pieces : List Piece) : Prop :=
  Quoted ((s.toList.flatMap escapeChar).map .char) pieces ∧ pieceText? pieces = some s

/-- A written member is read as a member. -/
structure ReadsMember (member : String × Json) (entry : List Piece × Tree) : Prop where
  key : ReadsText member.1 entry.1
  value : Reads member.2 entry.2

variable {value : Json} {tree : Tree}

/-! ## Strings -/

theorem hexValue?_hexDigit {d : Nat} (small : d < 16) : hexValue? (Text.hexDigit d) = some d := by
  have all : ∀ d : Fin 16, hexValue? (Text.hexDigit d) = some d.val := by decide
  exact all ⟨d, small⟩

/-- A character is written by a letter, as a control by its number, or as itself. -/
theorem escapeChar_cases (c : Char) :
    (∃ letter, escapeChar c = ['\\', letter] ∧ escapedChar? letter = some c ∧ letter ≠ 'u') ∨
      (c.toNat < 32 ∧ escapeChar c =
        ['\\', 'u', '0', '0', Text.hexDigit (c.toNat / 16), Text.hexDigit (c.toNat % 16)]) ∨
      (escapeChar c = [c] ∧ c ≠ '"' ∧ c ≠ '\\' ∧ ¬c < ' ') := by
  unfold escapeChar
  split
  next quote => exact .inl ⟨'"', rfl, by rw [quote]; rfl, by decide⟩
  split
  next slash => exact .inl ⟨'\\', rfl, by rw [slash]; rfl, by decide⟩
  split
  next back => exact .inl ⟨'b', rfl, by rw [back]; rfl, by decide⟩
  split
  next feed => exact .inl ⟨'f', rfl, by rw [feed]; rfl, by decide⟩
  split
  next line => exact .inl ⟨'n', rfl, by rw [line]; rfl, by decide⟩
  split
  next carriage => exact .inl ⟨'r', rfl, by rw [carriage]; rfl, by decide⟩
  split
  next tab => exact .inl ⟨'t', rfl, by rw [tab]; rfl, by decide⟩
  split
  next control => exact .inr (.inl ⟨control, rfl⟩)
  next quote slash _ _ _ _ _ plain => exact .inr (.inr ⟨rfl, quote, slash, plain⟩)

/-- **Every character comes back as it was written**: as itself, or as its number if it is a control
without a letter of its own. -/
theorem quoted_escapeChar (c : Char) :
    ∃ piece, (∀ more, spell? (piece :: more) = (spell? more).map (c :: ·)) ∧
      ∀ text pieces, Quoted text pieces →
        Quoted ((escapeChar c).map .char ++ text) (piece :: pieces) := by
  rcases escapeChar_cases c with ⟨letter, written, known, -⟩ | ⟨small, written⟩ |
    ⟨written, quote, slash, plain⟩
  · refine ⟨.char c, fun more => rfl, fun text pieces quoted => ?_⟩
    rw [written]
    exact .escape known quoted
  · refine ⟨.unit c.toNat, fun more => ?_, fun text pieces quoted => ?_⟩
    · -- a control is no surrogate
      have low : ¬0xD800 ≤ c.toNat := by omega
      have high : ¬0xDC00 ≤ c.toNat := by omega
      rw [spell?.eq_def]
      simp [low, high]
    · have zero : hexValue? '0' = some 0 := rfl
      have high := hexValue?_hexDigit (show c.toNat / 16 < 16 by omega)
      have low := hexValue?_hexDigit (show c.toNat % 16 < 16 by omega)
      have number : ((0 * 16 + 0) * 16 + c.toNat / 16) * 16 + c.toNat % 16 = c.toNat := by omega
      have unit := Quoted.unit zero zero high low quoted
      rw [number] at unit
      rw [written]
      exact unit
  · refine ⟨.char c, fun more => rfl, fun text pieces quoted => ?_⟩
    rw [written]
    exact .char quote slash plain quoted

theorem quoted_flatMap (cs : List Char) :
    ∃ pieces, spell? pieces = some cs ∧ Quoted ((cs.flatMap escapeChar).map .char) pieces := by
  induction cs with
  | nil => exact ⟨[], rfl, .nil⟩
  | cons c cs ih =>
    obtain ⟨piece, own, step⟩ := quoted_escapeChar c
    obtain ⟨pieces, others, quoted⟩ := ih
    refine ⟨piece :: pieces, by rw [own, others]; rfl, ?_⟩
    rw [List.flatMap_cons, List.map_append]
    exact step _ _ quoted

/-- **Every text comes back from its written form.** -/
theorem readsText (s : String) : ∃ pieces, ReadsText s pieces := by
  obtain ⟨pieces, spelled, quoted⟩ := quoted_flatMap s.toList
  exact ⟨pieces, quoted, by rw [pieceText?, spelled, Option.map_some, String.ofList_toList]⟩

theorem map_renderString (s : String) :
    (renderString s).map Symbol.char =
      .char '"' :: (s.toList.flatMap escapeChar).map .char ++ [.char '"'] := by
  rw [renderString, List.map_append, List.map_cons, List.map_singleton]

/-! ## Values -/

theorem reads_null : Reads .null .null := .null

theorem reads_bool (b : Bool) : Reads (.bool b) (.bool b) := by
  cases b with
  | true => exact .true
  | false => exact .false

theorem reads_string {s : String} {pieces : List Piece} (text : ReadsText s pieces) :
    Reads (.string s) (.string pieces) := by
  rw [Reads, render, map_renderString]
  exact .string text.1

/-! ## Arrays and objects -/

theorem writtenItems_renderItems {items : List Json} {trees : List Tree}
    (each : List.Forall₂ Reads items trees) (some : items ≠ []) :
    WrittenItems ((renderItems items).map .char) trees := by
  induction each with
  | nil => exact absurd rfl some
  | @cons item tree items trees first others ih =>
    cases others with
    | nil => exact .last first
    | cons second others =>
      rw [renderItems, List.map_append, List.map_cons]
      · exact .more first (ih (List.cons_ne_nil _ _))
      · nofun

/-- **An array is read when each of its items is.** -/
theorem reads_array {items : List Json} {trees : List Tree} (each : List.Forall₂ Reads items trees) :
    Reads (.array items) (.array trees) := by
  rw [Reads, render, List.map_append, List.map_cons, List.map_singleton]
  cases each with
  | nil => exact .emptyArray nofun
  | cons first others =>
    exact .array (writtenItems_renderItems (.cons first others) (List.cons_ne_nil _ _))

theorem ReadsMember.written {member : String × Json} {entry : List Piece × Tree}
    (reads : ReadsMember member entry) :
    WrittenMember ((renderString member.1 ++ ':' :: render member.2).map .char) entry := by
  have inside := @WrittenMember.mk [] _ [] _ _ _ nofun reads.key.1 nofun reads.value
  rw [List.map_append, List.map_cons, map_renderString]
  rwa [List.nil_append, List.append_nil] at inside

theorem writtenMembers_renderMembers {members : List (String × Json)}
    {entries : List (List Piece × Tree)} (each : List.Forall₂ ReadsMember members entries)
    (some : members ≠ []) : WrittenMembers ((renderMembers members).map .char) entries := by
  induction each with
  | nil => exact absurd rfl some
  | @cons member entry members entries first others ih =>
    cases others with
    | nil => exact .last first.written
    | cons second others =>
      rw [renderMembers, List.map_append, List.map_cons]
      · exact .more first.written (ih (List.cons_ne_nil _ _))
      · nofun

/-- **An object is read when each of its members is.** -/
theorem reads_object {members : List (String × Json)} {entries : List (List Piece × Tree)}
    (each : List.Forall₂ ReadsMember members entries) :
    Reads (.object members) (.object entries) := by
  rw [Reads, render, List.map_append, List.map_cons, List.map_singleton]
  cases each with
  | nil => exact .emptyObject nofun
  | cons first others =>
    exact .object (writtenMembers_renderMembers (.cons first others) (List.cons_ne_nil _ _))

/-- A whole text is read as the tree of its value. -/
theorem Reads.parse? (reads : Reads value tree) :
    Tree.parse? ((render value).map .char) = some tree :=
  Written.parse? reads

end EngineSync.Json
