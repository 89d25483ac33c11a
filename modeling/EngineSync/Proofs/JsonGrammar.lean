import Mathlib.Data.List.TakeWhile
import Mathlib.Data.Option.Basic
import Mathlib.Tactic.ByContra
import EngineSync.Json.Value

/-!
# The grammar of JSON texts

`Written` says what a text of JSON is without saying how it is read: words, numbers and strings,
arrays and objects of any depth, and blanks wherever the grammar has room for them.  The lexer and
the parser run over a text once, so what they make of a text that goes on is said by where they
stand: `readFrom` is both of them at once.  The main statement is that every written text is read
as the tree it writes (`Written.parse?`).
-/
namespace EngineSync.Json

open Text (Symbol)

/-! ## What is written -/

/-- A row of blanks. -/
def Blanks (text : List Symbol) : Prop :=
  ∀ s ∈ text, ∃ c, s = .char c ∧ isBlank c = true

/-- What stands between the quotes of a string. -/
inductive Quoted : List Symbol → List Piece → Prop
  | nil : Quoted [] []
  | char {c : Char} {text : List Symbol} {pieces : List Piece} (quote : c ≠ '"') (slash : c ≠ '\\')
      (plain : ¬c < ' ') (more : Quoted text pieces) : Quoted (.char c :: text) (.char c :: pieces)
  | byte (b : UInt8) {text : List Symbol} {pieces : List Piece} (more : Quoted text pieces) :
      Quoted (.byte b :: text) (.byte b :: pieces)
  | escape {letter c : Char} {text : List Symbol} {pieces : List Piece}
      (known : escapedChar? letter = some c) (more : Quoted text pieces) :
      Quoted (.char '\\' :: .char letter :: text) (.char c :: pieces)
  | unit {a b c d : Char} {n₁ n₂ n₃ n₄ : Nat} {text : List Symbol} {pieces : List Piece}
      (first : hexValue? a = some n₁) (second : hexValue? b = some n₂)
      (third : hexValue? c = some n₃) (fourth : hexValue? d = some n₄)
      (more : Quoted text pieces) :
      Quoted (.char '\\' :: .char 'u' :: .char a :: .char b :: .char c :: .char d :: text)
        (.unit (((n₁ * 16 + n₂) * 16 + n₃) * 16 + n₄) :: pieces)

mutual

/-- The text of a value, with any blanks around it. -/
inductive Written : List Symbol → Tree → Prop
  | null : Written (['n', 'u', 'l', 'l'].map .char) .null
  | true : Written (['t', 'r', 'u', 'e'].map .char) (.bool true)
  | false : Written (['f', 'a', 'l', 's', 'e'].map .char) (.bool false)
  | number {text : List Char} {n : Numeral} (numeral : Numeral.parse? text = some n) :
      Written (text.map .char) (.number n)
  | string {text : List Symbol} {pieces : List Piece} (quoted : Quoted text pieces) :
      Written (.char '"' :: text ++ [.char '"']) (.string pieces)
  | emptyArray {blanks : List Symbol} (blank : Blanks blanks) :
      Written (.char '[' :: blanks ++ [.char ']']) (.array [])
  | array {text : List Symbol} {trees : List Tree} (items : WrittenItems text trees) :
      Written (.char '[' :: text ++ [.char ']']) (.array trees)
  | emptyObject {blanks : List Symbol} (blank : Blanks blanks) :
      Written (.char '\x7b' :: blanks ++ [.char '\x7d']) (.object [])
  | object {text : List Symbol} {entries : List (List Piece × Tree)}
      (members : WrittenMembers text entries) :
      Written (.char '\x7b' :: text ++ [.char '\x7d']) (.object entries)
  | blank {before text after : List Symbol} {tree : Tree} (blankBefore : Blanks before)
      (value : Written text tree) (blankAfter : Blanks after) :
      Written (before ++ text ++ after) tree

/-- The items of an array, with commas between them. -/
inductive WrittenItems : List Symbol → List Tree → Prop
  | last {text : List Symbol} {tree : Tree} (item : Written text tree) : WrittenItems text [tree]
  | more {text rest : List Symbol} {tree : Tree} {trees : List Tree} (item : Written text tree)
      (others : WrittenItems rest trees) : WrittenItems (text ++ .char ',' :: rest) (tree :: trees)

/-- One member of an object. -/
inductive WrittenMember : List Symbol → List Piece × Tree → Prop
  | mk {before key between text : List Symbol} {pieces : List Piece} {tree : Tree}
      (blankBefore : Blanks before) (quoted : Quoted key pieces) (blankBetween : Blanks between)
      (value : Written text tree) :
      WrittenMember
        (before ++ (.char '"' :: key ++ [.char '"']) ++ between ++ .char ':' :: text) (pieces, tree)

/-- The members of an object, with commas between them. -/
inductive WrittenMembers : List Symbol → List (List Piece × Tree) → Prop
  | last {text : List Symbol} {entry : List Piece × Tree} (member : WrittenMember text entry) :
      WrittenMembers text [entry]
  | more {text rest : List Symbol} {entry : List Piece × Tree}
      {entries : List (List Piece × Tree)} (member : WrittenMember text entry)
      (others : WrittenMembers rest entries) :
      WrittenMembers (text ++ .char ',' :: rest) (entry :: entries)

end

/-! ## What is read -/

/-- What the rest of a text comes to from where the lexer and the parser stand. -/
def readFrom (lexer : LexState) (parser : ParseState) (text : List Symbol) : Option ParseState :=
  (tokensFrom lexer text).bind (parseFrom parser)

/-- A text that does not go on with a letter, a digit or anything else that numbers hold. -/
def Delimited (text : List Symbol) : Prop :=
  ∀ s ∈ text.head?, ∃ c, s = .char c ∧ c.isAlphanum = false ∧ isNumeric c = false

/-- A text is one token. -/
def Spells (text : List Symbol) (token : Token) : Prop :=
  ∀ parser rest, Delimited rest →
    readFrom .between parser (text ++ rest) =
      (parseStep parser token).bind fun next => readFrom .between next rest

/-- A value is expected. -/
def Expected.Awaits (expected : Expected) : Prop :=
  expected = .value ∨ expected = .valueOrEnd

/-- A key is expected. -/
def Expected.AwaitsKey (expected : Expected) : Prop :=
  expected = .key ∨ expected = .keyOrEnd

/-- A text is read as a tree: the parser hands the tree to whatever container is around it and goes
on behind it. -/
def Denotes (text : List Symbol) (tree : Tree) : Prop :=
  ∀ expected stack rest, expected.Awaits → Delimited rest →
    readFrom .between ⟨expected, stack⟩ (text ++ rest) =
      (complete tree stack).bind fun next => readFrom .between next rest

/-- A text is read as the items of an array that is open, and the array is closed behind it. -/
def DenotesItems (text : List Symbol) (trees : List Tree) : Prop :=
  ∀ expected done stack rest, expected.Awaits →
    readFrom .between ⟨expected, .array done :: stack⟩ (text ++ .char ']' :: rest) =
      (complete (.array (done.reverse ++ trees)) stack).bind fun next =>
        readFrom .between next rest

/-- A text is read as one more member of an object that is open. -/
def DenotesMember (text : List Symbol) (entry : List Piece × Tree) : Prop :=
  ∀ expected done stack rest, expected.AwaitsKey → Delimited rest →
    readFrom .between ⟨expected, .object done :: stack⟩ (text ++ rest) =
      readFrom .between ⟨.separator, .object (entry :: done) :: stack⟩ rest

/-- A text is read as the members of an object that is open, and the object is closed behind it. -/
def DenotesMembers (text : List Symbol) (entries : List (List Piece × Tree)) : Prop :=
  ∀ expected done stack rest, expected.AwaitsKey →
    readFrom .between ⟨expected, .object done :: stack⟩ (text ++ .char '\x7d' :: rest) =
      (complete (.object (done.reverse ++ entries)) stack).bind fun next =>
        readFrom .between next rest

variable {lexer next : LexState} {parser : ParseState} {token : Token} {tokens : List Token}
  {c : Char} {s : Symbol} {text rest : List Symbol} {tree : Tree} {stack : List Frame}

/-! ## One symbol -/

theorem parseFrom_append (parser : ParseState) (first more : List Token) :
    parseFrom parser (first ++ more) = (parseFrom parser first).bind (parseFrom · more) := by
  induction first generalizing parser with
  | nil => rfl
  | cons token first ih => simp only [List.cons_append, parseFrom, ih, Option.bind_assoc]

theorem readFrom_nil (lexer : LexState) (parser : ParseState) :
    readFrom lexer parser [] = (lexEnd lexer).bind (parseFrom parser) := rfl

theorem readFrom_cons (step : lexStep lexer s = some (tokens, next)) :
    readFrom lexer parser (s :: rest) =
      (parseFrom parser tokens).bind fun parser => readFrom next parser rest := by
  unfold readFrom
  simp only [tokensFrom, step, Option.bind_map]
  -- the lexer is through before the parser begins, but neither waits for the other
  rw [Option.bind_comm]
  refine congrArg _ (funext fun more => ?_)
  exact parseFrom_append parser tokens more

theorem readFrom_silent (step : lexStep lexer s = some ([], next)) :
    readFrom lexer parser (s :: rest) = readFrom next parser rest :=
  readFrom_cons step

theorem readFrom_token (step : lexStep lexer s = some ([token], next)) :
    readFrom lexer parser (s :: rest) =
      (parseStep parser token).bind fun parser => readFrom next parser rest := by
  rw [readFrom_cons step]
  simp only [parseFrom, Option.bind_assoc, Option.bind_some]

/-- A token that ends where something else begins. -/
theorem readFrom_ends (last : lexEnd lexer = some [token])
    (ends : ∀ s ∈ rest.head?, lexStep lexer s =
      (lexStep .between s).map fun next => (token :: next.1, next.2)) :
    readFrom lexer parser rest =
      (parseStep parser token).bind fun next => readFrom .between next rest := by
  cases rest with
  | nil =>
    rw [readFrom_nil, last]
    simp [readFrom_nil, parseFrom, lexEnd]
  | cons s rest =>
    have step := ends s rfl
    cases begun : lexStep .between s with
    | none =>
      rw [begun] at step
      -- whether the token fits or not, nothing goes on with this symbol
      have stuck (lexer : LexState) (parser : ParseState) (step : lexStep lexer s = none) :
          readFrom lexer parser (s :: rest) = none := by
        simp [readFrom, tokensFrom, step]
      rw [stuck lexer parser step]
      simp only [stuck .between _ begun, Option.bind_fun_none]
    | some outcome =>
      rw [begun] at step
      rw [readFrom_cons step]
      simp only [parseFrom, Option.bind_assoc]
      refine congrArg _ (funext fun between => ?_)
      exact (readFrom_cons begun).symm

theorem delimited_nil : Delimited [] := nofun

theorem delimited_cons (other : c.isAlphanum = false ∧ isNumeric c = false) (rest : List Symbol) :
    Delimited (.char c :: rest) := by
  intro s mem
  exact ⟨c, (Option.some.inj mem).symm, other⟩

/-! ## Blanks -/

theorem lexStep_blank (blank : isBlank c = true) :
    lexStep .between (.char c) = some ([], .between) := by
  simp only [lexStep, lexBetween, if_pos blank]

theorem readFrom_blanks {blanks : List Symbol} (blank : Blanks blanks) :
    readFrom .between parser (blanks ++ rest) = readFrom .between parser rest := by
  induction blanks with
  | nil => rfl
  | cons s blanks ih =>
    obtain ⟨c, rfl, own⟩ := blank s List.mem_cons_self
    rw [List.cons_append, readFrom_silent (lexStep_blank own),
      ih fun s mem => blank s (List.mem_cons_of_mem _ mem)]

theorem delimited_blanks {blanks : List Symbol} (blank : Blanks blanks) (delimited : Delimited rest) :
    Delimited (blanks ++ rest) := by
  cases blanks with
  | nil => exact delimited
  | cons s blanks =>
    obtain ⟨c, rfl, own⟩ := blank s List.mem_cons_self
    refine delimited_cons ?_ _
    simp only [isBlank, Bool.or_eq_true, decide_eq_true_eq] at own
    rcases own with ((rfl | rfl) | rfl) | rfl <;> exact ⟨rfl, rfl⟩

/-! ## Words and numbers -/

theorem readFrom_word {letters : List Char} (cs : List Char)
    (word : ∀ c ∈ cs, c.isAlphanum = true) :
    readFrom (.word letters) parser (cs.map .char ++ rest) =
      readFrom (.word (cs.reverse ++ letters)) parser rest := by
  induction cs generalizing letters with
  | nil => rfl
  | cons c cs ih =>
    have step : lexStep (.word letters) (.char c) = some ([], .word (c :: letters)) := by
      simp only [lexStep, word c List.mem_cons_self, if_true]
    rw [List.map_cons, List.cons_append, readFrom_silent step,
      ih fun d mem => word d (List.mem_cons_of_mem _ mem)]
    simp

/-- A word of letters that the grammar knows. -/
theorem spells_word {letters : List Char} (first : lexBetween c = some ([], .word [c]))
    (word : letters.all Char.isAlphanum = true) (known : wordToken? (c :: letters) = some token) :
    Spells ((c :: letters).map .char) token := by
  intro parser rest delimited
  have step : lexStep .between (.char c) = some ([], .word [c]) := first
  have whole : (letters.reverse ++ [c]).reverse = c :: letters := by simp
  rw [List.map_cons, List.cons_append, readFrom_silent step,
    readFrom_word letters (List.all_eq_true.mp word)]
  refine readFrom_ends ?_ fun s mem => ?_
  · simp only [lexEnd, whole, known, Option.map_some]
  · obtain ⟨d, rfl, other, -⟩ := delimited s mem
    simp only [lexStep, other, Bool.false_eq_true, if_false, whole, known]
    cases lexBetween d <;> rfl

theorem readFrom_number {before : List Char} (cs : List Char)
    (numeric : ∀ c ∈ cs, isNumeric c = true) :
    readFrom (.number before) parser (cs.map .char ++ rest) =
      readFrom (.number (cs.reverse ++ before)) parser rest := by
  induction cs generalizing before with
  | nil => rfl
  | cons c cs ih =>
    have step : lexStep (.number before) (.char c) = some ([], .number (c :: before)) := by
      simp only [lexStep, numeric c List.mem_cons_self, if_true]
    rw [List.map_cons, List.cons_append, readFrom_silent step,
      ih fun d mem => numeric d (List.mem_cons_of_mem _ mem)]
    simp

/-- A row of characters that begins like a number and goes on like one. -/
theorem spells_number {cs : List Char} (first : lexBetween c = some ([], .number [c]))
    (numeric : ∀ c ∈ cs, isNumeric c = true) :
    Spells ((c :: cs).map .char) (.number (c :: cs)) := by
  intro parser rest delimited
  have step : lexStep .between (.char c) = some ([], .number [c]) := first
  have whole : (cs.reverse ++ [c]).reverse = c :: cs := by simp
  rw [List.map_cons, List.cons_append, readFrom_silent step, readFrom_number cs numeric]
  refine readFrom_ends ?_ fun s mem => ?_
  · simp only [lexEnd, whole]
  · obtain ⟨d, rfl, -, other⟩ := delimited s mem
    simp only [lexStep, other, Bool.false_eq_true, if_false, whole]
    cases lexBetween d <;> rfl

theorem lexBetween_digit (digit : c.isDigit = true) : lexBetween c = some ([], .number [c]) := by
  have blank : isBlank c = false := by
    by_contra blank
    simp only [isBlank, Bool.not_eq_false, Bool.or_eq_true, decide_eq_true_eq] at blank
    rcases blank with ((rfl | rfl) | rfl) | rfl <;> exact absurd digit (by decide)
  have quote : c ≠ '"' := fun quote => by
    rw [quote] at digit
    exact absurd digit (by decide)
  simp [lexBetween, blank, quote, digit]

/-- Digits that a span has taken are characters of numbers, and so is what follows if it is. -/
theorem numeric_of_spanDigits {cs : List Char}
    (others : ∀ c ∈ (spanDigits cs).2, isNumeric c = true) : ∀ c ∈ cs, isNumeric c = true := by
  intro c mem
  rw [← List.takeWhile_append_dropWhile (p := Char.isDigit) (l := cs)] at mem
  rcases List.mem_append.mp mem with digit | other
  · simp [isNumeric, List.mem_takeWhile_imp digit]
  · exact others c other

/-- An exponent holds only characters of numbers. -/
theorem numeric_of_exponent? {cs : List Char} {exponent : Option (Bool × List Nat)}
    (read : exponent? cs = some exponent) : ∀ c ∈ cs, isNumeric c = true := by
  unfold exponent? at read
  split at read
  next => nofun
  next e rest =>
    split at read
    next mark =>
      refine List.forall_mem_cons.mpr ⟨?_, ?_⟩
      · rcases Bool.or_eq_true_iff.mp mark with mark | mark <;>
          rw [of_decide_eq_true mark] <;> rfl
      -- behind the sign, if there is one, there are digits up to the end
      · split at read
        next negative digits signed =>
          split at read
          next last =>
            have own : ∀ c ∈ digits, isNumeric c = true :=
              numeric_of_spanDigits (by rw [last]; nofun)
            split at signed <;> obtain ⟨-, rfl⟩ := Prod.mk.inj signed
            · exact List.forall_mem_cons.mpr ⟨rfl, own⟩
            · exact List.forall_mem_cons.mpr ⟨rfl, own⟩
            · exact own
          next => exact absurd read nofun
    next => exact absurd read nofun

/-- A numeral is a row of characters of numbers that begins with a digit or a minus. -/
theorem exists_of_parse? {cs : List Char} {n : Numeral} (read : Numeral.parse? cs = some n) :
    ∃ c rest, cs = c :: rest ∧ lexBetween c = some ([], .number [c]) ∧
      ∀ d ∈ rest, isNumeric d = true := by
  unfold Numeral.parse? at read
  split at read
  next negative digits signed =>
    obtain ⟨_, guarded, read⟩ := Option.bind_eq_some_iff.mp read
    have tail : ∀ c ∈ (spanDigits digits).2, isNumeric c = true := by
      split at read
      next more dot =>
        obtain ⟨_, -, read⟩ := Option.bind_eq_some_iff.mp read
        obtain ⟨exponent, read, -⟩ := Option.bind_eq_some_iff.mp read
        rw [show (spanDigits digits).2 = _ from dot]
        exact List.forall_mem_cons.mpr ⟨rfl, numeric_of_spanDigits (numeric_of_exponent? read)⟩
      next =>
        obtain ⟨exponent, read, -⟩ := Option.bind_eq_some_iff.mp read
        exact numeric_of_exponent? read
    have all := numeric_of_spanDigits tail
    have some : (spanDigits digits).1 ≠ [] := by
      exact ((Option.guard_eq_some' _).mp guarded).1
    -- there is a first digit, and a minus goes before it or nothing does
    obtain ⟨c, rest, rfl, digit⟩ : ∃ c rest, digits = c :: rest ∧ c.isDigit = true := by
      cases digits with
      | nil => exact absurd rfl some
      | cons c rest =>
        refine ⟨c, rest, rfl, ?_⟩
        by_contra other
        refine some ?_
        rw [spanDigits, List.takeWhile_cons_of_neg other, List.map_nil]
    split at signed <;> obtain ⟨-, rfl⟩ := Prod.mk.inj signed
    · exact ⟨'-', c :: rest, rfl, rfl, all⟩
    · exact ⟨c, rest, rfl, lexBetween_digit digit, fun d mem => all d (List.mem_cons_of_mem _ mem)⟩

/-! ## Strings -/

theorem Quoted.readFrom {pieces : List Piece} (quoted : Quoted text pieces) (before : List Piece) :
    readFrom (.string before) parser (text ++ rest) =
      readFrom (.string (pieces.reverse ++ before)) parser rest := by
  have slash (before : List Piece) :
      lexStep (.string before) (.char '\\') = some ([], .escape before) := rfl
  -- every piece goes in front of those before it
  have grouped (piece : Piece) (pieces before : List Piece) :
      (piece :: pieces).reverse ++ before = pieces.reverse ++ piece :: before := by simp
  induction quoted generalizing before with
  | nil => rfl
  | @char c text pieces quote noSlash plain more ih =>
    have step : lexStep (.string before) (.char c) = some ([], .string (.char c :: before)) := by
      simp only [lexStep, if_neg quote, if_neg noSlash, if_neg plain]
    rw [List.cons_append, readFrom_silent step, ih, grouped]
  | @byte b text pieces more ih =>
    have step : lexStep (.string before) (.byte b) = some ([], .string (.byte b :: before)) := rfl
    rw [List.cons_append, readFrom_silent step, ih, grouped]
  | @escape letter c text pieces known more ih =>
    have other : letter ≠ 'u' := by
      rintro rfl
      exact absurd known nofun
    have step : lexStep (.escape before) (.char letter) =
        some ([], .string (.char c :: before)) := by
      simp only [lexStep, if_neg other, known, Option.map_some]
    rw [List.cons_append, List.cons_append, readFrom_silent (slash before), readFrom_silent step, ih,
      grouped]
  | @unit a b c d n₁ n₂ n₃ n₄ text pieces first second third fourth more ih =>
    have mark : lexStep (.escape before) (.char 'u') = some ([], .codeUnit before 0 0) := rfl
    have one : lexStep (.codeUnit before 0 0) (.char a) = some ([], .codeUnit before 1 n₁) := by
      simp [lexStep, first]
    have two : lexStep (.codeUnit before 1 n₁) (.char b) =
        some ([], .codeUnit before 2 (n₁ * 16 + n₂)) := by simp [lexStep, second]
    have three : lexStep (.codeUnit before 2 (n₁ * 16 + n₂)) (.char c) =
        some ([], .codeUnit before 3 ((n₁ * 16 + n₂) * 16 + n₃)) := by simp [lexStep, third]
    have four : lexStep (.codeUnit before 3 ((n₁ * 16 + n₂) * 16 + n₃)) (.char d) =
        some ([], .string (.unit (((n₁ * 16 + n₂) * 16 + n₃) * 16 + n₄) :: before)) := by
      simp [lexStep, fourth]
    simp only [List.cons_append]
    rw [readFrom_silent (slash before), readFrom_silent mark, readFrom_silent one,
      readFrom_silent two, readFrom_silent three, readFrom_silent four, ih, grouped]

/-- A string is one token. -/
theorem Quoted.spells {pieces : List Piece} (quoted : Quoted text pieces) :
    Spells (.char '"' :: text ++ [.char '"']) (.string pieces) := by
  intro parser rest _
  have opened : lexStep .between (.char '"') = some ([], .string []) := rfl
  have closed : lexStep (.string (pieces.reverse ++ [])) (.char '"') =
      some ([.string pieces], .between) := by simp [lexStep]
  rw [List.cons_append, List.cons_append, readFrom_silent opened, List.append_assoc,
    quoted.readFrom, List.cons_append, List.nil_append, readFrom_token closed]

/-! ## Values -/

theorem parseStep_awaits {expected : Expected} (awaits : expected.Awaits)
    (other : token ≠ .closeBracket) :
    parseStep ⟨expected, stack⟩ token = beginValue stack token := by
  rcases awaits with rfl | rfl
  · rfl
  · rcases stack with _ | ⟨_ | _ | _, stack⟩ <;> cases token <;> first | rfl | exact absurd rfl other

theorem parseStep_key {expected : Expected} (awaits : expected.AwaitsKey) (pieces : List Piece) :
    parseStep ⟨expected, stack⟩ (.string pieces) = some ⟨.colon pieces, stack⟩ := by
  rcases awaits with rfl | rfl
  · rfl
  · rcases stack with _ | ⟨_ | _ | _, stack⟩ <;> rfl

/-- A value of one token. -/
theorem Spells.denotes (spells : Spells text token) (other : token ≠ .closeBracket)
    (begins : ∀ stack, beginValue stack token = complete tree stack) : Denotes text tree := by
  intro expected stack rest awaits delimited
  rw [spells _ rest delimited, parseStep_awaits awaits other, begins]

theorem denotes_number {cs : List Char} {n : Numeral} (numeral : Numeral.parse? cs = some n) :
    Denotes (cs.map .char) (.number n) := by
  obtain ⟨c, rest, rfl, first, numeric⟩ := exists_of_parse? numeral
  refine (spells_number first numeric).denotes nofun fun stack => ?_
  rw [beginValue, numeral, Option.bind_some]

theorem Denotes.blank {before after : List Symbol} (blankBefore : Blanks before)
    (value : Denotes text tree) (blankAfter : Blanks after) :
    Denotes (before ++ text ++ after) tree := by
  intro expected stack rest awaits delimited
  rw [List.append_assoc, List.append_assoc, readFrom_blanks blankBefore,
    value _ _ _ awaits (delimited_blanks blankAfter delimited)]
  exact congrArg _ (funext fun next => readFrom_blanks blankAfter)

theorem Denotes.lastItem (item : Denotes text tree) : DenotesItems text [tree] := by
  intro expected done stack rest awaits
  have closing : lexStep .between (.char ']') = some ([.closeBracket], .between) := rfl
  rw [item _ _ _ awaits (delimited_cons ⟨rfl, rfl⟩ rest)]
  show readFrom .between ⟨.separator, .array (tree :: done) :: stack⟩ (.char ']' :: rest) = _
  rw [readFrom_token closing, ← List.reverse_cons]
  rfl

theorem Denotes.consItem {trees : List Tree} {others : List Symbol} (item : Denotes text tree)
    (more : DenotesItems others trees) :
    DenotesItems (text ++ .char ',' :: others) (tree :: trees) := by
  intro expected done stack rest awaits
  have comma : lexStep .between (.char ',') = some ([.comma], .between) := rfl
  rw [List.append_assoc, List.cons_append, item _ _ _ awaits (delimited_cons ⟨rfl, rfl⟩ _)]
  show readFrom .between ⟨.separator, .array (tree :: done) :: stack⟩ (.char ',' :: _) = _
  rw [readFrom_token comma]
  show readFrom .between ⟨.value, .array (tree :: done) :: stack⟩ _ = _
  -- the items read so far are held in reverse, and the one at hand goes in front of them
  rw [more _ _ _ _ (.inl rfl), List.reverse_cons, List.append_assoc, List.singleton_append]

theorem readFrom_openBracket {expected : Expected} (awaits : expected.Awaits) :
    readFrom .between ⟨expected, stack⟩ (.char '[' :: rest) =
      readFrom .between ⟨.valueOrEnd, .array [] :: stack⟩ rest := by
  have opening : lexStep .between (.char '[') = some ([.openBracket], .between) := rfl
  have other : Token.openBracket ≠ .closeBracket := nofun
  rw [readFrom_token opening, parseStep_awaits awaits other]
  rfl

theorem readFrom_openBrace {expected : Expected} (awaits : expected.Awaits) :
    readFrom .between ⟨expected, stack⟩ (.char '\x7b' :: rest) =
      readFrom .between ⟨.keyOrEnd, .object [] :: stack⟩ rest := by
  have opening : lexStep .between (.char '\x7b') = some ([.openBrace], .between) := rfl
  have other : Token.openBrace ≠ .closeBracket := nofun
  rw [readFrom_token opening, parseStep_awaits awaits other]
  rfl

theorem denotes_emptyArray {blanks : List Symbol} (blank : Blanks blanks) :
    Denotes (.char '[' :: blanks ++ [.char ']']) (.array []) := by
  intro expected stack rest awaits _
  have closing : lexStep .between (.char ']') = some ([.closeBracket], .between) := rfl
  rw [List.cons_append, List.cons_append, List.append_assoc, readFrom_openBracket awaits,
    readFrom_blanks blank, List.singleton_append, readFrom_token closing]
  rfl

theorem denotes_emptyObject {blanks : List Symbol} (blank : Blanks blanks) :
    Denotes (.char '\x7b' :: blanks ++ [.char '\x7d']) (.object []) := by
  intro expected stack rest awaits _
  have closing : lexStep .between (.char '\x7d') = some ([.closeBrace], .between) := rfl
  rw [List.cons_append, List.cons_append, List.append_assoc, readFrom_openBrace awaits,
    readFrom_blanks blank, List.singleton_append, readFrom_token closing]
  rfl

theorem DenotesItems.denotes {trees : List Tree} (items : DenotesItems text trees) :
    Denotes (.char '[' :: text ++ [.char ']']) (.array trees) := by
  intro expected stack rest awaits _
  rw [List.cons_append, List.cons_append, List.append_assoc, readFrom_openBracket awaits]
  exact items _ _ _ _ (.inr rfl)

theorem DenotesMembers.denotes {entries : List (List Piece × Tree)}
    (members : DenotesMembers text entries) :
    Denotes (.char '\x7b' :: text ++ [.char '\x7d']) (.object entries) := by
  intro expected stack rest awaits _
  rw [List.cons_append, List.cons_append, List.append_assoc, readFrom_openBrace awaits]
  exact members _ _ _ _ (.inr rfl)

theorem Denotes.member {before key between : List Symbol} {pieces : List Piece}
    (blankBefore : Blanks before) (quoted : Quoted key pieces) (blankBetween : Blanks between)
    (value : Denotes text tree) :
    DenotesMember (before ++ (.char '"' :: key ++ [.char '"']) ++ between ++ .char ':' :: text)
      (pieces, tree) := by
  intro expected done stack rest awaits delimited
  have colon : lexStep .between (.char ':') = some ([.colon], .between) := rfl
  have behind : Delimited (between ++ .char ':' :: (text ++ rest)) :=
    delimited_blanks blankBetween (delimited_cons ⟨rfl, rfl⟩ _)
  have grouped : before ++ (.char '"' :: key ++ [.char '"']) ++ between ++ .char ':' :: text ++ rest =
      before ++ ((.char '"' :: key ++ [.char '"']) ++ (between ++ .char ':' :: (text ++ rest))) := by
    simp
  rw [grouped, readFrom_blanks blankBefore, quoted.spells _ _ behind, parseStep_key awaits]
  show readFrom .between ⟨.colon pieces, .object done :: stack⟩ (between ++ .char ':' :: _) = _
  rw [readFrom_blanks blankBetween, readFrom_token colon]
  show readFrom .between ⟨.value, .member done pieces :: stack⟩ _ = _
  rw [value _ _ _ (.inl rfl) delimited]
  rfl

theorem DenotesMember.last {entry : List Piece × Tree} (member : DenotesMember text entry) :
    DenotesMembers text [entry] := by
  intro expected done stack rest awaits
  have closing : lexStep .between (.char '\x7d') = some ([.closeBrace], .between) := rfl
  rw [member _ _ _ _ awaits (delimited_cons ⟨rfl, rfl⟩ rest), readFrom_token closing,
    ← List.reverse_cons]
  rfl

theorem DenotesMember.cons {entry : List Piece × Tree} {entries : List (List Piece × Tree)}
    {others : List Symbol} (member : DenotesMember text entry)
    (more : DenotesMembers others entries) :
    DenotesMembers (text ++ .char ',' :: others) (entry :: entries) := by
  intro expected done stack rest awaits
  have comma : lexStep .between (.char ',') = some ([.comma], .between) := rfl
  rw [List.append_assoc, List.cons_append,
    member _ _ _ _ awaits (delimited_cons ⟨rfl, rfl⟩ _), readFrom_token comma]
  show readFrom .between ⟨.key, .object (entry :: done) :: stack⟩ _ = _
  rw [more _ _ _ _ (.inl rfl), List.reverse_cons, List.append_assoc, List.singleton_append]

/-- **Whatever the grammar writes is read as what it writes**, in any container and before any text
that can follow a value. -/
theorem Written.denotes (written : Written text tree) : Denotes text tree :=
  @Written.rec (fun text tree _ => Denotes text tree) (fun text trees _ => DenotesItems text trees)
    (fun text entry _ => DenotesMember text entry)
    (fun text entries _ => DenotesMembers text entries)
    ((spells_word rfl rfl rfl).denotes nofun fun _ => rfl)
    ((spells_word rfl rfl rfl).denotes nofun fun _ => rfl)
    ((spells_word rfl rfl rfl).denotes nofun fun _ => rfl)
    denotes_number
    (fun quoted => quoted.spells.denotes nofun fun _ => rfl)
    denotes_emptyArray
    (fun _ items => items.denotes)
    denotes_emptyObject
    (fun _ members => members.denotes)
    (fun blankBefore _ blankAfter value => value.blank blankBefore blankAfter)
    (fun _ item => item.lastItem)
    (fun _ _ item more => item.consItem more)
    (fun blankBefore quoted blankBetween _ value => value.member blankBefore quoted blankBetween)
    (fun _ member => member.last)
    (fun _ _ member more => member.cons more)
    text tree written

/-- **A written text is read as the tree it writes**, however deep the tree is. -/
theorem Written.parse? (written : Written text tree) : Tree.parse? text = some tree := by
  have whole := written.denotes .value [] [] (.inl rfl) delimited_nil
  rw [List.append_nil] at whole
  have done : readFrom .between ⟨.value, []⟩ text = some ⟨.nothing tree, []⟩ := whole
  unfold readFrom at done
  obtain ⟨tokens, lexed, parsed⟩ := Option.bind_eq_some_iff.mp done
  rw [Tree.parse?, tokens?, lexed, Option.bind_some, Tree.ofTokens?, parsed]

end EngineSync.Json
