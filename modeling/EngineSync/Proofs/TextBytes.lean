import EngineSync.Text.Order
import EngineSync.Text.Symbols

/-!
# The bytes of a text

What a text is written as is read as that text again: every character is written in one to four
bytes, each reading of a leading byte is tried in the order of these lengths, and the number that
the bytes carry is the character's own.
-/
namespace EngineSync.Text

/-- The number of a byte that is written as one. -/
theorem toNat_byte {n : Nat} (small : n < 256) : (UInt8.ofNat n).toNat = n := by
  rw [UInt8.toNat_ofNat']
  omega

theorem byte_lt {n : Nat} (small : n < 256) (b : UInt8) : UInt8.ofNat n < b ↔ n < b.toNat := by
  rw [UInt8.lt_iff_toNat_lt, toNat_byte small]

theorem isContinuation_byte (n : Nat) : isContinuation (UInt8.ofNat (n % 64 + 128)) = true := by
  have small : n % 64 + 128 < 256 := by omega
  simp only [isContinuation, UInt8.le_iff_toNat_le, UInt8.lt_iff_toNat_lt, toNat_byte small,
    Bool.and_eq_true, decide_eq_true_eq]
  constructor
  · show 128 ≤ _
    omega
  · show _ < 192
    omega

theorem payload_byte (n : Nat) : payload (UInt8.ofNat (n % 64 + 128)) = n % 64 := by
  have small : n % 64 + 128 < 256 := by omega
  rw [payload, toNat_byte small]
  omega

variable {n : Nat}

theorem leadingChar_one (low : n < 0x80) (rest : List UInt8) :
    leadingChar (UInt8.ofNat n :: rest) = some (Char.ofNat n, 0) := by
  have small : n < 256 := by omega
  simp only [leadingChar, byte_lt small, toNat_byte small, UInt8.reduceToNat]
  rw [if_pos low]

theorem leadingChar_two (low : 0x80 ≤ n) (high : n < 0x800) (rest : List UInt8) :
    leadingChar (UInt8.ofNat (n / 64 % 32 + 192) :: UInt8.ofNat (n % 64 + 128) :: rest) =
      some (Char.ofNat n, 1) := by
  have small : n / 64 % 32 + 192 < 256 := by omega
  have number : (n / 64 % 32 + 192 - 192) * 64 + n % 64 = n := by omega
  simp only [leadingChar, byte_lt small, toNat_byte small, UInt8.reduceToNat, isContinuation_byte,
    payload_byte, if_true]
  rw [if_neg (by omega), if_neg (by omega), if_pos (by omega), number]

theorem leadingChar_three (low : 0x800 ≤ n) (high : n < 0x10000)
    (valid : n < 0xD800 ∨ 0xDFFF < n) (rest : List UInt8) :
    leadingChar (UInt8.ofNat (n / 4096 % 16 + 224) :: UInt8.ofNat (n / 64 % 64 + 128) ::
      UInt8.ofNat (n % 64 + 128) :: rest) = some (Char.ofNat n, 2) := by
  have small : n / 4096 % 16 + 224 < 256 := by omega
  have number : (n / 4096 % 16 + 224 - 224) * 4096 + n / 64 % 64 * 64 + n % 64 = n := by omega
  simp only [leadingChar, byte_lt small, toNat_byte small, UInt8.reduceToNat, isContinuation_byte,
    payload_byte, number]
  rw [if_neg (by omega), if_neg (by omega), if_neg (by omega), if_pos (by omega), if_pos]
  simp
  omega

theorem leadingChar_four (low : 0x10000 ≤ n) (high : n < 0x110000) (rest : List UInt8) :
    leadingChar (UInt8.ofNat (n / 262144 % 8 + 240) :: UInt8.ofNat (n / 4096 % 64 + 128) ::
      UInt8.ofNat (n / 64 % 64 + 128) :: UInt8.ofNat (n % 64 + 128) :: rest) =
      some (Char.ofNat n, 3) := by
  have small : n / 262144 % 8 + 240 < 256 := by omega
  have number : (n / 262144 % 8 + 240 - 240) * 262144 + n / 4096 % 64 * 4096 +
      n / 64 % 64 * 64 + n % 64 = n := by omega
  simp only [leadingChar, byte_lt small, toNat_byte small, UInt8.reduceToNat, isContinuation_byte,
    payload_byte, number]
  rw [if_neg (by omega), if_neg (by omega), if_neg (by omega), if_neg (by omega),
    if_pos (by omega), if_pos]
  simp
  omega

/-- The bytes of a character are read as that character, whatever follows. -/
theorem symbols_encode (c : Char) (rest : List UInt8) :
    symbols (String.utf8EncodeChar c ++ rest) = .char c :: symbols rest := by
  have valid : c.toNat < 0xD800 ∨ 0xDFFF < c.toNat ∧ c.toNat < 0x110000 := c.valid
  have same : Char.ofNat c.toNat = c := Char.ofNat_toNat c
  unfold String.utf8EncodeChar
  rw [show c.val.toNat = c.toNat from rfl]
  dsimp only
  split
  · have leads := leadingChar_one (show c.toNat < 0x80 by omega) rest
    rw [List.cons_append, List.nil_append, symbols]
    rw [leads]
    simp [same]
  · split
    · have leads := leadingChar_two (show 0x80 ≤ c.toNat by omega) (by omega) rest
      rw [List.cons_append, symbols, List.cons_append, List.nil_append, leads]
      simp [same]
    · split
      · have leads := leadingChar_three (show 0x800 ≤ c.toNat by omega) (by omega) (by omega) rest
        rw [List.cons_append, symbols, List.cons_append, List.cons_append, List.nil_append, leads]
        simp [same]
      · have leads := leadingChar_four (show 0x10000 ≤ c.toNat by omega) (by omega) rest
        rw [List.cons_append, symbols, List.cons_append, List.cons_append, List.cons_append,
          List.nil_append, leads]
        simp [same]

theorem symbols_flatMap (cs : List Char) :
    symbols (cs.flatMap String.utf8EncodeChar) = cs.map .char := by
  induction cs with
  | nil => exact symbols.eq_1
  | cons c cs ih => rw [List.flatMap_cons, symbols_encode, ih, List.map_cons]

/-- **The bytes of a text are read as that text.** -/
theorem symbols_toBytes (s : String) : symbols (toBytes s) = symbolsOf s := by
  have bytes : toBytes s = s.toList.flatMap String.utf8EncodeChar := by
    rw [toBytes, ← String.utf8Encode_toList, List.utf8Encode, List.toList_data_toByteArray]
  rw [bytes, symbols_flatMap, symbolsOf]

/-- **A text is what its own bytes spell.** -/
theorem ofBytes?_toBytes (s : String) : ofBytes? (toBytes s) = some s := by
  rw [ofBytes?, symbols_toBytes, symbolsOf, spell?_map_char, Option.map_some, String.ofList_toList]

end EngineSync.Text
