import Mathlib.Data.List.Basic
import Mathlib.Tactic.SplitIfs

/-!
# UTF-8

A character is encoded in one to four bytes. A decoder reads byte by byte what the first byte
of a character announces, and puts a replacement character in the place of bytes that are not
the encoding of one: at the first byte that cannot follow, what was read so far is replaced,
and reading starts again with that byte. What was encoded is decoded as it was. Bytes are
natural numbers.
-/

namespace Text

namespace Utf8

/-- The bytes of a character. -/
def encodeChar (character : Char) : List Nat :=
  let value := character.toNat
  if value < 0x80 then [value]
  else if value < 0x800 then [0xC0 + value / 64, 0x80 + value % 64]
  else if value < 0x10000 then [0xE0 + value / 4096, 0x80 + value / 64 % 64, 0x80 + value % 64]
  else [0xF0 + value / 262144, 0x80 + value / 4096 % 64, 0x80 + value / 64 % 64,
    0x80 + value % 64]

/-- The bytes of a text. -/
def encode (text : List Char) : List Nat := text.flatMap encodeChar

/-- What has been read of a character: its leading bits, how many bytes are to come, and the
bounds of the next one. -/
structure Pending where
  bits : Nat
  owed : Nat
  low : Nat := 0x80
  high : Nat := 0xBF
deriving DecidableEq

/-- What the first byte of a character announces. -/
inductive First : Type
  | whole (character : Char)
  | lead (pending : Pending)
  | invalid
deriving DecidableEq

/-- Read the first byte of a character. -/
def first (byte : Nat) : First :=
  if byte < 0x80 then .whole (Char.ofNat byte)
  else if byte < 0xC2 then .invalid
  else if byte < 0xE0 then .lead { bits := byte - 0xC0, owed := 1 }
  else if byte = 0xE0 then .lead { bits := 0, owed := 2, low := 0xA0 }
  else if byte = 0xED then .lead { bits := 0xD, owed := 2, high := 0x9F }
  else if byte < 0xF0 then .lead { bits := byte - 0xE0, owed := 2 }
  else if byte = 0xF0 then .lead { bits := 0, owed := 3, low := 0x90 }
  else if byte < 0xF4 then .lead { bits := byte - 0xF0, owed := 3 }
  else if byte = 0xF4 then .lead { bits := 4, owed := 3, high := 0x8F }
  else .invalid

/-- The replacement character. -/
def replacement : Char := Char.ofNat 0xFFFD

/-- Start a character with a byte, and go on with what is pending then. -/
def start (byte : Nat) (goOn : Option Pending → List Char) : List Char :=
  match first byte with
  | .whole character => character :: goOn none
  | .lead pending => goOn (some pending)
  | .invalid => replacement :: goOn none

/-- Decode bytes behind what is pending. -/
def decodeFrom : Option Pending → List Nat → List Char
  | none, [] => []
  | some _, [] => [replacement]
  | none, byte :: rest => start byte (fun pending => decodeFrom pending rest)
  | some pending, byte :: rest =>
    if pending.low ≤ byte ∧ byte ≤ pending.high then
      if pending.owed = 1 then
        Char.ofNat (pending.bits * 64 + (byte - 0x80)) :: decodeFrom none rest
      else
        decodeFrom (some { bits := pending.bits * 64 + (byte - 0x80), owed := pending.owed - 1 })
          rest
    else replacement :: start byte (fun pending => decodeFrom pending rest)

/-- Decode bytes. -/
def decode (bytes : List Nat) : List Char := decodeFrom none bytes

/-- A truncated character is replaced as a whole, a stray byte by itself. -/
example : decode [0xE2, 0x82, 0x41, 0xFF, 0xC3, 0xA9] = [replacement, 'A', replacement, 'é'] := by
  decide

/-- The code of a character is none of a surrogate, and not too large. -/
theorem toNat_scalar (character : Char) :
    character.toNat < 0xD800 ∨ 0xDFFF < character.toNat ∧ character.toNat < 0x110000 :=
  character.valid

/-- The first of two bytes. -/
theorem first_two : ∀ bits < 32, 2 ≤ bits → first (0xC0 + bits) = .lead ⟨bits, 1, 0x80, 0xBF⟩ := by
  decide

/-- The first of three bytes. -/
theorem first_three : ∀ bits < 16, first (0xE0 + bits) =
    .lead ⟨bits, 2, if bits = 0 then 0xA0 else 0x80, if bits = 13 then 0x9F else 0xBF⟩ := by
  decide

/-- The first of four bytes. -/
theorem first_four : ∀ bits < 5, first (0xF0 + bits) =
    .lead ⟨bits, 3, if bits = 0 then 0x90 else 0x80, if bits = 4 then 0x8F else 0xBF⟩ := by
  decide

/-- The last byte of a character completes it. -/
theorem decodeFrom_last (bits low high digit : Nat) (rest : List Nat)
    (above : low ≤ 0x80 + digit) (below : 0x80 + digit ≤ high) :
    decodeFrom (some ⟨bits, 1, low, high⟩) ((0x80 + digit) :: rest) =
      Char.ofNat (bits * 64 + digit) :: decode rest := by
  rw [decodeFrom, if_pos ⟨above, below⟩, if_pos rfl, Nat.add_sub_cancel_left, decode]

/-- A byte that others follow adds its bits. -/
theorem decodeFrom_next (bits owed low high digit : Nat) (rest : List Nat) (more : owed ≠ 0)
    (above : low ≤ 0x80 + digit) (below : 0x80 + digit ≤ high) :
    decodeFrom (some ⟨bits, owed + 1, low, high⟩) ((0x80 + digit) :: rest) =
      decodeFrom (some ⟨bits * 64 + digit, owed, 0x80, 0xBF⟩) rest := by
  rw [decodeFrom, if_pos ⟨above, below⟩, if_neg (by simpa using more), Nat.add_sub_cancel_left,
    Nat.add_sub_cancel]

/-- The encoding of a character is decoded as the character. -/
theorem decode_encodeChar (character : Char) (tail : List Nat) :
    decode (encodeChar character ++ tail) = character :: decode tail := by
  have scalar := toNat_scalar character
  have same (code : Nat) (given : code = character.toNat) : Char.ofNat code = character := by
    rw [given, Char.ofNat_toNat]
  unfold encodeChar
  simp only
  split_ifs with one two three
  · simp only [List.cons_append, List.nil_append, decode, decodeFrom, start, first, one, if_true]
    rw [same _ rfl]
  · simp only [List.cons_append, List.nil_append]
    rw [decode, decodeFrom, start, first_two _ (by omega) (by omega)]
    simp only
    rw [decodeFrom_last _ _ _ _ _ (by omega) (by omega), same _ (by omega)]
  · simp only [List.cons_append, List.nil_append]
    rw [decode, decodeFrom, start, first_three _ (by omega)]
    simp only
    rw [decodeFrom_next _ 1 _ _ _ _ (by decide) (by split_ifs <;> omega) (by split_ifs <;> omega),
      decodeFrom_last _ _ _ _ _ (by omega) (by omega), same _ (by omega)]
  · simp only [List.cons_append, List.nil_append]
    rw [decode, decodeFrom, start, first_four _ (by omega)]
    simp only
    rw [decodeFrom_next _ 2 _ _ _ _ (by decide) (by split_ifs <;> omega) (by split_ifs <;> omega),
      decodeFrom_next _ 1 _ _ _ _ (by decide) (by omega) (by omega),
      decodeFrom_last _ _ _ _ _ (by omega) (by omega), same _ (by omega)]

/-- What was encoded is decoded as it was. -/
theorem decode_encode (text : List Char) : decode (encode text) = text := by
  induction text with
  | nil => rfl
  | cons character rest inductionHypothesis =>
    rw [encode, List.flatMap_cons, decode_encodeChar, ← encode, inductionHypothesis]

/-- Bytes are less than 256. -/
theorem encodeChar_byte (character : Char) : ∀ byte ∈ encodeChar character, byte < 256 := by
  have scalar := toNat_scalar character
  unfold encodeChar
  simp only
  split_ifs with one two three
  all_goals
    simp only [List.forall_mem_cons, List.not_mem_nil, false_imp_iff, implies_true, and_true]
    omega

/-- A character of ASCII is one byte, and no byte of another character is one of ASCII. -/
theorem encodeChar_ascii (character : Char) (ascii : character.toNat < 0x80) :
    encodeChar character = [character.toNat] := by
  simp [encodeChar, ascii]

/-- No byte of a character beyond ASCII is one of ASCII. -/
theorem encodeChar_beyond (character : Char) (beyond : ¬ character.toNat < 0x80) :
    ∀ byte ∈ encodeChar character, 0x80 ≤ byte := by
  unfold encodeChar
  simp only [beyond, if_false]
  split_ifs with two three
  all_goals
    simp only [List.forall_mem_cons, List.not_mem_nil, false_imp_iff, implies_true, and_true]
    omega

end Utf8

end Text
