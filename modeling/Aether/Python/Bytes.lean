import Mathlib.Data.List.Basic
import Mathlib.Tactic.Ring

/-!
# Byte strings and the byte-level primitives of the codec

A Python `bytes` value is a list of `UInt8`. The SDK's codec reaches bytes through three
primitives of the Python runtime, modelled here from their CPython behaviour:

- `bytes.hex()`, two lowercase digits a byte;
- `bytes.fromhex`, which refuses a string with a non-ASCII character, skips ASCII whitespace
  before each pair and reads two digits of either case a byte;
- `struct.pack` with the little-endian unsigned formats `"<Q"` and `"<I"`, which raise
  `struct.error` outside `0 ≤ n < 2 ^ (8 * width)`.

`fromhex_hex` is the round trip a hex envelope relies on.
-/

namespace Aether

/-- The Python exceptions the modelled code raises or passes on. -/
inductive PyException where
  | valueError (message : String)
  | structError
  | timeoutError
  /-- A bare `Exception`, as `_call` raises on an RPC error or an HTTP error. -/
  | exception (message : String)
  deriving DecidableEq, Repr

/-- A computation that returned hands its value on. -/
@[simp] theorem ok_bind {ε α β : Type} (value : α) (next : α → Except ε β) :
    (Except.ok value >>= next) = next value := rfl

/-- A computation that raised passes the exception on. -/
@[simp] theorem error_bind {ε α β : Type} (error : ε) (next : α → Except ε β) :
    (Except.error error >>= next) = Except.error error := rfl

/-- A Python `bytes` value. -/
abbrev Bytes := List UInt8

/-- Bytes are equal when their numeric values are. -/
theorem byte_eq_of_toNat_eq {left right : UInt8} (same : left.toNat = right.toNat) :
    left = right :=
  UInt8.eq_of_val_eq (Fin.ext same)

/-- A byte's value is below 256. -/
theorem byte_toNat_lt (byte : UInt8) : byte.toNat < 256 :=
  byte.toNat_lt_size

/-- The value of a byte built from a number. -/
@[simp] theorem byte_toNat_ofNat (n : Nat) : (UInt8.ofNat n).toNat = n % 256 := rfl

/-- Reading a byte back from its value. -/
@[simp] theorem byte_ofNat_toNat (byte : UInt8) : UInt8.ofNat byte.toNat = byte :=
  byte_eq_of_toNat_eq (Nat.mod_eq_of_lt (byte_toNat_lt byte))

/-! ## `bytes.hex()` -/

/-- The lowercase digit `bytes.hex()` writes for a nibble. -/
def hexDigit (nibble : Nat) : Char :=
  if nibble < 10 then Char.ofNat (48 + nibble) else Char.ofNat (87 + nibble)

/-- The two digits of one byte, high half first. -/
def hexPair (byte : UInt8) : List Char :=
  [hexDigit (byte.toNat / 16), hexDigit (byte.toNat % 16)]

/-- `bytes.hex()`. -/
def hex (data : Bytes) : String :=
  ⟨data.flatMap hexPair⟩

@[simp] theorem hex_data (data : Bytes) : (hex data).data = data.flatMap hexPair := rfl

/-- `bytes.hex()` writes two characters a byte. -/
theorem hex_length (data : Bytes) : (hex data).length = 2 * data.length := by
  induction data with
  | nil => rfl
  | cons byte rest inductionHypothesis =>
      simp only [String.length, hex_data, List.flatMap_cons, List.length_append] at *
      simp only [hexPair, List.length_cons, List.length_nil, inductionHypothesis,
        List.length_cons]
      ring

private theorem hexDigit_lowercase_fin : ∀ nibble : Fin 16,
    hexDigit nibble ∈ "0123456789abcdef".data := by
  decide

/-- Every nibble's digit is a lowercase hex digit. -/
theorem hexDigit_lowercase {nibble : Nat} (small : nibble < 16) :
    hexDigit nibble ∈ "0123456789abcdef".data :=
  hexDigit_lowercase_fin ⟨nibble, small⟩

/-- `bytes.hex()` writes lowercase hex digits only. -/
theorem hex_lowercase (data : Bytes) : ∀ c ∈ (hex data).data, c ∈ "0123456789abcdef".data := by
  simp only [hex_data, List.mem_flatMap, hexPair]
  rintro c ⟨byte, -, member⟩
  simp only [List.mem_cons, List.mem_singleton, List.not_mem_nil, or_false] at member
  rcases member with rfl | rfl
  · exact hexDigit_lowercase (by have := byte_toNat_lt byte; omega)
  · exact hexDigit_lowercase (Nat.mod_lt _ (by decide))

/-! ## `bytes.fromhex` -/

/-- The value of one hex digit of either case, or none. -/
def hexValue? (c : Char) : Option Nat :=
  if '0' ≤ c ∧ c ≤ '9' then some (c.toNat - 48)
  else if 'a' ≤ c ∧ c ≤ 'f' then some (c.toNat - 87)
  else if 'A' ≤ c ∧ c ≤ 'F' then some (c.toNat - 55)
  else none

/-- `Py_ISSPACE` on an ASCII character: what `bytes.fromhex` skips before a pair. -/
def isAsciiSpace (c : Char) : Bool :=
  c = ' ' || c = '\t' || c = '\n' || c = '\r' || c = '\x0b' || c = '\x0c'

/-- The `ValueError` `bytes.fromhex` raises at a position. -/
def nonHexadecimalAt (position : Nat) : PyException :=
  .valueError s!"non-hexadecimal number found in fromhex() arg at position {position}"

/-- The pair loop of `bytes.fromhex` over an ASCII string, from `position` on. -/
def fromhexPairs : List Char → Nat → Except PyException Bytes
  | [], _ => .ok []
  | c :: rest, position =>
      if isAsciiSpace c then fromhexPairs rest (position + 1)
      else
        match hexValue? c with
        | none => .error (nonHexadecimalAt position)
        | some top =>
            match rest with
            | [] => .error (nonHexadecimalAt (position + 1))
            | d :: rest' =>
                match hexValue? d with
                | none => .error (nonHexadecimalAt (position + 1))
                | some bottom =>
                    (UInt8.ofNat (16 * top + bottom) :: ·) <$> fromhexPairs rest' (position + 2)

-- The equation lemmas of `fromhexPairs` are generated here; with the character tests folded,
-- their definitional attempts fail at once instead of unfolding the tests on a variable.
attribute [local irreducible] isAsciiSpace hexValue? in
/-- Two digits not preceded by a space are one byte. -/
theorem fromhexPairs_pair {high low : Char} {top bottom : Nat} (rest : List Char) (position : Nat)
    (notSpace : isAsciiSpace high = false) (highValue : hexValue? high = some top)
    (lowValue : hexValue? low = some bottom) :
    fromhexPairs (high :: low :: rest) position =
      (UInt8.ofNat (16 * top + bottom) :: ·) <$> fromhexPairs rest (position + 2) := by
  rw [fromhexPairs]
  simp only [notSpace, highValue, lowValue, Bool.false_eq_true, if_false]

/-- `bytes.fromhex`: a string holding a non-ASCII character is refused at the first one. -/
def fromhex (text : String) : Except PyException Bytes :=
  match text.data.findIdx? (fun c => 128 ≤ c.toNat) with
  | some position => .error (nonHexadecimalAt position)
  | none => fromhexPairs text.data 0

private theorem hexDigit_facts_fin : ∀ nibble : Fin 16,
    hexValue? (hexDigit nibble) = some nibble.val ∧ (hexDigit nibble).toNat < 128 ∧
      isAsciiSpace (hexDigit nibble) = false := by
  decide

/-- Every nibble's digit reads back as the nibble, is ASCII and is no space. -/
theorem hexDigit_facts {nibble : Nat} (small : nibble < 16) :
    hexValue? (hexDigit nibble) = some nibble ∧ (hexDigit nibble).toNat < 128 ∧
      isAsciiSpace (hexDigit nibble) = false :=
  hexDigit_facts_fin ⟨nibble, small⟩

/-- A byte is its high half times sixteen plus its low half. -/
theorem byte_halves (byte : UInt8) :
    UInt8.ofNat (16 * (byte.toNat / 16) + byte.toNat % 16) = byte := by
  rw [Nat.div_add_mod]
  exact byte_ofNat_toNat byte

/-- The pair loop reads the digits of any byte string back, from any position. -/
theorem fromhexPairs_hex (data : Bytes) (position : Nat) :
    fromhexPairs (data.flatMap hexPair) position = .ok data := by
  induction data generalizing position with
  | nil => rfl
  | cons byte rest inductionHypothesis =>
      have high := hexDigit_facts (by have := byte_toNat_lt byte; omega : byte.toNat / 16 < 16)
      have low := hexDigit_facts (Nat.mod_lt byte.toNat (by decide : 0 < 16))
      rw [List.flatMap_cons, hexPair, List.cons_append, List.cons_append, List.nil_append,
        fromhexPairs_pair _ _ high.2.2 high.1 low.1, inductionHypothesis, byte_halves]
      rfl

/-- `bytes.fromhex` reads what `bytes.hex()` wrote. -/
theorem fromhex_hex (data : Bytes) : fromhex (hex data) = .ok data := by
  have ascii : (hex data).data.findIdx? (fun c => 128 ≤ c.toNat) = none := by
    simp only [List.findIdx?_eq_none_iff, hex_data, List.mem_flatMap, hexPair]
    rintro c ⟨byte, -, member⟩
    have high := (hexDigit_facts (by have := byte_toNat_lt byte; omega :
      byte.toNat / 16 < 16)).2.1
    have low := (hexDigit_facts (Nat.mod_lt byte.toNat (by decide : 0 < 16))).2.1
    simp only [List.mem_cons, List.mem_singleton, List.not_mem_nil, or_false] at member
    rcases member with rfl | rfl <;> simpa using by omega
  rw [fromhex, ascii]
  exact fromhexPairs_hex data 0

/-- The `width` little-endian bytes of `n`, low byte first. -/
def littleEndian : Nat → Nat → Bytes
  | 0, _ => []
  | width + 1, n => UInt8.ofNat (n % 256) :: littleEndian width (n / 256)

@[simp] theorem littleEndian_length (width n : Nat) : (littleEndian width n).length = width := by
  induction width generalizing n with
  | zero => rfl
  | succ width inductionHypothesis => simp [littleEndian, inductionHypothesis]

/-- `struct.pack("<Q")` and `struct.pack("<I")`: an unsigned integer of `width` bytes. -/
def packUnsigned (width : Nat) (value : Int) : Except PyException Bytes :=
  if 0 ≤ value ∧ value < 256 ^ width then .ok (littleEndian width value.toNat)
  else .error .structError

/-- `struct.pack("<Q", value)`. -/
def packU64 (value : Int) : Except PyException Bytes := packUnsigned 8 value

/-- `struct.pack("<I", value)`. -/
def packU32 (value : Int) : Except PyException Bytes := packUnsigned 4 value

/-- What packing succeeds on and what it writes. -/
theorem packUnsigned_eq_ok {width : Nat} {value : Int} {bytes : Bytes} :
    packUnsigned width value = .ok bytes ↔
      (0 ≤ value ∧ value < 256 ^ width) ∧ bytes = littleEndian width value.toNat := by
  unfold packUnsigned
  split <;> simp_all [eq_comm]

/-- A packed integer has exactly its format's width. -/
theorem packUnsigned_length {width : Nat} {value : Int} {bytes : Bytes}
    (packed : packUnsigned width value = .ok bytes) : bytes.length = width := by
  rw [(packUnsigned_eq_ok.mp packed).2, littleEndian_length]

/-- Little-endian bytes determine a value below `256 ^ width`. -/
theorem littleEndian_injective {width left right : Nat} (leftSmall : left < 256 ^ width)
    (rightSmall : right < 256 ^ width)
    (same : littleEndian width left = littleEndian width right) : left = right := by
  induction width generalizing left right with
  | zero => simp at leftSmall rightSmall; omega
  | succ width inductionHypothesis =>
      simp only [littleEndian, List.cons.injEq] at same
      have low : left % 256 = right % 256 := by
        simpa using congrArg UInt8.toNat same.1
      have high : left / 256 = right / 256 := by
        rw [pow_succ] at leftSmall rightSmall
        exact inductionHypothesis (by omega) (by omega) same.2
      omega

/-- A packed integer determines the integer. -/
theorem packUnsigned_injective {width : Nat} {left right : Int} {bytes : Bytes}
    (packedLeft : packUnsigned width left = .ok bytes)
    (packedRight : packUnsigned width right = .ok bytes) : left = right := by
  obtain ⟨⟨leftNonneg, leftSmall⟩, rfl⟩ := packUnsigned_eq_ok.mp packedLeft
  obtain ⟨⟨rightNonneg, rightSmall⟩, same⟩ := packUnsigned_eq_ok.mp packedRight
  have equal := littleEndian_injective
    ((Int.toNat_lt leftNonneg).mpr (by exact_mod_cast leftSmall))
    ((Int.toNat_lt rightNonneg).mpr (by exact_mod_cast rightSmall)) same
  omega

end Aether
