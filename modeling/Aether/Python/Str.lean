import Aether.Python.Bytes
import Mathlib.Data.List.DropRight

/-!
# Python `str` operations the SDK relies on

A Python `str` is a sequence of code points, and may hold lone surrogates (U+D800 to U+DFFF);
a Lean `String` holds Unicode scalar values only. The model is restricted to strings without
lone surrogates: on a `str` with one, `str.encode()` raises `UnicodeEncodeError`, an error path
the model does not have. On every other string `encode` is `str.encode()` (UTF-8, RFC 3629),
written range by range with the arithmetic of the standard rather than with bit masks. `decodeChar?` reads one character back from the front
of a byte string; it exists only to show that `encode` loses nothing (`encode_injective`).

The string predicates compare characters, as CPython does: `startswith` is a prefix test on
the characters, `isspace` is `str.isspace` on one character, and `strip` and `rstrip` drop
characters from the ends. `rstrip` is Mathlib's `List.rdropWhile` on the characters, so it is
idempotent (`rstrip_rstrip`), and it leaves exactly the text before its trailing run of the
given characters (`rstrip_append`).
-/

namespace Aether

/-- `str.encode()` of one character. -/
def encodeChar (c : Char) : Bytes :=
  if c.toNat < 0x80 then [UInt8.ofNat c.toNat]
  else if c.toNat < 0x800 then
    [UInt8.ofNat (0xC0 + c.toNat / 64), UInt8.ofNat (0x80 + c.toNat % 64)]
  else if c.toNat < 0x10000 then
    [UInt8.ofNat (0xE0 + c.toNat / 4096), UInt8.ofNat (0x80 + c.toNat / 64 % 64),
      UInt8.ofNat (0x80 + c.toNat % 64)]
  else
    [UInt8.ofNat (0xF0 + c.toNat / 262144), UInt8.ofNat (0x80 + c.toNat / 4096 % 64),
      UInt8.ofNat (0x80 + c.toNat / 64 % 64), UInt8.ofNat (0x80 + c.toNat % 64)]

/-- `str.encode()`: the UTF-8 bytes of a string. -/
def encode (text : String) : Bytes :=
  text.data.flatMap encodeChar

/-- One character read from the front of UTF-8 bytes, and the bytes after it. -/
def decodeChar? : Bytes → Option (Char × Bytes)
  | [] => none
  | lead :: rest =>
      if lead.toNat < 0x80 then some (Char.ofNat lead.toNat, rest)
      else if lead.toNat < 0xE0 then
        match rest with
        | first :: rest => some (Char.ofNat ((lead.toNat - 0xC0) * 64 + (first.toNat - 0x80)), rest)
        | [] => none
      else if lead.toNat < 0xF0 then
        match rest with
        | first :: second :: rest =>
            some (Char.ofNat ((lead.toNat - 0xE0) * 4096 + (first.toNat - 0x80) * 64 +
              (second.toNat - 0x80)), rest)
        | _ => none
      else
        match rest with
        | first :: second :: third :: rest =>
            some (Char.ofNat ((lead.toNat - 0xF0) * 262144 + (first.toNat - 0x80) * 4096 +
              (second.toNat - 0x80) * 64 + (third.toNat - 0x80)), rest)
        | _ => none

/-- Every character is a Unicode scalar value: below `0x110000`. -/
theorem char_toNat_lt (c : Char) : c.toNat < 0x110000 := by
  have valid := c.valid
  simp only [UInt32.isValidChar, Nat.isValidChar] at valid
  change c.val.toNat < 0x110000
  omega

/-- No character is a UTF-16 surrogate. -/
theorem char_toNat_not_surrogate (c : Char) : c.toNat < 0xD800 ∨ 0xDFFF < c.toNat := by
  have valid := c.valid
  simp only [UInt32.isValidChar, Nat.isValidChar] at valid
  change c.val.toNat < 0xD800 ∨ 0xDFFF < c.val.toNat
  omega

/-- A character is rebuilt from any number equal to its code point. -/
theorem char_ofNat_eq {c : Char} {n : Nat} (same : n = c.toNat) : Char.ofNat n = c := by
  rw [same, Char.ofNat_toNat]

/-- A continuation byte `0x80 + n % 64` carries `n % 64`. -/
theorem continuation_payload (n : Nat) : (0x80 + n % 64) % 256 - 0x80 = n % 64 := by
  omega

/-- A lead byte that fits carries its payload. -/
theorem lead_payload (lead payload : Nat) (fits : lead + payload < 256) :
    (lead + payload) % 256 - lead = payload := by
  omega

/-- A number is its six-bit groups above `4096` and below. -/
theorem threeGroups (n : Nat) : n / 4096 * 4096 + n / 64 % 64 * 64 + n % 64 = n := by
  omega

/-- A number is its six-bit groups above `262144` and below. -/
theorem fourGroups (n : Nat) :
    n / 262144 * 262144 + n / 4096 % 64 * 4096 + n / 64 % 64 * 64 + n % 64 = n := by
  omega

/-- Decoding the UTF-8 bytes of a character gives the character back, whatever follows. -/
theorem decodeChar?_encodeChar (c : Char) (rest : Bytes) :
    decodeChar? (encodeChar c ++ rest) = some (c, rest) := by
  have bounded := char_toNat_lt c
  unfold encodeChar
  split_ifs with one two three
  · simp [decodeChar?, Nat.mod_eq_of_lt (by omega : c.toNat < 256), one, Char.ofNat_toNat]
  · simp only [List.cons_append, List.nil_append, decodeChar?, byte_toNat_ofNat,
      continuation_payload]
    rw [if_neg (by omega), if_pos (by omega), char_ofNat_eq]
    rw [lead_payload _ _ (by omega), Nat.div_add_mod']
  · simp only [List.cons_append, List.nil_append, decodeChar?, byte_toNat_ofNat,
      continuation_payload]
    rw [if_neg (by omega), if_neg (by omega), if_pos (by omega), char_ofNat_eq]
    rw [lead_payload _ _ (by omega), threeGroups]
  · simp only [List.cons_append, List.nil_append, decodeChar?, byte_toNat_ofNat,
      continuation_payload]
    rw [if_neg (by omega), if_neg (by omega), if_neg (by omega), char_ofNat_eq]
    rw [lead_payload _ _ (by omega), fourGroups]

/-- The UTF-8 bytes of a character are never empty. -/
theorem encodeChar_ne_nil (c : Char) : encodeChar c ≠ [] := by
  unfold encodeChar
  split_ifs <;> simp

/-- The UTF-8 bytes of one character are a prefix of no other character's bytes. -/
theorem encodeChar_append_inj {left right : Char} {leftRest rightRest : Bytes}
    (same : encodeChar left ++ leftRest = encodeChar right ++ rightRest) :
    left = right ∧ leftRest = rightRest := by
  have decoded := congrArg decodeChar? same
  simp only [decodeChar?_encodeChar, Option.some.injEq, Prod.mk.injEq] at decoded
  exact decoded

/-- `str.encode()` loses nothing: different strings have different UTF-8 bytes. -/
theorem encode_injective : Function.Injective encode := by
  rintro ⟨left⟩ ⟨right⟩ same
  simp only [encode] at same
  congr
  induction left generalizing right with
  | nil =>
      cases right with
      | nil => rfl
      | cons c rest => simp [encodeChar_ne_nil] at same
  | cons c rest inductionHypothesis =>
      cases right with
      | nil => simp [encodeChar_ne_nil] at same
      | cons d others =>
          simp only [List.flatMap_cons] at same
          obtain ⟨rfl, tails⟩ := encodeChar_append_inj same
          rw [inductionHypothesis others tails]

/-! ## Predicates and trimming -/

/-- `text.startswith(prefix)`. -/
def startswith (text pfx : String) : Bool :=
  pfx.data.isPrefixOf text.data

/-- `str.isspace` on one character: the whitespace `str.strip()` removes. -/
def isspace (c : Char) : Bool :=
  (0x09 ≤ c.toNat && c.toNat ≤ 0x0D) || (0x1C ≤ c.toNat && c.toNat ≤ 0x20) ||
    c.toNat == 0x85 || c.toNat == 0xA0 || c.toNat == 0x1680 ||
    (0x2000 ≤ c.toNat && c.toNat ≤ 0x200A) || c.toNat == 0x2028 || c.toNat == 0x2029 ||
    c.toNat == 0x202F || c.toNat == 0x205F || c.toNat == 0x3000

/-- `text.strip()`: whitespace removed from both ends. -/
def strip (text : String) : String :=
  ⟨((text.data.dropWhile isspace).reverse.dropWhile isspace).reverse⟩

/-- `text.rstrip(chars)`: every trailing character found in `chars` removed. -/
def rstrip (text : String) (chars : List Char) : String :=
  ⟨(text.data.reverse.dropWhile (· ∈ chars)).reverse⟩

/-- Stripping twice strips nothing more. -/
theorem rstrip_rstrip (text : String) (chars : List Char) :
    rstrip (rstrip text chars) chars = rstrip text chars :=
  congrArg String.mk (List.rdropWhile_idempotent _ text.data)

/-- A text that is a base not ending in one of `chars`, then characters of `chars` only, is
stripped to its base. -/
theorem rstrip_append {base trailing chars : List Char} (stripped : ∀ c ∈ trailing, c ∈ chars)
    (kept : ∀ c, base.getLast? = some c → c ∉ chars) :
    rstrip ⟨base ++ trailing⟩ chars = ⟨base⟩ := by
  refine congrArg String.mk ?_
  show (List.dropWhile _ (base ++ trailing).reverse).reverse = base
  rw [List.reverse_append, List.dropWhile_append_of_pos (by simpa using stripped)]
  refine List.rdropWhile_eq_self_iff.mpr fun nonempty => ?_
  simpa using kept _ (List.getLast?_eq_getLast base nonempty)

/-- Stripping leaves nothing exactly when every character is one of `chars`. -/
theorem rstrip_eq_empty_iff (text : String) (chars : List Char) :
    rstrip text chars = "" ↔ ∀ c ∈ text.data, c ∈ chars := by
  rw [String.ext_iff]
  exact List.rdropWhile_eq_nil_iff.trans (by simp)

example : rstrip "https://rpc.aether.local//" ['/'] = "https://rpc.aether.local" := by decide

end Aether
