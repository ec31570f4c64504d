import Aether.Python.JsonRead

/-!
# `aether_sdk` transactions

The `aether_sdk` package (`src/sdks/python`) models a transaction as a dataclass whose
`__post_init__` checks its fields and fills in `writes`, and whose `hash` digests
`json.dumps(payload, sort_keys=True)`. Only the two helpers of `types.py` check fields:
`ensure_hex` tests the `0x` prefix and nothing else, and `ensure_positive_int` refuses zero.

`hashPreimage_determines_fields` is the commitment property of `hash`: the preimage
determines every field but the signature, for every pair of transactions, constructed or not.
SHA-256 itself is a parameter of `Transaction.hash`; collisions of the digest are out of scope.
-/

namespace Aether.Sdk

open Aether

/-- `ensure_hex(value, field=...)`. -/
def ensureHex (value field : String) : Except PyException Unit :=
  if startswith value "0x" then .ok () else .error (.valueError s!"{field} must be a hex string")

/-- `ensure_positive_int(value, field=...)`. -/
def ensurePositiveInt (value : Int) (field : String) : Except PyException Unit :=
  if value ≤ 0 then .error (.valueError s!"{field} must be positive") else .ok ()

/-- The fields of the `Transaction` dataclass. -/
structure Transaction where
  nonce : Int
  sender : String
  senderPublicKey : String
  recipient : String
  amount : Int
  fee : Int
  gasLimit : Int
  memo : Option String
  signature : String
  reads : List String := []
  writes : List String := []
  deriving DecidableEq, Repr

namespace Transaction

/-- `Transaction.__post_init__`: the checks in source order, then an empty `writes` gets the
recipient. -/
def postInit (tx : Transaction) : Except PyException Transaction := do
  ensureHex tx.sender "sender"
  ensureHex tx.senderPublicKey "sender_public_key"
  ensureHex tx.recipient "recipient"
  ensureHex tx.signature "signature"
  ensurePositiveInt tx.amount "amount"
  ensurePositiveInt tx.fee "fee"
  ensurePositiveInt tx.gasLimit "gas_limit"
  ensurePositiveInt (tx.nonce + 1) "nonce + 1"
  if tx.signature.length < 66 then
    throw (.valueError "signature must be at least 64 bytes (hex)")
  pure (if tx.writes.isEmpty then { tx with writes := tx.writes ++ [tx.recipient] } else tx)

/-- The dict `Transaction.hash` dumps, in source order. -/
def payload (tx : Transaction) : List (String × JsonValue) :=
  [("nonce", .scalar (.int tx.nonce)),
    ("sender", .scalar (.str tx.sender)),
    ("sender_public_key", .scalar (.str tx.senderPublicKey)),
    ("recipient", .scalar (.str tx.recipient)),
    ("amount", .scalar (.str ⟨intRepr tx.amount⟩)),
    ("fee", .scalar (.str ⟨intRepr tx.fee⟩)),
    ("gas_limit", .scalar (.int tx.gasLimit)),
    ("memo", .scalar (match tx.memo with
      | some memo => .str memo
      | none => .none)),
    ("reads", .list (tx.reads.map .str)),
    ("writes", .list (tx.writes.map .str))]

/-- `json.dumps(payload, sort_keys=True)`: the text whose UTF-8 bytes `hash` digests. -/
def hashPreimage (tx : Transaction) : List Char :=
  dumpsSorted tx.payload

/-- `Transaction.hash`, for a given SHA-256. -/
def hash (sha256 : Bytes → Bytes) (tx : Transaction) : String :=
  ⟨"0x".data ++ (Aether.hex (sha256 (encode ⟨tx.hashPreimage⟩))).data⟩

/-- `sort_keys=True` puts the payload in code-point order of its keys. -/
theorem payload_sorted (tx : Transaction) :
    tx.payload.insertionSort keyLe =
      [("amount", .scalar (.str ⟨intRepr tx.amount⟩)),
        ("fee", .scalar (.str ⟨intRepr tx.fee⟩)),
        ("gas_limit", .scalar (.int tx.gasLimit)),
        ("memo", .scalar (match tx.memo with
          | some memo => .str memo
          | none => .none)),
        ("nonce", .scalar (.int tx.nonce)),
        ("reads", .list (tx.reads.map .str)),
        ("recipient", .scalar (.str tx.recipient)),
        ("sender", .scalar (.str tx.sender)),
        ("sender_public_key", .scalar (.str tx.senderPublicKey)),
        ("writes", .list (tx.writes.map .str))] := by
  rfl

/-- The fields `__post_init__` refuses: one of the four hex fields without the `0x` prefix, an
amount, fee or gas limit that is not positive, a negative nonce, or a signature of fewer than 66
characters. -/
def Refused (tx : Transaction) : Prop :=
  ¬startswith tx.sender "0x" ∨ ¬startswith tx.senderPublicKey "0x" ∨
    ¬startswith tx.recipient "0x" ∨ ¬startswith tx.signature "0x" ∨ tx.amount ≤ 0 ∨
    tx.fee ≤ 0 ∨ tx.gasLimit ≤ 0 ∨ tx.nonce < 0 ∨ tx.signature.length < 66

instance : DecidablePred Refused := fun tx => by unfold Refused; infer_instance

end Transaction

/-- A computation that raises `ValueError`, with any message. -/
def RaisesValueError {α : Type} (result : Except PyException α) : Prop :=
  ∃ message, result = .error (.valueError message)

/-- A check that returns normally or raises `ValueError`, and nothing else. -/
def ChecksOnly (check : Except PyException Unit) : Prop :=
  check = .ok () ∨ RaisesValueError check

/-- A check followed by more code raises `ValueError` when the check fails or the rest raises. -/
theorem raisesValueError_bind {α : Type} {check : Except PyException Unit}
    (checksOnly : ChecksOnly check) (next : Unit → Except PyException α) :
    RaisesValueError (check >>= next) ↔ check.isOk = false ∨ RaisesValueError (next ()) := by
  rcases checksOnly with passed | ⟨message, failed⟩ <;> subst_vars
  · simp [Except.isOk, Except.toBool]
  · simp [RaisesValueError, Except.isOk, Except.toBool]

/-- A check followed by more code returns a value when the check passes and the rest returns it. -/
theorem bind_eq_ok_iff {α : Type} {check : Except PyException Unit}
    (checksOnly : ChecksOnly check) (next : Unit → Except PyException α) (value : α) :
    check >>= next = .ok value ↔ check.isOk = true ∧ next () = .ok value := by
  rcases checksOnly with passed | ⟨message, failed⟩ <;> subst_vars
  · simp [Except.isOk, Except.toBool]
  · simp [Except.isOk, Except.toBool]

@[simp] theorem pure_eq_ok {α : Type} (value : α) :
    (pure value : Except PyException α) = .ok value := rfl

@[simp] theorem throw_bind_ne_ok {α : Type} (error : PyException)
    (next : Unit → Except PyException α) (value : α) : (throw error >>= next) ≠ .ok value :=
  nofun

@[simp] theorem raisesValueError_pure {α : Type} (value : α) :
    ¬RaisesValueError (pure value : Except PyException α) := by
  simp [RaisesValueError, pure, Except.pure]

/-- An argument passes `ensure_hex` exactly when it starts with `0x`. -/
@[simp] theorem ensureHex_isOk (value field : String) :
    (ensureHex value field).isOk = startswith value "0x" := by
  unfold ensureHex
  split <;> simp_all [Except.isOk, Except.toBool]

/-- An argument passes `ensure_positive_int` exactly when it is positive. -/
@[simp] theorem ensurePositiveInt_isOk (value : Int) (field : String) :
    (ensurePositiveInt value field).isOk = decide (0 < value) := by
  unfold ensurePositiveInt
  split <;> simp_all [Except.isOk, Except.toBool]

@[simp] theorem ensureHex_checksOnly (value field : String) : ChecksOnly (ensureHex value field) := by
  unfold ChecksOnly RaisesValueError ensureHex
  split <;> simp

@[simp] theorem ensurePositiveInt_checksOnly (value : Int) (field : String) :
    ChecksOnly (ensurePositiveInt value field) := by
  unfold ChecksOnly RaisesValueError ensurePositiveInt
  split <;> simp

@[simp] theorem raisesValueError_throw_bind {α : Type} (message : String)
    (next : Unit → Except PyException α) :
    RaisesValueError (throw (.valueError message) >>= next) :=
  ⟨message, rfl⟩

/-- `__post_init__` raises `ValueError` exactly on the refused fields. -/
theorem postInit_raises_iff_refused (tx : Transaction) :
    RaisesValueError tx.postInit ↔ tx.Refused := by
  simp only [Transaction.postInit, raisesValueError_bind, ensureHex_checksOnly,
    ensurePositiveInt_checksOnly, ensureHex_isOk, ensurePositiveInt_isOk, Transaction.Refused,
    Bool.not_eq_true, decide_eq_false_iff_not, not_lt, Int.add_one_le_iff]
  split
  case isTrue short => simp only [raisesValueError_throw_bind, short, or_true]
  case isFalse long => simp only [pure_bind, raisesValueError_pure, long, or_false]

/-- `__post_init__` returns the transaction, `writes` defaulting to the recipient, exactly when
no field is refused. -/
theorem postInit_eq_ok_iff (tx : Transaction) :
    tx.postInit = .ok (if tx.writes.isEmpty then { tx with writes := tx.writes ++ [tx.recipient] }
      else tx) ↔ ¬tx.Refused := by
  simp only [Transaction.postInit, bind_eq_ok_iff, ensureHex_checksOnly,
    ensurePositiveInt_checksOnly, ensureHex_isOk, ensurePositiveInt_isOk, Transaction.Refused,
    decide_eq_true_eq, not_or, Bool.not_eq_true, Int.not_le, not_lt, Int.lt_iff_add_one_le]

  split
  case isTrue short =>
    simp only [throw_bind_ne_ok, and_false, false_iff, Nat.not_le.mpr short, not_false_eq_true]
  case isFalse long =>
    simp only [pure_eq_ok, ok_bind, Bool.not_eq_false, Nat.not_lt.mp long, and_true]

/-- The hex field of the documented data model: `0x` followed by exactly `digits` hex digits.
This is the specification's grammar; `ensure_hex` checks only the prefix. -/
def isHexField (value : String) (digits : Nat) : Bool :=
  match value.data with
  | '0' :: 'x' :: rest => rest.length == digits && rest.all fun c => (hexValue? c).isSome
  | _ => false

/-- The documented data model of a transaction: 20-byte addresses, a 32-byte public key, a
64-byte signature, and amount, fee, gas limit and nonce non-negative. -/
def followsDataModel (tx : Transaction) : Bool :=
  isHexField tx.sender 40 && isHexField tx.recipient 40 && isHexField tx.senderPublicKey 64 &&
    isHexField tx.signature 128 && decide (0 ≤ tx.amount) && decide (0 ≤ tx.fee) &&
    decide (0 ≤ tx.gasLimit) && decide (0 ≤ tx.nonce)

/-- `0x` followed by hex digits, of any number: the data model's hex grammar without its
length. -/
def isHexString (value : String) : Bool :=
  startswith value "0x" && (value.data.drop 2).all fun c => (hexValue? c).isSome

/-- What the constructor accepts by design: each hex field `0x` followed by hex digits of any
number, a positive amount, fee and gas limit, a non-negative nonce, and a signature of at least 66
characters, the `0x` and 32 bytes in hex of the SDK's own test. -/
def Transaction.WellFormed (tx : Transaction) : Prop :=
  isHexString tx.sender ∧ isHexString tx.senderPublicKey ∧ isHexString tx.recipient ∧
    isHexString tx.signature ∧ 0 < tx.amount ∧ 0 < tx.fee ∧ 0 < tx.gasLimit ∧ 0 ≤ tx.nonce ∧
    66 ≤ tx.signature.length

/-- `__post_init__` refuses no well-formed transaction. -/
theorem Transaction.not_refused_of_wellFormed {tx : Transaction} (wellFormed : tx.WellFormed) :
    ¬tx.Refused := by
  obtain ⟨sender, key, recipient, signature, amount, fee, gasLimit, nonce, long⟩ := wellFormed
  simp only [isHexString, Bool.and_eq_true] at sender key recipient signature
  simp only [Transaction.Refused, sender.1, key.1, recipient.1, signature.1, not_true_eq_false,
    false_or, not_or, not_le, not_lt]
  exact ⟨amount, fee, gasLimit, nonce, long⟩

/-- `int.__repr__` determines the integer. -/
theorem intRepr_injective : Function.Injective intRepr := by
  intro left right same
  have delimited : Delimited [','] := .inl rfl
  exact (intRepr_prefixUnique delimited delimited (congrArg (· ++ [',']) same)).1

/-- The memo's JSON scalar determines the memo. -/
theorem memoScalar_injective {left right : Option String}
    (same : (match left with
      | some memo => JsonScalar.str memo
      | none => .none) = match right with
      | some memo => .str memo
      | none => .none) : left = right := by
  cases left <;> cases right <;> simp_all

/-- Equal hash preimages give equal transactions up to the signature. -/
theorem Transaction.eq_of_hashPreimage_eq (left right : Transaction)
    (same : left.hashPreimage = right.hashPreimage) :
    left = { right with signature := left.signature } := by
  have entries := dumpsSorted_injective same
  rw [Transaction.payload_sorted, Transaction.payload_sorted] at entries
  simp only [List.cons.injEq, Prod.mk.injEq, JsonValue.scalar.injEq, JsonValue.list.injEq,
    JsonScalar.str.injEq, JsonScalar.int.injEq, true_and, and_true] at entries
  obtain ⟨amount, fee, gasLimit, memo, nonce, reads, recipient, sender, senderPublicKey,
    writes⟩ := entries
  have stringItems : Function.Injective (List.map JsonScalar.str) :=
    List.map_injective_iff.mpr fun _ _ equal => JsonScalar.str.inj equal
  cases left
  cases right
  simp only [Transaction.mk.injEq] at *
  exact ⟨nonce, sender, senderPublicKey, recipient, intRepr_injective (congrArg String.data amount),
    intRepr_injective (congrArg String.data fee), gasLimit, memoScalar_injective memo, trivial, stringItems reads,
    stringItems writes⟩

/-- The hash preimage of a transaction determines every field but the signature. -/
theorem hashPreimage_determines_fields (left right : Transaction)
    (same : left.hashPreimage = right.hashPreimage) :
    left = { right with signature := left.signature } :=
  Transaction.eq_of_hashPreimage_eq left right same

/-- Two transfers that differ only in their signature share a preimage, and the preimage then
gives back every other field. -/
theorem hashPreimage_determines_fields_of_resigned :
    let signed : Transaction :=
      { nonce := 7, sender := "0xa1", senderPublicKey := "0xb2", recipient := "0xc3",
        amount := 5, fee := 2, gasLimit := 3, memo := some "say \x22hi\x22", signature := "0x01",
        writes := ["0xc3"] }
    signed.hashPreimage = { signed with signature := "0x02" }.hashPreimage ∧
      signed = { { signed with signature := "0x02" } with signature := signed.signature } :=
  ⟨rfl, hashPreimage_determines_fields _ _ rfl⟩

end Aether.Sdk
