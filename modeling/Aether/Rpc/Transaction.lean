import Aether.Builder
import Aether.Python.Str

/-!
# `aether` transactions: builder, signed bytes and the envelope sent to the node

The `aether` package (`src/sdk/python`) signs the SHA-256 digest of `_serialize(tx)`: the UTF-8
bytes of the sender and recipient strings, the value as `"<Q"`, the data (`b""` when absent)
and the nonce as `"<I"`, concatenated with no lengths. `send_transaction` sends the fields
separately, the data as hex or `None`.

`serialize_determines_fields` is the binding the signed digest gets from the byte layout: it
holds only when the address strings have the same UTF-8 lengths, and
`serialize_shifts_address_bytes` shows bytes moving from one address to the other without it.
`envelope_rebuilds_signed_bytes` shows the envelope carries exactly the signed bytes.

SHA-256 and the Ed25519 signature of the keypair are parameters: nothing here depends on what
they compute.
-/

namespace Aether.Rpc

open Aether

/-- The `Transaction` dataclass of `aether.types`. -/
structure Transaction where
  fromAddr : String
  toAddr : String
  value : Int
  data : Option Bytes := none
  nonce : Int := 0
  signature : Option String := none
  hash : Option String := none
  deriving DecidableEq, Repr

/-- `TransactionBuilder`'s fields `_from`, `_to`, `_value`, `_data` and `_nonce`, unset at first.
-/
@[ext] structure TransactionBuilder where
  fromField : Option String := none
  toField : Option String := none
  valueField : Option Int := none
  dataField : Option Bytes := none
  nonceField : Option Int := none
  deriving DecidableEq, Repr

namespace TransactionBuilder

/-- `TransactionBuilder.from_addr`: no check. -/
def fromAddr (builder : TransactionBuilder) (address : String) :
    Except PyException TransactionBuilder :=
  setField (pure ()) (fun builder => { builder with fromField := some address }) builder

/-- `TransactionBuilder.to`: no check. -/
def «to» (builder : TransactionBuilder) (address : String) : Except PyException TransactionBuilder :=
  setField (pure ()) (fun builder => { builder with toField := some address }) builder

/-- `TransactionBuilder.value`: no check. -/
def value (builder : TransactionBuilder) (amount : Int) : Except PyException TransactionBuilder :=
  setField (pure ()) (fun builder => { builder with valueField := some amount }) builder

/-- `TransactionBuilder.data`: no check. -/
def data (builder : TransactionBuilder) (data : Bytes) : Except PyException TransactionBuilder :=
  setField (pure ()) (fun builder => { builder with dataField := some data }) builder

/-- `TransactionBuilder.nonce`: no check. -/
def nonce (builder : TransactionBuilder) (nonce : Int) : Except PyException TransactionBuilder :=
  setField (pure ()) (fun builder => { builder with nonceField := some nonce }) builder

/-- `TransactionBuilder.build`: every field but the data must be set. -/
def build (builder : TransactionBuilder) : Except PyException Transaction := do
  let some fromAddr := builder.fromField
    | throw (.valueError "Transaction requires from address")
  let some toAddr := builder.toField | throw (.valueError "Transaction requires to address")
  let some value := builder.valueField | throw (.valueError "Transaction requires value")
  let some nonce := builder.nonceField | throw (.valueError "Transaction requires nonce")
  pure { fromAddr, toAddr, value, data := builder.dataField, nonce }

/-- `TransactionBuilder._serialize`: the bytes whose digest is signed. -/
def serialize (tx : Transaction) : Except PyException Bytes := do
  let value ← packU64 tx.value
  let nonce ← packU32 tx.nonce
  pure (encode tx.fromAddr ++ encode tx.toAddr ++ value ++ tx.data.getD [] ++ nonce)

section Signing

variable (sha256 : Bytes → Bytes) (ed25519Sign : Bytes → Bytes)

/-- `TransactionBuilder.sign`: build, serialize, hash, sign the hash with the keypair. -/
def sign (builder : TransactionBuilder) : Except PyException Transaction := do
  let tx ← builder.build
  let txBytes ← serialize tx
  let hashBytes := sha256 txBytes
  pure { tx with signature := some (hex (ed25519Sign hashBytes)),
                 hash := some ⟨"0x".data ++ (hex hashBytes).data⟩ }

/-- What `sign` does when it returns: build, serialize, and attach the hash and signature. -/
theorem sign_eq_ok {builder : TransactionBuilder} {tx : Transaction}
    (signed : sign sha256 ed25519Sign builder = .ok tx) :
    ∃ unsigned bytes, builder.build = .ok unsigned ∧ serialize unsigned = .ok bytes ∧
      tx = { unsigned with signature := some (hex (ed25519Sign (sha256 bytes))),
                           hash := some ⟨"0x".data ++ (hex (sha256 bytes)).data⟩ } := by
  unfold sign at signed
  cases built : builder.build with
  | error _ => simp [built] at signed
  | ok unsigned =>
      cases serialized : serialize unsigned with
      | error _ => simp [built, serialized] at signed
      | ok bytes =>
          simp only [built, serialized, ok_bind] at signed
          exact ⟨unsigned, bytes, rfl, serialized, (Except.ok.inj signed).symm⟩

end Signing

/-- What `_serialize` succeeds on and the bytes it writes. -/
theorem serialize_eq_ok {tx : Transaction} {bytes : Bytes} :
    serialize tx = .ok bytes ↔ ∃ value nonce, packU64 tx.value = .ok value ∧
      packU32 tx.nonce = .ok nonce ∧
      bytes = encode tx.fromAddr ++ encode tx.toAddr ++ value ++ tx.data.getD [] ++ nonce := by
  unfold serialize
  cases packU64 tx.value <;> cases packU32 tx.nonce <;> simp [eq_comm]

/-- The signature and hash are not serialized. -/
@[simp] theorem serialize_with_signature (tx : Transaction) (signature hash : Option String) :
    serialize { tx with signature, hash } = serialize tx := rfl

/-- A setter call on a `TransactionBuilder`, with its argument. -/
inductive Call where
  | fromAddr (address : String)
  | «to» (address : String)
  | value (amount : Int)
  | data (data : Bytes)
  | nonce (nonce : Int)
  deriving DecidableEq, Repr

/-- The source setter a call names. -/
def applyCall (builder : TransactionBuilder) : Call → Except PyException TransactionBuilder
  | .fromAddr address => builder.fromAddr address
  | .to address => builder.to address
  | .value amount => builder.value amount
  | .data data => builder.data data
  | .nonce nonce => builder.nonce nonce

/-- Each field after a sequence of calls: the argument of the last call to its setter, or the
value it started with. -/
def lastAccepted (builder : TransactionBuilder) (calls : List Call) : TransactionBuilder where
  fromField := lastStored (fun | .fromAddr address => some (some address) | _ => none) calls
    builder.fromField
  toField := lastStored (fun | .to address => some (some address) | _ => none) calls
    builder.toField
  valueField := lastStored (fun | .value amount => some (some amount) | _ => none) calls
    builder.valueField
  dataField := lastStored (fun | .data data => some (some data) | _ => none) calls
    builder.dataField
  nonceField := lastStored (fun | .nonce nonce => some (some nonce) | _ => none) calls
    builder.nonceField

/-- A `TransactionBuilder` after any setter calls holds each setter's last argument. -/
theorem runCaught_applyCall (builder : TransactionBuilder) (calls : List Call) :
    runCaught applyCall builder calls = lastAccepted builder calls := by
  ext1
  all_goals exact field_runCaught applyCall _ _ (fun _ call => by cases call <;> rfl) builder calls

/-- `TransactionBuilder.transfer`. -/
def transfer (fromAddr toAddr : String) (amount nonce : Int) : TransactionBuilder :=
  { fromField := some fromAddr, toField := some toAddr, valueField := some amount,
    nonceField := some nonce }

/-- `TransactionBuilder.call(from_addr, contract, data, nonce, value)`; the source's default value
is `0`. -/
def call (fromAddr contract : String) (data : Bytes) (nonce value : Int) : TransactionBuilder :=
  { fromField := some fromAddr, toField := some contract, valueField := some value,
    dataField := some data, nonceField := some nonce }

/-- A built transaction carries the nonce the builder holds. -/
theorem build_nonce {builder : TransactionBuilder} {tx : Transaction}
    (built : builder.build = .ok tx) : builder.nonceField = some tx.nonce := by
  rcases builder with ⟨_ | fromAddr, _ | toAddr, _ | value, data, _ | nonce⟩ <;>
    simp only [build, throw, throwThe, MonadExceptOf.throw, ok_bind, error_bind,
      reduceCtorEq] at built
  cases built
  rfl

/-- A signed transaction carries the nonce the builder holds. -/
theorem sign_nonce (sha256 ed25519Sign : Bytes → Bytes) {builder : TransactionBuilder}
    {tx : Transaction} (signed : sign sha256 ed25519Sign builder = .ok tx) :
    builder.nonceField = some tx.nonce := by
  obtain ⟨unsigned, _, built, _, rfl⟩ := sign_eq_ok sha256 ed25519Sign signed
  exact (build_nonce built :)

end TransactionBuilder

/-! ## The envelope `send_transaction` sends -/

/-- The dict `AetherClient.send_transaction` sends: `from`, `to`, `value`, `data`, `nonce`,
`signature`. -/
structure Envelope where
  fromAddr : String
  toAddr : String
  value : Int
  data : Option String
  nonce : Int
  signature : Option String
  deriving DecidableEq, Repr

/-- `AetherClient.send_transaction`'s `tx_dict`: `tx.data.hex() if tx.data else None`. -/
def sendTransactionEnvelope (tx : Transaction) : Envelope :=
  { fromAddr := tx.fromAddr, toAddr := tx.toAddr, value := tx.value,
    data := match tx.data with
      | some data => if data.isEmpty then none else some (hex data)
      | none => none,
    nonce := tx.nonce, signature := tx.signature }

/-- `bytes.fromhex(data) if data is not None else b''` on an envelope's data. -/
def Envelope.dataBytes (envelope : Envelope) : Except PyException Bytes :=
  match envelope.data with
  | some data => fromhex data
  | none => pure []

/-- The bytes rebuilt from an envelope: `from.encode() + to.encode() + u64le(value) +
(bytes.fromhex(data) if data is not None else b'') + u32le(nonce)`. -/
def Envelope.rebuild (envelope : Envelope) : Except PyException Bytes := do
  let value ← packU64 envelope.value
  let data ← envelope.dataBytes
  let nonce ← packU32 envelope.nonce
  pure (encode envelope.fromAddr ++ encode envelope.toAddr ++ value ++ data ++ nonce)

/-- The data travels as `None` or as hex, and either reads back as the data or `b""`. -/
theorem dataBytes_sendTransactionEnvelope (tx : Transaction) :
    (sendTransactionEnvelope tx).dataBytes = .ok (tx.data.getD []) := by
  rcases tx with ⟨_, _, _, _ | ⟨_ | ⟨byte, rest⟩⟩, _, _, _⟩
  · rfl
  · rfl
  · exact fromhex_hex (byte :: rest)

/-- Rebuilding from the envelope gives `_serialize` of the transaction, for every transaction. -/
theorem rebuild_sendTransactionEnvelope (tx : Transaction) :
    (sendTransactionEnvelope tx).rebuild = TransactionBuilder.serialize tx := by
  rw [Envelope.rebuild, dataBytes_sendTransactionEnvelope]
  simp only [TransactionBuilder.serialize, sendTransactionEnvelope]
  cases packU64 tx.value <;> cases packU32 tx.nonce <;> rfl

/-- The envelope of a signed transaction rebuilds exactly the bytes whose digest was signed. -/
theorem envelope_rebuilds_signed_bytes (sha256 ed25519Sign : Bytes → Bytes)
    (builder : TransactionBuilder) (tx : Transaction)
    (signed : TransactionBuilder.sign sha256 ed25519Sign builder = .ok tx) :
    ∃ bytes, TransactionBuilder.serialize tx = .ok bytes ∧
      (sendTransactionEnvelope tx).rebuild = .ok bytes ∧
      tx.hash = some ⟨"0x".data ++ (hex (sha256 bytes)).data⟩ := by
  obtain ⟨unsigned, bytes, -, serialized, rfl⟩ :=
    TransactionBuilder.sign_eq_ok sha256 ed25519Sign signed
  refine ⟨bytes, ?_, ?_, rfl⟩
  · rw [TransactionBuilder.serialize_with_signature, serialized]
  · rw [rebuild_sendTransactionEnvelope, TransactionBuilder.serialize_with_signature, serialized]

/-- A contract call with data, signed with any hash and signature functions. -/
theorem envelope_rebuilds_signed_bytes_call :
    ∃ tx, TransactionBuilder.sign id id
        { fromField := some "0x1111", toField := some "0x1000000000000000000000000000000000000003",
          valueField := some 50000, dataField := some [0x73, 0x75, 0x62, 0x6d],
          nonceField := some 7 } = .ok tx ∧
      ∃ bytes, TransactionBuilder.serialize tx = .ok bytes ∧
        (sendTransactionEnvelope tx).rebuild = .ok bytes ∧
        tx.hash = some ⟨"0x".data ++ (hex (id bytes)).data⟩ := by
  obtain ⟨tx, signed⟩ : ∃ tx, TransactionBuilder.sign id id
      { fromField := some "0x1111", toField := some "0x1000000000000000000000000000000000000003",
        valueField := some 50000, dataField := some [0x73, 0x75, 0x62, 0x6d],
        nonceField := some 7 } = .ok tx := ⟨_, rfl⟩
  exact ⟨tx, signed, envelope_rebuilds_signed_bytes id id _ tx signed⟩

/-! ## What the signed bytes bind -/

/-- With address strings of equal UTF-8 lengths, the signed bytes determine every signed field.
-/
theorem serialize_determines_fields {left right : Transaction} {bytes : Bytes}
    (leftBytes : TransactionBuilder.serialize left = .ok bytes)
    (rightBytes : TransactionBuilder.serialize right = .ok bytes)
    (fromLength : (encode left.fromAddr).length = (encode right.fromAddr).length)
    (toLength : (encode left.toAddr).length = (encode right.toAddr).length) :
    left.fromAddr = right.fromAddr ∧ left.toAddr = right.toAddr ∧ left.value = right.value ∧
      left.nonce = right.nonce ∧ left.data.getD [] = right.data.getD [] := by
  obtain ⟨leftValue, leftNonce, leftPacked, leftNoncePacked, rfl⟩ :=
    TransactionBuilder.serialize_eq_ok.mp leftBytes
  obtain ⟨rightValue, rightNonce, rightPacked, rightNoncePacked, same⟩ :=
    TransactionBuilder.serialize_eq_ok.mp rightBytes
  simp only [List.append_assoc] at same
  obtain ⟨fromBytes, same⟩ := List.append_inj same fromLength
  obtain ⟨toBytes, same⟩ := List.append_inj same toLength
  obtain ⟨valueBytes, same⟩ := List.append_inj same
    (by rw [packUnsigned_length leftPacked, packUnsigned_length rightPacked])
  obtain ⟨dataBytes, nonceBytes⟩ := List.append_inj' same
    (by rw [packUnsigned_length leftNoncePacked, packUnsigned_length rightNoncePacked])
  exact ⟨encode_injective fromBytes, encode_injective toBytes,
    packUnsigned_injective leftPacked (valueBytes ▸ rightPacked),
    packUnsigned_injective leftNoncePacked (nonceBytes ▸ rightNoncePacked), dataBytes⟩

/-- A transfer without data and the same transfer with empty data sign the same bytes, and the
data they are then known to agree on is the empty span. -/
theorem serialize_determines_fields_of_empty_data :
    TransactionBuilder.serialize
        { fromAddr := "0xaa", toAddr := "0xbb", value := 1000, nonce := 1 } =
      TransactionBuilder.serialize
        { fromAddr := "0xaa", toAddr := "0xbb", value := 1000, nonce := 1, data := some [] } ∧
    ("0xaa" = "0xaa" ∧ "0xbb" = "0xbb" ∧ (1000 : Int) = 1000 ∧ (1 : Int) = 1 ∧
      (none : Option Bytes).getD [] = (some [] : Option Bytes).getD []) := by
  obtain ⟨bytes, absentBytes⟩ : ∃ bytes, TransactionBuilder.serialize
      { fromAddr := "0xaa", toAddr := "0xbb", value := 1000, nonce := 1 } = .ok bytes :=
    ⟨_, rfl⟩
  exact ⟨rfl, @serialize_determines_fields
    { fromAddr := "0xaa", toAddr := "0xbb", value := 1000, nonce := 1 }
    { fromAddr := "0xaa", toAddr := "0xbb", value := 1000, nonce := 1, data := some [] } bytes
    absentBytes absentBytes rfl rfl⟩

/-- Two transfers the builder accepts whose addresses split the same bytes differently: the
41-character recipient is the test suite's. -/
theorem serialize_shifts_address_bytes :
    (TransactionBuilder.transfer "0x1111111111111111111111111111111111111111"
        "0x742d35Cc6634C0532925a3b844Bc9e7595f0bEb" 1000 0).build =
      .ok { fromAddr := "0x1111111111111111111111111111111111111111",
            toAddr := "0x742d35Cc6634C0532925a3b844Bc9e7595f0bEb", value := 1000, nonce := 0 } ∧
    (TransactionBuilder.transfer "0x11111111111111111111111111111111111111110"
        "x742d35Cc6634C0532925a3b844Bc9e7595f0bEb" 1000 0).build =
      .ok { fromAddr := "0x11111111111111111111111111111111111111110",
            toAddr := "x742d35Cc6634C0532925a3b844Bc9e7595f0bEb", value := 1000, nonce := 0 } ∧
    (TransactionBuilder.serialize
        { fromAddr := "0x1111111111111111111111111111111111111111",
          toAddr := "0x742d35Cc6634C0532925a3b844Bc9e7595f0bEb", value := 1000, nonce := 0 }).isOk ∧
    TransactionBuilder.serialize
        { fromAddr := "0x1111111111111111111111111111111111111111",
          toAddr := "0x742d35Cc6634C0532925a3b844Bc9e7595f0bEb", value := 1000, nonce := 0 } =
      TransactionBuilder.serialize
        { fromAddr := "0x11111111111111111111111111111111111111110",
          toAddr := "x742d35Cc6634C0532925a3b844Bc9e7595f0bEb", value := 1000, nonce := 0 } ∧
    "0x1111111111111111111111111111111111111111" ≠ "0x11111111111111111111111111111111111111110" :=
  ⟨rfl, rfl, rfl, rfl, by decide⟩

end Aether.Rpc
