import Aether.Rpc.Keypair
import Aether.Rpc.Transaction

/-!
# Signed transactions, from the keypair to the node

`TransactionHelper.create_transfer` and `create_call` sign a `TransactionBuilder.transfer` or
`call` from the keypair's address: `TransactionBuilder.sign` hands the digest of `_serialize(tx)`
to `keypair.sign`, which writes the hex of its Ed25519 signature. `send_transaction` then sends
the fields as a dict. `Envelope.authentic` is what a node that knows the sender's public key can
check of that dict with the SDK's own functions: the key's address is the sender, the signed
bytes rebuild, and `Keypair.verify` accepts the signature of their digest.

`build` raises `ValueError` naming the first missing field (`build_eq_error`), and `sign` adds only
`struct.error` (`sign_eq_error`). Every transaction a keypair signs from its own address passes
the node's check (`signed_envelope_authentic`), under the assumptions on Ed25519 the keypair
module names; the helpers fail only where `struct.pack` does
(`helper_transactions_fail_only_in_packing`). The check owes its address part to the sender
comparison alone: the signed bytes do not bind where the sender ends and the recipient begins
(`signed_bytes_ignore_address_split`).
-/

namespace Aether.Rpc

open Aether

/-- `TransactionBuilder.build` returns exactly the transaction of the fields it holds. -/
theorem TransactionBuilder.build_eq_ok {builder : TransactionBuilder} {tx : Transaction} :
    builder.build = .ok tx ↔ ∃ fromAddr toAddr value nonce, builder.fromField = some fromAddr ∧
      builder.toField = some toAddr ∧ builder.valueField = some value ∧
      builder.nonceField = some nonce ∧
      tx = { fromAddr, toAddr, value, data := builder.dataField, nonce } := by
  rcases builder with ⟨_ | fromAddr, _ | toAddr, _ | value, data, _ | nonce⟩ <;>
    simp only [build, throw, throwThe, MonadExceptOf.throw, ok_bind, error_bind, reduceCtorEq,
      false_and, exists_false, Option.some.injEq, exists_and_left, exists_eq_left', pure,
      Except.pure, Except.ok.injEq, eq_comm]

/-- `build` raises `ValueError` naming the first of the sender, recipient, value and nonce that is
missing, in that order, and raises nothing else. -/
theorem TransactionBuilder.build_eq_error {builder : TransactionBuilder} {error : PyException} :
    builder.build = .error error ↔
      builder.fromField = none ∧ error = .valueError "Transaction requires from address" ∨
      builder.fromField.isSome ∧ builder.toField = none ∧
        error = .valueError "Transaction requires to address" ∨
      builder.fromField.isSome ∧ builder.toField.isSome ∧ builder.valueField = none ∧
        error = .valueError "Transaction requires value" ∨
      builder.fromField.isSome ∧ builder.toField.isSome ∧ builder.valueField.isSome ∧
        builder.nonceField = none ∧ error = .valueError "Transaction requires nonce" := by
  rcases builder with ⟨_ | fromAddr, _ | toAddr, _ | value, data, _ | nonce⟩ <;>
    simp [build, throw, throwThe, MonadExceptOf.throw, pure, Except.pure, eq_comm]

/-- `TransactionHelper.parse_hash(hash)`: a hash without the `0x` prefix gets one. -/
def TransactionHelper.parseHash (hash : String) : String :=
  if startswith hash "0x" then hash else "0x" ++ hash

section Lifecycle

variable (ed25519PublicKey sha256 : Bytes → Bytes) (ed25519Sign : Bytes → Bytes → Bytes)
  (ed25519Verify : Bytes → Bytes → Bytes → Bool)

/-- `TransactionHelper.create_transfer(keypair, to, amount, nonce)`. -/
def TransactionHelper.createTransfer (keypair : Keypair) (toAddr : String) (amount nonce : Int) :
    Except PyException Transaction :=
  (TransactionBuilder.transfer keypair.address toAddr amount nonce).sign sha256
    (ed25519Sign keypair.signingKey.seed)

/-- `TransactionHelper.create_call(keypair, contract, data, nonce, value)`. -/
def TransactionHelper.createCall (keypair : Keypair) (contract : String) (data : Bytes)
    (nonce value : Int) : Except PyException Transaction :=
  (TransactionBuilder.call keypair.address contract data nonce value).sign sha256
    (ed25519Sign keypair.signingKey.seed)

/-- What a node that knows the sender's public key can check of the dict `send_transaction` sends:
the key's address is the sender, the signed bytes rebuild, and the signature verifies against
their digest. -/
def Envelope.authentic (envelope : Envelope) (publicKey : Bytes) : Bool :=
  Keypair.publicKeyToAddress sha256 publicKey == envelope.fromAddr &&
    match envelope.rebuild, envelope.signature with
    | .ok bytes, some signature => Keypair.verify ed25519Verify signature (sha256 bytes) publicKey
    | _, _ => false

/-- The envelope of a transaction signed with a seed rebuilds the signed bytes and carries the
hex of the seed's signature of their digest, and the transaction reports that digest as its
hash. -/
theorem sign_envelope {seed : Bytes} {builder : TransactionBuilder} {tx : Transaction}
    (signed : builder.sign sha256 (ed25519Sign seed) = .ok tx) :
    ∃ unsigned bytes, builder.build = .ok unsigned ∧ tx.fromAddr = unsigned.fromAddr ∧
      (sendTransactionEnvelope tx).rebuild = .ok bytes ∧
      (sendTransactionEnvelope tx).signature = some (hex (ed25519Sign seed (sha256 bytes))) ∧
      tx.hash = some ("0x" ++ hex (sha256 bytes)) := by
  obtain ⟨unsigned, bytes, built, serialized, rfl⟩ :=
    TransactionBuilder.sign_eq_ok sha256 (ed25519Sign seed) signed
  refine ⟨unsigned, bytes, built, rfl, ?_, rfl, rfl⟩
  rw [rebuild_sendTransactionEnvelope, TransactionBuilder.serialize_with_signature, serialized]

/-- Under an Ed25519 that meets `Ed25519Correct`, every transaction a keypair signs from its own
address, by `create_transfer`, `create_call` or any other builder, reaches the node as an
authentic envelope under the keypair's public key, and reports as its hash the digest of the bytes
the node rebuilds. -/
theorem signed_envelope_authentic
    (correct : Ed25519Correct ed25519PublicKey ed25519Sign ed25519Verify)
    (signingKey : SigningKey) (builder : TransactionBuilder)
    (fromKeypair : builder.fromField = some (Keypair.init ed25519PublicKey sha256 signingKey).address)
    (tx : Transaction) (signed : builder.sign sha256 (ed25519Sign signingKey.seed) = .ok tx) :
    (sendTransactionEnvelope tx).authentic sha256 ed25519Verify
        (Keypair.init ed25519PublicKey sha256 signingKey).publicKey = true ∧
      ∃ bytes, (sendTransactionEnvelope tx).rebuild = .ok bytes ∧
        tx.hash = some ("0x" ++ hex (sha256 bytes)) := by
  obtain ⟨unsigned, bytes, built, sender, rebuilt, signature, hashed⟩ :=
    sign_envelope sha256 ed25519Sign signed
  obtain ⟨fromAddr, _, _, _, stored, -, -, -, unsignedFields⟩ :=
    TransactionBuilder.build_eq_ok.mp built
  have address : Keypair.publicKeyToAddress sha256 (ed25519PublicKey signingKey.seed) =
      (sendTransactionEnvelope tx).fromAddr := by
    rw [sendTransactionEnvelope, sender, unsignedFields]
    exact Option.some.inj (fromKeypair.symm.trans stored)
  refine ⟨?_, bytes, rebuilt, hashed⟩
  simp only [Envelope.authentic, Keypair.init, address, beq_self_eq_true, rebuilt, signature,
    Bool.true_and]
  exact correct.verify_hex_sign ed25519PublicKey ed25519Sign ed25519Verify signingKey _

/-- A transfer signed by a keypair under a constant Ed25519 that meets `Ed25519Correct`. -/
theorem signed_envelope_authentic_constant :
    let publicKey : Bytes → Bytes := fun _ => List.replicate 32 0
    let digest : Bytes → Bytes := fun _ => List.replicate 32 0
    let sign : Bytes → Bytes → Bytes := fun _ _ => List.replicate 64 0
    let verify : Bytes → Bytes → Bytes → Bool := fun _ _ signature => signature == sign [] []
    let signingKey : SigningKey := ⟨List.replicate 32 1, rfl⟩
    let keypair := Keypair.init publicKey digest signingKey
    let builder := TransactionBuilder.transfer keypair.address "0x01" 5 0
    Ed25519Correct publicKey sign verify ∧ builder.fromField = some keypair.address ∧
      ∃ tx, builder.sign digest (sign signingKey.seed) = .ok tx ∧
        (sendTransactionEnvelope tx).authentic digest verify keypair.publicKey = true ∧
        ∃ bytes, (sendTransactionEnvelope tx).rebuild = .ok bytes ∧
          tx.hash = some ("0x" ++ hex (digest bytes)) := by
  intro publicKey digest sign verify signingKey keypair builder
  have correct : Ed25519Correct publicKey sign verify :=
    ⟨fun _ _ => List.length_replicate _ _, fun _ _ _ => List.length_replicate _ _,
      fun _ _ _ => beq_self_eq_true _⟩
  exact ⟨correct, rfl, _, rfl,
    signed_envelope_authentic publicKey digest sign verify correct signingKey builder rfl _ rfl⟩

/-- `TransactionBuilder.sign` on a builder that builds returns exactly when the value fits in 64
bits and the nonce in 32, and raises `struct.error` otherwise. -/
theorem TransactionBuilder.sign_complete {builder : TransactionBuilder} {fromAddr toAddr : String}
    {value nonce : Int}
    (built : builder.build = .ok { fromAddr, toAddr, value, data := builder.dataField, nonce })
    (signWith : Bytes → Bytes) :
    (builder.sign sha256 signWith).isOk =
        decide ((0 ≤ value ∧ value < 2 ^ 64) ∧ 0 ≤ nonce ∧ nonce < 2 ^ 32) ∧
      (¬((0 ≤ value ∧ value < 2 ^ 64) ∧ 0 ≤ nonce ∧ nonce < 2 ^ 32) →
        builder.sign sha256 signWith = .error .structError) := by
  simp only [TransactionBuilder.sign, built, ok_bind, TransactionBuilder.serialize, packU64, packU32,
    packUnsigned, Int.reducePow]
  by_cases fitsValue : 0 ≤ value ∧ value < 18446744073709551616 <;>
    by_cases fitsNonce : 0 ≤ nonce ∧ nonce < 4294967296 <;>
    simp only [fitsValue, fitsNonce, if_true, if_false, ok_bind, error_bind, pure_bind, and_true,
      and_false, not_true, not_false_eq_true, true_implies, false_implies, decide_True, decide_False] <;>
    rfl

/-- `sign` raises what `build` raises, or `struct.error` when the built transaction's value does not
fit in 64 bits or its nonce in 32, and nothing else. -/
theorem TransactionBuilder.sign_eq_error (signWith : Bytes → Bytes) {builder : TransactionBuilder}
    {error : PyException} :
    builder.sign sha256 signWith = .error error ↔ builder.build = .error error ∨
      ∃ tx, builder.build = .ok tx ∧
        ¬((0 ≤ tx.value ∧ tx.value < 2 ^ 64) ∧ 0 ≤ tx.nonce ∧ tx.nonce < 2 ^ 32) ∧
        error = .structError := by
  rcases built : builder.build with failure | tx
  · simp only [TransactionBuilder.sign, built, error_bind, Except.error.injEq, reduceCtorEq,
      false_and, exists_false, or_false]
  obtain ⟨fromAddr, toAddr, value, nonce, -, -, -, -, rfl⟩ := TransactionBuilder.build_eq_ok.mp built
  obtain ⟨isOk, packing⟩ := TransactionBuilder.sign_complete sha256 built signWith
  simp only [reduceCtorEq, Except.ok.injEq, exists_eq_left', false_or]
  by_cases fits : (0 ≤ value ∧ value < 2 ^ 64) ∧ 0 ≤ nonce ∧ nonce < 2 ^ 32
  · refine iff_of_false (fun raised => ?_) (fun refused => refused.1 fits)
    rw [raised, decide_eq_true fits] at isOk
    exact Bool.false_ne_true isOk
  · rw [packing fits]
    simp only [fits, not_false_eq_true, true_and, Except.error.injEq, eq_comm]

/-- `create_transfer` and `create_call` fail only where `struct.pack` does: whatever the keypair,
addresses and data, they return a signed transaction exactly when the value fits in 64 bits and
the nonce in 32, and otherwise raise `struct.error`, not `ValueError`. The addresses are strings
without lone surrogates, as every string of the model is; on a recipient or contract with one,
`_serialize`'s `encode()` raises `UnicodeEncodeError` first. -/
theorem helper_transactions_fail_only_in_packing (keypair : Keypair) (toAddr contract : String)
    (data : Bytes) (value nonce : Int) :
    let fits := (0 ≤ value ∧ value < 2 ^ 64) ∧ 0 ≤ nonce ∧ nonce < 2 ^ 32
    ((TransactionHelper.createTransfer sha256 ed25519Sign keypair toAddr value nonce).isOk =
        decide fits ∧
      (¬fits → TransactionHelper.createTransfer sha256 ed25519Sign keypair toAddr value nonce =
        .error .structError)) ∧
    ((TransactionHelper.createCall sha256 ed25519Sign keypair contract data nonce value).isOk =
        decide fits ∧
      (¬fits → TransactionHelper.createCall sha256 ed25519Sign keypair contract data nonce value =
        .error .structError)) :=
  ⟨@TransactionBuilder.sign_complete sha256 (.transfer keypair.address toAddr value nonce) _ _ _ _
      rfl _,
    @TransactionBuilder.sign_complete sha256 (.call keypair.address contract data nonce value) _ _ _ _
      rfl _⟩

end Lifecycle

/-- Moving the last character of the sender to the front of the recipient keeps the UTF-8 bytes of
the two addresses together. -/
theorem encode_address_shift (fromRest : List Char) (last : Char) (toAddr : String) :
    encode ⟨fromRest⟩ ++ encode ⟨last :: toAddr.data⟩ = encode ⟨fromRest ++ [last]⟩ ++ encode toAddr := by
  simp only [encode, List.flatMap_cons, List.flatMap_append, List.flatMap_nil, List.append_nil,
    List.append_assoc]

/-- The signed bytes do not bind where the sender ends and the recipient begins: for every
transaction whose sender is not empty, moving the sender's last character to the front of the
recipient gives a different transaction with the same `_serialize` bytes, and its envelope, with
the same signature, rebuilds the same bytes. Every signature check over those bytes answers alike
for both; only a comparison of the sender with a public key's address tells them apart. -/
theorem signed_bytes_ignore_address_split (tx : Transaction) (fromRest : List Char) (last : Char)
    (split : tx.fromAddr.data = fromRest ++ [last]) :
    let shifted : Transaction := { tx with fromAddr := ⟨fromRest⟩, toAddr := ⟨last :: tx.toAddr.data⟩ }
    shifted ≠ tx ∧ TransactionBuilder.serialize shifted = TransactionBuilder.serialize tx ∧
      (sendTransactionEnvelope shifted).rebuild = (sendTransactionEnvelope tx).rebuild ∧
      (sendTransactionEnvelope shifted).signature = (sendTransactionEnvelope tx).signature := by
  intro shifted
  have serialized : TransactionBuilder.serialize shifted = TransactionBuilder.serialize tx := by
    have addresses := encode_address_shift fromRest last tx.toAddr
    rw [← split] at addresses
    simp only [TransactionBuilder.serialize, shifted, addresses]
  refine ⟨fun same => ?_, serialized, ?_, rfl⟩
  · have lengths := congrArg (fun tx : Transaction => tx.fromAddr.data.length) same
    simp only [shifted, split, List.length_append, List.length_singleton] at lengths
    omega
  · rw [rebuild_sendTransactionEnvelope, rebuild_sendTransactionEnvelope, serialized]


/-- The sender `0xab` and the recipient `0xcd` against the sender `0xa` and the recipient `b0xcd`. -/
theorem signed_bytes_ignore_address_split_short :
    let tx : Transaction := { fromAddr := "0xab", toAddr := "0xcd", value := 1, nonce := 0 }
    tx.fromAddr.data = ['0', 'x', 'a'] ++ ['b'] ∧
      let shifted : Transaction :=
        { tx with fromAddr := ⟨['0', 'x', 'a']⟩, toAddr := ⟨'b' :: tx.toAddr.data⟩ }
      shifted ≠ tx ∧ TransactionBuilder.serialize shifted = TransactionBuilder.serialize tx ∧
        (sendTransactionEnvelope shifted).rebuild = (sendTransactionEnvelope tx).rebuild ∧
        (sendTransactionEnvelope shifted).signature = (sendTransactionEnvelope tx).signature :=
  ⟨rfl, signed_bytes_ignore_address_split _ _ _ rfl⟩

end Aether.Rpc
