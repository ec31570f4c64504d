import Aether.Rpc.Keypair
import Aether.Sdk.Builders

/-!
# The `aether` keypair against the `aether_sdk` transaction

The two packages of the repository meet where a transfer of `aether_sdk` is signed: its
`TransferBuilder.build` takes the sender, the sender's public key and the signature as strings,
and `Transaction.__post_init__` asks each of them to start with `0x`. The `aether` keypair gives
its address with that prefix, but `to_public_key_hex()` and `sign(message)` give bare `bytes.hex()`
text, whose digits are lowercase hex and never an `x` (`startswith_hex`).

`keypair_hex_needs_prefix` says what follows for every keypair and message: the bare key or the
bare signature is refused by every builder, and with `0x` put in front of each, a builder whose
setters accepted a recipient and an amount returns the transaction for every non-negative nonce,
the 64-byte Ed25519 signature being long enough for the length check.
-/

namespace Aether

/-- `bytes.hex()` never starts with `0x`: its characters are lowercase hex digits. -/
theorem startswith_hex (data : Bytes) : startswith (hex data) "0x" = false := by
  rw [Bool.eq_false_iff]
  intro prefixed
  have hasX : 'x' ∈ (hex data).data :=
    ((List.isPrefixOf_iff_prefix.mp prefixed).subset (by decide : 'x' ∈ "0x".data))
  exact absurd (hex_lowercase data 'x' hasX) (by decide)

/-- Text with `0x` put in front starts with `0x`. -/
@[simp] theorem startswith_zero_x_append (text : String) : startswith ("0x" ++ text) "0x" = true := by
  cases text
  exact List.isPrefixOf_iff_prefix.mpr (List.prefix_append _ _)

/-- An `aether` address starts with `0x`. -/
theorem startswith_publicKeyToAddress (sha256 : Bytes → Bytes) (publicKey : Bytes) :
    startswith (Rpc.Keypair.publicKeyToAddress sha256 publicKey) "0x" = true :=
  startswith_zero_x_append _

/-- `build` raises `ValueError` on a public key or a signature without the `0x` prefix, whatever
the builder holds. -/
theorem Sdk.TransferBuilder.build_raises_of_unprefixed (builder : Sdk.TransferBuilder)
    (sender senderPublicKey signature : String) (nonce : Int)
    (bare : ¬startswith senderPublicKey "0x" ∨ ¬startswith signature "0x") :
    Sdk.RaisesValueError (builder.build sender senderPublicKey signature nonce) := by
  rw [Sdk.TransferBuilder.build_raises_iff]
  rcases builder.recipientField with _ | recipient
  · exact Or.inl rfl
  rcases builder.amountField with _ | amount
  · exact Or.inr (Or.inl rfl)
  refine Or.inr (Or.inr ⟨recipient, amount, rfl, rfl, ?_⟩)
  rcases bare with bareKey | bareSignature
  · exact Or.inr (Or.inl bareKey)
  · exact Or.inr (Or.inr (Or.inr (Or.inl bareSignature)))

/-- For every `aether` keypair and message, `aether_sdk`'s `TransferBuilder.build` refuses the
keypair's public key and signature as they come, whatever the builder and the other arguments:
`__post_init__` wants the `0x` prefix that `bytes.hex()` does not write. With the prefix put in
front of both, and the keypair's own address as the sender, a builder that keeps its setters'
invariant and holds a recipient and an amount returns the transaction for every non-negative
nonce, given an Ed25519 whose signatures have 64 bytes. -/
theorem keypair_hex_needs_prefix (ed25519PublicKey sha256 : Bytes → Bytes)
    (ed25519Sign : Bytes → Bytes → Bytes)
    (signatureLength : ∀ seed message : Bytes, seed.length = 32 →
      (ed25519Sign seed message).length = 64)
    (signingKey : Rpc.SigningKey) (message : Bytes) (builder : Sdk.TransferBuilder)
    (holds : builder.Invariant) (recipientSet : builder.recipientField ≠ none)
    (amountSet : builder.amountField ≠ none) (nonce : Int) (nonNegative : 0 ≤ nonce) :
    let keypair := Rpc.Keypair.init ed25519PublicKey sha256 signingKey
    (∀ (other : Sdk.TransferBuilder) (sender senderPublicKey signature : String) (otherNonce : Int),
      Sdk.RaisesValueError (other.build sender keypair.toPublicKeyHex signature otherNonce) ∧
      Sdk.RaisesValueError
        (other.build sender senderPublicKey (keypair.sign ed25519Sign message) otherNonce)) ∧
    ∃ tx, builder.build keypair.address ("0x" ++ keypair.toPublicKeyHex)
      ("0x" ++ keypair.sign ed25519Sign message) nonce = .ok tx := by
  intro keypair
  refine ⟨fun other _ _ _ _ =>
    ⟨other.build_raises_of_unprefixed _ _ _ _ (.inl (Bool.eq_false_iff.mp (startswith_hex _))),
      other.build_raises_of_unprefixed _ _ _ _ (.inr (Bool.eq_false_iff.mp (startswith_hex _)))⟩,
    ?_⟩
  obtain ⟨recipient, storedRecipient⟩ := Option.ne_none_iff_exists'.mp recipientSet
  obtain ⟨amount, storedAmount⟩ := Option.ne_none_iff_exists'.mp amountSet
  have long : ("0x" ++ keypair.sign ed25519Sign message).length = 130 := by
    simp only [keypair, Rpc.Keypair.init, Rpc.Keypair.sign, String.length_append, hex_length,
      signatureLength _ _ signingKey.seedLength]
    rfl
  simp only [Sdk.TransferBuilder.build, storedRecipient, storedAmount]
  refine ⟨_, (Sdk.postInit_eq_ok_iff _).mpr ?_⟩
  have sender : startswith keypair.address "0x" = true := startswith_publicKeyToAddress _ _
  simp only [Sdk.Transaction.Refused, long, startswith_zero_x_append, sender,
    holds.recipient recipient storedRecipient,
    not_le.mpr (holds.amount amount storedAmount), not_le.mpr holds.fee,
    not_le.mpr holds.gasLimit, not_lt.mpr nonNegative, not_true_eq_false, or_self]
  decide

/-- A keypair under a constant Ed25519 and a builder holding the recipient `0x02` and the amount 5. -/
theorem keypair_hex_needs_prefix_constant :
    let sign : Bytes → Bytes → Bytes := fun _ _ => List.replicate 64 0
    let signingKey : Rpc.SigningKey := ⟨List.replicate 32 1, rfl⟩
    let builder : Sdk.TransferBuilder :=
      { config := {}, recipientField := some "0x02", amountField := some 5, feeField := 1,
        gasLimitField := 1 }
    let keypair := Rpc.Keypair.init id id signingKey
    (∀ seed message : Bytes, seed.length = 32 → (sign seed message).length = 64) ∧
      builder.Invariant ∧ builder.recipientField ≠ none ∧ builder.amountField ≠ none ∧
      (∀ (other : Sdk.TransferBuilder) (sender senderPublicKey signature : String) (otherNonce : Int),
        Sdk.RaisesValueError (other.build sender keypair.toPublicKeyHex signature otherNonce) ∧
        Sdk.RaisesValueError
          (other.build sender senderPublicKey (keypair.sign sign [7]) otherNonce)) ∧
      ∃ tx, builder.build keypair.address ("0x" ++ keypair.toPublicKeyHex)
        ("0x" ++ keypair.sign sign [7]) 0 = .ok tx := by
  intro sign signingKey builder keypair
  have signatureLength : ∀ seed message : Bytes, seed.length = 32 → (sign seed message).length = 64 :=
    fun _ _ _ => List.length_replicate _ _
  have holds : builder.Invariant :=
    ⟨fun _ stored => by cases stored; rfl, fun _ stored => by cases stored; decide, by decide,
      by decide⟩
  exact ⟨signatureLength, holds, nofun, nofun,
    keypair_hex_needs_prefix id id sign signatureLength signingKey [7] builder holds nofun nofun 0
      le_rfl⟩

end Aether
