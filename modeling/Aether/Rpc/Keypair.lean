import Aether.Python.Str

/-!
# Keypairs

A `Keypair` wraps an Ed25519 `nacl.signing.SigningKey`. Such a key is made from a 32-byte seed,
which is what `bytes(signing_key)` gives back and what the SDK calls the secret key; its verify
key is the public key derived from the seed. `Keypair.__init__` sets the public key, the secret key
and the address from the signing key, so every keypair, however it was made, is
`Keypair.init` of a signing key. `SigningKey` carries the seed's length as a field: an invalid key
cannot be built, and every keypair's secret key has 32 bytes.

Ed25519 and SHA-256 are parameters, and nothing is assumed of them for the round trip:
exporting a keypair's secret key with `to_secret_key_hex` gives 64 lowercase hex digits, and
`from_secret_key_hex` reads them back into the same keypair (`Keypair.fromSecretKeyHex_init`),
for every pair of functions. Only that a signature verifies assumes anything of Ed25519: the
lengths of its keys and signatures, and that it verifies what it signs.
-/

namespace Aether.Rpc

open Aether

/-- An Ed25519 signing key, given by its seed. -/
structure SigningKey where
  seed : Bytes
  seedLength : seed.length = 32

/-- A `Keypair`: its signing key and the attributes `__init__` sets from it. -/
structure Keypair where
  signingKey : SigningKey
  publicKey : Bytes
  secretKey : Bytes
  address : String

section Keys

variable (ed25519PublicKey sha256 : Bytes → Bytes)

/-- `nacl.signing.SigningKey(seed)`: a seed of any other length than 32 bytes is refused. -/
def SigningKey.new (seed : Bytes) : Except PyException SigningKey :=
  if seedLength : seed.length = 32 then pure ⟨seed, seedLength⟩
  else throw (.valueError "The seed must be exactly 32 bytes long")

/-- `Keypair.public_key_to_address(public_key)`: `"0x"` and the hex of the last twenty bytes of
the SHA-256 digest. -/
def Keypair.publicKeyToAddress (publicKey : Bytes) : String :=
  let hashBytes := sha256 publicKey
  "0x" ++ hex (hashBytes.drop (hashBytes.length - 20))

/-- `Keypair(signing_key)`: the public key is the verify key's bytes, the secret key the
signing key's. -/
def Keypair.init (signingKey : SigningKey) : Keypair where
  signingKey := signingKey
  publicKey := ed25519PublicKey signingKey.seed
  secretKey := signingKey.seed
  address := Keypair.publicKeyToAddress sha256 (ed25519PublicKey signingKey.seed)

/-- `Keypair.generate()`, given the key `SigningKey.generate()` drew. -/
def Keypair.generate (signingKey : SigningKey) : Keypair :=
  Keypair.init ed25519PublicKey sha256 signingKey

/-- `Keypair.from_secret_key(secret_key)`. -/
def Keypair.fromSecretKey (secretKey : Bytes) : Except PyException Keypair := do
  let signingKey ← SigningKey.new secretKey
  pure (Keypair.init ed25519PublicKey sha256 signingKey)

/-- `Keypair.from_seed(seed)`: the secret key is the SHA-256 digest of the seed's UTF-8 bytes. -/
def Keypair.fromSeed (seed : String) : Except PyException Keypair :=
  Keypair.fromSecretKey ed25519PublicKey sha256 (sha256 (encode seed))

/-- `Keypair.from_secret_key_hex(hex_str)`. -/
def Keypair.fromSecretKeyHex (hexStr : String) : Except PyException Keypair := do
  let secretKey ← fromhex hexStr
  Keypair.fromSecretKey ed25519PublicKey sha256 secretKey

/-- `Keypair.to_secret_key_hex()`. -/
def Keypair.toSecretKeyHex (keypair : Keypair) : String :=
  hex keypair.secretKey

/-- `Keypair.to_public_key_hex()`. -/
def Keypair.toPublicKeyHex (keypair : Keypair) : String :=
  hex keypair.publicKey

section Signatures

variable (ed25519Sign : Bytes → Bytes → Bytes) (ed25519Verify : Bytes → Bytes → Bytes → Bool)

/-- `Keypair.sign(message)`: the hex of the Ed25519 signature of the message under the seed. -/
def Keypair.sign (keypair : Keypair) (message : Bytes) : String :=
  hex (ed25519Sign keypair.signingKey.seed message)

/-- `Keypair.verify(signature, message, public_key)`: every exception is caught and gives
`False`. `VerifyKey(public_key)` refuses a key of any other length than 32 bytes, `bytes.fromhex`
a signature that is not hex, and `verify_key.verify` a signature of any other length than 64
bytes or one that does not check. -/
def Keypair.verify (signature : String) (message publicKey : Bytes) : Bool :=
  publicKey.length == 32 &&
    match fromhex signature with
    | .ok sigBytes => sigBytes.length == 64 && ed25519Verify publicKey message sigBytes
    | .error _ => false

end Signatures

/-- `SigningKey(seed)` returns exactly on a 32-byte seed. -/
theorem SigningKey.new_eq_ok {seed : Bytes} (thirtyTwo : seed.length = 32) :
    SigningKey.new seed = .ok ⟨seed, thirtyTwo⟩ :=
  dif_pos thirtyTwo

/-- `from_secret_key` builds the keypair of the 32-byte seed it is given. -/
theorem Keypair.fromSecretKey_eq_ok {secretKey : Bytes} (thirtyTwo : secretKey.length = 32) :
    Keypair.fromSecretKey ed25519PublicKey sha256 secretKey =
      .ok (Keypair.init ed25519PublicKey sha256 ⟨secretKey, thirtyTwo⟩) := by
  rw [Keypair.fromSecretKey, SigningKey.new_eq_ok thirtyTwo]
  rfl

/-- Every keypair's secret key exports as 64 lowercase hex digits. -/
theorem Keypair.toSecretKeyHex_init (signingKey : SigningKey) :
    (Keypair.init ed25519PublicKey sha256 signingKey).toSecretKeyHex.length = 64 ∧
      ∀ c ∈ (Keypair.init ed25519PublicKey sha256 signingKey).toSecretKeyHex.data,
        c ∈ "0123456789abcdef".data :=
  ⟨by rw [Keypair.toSecretKeyHex, hex_length, Keypair.init, signingKey.seedLength],
    hex_lowercase _⟩

/-- Every keypair is read back from its exported secret key. -/
theorem Keypair.fromSecretKeyHex_init (signingKey : SigningKey) :
    Keypair.fromSecretKeyHex ed25519PublicKey sha256
        (Keypair.init ed25519PublicKey sha256 signingKey).toSecretKeyHex =
      .ok (Keypair.init ed25519PublicKey sha256 signingKey) := by
  rw [Keypair.fromSecretKeyHex, Keypair.toSecretKeyHex, fromhex_hex, ok_bind]
  exact Keypair.fromSecretKey_eq_ok ed25519PublicKey sha256 signingKey.seedLength

/-- For every 32-byte secret key, the keypair `from_secret_key` builds exports its secret key as
64 lowercase hex digits, and `from_secret_key_hex` reads them back into the same keypair: the same
secret key, public key and address. -/
theorem secret_key_hex_round_trip (secretKey : Bytes) (thirtyTwo : secretKey.length = 32) :
    ∃ keypair, Keypair.fromSecretKey ed25519PublicKey sha256 secretKey = .ok keypair ∧
      keypair.toSecretKeyHex.length = 64 ∧
      (∀ c ∈ keypair.toSecretKeyHex.data, c ∈ "0123456789abcdef".data) ∧
      Keypair.fromSecretKeyHex ed25519PublicKey sha256 keypair.toSecretKeyHex = .ok keypair :=
  let exported := Keypair.toSecretKeyHex_init ed25519PublicKey sha256 ⟨secretKey, thirtyTwo⟩
  ⟨_, Keypair.fromSecretKey_eq_ok ed25519PublicKey sha256 thirtyTwo, exported.1, exported.2,
    Keypair.fromSecretKeyHex_init ed25519PublicKey sha256 _⟩

/-- The round trip on the secret key of thirty-two sevens. -/
theorem secret_key_hex_round_trip_sevens :
    (List.replicate 32 (7 : UInt8)).length = 32 ∧
      ∃ keypair, Keypair.fromSecretKey id id (List.replicate 32 7) = .ok keypair ∧
        keypair.toSecretKeyHex.length = 64 ∧
        (∀ c ∈ keypair.toSecretKeyHex.data, c ∈ "0123456789abcdef".data) ∧
        Keypair.fromSecretKeyHex id id keypair.toSecretKeyHex = .ok keypair :=
  ⟨rfl, secret_key_hex_round_trip id id (List.replicate 32 7) rfl⟩

/-- Whatever public key it is given, `public_key_to_address` writes `0x` and forty lowercase hex
digits, when SHA-256's digests have at least twenty bytes. -/
theorem address_is_forty_hex_digits (digestLength : ∀ data, 20 ≤ (sha256 data).length)
    (publicKey : Bytes) :
    ∃ digits, Keypair.publicKeyToAddress sha256 publicKey = "0x" ++ digits ∧
      digits.length = 40 ∧ ∀ c ∈ digits.data, c ∈ "0123456789abcdef".data := by
  refine ⟨_, rfl, ?_, hex_lowercase _⟩
  have long := digestLength publicKey
  rw [hex_length, List.length_drop]
  omega

/-- The address of the empty public key under a digest of thirty-two zero bytes. -/
theorem address_is_forty_hex_digits_zeros :
    let sha256 : Bytes → Bytes := fun _ => List.replicate 32 0
    (∀ data, 20 ≤ (sha256 data).length) ∧
      ∃ digits, Keypair.publicKeyToAddress sha256 [] = "0x" ++ digits ∧
        digits.length = 40 ∧ ∀ c ∈ digits.data, c ∈ "0123456789abcdef".data := by
  intro sha256
  have digestLength : ∀ data, 20 ≤ (sha256 data).length := fun _ => by
    simp only [sha256, List.length_replicate]
    decide
  exact ⟨digestLength, address_is_forty_hex_digits sha256 digestLength []⟩

section Signatures

variable (ed25519Sign : Bytes → Bytes → Bytes) (ed25519Verify : Bytes → Bytes → Bytes → Bool)

/-- What is assumed of Ed25519 where a signature must verify: from a 32-byte seed it derives a
32-byte public key and 64-byte signatures, and it verifies what it signs. -/
structure Ed25519Correct : Prop where
  publicKeyLength : ∀ seed : Bytes, seed.length = 32 → (ed25519PublicKey seed).length = 32
  signatureLength : ∀ seed message : Bytes, seed.length = 32 →
    (ed25519Sign seed message).length = 64
  verifies : ∀ seed message : Bytes, seed.length = 32 →
    ed25519Verify (ed25519PublicKey seed) message (ed25519Sign seed message) = true

/-- Under such an Ed25519, the hex of a seed's signature of a message verifies against the seed's
public key: `bytes.fromhex` reads back what `hex()` wrote. -/
theorem Ed25519Correct.verify_hex_sign
    (correct : Ed25519Correct ed25519PublicKey ed25519Sign ed25519Verify)
    (signingKey : SigningKey) (message : Bytes) :
    Keypair.verify ed25519Verify (hex (ed25519Sign signingKey.seed message)) message
      (ed25519PublicKey signingKey.seed) = true := by
  have seeded := signingKey.seedLength
  simp only [Keypair.verify, fromhex_hex, correct.publicKeyLength _ seeded,
    correct.signatureLength _ _ seeded, correct.verifies _ _ seeded, beq_self_eq_true,
    Bool.and_self]

/-- Under an Ed25519 whose public keys have 32 bytes and whose signatures have 64, and which
verifies what it signs, every keypair's signature of any message verifies against the keypair's
public key. -/
theorem keypair_signature_verifies
    (publicKeyLength : ∀ seed : Bytes, seed.length = 32 → (ed25519PublicKey seed).length = 32)
    (signatureLength : ∀ seed message : Bytes, seed.length = 32 →
      (ed25519Sign seed message).length = 64)
    (verifies : ∀ seed message : Bytes, seed.length = 32 →
      ed25519Verify (ed25519PublicKey seed) message (ed25519Sign seed message) = true)
    (signingKey : SigningKey) (message : Bytes) :
    Keypair.verify ed25519Verify
        ((Keypair.init ed25519PublicKey sha256 signingKey).sign ed25519Sign message) message
        (Keypair.init ed25519PublicKey sha256 signingKey).publicKey = true :=
  Ed25519Correct.verify_hex_sign ed25519PublicKey ed25519Sign ed25519Verify
    ⟨publicKeyLength, signatureLength, verifies⟩ signingKey message

/-- A keypair's signature under a constant Ed25519 that meets the assumptions. -/
theorem keypair_signature_verifies_constant :
    let publicKey : Bytes → Bytes := fun _ => List.replicate 32 0
    let sign : Bytes → Bytes → Bytes := fun _ _ => List.replicate 64 0
    let verify : Bytes → Bytes → Bytes → Bool := fun _ _ signature => signature == sign [] []
    let keypair := Keypair.init publicKey id ⟨List.replicate 32 1, rfl⟩
    (∀ seed : Bytes, seed.length = 32 → (publicKey seed).length = 32) ∧
      (∀ seed message : Bytes, seed.length = 32 → (sign seed message).length = 64) ∧
      (∀ seed message : Bytes, seed.length = 32 →
        verify (publicKey seed) message (sign seed message) = true) ∧
      Keypair.verify verify (keypair.sign sign [7]) [7] keypair.publicKey = true := by
  intro publicKey sign verify keypair
  have publicKeyLength : ∀ seed : Bytes, seed.length = 32 → (publicKey seed).length = 32 :=
    fun _ _ => List.length_replicate _ _
  have signatureLength : ∀ seed message : Bytes, seed.length = 32 →
      (sign seed message).length = 64 :=
    fun _ _ _ => List.length_replicate _ _
  have verifies : ∀ seed message : Bytes, seed.length = 32 →
      verify (publicKey seed) message (sign seed message) = true :=
    fun _ _ _ => beq_self_eq_true _
  exact ⟨publicKeyLength, signatureLength, verifies, keypair_signature_verifies publicKey id sign
    verify publicKeyLength signatureLength verifies _ [7]⟩

end Signatures

end Keys

end Aether.Rpc
