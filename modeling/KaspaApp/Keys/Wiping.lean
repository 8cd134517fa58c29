import KaspaApp.Hashing.Preimages
import KaspaApp.Library.Statements
import KaspaApp.Session.SigningFailures

/-! What the two signing functions leave of the private key that they derive. They clear it in the
`FINALLY` clause of an exception block, which a `return` inside the block skips.
-/

namespace KaspaApp

open Statements

variable {target : Target} {Key : Type} [Zero Key]

-----------------------------------------------------------------------------------------
-- The statements of the two functions
-----------------------------------------------------------------------------------------

/-- The calls of the two functions, with any outcome. The private key is what the SDK makes of
it; the input that `calc_sighash` gets a pointer to is given by its index.
-/
structure SigningCalls (Key : Type) (target : Target) where
  bip32DeriveInitPrivkey256 : List UInt32 → UInt32 × Key
  cxEcfpGeneratePairNoThrow : Key → UInt32 × Bytes 65
  calcSighash : Transaction target → Nat → Bytes 32 → Bytes 32 → Option (Bytes 32)
  hashPersonalMessage : List UInt8 → Bytes 32 → Option (Bytes 32)
  cxEcschnorrSignNoThrow : Key → Bytes 32 → UInt32 × Bytes maxDerSigLen

/-- The global context and the locals of a signing function. A local that is not declared yet
has the value of its declaration.
-/
structure SigningFrame (Key : Type) (target : Target) where
  ctx : GlobalCtx target
  privateKey : Key
  publicKey : Bytes 65
  error : UInt32

def SigningFrame.start (ctx : GlobalCtx target) : SigningFrame Key target :=
  { ctx := ctx, privateKey := 0, publicKey := Bytes.zero 65, error := cxOk }

section

variable (calls : SigningCalls Key target) (stray : Stray)

/-- The path of the input that is signed. -/
def signedInputPath (ctx : GlobalCtx target) : Vector UInt32 kaspaMaxBip32PathLen :=
  let tx := ctx.txInfo.transaction
  let txin := tx.input stray ctx.txInfo.signingInputIndex.toNat
  walletPath tx.account txin.addressType.toUInt32 txin.addressIndex

def setSigningPath (frame : SigningFrame Key target) : SigningFrame Key target :=
  { frame with ctx := frame.ctx.withPath (signedInputPath stray frame.ctx) }

/-- `bip32_derive_init_privkey_256`, with the path of the context. -/
def derivePrivateKey (frame : SigningFrame Key target) : SigningFrame Key target :=
  let (error, privateKey) := calls.bip32DeriveInitPrivkey256 frame.ctx.path
  { frame with error := error, privateKey := privateKey }

def clearSignature (frame : SigningFrame Key target) : SigningFrame Key target :=
  { frame with
    ctx :=
      { frame.ctx with
        txInfo :=
          { frame.ctx.txInfo with
            sighash := Bytes.zero 32
            signature := Bytes.zero maxDerSigLen } } }

def generateKeyPair (frame : SigningFrame Key target) : SigningFrame Key target :=
  let (error, publicKey) := calls.cxEcfpGeneratePairNoThrow frame.privateKey
  { frame with error := error, publicKey := publicKey }

/-- `calc_sighash`, which returns false where there is no hash. -/
def storeSighash (frame : SigningFrame Key target) : Option (SigningFrame Key target) :=
  let txInfo := frame.ctx.txInfo
  (calls.calcSighash txInfo.transaction txInfo.signingInputIndex.toNat
    (keyBytes frame.publicKey 1) txInfo.sighash).map fun sighash =>
      { frame with ctx := { frame.ctx with txInfo := { txInfo with sighash := sighash } } }

def signSighash (frame : SigningFrame Key target) : SigningFrame Key target :=
  let (error, signature) :=
    calls.cxEcschnorrSignNoThrow frame.privateKey frame.ctx.txInfo.sighash
  { frame with
    error := error
    ctx := { frame.ctx with txInfo := { frame.ctx.txInfo with signature := signature } } }

/-- `hash_personal_message`. -/
def storeMessageHash (frame : SigningFrame Key target) : Option (SigningFrame Key target) :=
  (calls.hashPersonalMessage frame.ctx.signedMessage frame.ctx.msgInfo.messageHash).map
    fun messageHash =>
      { frame with
        ctx :=
          { frame.ctx with msgInfo := { frame.ctx.msgInfo with messageHash := messageHash } } }

def signMessageHash (frame : SigningFrame Key target) : SigningFrame Key target :=
  let (error, signature) :=
    calls.cxEcschnorrSignNoThrow frame.privateKey frame.ctx.msgInfo.messageHash
  { frame with
    error := error
    ctx := { frame.ctx with msgInfo := { frame.ctx.msgInfo with signature := signature } } }

def wipePublicKey (frame : SigningFrame Key target) : SigningFrame Key target :=
  { frame with publicKey := Bytes.zero 65 }

def wipePrivateKey (frame : SigningFrame Key target) : SigningFrame Key target :=
  { frame with privateKey := 0 }

/-- The body of `crypto_sign_transaction`. -/
def cryptoSignTransactionBody : Statement (SigningFrame Key target) UInt32 :=
  block
    [ assign (setSigningPath stray),
      assign (derivePrivateKey calls),
      ifThen (fun frame => frame.error ≠ cxOk) (ret SigningFrame.error),
      tryFinally
        (block
          [ assign clearSignature,
            assign (generateKeyPair calls),
            ifThen (fun frame => frame.error ≠ cxOk) (ret SigningFrame.error),
            callElseReturn (storeSighash calls) 0xFFFFFFFF,
            assign (signSighash calls) ])
        (block [assign wipePublicKey, assign wipePrivateKey]),
      ret SigningFrame.error ]

/-- The body of `crypto_sign_personal_message`. -/
def cryptoSignPersonalMessageBody : Statement (SigningFrame Key target) UInt32 :=
  block
    [ callElseReturn (storeMessageHash calls) 0xFFFFFFFF,
      assign (derivePrivateKey calls),
      tryFinally (assign (signMessageHash calls)) (assign wipePrivateKey),
      ret SigningFrame.error ]

end

/-- An array that `explicit_bzero` has cleared. -/
instance {count : Nat} : Zero (Bytes count) := ⟨Bytes.zero count⟩

/-- The calls as an environment answers them. -/
def Env.signingCalls (env : Env) (target : Target) : SigningCalls (Bytes 32) target :=
  {
    bip32DeriveInitPrivkey256 := env.bip32DeriveInitPrivkey256
    cxEcfpGeneratePairNoThrow := env.cxEcfpGeneratePairNoThrow
    calcSighash := fun tx index publicKey outHash =>
      let stray := env.stray .calcSighash
      calcSighash env.blake2b stray tx (tx.input stray index) publicKey outHash 32
    hashPersonalMessage := fun message outHash =>
      hashPersonalMessage env.blake2b message outHash 32
    cxEcschnorrSignNoThrow := env.cxEcschnorrSignNoThrow
  }

section

variable (calls : SigningCalls Key target) (stray : Stray) (ctx : GlobalCtx target)

/-- The outcomes of the calls, each on the results of the earlier ones. -/
def SigningCalls.key : UInt32 × Key :=
  calls.bip32DeriveInitPrivkey256 (signedInputPath stray ctx).toList

def SigningCalls.keyPair : UInt32 × Bytes 65 :=
  calls.cxEcfpGeneratePairNoThrow (calls.key stray ctx).2

def SigningCalls.sighash : Option (Bytes 32) :=
  calls.calcSighash ctx.txInfo.transaction ctx.txInfo.signingInputIndex.toNat
    (keyBytes (calls.keyPair stray ctx).2 1) (Bytes.zero 32)

/-- The frames behind the derivation, behind the generation of the key pair, and at the end. -/
def derivedFrame : SigningFrame Key target :=
  {
    ctx := ctx.withPath (signedInputPath stray ctx)
    privateKey := (calls.key stray ctx).2
    publicKey := Bytes.zero 65
    error := (calls.key stray ctx).1
  }

def pairedFrame : SigningFrame Key target :=
  {
    ctx :=
      ctx.withSignature (signedInputPath stray ctx) (Bytes.zero maxDerSigLen) (Bytes.zero 32)
    privateKey := (calls.key stray ctx).2
    publicKey := (calls.keyPair stray ctx).2
    error := (calls.keyPair stray ctx).1
  }

def signedFrame (sighash : Bytes 32) : SigningFrame Key target :=
  let (error, signature) := calls.cxEcschnorrSignNoThrow (calls.key stray ctx).2 sighash
  {
    ctx := ctx.withSignature (signedInputPath stray ctx) signature sighash
    privateKey := 0
    publicKey := Bytes.zero 65
    error := error
  }

theorem derivePrivateKey_setSigningPath
    : derivePrivateKey calls (setSigningPath stray (.start ctx)) = derivedFrame calls stray ctx := by
  simp only [derivePrivateKey, setSigningPath, GlobalCtx.path_withPath]
  rfl

omit [Zero Key] in
theorem generateKeyPair_clearSignature
    : generateKeyPair calls (clearSignature (derivedFrame calls stray ctx))
      = pairedFrame calls stray ctx :=
  rfl

/-- The four places at which `crypto_sign_transaction` returns, with the frames there. -/
theorem cryptoSignTransactionBody_returns_iff (condition : UInt32 → SigningFrame Key target → Prop)
    : Returns (cryptoSignTransactionBody calls stray) (.start ctx) condition
      ↔ ((calls.key stray ctx).1 ≠ cxOk
          → condition (calls.key stray ctx).1 (derivedFrame calls stray ctx))
        ∧ ((calls.key stray ctx).1 = cxOk
          → ((calls.keyPair stray ctx).1 ≠ cxOk
              → condition (calls.keyPair stray ctx).1 (pairedFrame calls stray ctx))
            ∧ ((calls.keyPair stray ctx).1 = cxOk
              → (∀ sighash ∈ calls.sighash stray ctx,
                  condition (signedFrame calls stray ctx sighash).error
                    (signedFrame calls stray ctx sighash))
                ∧ (calls.sighash stray ctx = none
                  → condition 0xFFFFFFFF (pairedFrame calls stray ctx)))) := by
  have stored
      : storeSighash calls (pairedFrame calls stray ctx)
        = (calls.sighash stray ctx).map fun sighash =>
            { pairedFrame calls stray ctx with
              ctx :=
                ctx.withSignature (signedInputPath stray ctx) (Bytes.zero maxDerSigLen) sighash } :=
    rfl
  simp only [Returns, cryptoSignTransactionBody, wp_block_cons, wp_block_nil, wp_assign,
    wp_ifThen, wp_ret, wp_tryFinally, wp_callElseReturn, not_not,
    derivePrivateKey_setSigningPath, generateKeyPair_clearSignature, stored, Option.mem_def,
    Option.map_eq_some_iff, Option.map_eq_none_iff, forall_exists_index, and_imp,
    forall_apply_eq_imp_iff₂]
  rfl

/-- The two places at which `crypto_sign_personal_message` returns. -/
theorem cryptoSignPersonalMessageBody_returns_iff
    (condition : UInt32 → SigningFrame Key target → Prop)
    : Returns (cryptoSignPersonalMessageBody calls) (.start ctx) condition
      ↔ (∀ hashed ∈ storeMessageHash calls (.start ctx),
          condition (signMessageHash calls (derivePrivateKey calls hashed)).error
            (wipePrivateKey (signMessageHash calls (derivePrivateKey calls hashed))))
        ∧ (storeMessageHash calls (.start ctx) = none → condition 0xFFFFFFFF (.start ctx)) := by
  simp only [Returns, cryptoSignPersonalMessageBody, wp_block_cons, wp_assign, wp_ret,
    wp_tryFinally, wp_callElseReturn]
  rfl

end

theorem sighash_signingCalls (env : Env) (ctx : GlobalCtx target)
    : (env.signingCalls target).sighash (env.stray .cryptoSign) ctx = transactionHash env ctx :=
  rfl

/-- The statements compute the results of the two functions. -/
theorem cryptoSignTransactionBody_returns (env : Env) (ctx : GlobalCtx target)
    : Returns (cryptoSignTransactionBody (env.signingCalls target) (env.stray .cryptoSign))
        (.start ctx) fun error frame => (error, frame.ctx) = cryptoSignTransaction env ctx := by
  rw [cryptoSignTransactionBody_returns_iff, cryptoSignTransaction_eq, sighash_signingCalls]
  refine ⟨fun failed => ?_, fun derived => ⟨fun failed => ?_, fun paired => ⟨?_, ?_⟩⟩⟩
  · exact (if_pos failed).symm
  · exact ((if_neg (not_not.mpr derived)).trans (if_pos failed)).symm
  · intro sighash found
    refine ((if_neg (not_not.mpr derived)).trans ((if_neg (not_not.mpr paired)).trans ?_)).symm
    rw [found]
    rfl
  · intro failed
    refine ((if_neg (not_not.mpr derived)).trans ((if_neg (not_not.mpr paired)).trans ?_)).symm
    rw [failed]
    rfl

theorem cryptoSignPersonalMessageBody_returns (env : Env) (ctx : GlobalCtx target)
    : Returns (cryptoSignPersonalMessageBody (env.signingCalls target)) (.start ctx)
        fun error frame => (error, frame.ctx) = cryptoSignPersonalMessage env ctx := by
  have hash
      : storeMessageHash (env.signingCalls target) (.start ctx)
        = (messageHash env ctx).map fun hash =>
            ⟨ctx.withMsgInfo { ctx.msgInfo with messageHash := hash }, 0, Bytes.zero 65, cxOk⟩ :=
    rfl
  rw [cryptoSignPersonalMessageBody_returns_iff, cryptoSignPersonalMessage_eq, hash]
  constructor
  · intro frame hashed
    obtain ⟨digest, found, rfl⟩ := Option.map_eq_some_iff.mp hashed
    rw [found]
    rfl
  · intro failed
    rw [Option.map_eq_none_iff.mp failed]
    rfl

-----------------------------------------------------------------------------------------
-- What is left of the key
-----------------------------------------------------------------------------------------

/-- The function returns, and its private key is zero then. -/
def WipesKey (body : Statement (SigningFrame Key target) UInt32) (ctx : GlobalCtx target) : Prop :=
  Returns body (.start ctx) fun _ frame => frame.privateKey = 0

/-- A derivation that fails leaves the key structure zero. -/
def FailuresLeaveZero (calls : SigningCalls Key target) : Prop :=
  ∀ path,
    (calls.bip32DeriveInitPrivkey256 path).1 ≠ cxOk
    → (calls.bip32DeriveInitPrivkey256 path).2 = 0

/-- No call fails between the derivation of a key and its use. -/
def KeyReachesSignature (calls : SigningCalls Key target) (stray : Stray) (ctx : GlobalCtx target)
    : Prop :=
  (calls.key stray ctx).1 = cxOk
  → (calls.key stray ctx).2 ≠ 0
  → (calls.keyPair stray ctx).1 = cxOk ∧ (calls.sighash stray ctx).isSome

/-- `crypto_sign_transaction` leaves a key exactly where a `return` inside its block is taken with
one: the clause behind the block is skipped.
-/
theorem cryptoSignTransactionBody_wipesKey_iff {calls : SigningCalls Key target} (stray : Stray)
    (ctx : GlobalCtx target) (failures : FailuresLeaveZero calls)
    : WipesKey (cryptoSignTransactionBody calls stray) ctx
      ↔ KeyReachesSignature calls stray ctx := by
  rw [WipesKey, cryptoSignTransactionBody_returns_iff]
  constructor
  · rintro ⟨-, wiped⟩ derived held
    obtain ⟨unpaired, paired⟩ := wiped derived
    have pair : (calls.keyPair stray ctx).1 = cxOk := by
      by_contra failed
      exact held (unpaired failed)
    refine ⟨pair, Option.isSome_iff_ne_none.mpr fun failed => ?_⟩
    exact held ((paired pair).2 failed)
  · intro reaches
    refine ⟨failures _, fun derived => ?_⟩
    by_cases held : (calls.key stray ctx).2 = 0
    · exact ⟨fun _ => held, fun _ => ⟨fun _ _ => rfl, fun _ => held⟩⟩
    · obtain ⟨paired, hashed⟩ := reaches derived held
      refine ⟨fun failed => absurd paired failed, fun _ => ⟨fun _ _ => rfl, fun failed => ?_⟩⟩
      exact absurd failed (Option.isSome_iff_ne_none.mp hashed)

/-- `crypto_sign_personal_message` returns before it has a key, or behind its block. -/
theorem cryptoSignPersonalMessageBody_wipesKey (calls : SigningCalls Key target)
    (ctx : GlobalCtx target)
    : WipesKey (cryptoSignPersonalMessageBody calls) ctx := by
  simp only [WipesKey, Returns, cryptoSignPersonalMessageBody, wp_block_cons, wp_callElseReturn,
    wp_assign]
  refine ⟨fun hashed _ => ?_, fun _ => rfl⟩
  rw [wp_tryFinally_of_establishes]
  · simp only [wp_assign]
  · intro after
    simp only [wp_assign, wp_block_cons, wp_ret]
    rfl

/-- Whatever the calls return, the private key is zero when the message function returns, and when
the transaction function returns exactly if no call fails between the derivation of a key and the
signature.
-/
theorem privateKeys_wiped_iff (calls : SigningCalls Key target) (stray : Stray)
    (ctx : GlobalCtx target) (failures : FailuresLeaveZero calls)
    : (WipesKey (cryptoSignTransactionBody calls stray) ctx
        ↔ KeyReachesSignature calls stray ctx)
      ∧ WipesKey (cryptoSignPersonalMessageBody calls) ctx :=
  ⟨cryptoSignTransactionBody_wipesKey_iff stray ctx failures,
    cryptoSignPersonalMessageBody_wipesKey calls ctx⟩

/-- `calc_sighash` fails for a buffer that is too short, and `crypto_sign_transaction` has one of
32 bytes.
-/
theorem transactionHash_isSome (env : Env) (ctx : GlobalCtx target)
    : (transactionHash env ctx).isSome := by
  simp only [transactionHash, calcSighash_eq _ _ _ _ _ _ (le_refl 32)]
  rfl

/-- An environment that derives a key and in which every call succeeds. -/
def holdingKey : Env :=
  { Env.succeeding with bip32DeriveInitPrivkey256 := fun _ => (cxOk, Vector.replicate 32 1) }

theorem privateKeys_wiped_iff_sample
    : WipesKey
          (cryptoSignTransactionBody (holdingKey.signingCalls .nanos)
            (holdingKey.stray .cryptoSign))
          (.zero .nanos)
      ∧ WipesKey (cryptoSignPersonalMessageBody (holdingKey.signingCalls .nanos))
          (.zero .nanos) := by
  have reaches
      : KeyReachesSignature (holdingKey.signingCalls .nanos) (holdingKey.stray .cryptoSign)
          (.zero .nanos) := by
    refine fun _ _ => ⟨rfl, ?_⟩
    rw [sighash_signingCalls]
    exact transactionHash_isSome holdingKey (.zero .nanos)
  have failures : FailuresLeaveZero (holdingKey.signingCalls .nanos) :=
    fun _ failed => absurd rfl failed
  obtain ⟨transaction, message⟩ :=
    privateKeys_wiped_iff (holdingKey.signingCalls .nanos) (holdingKey.stray .cryptoSign)
      (.zero .nanos) failures
  exact ⟨transaction.mpr reaches, message⟩

/-- An environment that derives a key and generates no key pair. -/
def unpairable : Env :=
  { holdingKey with cxEcfpGeneratePairNoThrow := fun _ => (1, Bytes.zero 65) }

/-- The transaction function returns inside its block and leaves the key. -/
theorem leaves_private_key
    : ¬ ∀ (target : Target) (calls : SigningCalls (Bytes 32) target) (stray : Stray)
          (ctx : GlobalCtx target),
          FailuresLeaveZero calls
          → WipesKey (cryptoSignTransactionBody calls stray) ctx
            ∧ WipesKey (cryptoSignPersonalMessageBody calls) ctx := by
  intro claim
  have failures : FailuresLeaveZero (unpairable.signingCalls .nanos) :=
    fun _ failed => absurd rfl failed
  have wiped :=
    (claim .nanos (unpairable.signingCalls .nanos) (unpairable.stray .cryptoSign) (.zero .nanos)
      failures).1
  have reaches := (cryptoSignTransactionBody_wipesKey_iff _ _ failures).mp wiped
  have held : (Vector.replicate 32 1 : Bytes 32) ≠ 0 := by decide
  have paired := (reaches rfl held).1
  exact absurd paired (by decide : (1 : UInt32) ≠ cxOk)

/-- `calc_sighash` does not fail, so only the generation of the key pair makes
`crypto_sign_transaction` leave a key.
-/
theorem wipesKey_iff_paired (env : Env) (ctx : GlobalCtx target)
    (failures : FailuresLeaveZero (env.signingCalls target))
    : WipesKey (cryptoSignTransactionBody (env.signingCalls target) (env.stray .cryptoSign)) ctx
      ↔ ((transactionKey env ctx).1 = cxOk
        → (transactionKey env ctx).2 ≠ 0
        → (transactionKeyPair env ctx).1 = cxOk) := by
  rw [cryptoSignTransactionBody_wipesKey_iff _ _ failures]
  refine forall₂_congr fun _ _ => ?_
  rw [sighash_signingCalls]
  exact and_iff_left (transactionHash_isSome env ctx)

end KaspaApp
