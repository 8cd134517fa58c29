import KaspaApp.Messages.Payloads
import KaspaApp.Session.SigningSession

/-! How the outcomes of the SDK calls are reported. The two signing functions share one error
variable across their calls; for a message, the signing call overwrites the error of the key
derivation.
-/

namespace KaspaApp

variable {target : Target} {frontEnd : FrontEnd} {env : Env} {ctx : GlobalCtx target}

/-- A failure of a call can be told from `SW_OK` in the status word that reports it. -/
def Visible (error : UInt32) : Prop := error ≠ cxOk → error.toUInt16 ≠ swOk

theorem visible_of_ok {error : UInt32} (ok : error = cxOk) : Visible error :=
  fun failed => absurd ok failed

theorem visible_iff {error : UInt32} (failed : error ≠ cxOk)
    : Visible error ↔ error.toUInt16 ≠ swOk :=
  forall_prop_of_true failed

/-- A signature is sent only after `succeeded`; otherwise an error is reported, the state is
reset and the signing index stays.
-/
structure SigningReported (succeeded : Prop) (before : GlobalCtx target)
    (result : GlobalCtx target × List Effect) : Prop where
  signed
    : (∃ reply : Reply,
        Effect.reply reply ∈ result.2 ∧ (reply.IsTransactionSig ∨ reply.IsMessageSig))
      → succeeded
  failed
    : ¬ succeeded
      → ∃ code,
          code ≠ swOk
          ∧ result.2 = ioSendSw code
          ∧ result.1.state = .stateNone
          ∧ result.1.txInfo.signingInputIndex = before.txInfo.signingInputIndex

/-- After a success there is nothing to report. -/
theorem signingReported_of_succeeded {succeeded : Prop} {result : GlobalCtx target × List Effect}
    (success : succeeded)
    : SigningReported succeeded ctx result :=
  ⟨fun _ => success, fun failure => absurd success failure⟩

/-- A status word reports a failure exactly if it is not `SW_OK`. -/
theorem signingReported_word_iff {succeeded : Prop} {after : GlobalCtx target} {code : UInt16}
    (failure : ¬ succeeded) (state : after.state = .stateNone)
    (index : after.txInfo.signingInputIndex = ctx.txInfo.signingInputIndex)
    : SigningReported succeeded ctx (after, ioSendSw code) ↔ code ≠ swOk := by
  constructor
  · intro reported
    obtain ⟨other, wrong, same, -⟩ := reported.failed failure
    simp only [ioSendSw, List.cons.injEq, Effect.reply.injEq, Reply.sw.injEq, and_true] at same
    rwa [same]
  · intro wrong
    refine ⟨?_, fun _ => ⟨code, wrong, rfl, state, index⟩⟩
    rintro ⟨reply, member, signature⟩
    simp only [ioSendSw, List.mem_singleton, Effect.reply.injEq] at member
    subst member
    exact (signature.elim id id).elim

/-- Only the signing index of the context before matters. -/
theorem signingReported_congr {succeeded other : Prop} {before start : GlobalCtx target}
    {result : GlobalCtx target × List Effect} (same : succeeded ↔ other)
    (index : before.txInfo.signingInputIndex = start.txInfo.signingInputIndex)
    : SigningReported succeeded before result ↔ SigningReported other start result := by
  constructor
  · intro reported
    exact ⟨fun sent => same.mp (reported.signed sent),
      fun failed => index ▸ reported.failed (fun success => failed (same.mp success))⟩
  · intro reported
    exact ⟨fun sent => same.mpr (reported.signed sent),
      fun failed => index.symm ▸ reported.failed (fun success => failed (same.mpr success))⟩

section

variable (env : Env) (ctx : GlobalCtx target)

/-- The calls of `crypto_sign_transaction`, each on the results of the earlier ones. -/
def transactionKey : UInt32 × Bytes 32 :=
  env.bip32DeriveInitPrivkey256 (signingPath env ctx).toList

def transactionKeyPair : UInt32 × Bytes 65 :=
  env.cxEcfpGeneratePairNoThrow (transactionKey env ctx).2

def transactionHash : Option (Bytes 32) :=
  let tx := ctx.txInfo.transaction
  let stray := env.stray .calcSighash
  calcSighash env.blake2b stray tx (tx.input stray ctx.txInfo.signingInputIndex.toNat)
    (keyBytes (transactionKeyPair env ctx).2 1) (Bytes.zero 32) 32

def transactionSignature (sighash : Bytes 32) : UInt32 × Bytes maxDerSigLen :=
  env.cxEcschnorrSignNoThrow (transactionKey env ctx).2 sighash

/-- Every step of `crypto_sign_transaction` succeeds. -/
structure TransactionSigned : Prop where
  derived : (transactionKey env ctx).1 = cxOk
  paired : (transactionKeyPair env ctx).1 = cxOk
  signed
    : ∃ sighash ∈ transactionHash env ctx, (transactionSignature env ctx sighash).1 = cxOk

/-- The first call that fails, if any, fails with a visible error. -/
def TransactionErrorsVisible : Prop :=
  Visible (transactionKey env ctx).1
  ∧ ((transactionKey env ctx).1 = cxOk
    → Visible (transactionKeyPair env ctx).1
      ∧ ((transactionKeyPair env ctx).1 = cxOk
        → ∀ sighash ∈ transactionHash env ctx,
            Visible (transactionSignature env ctx sighash).1))

end

/-- `crypto_sign_transaction` in terms of its calls. -/
theorem cryptoSignTransaction_eq (env : Env) (ctx : GlobalCtx target)
    : cryptoSignTransaction env ctx
      = if (transactionKey env ctx).1 ≠ cxOk then
          ((transactionKey env ctx).1, ctx.withPath (signingPath env ctx))
        else if (transactionKeyPair env ctx).1 ≠ cxOk then
          ((transactionKeyPair env ctx).1,
            ctx.withSignature (signingPath env ctx) (Bytes.zero maxDerSigLen) (Bytes.zero 32))
        else
          match transactionHash env ctx with
          | none =>
              (0xFFFFFFFF,
                ctx.withSignature (signingPath env ctx) (Bytes.zero maxDerSigLen) (Bytes.zero 32))
          | some sighash =>
              ((transactionSignature env ctx sighash).1,
                ctx.withSignature (signingPath env ctx) (transactionSignature env ctx sighash).2
                  sighash) := by
  unfold cryptoSignTransaction
  simp only [GlobalCtx.path_withPath]
  rfl

/-- The error that `crypto_sign_transaction` returns is 0 exactly if every step succeeds. -/
theorem cryptoSignTransaction_ok_iff (env : Env) (ctx : GlobalCtx target)
    : (cryptoSignTransaction env ctx).1 = 0 ↔ TransactionSigned env ctx := by
  rw [cryptoSignTransaction_eq]
  by_cases derived : (transactionKey env ctx).1 = cxOk
  · rw [if_neg (not_not.mpr derived)]
    by_cases paired : (transactionKeyPair env ctx).1 = cxOk
    · rw [if_neg (not_not.mpr paired)]
      cases hashed : transactionHash env ctx with
      | none =>
          refine iff_of_false (by simp) fun signs => ?_
          obtain ⟨sighash, found, -⟩ := signs.signed
          rw [hashed] at found
          simp at found
      | some sighash =>
          constructor
          · intro ok
            exact ⟨derived, paired, sighash, hashed, ok⟩
          · intro signs
            obtain ⟨other, found, ok⟩ := signs.signed
            obtain rfl : sighash = other := Option.some.inj (hashed.symm.trans found)
            exact ok
    · rw [if_pos paired]
      exact iff_of_false paired fun signs => paired signs.paired
  · rw [if_pos derived]
    exact iff_of_false derived fun signs => derived signs.derived

/-- A success stores the path, the hash and the signature that the calls returned. -/
theorem cryptoSignTransaction_signed {start signed : GlobalCtx target}
    (result : cryptoSignTransaction env start = (0, signed))
    : TransactionSigned env start
      ∧ ∃ sighash,
          transactionHash env start = some sighash
          ∧ (transactionSignature env start sighash).1 = cxOk
          ∧ signed
            = start.withSignature (signingPath env start)
                (transactionSignature env start sighash).2 sighash := by
  have signs : TransactionSigned env start := by
    apply (cryptoSignTransaction_ok_iff env start).mp
    rw [result]
  obtain ⟨sighash, hashed, ok⟩ := signs.signed
  refine ⟨signs, sighash, hashed, ok, ?_⟩
  have left := congrArg Prod.snd result
  rw [cryptoSignTransaction_eq, if_neg (not_not.mpr signs.derived),
    if_neg (not_not.mpr signs.paired), hashed] at left
  exact left.symm

/-- `sign_input_and_send` after a success: the signature is sent, then the input is counted. -/
theorem signInputAndSend_signed {start signed : GlobalCtx target}
    (result : cryptoSignTransaction env start = (0, signed))
    : signInputAndSend env start = (signed.nextInput, helperSendResponseSig signed) := by
  simp only [signInputAndSend, result]
  rfl

/-- The state has no part in the calls. -/
theorem transactionSigned_withState (state : State)
    : TransactionSigned env (ctx.withState state) ↔ TransactionSigned env ctx :=
  ⟨fun signed => ⟨signed.derived, signed.paired, signed.signed⟩,
    fun signed => ⟨signed.derived, signed.paired, signed.signed⟩⟩

/-- The error that is returned is visible exactly if the first failing call's is. -/
theorem visible_cryptoSignTransaction_iff (env : Env) (ctx : GlobalCtx target)
    : Visible (cryptoSignTransaction env ctx).1 ↔ TransactionErrorsVisible env ctx := by
  rw [cryptoSignTransaction_eq, TransactionErrorsVisible]
  by_cases derived : (transactionKey env ctx).1 = cxOk
  · rw [if_neg (not_not.mpr derived)]
    by_cases paired : (transactionKeyPair env ctx).1 = cxOk
    · rw [if_neg (not_not.mpr paired)]
      cases hashed : transactionHash env ctx with
      | none =>
          have unhashed : Visible 0xFFFFFFFF := fun _ => by decide
          simp [unhashed, visible_of_ok derived, visible_of_ok paired]
      | some sighash => simp [derived, paired, visible_of_ok]
    · simp [derived, paired, visible_of_ok]
  · simp [derived]

/-- `sign_input_and_send` reports the outcome of its calls exactly if the errors are visible. -/
theorem signInputAndSend_reported_iff (env : Env) (ctx : GlobalCtx target)
    : SigningReported (TransactionSigned env ctx) ctx (signInputAndSend env ctx)
      ↔ TransactionErrorsVisible env ctx := by
  rw [← visible_cryptoSignTransaction_iff, signInputAndSend]
  have signs := cryptoSignTransaction_ok_iff env ctx
  rcases result : cryptoSignTransaction env ctx with ⟨error, left⟩
  have index := (cryptoSignTransaction_txInfo result).2.1
  rw [result] at signs
  simp only at signs ⊢
  by_cases ok : error = 0
  · exact iff_of_true (signingReported_of_succeeded (signs.mp ok)) (visible_of_ok ok)
  · rw [if_pos ok, visible_iff ok]
    exact signingReported_word_iff (fun success => ok (signs.mpr success)) rfl index

section

variable (env : Env) (ctx : GlobalCtx target)

/-- The calls of `crypto_sign_personal_message`. -/
def messageHash : Option (Bytes 32) :=
  hashPersonalMessage env.blake2b ctx.signedMessage ctx.msgInfo.messageHash 32

def messageKey : UInt32 × Bytes 32 := env.bip32DeriveInitPrivkey256 ctx.path

def messageSignature (hash : Bytes 32) : UInt32 × Bytes maxDerSigLen :=
  env.cxEcschnorrSignNoThrow (messageKey env ctx).2 hash

/-- Every step of `crypto_sign_personal_message` succeeds. -/
structure MessageSigned : Prop where
  derived : (messageKey env ctx).1 = cxOk
  signed : ∃ hash ∈ messageHash env ctx, (messageSignature env ctx hash).1 = cxOk

/-- The signing call fails, with a visible error, whenever the derivation fails. -/
def MessageErrorsVisible : Prop :=
  ∀ hash ∈ messageHash env ctx,
    ((messageKey env ctx).1 ≠ cxOk → (messageSignature env ctx hash).1 ≠ cxOk)
    ∧ Visible (messageSignature env ctx hash).1

end

/-- The context after `crypto_sign_personal_message` has stored the given hash and signature. -/
def GlobalCtx.withMessageSignature (ctx : GlobalCtx target) (hash : Bytes 32)
    (signature : Bytes maxDerSigLen)
    : GlobalCtx target :=
  ctx.withMsgInfo { ctx.msgInfo with messageHash := hash, signature := signature }

/-- `crypto_sign_personal_message` returns the error of the signing call, whatever the
derivation returned.
-/
theorem cryptoSignPersonalMessage_eq (env : Env) (ctx : GlobalCtx target)
    : cryptoSignPersonalMessage env ctx
      = match messageHash env ctx with
        | none => (0xFFFFFFFF, ctx)
        | some hash =>
            ((messageSignature env ctx hash).1,
              ctx.withMessageSignature hash (messageSignature env ctx hash).2) := by
  cases hashed : messageHash env ctx with
  | none =>
      rw [messageHash, GlobalCtx.signedMessage] at hashed
      simp only [cryptoSignPersonalMessage, hashed]
  | some hash =>
      rw [messageHash, GlobalCtx.signedMessage] at hashed
      simp only [cryptoSignPersonalMessage, hashed]
      simp only [messageSignature, messageKey, GlobalCtx.path, GlobalCtx.withMessageSignature,
        GlobalCtx.withMsgInfo]

theorem cryptoSignPersonalMessage_error (env : Env) (ctx : GlobalCtx target)
    : (cryptoSignPersonalMessage env ctx).1
      = match messageHash env ctx with
        | none => 0xFFFFFFFF
        | some hash => (messageSignature env ctx hash).1 := by
  rw [cryptoSignPersonalMessage_eq]
  cases messageHash env ctx <;> rfl

theorem validateMessage_result {env : Env} {ctx left : GlobalCtx target} {error : UInt32}
    (result : cryptoSignPersonalMessage env (ctx.withState .stateApproved) = (error, left))
    : validateMessage env ctx true
      = if error ≠ 0 then (left.withState .stateNone, ioSendSw error.toUInt16)
        else (left, helperSendResponsePersonalMessageSig left) := by
  have approved : { ctx with state := .stateApproved } = ctx.withState .stateApproved := rfl
  simp only [validateMessage, if_true, approved, result]
  rfl

/-- A message whose signing call succeeds is answered with its signature, and the path stays. -/
theorem validateMessage_signature {hash : Bytes 32} (hashed : messageHash env ctx = some hash)
    (ok : (messageSignature env ctx hash).1 = cxOk)
    : (validateMessage env ctx true).2
        = [.reply (.personalMessageSig (messageSignature env ctx hash).2 hash)]
      ∧ (validateMessage env ctx true).1.path = ctx.path := by
  have found : messageHash env (ctx.withState .stateApproved) = some hash := hashed
  have success : (messageSignature env (ctx.withState .stateApproved) hash).1 = 0 := ok
  have signs := cryptoSignPersonalMessage_eq env (ctx.withState .stateApproved)
  rw [found] at signs
  simp only [success] at signs
  rw [validateMessage_result signs, if_neg (not_not.mpr rfl)]
  exact ⟨rfl, rfl⟩

/-- A message whose signing call fails is answered with its error. -/
theorem validateMessage_word {hash : Bytes 32} (hashed : messageHash env ctx = some hash)
    (failed : (messageSignature env ctx hash).1 ≠ cxOk)
    : (validateMessage env ctx true).2 = ioSendSw (messageSignature env ctx hash).1.toUInt16 := by
  have found : messageHash env (ctx.withState .stateApproved) = some hash := hashed
  have signs := cryptoSignPersonalMessage_eq env (ctx.withState .stateApproved)
  rw [found] at signs
  rw [validateMessage_result signs]
  exact congrArg Prod.snd (if_pos failed)

/-- The signature of a message is sent whenever the signing call succeeds, so it is reported
correctly exactly if the derivation has succeeded too.
-/
theorem messageReported_iff_derived {hash : Bytes 32} {left : GlobalCtx target}
    (hashed : messageHash env ctx = some hash)
    (ok : (messageSignature env ctx hash).1 = cxOk)
    : SigningReported (MessageSigned env ctx) ctx (left, helperSendResponsePersonalMessageSig left)
      ↔ (messageKey env ctx).1 = cxOk := by
  constructor
  · intro reported
    have signed := reported.signed ⟨_, List.mem_singleton.mpr rfl, Or.inr trivial⟩
    exact signed.derived
  · intro derived
    exact signingReported_of_succeeded ⟨derived, hash, hashed, ok⟩

/-- `validate_message` reports the outcome of its calls exactly if the signing call does not
hide the error of the derivation and its own errors are visible.
-/
theorem validateMessage_reported_iff (env : Env) (ctx : GlobalCtx target)
    : SigningReported (MessageSigned env ctx) ctx (validateMessage env ctx true)
      ↔ MessageErrorsVisible env ctx := by
  rcases result : cryptoSignPersonalMessage env (ctx.withState .stateApproved) with ⟨error, left⟩
  have returned := cryptoSignPersonalMessage_error env (ctx.withState .stateApproved)
  obtain ⟨info, kept⟩ := cryptoSignPersonalMessage_context env (ctx.withState .stateApproved)
  have sameHash : messageHash env (ctx.withState .stateApproved) = messageHash env ctx := rfl
  rw [result] at returned kept
  simp only [sameHash] at returned kept
  have index
      : (left.withState .stateNone).txInfo.signingInputIndex
        = ctx.txInfo.signingInputIndex := by
    rw [kept]
    rfl
  rw [validateMessage_result result, MessageErrorsVisible]
  cases hashed : messageHash env ctx with
  | none =>
      rw [hashed] at returned
      have minusOne : error = 0xFFFFFFFF := returned
      have failed : ¬ MessageSigned env ctx := by
        rintro ⟨-, found, member, -⟩
        rw [hashed] at member
        simp at member
      rw [minusOne, if_pos (by decide)]
      exact iff_of_true ((signingReported_word_iff failed rfl index).mpr (by decide)) (by simp)
  | some hash =>
      rw [hashed] at returned
      have same : error = (messageSignature env ctx hash).1 := returned
      simp only [Option.mem_def, Option.some.injEq, forall_eq']
      by_cases ok : error = 0
      · have signed : (messageSignature env ctx hash).1 = cxOk := same.symm.trans ok
        rw [if_neg (not_not.mpr ok), messageReported_iff_derived hashed signed]
        simp [signed, visible_of_ok]
      · have failed : ¬ MessageSigned env ctx := by
          rintro ⟨-, found, member, success⟩
          obtain rfl : hash = found := Option.some.inj (hashed.symm.trans member)
          exact ok (same.trans success)
        rw [if_pos ok, signingReported_word_iff failed rfl index, ← same, visible_iff ok]
        exact ⟨fun visible => ⟨fun _ => ok, visible⟩, And.right⟩

/-- The outcome of the calls is reported correctly, by an approval of a transaction, an approval
of a message and an admitted P1 = 3 request, exactly if no error is hidden.
-/
theorem signingReported_iff (target : Target) (frontEnd : FrontEnd) (env : Env)
    (ctx : GlobalCtx target)
    : (SigningReported (TransactionSigned env ctx) ctx (validateTransaction env ctx true)
        ↔ TransactionErrorsVisible env ctx)
      ∧ (SigningReported (MessageSigned env ctx) ctx (validateMessage env ctx true)
          ↔ MessageErrorsVisible env ctx)
      ∧ ∀ cmd : Command,
          cmd.request = .nextSignature
          → SigningAdmitted ctx
          → (SigningReported (TransactionSigned env ctx) ctx (apduDispatcher frontEnd env cmd ctx)
              ↔ TransactionErrorsVisible env ctx) := by
  refine ⟨?_, validateMessage_reported_iff env ctx, ?_⟩
  · have congr
        : SigningReported (TransactionSigned env (ctx.withState .stateApproved))
              (ctx.withState .stateApproved) (validateTransaction env ctx true)
            ↔ SigningReported (TransactionSigned env ctx) ctx (validateTransaction env ctx true) :=
      signingReported_congr (transactionSigned_withState _) rfl
    exact congr.symm.trans (signInputAndSend_reported_iff env (ctx.withState .stateApproved))
  · intro cmd request admitted
    have open' : ¬ (ctx.reqType ≠ .confirmTransaction ∨ ctx.state ≠ .stateApproved) := by
      simp [admitted.reqType, admitted.state]
    rw [apduDispatcher_eq_handleRequest, request]
    simp only [handleRequest, if_neg open']
    exact signInputAndSend_reported_iff env ctx

/-- An environment in which the key derivation fails and the other calls succeed. -/
def underivable : Env :=
  { Env.succeeding with bip32DeriveInitPrivkey256 := fun _ => (1, Bytes.zero 32) }

theorem signs_message_without_key
    : ¬ ∀ (target : Target) (env : Env) (ctx : GlobalCtx target),
          SigningReported (MessageSigned env ctx) ctx (validateMessage env ctx true) := by
  intro claim
  have visible := (validateMessage_reported_iff underivable (.zero .nanos)).mp (claim _ _ _)
  obtain ⟨hash, hashed⟩ : ∃ hash, messageHash underivable (.zero .nanos) = some hash := ⟨_, rfl⟩
  exact (visible hash hashed).1 (by decide : (1 : UInt32) ≠ cxOk) rfl

end KaspaApp
