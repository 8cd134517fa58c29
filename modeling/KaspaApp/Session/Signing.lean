import KaspaApp.Model.Handlers

/-! What the signing functions, the validation and the displays do to the context. -/

namespace KaspaApp

variable {target : Target}

/-- The path `m/44'/111111'/account/address_type/address_index` that `crypto_sign_transaction`
stores for the input being signed.
-/
def signingPath (env : Env) (ctx : GlobalCtx target) : Vector UInt32 kaspaMaxBip32PathLen :=
  let tx := ctx.txInfo.transaction
  let txin := tx.input (env.stray .cryptoSign) ctx.txInfo.signingInputIndex.toNat
  walletPath tx.account txin.addressType.toUInt32 txin.addressIndex

/-- The context after `crypto_sign_transaction` has stored the given signature and hash. -/
def GlobalCtx.withSignature (ctx : GlobalCtx target)
    (path : Vector UInt32 kaspaMaxBip32PathLen) (signature : Bytes maxDerSigLen)
    (sighash : Bytes 32)
    : GlobalCtx target :=
  { ctx.withPath path with
    txInfo := { ctx.txInfo with sighash := sighash, signature := signature } }

/-- Signing writes the path, the hash and the signature, and nothing else.
Witness: the branches of `crypto_sign_transaction`, one for each failing call.
-/
theorem cryptoSignTransaction_context (env : Env) (ctx : GlobalCtx target)
    : ∃ signature sighash,
        (cryptoSignTransaction env ctx).2
        = ctx.withSignature (signingPath env ctx) signature sighash := by
  unfold cryptoSignTransaction
  simp only
  split
  · exact ⟨ctx.txInfo.signature, ctx.txInfo.sighash, rfl⟩
  split
  · exact ⟨_, _, rfl⟩
  split
  · exact ⟨_, _, rfl⟩
  · exact ⟨_, _, rfl⟩

/-- The hash is what `calc_sighash` computes over the transaction and its input `index`. -/
def HashedBy (env : Env) (tx : Transaction target) (index : UInt8) (sighash : Bytes 32) : Prop :=
  ∃ publicKey out,
    calcSighash env.blake2b (env.stray .calcSighash) tx
      (tx.input (env.stray .calcSighash) index.toNat) publicKey out 32
    = some sighash

/-- A success of `crypto_sign_transaction` means that the hash was computed over the
transaction of the context.
-/
theorem cryptoSignTransaction_hashed (env : Env) (ctx : GlobalCtx target)
    (ok : (cryptoSignTransaction env ctx).1 = 0)
    : HashedBy env ctx.txInfo.transaction ctx.txInfo.signingInputIndex
        (cryptoSignTransaction env ctx).2.txInfo.sighash := by
  unfold cryptoSignTransaction at ok ⊢
  simp only at ok ⊢
  split
  · next failed => rw [if_pos failed] at ok; exact absurd ok failed
  · next derived =>
      rw [if_neg derived] at ok
      split
      · next failed => rw [if_pos failed] at ok; exact absurd ok failed
      · next paired =>
          rw [if_neg paired] at ok
          split
          · next unhashed => rw [unhashed] at ok; simp at ok
          · next sighash hashed => exact ⟨_, _, hashed⟩

/-- Signing a message writes only the message session's fields. -/
theorem cryptoSignPersonalMessage_context (env : Env) (ctx : GlobalCtx target)
    : ∃ info, (cryptoSignPersonalMessage env ctx).2 = { ctx with msgInfo := info } := by
  unfold cryptoSignPersonalMessage
  simp only
  split
  · exact ⟨ctx.msgInfo, rfl⟩
  · exact ⟨_, rfl⟩

/-- The path against which the change output is checked: the last two elements are what the
context holds at that moment.
-/
def changePath (ctx : GlobalCtx target) : Vector UInt32 kaspaMaxBip32PathLen :=
  walletPath ctx.txInfo.transaction.account ctx.changeType ctx.changeIndex

/-- The key that a pay-to-public-key output pays to, as validation reads it. -/
def changeKey (txout : TransactionOutput) : Bytes 32 :=
  Memory.copy (Bytes.zero 32) ((txout.scriptPublicKey.toList.drop 1).take 32)

/-- Validation writes at most the path, and keeps its last two elements. -/
theorem txValidate_context (env : Env) (ctx : GlobalCtx target)
    : (txValidateParsedTransaction env ctx).2 = ctx
      ∨ (txValidateParsedTransaction env ctx).2
        = ctx.withPath (changePath ctx) := by
  unfold txValidateParsedTransaction
  simp only
  split
  · exact Or.inl rfl
  split
  · exact Or.inl rfl
  by_cases two : ctx.txInfo.transaction.txOutputLen = 2
  · simp only [if_pos two]
    by_cases schnorr
        : getElem (ctx.txInfo.transaction.output (env.stray .txValidate) 1).scriptPublicKey 0
            zero_lt_bufferLen
          ≠ 0x20
    · simp [if_pos schnorr]
    · simp only [if_neg schnorr]
      refine Or.inr ?_
      split
      · rfl
      · split <;> rfl
  · simp only [if_neg two, Bool.not_true, Bool.false_eq_true, if_false]
    exact Or.inl (by split <;> rfl)

/-- A second output pays to the key at the change path of the context. -/
def ChangeChecked (env : Env) (ctx : GlobalCtx target) : Prop :=
  ctx.txInfo.transaction.txOutputLen = 2
    → getElem (ctx.txInfo.transaction.output (env.stray .txValidate) 1).scriptPublicKey 0
          zero_lt_bufferLen
        = 0x20
      ∧ cryptoValidatePublicKey env (changePath ctx).toList
          (changeKey (ctx.txInfo.transaction.output (env.stray .txValidate) 1))
        = true

instance (env : Env) (ctx : GlobalCtx target) : Decidable (ChangeChecked env ctx) := by
  unfold ChangeChecked
  infer_instance

/-- The totals as a loop over `uint64_t` adds them up. -/
def Transaction.wrappedInputs (tx : Transaction target) (stray : Stray) : UInt64 :=
  (List.range tx.txInputLen.toNat).foldl (fun total i => total + (tx.input stray i).value) 0

def Transaction.wrappedOutputs (tx : Transaction target) (stray : Stray) : UInt64 :=
  (List.range tx.txOutputLen.toNat).foldl (fun total o => total + (tx.output stray o).value) 0

/-- What validation checks. -/
structure Validated (env : Env) (ctx : GlobalCtx target) : Prop where
  outputsLe : ctx.txInfo.transaction.txOutputLen ≤ 2
  outputsPos : 1 ≤ ctx.txInfo.transaction.txOutputLen
  inputsPos : 1 ≤ ctx.txInfo.transaction.txInputLen
  change : ChangeChecked env ctx
  covered
    : ctx.txInfo.transaction.wrappedOutputs (env.stray .txValidate)
      ≤ ctx.txInfo.transaction.wrappedInputs (env.stray .txValidate)

theorem validated_of_txValidate {env : Env} {ctx : GlobalCtx target}
    (ok : (txValidateParsedTransaction env ctx).1 = true)
    : Validated env ctx := by
  unfold txValidateParsedTransaction at ok
  simp only at ok
  split at ok
  · simp at ok
  next counts =>
  split at ok
  · simp at ok
  next inputs =>
  simp only [not_or, UInt32.not_lt] at counts inputs
  by_cases two : ctx.txInfo.transaction.txOutputLen = 2
  · simp only [if_pos two] at ok
    by_cases schnorr
        : getElem (ctx.txInfo.transaction.output (env.stray .txValidate) 1).scriptPublicKey 0
            zero_lt_bufferLen
          ≠ 0x20
    · simp [if_pos schnorr] at ok
    · simp only [if_neg schnorr, GlobalCtx.path_withPath] at ok
      split at ok
      · simp at ok
      next checked =>
      split at ok
      · simp at ok
      next covered =>
      refine ⟨counts.1, counts.2, inputs, fun _ => ⟨Decidable.not_not.mp schnorr, ?_⟩,
        UInt64.not_lt.mp covered⟩
      simpa only [Bool.not_eq_true, Bool.not_eq_false', changePath, changeKey] using checked
  · simp only [if_neg two, Bool.not_true, Bool.false_eq_true, if_false] at ok
    split at ok
    · simp at ok
    next covered =>
    exact ⟨counts.1, counts.2, inputs, fun declared => absurd declared two,
      UInt64.not_lt.mp covered⟩

/-- Validation succeeds exactly when all its checks pass. -/
theorem txValidate_iff (env : Env) (ctx : GlobalCtx target)
    : (txValidateParsedTransaction env ctx).1 = true ↔ Validated env ctx := by
  refine ⟨validated_of_txValidate, fun validated => ?_⟩
  have counts
      : ¬ (ctx.txInfo.transaction.txOutputLen > 2 ∨ ctx.txInfo.transaction.txOutputLen < 1) := by
    rw [not_or, gt_iff_lt, UInt32.not_lt, UInt32.not_lt]
    exact ⟨validated.outputsLe, validated.outputsPos⟩
  have covered := UInt64.not_lt.mpr validated.covered
  unfold txValidateParsedTransaction
  simp only [if_neg counts, if_neg (UInt32.not_lt.mpr validated.inputsPos)]
  by_cases two : ctx.txInfo.transaction.txOutputLen = 2
  · obtain ⟨schnorr, checked⟩ := validated.change two
    simp only [if_pos two, if_neg (not_not.mpr schnorr), GlobalCtx.path_withPath]
    simp only [changePath, changeKey] at checked
    rw [checked]
    exact congrArg Prod.fst (if_neg covered)
  · simp only [if_neg two]
    exact congrArg Prod.fst (if_neg covered)

/-- With the state just set, the transaction display only formats: it opens the review or
reports that an amount could not be formatted.
-/
theorem uiDisplayTransaction_cases (env : Env) (ctx : GlobalCtx target)
    (request : ctx.reqType = .confirmTransaction) (parsed : ctx.state = .stateParsed)
    : uiDisplayTransaction env ctx = (ctx, ioSendSw swDisplayAmountFail)
      ∨ ∃ amount fees address,
          uiDisplayTransaction env ctx
          = (ctx, [.review (.transaction amount fees address)]) := by
  unfold uiDisplayTransaction
  simp only [request, parsed, ne_eq, not_true_eq_false, or_self, if_false]
  split
  · exact Or.inl rfl
  · split
    · exact Or.inl rfl
    · exact Or.inr ⟨_, _, _, rfl⟩

theorem uiDisplayMessage_cases (frontEnd : FrontEnd) (env : Env) (ctx : GlobalCtx target)
    (request : ctx.reqType = .confirmMessage) (idle : ctx.state = .stateNone)
    : uiDisplayMessage frontEnd env ctx = (ctx, ioSendSw swDisplayBip32PathFail)
      ∨ ∃ bip32Path message,
          uiDisplayMessage frontEnd env ctx
          = (ctx, [.review (.message bip32Path message)]) := by
  unfold uiDisplayMessage
  simp only [request, idle, ne_eq, not_true_eq_false, or_self, if_false]
  split
  · exact Or.inl rfl
  · exact Or.inr ⟨_, _, rfl⟩

theorem uiDisplayAddress_cases (frontEnd : FrontEnd) (env : Env) (ctx : GlobalCtx target)
    (request : ctx.reqType = .confirmAddress) (idle : ctx.state = .stateNone)
    : (∃ code, uiDisplayAddress frontEnd env ctx = (ctx, ioSendSw code))
      ∨ ∃ bip32Path address,
          uiDisplayAddress frontEnd env ctx
          = (ctx, [.review (.address bip32Path address)]) := by
  unfold uiDisplayAddress
  simp only [request, idle, ne_eq, not_true_eq_false, or_self, if_false]
  split
  · exact Or.inl ⟨_, rfl⟩
  · split
    · exact Or.inl ⟨_, rfl⟩
    · exact Or.inr ⟨_, _, rfl⟩

end KaspaApp
