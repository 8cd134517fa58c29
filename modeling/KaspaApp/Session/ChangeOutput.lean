import KaspaApp.Session.ReviewedContents

/-! Where the second output of a reviewed transaction goes. Validation derives the change key
from the last two elements of `bip32_path`. The header writes them, and every signature
replaces them with the ones of the input it signs.
-/

namespace KaspaApp

open FixedWidth Histories

variable {target : Target} {frontEnd : FrontEnd} {history : List (Step target)}
  {device : Device target} {step : Step target}

-----------------------------------------------------------------------------------------
-- The path a header declares and the path the context holds
-----------------------------------------------------------------------------------------

/-- The path that the fields of a header payload name, wherever they come from: the change
type is byte 4, the change index bytes 5 to 8 and the account bytes 9 to 12.
-/
def declaredChangePath (data : List UInt8) : Option (Vector UInt32 kaspaMaxBip32PathLen) :=
  if 13 ≤ data.length then
    some (walletPath (UInt32.ofNat (fromBigEndian ((data.drop 9).take 4)))
      (UInt32.ofNat (fromBigEndian ((data.drop 4).take 1)))
      (UInt32.ofNat (fromBigEndian ((data.drop 5).take 4))))
  else
    none

/-- The change path of the most recent header command, accepted or refused. -/
def lastDeclared (history : List (Step target)) : Option (Vector UInt32 kaspaMaxBip32PathLen) :=
  (lastHeader history).bind fun header =>
    match header.action.input with
    | .apdu cmd => declaredChangePath cmd.data
    | _ => none

/-- `bip32_path[3]` and `bip32_path[4]`. -/
def changeElements (ctx : GlobalCtx target) : UInt32 × UInt32 :=
  (ctx.changeType, ctx.changeIndex)

/-- The address type and index of the input that a request for a signature signs. -/
def signedElements (step : Step target) : UInt32 × UInt32 :=
  let info := step.before.ctx.txInfo
  let txin :=
    info.transaction.input (step.action.env.stray .cryptoSign) info.signingInputIndex.toNat
  (txin.addressType.toUInt32, txin.addressIndex)

/-- The last two path elements as they were written last, by a header or by a signature. -/
def lastElements : List (Step target) → UInt32 × UInt32
  | [] => (0, 0)
  | step :: earlier =>
      if IsHeader step then changeElements step.after.ctx
      else if RequestsSignature step then signedElements step
      else lastElements earlier

-----------------------------------------------------------------------------------------
-- The property and its condition
-----------------------------------------------------------------------------------------

/-- The slot holds the Schnorr script of the key derived at the path. -/
def PaysTo (env : Env) (path : Vector UInt32 kaspaMaxBip32PathLen)
    (slot : Bytes scriptPublicKeyBufferLen)
    : Prop :=
  ∃ rawPubkey chainCode,
    env.bip32DeriveGetPubkey256 path.toList = (cxOk, rawPubkey, chainCode)
    ∧ Holds slot (.schnorr (keyBytes rawPubkey 1))

/-- The second output of a reviewed transaction pays to the change path of the last header. -/
def ReturnsChange (earlier : List (Step target)) (step : Step target) : Prop :=
  OpensReview .confirmTransaction step → step.after.ctx.txInfo.transaction.txOutputLen = 2
    → ∃ path ∈ lastDeclared earlier,
        PaysTo step.action.env path
          step.after.ctx.txInfo.transaction.txOutputs[1].scriptPublicKey

/-- When the last input of a transaction with two outputs is accepted, the account and the
elements written last are those of the last header.
-/
def HoldsChangePath (earlier : List (Step target)) (step : Step target) : Prop :=
  AcceptsLastInput step → step.before.ctx.txInfo.transaction.txOutputLen = 2
    → lastDeclared earlier
      = some (walletPath step.before.ctx.txInfo.transaction.account (lastElements earlier).1
          (lastElements earlier).2)

instance (earlier : List (Step target)) (step : Step target)
    : Decidable (HoldsChangePath earlier step) := by
  unfold HoldsChangePath
  infer_instance

-----------------------------------------------------------------------------------------
-- The last two elements of the path
-----------------------------------------------------------------------------------------

theorem not_requestsSignature {cmd : Command} (input : step.action.input = .apdu cmd)
    (other : cmd.request ≠ .nextSignature)
    : ¬ RequestsSignature step := by
  rintro (⟨decision, _⟩ | ⟨next, _⟩)
  · simp [input] at decision
  · rw [IsNextSignature, input] at next
    exact other (Option.some.inj next)

theorem Ignored.not_requestsSignature {ctx : GlobalCtx target} {input : Input}
    (ignored : Ignored ctx input) {step : Step target} (same : step.action.input = input)
    : ¬ RequestsSignature step := by
  cases ignored with
  | malformed => simp [RequestsSignature, Approves, IsNextSignature, same, Input.request]
  | plain plain =>
      refine KaspaApp.not_requestsSignature same fun next => ?_
      rw [next] at plain
      exact plain
  | output request _ => exact KaspaApp.not_requestsSignature same (by simp [request])
  | input request _ => exact KaspaApp.not_requestsSignature same (by simp [request])

/-- Validation rewrites the path, but not its last two elements. -/
theorem changeElements_txValidate (env : Env) (ctx : GlobalCtx target)
    : changeElements (txValidateParsedTransaction env ctx).2 = changeElements ctx := by
  rcases txValidate_context env ctx with same | same <;> rw [same]
  rfl

/-- Signing leaves the path of the signed input. -/
theorem changeElements_of_request (step : Step target) {start left : GlobalCtx target}
    {error : UInt32}
    (request
      : SigningRequest step.before.pending step.action.input step.before.ctx start)
    (result : cryptoSignTransaction step.action.env start = (error, left))
    : RequestsSignature step ∧ changeElements left = signedElements step := by
  obtain ⟨signature, sighash, written⟩ := cryptoSignTransaction_context step.action.env start
  rw [result] at written
  simp only at written
  subst written
  refine ⟨request.requests step, ?_⟩
  rw [signedElements, ← request.txInfo]
  rfl

/-- Within a session, only a signature writes the last two elements. -/
theorem changeElements_next
    (transition
      : Transition step.action.env step.before step.action.input step.output step.after)
    (session : step.after.ctx.reqType = .confirmTransaction) (other : ¬ IsHeader step)
    : changeElements step.after.ctx
      = if RequestsSignature step then signedElements step
        else changeElements step.before.ctx := by
  obtain ⟨before, ⟨env, input⟩, output, after⟩ := step
  simp only at transition session
  cases transition with
  | ignored reply ignored unsigned => rw [if_neg (ignored.not_requestsSignature rfl)]
  | otherReplied reply request start unsigned =>
      exact absurd (start.reqType.symm.trans session) (Request.otherSession_ne request)
  | otherReviewed request start =>
      exact absurd (start.reqType.symm.trans session) (Request.otherSession_ne request)
  | headerRefused request | headerAccepted request =>
      exact absurd (by simp [IsHeader, Input.request, request]) other
  | outputRefused request | outputAccepted request | inputRefused request
  | inputAccepted request =>
      rw [if_neg (not_requestsSignature rfl (by simp [request]))]
      rfl
  | inputInvalid request admitted parsed stored invalid =>
      rw [if_neg (not_requestsSignature rfl (by simp [request])), changeElements_txValidate,
        stored]
      rfl
  | inputUndisplayed request admitted parsed stored valid
  | inputReviewed request admitted parsed stored valid =>
      rw [if_neg (not_requestsSignature rfl (by simp [request]))]
      refine Eq.trans (changeElements_txValidate env _) ?_
      rw [stored]
      rfl
  | nextRefused request refused => simp [GlobalCtx.zero] at session
  | @signed pending input ctx start signed request result =>
      obtain ⟨requests, elements⟩ :=
        changeElements_of_request ⟨⟨ctx, pending⟩, ⟨env, input⟩, _, _⟩ request result
      exact elements.trans (if_pos requests).symm
  | @signingFailed pending input ctx start left error request result failed =>
      obtain ⟨requests, elements⟩ :=
        changeElements_of_request ⟨⟨ctx, pending⟩, ⟨env, input⟩, _, _⟩ request result
      exact elements.trans (if_pos requests).symm
  | addressDecided reply unsigned =>
      rw [if_neg (by simp [RequestsSignature, Approves, IsNextSignature, Input.request,
        Review.session])]
  | transactionRejected =>
      rw [if_neg (by simp [RequestsSignature, Approves, IsNextSignature, Input.request])]
      rfl
  | messageDecided info reply unsigned approved =>
      rw [if_neg (by simp [RequestsSignature, Approves, IsNextSignature, Input.request,
        Review.session])]
      rfl

-----------------------------------------------------------------------------------------
-- The change output
-----------------------------------------------------------------------------------------

/-- The slots are sound, and the path of a signing session ends with what was written last.
-/
structure PathKept (history : List (Step target)) (device : Device target) : Prop where
  sound : Sound history device
  elements
    : device.ctx.reqType = .confirmTransaction
      → changeElements device.ctx = lastElements history

theorem pathKept_next
    (transition
      : Transition step.action.env step.before step.action.input step.output step.after)
    (kept : PathKept history step.before)
    : PathKept (step :: history) step.after := by
  refine ⟨sound_next transition kept.sound, fun session => ?_⟩
  rw [lastElements]
  by_cases begins : IsHeader step
  · rw [if_pos begins]
  · have carried := (session_carried transition session).resolve_left begins |>.1
    rw [if_neg begins, changeElements_next transition session begins, kept.elements carried]

/-- A slot whose first byte is the Schnorr tag holds the script of the key read from it. -/
theorem holds_changeKey {txout : TransactionOutput} (shaped : Shaped txout.scriptPublicKey)
    (tag : txout.scriptPublicKey[0] = 0x20)
    : Holds txout.scriptPublicKey (.schnorr (changeKey txout)) := by
  rcases shaped with empty | ⟨script, holds⟩
  · rw [empty] at tag
    exact absurd tag (by decide)
  · have schnorr := holds.tag.symm.trans tag
    cases script with
    | ecdsa | p2sh => simp [PaymentScript.tag, opBlake2b] at schnorr
    | schnorr key =>
        have read : (txout.scriptPublicKey.toList.drop 1).take 32 = key.toList := by
          rw [holds.slice (by simp [PaymentScript.bytes])]
          simp [PaymentScript.bytes]
        have copied : changeKey txout = key := by
          rw [changeKey, read, Memory.copy_toList]
        rwa [copied]

/-- A validated second output holds the script of the key at the path of the context. -/
theorem Validated.paysTo {env : Env} {ctx : GlobalCtx target} (validated : Validated env ctx)
    (two : ctx.txInfo.transaction.txOutputLen = 2)
    (shaped : Shaped ctx.txInfo.transaction.txOutputs[1].scriptPublicKey)
    : PaysTo env (changePath ctx) ctx.txInfo.transaction.txOutputs[1].scriptPublicKey := by
  obtain ⟨tag, checked⟩ := validated.change two
  have second
      : ctx.txInfo.transaction.output (env.stray .txValidate) 1
        = ctx.txInfo.transaction.txOutputs[1] :=
    Memory.read_of_lt _ _ (by decide)
  rw [second] at tag checked
  rw [cryptoValidatePublicKey] at checked
  split at checked
  next error rawPubkey chainCode derived =>
  split at checked
  · simp at checked
  · next succeeded =>
      have key := of_decide_eq_true checked
      refine ⟨rawPubkey, chainCode, ?_, key ▸ holds_changeKey shaped tag⟩
      rw [derived, Decidable.not_not.mp succeeded]

-----------------------------------------------------------------------------------------
-- Runs
-----------------------------------------------------------------------------------------

theorem returnsChange_of_transition
    (transition
      : Transition step.action.env step.before step.action.input step.output step.after)
    (kept : PathKept history step.before) (holds : HoldsChangePath history step)
    : ReturnsChange history step := by
  intro opens two
  obtain ⟨cmd, accepted, reviews⟩ := reviews_of_opensReview transition opens
  have stored : step.after.ctx.txInfo = accepted.txInfo := by
    rw [reviews.after, GlobalCtx.txInfo_withState, txValidate_txInfo]
  have lastInput : AcceptsLastInput step :=
    acceptsLastInput ⟨reviews.input, reviews.request⟩ reviews.admitted reviews.parsed
  have twoBefore : step.before.ctx.txInfo.transaction.txOutputLen = 2 := by
    rw [stored, reviews.stored] at two
    exact two
  have elements := kept.elements reviews.admitted.reqType
  have path
      : changePath accepted
        = walletPath step.before.ctx.txInfo.transaction.account (lastElements history).1
            (lastElements history).2 := by
    rw [← elements, reviews.stored]
    rfl
  have shaped : Shaped accepted.txInfo.transaction.txOutputs[1].scriptPublicKey := by
    rw [reviews.stored]
    exact kept.sound.shaped reviews.admitted.reqType _
      (Vector.mem_toList_iff.mpr (Vector.getElem_mem _))
  have pays := (validated_of_txValidate reviews.valid).paysTo (stored ▸ two) shaped
  refine ⟨changePath accepted, ?_, by rw [stored]; exact pays⟩
  rw [path]
  exact holds lastInput twoBefore

/-- As long as the context holds the change path of the last header whenever a last input is
accepted, the second output of every reviewed transaction pays to that path.
-/
theorem changeReturnsToHeaderPath (run : (machine target frontEnd).Run history device)
    (holds : Throughout HoldsChangePath history)
    : Throughout ReturnsChange history := by
  refine (run.throughout_of_invariant PathKept holds ?_ ?_).2
  · refine ⟨⟨ordered_of_run .start, ?_, ?_⟩, ?_⟩ <;>
      exact fun session => by simp [machine, GlobalCtx.zero] at session
  · intro earlier step _ kept holds taken
    have transition := transition_of_takes taken
    exact ⟨pathKept_next transition kept, returnsChange_of_transition transition kept holds⟩

theorem changeReturnsToHeaderPath_sample
    : ∃ history device,
        (machine .nanos .bagl).Run history device
        ∧ (∃ step ∈ history,
            OpensReview .confirmTransaction step
            ∧ step.after.ctx.txInfo.transaction.txOutputLen = 2)
        ∧ Throughout ReturnsChange history := by
  obtain ⟨history, device, run, holds, opens⟩ :=
    (machine .nanos .bagl).exists_run
      (((signTxCommands (plainHeader 2 1) [plainOutput 2, plainOutput 2] [] (plainInput 5)).map
        Input.apdu).map (Action.mk .succeeding))
      (fun history _ =>
        Throughout HoldsChangePath history
        ∧ ∃ step ∈ history,
            OpensReview .confirmTransaction step
            ∧ step.after.ctx.txInfo.transaction.txOutputLen = 2)
      (by decide +kernel)
  exact ⟨history, device, run, opens, changeReturnsToHeaderPath run holds⟩

/-- An environment in which the key at a path repeats the low byte of its last element. -/
def indexedKeys : Env :=
  { Env.succeeding with
    bip32DeriveGetPubkey256 := fun path =>
      (cxOk, Vector.replicate 65 (path.getLastD 0).toUInt8, Bytes.zero 32) }

/-- The second output is sent with a byte too many, so its script is stored but not counted,
and the first review and signature follow. The signature moves the path to the signed input,
address index 1. The second output is sent again, paying there, and is reviewed again.
-/
theorem reviews_foreign_change
    : ¬ ∀ (history : List (Step .nanos)) (device : Device .nanos),
          (machine .nanos .bagl).Run history device
          → Throughout ReturnsChange history := by
  intro claim
  obtain ⟨history, device, run, broken⟩ :=
    (machine .nanos .bagl).exists_run
      (([headerCommand (plainHeader 2 3), outputCommand (plainOutput 1),
          signTxCommand p1Outputs p2More ((plainOutput 1).serialize ++ [0]),
          inputCommand true ⟨5, Bytes.zero 32, 0, 1, 0⟩, inputCommand false (plainInput 5)].map
            Input.apdu
        ++ [Input.decision true]
        ++ [outputCommand ⟨1, .schnorr (Vector.replicate 32 1)⟩,
          inputCommand false (plainInput 5)].map Input.apdu).map (Action.mk indexedKeys))
      (fun history _ =>
        ¬ Throughout
            (fun earlier step =>
              OpensReview .confirmTransaction step
                → step.after.ctx.txInfo.transaction.txOutputLen = 2
                → (lastDeclared earlier).any (fun path =>
                    Holds step.after.ctx.txInfo.transaction.txOutputs[1].scriptPublicKey
                      (.schnorr (keyBytes
                        (step.action.env.bip32DeriveGetPubkey256 path.toList).2.1 1)))
                  = true)
            history)
      (by decide +kernel)
  refine broken ((claim history device run).mono ?_)
  intro earlier step returns opens two
  obtain ⟨path, declared, rawPubkey, chainCode, derived, holds⟩ := returns opens two
  rw [Option.mem_def.mp declared, Option.any_some, derived]
  exact decide_eq_true holds

-----------------------------------------------------------------------------------------
-- Sessions without an earlier signature
-----------------------------------------------------------------------------------------

/-- A last input is accepted only while the session has signed nothing since an accepted
header.
-/
def FollowsUnsignedHeader (earlier : List (Step target)) (step : Step target) : Prop :=
  AcceptsLastInput step
    → Since (fun step => ¬ IsHeader step ∧ ¬ RequestsSignature step)
        (fun _ header => IsHeader header ∧ header.output = ioSendSw swOk) earlier

/-- Since an accepted header without a later signature, the elements are the header's. -/
theorem lastElements_of_unsigned
    (since
      : Since (fun step => ¬ IsHeader step ∧ ¬ RequestsSignature step)
          (fun _ header => IsHeader header ∧ header.output = ioSendSw swOk) history)
    : ∃ header ∈ lastHeader history,
        header.output = ioSendSw swOk ∧ lastElements history = changeElements header.after.ctx := by
  induction history with
  | nil => exact since.elim
  | cons head earlier ih =>
      rcases since with ⟨begins, answer⟩ | ⟨⟨other, unsigned⟩, before⟩
      · exact ⟨head, lastHeader_of_isHeader begins, answer, by rw [lastElements, if_pos begins]⟩
      · obtain ⟨header, last, answer, elements⟩ := ih before
        rw [lastHeader_of_other other, lastElements, if_neg other, if_neg unsigned]
        exact ⟨header, last, answer, elements⟩

/-- The fields of a serialised header are at the places the declared path is read from. -/
theorem declaredChangePath_serialize (payload : HeaderPayload)
    : declaredChangePath payload.serialize = some payload.path := by
  have account : (payload.serialize.drop 9).take 4 = bigEndian 4 payload.account.toNat := by
    rw [HeaderPayload.serialize, List.drop_left' (by simp), List.take_of_length_le (by simp)]
  have changeType
      : (payload.serialize.drop 4).take 1 = bigEndian 1 payload.changeType.toNat := by
    rw [HeaderPayload.serialize, List.append_assoc, List.append_assoc,
      List.drop_left' (by simp), List.take_left' (by simp)]
  have changeIndex
      : (payload.serialize.drop 5).take 4 = bigEndian 4 payload.changeIndex.toNat := by
    rw [HeaderPayload.serialize, List.append_assoc, List.drop_left' (by simp),
      List.take_left' (by simp)]
  have wide (value : UInt32) : value.toNat % 256 ^ 4 = value.toNat :=
    Nat.mod_eq_of_lt value.toNat_lt
  have narrow : payload.changeType.toNat % 256 ^ 1 = payload.changeType.toNat :=
    Nat.mod_eq_of_lt payload.changeType.toNat_lt
  simp only [declaredChangePath, HeaderPayload.length_serialize, Nat.le_refl, if_true, account,
    changeType, changeIndex, fromBigEndian_bigEndian, wide, narrow, UInt32.ofNat_toNat,
    UInt32.ofNat_uInt8ToNat, HeaderPayload.path]

/-- The context holds the change path in every run that signs nothing between an accepted
header and the last input.
-/
theorem holdsChangePath_of_unsigned (run : (machine target frontEnd).Run history device)
    (follows : Throughout FollowsUnsignedHeader history)
    : Throughout HoldsChangePath history := by
  refine (run.throughout_of_invariant Headed follows (headed_start frontEnd) ?_).2
  intro earlier step _ headed follows taken
  have transition := transition_of_takes taken
  refine ⟨headed_next transition headed, fun lastInput two => ?_⟩
  obtain ⟨header, last, answer, elements⟩ := lastElements_of_unsigned (follows lastInput)
  obtain ⟨header', last', cmd, heads, same⟩ := headed.header lastInput.admitted.reqType
  obtain rfl := Option.mem_unique last last'
  obtain ⟨payload, allowed, bytes, stored⟩ := heads.payload answer
  rw [lastDeclared, last, Option.bind_some, heads.input]
  simp only
  rw [bytes, declaredChangePath_serialize, elements, heads.after, stored, same.account, stored]
  rfl

end KaspaApp
