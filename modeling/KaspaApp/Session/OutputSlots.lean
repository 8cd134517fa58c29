import KaspaApp.Session.Isolation
import KaspaApp.Wire.RoundTrips

/-! What the output slots of a signing session hold, and how far into a slot its consumers read.
They take the first one or two bytes of a slot for a length, so they rest on what the parser left
there.
-/

namespace KaspaApp

open Histories Memory

variable {target : Target} {frontEnd : FrontEnd} {history : List (Step target)}
  {device : Device target} {step : Step target}

-----------------------------------------------------------------------------------------
-- The cells that are read
-----------------------------------------------------------------------------------------

section

variable (slot : Bytes scriptPublicKeyBufferLen)

/-- The tag, and the script as long as `calc_outputs_hash` takes it for. -/
def calcOutputsHashReads : List Nat := 0 :: List.range (scriptLen slot).toNat

/-- The tag, the pushed length behind `OP_BLAKE2B`, and what `transaction_output_serialize`
copies.
-/
def transactionOutputSerializeReads (outLen : Nat) : List Nat :=
  if outLen < 41 then
    []
  else if getElem slot 0 zero_lt_bufferLen = opBlake2b then
    0 :: 1 :: List.range ((getElem slot 1 one_lt_bufferLen).toNat + 3)
  else
    0 :: List.range ((getElem slot 0 zero_lt_bufferLen).toNat + 2)

/-- `tx_validate_parsed_transaction` copies the slot, and takes tag and key from the copy. -/
def txValidateReads : List Nat :=
  List.range scriptPublicKeyBufferLen
  ++ 0 :: (if getElem slot 0 zero_lt_bufferLen = 0x20 then List.range' 1 32 else [])

/-- The tag, the parity byte of an ECDSA key, and the key or hash that
`script_public_key_to_address` takes out of the script.
-/
def scriptPublicKeyToAddressReads (scriptLen : Nat) : List Nat :=
  if scriptLen < 32 then
    []
  else if getElem slot 0 zero_lt_bufferLen = 0xaa then
    if scriptLen < 35 then [0] else 0 :: List.range' 2 32
  else if getElem slot 0 zero_lt_bufferLen = 0x21 then
    if scriptLen < 35 then [0] else 0 :: 1 :: List.range' 2 32
  else if scriptLen < 34 then
    [0]
  else
    0 :: List.range' 1 32

/-- `script_len` of `calc_outputs_hash` before it is stored in a `uint8_t`. -/
def unboundedScriptLen : Nat :=
  if getElem slot 0 zero_lt_bufferLen = 0xaa then 35
  else (getElem slot 0 zero_lt_bufferLen).toNat + 2

end

section

variable {left right : Bytes scriptPublicKeyBufferLen} {behindLeft behindRight : Nat → UInt8}

/-- The consumers read nothing else: slots that agree on these cells, with what lies behind them,
give the same results.
-/
theorem committedScript_agree {first second : TransactionOutput} {strayLeft strayRight : Stray}
    (agree
      : Agree (calcOutputsHashReads first.scriptPublicKey) first.scriptPublicKey
          second.scriptPublicKey strayLeft.script strayRight.script)
    : committedScript strayLeft first = committedScript strayRight second := by
  have tag := agree.getElem List.mem_cons_self zero_lt_bufferLen
  have length : scriptLen first.scriptPublicKey = scriptLen second.scriptPublicKey := by
    simp only [scriptLen, tag]
  rw [committedScript, committedScript, ← length]
  exact (agree.mono (List.subset_cons_self _ _)).readBlock

theorem transactionOutputSerialize_agree {strayLeft strayRight : Stray} {outLen : Nat}
    (value : UInt64) (out : Bytes outLen)
    (agree
      : Agree (transactionOutputSerializeReads left outLen) left right strayLeft.script
          strayRight.script)
    : transactionOutputSerialize strayLeft ⟨value, left⟩ out
      = transactionOutputSerialize strayRight ⟨value, right⟩ out := by
  unfold transactionOutputSerializeReads at agree
  unfold transactionOutputSerialize
  by_cases short : outLen < 41
  · simp only [if_pos short]
  rw [if_neg short] at agree
  simp only [if_neg short]
  by_cases p2sh : getElem left 0 zero_lt_bufferLen = opBlake2b
  · rw [if_pos p2sh] at agree
    have tag := agree.getElem List.mem_cons_self zero_lt_bufferLen
    have pushed := agree.getElem (List.mem_cons_of_mem _ List.mem_cons_self) one_lt_bufferLen
    have block := (agree.mono (List.subset_cons_of_subset _ (List.subset_cons_self _ _))).readBlock
    simp only [← tag, if_pos p2sh, ← pushed, block]
  · rw [if_neg p2sh] at agree
    have tag := agree.getElem List.mem_cons_self zero_lt_bufferLen
    have block := (agree.mono (List.subset_cons_self _ _)).readBlock
    simp only [← tag, if_neg p2sh, block]

theorem scriptPublicKeyToAddress_agree {scriptLen : Nat} (outLen : Nat)
    (agree
      : Agree (scriptPublicKeyToAddressReads left scriptLen) left right behindLeft behindRight)
    : scriptPublicKeyToAddress outLen left scriptLen
      = scriptPublicKeyToAddress outLen right scriptLen := by
  unfold scriptPublicKeyToAddressReads at agree
  unfold scriptPublicKeyToAddress
  by_cases short : scriptLen < 32
  · simp only [if_pos short]
  rw [if_neg short] at agree
  have tag : left[0] = right[0] := by
    refine agree.getElem ?_ zero_lt_bufferLen
    split_ifs <;> simp
  simp only [if_neg short, ← tag]
  by_cases p2sh : left[0] = 0xaa
  · rw [if_pos p2sh] at agree
    simp only [if_pos p2sh]
    by_cases cut : scriptLen < 35
    · simp only [if_pos cut]
    · rw [if_neg cut] at agree
      have hash := (agree.mono (List.subset_cons_self _ _)).slice (by decide)
      simp only [hash]
  · rw [if_neg p2sh] at agree
    simp only [if_neg p2sh]
    by_cases ecdsa : left[0] = 0x21
    · rw [if_pos ecdsa] at agree
      simp only [if_pos ecdsa]
      by_cases cut : scriptLen < 35
      · simp only [if_pos cut]
      · rw [if_neg cut] at agree
        have parity := agree.getElem (List.mem_cons_of_mem _ List.mem_cons_self) one_lt_bufferLen
        have key :=
          (agree.mono (List.subset_cons_of_subset _ (List.subset_cons_self _ _))).slice (by decide)
        simp only [parity, key]
    · rw [if_neg ecdsa] at agree
      simp only [if_neg ecdsa]
      by_cases cut : scriptLen < 34
      · simp only [if_pos cut]
      · rw [if_neg cut] at agree
        have key := (agree.mono (List.subset_cons_self _ _)).slice (by decide)
        simp only [key]

end

-----------------------------------------------------------------------------------------
-- Reads of a slot that holds nothing or a script
-----------------------------------------------------------------------------------------

/-- A slot is empty or begins with a script; its length does not wrap, and all consumers stay
inside the slot.
-/
structure WellFormedSlot (slot : Bytes scriptPublicKeyBufferLen) : Prop where
  shaped : Shaped slot
  unwrapped : (scriptLen slot).toNat = unboundedScriptLen slot
  hashed : ∀ cell ∈ calcOutputsHashReads slot, cell < scriptPublicKeyBufferLen
  serialized
    : ∀ outLen, ∀ cell ∈ transactionOutputSerializeReads slot outLen,
        cell < scriptPublicKeyBufferLen
  validated : ∀ cell ∈ txValidateReads slot, cell < scriptPublicKeyBufferLen
  shown
    : ∀ scriptLen, ∀ cell ∈ scriptPublicKeyToAddressReads slot scriptLen,
        cell < scriptPublicKeyBufferLen

section

variable {slot : Bytes scriptPublicKeyBufferLen}

theorem Shaped.unwrapped (shaped : Shaped slot)
    : (scriptLen slot).toNat = unboundedScriptLen slot := by
  rcases shaped with rfl | ⟨script, holds⟩
  · decide
  · rw [scriptLen, unboundedScriptLen, holds.tag]
    cases script <;> rfl

/-- The length that `transaction_output_serialize` takes from a slot. -/
theorem Shaped.serializedLen_le (shaped : Shaped slot)
    : (if slot[0] = opBlake2b then slot[1].toNat + 3 else slot[0].toNat + 2)
      ≤ scriptPublicKeyBufferLen := by
  rcases shaped with rfl | ⟨script, holds⟩
  · decide
  · rw [holds.serializedLen]
    exact script.length_bytes_le.trans (by decide)

theorem Shaped.hashed (shaped : Shaped slot)
    : ∀ cell ∈ calcOutputsHashReads slot, cell < scriptPublicKeyBufferLen := by
  intro cell member
  rcases List.mem_cons.mp member with rfl | member
  · exact zero_lt_bufferLen
  · exact (List.mem_range.mp member).trans_le shaped.scriptLen_le

theorem Shaped.serialized (shaped : Shaped slot) (outLen : Nat)
    : ∀ cell ∈ transactionOutputSerializeReads slot outLen, cell < scriptPublicKeyBufferLen := by
  have inside := shaped.serializedLen_le
  intro cell member
  unfold transactionOutputSerializeReads at member
  by_cases short : outLen < 41
  · rw [if_pos short] at member
    simp at member
  rw [if_neg short] at member
  by_cases p2sh : slot[0] = opBlake2b
  · rw [if_pos p2sh] at member inside
    simp only [List.mem_cons, List.mem_range] at member
    omega
  · rw [if_neg p2sh] at member inside
    simp only [List.mem_cons, List.mem_range] at member
    omega

/-- The other two consumers read constant places. -/
theorem txValidateReads_inside (slot : Bytes scriptPublicKeyBufferLen)
    : ∀ cell ∈ txValidateReads slot, cell < scriptPublicKeyBufferLen := by
  have size : scriptPublicKeyBufferLen = 40 := rfl
  intro cell member
  rcases List.mem_append.mp member with copied | taken
  · exact List.mem_range.mp copied
  · split at taken
    · simp only [List.mem_cons, List.mem_range'_1] at taken
      omega
    · simp only [List.mem_singleton] at taken
      omega

theorem scriptPublicKeyToAddressReads_inside (slot : Bytes scriptPublicKeyBufferLen)
    (scriptLen : Nat)
    : ∀ cell ∈ scriptPublicKeyToAddressReads slot scriptLen, cell < scriptPublicKeyBufferLen := by
  have size : scriptPublicKeyBufferLen = 40 := rfl
  intro cell member
  unfold scriptPublicKeyToAddressReads at member
  split_ifs at member <;>
    simp only [List.mem_cons, List.mem_range'_1, List.not_mem_nil, or_false] at member <;>
    omega

theorem Shaped.wellFormed (shaped : Shaped slot) : WellFormedSlot slot :=
  {
    shaped := shaped
    unwrapped := shaped.unwrapped
    hashed := shaped.hashed
    serialized := shaped.serialized
    validated := txValidateReads_inside slot
    shown := scriptPublicKeyToAddressReads_inside slot
  }

end

-----------------------------------------------------------------------------------------
-- Runs
-----------------------------------------------------------------------------------------

/-- The slots lie in a union: the members that the session does not use are zero, so no byte of
another session stands in the place of a slot.
-/
structure UsesOneMember (ctx : GlobalCtx target) : Prop where
  pkInfo : ctx.reqType ≠ .confirmAddress → ctx.pkInfo = .zero
  txInfo : ctx.reqType ≠ .confirmTransaction → ctx.txInfo = .zero target
  msgInfo : ctx.reqType ≠ .confirmMessage → ctx.msgInfo = .zero

/-- Two contexts that differ in `tx_info`, the state and the path. -/
structure SameMembers (before after : GlobalCtx target) : Prop where
  reqType : after.reqType = before.reqType
  pkInfo : after.pkInfo = before.pkInfo
  msgInfo : after.msgInfo = before.msgInfo

theorem SessionOf.usesOneMember {request : RequestType} {ctx : GlobalCtx target}
    (session : SessionOf request ctx)
    : UsesOneMember ctx := by
  obtain ⟨rfl, -, pkInfo, txInfo, msgInfo⟩ := session
  exact ⟨pkInfo, txInfo, msgInfo⟩

/-- A step of a signing session writes no other member. -/
theorem UsesOneMember.signing {before after : GlobalCtx target} (uses : UsesOneMember before)
    (session : before.reqType = .confirmTransaction) (same : SameMembers before after)
    : UsesOneMember after := by
  refine ⟨fun other => ?_, fun other => ?_, fun other => ?_⟩
  · rw [same.pkInfo]
    exact uses.pkInfo (same.reqType ▸ other)
  · exact absurd (same.reqType.trans session) other
  · rw [same.msgInfo]
    exact uses.msgInfo (same.reqType ▸ other)

theorem sameMembers_txValidate (env : Env) (ctx : GlobalCtx target)
    : SameMembers ctx (txValidateParsedTransaction env ctx).2 := by
  rcases txValidate_context env ctx with same | same <;> rw [same] <;> exact ⟨rfl, rfl, rfl⟩

theorem sameMembers_cryptoSignTransaction {env : Env} {start left : GlobalCtx target}
    {error : UInt32} (result : cryptoSignTransaction env start = (error, left))
    : SameMembers start left := by
  obtain ⟨signature, sighash, written⟩ := cryptoSignTransaction_context env start
  rw [result] at written
  simp only at written
  subst written
  exact ⟨rfl, rfl, rfl⟩

/-- A signature is requested in a signing session, from the members it found. -/
theorem SigningRequest.members {pending : Option Review} {input : Input}
    {ctx start : GlobalCtx target} (request : SigningRequest pending input ctx start)
    (session : ∀ review ∈ pending, ctx.reqType = review.session)
    : ctx.reqType = .confirmTransaction ∧ SameMembers ctx start := by
  cases request with
  | approval => exact ⟨session _ rfl, rfl, rfl, rfl⟩
  | next request admitted => exact ⟨admitted.reqType, rfl, rfl, rfl⟩

theorem usesOneMember_next
    (transition
      : Transition step.action.env step.before step.action.input step.output step.after)
    (session : ∀ review ∈ step.before.pending, step.before.ctx.reqType = review.session)
    (uses : UsesOneMember step.before.ctx)
    : UsesOneMember step.after.ctx := by
  obtain ⟨before, ⟨env, input⟩, output, after⟩ := step
  simp only at transition session uses ⊢
  cases transition with
  | ignored => exact uses
  | otherReplied reply request start | otherReviewed request start => exact start.usesOneMember
  | headerRefused | headerAccepted => exact ⟨fun _ => rfl, fun other => absurd rfl other, fun _ => rfl⟩
  | outputRefused request admitted | outputAccepted request admitted
  | inputRefused request admitted | inputAccepted request admitted =>
      exact uses.signing admitted.reqType ⟨rfl, rfl, rfl⟩
  | inputInvalid request admitted parsed stored
  | inputUndisplayed request admitted parsed stored
  | inputReviewed request admitted parsed stored =>
      subst stored
      obtain ⟨reqType, pkInfo, msgInfo⟩ := sameMembers_txValidate env (GlobalCtx.acceptInput _ _)
      exact uses.signing admitted.reqType ⟨reqType, pkInfo, msgInfo⟩
  | nextRefused => exact ⟨fun _ => rfl, fun _ => rfl, fun _ => rfl⟩
  | signed request result | signingFailed request result =>
      obtain ⟨signing, members⟩ := request.members session
      obtain ⟨reqType, pkInfo, msgInfo⟩ := sameMembers_cryptoSignTransaction result
      exact uses.signing signing
        ⟨reqType.trans members.reqType, pkInfo.trans members.pkInfo,
          msgInfo.trans members.msgInfo⟩
  | addressDecided => exact uses
  | transactionRejected => exact uses.signing (session _ rfl) ⟨rfl, rfl, rfl⟩
  | messageDecided info =>
      have message := session _ rfl
      exact ⟨fun other => uses.pkInfo other, fun other => uses.txInfo other,
        fun other => absurd message other⟩

theorem usesOneMember_of_run (run : (machine target frontEnd).Run history device)
    : UsesOneMember device.ctx :=
  run.invariant (fun _ device => UsesOneMember device.ctx)
    ⟨fun _ => rfl, fun _ => rfl, fun _ => rfl⟩
    fun reached uses taken =>
      usesOneMember_next (transition_of_takes taken) (ordered_of_run reached).session uses

/-- In every reachable signing session both slots are well formed, whatever payloads were refused
or repeated.
-/
theorem outputSlots_wellFormed (run : (machine target frontEnd).Run history device)
    (session : device.ctx.reqType = .confirmTransaction)
    : ∀ txout ∈ device.ctx.txInfo.transaction.txOutputs.toList,
        WellFormedSlot txout.scriptPublicKey :=
  fun txout member => ((sound_of_run run).shaped session txout member).wellFormed

/-- A payload with a trailing byte is refused, and leaves its script in the second slot. -/
theorem outputSlots_wellFormed_sample
    : ∃ (history : List (Step .nanos)) (device : Device .nanos),
        (machine .nanos .bagl).Run history device
        ∧ device.ctx.txInfo.parsingOutputIndex = 1
        ∧ Holds device.ctx.txInfo.transaction.txOutputs[1].scriptPublicKey (plainOutput 1).script
        ∧ ∀ txout ∈ device.ctx.txInfo.transaction.txOutputs.toList,
            WellFormedSlot txout.scriptPublicKey := by
  obtain ⟨history, device, run, session, count, left⟩ :=
    (machine .nanos .bagl).exists_run
      (([headerCommand (plainHeader 2 1), outputCommand (plainOutput 4),
          signTxCommand p1Outputs p2More ((plainOutput 1).serialize ++ [0])].map
        Input.apdu).map (Action.mk .succeeding))
      (fun _ device =>
        device.ctx.reqType = .confirmTransaction
        ∧ device.ctx.txInfo.parsingOutputIndex = 1
        ∧ Holds device.ctx.txInfo.transaction.txOutputs[1].scriptPublicKey (plainOutput 1).script)
      (by decide +kernel)
  exact ⟨history, device, run, count, left, outputSlots_wellFormed run session⟩

end KaspaApp
