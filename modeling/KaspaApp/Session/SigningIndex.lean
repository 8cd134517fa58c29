import KaspaApp.Session.SigningSession
import KaspaApp.Wire.Headers

/-! Which input index a signature carries. `signing_input_index` is never compared with
`tx_input_len`, so the indices stay inside the input list exactly as long as no signature is
requested past its end.
-/

namespace KaspaApp

open Histories

variable {target : Target} {frontEnd : FrontEnd} {history : List (Step target)}
  {device : Device target} {step : Step target}

/-- The signatures sent since the last approval of a transaction review, newest first. -/
def sigsSinceApproval : List (Step target) → List SentSig
  | [] => []
  | step :: earlier =>
      sentSigs step
      ++ (if Approves .confirmTransaction step then [] else sigsSinceApproval earlier)

/-- The device is asked for a signature that it does not refuse. -/
def RequestsSignature (step : Step target) : Prop :=
  Approves .confirmTransaction step ∨ (IsNextSignature step ∧ SigningAdmitted step.before.ctx)

/-- A request for a signature finds a declared input that is not signed yet. -/
def FindsUnsignedInput (_ : List (Step target)) (step : Step target) : Prop :=
  RequestsSignature step
    → step.before.ctx.txInfo.signingInputIndex.toNat
      < step.before.ctx.txInfo.transaction.txInputLen.toNat

/-- The signatures of a step stay inside the declared inputs, never repeat an index of the
same approval, and end with the one that has no more to come.
-/
structure SignsInsideInputs (earlier : List (Step target)) (step : Step target) : Prop where
  bounded
    : ∀ sent ∈ sentSigs step,
        sent.inputIndex.toNat < step.before.ctx.txInfo.transaction.txInputLen.toNat
        ∧ sent.hasMore.toNat
          = step.before.ctx.txInfo.transaction.txInputLen.toNat - 1 - sent.inputIndex.toNat
  distinct : ((sigsSinceApproval (step :: earlier)).map SentSig.inputIndex).Nodup
  exhausted
    : IsNextSignature step → (∃ sent ∈ sigsSinceApproval earlier, sent.hasMore = 0)
      → step.output = ioSendSw swBadState

instance (step : Step target) : Decidable (RequestsSignature step) :=
  inferInstanceAs (Decidable (_ ∨ _))

instance (earlier : List (Step target)) (step : Step target)
    : Decidable (FindsUnsignedInput earlier step) :=
  inferInstanceAs (Decidable (_ → _))

/-- The signing index counts the signatures sent since the approval. -/
structure Indexed (history : List (Step target)) (device : Device target) : Prop where
  ordered : Ordered history device
  byteWide
    : device.ctx.reqType = .confirmTransaction
      → device.ctx.txInfo.transaction.txInputLen.toNat < 256
  distinct : ((sigsSinceApproval history).map SentSig.inputIndex).Nodup
  below
    : SigningAdmitted device.ctx
      → ∀ sent ∈ sigsSinceApproval history,
          sent.inputIndex.toNat < device.ctx.txInfo.signingInputIndex.toNat
  exhausted
    : SigningAdmitted device.ctx
      → ∀ sent ∈ sigsSinceApproval history,
          sent.hasMore = 0
          → device.ctx.txInfo.transaction.txInputLen.toNat
            ≤ device.ctx.txInfo.signingInputIndex.toNat

/-- The header parser reads the input count from one byte. -/
theorem headed_byteWide (target : Target) (cdata : Buffer)
    : (headed target cdata).txInfo.transaction.txInputLen.toNat < 256 := by
  obtain ⟨header, written⟩ :=
    transactionDeserialize_written target cdata (Vector.replicate kaspaMaxBip32PathLen 0)
  have count : (headed target cdata).txInfo.transaction.txInputLen = header.inputs.toUInt32 :=
    congrArg Transaction.txInputLen written
  rw [count, UInt8.toNat_toUInt32]
  exact header.inputs.toNat_lt

theorem byteWide_next
    (transition
      : Transition step.action.env step.before step.action.input step.output step.after)
    (indexed : Indexed history step.before) (session : step.after.ctx.reqType = .confirmTransaction)
    : step.after.ctx.txInfo.transaction.txInputLen.toNat < 256 := by
  rcases session_carried transition session with begins | ⟨carried, kept⟩
  · obtain ⟨cmd, heads⟩ := heads_of_isHeader transition begins
    rw [heads.after]
    exact headed_byteWide target _
  · have taken := sessionStep_of_transition transition indexed.ordered session
    rw [(taken.sameHeader (not_isHeader_of_kept kept)).txInputLen]
    exact indexed.byteWide carried

/-- The fields of the reply, in terms of the context that signing started from. -/
theorem Signs.sent {start signed : GlobalCtx target} (signs : Signs step start signed)
    : sentSigs step
      = [⟨(step.before.ctx.txInfo.transaction.txInputLen
            - step.before.ctx.txInfo.signingInputIndex.toUInt32 - 1).toUInt8,
          step.before.ctx.txInfo.signingInputIndex, signed.txInfo.signature,
          signed.txInfo.sighash⟩] := by
  obtain ⟨transaction, index, _⟩ := signs.request.signed_txInfo signs.result
  have sent
      : sentSigs step
        = [⟨(signed.txInfo.transaction.txInputLen
              - signed.txInfo.signingInputIndex.toUInt32 - 1).toUInt8,
            signed.txInfo.signingInputIndex, signed.txInfo.signature,
            signed.txInfo.sighash⟩] := by
    rw [sentSigs, signs.output]
    rfl
  rw [sent, transaction, index]

/-- Inside the input list the subtraction of `has_more` does not wrap. -/
theorem hasMore_toNat {count : UInt32} {index : UInt8} (inside : index.toNat < count.toNat)
    (byteWide : count.toNat < 256)
    : (count - index.toUInt32 - 1).toUInt8.toNat = count.toNat - 1 - index.toNat := by
  have widened : index.toUInt32.toNat = index.toNat := UInt8.toNat_toUInt32 index
  have one : (1 : UInt32).toNat = 1 := rfl
  have difference : (count - index.toUInt32).toNat = count.toNat - index.toNat := by
    rw [UInt32.toNat_sub_of_le _ _ (by rw [UInt32.le_iff_toNat_le]; omega), widened]
  have left : (count - index.toUInt32 - 1).toNat = count.toNat - index.toNat - 1 := by
    rw [UInt32.toNat_sub_of_le _ _ (by rw [UInt32.le_iff_toNat_le]; omega), difference, one]
  rw [UInt32.toNat_toUInt8, left]
  omega

theorem SigningRequest.requests (step : Step target) {start : GlobalCtx target}
    (request
      : SigningRequest step.before.pending step.action.input step.before.ctx start)
    : RequestsSignature step := by
  rcases request.origin with ⟨decision, review, _⟩ | ⟨cmd, input, request, _, admitted, _⟩
  · exact Or.inl ⟨decision, review⟩
  · refine Or.inr ⟨?_, admitted⟩
    simp [IsNextSignature, input, Input.request, request]

/-- A step that sends nothing keeps the count, or approves and starts it anew. -/
theorem indexed_of_unsent
    (transition
      : Transition step.action.env step.before step.action.input step.output step.after)
    (indexed : Indexed history step.before) (unsent : sentSigs step = [])
    : Indexed (step :: history) step.after := by
  have since
      : sigsSinceApproval (step :: history)
        = if Approves .confirmTransaction step then [] else sigsSinceApproval history := by
    rw [sigsSinceApproval, unsent, List.nil_append]
  have subset : ∀ sent ∈ sigsSinceApproval (step :: history), sent ∈ sigsSinceApproval history := by
    intro sent member
    rw [since] at member
    split at member
    · simp at member
    · exact member
  refine ⟨ordered_next transition indexed.ordered, byteWide_next transition indexed, ?_, ?_, ?_⟩
  · rw [since]
    split
    · exact List.nodup_nil
    · exact indexed.distinct
  · intro admitted sent member
    obtain ⟨before, index, _⟩ := admitted_carried transition indexed.ordered unsent admitted
    rw [index]
    exact indexed.below before sent (subset sent member)
  · intro admitted sent member last
    obtain ⟨before, index, header⟩ := admitted_carried transition indexed.ordered unsent admitted
    rw [index, header.txInputLen]
    exact indexed.exhausted before sent (subset sent member) last

/-- A step that signs an input inside the list sends an index that no signature of the same
approval carries.
-/
theorem indexed_of_signs {start signed : GlobalCtx target}
    (transition
      : Transition step.action.env step.before step.action.input step.output step.after)
    (indexed : Indexed history step.before) (signs : Signs step start signed)
    (inside
      : step.before.ctx.txInfo.signingInputIndex.toNat
        < step.before.ctx.txInfo.transaction.txInputLen.toNat)
    : Indexed (step :: history) step.after := by
  obtain ⟨transaction, index, _⟩ := signs.request.signed_txInfo signs.result
  have admitted := signs.admitted indexed.ordered
  have byteWide := indexed.byteWide (signs.request.reqType.symm.trans admitted.reqType)
  have after : step.after.ctx = signed.nextInput := by rw [signs.after]
  have counted
      : step.after.ctx.txInfo.signingInputIndex.toNat
        = step.before.ctx.txInfo.signingInputIndex.toNat + 1 := by
    rw [after, GlobalCtx.signingInputIndex_nextInput, index, UInt8.toNat_add]
    have one : (1 : UInt8).toNat = 1 := rfl
    omega
  have count
      : step.after.ctx.txInfo.transaction.txInputLen
        = step.before.ctx.txInfo.transaction.txInputLen := by
    rw [after, GlobalCtx.transaction_nextInput, transaction]
  -- the signatures of this approval before the step
  have earlier : ∀ sent ∈ (if Approves .confirmTransaction step then []
      else sigsSinceApproval history),
      sent.inputIndex.toNat < step.before.ctx.txInfo.signingInputIndex.toNat
      ∧ (sent.hasMore = 0 → step.before.ctx.txInfo.transaction.txInputLen.toNat
          ≤ step.before.ctx.txInfo.signingInputIndex.toNat) := by
    intro sent member
    split at member
    · simp at member
    · next next =>
        rcases (signs.request.requests _) with approves | ⟨_, before⟩
        · exact absurd approves next
        · exact ⟨indexed.below before sent member, indexed.exhausted before sent member⟩
  refine ⟨ordered_next transition indexed.ordered, byteWide_next transition indexed, ?_, ?_, ?_⟩
  · rw [sigsSinceApproval, signs.sent, List.singleton_append, List.map_cons, List.nodup_cons]
    constructor
    · intro member
      obtain ⟨sent, sentEarlier, same⟩ := List.mem_map.mp member
      have below := (earlier sent sentEarlier).1
      rw [same] at below
      exact Nat.lt_irrefl _ below
    · split
      · exact List.nodup_nil
      · exact indexed.distinct
  · intro _ sent member
    rw [sigsSinceApproval, signs.sent, List.singleton_append, List.mem_cons] at member
    rw [counted]
    rcases member with rfl | member
    · exact Nat.lt_succ_self _
    · exact Nat.lt_succ_of_lt (earlier sent member).1
  · intro _ sent member last
    rw [sigsSinceApproval, signs.sent, List.singleton_append, List.mem_cons] at member
    rw [counted, count]
    rcases member with rfl | member
    · have remaining := hasMore_toNat inside byteWide
      simp only at last
      rw [last] at remaining
      have zero : (0 : UInt8).toNat = 0 := rfl
      omega
    · have passed := (earlier sent member).2 last
      omega

theorem insideInputs_of_transition
    (transition
      : Transition step.action.env step.before step.action.input step.output step.after)
    (indexed : Indexed history step.before) (finds : FindsUnsignedInput history step)
    : Indexed (step :: history) step.after ∧ SignsInsideInputs history step := by
  have refused (next : IsNextSignature step) (not : ¬ SigningAdmitted step.before.ctx)
      : step.output = ioSendSw swBadState :=
    nextRefused_of_transition transition next not
  by_cases unsent : sentSigs step = []
  · have after := indexed_of_unsent transition indexed unsent
    refine ⟨after, by simp [unsent], after.distinct, ?_⟩
    rintro next ⟨sent, member, last⟩
    refine refused next fun admitted => ?_
    have inside := finds (Or.inr ⟨next, admitted⟩)
    exact absurd (indexed.exhausted admitted sent member last) (Nat.not_le.mpr inside)
  · obtain ⟨start, signed, signs⟩ := signs_of_sentSigs transition unsent
    have inside := finds (signs.request.requests _)
    have after := indexed_of_signs transition indexed signs inside
    have admitted := signs.admitted indexed.ordered
    have byteWide := indexed.byteWide (signs.request.reqType.symm.trans admitted.reqType)
    refine ⟨after, ?_, after.distinct, ?_⟩
    · intro sent member
      rw [signs.sent, List.mem_singleton] at member
      subst member
      exact ⟨inside, hasMore_toNat inside byteWide⟩
    · rintro next ⟨sent, member, last⟩
      refine refused next fun admitted => ?_
      exact absurd (indexed.exhausted admitted sent member last) (Nat.not_le.mpr inside)

/-- As long as every request for a signature finds an unsigned input, all signatures of a run
stay inside the declared inputs. Witness: `signing_input_index` counts the signatures of the
approval.
-/
theorem signaturesInsideInputs (run : (machine target frontEnd).Run history device)
    (finds : Throughout FindsUnsignedInput history)
    : Throughout SignsInsideInputs history := by
  refine (run.throughout_of_invariant Indexed finds ?_ ?_).2
  · refine ⟨ordered_of_run .start, ?_, List.nodup_nil, ?_, ?_⟩
    · intro session
      simp [machine, GlobalCtx.zero] at session
    · intro _ sent member
      simp [sigsSinceApproval] at member
    · intro _ sent member
      simp [sigsSinceApproval] at member
  · intro earlier step _ indexed finds taken
    exact insideInputs_of_transition (transition_of_takes taken) indexed finds

/-- One input, signed by the approval. -/
def signedOnce : List Input :=
  decidedSession true (plainHeader 1 1) [plainOutput 4] [] (plainInput 5)

theorem signaturesInsideInputs_sample
    : ∃ history device,
        (machine .nanos .bagl).Run history device
        ∧ history.map (fun step => (sentSigs step).map SentSig.hasMore) = [[0], [], [], []]
        ∧ Throughout SignsInsideInputs history := by
  obtain ⟨history, device, run, finds, sent⟩ :=
    (machine .nanos .bagl).exists_run (signedOnce.map (Action.mk .succeeding))
      (fun history _ =>
        Throughout FindsUnsignedInput history
        ∧ history.map (fun step => (sentSigs step).map SentSig.hasMore) = [[0], [], [], []])
      (by decide +kernel)
  exact ⟨history, device, run, sent, signaturesInsideInputs run finds⟩

/-- After the only input is signed, one more P1 = 3 is signed as input 1 of 1. -/
theorem signs_past_last_input
    : ¬ ∀ (history : List (Step .nanos)) (device : Device .nanos),
          (machine .nanos .bagl).Run history device → Throughout SignsInsideInputs history := by
  intro claim
  obtain ⟨history, device, run, step, member, sent, signature, outside⟩ :=
    (machine .nanos .bagl).exists_run
      ((signedOnce ++ [Input.apdu nextSignatureCommand]).map (Action.mk .succeeding))
      (fun history _ =>
        ∃ step ∈ history, ∃ sent ∈ sentSigs step,
          step.before.ctx.txInfo.transaction.txInputLen.toNat ≤ sent.inputIndex.toNat)
      (by decide +kernel)
  obtain ⟨earlier, inside⟩ := (claim history device run).of_mem member
  exact absurd (inside.bounded sent signature).1 (Nat.not_lt.mpr outside)

end KaspaApp
