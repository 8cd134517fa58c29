import KaspaApp.Session.ArrayAccesses
import KaspaApp.Session.SigningIndex
import KaspaApp.Session.Slots

/-! When the accesses to the transaction arrays stay inside them. The output array is safe; the
input array is left by a refused header whose count is too large, and by requests for signatures
past its end.
-/

namespace KaspaApp

open Histories

variable {target : Target} {frontEnd : FrontEnd} {env : Env} {ctx : GlobalCtx target}
  {history : List (Step target)} {device : Device target} {step : Step target}

/-- Every index that a step uses on one of the arrays lies inside it. -/
def StaysInArrays (_ : List (Step target)) (step : Step target) : Prop :=
  ∀ access ∈ step.before.accesses step.action, access.Inside target

instance (earlier : List (Step target)) (step : Step target)
    : Decidable (StaysInArrays earlier step) :=
  inferInstanceAs (Decidable (∀ access ∈ _, _))

/-- The signatures sent since the last header. -/
def sigsSinceHeader : List (Step target) → List SentSig
  | [] => []
  | step :: earlier =>
      sentSigs step ++ (if IsHeader step then [] else sigsSinceHeader earlier)

/-- The totals are added up only for a declared input count that the array has room for. -/
def TotalsFit (step : Step target) : Prop :=
  match step.action.input with
  | .apdu cmd =>
      AcceptsLastInput step
        → ReachesTotals step.action.env (lastAccepted step cmd)
        → step.before.ctx.txInfo.transaction.txInputLen.toNat ≤ target.maxInputCount
  | _ => True

/-- The declared inputs fit into their array, and a request for a signature finds fewer
signatures since the last header than the array has slots.
-/
structure FitsInputArray (earlier : List (Step target)) (step : Step target) : Prop where
  totals : TotalsFit step
  requests : RequestsSignature step → (sigsSinceHeader earlier).length < target.maxInputCount

/-- A signing session counts its signatures, and a reviewed one has counts inside the arrays. -/
structure ArraysFit (history : List (Step target)) (device : Device target) : Prop where
  ordered : Ordered history device
  counted
    : device.ctx.reqType = .confirmTransaction
      → device.ctx.txInfo.signingInputIndex.toNat = (sigsSinceHeader history).length
  reviewed
    : device.ctx.reqType = .confirmTransaction
      → device.ctx.state ≠ .stateNone
      → device.ctx.txInfo.transaction.txInputLen.toNat ≤ target.maxInputCount
        ∧ device.ctx.txInfo.transaction.txOutputLen.toNat ≤ maxOutputCount

/-- The loops stay inside the arrays exactly for declared counts that do. -/
theorem declaredAccesses_inside_iff (tx : Transaction target)
    : (∀ access ∈ tx.declaredAccesses, access.Inside target)
      ↔ tx.txInputLen.toNat ≤ target.maxInputCount ∧ tx.txOutputLen.toNat ≤ maxOutputCount := by
  have loop {count limit : Nat} : (∀ index ∈ List.range count, index < limit) ↔ count ≤ limit := by
    constructor
    · intro inside
      rcases Nat.eq_zero_or_pos count with rfl | positive
      · exact Nat.zero_le _
      · have last := inside (count - 1) (List.mem_range.mpr (Nat.sub_one_lt_of_lt positive))
        omega
    · intro le index member
      exact (List.mem_range.mp member).trans_le le
  rw [← loop, ← loop]
  simp only [Transaction.declaredAccesses, List.forall_mem_append, List.forall_mem_map,
    Access.Inside]

theorem outputLen_le {tx : Transaction target} (le : tx.txOutputLen ≤ 2)
    : tx.txOutputLen.toNat ≤ maxOutputCount :=
  UInt32.le_iff_toNat_le.mp le

theorem txValidateAccesses_inside_iff (env : Env) (ctx : GlobalCtx target)
    : (∀ access ∈ txValidateAccesses env ctx, access.Inside target)
      ↔ (ReachesTotals env ctx
          → ctx.txInfo.transaction.txInputLen.toNat ≤ target.maxInputCount) := by
  have change
      : ∀ access ∈ (if ctx.txInfo.transaction.txOutputLen = 2
            ∧ 1 ≤ ctx.txInfo.transaction.txInputLen then [Access.output 1] else []),
          access.Inside target := by
    split
    · simp [Access.Inside]
    · simp
  rw [txValidateAccesses, List.forall_mem_append]
  refine (and_iff_right change).trans ?_
  by_cases reaches : ReachesTotals env ctx
  · rw [if_pos reaches, declaredAccesses_inside_iff, forall_prop_of_true reaches]
    exact and_iff_left (outputLen_le reaches.outputsLe)
  · rw [if_neg reaches]
    exact iff_of_true (by simp) (fun reached => absurd reached reaches)

theorem uiDisplayAccesses_inside
    (inputs : ctx.txInfo.transaction.txInputLen.toNat ≤ target.maxInputCount)
    (outputs : ctx.txInfo.transaction.txOutputLen.toNat ≤ maxOutputCount)
    : ∀ access ∈ uiDisplayAccesses env ctx, access.Inside target := by
  have loops := (declaredAccesses_inside_iff ctx.txInfo.transaction).mpr ⟨inputs, outputs⟩
  unfold uiDisplayAccesses
  simp only
  split
  · simp
  · rw [List.forall_mem_append]
    constructor
    · simp [Access.Inside]
    · split
      · exact loops
      · simp

theorem cryptoSignAccesses_inside_iff
    (inputs : ctx.txInfo.transaction.txInputLen.toNat ≤ target.maxInputCount)
    (outputs : ctx.txInfo.transaction.txOutputLen.toNat ≤ maxOutputCount)
    : (∀ access ∈ cryptoSignAccesses env ctx, access.Inside target)
      ↔ ctx.txInfo.signingInputIndex.toNat < target.maxInputCount := by
  have loops := (declaredAccesses_inside_iff ctx.txInfo.transaction).mpr ⟨inputs, outputs⟩
  rw [cryptoSignAccesses, List.forall_mem_append, List.forall_mem_singleton]
  constructor
  · exact fun inside => inside.1
  · intro inside
    refine ⟨inside, ?_⟩
    split
    · exact loops
    · simp

theorem reachesTotals_of_valid (valid : (txValidateParsedTransaction env ctx).1 = true)
    : ReachesTotals env ctx := by
  have validated := validated_of_txValidate valid
  exact ⟨validated.outputsLe, validated.outputsPos, validated.inputsPos, validated.change⟩

/-- After a last input, only the totals can leave an array: what is displayed has passed them. -/
theorem parsedAccesses_inside_iff (env : Env) (ctx : GlobalCtx target)
    : (∀ access ∈ parsedAccesses env ctx false, access.Inside target)
      ↔ (ReachesTotals env ctx
          → ctx.txInfo.transaction.txInputLen.toNat ≤ target.maxInputCount) := by
  rw [parsedAccesses, if_neg Bool.false_ne_true]
  simp only [List.forall_mem_append, txValidateAccesses_inside_iff]
  refine and_iff_left_of_imp fun fits => ?_
  by_cases valid : (txValidateParsedTransaction env ctx).1 = true
  · have reaches := reachesTotals_of_valid valid
    rw [if_pos valid]
    apply uiDisplayAccesses_inside
    · rw [GlobalCtx.txInfo_withState, txValidate_txInfo]
      exact fits reaches
    · rw [GlobalCtx.txInfo_withState, txValidate_txInfo]
      exact outputLen_le reaches.outputsLe
  · simp [valid]

/-- The handlers of a reviewed session leave an array only by the totals or by the input that
is signed.
-/
theorem requestAccesses_inside_iff (env : Env) (request : Request) (cdata : Buffer)
    (ctx : GlobalCtx target)
    (reviewed
      : SigningAdmitted ctx
        → ctx.txInfo.transaction.txInputLen.toNat ≤ target.maxInputCount
          ∧ ctx.txInfo.transaction.txOutputLen.toNat ≤ maxOutputCount)
    : (∀ access ∈ requestAccesses env request cdata ctx, access.Inside target)
      ↔ (request = .input false
          → InputAdmitted ctx
          → (parsedInput env cdata ctx).1 = .parsingOk
          → ReachesTotals env (ctx.acceptInput (parsedInput env cdata ctx).2)
          → ctx.txInfo.transaction.txInputLen.toNat ≤ target.maxInputCount)
        ∧ (request = .nextSignature
          → SigningAdmitted ctx
          → ctx.txInfo.signingInputIndex.toNat < target.maxInputCount) := by
  cases request with
  | refused | getVersion | getAppName | getPublicKey | header | signMessage =>
      simp [requestAccesses]
  | output =>
      refine iff_of_true ?_ (by simp)
      rw [requestAccesses]
      split
      · next admitted => simpa [Access.Inside] using admitted.index.1
      · simp
  | nextSignature =>
      rw [requestAccesses]
      by_cases admitted : SigningAdmitted ctx
      · obtain ⟨inputs, outputs⟩ := reviewed admitted
        rw [if_pos admitted, cryptoSignAccesses_inside_iff inputs outputs]
        simp [admitted]
      · simp [admitted]
  | input more =>
      rw [requestAccesses]
      by_cases admitted : InputAdmitted ctx
      · have slot : Access.Inside target (.input ctx.txInfo.parsingInputIndex.toNat) :=
          admitted.index.1
        rw [if_pos admitted, List.forall_mem_append, List.forall_mem_singleton]
        refine (and_iff_right slot).trans ?_
        by_cases parsed : (parsedInput env cdata ctx).1 = .parsingOk
        · rw [if_pos parsed]
          cases more with
          | true => simp [parsedAccesses]
          | false =>
              rw [parsedAccesses_inside_iff]
              simp [admitted, parsed, GlobalCtx.acceptInput, GlobalCtx.storeInput,
                Transaction.setInput]
        · simp [parsed]
      · simp [admitted]

/-- In a run, a step stays inside the arrays exactly if the input array has room for it. -/
theorem staysInArrays_iff (taken : (machine target frontEnd).Takes step)
    (fits : ArraysFit history step.before)
    : StaysInArrays history step ↔ FitsInputArray history step := by
  obtain ⟨⟨ctx, pending⟩, ⟨env, input⟩, output, after⟩ := step
  have split {earlier : List (Step target)} {step : Step target}
      : FitsInputArray earlier step
        ↔ TotalsFit step
          ∧ (RequestsSignature step
            → (sigsSinceHeader earlier).length < target.maxInputCount) :=
    ⟨fun fits => ⟨fits.totals, fits.requests⟩, fun both => ⟨both.1, both.2⟩⟩
  cases pending with
  | none =>
      cases input with
      | decision choice => simp [Histories.Machine.Takes, machine, Device.step] at taken
      | badLength =>
          rw [split]
          simp [StaysInArrays, Device.accesses, TotalsFit, RequestsSignature, Approves,
            IsNextSignature, Input.request]
      | apdu cmd =>
          rw [split, StaysInArrays]
          refine (requestAccesses_inside_iff env cmd.request (cmd.buffer env) ctx ?_).trans ?_
          · intro admitted
            exact fits.reviewed admitted.reqType (by simp [admitted.state])
          · refine and_congr ?_ ?_
            · simp [TotalsFit, AcceptsLastInput, lastAccepted, inputOf]
            · have requests
                  : RequestsSignature ⟨⟨ctx, none⟩, ⟨env, .apdu cmd⟩, output, after⟩
                    ↔ cmd.request = .nextSignature ∧ SigningAdmitted ctx := by
                simp [RequestsSignature, Approves, IsNextSignature, Input.request]
              rw [requests, and_imp]
              refine forall_congr' fun _ => forall_congr' fun admitted => ?_
              rw [fits.counted admitted.reqType]
  | some review =>
      cases input with
      | badLength | apdu cmd => simp [Histories.Machine.Takes, machine, Device.step] at taken
      | decision choice =>
          have unread : TotalsFit ⟨⟨ctx, some review⟩, ⟨env, .decision choice⟩, output, after⟩ :=
            trivial
          rw [split, and_iff_right unread]
          have requests
              : RequestsSignature ⟨⟨ctx, some review⟩, ⟨env, .decision choice⟩, output, after⟩
                ↔ choice = true ∧ review.session = .confirmTransaction := by
            simp [RequestsSignature, Approves, IsNextSignature, Input.request]
          rw [requests]
          cases review with
          | address | message => simp [StaysInArrays, Device.accesses, Review.session]
          | transaction amount fees address =>
              have session : ctx.reqType = .confirmTransaction := fits.ordered.session _ rfl
              have state : ctx.state = .stateParsed := fits.ordered.state _ rfl
              obtain ⟨inputs, outputs⟩ := fits.reviewed session (by simp [state])
              cases choice with
              | false => simp [StaysInArrays, Device.accesses]
              | true =>
                  have counted := fits.counted session
                  simp only at counted
                  simp only [Review.session, and_self, forall_const, ← counted]
                  exact cryptoSignAccesses_inside_iff inputs outputs

/-- A signed input moves the signing index by one, without a wrap inside the array. -/
theorem Signs.signingIndex {start signed : GlobalCtx target} (signs : Signs step start signed)
    (inside : step.before.ctx.txInfo.signingInputIndex.toNat < target.maxInputCount)
    : step.after.ctx.txInfo.signingInputIndex.toNat
      = step.before.ctx.txInfo.signingInputIndex.toNat + 1 := by
  obtain ⟨-, index, -⟩ := signs.request.signed_txInfo signs.result
  have limit := target.maxInputCount_le
  have one : (1 : UInt8).toNat = 1 := rfl
  rw [signs.after, GlobalCtx.signingInputIndex_nextInput, index, UInt8.toNat_add, one]
  omega

/-- A session that is reviewed after a step that fits has its counts inside the arrays. -/
theorem reviewedCounts_next
    (transition
      : Transition step.action.env step.before step.action.input step.output step.after)
    (fits : ArraysFit history step.before) (meets : FitsInputArray history step)
    (session : step.after.ctx.reqType = .confirmTransaction)
    (reviewed : step.after.ctx.state ≠ .stateNone)
    : step.after.ctx.txInfo.transaction.txInputLen.toNat ≤ target.maxInputCount
      ∧ step.after.ctx.txInfo.transaction.txOutputLen.toNat ≤ maxOutputCount := by
  obtain ⟨other, found⟩ := reviewed_before transition fits.ordered session reviewed
  have same := (sessionStep_of_transition transition fits.ordered session).sameHeader other
  rw [same.txInputLen, same.txOutputLen]
  rcases found with ⟨cmd, last⟩ | before
  · have reaches := reachesTotals_of_valid last.valid
    have totals := meets.totals
    rw [TotalsFit, last.command.input] at totals
    exact ⟨totals (acceptsLastInput last.command last.admitted last.parsed) reaches,
      outputLen_le reaches.outputsLe⟩
  · rcases session_carried transition session with begins | ⟨carried, -⟩
    · exact absurd begins other
    · exact fits.reviewed carried before

/-- As long as signatures are sent for slots of the array, the signing index counts them. -/
theorem counted_next
    (transition
      : Transition step.action.env step.before step.action.input step.output step.after)
    (ordered : Ordered history step.before)
    (counted
      : step.before.ctx.reqType = .confirmTransaction
        → step.before.ctx.txInfo.signingInputIndex.toNat = (sigsSinceHeader history).length)
    (room : sentSigs step ≠ [] → (sigsSinceHeader history).length < target.maxInputCount)
    (session : step.after.ctx.reqType = .confirmTransaction)
    : step.after.ctx.txInfo.signingInputIndex.toNat
      = (sigsSinceHeader (step :: history)).length := by
  rw [sigsSinceHeader, List.length_append]
  rcases session_carried transition session with begins | ⟨carried, kept⟩
  · obtain ⟨cmd, heads⟩ := heads_of_isHeader transition begins
    have unsent : sentSigs step = [] := (silent_of_word heads.output).1
    rw [unsent, if_pos begins, heads.after]
    rfl
  · have other := not_isHeader_of_kept kept
    have taken := sessionStep_of_transition transition ordered session
    have counted := counted carried
    rw [if_neg other]
    by_cases unsent : sentSigs step = []
    · rw [taken.signingIndex other unsent, unsent, counted]
      exact (Nat.zero_add _).symm
    · obtain ⟨start, signed, signs⟩ := signs_of_sentSigs transition unsent
      rw [signs.signingIndex (counted ▸ room unsent), signs.sent, counted]
      exact Nat.add_comm _ _

theorem arraysFit_next
    (transition
      : Transition step.action.env step.before step.action.input step.output step.after)
    (fits : ArraysFit history step.before) (meets : FitsInputArray history step)
    : ArraysFit (step :: history) step.after := by
  refine ⟨ordered_next transition fits.ordered, ?_, reviewedCounts_next transition fits meets⟩
  apply counted_next transition fits.ordered fits.counted
  intro sends
  obtain ⟨start, signed, signs⟩ := signs_of_sentSigs transition sends
  exact meets.requests (signs.request.requests step)

/-- All accesses of a run stay inside the arrays exactly if at every step the input array has
room: for the totals of an accepted last input, and for one more signature.
-/
theorem accessesInBounds_iff (run : (machine target frontEnd).Run history device)
    : Throughout StaysInArrays history ↔ Throughout FitsInputArray history := by
  refine run.throughout_iff ArraysFit ?_ ?_
  · refine ⟨ordered_of_run .start, fun session => ?_, fun session => ?_⟩
    · simp [machine, GlobalCtx.zero] at session
    · simp [machine, GlobalCtx.zero] at session
  · intro earlier step _ fits taken
    exact ⟨staysInArrays_iff taken fits, arraysFit_next (transition_of_takes taken) fits⟩

theorem accessesInBounds_iff_sample
    : ∃ history device,
        (machine .nanos .bagl).Run history device
        ∧ history.map (fun step => (step.before.accesses step.action).length) = [3, 6, 1, 0]
        ∧ Throughout FitsInputArray history := by
  obtain ⟨history, device, run, stays, lengths⟩ :=
    (machine .nanos .bagl).exists_run (signedOnce.map (Action.mk .succeeding))
      (fun history _ =>
        Throughout StaysInArrays history
        ∧ history.map (fun step => (step.before.accesses step.action).length) = [3, 6, 1, 0])
      (by decide +kernel)
  exact ⟨history, device, run, lengths, (accessesInBounds_iff run).mp stays⟩

/-- A header that declares 16 inputs is refused, and the validation of the last input adds up 16
slots of an array of 15.
-/
theorem reads_past_inputs
    : ¬ ∀ (history : List (Step .nanos)) (device : Device .nanos),
          (machine .nanos .bagl).Run history device → Throughout StaysInArrays history := by
  intro claim
  obtain ⟨history, device, run, leaves⟩ :=
    (machine .nanos .bagl).exists_run
      (((signTxCommands (plainHeader 1 16) [plainOutput 4] [] (plainInput 5)).map Input.apdu).map
        (Action.mk .succeeding))
      (fun history _ => ¬ Throughout StaysInArrays history)
      (by decide +kernel)
  exact leaves (claim history device run)

end KaspaApp
