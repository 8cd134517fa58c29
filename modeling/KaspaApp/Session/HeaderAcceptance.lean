import KaspaApp.Session.SigningSession
import KaspaApp.Wire.Headers

/-! Which header a review or a signature follows. A refused header leaves a signing session
with its counts, so the commands after it are not stopped by the refusal itself.
-/

namespace KaspaApp

open Histories

variable {target : Target} {frontEnd : FrontEnd} {history : List (Step target)}
  {device : Device target} {step : Step target}

/-- The most recent header command of a history. -/
def lastHeader : List (Step target) → Option (Step target)
  | [] => none
  | step :: earlier => if IsHeader step then some step else lastHeader earlier

/-- A last input is accepted only after a header that was answered with `SW_OK`. -/
def FollowsAcceptedHeader (earlier : List (Step target)) (step : Step target) : Prop :=
  AcceptsLastInput step → ∃ header ∈ lastHeader earlier, header.output = ioSendSw swOk

/-- The header is answered with `SW_OK`, its change type is 0 or 1, and the transaction has
counts and an account that the header parser lets through.
-/
structure AcceptedHeader (header : Step target) (tx : Transaction target) : Prop where
  answer : header.output = ioSendSw swOk
  outputsPos : 1 ≤ tx.txOutputLen.toNat
  outputsLe : tx.txOutputLen.toNat ≤ 2
  inputsPos : 1 ≤ tx.txInputLen.toNat
  inputsLe : tx.txInputLen.toNat ≤ target.maxInputCount
  hardened : 0x80000000 ≤ tx.account.toNat
  changeType
    : ∃ cmd payload,
        header.action.input = .apdu cmd
        ∧ cmd.data = HeaderPayload.serialize payload
        ∧ (payload.changeType = 0 ∨ payload.changeType = 1)

/-- A review or a signature follows an accepted header. -/
def ReviewsAfterAcceptedHeader (earlier : List (Step target)) (step : Step target) : Prop :=
  OpensReview .confirmTransaction step ∨ sentSigs step ≠ []
    → ∃ header ∈ lastHeader earlier, AcceptedHeader header step.after.ctx.txInfo.transaction

instance (earlier : List (Step target)) (step : Step target)
    : Decidable (FollowsAcceptedHeader earlier step) := by
  unfold FollowsAcceptedHeader
  infer_instance

/-- A signing session has the header fields of the last header. -/
structure Headed (history : List (Step target)) (device : Device target) : Prop where
  ordered : Ordered history device
  header
    : device.ctx.reqType = .confirmTransaction
      → ∃ header ∈ lastHeader history, ∃ cmd,
          Heads header cmd
          ∧ SameHeader device.ctx.txInfo.transaction
              (headed target (cmd.buffer header.action.env)).txInfo.transaction

/-- A signing session that was reviewed was begun by an accepted header. -/
structure HeaderKept (history : List (Step target)) (device : Device target) : Prop where
  headed : Headed history device
  accepted
    : device.ctx.reqType = .confirmTransaction → device.ctx.state ≠ .stateNone
      → ∃ header ∈ lastHeader history, header.output = ioSendSw swOk

theorem lastHeader_of_isHeader (begins : IsHeader step)
    : lastHeader (step :: history) = some step := by
  rw [lastHeader, if_pos begins]

theorem lastHeader_of_other (other : ¬ IsHeader step)
    : lastHeader (step :: history) = lastHeader history := by
  rw [lastHeader, if_neg other]

theorem SameHeader.trans {first second third : Transaction target}
    (left : SameHeader first second) (right : SameHeader second third)
    : SameHeader first third :=
  ⟨left.version.trans right.version, left.account.trans right.account,
    left.txInputLen.trans right.txInputLen, left.txOutputLen.trans right.txOutputLen⟩

/-- A header answered with `SW_OK` carried an allowed payload, and left its fields and path.
-/
theorem Heads.payload {cmd : Command} {header : Step target} (heads : Heads header cmd)
    (answer : header.output = ioSendSw swOk)
    : ∃ payload : HeaderPayload,
        payload.Allowed target
        ∧ cmd.data = payload.serialize
        ∧ headed target (cmd.buffer header.action.env)
          = (GlobalCtx.cleared target .confirmTransaction).withHeader
              (payload.into (.zero target)) payload.path := by
  have parsed : (parsedHeader target (cmd.buffer header.action.env)).1 = .parsingOk := by
    by_contra refused
    have codes := heads.output.symm.trans answer
    rw [if_neg refused] at codes
    exact absurd codes (by decide)
  obtain ⟨payload, allowed, bytes⟩ := header_of_parsed parsed
  have stored
      : parsedHeader target (cmd.buffer header.action.env)
        = (.parsingOk, payload.into (.zero target), payload.path) :=
    transactionDeserialize_serialize allowed bytes
  rw [Command.rest_buffer] at bytes
  exact ⟨payload, allowed, bytes, by rw [headed, stored]⟩

/-- The session of an accepted header has counts and an account that the parser lets through.
-/
theorem Heads.acceptedHeader {cmd : Command} {header : Step target} {tx : Transaction target}
    (heads : Heads header cmd) (answer : header.output = ioSendSw swOk)
    (same
      : SameHeader tx (headed target (cmd.buffer header.action.env)).txInfo.transaction)
    : AcceptedHeader header tx := by
  obtain ⟨payload, allowed, bytes, stored⟩ := heads.payload answer
  rw [stored] at same
  have outputs : tx.txOutputLen.toNat = payload.outputs.toNat := by
    rw [same.txOutputLen]
    exact UInt8.toNat_toUInt32 _
  have inputs : tx.txInputLen.toNat = payload.inputs.toNat := by
    rw [same.txInputLen]
    exact UInt8.toNat_toUInt32 _
  have account : tx.account = payload.account := same.account
  refine ⟨answer, ?_, ?_, ?_, ?_, ?_, cmd, payload, heads.input, bytes, allowed.changeType⟩
  · exact outputs.symm ▸ allowed.outputsPos
  · exact outputs.symm ▸ allowed.outputsLe
  · exact inputs.symm ▸ allowed.inputsPos
  · exact inputs.symm ▸ allowed.inputsLe
  · exact account.symm ▸ allowed.hardened

theorem headed_next
    (transition
      : Transition step.action.env step.before step.action.input step.output step.after)
    (before : Headed history step.before)
    : Headed (step :: history) step.after := by
  refine ⟨ordered_next transition before.ordered, fun session => ?_⟩
  rcases session_carried transition session with begins | ⟨carried, notReset⟩
  · obtain ⟨cmd, heads⟩ := heads_of_isHeader transition begins
    refine ⟨step, lastHeader_of_isHeader begins, cmd, heads, ?_⟩
    rw [heads.after]
    exact ⟨rfl, rfl, rfl, rfl⟩
  · have other := not_isHeader_of_kept notReset
    have taken := sessionStep_of_transition transition before.ordered session
    obtain ⟨header, last, cmd, heads, same⟩ := before.header carried
    rw [lastHeader_of_other other]
    exact ⟨header, last, cmd, heads, (taken.sameHeader other).trans same⟩

theorem headed_start (frontEnd : FrontEnd) : Headed [] (machine target frontEnd).initial :=
  ⟨ordered_of_run .start, fun session => by simp [machine, GlobalCtx.zero] at session⟩

/-- The step accepts a last input and the transaction passes its validation. -/
structure ValidatesLastInput (step : Step target) (cmd : Command) : Prop where
  command : Commands step cmd (.input false)
  admitted : InputAdmitted step.before.ctx
  parsed : (inputOf step cmd).1 = .parsingOk
  valid : (txValidateParsedTransaction step.action.env (lastAccepted step cmd)).1 = true

/-- A step that leaves a session reviewed or approved found it so, or validates a last input.
-/
theorem reviewed_before
    (transition
      : Transition step.action.env step.before step.action.input step.output step.after)
    (ordered : Ordered history step.before)
    (session : step.after.ctx.reqType = .confirmTransaction)
    (reviewed : step.after.ctx.state ≠ .stateNone)
    : ¬ IsHeader step
      ∧ ((∃ cmd, ValidatesLastInput step cmd) ∨ step.before.ctx.state ≠ .stateNone) := by
  have taken := sessionStep_of_transition transition ordered session
  have other : ¬ IsHeader step := by
    intro begins
    obtain ⟨cmd, heads⟩ := heads_of_isHeader transition begins
    rw [heads.after] at reviewed
    exact reviewed rfl
  refine ⟨other, ?_⟩
  cases taken with
  | header heads =>
      exact absurd (by simp [IsHeader, heads.input, Input.request, heads.request]) other
  | idle silent noOutput noInput txInfo path state =>
      exact Or.inr fun none => state.elim (fun same => reviewed (same.trans none)) reviewed
  | outputRefused command admitted failed silent after
  | outputAccepted command admitted failed silent after
  | inputRefused command admitted failed silent after
  | inputAccepted command admitted failed silent after =>
      rw [after] at reviewed
      exact Or.inr reviewed
  | @inputInvalid cmd command admitted parsed invalid silent after =>
      have kept := (txValidate_kept step.action.env (lastAccepted step cmd)).2
      rw [after] at reviewed
      exact Or.inr fun none => reviewed (kept.trans none)
  | inputValid command admitted parsed valid =>
      exact Or.inl ⟨_, command, admitted, parsed, valid⟩
  | signed signs unopened =>
      rcases signs.request.origin with ⟨_, waits, _⟩ | ⟨_, _, _, _, admitted, _⟩
      · obtain ⟨review, pending, kind⟩ := Option.map_eq_some_iff.mp waits
        refine Or.inr ?_
        rw [ordered.state review pending]
        cases review <;> simp [Review.session, Review.state] at kind ⊢
      · exact Or.inr (by simp [admitted.state])
  | signingFailed request result silent after =>
      rw [after] at reviewed
      exact absurd rfl reviewed

/-- The signed or reviewed session is reviewed or approved after the step. -/
theorem reviewed_after
    (transition
      : Transition step.action.env step.before step.action.input step.output step.after)
    (ordered : Ordered history step.before)
    (shown : OpensReview .confirmTransaction step ∨ sentSigs step ≠ [])
    : step.after.ctx.reqType = .confirmTransaction ∧ step.after.ctx.state ≠ .stateNone := by
  rcases shown with opens | sends
  · obtain ⟨cmd, accepted, reviews⟩ := reviews_of_opensReview transition opens
    rw [reviews.after]
    refine ⟨?_, by simp⟩
    rw [GlobalCtx.reqType_withState, (txValidate_kept _ _).1, reviews.stored]
    exact reviews.admitted.reqType
  · obtain ⟨start, signed, signs⟩ := signs_of_sentSigs transition sends
    have admitted := signs.admitted ordered
    have kept := cryptoSignTransaction_kept signs.result
    rw [signs.after]
    simp [kept.1, kept.2, admitted.reqType, admitted.state]

theorem headerKept_next
    (transition
      : Transition step.action.env step.before step.action.input step.output step.after)
    (kept : HeaderKept history step.before) (follows : FollowsAcceptedHeader history step)
    : HeaderKept (step :: history) step.after := by
  refine ⟨headed_next transition kept.headed, ?_⟩
  intro session reviewed
  obtain ⟨other, found⟩ := reviewed_before transition kept.headed.ordered session reviewed
  rw [lastHeader_of_other other]
  rcases session_carried transition session with begins | ⟨carried, _⟩
  · exact absurd begins other
  · rcases found with ⟨cmd, last⟩ | before
    · exact follows (acceptsLastInput last.command last.admitted last.parsed)
    · exact kept.accepted carried before

/-- As long as every accepted last input follows an accepted header, so does every review and
every signature of a run.
-/
theorem reviewsAfterAcceptedHeader (run : (machine target frontEnd).Run history device)
    (follows : Throughout FollowsAcceptedHeader history)
    : Throughout ReviewsAfterAcceptedHeader history := by
  refine (run.throughout_of_invariant HeaderKept follows ?_ ?_).2
  · exact ⟨headed_start frontEnd, fun session => by simp [machine, GlobalCtx.zero] at session⟩
  · intro earlier step _ kept follows taken
    have transition := transition_of_takes taken
    have after := headerKept_next transition kept follows
    refine ⟨after, ?_⟩
    intro shown
    obtain ⟨session, reviewed⟩ := reviewed_after transition kept.headed.ordered shown
    obtain ⟨other, _⟩ := reviewed_before transition kept.headed.ordered session reviewed
    obtain ⟨header, last, cmd, heads, same⟩ := after.headed.header session
    obtain ⟨header', last', answer⟩ := after.accepted session reviewed
    rw [lastHeader_of_other other] at last last'
    obtain rfl := Option.mem_unique last last'
    exact ⟨header, last, heads.acceptedHeader answer same⟩

theorem reviewsAfterAcceptedHeader_sample
    : ∃ history device,
        (machine .nanos .bagl).Run history device
        ∧ history.map (fun step => (sentSigs step).length) = [1, 0, 0, 0]
        ∧ Throughout ReviewsAfterAcceptedHeader history := by
  obtain ⟨history, device, run, follows, sent⟩ :=
    (machine .nanos .bagl).exists_run
      ((decidedSession true (plainHeader 1 1) [plainOutput 4] [] (plainInput 5)).map
        (Action.mk .succeeding))
      (fun history _ =>
        Throughout FollowsAcceptedHeader history
        ∧ history.map (fun step => (sentSigs step).length) = [1, 0, 0, 0])
      (by decide +kernel)
  exact ⟨history, device, run, sent, reviewsAfterAcceptedHeader run follows⟩

/-- A header with an account that is not hardened is refused, and the outputs and inputs after
it open a review.
-/
theorem reviews_after_refused_header
    : ¬ ∀ (history : List (Step .nanos)) (device : Device .nanos),
          (machine .nanos .bagl).Run history device
          → Throughout ReviewsAfterAcceptedHeader history := by
  intro claim
  obtain ⟨history, device, run, broken⟩ :=
    (machine .nanos .bagl).exists_run
      (((signTxCommands ⟨0, 1, 1, 0, 0, 0⟩ [plainOutput 4] [] (plainInput 5)).map Input.apdu).map
        (Action.mk .succeeding))
      (fun history _ =>
        ¬ Throughout (fun earlier step => OpensReview .confirmTransaction step
            → ∃ header ∈ lastHeader earlier, header.output = ioSendSw swOk) history)
      (by decide +kernel)
  refine broken ((claim history device run).mono ?_)
  intro earlier step follows opens
  obtain ⟨header, last, accepted⟩ := follows (Or.inl opens)
  exact ⟨header, last, accepted.answer⟩

end KaspaApp
