import KaspaApp.Session.Events
import KaspaApp.Wire.Payloads

/-! No signature without approval: every signature of a run answers an approval that nothing
has taken back.
-/

namespace KaspaApp

open Histories

variable {target : Target} {frontEnd : FrontEnd} {history : List (Step target)}
  {device : Device target} {step : Step target}

/-- The step takes no approval back: no rejection, no signing error, no command that clears
the context, and no approval in another session.
-/
def Undisturbed (step : Step target) : Prop :=
  ¬ Rejects step ∧ ¬ SigningError step ∧ ¬ ResetsContext step
  ∧ ¬ Approves .confirmAddress step ∧ ¬ Approves .confirmMessage step

/-- The user approves a transaction review of the session that the last header began. -/
def ApprovesInSession (before : List (Step target)) (approval : Step target) : Prop :=
  Approves .confirmTransaction approval
  ∧ Since (fun step => ¬ ResetsContext step) (fun _ step => IsHeader step) before

/-- An approval stands when nothing since has taken it back. -/
def ApprovalStands (history : List (Step target)) : Prop :=
  Since Undisturbed ApprovesInSession history

/-- The step right before is the `SIGN_MESSAGE` command that opened the waiting review. -/
def AnswersSignMessage (earlier : List (Step target)) (step : Step target) : Prop :=
  match earlier with
  | [] => False
  | opening :: _ =>
      opening.action.input.request = some .signMessage
      ∧ opening.output = (step.before.pending.map Effect.review).toList
      ∧ step.before.pending.map Review.session = some .confirmMessage

/-- Every signature of a step answers the approval it needs: a transaction signature one that
stands, a message signature the step itself, of the review that the last command opened.
-/
structure SignsWhatIsApproved (earlier : List (Step target)) (step : Step target) : Prop where
  transaction : sentSigs step ≠ [] → ApprovalStands (step :: earlier)
  message
    : sentMessageSigs step ≠ []
      → sentMessageSigs step = step.output ∧ step.output.length = 1
        ∧ Approves .confirmMessage step ∧ AnswersSignMessage earlier step
  next
    : IsNextSignature step → sentSigs step ≠ []
      → Since
          (fun step => ¬ Approves .confirmAddress step ∧ ¬ Approves .confirmMessage step)
          (fun _ step => Approves .confirmTransaction step) earlier

instance (step : Step target) : Decidable (Undisturbed step) :=
  inferInstanceAs (Decidable (_ ∧ _))

instance (before : List (Step target)) (approval : Step target)
    : Decidable (ApprovesInSession before approval) :=
  inferInstanceAs (Decidable (_ ∧ _))

/-- A command that neither signs nor clears the context disturbs no approval. -/
theorem undisturbed_of_command (command : ∀ choice, step.action.input ≠ .decision choice)
    (next : ¬ IsNextSignature step) (kept : ¬ ResetsContext step)
    : Undisturbed step :=
  ⟨command false, fun failed => failed.1.elim (command true) next, kept,
    fun approves => command true approves.1, fun approves => command true approves.1⟩

theorem Ignored.not_decision {ctx : GlobalCtx target} {input : Input}
    (ignored : Ignored ctx input) (choice : Bool)
    : input ≠ .decision choice := by
  cases ignored <;> simp

theorem Ignored.not_next {ctx : GlobalCtx target} {input : Input} (ignored : Ignored ctx input)
    (same : step.action.input = input)
    : ¬ IsNextSignature step := by
  cases ignored with
  | malformed => simp [IsNextSignature, same, Input.request]
  | @plain cmd plain =>
      cases request : cmd.request <;>
        simp [IsNextSignature, same, Input.request, request, Request.plain_iff] at plain ⊢
  | output request _ => simp [IsNextSignature, same, Input.request, request]
  | input request _ => simp [IsNextSignature, same, Input.request, request]

/-- A P1 = 3 that sends its signature disturbs no approval. -/
theorem undisturbed_of_nextSignature {cmd : Command} {ctx : GlobalCtx target}
    (input : step.action.input = .apdu cmd) (output : step.output = helperSendResponseSig ctx)
    (kept : ¬ ResetsContext step)
    : Undisturbed step := by
  refine ⟨by simp [Rejects, input], ?_, kept, by simp [Approves, input],
    by simp [Approves, input]⟩
  rintro ⟨_, effect, sent, word⟩
  rw [output, helperSendResponseSig, List.mem_singleton] at sent
  subst sent
  exact word

/-- Whether the device may sign again: an approved signing session has a standing approval.
-/
def Standing (history : List (Step target)) (device : Device target) : Prop :=
  device.ctx.reqType = .confirmTransaction → device.ctx.state = .stateApproved
    → ApprovalStands history

/-- A step keeps `Standing`: it approves, leaves the approved state, or disturbs nothing. -/
theorem standing_next
    (transition
      : Transition step.action.env step.before step.action.input step.output step.after)
    (ordered : Ordered history step.before) (standing : Standing history step.before)
    : Standing (step :: history) step.after := by
  intro session approved
  rcases session_carried transition session with begins | ⟨carried, kept⟩
  · obtain ⟨cmd, heads⟩ := heads_of_isHeader transition begins
    rw [heads.after] at approved
    exact absurd approved (show State.stateNone ≠ .stateApproved by decide)
  · obtain ⟨before, ⟨env, input⟩, output, after⟩ := step
    simp only at transition session approved carried ordered standing
    cases transition with
    | ignored reply ignored unsigned =>
        exact Or.inr ⟨undisturbed_of_command ignored.not_decision (ignored.not_next rfl) kept,
          standing session approved⟩
    | outputRefused request | outputAccepted request | inputRefused request
    | inputAccepted request =>
        refine Or.inr ⟨undisturbed_of_command (by simp) ?_ kept, standing carried approved⟩
        simp [IsNextSignature, Input.request, request]
    | inputInvalid request admitted parsed stored invalid =>
        refine Or.inr ⟨undisturbed_of_command (by simp) ?_ kept, standing carried ?_⟩
        · simp [IsNextSignature, Input.request, request]
        · have state := (txValidate_kept env _).2.symm.trans approved
          rw [stored] at state
          exact state
    | signed request result =>
        cases request with
        | approval => exact Or.inl ⟨⟨rfl, rfl⟩, ordered.begun carried⟩
        | next request admitted =>
            exact Or.inr ⟨undisturbed_of_nextSignature rfl rfl kept,
              standing carried admitted.state⟩
    | otherReplied reply request start unsigned =>
        exact absurd (start.reqType.symm.trans session) (Request.otherSession_ne request)
    | otherReviewed request start =>
        exact absurd (start.reqType.symm.trans session) (Request.otherSession_ne request)
    | addressDecided | messageDecided =>
        exact absurd ((ordered.session _ rfl).symm.trans carried) (by simp [Review.session])
    | headerRefused request | headerAccepted request =>
        simp [ResetsContext, Input.request, request] at kept
    | nextRefused => simp [GlobalCtx.zero] at session
    | inputUndisplayed | inputReviewed | signingFailed | transactionRejected =>
        simp [GlobalCtx.withState] at approved

/-- A transaction signature finds a standing approval, or is the approval. -/
theorem approvalStands_of_sent
    (transition
      : Transition step.action.env step.before step.action.input step.output step.after)
    (ordered : Ordered history step.before) (standing : Standing history step.before)
    (sends : sentSigs step ≠ [])
    : ApprovalStands (step :: history) := by
  obtain ⟨start, signed, signs⟩ := signs_of_sentSigs transition sends
  have admitted := signs.admitted ordered
  have kept := cryptoSignTransaction_kept signs.result
  have after : step.after.ctx = signed.nextInput := by rw [signs.after]
  refine standing_next transition ordered standing ?_ ?_
  · rw [after]
    exact kept.1.trans admitted.reqType
  · rw [after]
    exact kept.2.trans admitted.state

/-- Message signatures are sent only by the approval of a message review. -/
theorem messageDecided_of_sent
    (transition
      : Transition step.action.env step.before step.action.input step.output step.after)
    (sends : sentMessageSigs step ≠ [])
    : ∃ path text reply,
        step.before.pending = some (.message path text)
        ∧ step.action.input = .decision true
        ∧ step.output = [.reply reply]
        ∧ reply.IsMessageSig := by
  obtain ⟨before, ⟨env, input⟩, output, after⟩ := step
  simp only at transition
  have unsent {reply : Reply} (unsigned : ¬ reply.IsMessageSig)
      (sends : sentMessageSigs (⟨before, ⟨env, input⟩, [.reply reply], after⟩ : Step target) ≠ [])
      : False := by
    cases reply with
    | personalMessageSig => exact unsigned trivial
    | _ => simp [sentMessageSigs] at sends
  cases transition with
  | messageDecided info reply unsigned approved =>
      by_cases signed : reply.IsMessageSig
      · exact ⟨_, _, reply, rfl, by rw [approved signed], rfl, signed⟩
      · exact (unsent signed sends).elim
  | ignored reply _ unsigned | otherReplied reply _ _ unsigned | addressDecided reply unsigned =>
      exact (unsent unsigned.2 sends).elim
  | _ => simp [sentMessageSigs, ioSendSw, helperSendResponseSig] at sends

theorem Request.eq_signMessage {request : Option Request}
    (found : request.bind Request.reviewed = some .confirmMessage)
    : request = some .signMessage := by
  cases request with
  | none => simp at found
  | some request =>
      cases request with
      | input more => cases more <;> simp [Request.reviewed] at found
      | _ => simp [Request.reviewed] at found ⊢

theorem answersSignMessage (ordered : Ordered history step.before)
    {path text : List UInt8} (waits : step.before.pending = some (.message path text))
    : AnswersSignMessage history step := by
  obtain ⟨opening, before, rfl, opened⟩ := ordered.opened _ waits
  refine ⟨Request.eq_signMessage opened.request, ?_, by rw [waits]; rfl⟩
  rw [opened.output, waits]
  rfl

/-- A P1 = 3 that signs finds a transaction approval, with none in another session after it.
-/
theorem transactionApproved_of_next
    (transition
      : Transition step.action.env step.before step.action.input step.output step.after)
    (standing : Standing history step.before) (next : IsNextSignature step)
    (sends : sentSigs step ≠ [])
    : Since (fun step => ¬ Approves .confirmAddress step ∧ ¬ Approves .confirmMessage step)
        (fun _ step => Approves .confirmTransaction step) history := by
  obtain ⟨start, signed, signs⟩ := signs_of_sentSigs transition sends
  rcases signs.request.origin with ⟨decision, _⟩ | ⟨_, _, _, _, admitted, _⟩
  · simp [IsNextSignature, decision, Input.request] at next
  · exact (standing admitted.reqType admitted.state).mono (fun _ _ approval => approval.1)
      (fun _ undisturbed => undisturbed.2.2.2)

theorem signsWhatIsApproved_of_transition
    (transition
      : Transition step.action.env step.before step.action.input step.output step.after)
    (ordered : Ordered history step.before) (standing : Standing history step.before)
    : SignsWhatIsApproved history step where
  transaction sends := approvalStands_of_sent transition ordered standing sends
  message sends := by
    obtain ⟨path, text, reply, waits, decision, output, signature⟩ :=
      messageDecided_of_sent transition sends
    refine ⟨?_, by rw [output]; rfl, ⟨decision, by rw [waits]; rfl⟩,
      answersSignMessage ordered waits⟩
    cases reply with
    | personalMessageSig => simp [sentMessageSigs, output]
    | _ => exact signature.elim
  next next sends := transactionApproved_of_next transition standing next sends

/-- No signature without approval, in every run. Witness: a signing session's approved state
always has a standing approval, and a waiting message review was opened by the last step.
-/
theorem signaturesApproved (run : (machine target frontEnd).Run history device)
    : Throughout SignsWhatIsApproved history := by
  refine run.throughout
    (fun history device => Ordered history device ∧ Standing history device) ?_ ?_
  · exact ⟨ordered_of_run .start, fun session => by simp [machine, GlobalCtx.zero] at session⟩
  · rintro earlier step run ⟨ordered, standing⟩ taken
    have transition := transition_of_takes taken
    exact ⟨⟨ordered_next transition ordered, standing_next transition ordered standing⟩,
      signsWhatIsApproved_of_transition transition ordered standing⟩

/-- A session that signs twice, and a message signed after it. -/
def signedTwiceThenMessage : List Input :=
  let message : Command :=
    { cla := kaspaCla, ins := insSignMessage, p1 := 0, p2 := 0,
      data := [0, 0, 0, 0, 0, 0x80, 0, 0, 0, 1, 0x41] }
  decidedSession true (plainHeader 1 2) [plainOutput 9] [plainInput 5] (plainInput 5)
  ++ [.apdu nextSignatureCommand, .apdu message, .decision true]

theorem signaturesApproved_sample
    : ∃ history device,
        (machine .nanos .bagl).Run history device
        ∧ history.map (fun step => (sentSigs step).length + (sentMessageSigs step).length)
          = [1, 0, 1, 1, 0, 0, 0, 0]
        ∧ Throughout SignsWhatIsApproved history := by
  obtain ⟨history, device, run, sent⟩ :=
    (machine .nanos .bagl).exists_run (signedTwiceThenMessage.map (Action.mk .succeeding))
      (fun history _ =>
        history.map (fun step => (sentSigs step).length + (sentMessageSigs step).length)
        = [1, 0, 1, 1, 0, 0, 0, 0])
      (by decide +kernel)
  exact ⟨history, device, run, sent, signaturesApproved run⟩

end KaspaApp
