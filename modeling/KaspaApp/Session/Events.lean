import KaspaApp.Session.Transitions

/-! The events of a run that the properties of the device speak about, and what every run
keeps between them: which step opened a waiting review, and how a signing session began.
-/

namespace KaspaApp

open Histories

variable {target : Target}

/-- The request of an input. A command counts as soon as the dispatcher hands it on. -/
def Input.request : Input → Option Request
  | .apdu cmd => some cmd.request
  | .badLength | .decision _ => none

/-- The session whose review a request can open. -/
def Request.reviewed : Request → Option RequestType
  | .getPublicKey _ => some .confirmAddress
  | .signMessage => some .confirmMessage
  | .input false => some .confirmTransaction
  | _ => none

/-- A `SIGN_TX` command with P1 = 0. -/
def IsHeader (step : Step target) : Prop := step.action.input.request = some .header

/-- A `SIGN_TX` command with P1 = 3. -/
def IsNextSignature (step : Step target) : Prop :=
  step.action.input.request = some .nextSignature

/-- The user approves a review of the given session. -/
def Approves (session : RequestType) (step : Step target) : Prop :=
  step.action.input = .decision true
  ∧ step.before.pending.map Review.session = some session

def Rejects (step : Step target) : Prop := step.action.input = .decision false

/-- The step leaves a review of the given session waiting. -/
def OpensReview (session : RequestType) (step : Step target) : Prop :=
  (openedReview step.output).map Review.session = some session

/-- The fields of a transaction signature reply. -/
structure SentSig where
  hasMore : UInt8
  inputIndex : UInt8
  signature : Bytes maxDerSigLen
  sighash : Bytes 32

def Effect.sig? : Effect → Option SentSig
  | .reply (.sig hasMore inputIndex signature sighash) =>
      some ⟨hasMore, inputIndex, signature, sighash⟩
  | _ => none

/-- The transaction signature replies of a step. -/
def sentSigs (step : Step target) : List SentSig := step.output.filterMap Effect.sig?

/-- The message signature replies of a step. -/
def sentMessageSigs (step : Step target) : List Effect :=
  step.output.filter fun effect =>
    match effect with
    | .reply (.personalMessageSig _ _) => true
    | _ => false

/-- A request for a signature, by approval or by P1 = 3, is answered with a status word. -/
def SigningError (step : Step target) : Prop :=
  (step.action.input = .decision true ∨ IsNextSignature step)
  ∧ ∃ effect ∈ step.output, match effect with
    | .reply (.sw _) => True
    | _ => False

instance (ctx : GlobalCtx target) : Decidable (SigningAdmitted ctx) :=
  decidable_of_iff (ctx.reqType = .confirmTransaction ∧ ctx.state = .stateApproved)
    ⟨fun both => ⟨both.1, both.2⟩, fun admitted => ⟨admitted.reqType, admitted.state⟩⟩

/-- The commands whose handlers clear the context: `GET_PUBLIC_KEY`, `SIGN_MESSAGE`, a
header, and a P1 = 3 that is not allowed to sign.
-/
def ResetsContext (step : Step target) : Prop :=
  match step.action.input.request with
  | some (.getPublicKey _) | some .signMessage | some .header => True
  | some .nextSignature => ¬ SigningAdmitted step.before.ctx
  | _ => False

section

variable (step : Step target) (session : RequestType)

instance : Decidable (IsHeader step) := inferInstanceAs (Decidable (_ = _))
instance : Decidable (IsNextSignature step) := inferInstanceAs (Decidable (_ = _))
instance : Decidable (Approves session step) := inferInstanceAs (Decidable (_ ∧ _))
instance : Decidable (Rejects step) := inferInstanceAs (Decidable (_ = _))
instance : Decidable (OpensReview session step) := inferInstanceAs (Decidable (_ = _))

instance : Decidable (SigningError step) := by
  have (effect : Effect)
      : Decidable (match effect with
        | .reply (.sw _) => True
        | _ => False) := by
    split <;> infer_instance
  unfold SigningError
  infer_instance

instance : Decidable (ResetsContext step) := by
  unfold ResetsContext
  split <;> infer_instance

end

/-- The state a review waits in. -/
def Review.state : Review → State
  | .transaction _ _ _ => .stateParsed
  | .address _ _ | .message _ _ => .stateNone

/-- `opening` is the step that left `device` waiting for `review`. -/
structure OpenedBy (review : Review) (device : Device target) (opening : Step target) : Prop where
  request : opening.action.input.request.bind Request.reviewed = some review.session
  output : opening.output = [.review review]
  after : opening.after = device

/-- Between two steps: a waiting review was opened by the last step, in its own session, and
a signing session began with a header that no command has cleared since.
-/
structure Ordered (history : List (Step target)) (device : Device target) : Prop where
  session : ∀ review ∈ device.pending, device.ctx.reqType = review.session
  state : ∀ review ∈ device.pending, device.ctx.state = review.state
  opened
    : ∀ review ∈ device.pending,
        ∃ opening before, history = opening :: before ∧ OpenedBy review device opening
  begun
    : device.ctx.reqType = .confirmTransaction
      → Since (fun step => ¬ ResetsContext step) (fun _ step => IsHeader step) history

variable {frontEnd : FrontEnd} {history : List (Step target)} {device : Device target}
  {step : Step target}

theorem transition_of_takes (taken : (machine target frontEnd).Takes step)
    : Transition step.action.env step.before step.action.input step.output step.after :=
  Transition.of_step taken

/-- An APDU is taken while no review waits, and handed to the handler of its request. -/
theorem handles_of_takes {cmd : Command} (taken : (machine target frontEnd).Takes step)
    (input : step.action.input = .apdu cmd)
    : step.before.pending = none
      ∧ handleRequest frontEnd step.action.env cmd.request (cmd.buffer step.action.env)
          step.before.ctx
        = (step.after.ctx, step.output)
      ∧ step.after.pending = openedReview step.output := by
  obtain ⟨⟨ctx, pending⟩, ⟨env, action⟩, effects, after⟩ := step
  simp only at input
  subst input
  cases pending with
  | some review => simp [Machine.Takes, machine, Device.step] at taken
  | none =>
      simp only [Machine.Takes, machine, Device.step, apduDispatcher_eq_handleRequest,
        Option.some.injEq, Prod.mk.injEq] at taken
      obtain ⟨rfl, rfl⟩ := taken
      exact ⟨rfl, rfl, rfl⟩

/-- A decision runs the callback of the review that waits. -/
theorem decides_of_takes {review : Review} {choice : Bool}
    (taken : (machine target frontEnd).Takes step) (waits : step.before.pending = some review)
    (input : step.action.input = .decision choice)
    : decisionCallback step.action.env review choice step.before.ctx
        = (step.after.ctx, step.output)
      ∧ step.after.pending = none := by
  obtain ⟨⟨ctx, pending⟩, ⟨env, action⟩, effects, after⟩ := step
  simp only at waits input
  subst waits input
  simp only [Machine.Takes, machine, Device.step, Option.some.injEq, Prod.mk.injEq] at taken
  obtain ⟨rfl, rfl⟩ := taken
  exact ⟨rfl, rfl⟩

theorem Request.otherSession_ne {request : Request} {other : RequestType}
    (found : request.otherSession = some other)
    : other ≠ .confirmTransaction := by
  cases request <;> simp [Request.otherSession] at found <;> simp [← found]

theorem Ignored.not_resets {ctx : GlobalCtx target} {input : Input} (ignored : Ignored ctx input)
    {step : Step target} (same : step.action.input = input)
    : ¬ ResetsContext step := by
  cases ignored with
  | malformed => simp [ResetsContext, same, Input.request]
  | @plain cmd plain =>
      cases request : cmd.request <;>
        simp [ResetsContext, same, Input.request, request, Request.plain_iff] at plain ⊢
  | output request _ => simp [ResetsContext, same, Input.request, request]
  | input request _ => simp [ResetsContext, same, Input.request, request]

/-- Signing keeps the request type and the state. -/
theorem cryptoSignTransaction_kept {env : Env} {start left : GlobalCtx target} {error : UInt32}
    (result : cryptoSignTransaction env start = (error, left))
    : left.reqType = start.reqType ∧ left.state = start.state := by
  obtain ⟨signature, sighash, written⟩ := cryptoSignTransaction_context env start
  rw [result] at written
  simp only at written
  subst written
  exact ⟨rfl, rfl⟩

/-- Validation keeps the request type and the state. -/
theorem txValidate_kept (env : Env) (ctx : GlobalCtx target)
    : (txValidateParsedTransaction env ctx).2.reqType = ctx.reqType
      ∧ (txValidateParsedTransaction env ctx).2.state = ctx.state := by
  rcases txValidate_context env ctx with same | same <;> rw [same] <;> exact ⟨rfl, rfl⟩

/-- The request type of a signing request is the one it found. -/
theorem SigningRequest.reqType {pending : Option Review} {input : Input}
    {ctx start : GlobalCtx target} (request : SigningRequest pending input ctx start)
    : start.reqType = ctx.reqType := by
  cases request <;> rfl

theorem SigningRequest.not_resets {pending : Option Review} {input : Input}
    {ctx start : GlobalCtx target} (request : SigningRequest pending input ctx start)
    {step : Step target} (same : step.action.input = input) (found : step.before.ctx = ctx)
    : ¬ ResetsContext step := by
  cases request with
  | approval => simp [ResetsContext, same, Input.request]
  | next request admitted =>
      simpa [ResetsContext, same, Input.request, request, found] using admitted

/-- A signing request is the approval of a transaction review or an admitted P1 = 3. -/
theorem SigningRequest.origin {pending : Option Review} {input : Input}
    {ctx start : GlobalCtx target} (request : SigningRequest pending input ctx start)
    : (input = .decision true
        ∧ pending.map Review.session = some .confirmTransaction
        ∧ start = ctx.withState .stateApproved)
      ∨ (∃ cmd,
          input = .apdu cmd
          ∧ cmd.request = .nextSignature
          ∧ pending = none
          ∧ SigningAdmitted ctx
          ∧ start = ctx) := by
  cases request with
  | approval => exact Or.inl ⟨rfl, rfl, rfl⟩
  | next request admitted => exact Or.inr ⟨_, rfl, request, rfl, admitted, rfl⟩

/-- A signing request carries no output and no input. -/
theorem SigningRequest.request_ne {pending : Option Review} {input : Input}
    {ctx start : GlobalCtx target} (request : SigningRequest pending input ctx start)
    : input.request ≠ some .output ∧ ∀ more, input.request ≠ some (.input more) := by
  rcases request.origin with ⟨decision, _⟩ | ⟨cmd, sent, next, _⟩
  · simp [decision, Input.request]
  · simp [sent, Input.request, next]

/-- A signing session is either begun by a header or carried over by a step that does not
clear the context.
-/
theorem session_carried
    (transition
      : Transition step.action.env step.before step.action.input step.output step.after)
    (session : step.after.ctx.reqType = .confirmTransaction)
    : IsHeader step
      ∨ step.before.ctx.reqType = .confirmTransaction ∧ ¬ ResetsContext step := by
  obtain ⟨before, ⟨env, input⟩, output, after⟩ := step
  simp only at transition session
  cases transition with
  | ignored reply ignored unsigned => exact Or.inr ⟨session, ignored.not_resets rfl⟩
  | otherReplied reply request start unsigned =>
      exact absurd (start.reqType.symm.trans session) (Request.otherSession_ne request)
  | otherReviewed request start =>
      exact absurd (start.reqType.symm.trans session) (Request.otherSession_ne request)
  | headerRefused request | headerAccepted request =>
      exact Or.inl (by simp [IsHeader, Input.request, request])
  | outputRefused request admitted | outputAccepted request admitted
  | inputRefused request admitted | inputAccepted request admitted
  | inputInvalid request admitted | inputUndisplayed request admitted
  | inputReviewed request admitted =>
      exact Or.inr ⟨admitted.reqType, by simp [ResetsContext, Input.request, request]⟩
  | nextRefused request refused => simp [GlobalCtx.zero] at session
  | signed request result =>
      have kept := (cryptoSignTransaction_kept result).1.trans request.reqType
      exact Or.inr ⟨kept.symm.trans session, request.not_resets rfl rfl⟩
  | signingFailed request result failed =>
      have kept := (cryptoSignTransaction_kept result).1.trans request.reqType
      exact Or.inr ⟨kept.symm.trans session, request.not_resets rfl rfl⟩
  | addressDecided reply unsigned =>
      exact Or.inr ⟨session, by simp [ResetsContext, Input.request]⟩
  | transactionRejected => exact Or.inr ⟨session, by simp [ResetsContext, Input.request]⟩
  | messageDecided info reply unsigned approved =>
      exact Or.inr ⟨session, by simp [ResetsContext, Input.request]⟩

/-- A step leaves a review waiting only by opening it. -/
theorem openedBy_of_pending
    (transition
      : Transition step.action.env step.before step.action.input step.output step.after)
    {review : Review} (waits : step.after.pending = some review)
    : step.after.ctx.reqType = review.session
      ∧ step.after.ctx.state = review.state
      ∧ OpenedBy review step.after step := by
  obtain ⟨before, ⟨env, input⟩, output, after⟩ := step
  simp only at transition waits
  cases transition with
  | @otherReviewed ctx after cmd opened request start =>
      obtain rfl : opened = review := Option.some.inj waits
      have starts : cmd.request.reviewed = some opened.session := by
        cases kind : cmd.request <;> simp [kind, Request.otherSession] at request <;>
          simp [Request.reviewed, request]
      have state : State.stateNone = opened.state := by
        cases opened with
        | address | message => rfl
        | transaction => exact absurd rfl (Request.otherSession_ne request)
      exact
        ⟨start.reqType, start.state.trans state, by simpa [Input.request] using starts, rfl, rfl⟩
  | inputReviewed request admitted parsed stored valid =>
      obtain rfl := Option.some.inj waits
      have session := (txValidate_kept env _).1.trans
        (congrArg GlobalCtx.reqType stored |>.trans admitted.reqType)
      exact ⟨session, rfl, by simp [Input.request, request, Request.reviewed, Review.session],
        rfl, rfl⟩
  | _ => simp at waits

theorem ordered_next
    (transition
      : Transition step.action.env step.before step.action.input step.output step.after)
    (ordered : Ordered history step.before)
    : Ordered (step :: history) step.after where
  session _ waits := (openedBy_of_pending transition waits).1
  state _ waits := (openedBy_of_pending transition waits).2.1
  opened _ waits := ⟨step, history, rfl, (openedBy_of_pending transition waits).2.2⟩
  begun session := (session_carried transition session).imp id
    (fun carried => ⟨carried.2, ordered.begun carried.1⟩)

theorem ordered_of_run (run : (machine target frontEnd).Run history device)
    : Ordered history device := by
  refine run.invariant Ordered ?_ ?_
  · exact ⟨by simp [machine], by simp [machine], by simp [machine],
      fun session => by simp [machine, GlobalCtx.zero] at session⟩
  · intro earlier step run ordered taken
    exact ordered_next (transition_of_takes taken) ordered

/-- The step signs the input that `signing_input_index` names and sends the signature. -/
structure Signs (step : Step target) (start signed : GlobalCtx target) : Prop where
  request : SigningRequest step.before.pending step.action.input step.before.ctx start
  result : cryptoSignTransaction step.action.env start = (0, signed)
  output : step.output = helperSendResponseSig signed
  after : step.after = ⟨signed.nextInput, none⟩

/-- Whatever asks for a signature, signing starts in an approved signing session. -/
theorem Signs.admitted {start signed : GlobalCtx target} (signs : Signs step start signed)
    (ordered : Ordered history step.before)
    : SigningAdmitted start := by
  rcases signs.request.origin with ⟨_, review, rfl⟩ | ⟨_, _, _, _, admitted, rfl⟩
  · obtain ⟨review, waits, kind⟩ := Option.map_eq_some_iff.mp review
    exact ⟨(ordered.session review waits).trans kind, rfl⟩
  · exact admitted

/-- The step accepts a last input, validates the transaction and shows it. -/
structure Reviews (step : Step target) (cmd : Command) (accepted : GlobalCtx target)
    : Prop where
  input : step.action.input = .apdu cmd
  request : cmd.request = .input false
  admitted : InputAdmitted step.before.ctx
  parsed : (parsedInput step.action.env (cmd.buffer step.action.env) step.before.ctx).1 = .parsingOk
  stored
    : accepted
      = step.before.ctx.acceptInput
          (parsedInput step.action.env (cmd.buffer step.action.env) step.before.ctx).2
  valid : (txValidateParsedTransaction step.action.env accepted).1 = true
  after
    : step.after.ctx
      = (txValidateParsedTransaction step.action.env accepted).2.withState .stateParsed

/-- A header leaves the context of its own payload, and nothing of the one it found. -/
structure Heads (step : Step target) (cmd : Command) : Prop where
  input : step.action.input = .apdu cmd
  request : cmd.request = .header
  output
    : step.output
      = ioSendSw
          (if (parsedHeader target (cmd.buffer step.action.env)).1 = .parsingOk then swOk
          else swTxParsingFail)
  after : step.after = ⟨headed target (cmd.buffer step.action.env), none⟩

theorem heads_of_isHeader
    (transition
      : Transition step.action.env step.before step.action.input step.output step.after)
    (begins : IsHeader step)
    : ∃ cmd, Heads step cmd := by
  obtain ⟨before, ⟨env, input⟩, output, after⟩ := step
  simp only at transition
  cases input with
  | badLength | decision choice => simp [IsHeader, Input.request] at begins
  | apdu cmd =>
      have request : cmd.request = .header := Option.some.inj begins
      cases transition with
      | headerRefused _ failed =>
          exact ⟨cmd, rfl, request, by simp only [if_neg failed], rfl⟩
      | headerAccepted _ parsed =>
          exact ⟨cmd, rfl, request, by simp only [if_pos parsed], rfl⟩
      | ignored reply ignored unsigned =>
          cases ignored <;> simp_all [Request.plain_iff]
      | signed signing result => cases signing; simp_all
      | signingFailed signing result failed => cases signing; simp_all
      | _ => simp_all [Request.otherSession]

/-- A P1 = 3 that is not allowed to sign is answered with `SW_BAD_STATE`. -/
theorem nextRefused_of_transition
    (transition
      : Transition step.action.env step.before step.action.input step.output step.after)
    (next : IsNextSignature step) (refused : ¬ SigningAdmitted step.before.ctx)
    : step.output = ioSendSw swBadState := by
  obtain ⟨before, ⟨env, input⟩, output, after⟩ := step
  simp only at transition
  cases input with
  | badLength | decision choice => simp [IsNextSignature, Input.request] at next
  | apdu cmd =>
      have request : cmd.request = .nextSignature := Option.some.inj next
      cases transition with
      | nextRefused => rfl
      | ignored reply ignored unsigned => cases ignored <;> simp_all [Request.plain_iff]
      | signed signing result => cases signing; exact absurd ‹_› refused
      | signingFailed signing result failed => cases signing; exact absurd ‹_› refused
      | _ => simp_all [Request.otherSession]

theorem sig?_of_unsigned {reply : Reply} (unsigned : ¬ reply.IsTransactionSig)
    : Effect.sig? (.reply reply) = none := by
  cases reply with
  | sig => exact absurd trivial unsigned
  | _ => rfl

/-- Transaction signatures are sent only by signing. -/
theorem signs_of_sentSigs
    (transition
      : Transition step.action.env step.before step.action.input step.output step.after)
    (sends : sentSigs step ≠ [])
    : ∃ start signed, Signs step start signed := by
  obtain ⟨before, ⟨env, input⟩, output, after⟩ := step
  simp only at transition
  cases transition with
  | signed request result => exact ⟨_, _, request, result, rfl, rfl⟩
  | ignored reply _ unsigned | otherReplied reply _ _ unsigned | addressDecided reply unsigned =>
      simp [sentSigs, sig?_of_unsigned unsigned.1] at sends
  | messageDecided info reply unsigned approved =>
      simp [sentSigs, sig?_of_unsigned unsigned] at sends
  | _ => simp [sentSigs, ioSendSw, Effect.sig?] at sends

/-- A transaction review is opened only by an accepted last input. -/
theorem reviews_of_opensReview
    (transition
      : Transition step.action.env step.before step.action.input step.output step.after)
    (opens : OpensReview .confirmTransaction step)
    : ∃ cmd accepted, Reviews step cmd accepted := by
  obtain ⟨before, ⟨env, input⟩, output, after⟩ := step
  simp only at transition
  cases transition with
  | inputReviewed request admitted parsed stored valid =>
      exact ⟨_, _, rfl, request, admitted, parsed, stored, valid, rfl⟩
  | otherReviewed request start =>
      exact absurd (Option.some.inj opens) (Request.otherSession_ne request)
  | _ => simp [OpensReview, openedReview, ioSendSw, helperSendResponseSig] at opens

end KaspaApp
