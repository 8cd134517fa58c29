import KaspaApp.Session.Events

/-! The steps of a signing session: what each can do to the transaction being parsed,
reviewed and signed.
-/

namespace KaspaApp

open Histories

variable {target : Target} {frontEnd : FrontEnd} {history : List (Step target)}
  {device : Device target} {step : Step target}

/-- The effects send no transaction signature and open no transaction review. -/
def Silent (step : Step target) : Prop :=
  sentSigs step = [] ∧ ¬ OpensReview .confirmTransaction step

/-- The command of the step and the request it makes. -/
structure Commands (step : Step target) (cmd : Command) (request : Request) : Prop where
  input : step.action.input = .apdu cmd
  request : cmd.request = request

/-- What the output parser makes of the payload of a step. -/
def outputOf (step : Step target) (cmd : Command) : ParserStatus × TransactionOutput :=
  parsedOutput step.action.env (cmd.buffer step.action.env) step.before.ctx

def inputOf (step : Step target) (cmd : Command) : ParserStatus × TransactionInput :=
  parsedInput step.action.env (cmd.buffer step.action.env) step.before.ctx

instance (ctx : GlobalCtx target) : Decidable (OutputAdmitted ctx) :=
  decidable_of_iff
    (ctx.reqType = .confirmTransaction
      ∧ ctx.txInfo.parsingOutputIndex < UInt8.ofNat maxOutputCount
      ∧ ctx.txInfo.parsingOutputIndex < ctx.txInfo.transaction.txOutputLen.toUInt8)
    ⟨fun all => ⟨all.1, all.2.1, all.2.2⟩,
      fun admitted => ⟨admitted.reqType, admitted.belowArray, admitted.belowCount⟩⟩

instance (ctx : GlobalCtx target) : Decidable (InputAdmitted ctx) :=
  decidable_of_iff
    (ctx.reqType = .confirmTransaction
      ∧ ctx.txInfo.parsingInputIndex < UInt8.ofNat target.maxInputCount
      ∧ ctx.txInfo.parsingInputIndex < ctx.txInfo.transaction.txInputLen.toUInt8)
    ⟨fun all => ⟨all.1, all.2.1, all.2.2⟩,
      fun admitted => ⟨admitted.reqType, admitted.belowArray, admitted.belowCount⟩⟩

/-- The payload of a P1 = 1 command that the output parser accepts. -/
def acceptedOutput (step : Step target) : Option (List UInt8) :=
  match step.action.input with
  | .apdu cmd =>
      if cmd.request = .output ∧ OutputAdmitted step.before.ctx
          ∧ (outputOf step cmd).1 = .parsingOk then
        some cmd.data
      else
        none
  | _ => none

/-- The payload of a P1 = 2 command that the input parser accepts. -/
def acceptedInput (step : Step target) : Option (List UInt8) :=
  match step.action.input with
  | .apdu cmd =>
      if (cmd.request = .input true ∨ cmd.request = .input false)
          ∧ InputAdmitted step.before.ctx ∧ (inputOf step cmd).1 = .parsingOk then
        some cmd.data
      else
        none
  | _ => none

/-- The step is a P1 = 1 or P1 = 2 command that reaches its parser, which writes into a slot
whether or not it accepts the payload.
-/
def WritesSlot (step : Step target) : Prop :=
  match step.action.input with
  | .apdu cmd =>
      (cmd.request = .output ∧ OutputAdmitted step.before.ctx)
      ∨ ((cmd.request = .input true ∨ cmd.request = .input false)
        ∧ InputAdmitted step.before.ctx)
  | _ => False

instance (step : Step target) : Decidable (WritesSlot step) := by
  unfold WritesSlot
  split <;> infer_instance

/-- The context in which a last input is validated. -/
def lastAccepted (step : Step target) (cmd : Command) : GlobalCtx target :=
  step.before.ctx.acceptInput (inputOf step cmd).2

/-- The step is a P1 = 2 command with `P2_LAST` whose payload reaches its parser and passes it.
-/
def AcceptsLastInput (step : Step target) : Prop :=
  match step.action.input with
  | .apdu cmd =>
      cmd.request = .input false ∧ InputAdmitted step.before.ctx
      ∧ (inputOf step cmd).1 = .parsingOk
  | _ => False

instance (step : Step target) : Decidable (AcceptsLastInput step) := by
  unfold AcceptsLastInput
  split <;> infer_instance

theorem acceptsLastInput {cmd : Command} (command : Commands step cmd (.input false))
    (admitted : InputAdmitted step.before.ctx) (parsed : (inputOf step cmd).1 = .parsingOk)
    : AcceptsLastInput step := by
  rw [AcceptsLastInput, command.input]
  exact ⟨command.request, admitted, parsed⟩

theorem AcceptsLastInput.admitted (lastInput : AcceptsLastInput step)
    : InputAdmitted step.before.ctx := by
  unfold AcceptsLastInput at lastInput
  split at lastInput
  · exact lastInput.2.1
  · exact lastInput.elim

/-- One step of a signing session. -/
inductive SessionStep (step : Step target) : Prop
  | header {cmd : Command} (heads : Heads step cmd) (silent : Silent step)
  | idle (silent : Silent step) (noOutput : acceptedOutput step = none)
    (noInput : acceptedInput step = none) (txInfo : step.after.ctx.txInfo = step.before.ctx.txInfo)
    (path : step.after.ctx.bip32Path = step.before.ctx.bip32Path)
    (state : step.after.ctx.state = step.before.ctx.state ∨ step.after.ctx.state = .stateNone)
  | outputRefused {cmd : Command} (command : Commands step cmd .output)
    (admitted : OutputAdmitted step.before.ctx) (failed : (outputOf step cmd).1 ≠ .parsingOk)
    (silent : Silent step)
    (after : step.after = ⟨step.before.ctx.storeOutput (outputOf step cmd).2, none⟩)
  | outputAccepted {cmd : Command} (command : Commands step cmd .output)
    (admitted : OutputAdmitted step.before.ctx) (parsed : (outputOf step cmd).1 = .parsingOk)
    (silent : Silent step)
    (after : step.after = ⟨step.before.ctx.acceptOutput (outputOf step cmd).2, none⟩)
  | inputRefused {cmd : Command} {more : Bool} (command : Commands step cmd (.input more))
    (admitted : InputAdmitted step.before.ctx) (failed : (inputOf step cmd).1 ≠ .parsingOk)
    (silent : Silent step)
    (after : step.after = ⟨step.before.ctx.storeInput (inputOf step cmd).2, none⟩)
  | inputAccepted {cmd : Command} (command : Commands step cmd (.input true))
    (admitted : InputAdmitted step.before.ctx) (parsed : (inputOf step cmd).1 = .parsingOk)
    (silent : Silent step)
    (after : step.after = ⟨step.before.ctx.acceptInput (inputOf step cmd).2, none⟩)
  | inputInvalid {cmd : Command} (command : Commands step cmd (.input false))
    (admitted : InputAdmitted step.before.ctx) (parsed : (inputOf step cmd).1 = .parsingOk)
    (invalid : (txValidateParsedTransaction step.action.env (lastAccepted step cmd)).1 = false)
    (silent : Silent step)
    (after
      : step.after
        = ⟨(txValidateParsedTransaction step.action.env (lastAccepted step cmd)).2, none⟩)
  | inputValid {cmd : Command} (command : Commands step cmd (.input false))
    (admitted : InputAdmitted step.before.ctx) (parsed : (inputOf step cmd).1 = .parsingOk)
    (valid : (txValidateParsedTransaction step.action.env (lastAccepted step cmd)).1 = true)
    (unsigned : sentSigs step = [])
    (after
      : step.after.ctx
        = (txValidateParsedTransaction step.action.env (lastAccepted step cmd)).2.withState
            .stateParsed)
  | signed {start signed : GlobalCtx target} (signs : Signs step start signed)
    (unopened : ¬ OpensReview .confirmTransaction step)
  | signingFailed {start left : GlobalCtx target} {error : UInt32}
    (request
      : SigningRequest step.before.pending step.action.input step.before.ctx start)
    (result : cryptoSignTransaction step.action.env start = (error, left)) (silent : Silent step)
    (after : step.after = ⟨left.withState .stateNone, none⟩)

theorem silent_of_reply {reply : Reply} (output : step.output = [.reply reply])
    (unsigned : ¬ reply.IsTransactionSig)
    : Silent step := by
  constructor
  · simp [sentSigs, output, sig?_of_unsigned unsigned]
  · simp [OpensReview, output, openedReview]

theorem silent_of_word {code : UInt16} (output : step.output = ioSendSw code) : Silent step :=
  silent_of_reply output id

theorem acceptedOutput_eq_none (other : step.action.input.request ≠ some .output)
    : acceptedOutput step = none := by
  unfold acceptedOutput
  split
  · next cmd input =>
      rw [input] at other
      exact if_neg fun accepted => other (congrArg some accepted.1)
  · rfl

theorem acceptedInput_eq_none (other : ∀ more, step.action.input.request ≠ some (.input more))
    : acceptedInput step = none := by
  unfold acceptedInput
  split
  · next cmd input =>
      rw [input] at other
      exact if_neg fun accepted =>
        accepted.1.elim (fun more => other true (congrArg some more))
          (fun last => other false (congrArg some last))
  · rfl

/-- An ignored command hands no payload to a parser. -/
theorem Ignored.unaccepted (step : Step target)
    (ignored : Ignored step.before.ctx step.action.input)
    : acceptedOutput step = none ∧ acceptedInput step = none := by
  generalize found : step.before.ctx = ctx at ignored
  generalize same : step.action.input = input at ignored
  cases ignored with
  | malformed =>
      exact ⟨acceptedOutput_eq_none (by simp [same, Input.request]),
        acceptedInput_eq_none (by simp [same, Input.request])⟩
  | @plain cmd plain =>
      have request : step.action.input.request = some cmd.request := by rw [same]; rfl
      constructor
      · refine acceptedOutput_eq_none fun output => ?_
        rw [Option.some.inj (request.symm.trans output)] at plain
        exact plain
      · refine acceptedInput_eq_none fun more input => ?_
        rw [Option.some.inj (request.symm.trans input)] at plain
        exact plain
  | @output cmd request full =>
      refine ⟨?_, acceptedInput_eq_none (by simp [same, Input.request, request])⟩
      rw [acceptedOutput, same]
      exact if_neg fun accepted => full (found ▸ accepted.2.1)
  | @input cmd more request full =>
      refine ⟨acceptedOutput_eq_none (by simp [same, Input.request, request]), ?_⟩
      rw [acceptedInput, same]
      exact if_neg fun accepted => full (found ▸ accepted.2.1)

/-- An ignored command does not reach a parser. -/
theorem Ignored.not_writesSlot (ignored : Ignored step.before.ctx step.action.input)
    : ¬ WritesSlot step := by
  generalize found : step.before.ctx = ctx at ignored
  generalize same : step.action.input = input at ignored
  unfold WritesSlot
  rw [same, found]
  cases ignored with
  | malformed => exact id
  | @plain cmd plain =>
      rintro (⟨output, -⟩ | ⟨more | last, -⟩)
      · rw [output] at plain; exact plain
      · rw [more] at plain; exact plain
      · rw [last] at plain; exact plain
  | output request full =>
      rintro (⟨-, admitted⟩ | ⟨more | last, -⟩)
      · exact full admitted
      · simp [request] at more
      · simp [request] at last
  | @input cmd more request full =>
      rintro (⟨output, -⟩ | ⟨-, admitted⟩)
      · simp [request] at output
      · exact full admitted

theorem SigningRequest.unaccepted {start : GlobalCtx target}
    (request : SigningRequest step.before.pending step.action.input step.before.ctx start)
    : acceptedOutput step = none ∧ acceptedInput step = none := by
  exact ⟨acceptedOutput_eq_none request.request_ne.1, acceptedInput_eq_none request.request_ne.2⟩

/-- Every step that leaves a signing session active is one of its steps. -/
theorem sessionStep_of_transition
    (transition
      : Transition step.action.env step.before step.action.input step.output step.after)
    (ordered : Ordered history step.before)
    (session : step.after.ctx.reqType = .confirmTransaction)
    : SessionStep step := by
  rcases session_carried transition session with begins | ⟨carried, _⟩
  · obtain ⟨cmd, heads⟩ := heads_of_isHeader transition begins
    exact .header heads (silent_of_word heads.output)
  · obtain ⟨before, ⟨env, input⟩, output, after⟩ := step
    simp only at transition session carried ordered
    cases transition with
    | ignored reply ignored unsigned =>
        obtain ⟨noOutput, noInput⟩ :=
          Ignored.unaccepted ⟨⟨_, none⟩, ⟨env, input⟩, [.reply reply], ⟨_, none⟩⟩ ignored
        exact .idle (silent_of_reply rfl unsigned.1) noOutput noInput rfl rfl (Or.inl rfl)
    | otherReplied reply request start unsigned =>
        exact absurd (start.reqType.symm.trans session) (Request.otherSession_ne request)
    | otherReviewed request start =>
        exact absurd (start.reqType.symm.trans session) (Request.otherSession_ne request)
    | headerRefused request failed =>
        exact .header ⟨rfl, request, by simp only [if_neg failed], rfl⟩ (silent_of_word rfl)
    | headerAccepted request parsed =>
        exact .header ⟨rfl, request, by simp only [if_pos parsed], rfl⟩ (silent_of_word rfl)
    | outputRefused request admitted failed =>
        exact .outputRefused ⟨rfl, request⟩ admitted failed (silent_of_word rfl) rfl
    | outputAccepted request admitted parsed =>
        exact .outputAccepted ⟨rfl, request⟩ admitted parsed (silent_of_word rfl) rfl
    | inputRefused request admitted failed =>
        exact .inputRefused ⟨rfl, request⟩ admitted failed (silent_of_word rfl) rfl
    | inputAccepted request admitted parsed =>
        exact .inputAccepted ⟨rfl, request⟩ admitted parsed (silent_of_word rfl) rfl
    | inputInvalid request admitted parsed stored invalid =>
        subst stored
        exact .inputInvalid ⟨rfl, request⟩ admitted parsed invalid (silent_of_word rfl) rfl
    | inputUndisplayed request admitted parsed stored valid =>
        subst stored
        exact .inputValid ⟨rfl, request⟩ admitted parsed valid (by rfl) rfl
    | inputReviewed request admitted parsed stored valid =>
        subst stored
        exact .inputValid ⟨rfl, request⟩ admitted parsed valid (by rfl) rfl
    | nextRefused request refused => simp [GlobalCtx.zero] at session
    | signed request result =>
        exact .signed ⟨request, result, rfl, rfl⟩
          (by simp [OpensReview, helperSendResponseSig, openedReview])
    | signingFailed request result failed =>
        exact .signingFailed request result (silent_of_word rfl) rfl
    | transactionRejected => exact .idle (silent_of_word rfl) rfl rfl rfl rfl (Or.inr rfl)
    | addressDecided | messageDecided =>
        exact absurd ((ordered.session _ rfl).symm.trans carried) (by simp [Review.session])

/-- The two transactions have the same header fields. -/
structure SameHeader (left right : Transaction target) : Prop where
  version : left.version = right.version
  account : left.account = right.account
  txInputLen : left.txInputLen = right.txInputLen
  txOutputLen : left.txOutputLen = right.txOutputLen

/-- Signing leaves the transaction and the signing index as they are. -/
theorem cryptoSignTransaction_txInfo {env : Env} {start left : GlobalCtx target} {error : UInt32}
    (result : cryptoSignTransaction env start = (error, left))
    : left.txInfo.transaction = start.txInfo.transaction
      ∧ left.txInfo.signingInputIndex = start.txInfo.signingInputIndex
      ∧ left.txInfo.parsingInputIndex = start.txInfo.parsingInputIndex
      ∧ left.txInfo.parsingOutputIndex = start.txInfo.parsingOutputIndex := by
  obtain ⟨signature, sighash, written⟩ := cryptoSignTransaction_context env start
  rw [result] at written
  simp only at written
  subst written
  exact ⟨rfl, rfl, rfl, rfl⟩

theorem SigningRequest.txInfo {pending : Option Review} {input : Input}
    {ctx start : GlobalCtx target} (request : SigningRequest pending input ctx start)
    : start.txInfo = ctx.txInfo := by
  cases request <;> rfl

/-- A signing request leaves the transaction and the three counters of the context it found. -/
theorem SigningRequest.signed_txInfo {env : Env} {pending : Option Review} {input : Input}
    {ctx start left : GlobalCtx target} {error : UInt32}
    (request : SigningRequest pending input ctx start)
    (result : cryptoSignTransaction env start = (error, left))
    : left.txInfo.transaction = ctx.txInfo.transaction
      ∧ left.txInfo.signingInputIndex = ctx.txInfo.signingInputIndex
      ∧ left.txInfo.parsingInputIndex = ctx.txInfo.parsingInputIndex
      ∧ left.txInfo.parsingOutputIndex = ctx.txInfo.parsingOutputIndex := by
  rw [← request.txInfo]
  exact cryptoSignTransaction_txInfo result

theorem txValidate_txInfo (env : Env) (ctx : GlobalCtx target)
    : (txValidateParsedTransaction env ctx).2.txInfo = ctx.txInfo := by
  rcases txValidate_context env ctx with same | same
  · rw [same]
  · rw [same]
    rfl

/-- Within a session, only a header writes the header fields. -/
theorem SessionStep.sameHeader (taken : SessionStep step) (other : ¬ IsHeader step)
    : SameHeader step.after.ctx.txInfo.transaction step.before.ctx.txInfo.transaction := by
  cases taken with
  | header heads =>
      exact absurd (by simp [IsHeader, heads.input, Input.request, heads.request]) other
  | idle silent noOutput noInput txInfo => rw [txInfo]; exact ⟨rfl, rfl, rfl, rfl⟩
  | outputRefused command admitted failed silent after
  | outputAccepted command admitted failed silent after
  | inputRefused command admitted failed silent after
  | inputAccepted command admitted failed silent after =>
      rw [after]; exact ⟨rfl, rfl, rfl, rfl⟩
  | inputInvalid command admitted parsed invalid silent after =>
      rw [after, txValidate_txInfo]
      exact ⟨rfl, rfl, rfl, rfl⟩
  | inputValid command admitted parsed valid unsigned after =>
      rw [after, GlobalCtx.txInfo_withState, txValidate_txInfo]
      exact ⟨rfl, rfl, rfl, rfl⟩
  | signed signs unopened =>
      simp only [signs.after, GlobalCtx.transaction_nextInput,
        (signs.request.signed_txInfo signs.result).1]
      exact ⟨rfl, rfl, rfl, rfl⟩
  | signingFailed request result silent after =>
      simp only [after, GlobalCtx.txInfo_withState, (request.signed_txInfo result).1]
      exact ⟨rfl, rfl, rfl, rfl⟩

/-- A step that sends no signature leaves the signing index as it is. -/
theorem SessionStep.signingIndex (taken : SessionStep step) (other : ¬ IsHeader step)
    (unsent : sentSigs step = [])
    : step.after.ctx.txInfo.signingInputIndex = step.before.ctx.txInfo.signingInputIndex := by
  cases taken with
  | header heads =>
      exact absurd (by simp [IsHeader, heads.input, Input.request, heads.request]) other
  | idle silent noOutput noInput txInfo => rw [txInfo]
  | outputRefused command admitted failed silent after
  | outputAccepted command admitted failed silent after
  | inputRefused command admitted failed silent after
  | inputAccepted command admitted failed silent after =>
      rw [after]
      rfl
  | inputInvalid command admitted parsed invalid silent after =>
      rw [after, txValidate_txInfo]
      rfl
  | inputValid command admitted parsed valid unsigned after =>
      rw [after, GlobalCtx.txInfo_withState, txValidate_txInfo]
      rfl
  | signed signs unopened =>
      simp [sentSigs, signs.output, helperSendResponseSig, Effect.sig?] at unsent
  | signingFailed request result silent after =>
      rw [after, GlobalCtx.txInfo_withState, (request.signed_txInfo result).2.1]

/-- A step that sends no signature does not move the signing index of an approved session,
nor approve it.
-/
theorem SessionStep.unsent (taken : SessionStep step) (unsent : sentSigs step = [])
    (approved : step.after.ctx.state = .stateApproved)
    : step.before.ctx.state = .stateApproved
      ∧ step.after.ctx.txInfo.signingInputIndex
        = step.before.ctx.txInfo.signingInputIndex := by
  cases taken with
  | header heads =>
      rw [heads.after] at approved
      exact absurd approved (show State.stateNone ≠ .stateApproved by decide)
  | idle silent noOutput noInput txInfo path state =>
      refine ⟨state.elim (fun same => same.symm.trans approved) (fun cleared => ?_), by rw [txInfo]⟩
      exact absurd (cleared.symm.trans approved) (by decide)
  | outputRefused command admitted failed silent after
  | outputAccepted command admitted failed silent after
  | inputRefused command admitted failed silent after
  | inputAccepted command admitted failed silent after =>
      rw [after] at approved ⊢
      exact ⟨approved, rfl⟩
  | @inputInvalid cmd command admitted parsed invalid silent after =>
      have kept := (txValidate_kept step.action.env (lastAccepted step cmd)).2
      rw [after] at approved ⊢
      refine ⟨kept.symm.trans approved, ?_⟩
      rw [txValidate_txInfo]
      rfl
  | inputValid command admitted parsed valid unsigned after =>
      rw [after] at approved
      exact absurd approved (by simp)
  | signed signs unopened =>
      simp [sentSigs, signs.output, helperSendResponseSig, Effect.sig?] at unsent
  | signingFailed request result silent after =>
      rw [after] at approved
      exact absurd approved (by simp)

theorem not_isHeader_of_kept (kept : ¬ ResetsContext step) : ¬ IsHeader step := by
  intro begins
  simp [ResetsContext, show step.action.input.request = some .header from begins] at kept

/-- An approved session that a step leaves without sending a signature is the one it found.
-/
theorem admitted_carried
    (transition
      : Transition step.action.env step.before step.action.input step.output step.after)
    (ordered : Ordered history step.before) (unsent : sentSigs step = [])
    (admitted : SigningAdmitted step.after.ctx)
    : SigningAdmitted step.before.ctx
      ∧ step.after.ctx.txInfo.signingInputIndex = step.before.ctx.txInfo.signingInputIndex
      ∧ SameHeader step.after.ctx.txInfo.transaction step.before.ctx.txInfo.transaction := by
  have taken := sessionStep_of_transition transition ordered admitted.reqType
  obtain ⟨state, index⟩ := taken.unsent unsent admitted.state
  rcases session_carried transition admitted.reqType with begins | ⟨carried, kept⟩
  · obtain ⟨cmd, heads⟩ := heads_of_isHeader transition begins
    have approved := admitted.state
    rw [heads.after] at approved
    exact absurd approved (show State.stateNone ≠ .stateApproved by decide)
  · exact ⟨⟨carried, state⟩, index, taken.sameHeader (not_isHeader_of_kept kept)⟩

end KaspaApp
