import KaspaApp.Session.Slots

/-! What a refused output or input command leaves behind. The parsers write into their slot while
they read the payload, and a last input is counted, and the path forced, before the transaction
has been validated and shown.
-/

namespace KaspaApp

open Histories

variable {target : Target} {frontEnd : FrontEnd} {step : Step target} {cmd : Command}

/-- A `SIGN_TX` APDU with P1 = 1 or P1 = 2. -/
structure Command.IsPart (cmd : Command) : Prop where
  cla : cmd.cla = kaspaCla
  ins : cmd.ins = insSignTx
  p1 : cmd.p1 = p1Outputs ∨ cmd.p1 = p1Inputs

/-- The step answers such a command with an error. -/
structure RefusesPart (step : Step target) : Prop where
  part : ∃ cmd, step.action.input = .apdu cmd ∧ cmd.IsPart
  answer : ∃ code, code ≠ swOk ∧ step.output = ioSendSw code

/-- The context in which `payload` has been stored in its slot and counted. -/
def inputCounted (step : Step target) (payload : InputPayload) : GlobalCtx target :=
  let ctx := step.before.ctx
  let slot := ctx.txInfo.parsingInputIndex.toNat
  let old := ctx.txInfo.transaction.input (step.action.env.stray .signTx) slot
  ctx.acceptInput (payload.into old)

/-- A last input is refused after it was counted: by the validation, which may have forced the
start of the path, or because an amount could not be formatted.
-/
inductive RefusedAfterCount (step : Step target) (counted : GlobalCtx target) : Prop
  | invalid (checked : GlobalCtx target)
    (path : checked = counted ∨ checked = counted.withPath (changePath counted))
    (answer : step.output = ioSendSw swTxParsingFail) (after : step.after.ctx = checked)
  | undisplayed (checked : GlobalCtx target)
    (path : checked = counted ∨ checked = counted.withPath (changePath counted))
    (answer : step.output = ioSendSw swDisplayAmountFail)
    (after : step.after.ctx = checked.withState .stateParsed)

/-- What a refused command may have changed: nothing in front of its parser, its own slot if the
parser refuses it, and the slot, the counter, the path and the state if it is a last input that
the parser accepts.
-/
structure RefusalKeeps (step : Step target) : Prop where
  unread : ¬ WritesSlot step → step.after.ctx = step.before.ctx
  output
    : WritesSlot step
      → step.action.input.request = some .output
      → ∃ txout, step.after.ctx = step.before.ctx.storeOutput txout
  input
    : WritesSlot step
      → ¬ AcceptsLastInput step
      → (∃ more, step.action.input.request = some (.input more))
      → ∃ txin, step.after.ctx = step.before.ctx.storeInput txin
  lastInput
    : AcceptsLastInput step
      → ∃ payload : InputPayload,
          acceptedInput step = some payload.serialize
          ∧ RefusedAfterCount step (inputCounted step payload)

/-- The dispatcher takes an output or input command for one, or refuses it. -/
theorem Command.IsPart.request (part : cmd.IsPart)
    : (∃ code, cmd.request = .refused code)
      ∨ cmd.request = .output
      ∨ ∃ more, cmd.request = .input more := by
  have sign : cmd.request = cmd.signTxRequest := by
    simp [Command.request, part.cla, part.ins, insGetVersion, insGetAppName, insGetPublicKey,
      insSignTx]
  rw [sign, Command.signTxRequest]
  split
  · exact Or.inl ⟨_, rfl⟩
  split
  · exact Or.inl ⟨_, rfl⟩
  rcases part.p1 with outputs | inputs
  · exact Or.inr (Or.inl (by simp [outputs, p1Start, p1Outputs]))
  · exact Or.inr (Or.inr ⟨_, by simp [inputs, p1Start, p1Outputs, p1Inputs]; rfl⟩)

/-- Each answer leaves the context that `RefusalKeeps` speaks of. -/
theorem keeps_of_unread (unwritten : ¬ WritesSlot step)
    (same : step.after.ctx = step.before.ctx)
    : RefusalKeeps step where
  unread _ := same
  output writes _ := absurd writes unwritten
  input writes _ _ := absurd writes unwritten
  lastInput accepts := by
    refine absurd ?_ unwritten
    unfold AcceptsLastInput at accepts
    unfold WritesSlot
    split at accepts
    · exact Or.inr ⟨Or.inr accepts.1, accepts.2.1⟩
    · exact accepts.elim

theorem acceptsLastInput_request (accepts : AcceptsLastInput step)
    : step.action.input.request = some (.input false) := by
  unfold AcceptsLastInput at accepts
  split at accepts
  · next cmd input =>
      rw [input]
      exact congrArg some accepts.1
  · exact accepts.elim

/-- A payload that a parser refuses changes its slot only. -/
theorem keeps_of_output {cmd : Command} (command : Commands step cmd .output)
    (admitted : OutputAdmitted step.before.ctx)
    (after : step.after.ctx = step.before.ctx.storeOutput (outputOf step cmd).2)
    : RefusalKeeps step where
  unread unwritten := absurd (writesSlot_of_output command admitted) unwritten
  output _ _ := ⟨_, after⟩
  input _ _ request := by
    obtain ⟨more, request⟩ := request
    simp [command.input, Input.request, command.request] at request
  lastInput accepts := by
    have request := acceptsLastInput_request accepts
    simp [command.input, Input.request, command.request] at request

theorem keeps_of_input {cmd : Command} {more : Bool} (command : Commands step cmd (.input more))
    (admitted : InputAdmitted step.before.ctx) (failed : (inputOf step cmd).1 ≠ .parsingOk)
    (after : step.after.ctx = step.before.ctx.storeInput (inputOf step cmd).2)
    : RefusalKeeps step where
  unread unwritten := absurd (writesSlot_of_input command admitted) unwritten
  output _ request := by simp [command.input, Input.request, command.request] at request
  input _ _ _ := ⟨_, after⟩
  lastInput accepts := by
    unfold AcceptsLastInput at accepts
    rw [command.input] at accepts
    exact absurd accepts.2.2 failed

/-- The payload of an accepted last input is counted in its slot. -/
theorem lastAccepted_eq {cmd : Command} (parsed : (inputOf step cmd).1 = .parsingOk)
    : ∃ payload : InputPayload,
        cmd.data = payload.serialize ∧ lastAccepted step cmd = inputCounted step payload := by
  obtain ⟨payload, bytes⟩ := input_of_parsed parsed
  have stored : (inputOf step cmd).2 = payload.into _ :=
    congrArg Prod.snd (transactionInputDeserialize_serialize bytes)
  rw [Command.rest_buffer] at bytes
  exact ⟨payload, bytes, congrArg step.before.ctx.acceptInput stored⟩

/-- A last input that is counted and refused changes what `RefusedAfterCount` lists. -/
theorem keeps_of_lastInput {cmd : Command} (command : Commands step cmd (.input false))
    (admitted : InputAdmitted step.before.ctx) (parsed : (inputOf step cmd).1 = .parsingOk)
    (refused : RefusedAfterCount step (lastAccepted step cmd))
    : RefusalKeeps step where
  unread unwritten := absurd (writesSlot_of_input command admitted) unwritten
  output _ request := by simp [command.input, Input.request, command.request] at request
  input _ unaccepted _ := absurd (acceptsLastInput command admitted parsed) unaccepted
  lastInput _ := by
    obtain ⟨payload, bytes, counted⟩ := lastAccepted_eq parsed
    rw [counted] at refused
    exact ⟨payload, bytes ▸ acceptedInput_of_parsed command admitted parsed, refused⟩

/-- A P1 = 1 or P1 = 2 command that is answered with an error changes no more than its own slot;
only a last input whose payload is accepted also changes the input counter, and then the start of
the path when the validation has forced it, and the state when an amount could not be shown.
-/
theorem refusedPart_keeps (taken : (machine target frontEnd).Takes step)
    (refuses : RefusesPart step)
    : RefusalKeeps step := by
  have transition := transition_of_takes taken
  obtain ⟨⟨cmd, input, part⟩, ⟨code, failed, answer⟩⟩ := refuses
  have request := part.request
  obtain ⟨before, ⟨env, action⟩, output, after⟩ := step
  simp only at transition input answer
  subst input
  cases transition with
  | ignored reply ignored unsigned => exact keeps_of_unread ignored.not_writesSlot rfl
  | outputRefused kind admitted refused =>
      exact keeps_of_output ⟨rfl, kind⟩ admitted rfl
  | inputRefused kind admitted refused =>
      exact keeps_of_input ⟨rfl, kind⟩ admitted refused rfl
  | inputInvalid kind admitted parsed stored invalid =>
      subst stored
      exact keeps_of_lastInput ⟨rfl, kind⟩ admitted parsed
        (.invalid _ (txValidate_context env _) rfl rfl)
  | inputUndisplayed kind admitted parsed stored valid =>
      subst stored
      exact keeps_of_lastInput ⟨rfl, kind⟩ admitted parsed
        (.undisplayed _ (txValidate_context env _) rfl rfl)
  | outputAccepted | inputAccepted =>
      simp only [ioSendSw, List.cons.injEq, Effect.reply.injEq, Reply.sw.injEq, and_true] at answer
      exact absurd answer.symm failed
  | inputReviewed => simp [ioSendSw] at answer
  | otherReplied reply kind | otherReviewed kind | headerRefused kind | headerAccepted kind
  | nextRefused kind =>
      rcases request with ⟨code, request⟩ | request | ⟨more, request⟩ <;>
        simp [request, Request.otherSession] at kind
  | signed signing result =>
      cases signing
      rcases request with ⟨code, request⟩ | request | ⟨more, request⟩ <;> simp_all
  | signingFailed signing result =>
      cases signing
      rcases request with ⟨code, request⟩ | request | ⟨more, request⟩ <;> simp_all

/-- The step that the dispatcher makes of an APDU while no review waits. -/
def apduStep (frontEnd : FrontEnd) (env : Env) (cmd : Command) (ctx : GlobalCtx target)
    : Step target :=
  let result := apduDispatcher frontEnd env cmd ctx
  ⟨⟨ctx, none⟩, ⟨env, .apdu cmd⟩, result.2, ⟨result.1, openedReview result.2⟩⟩

theorem takes_apduStep (frontEnd : FrontEnd) (env : Env) (cmd : Command) (ctx : GlobalCtx target)
    : (machine target frontEnd).Takes (apduStep frontEnd env cmd ctx) :=
  rfl

/-- A value, and a script tag that no output has. -/
def scriptless : Command :=
  signTxCommand p1Outputs p2More (FixedWidth.bigEndian 8 4 ++ [0])

theorem scriptless_isPart : scriptless.IsPart := ⟨rfl, rfl, Or.inl rfl⟩

/-- The context that an accepted header with one output leaves. -/
def oneOutput : GlobalCtx .nanos :=
  headed .nanos ((headerCommand (plainHeader 1 1)).buffer .succeeding)

theorem refusedPart_keeps_sample
    : ∃ txout,
        (apduDispatcher .bagl .succeeding scriptless oneOutput).1 = oneOutput.storeOutput txout := by
  let step := apduStep .bagl .succeeding scriptless oneOutput
  have answer : step.output = ioSendSw 0xFFE0 := by decide +kernel
  have writes : WritesSlot step := by decide +kernel
  have keeps := refusedPart_keeps (takes_apduStep .bagl .succeeding scriptless oneOutput)
    ⟨⟨scriptless, rfl, scriptless_isPart⟩, ⟨0xFFE0, by decide, answer⟩⟩
  exact keeps.output writes rfl

/-- The parts of the context that the two contexts have in common. -/
structure SameSession (left right : GlobalCtx target) : Prop where
  outputs : left.txInfo.transaction.txOutputs = right.txInfo.transaction.txOutputs
  inputs : left.txInfo.transaction.txInputs = right.txInfo.transaction.txInputs
  outputIndex : left.txInfo.parsingOutputIndex = right.txInfo.parsingOutputIndex
  inputIndex : left.txInfo.parsingInputIndex = right.txInfo.parsingInputIndex
  state : left.state = right.state
  reqType : left.reqType = right.reqType
  path : left.bip32Path = right.bip32Path

/-- The value of a refused output stays in its slot. -/
theorem refused_output_stores_value
    : ¬ ∀ (history : List (Step .nanos)) (device : Device .nanos),
          (machine .nanos .bagl).Run history device
          → Throughout
              (fun _ step => RefusesPart step → SameSession step.after.ctx step.before.ctx)
              history := by
  intro claim
  obtain ⟨history, device, run, broken⟩ :=
    (machine .nanos .bagl).exists_run
      ([.apdu (headerCommand (plainHeader 1 1)), .apdu scriptless].map (Action.mk .succeeding))
      (fun history _ =>
        ¬ Throughout (fun _ step => step.action.input = .apdu scriptless
            → step.output = ioSendSw 0xFFE0
            → step.after.ctx.txInfo.transaction.txOutputs
              = step.before.ctx.txInfo.transaction.txOutputs) history)
      (by decide +kernel)
  refine broken ((claim history device run).mono ?_)
  intro earlier step kept input answer
  have refuses : RefusesPart step :=
    ⟨⟨scriptless, input, scriptless_isPart⟩, ⟨0xFFE0, by decide, answer⟩⟩
  exact (kept refuses).outputs

end KaspaApp
