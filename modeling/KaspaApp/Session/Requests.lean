import KaspaApp.Model.Device

/-! What the dispatcher makes of an APDU: the request it hands on, or its own refusal. -/

namespace KaspaApp

/-- The requests the dispatcher tells apart. The payload stays in the command. -/
inductive Request where
  | refused (code : UInt16)
  | getVersion
  | getAppName
  | getPublicKey (display : Bool)
  | header
  | output
  | input (more : Bool)
  | nextSignature
  | signMessage
deriving DecidableEq

/-- The P1 and P2 values that `SIGN_TX` does not take. -/
def Command.WrongP1p2 (cmd : Command) : Prop :=
  (cmd.p1 = p1Start ∧ cmd.p2 ≠ p2More) ∨ (cmd.p1 = p1Outputs ∧ cmd.p2 ≠ p2More)
  ∨ (cmd.p1 ≠ p1Start ∧ cmd.p1 ≠ p1Outputs ∧ cmd.p1 ≠ p1Inputs ∧ cmd.p1 ≠ p1NextSignature)
  ∨ (cmd.p2 ≠ p2Last ∧ cmd.p2 ≠ p2More)

instance (cmd : Command) : Decidable cmd.WrongP1p2 := by
  unfold Command.WrongP1p2
  infer_instance

/-- The request of a `SIGN_TX` APDU. -/
def Command.signTxRequest (cmd : Command) : Request :=
  if cmd.WrongP1p2 then .refused swWrongP1p2
  else if cmd.data = [] ∧ cmd.p1 ≠ p1NextSignature then .refused swWrongDataLength
  else if cmd.p1 = p1Start then .header
  else if cmd.p1 = p1Outputs then .output
  else if cmd.p1 = p1Inputs then .input (cmd.p2 = p2More)
  else .nextSignature

/-- The request of an APDU. -/
def Command.request (cmd : Command) : Request :=
  if cmd.cla ≠ kaspaCla then .refused swClaNotSupported
  else if cmd.ins = insGetVersion then
    if cmd.p1 ≠ 0 ∨ cmd.p2 ≠ 0 then .refused swWrongP1p2 else .getVersion
  else if cmd.ins = insGetAppName then
    if cmd.p1 ≠ 0 ∨ cmd.p2 ≠ 0 then .refused swWrongP1p2 else .getAppName
  else if cmd.ins = insGetPublicKey then
    if cmd.p1 > 1 ∨ cmd.p2 > 0 then .refused swWrongP1p2
    else if cmd.data = [] then .refused swWrongDataLength
    else .getPublicKey (cmd.p1 ≠ 0)
  else if cmd.ins = insSignTx then cmd.signTxRequest
  else if cmd.ins = insSignMessage then .signMessage
  else .refused swInsNotSupported

variable {target : Target}

/-- The handler of each request. -/
def handleRequest (frontEnd : FrontEnd) (env : Env) (request : Request) (cdata : Buffer)
    (ctx : GlobalCtx target)
    : GlobalCtx target × List Effect :=
  match request with
  | .refused code => (ctx, ioSendSw code)
  | .getVersion => (ctx, [.reply .version])
  | .getAppName => (ctx, [.reply .appName])
  | .getPublicKey display => handlerGetPublicKey frontEnd env cdata display
  | .header => handlerSignTxHeader cdata
  | .output =>
      if ctx.reqType ≠ .confirmTransaction then (ctx, ioSendSw swBadState)
      else handlerSignTxOutput env cdata true ctx
  | .input more =>
      if ctx.reqType ≠ .confirmTransaction then (ctx, ioSendSw swBadState)
      else handlerSignTxInput env cdata more ctx
  | .nextSignature =>
      if ctx.reqType ≠ .confirmTransaction ∨ ctx.state ≠ .stateApproved then
        (GlobalCtx.zero target, ioSendSw swBadState)
      else
        signInputAndSend env ctx
  | .signMessage => handlerSignMsg frontEnd env cdata

/-- `handler_sign_tx` behind the dispatcher's P1 and P2 checks is the handler of the
request. Only `P2_LAST` clears the `more` flag, and only for an input.
-/
theorem handlerSignTx_eq_handleRequest (frontEnd : FrontEnd) (env : Env) (cmd : Command)
    (ctx : GlobalCtx target) (allowed : ¬ cmd.WrongP1p2)
    (present : ¬ (cmd.data = [] ∧ cmd.p1 ≠ p1NextSignature))
    : handlerSignTx env (cmd.buffer env) cmd.p1 (cmd.p2 &&& p2More ≠ 0) ctx
      = handleRequest frontEnd env cmd.signTxRequest (cmd.buffer env) ctx := by
  have flags := allowed
  simp only [Command.WrongP1p2, not_or, not_and, Decidable.not_not] at flags
  obtain ⟨startMore, outputsMore, knownP1, lastOrMore⟩ := flags
  rw [Command.signTxRequest, if_neg allowed, if_neg present]
  by_cases start : cmd.p1 = p1Start
  · simp [handlerSignTx, handleRequest, start, p1Start]
  by_cases outputs : cmd.p1 = p1Outputs
  · have more := outputsMore outputs
    simp [handlerSignTx, handleRequest, outputs, more, p1Start, p1Outputs, p2More]
  by_cases inputs : cmd.p1 = p1Inputs
  · by_cases last : cmd.p2 = p2Last
    · simp [handlerSignTx, handleRequest, inputs, last, p1Start, p1Outputs, p1Inputs, p2Last,
        p2More]
    · have more := lastOrMore last
      simp [handlerSignTx, handleRequest, inputs, more, p1Start, p1Outputs, p1Inputs, p2More]
  · have next := knownP1 start outputs inputs
    simp [handlerSignTx, handleRequest, next, p1Start, p1Outputs, p1Inputs, p1NextSignature]

/-- The dispatcher runs the handler of the command's request. -/
theorem apduDispatcher_eq_handleRequest (frontEnd : FrontEnd) (env : Env) (cmd : Command)
    (ctx : GlobalCtx target)
    : apduDispatcher frontEnd env cmd ctx
      = handleRequest frontEnd env cmd.request (cmd.buffer env) ctx := by
  rw [apduDispatcher, Command.request]
  by_cases foreign : cmd.cla ≠ kaspaCla
  · rw [if_pos foreign, if_pos foreign]
    rfl
  rw [if_neg foreign, if_neg foreign]
  by_cases version : cmd.ins = insGetVersion
  · rw [if_pos version, if_pos version]
    split <;> rfl
  rw [if_neg version, if_neg version]
  by_cases name : cmd.ins = insGetAppName
  · rw [if_pos name, if_pos name]
    split <;> rfl
  rw [if_neg name, if_neg name]
  by_cases publicKey : cmd.ins = insGetPublicKey
  · rw [if_pos publicKey, if_pos publicKey]
    split
    · rfl
    · split <;> rfl
  rw [if_neg publicKey, if_neg publicKey]
  by_cases signTx : cmd.ins = insSignTx
  · rw [if_pos signTx, if_pos signTx]
    change (if cmd.WrongP1p2 then _ else _) = _
    by_cases wrong : cmd.WrongP1p2
    · rw [if_pos wrong, Command.signTxRequest, if_pos wrong]
      rfl
    rw [if_neg wrong]
    by_cases missing : cmd.data = [] ∧ cmd.p1 ≠ p1NextSignature
    · rw [if_pos missing, Command.signTxRequest, if_neg wrong, if_pos missing]
      rfl
    · rw [if_neg missing]
      exact handlerSignTx_eq_handleRequest frontEnd env cmd ctx wrong missing
  rw [if_neg signTx, if_neg signTx]
  split <;> rfl

/-- The handler's result is a step of the device. -/
theorem step_of_handled {frontEnd : FrontEnd} {ctx : GlobalCtx target} {cmd : Command}
    {action : Action} {after : GlobalCtx target} {effects : List Effect}
    (input : action.input = .apdu cmd)
    (handled
      : handleRequest frontEnd action.env cmd.request (cmd.buffer action.env) ctx
        = (after, effects))
    : (machine target frontEnd).step ⟨ctx, none⟩ action
      = some (⟨after, openedReview effects⟩, effects) := by
  obtain ⟨env, _⟩ := action
  subst input
  simp only [machine, Device.step, apduDispatcher_eq_handleRequest, handled]

/-- Commands that are handled alike make the same step. -/
theorem step_eq_of_handled_eq {frontEnd : FrontEnd} {env other : Env} {cmd : Command}
    {left right : GlobalCtx target}
    (handled
      : handleRequest frontEnd env cmd.request (cmd.buffer env) left
        = handleRequest frontEnd other cmd.request (cmd.buffer other) right)
    : Device.step frontEnd ⟨left, none⟩ ⟨env, .apdu cmd⟩
      = Device.step frontEnd ⟨right, none⟩ ⟨other, .apdu cmd⟩ := by
  simp only [Device.step, apduDispatcher_eq_handleRequest, handled]

end KaspaApp
