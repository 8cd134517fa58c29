import KaspaApp.Session.Requests
import KaspaApp.Session.Signing

/-! The steps of the device, one case for each way a step can go. Invariants of a run are
proved by cases on this relation and never unfold a handler.
-/

namespace KaspaApp

open Histories

variable {target : Target}

-----------------------------------------------------------------------------------------
-- The parts of a step
-----------------------------------------------------------------------------------------

/-- The requests that the dispatcher answers without a look at the context. -/
def Request.Plain : Request → Prop
  | .refused _ | .getVersion | .getAppName => True
  | _ => False

theorem Request.plain_iff (request : Request)
    : request.Plain
      ↔ (∃ code, request = .refused code) ∨ request = .getVersion ∨ request = .getAppName := by
  cases request with
  | refused | getVersion | getAppName => exact iff_of_true trivial (by simp)
  | getPublicKey | header | output | input | nextSignature | signMessage =>
      exact iff_of_false id (by simp)

/-- The session that a request other than `SIGN_TX` starts. -/
def Request.otherSession : Request → Option RequestType
  | .getPublicKey _ => some .confirmAddress
  | .signMessage => some .confirmMessage
  | _ => none

/-- The session that a review belongs to. -/
def Review.session : Review → RequestType
  | .address _ _ => .confirmAddress
  | .transaction _ _ _ => .confirmTransaction
  | .message _ _ => .confirmMessage

def Reply.IsTransactionSig : Reply → Prop
  | .sig _ _ _ _ => True
  | _ => False

def Reply.IsMessageSig : Reply → Prop
  | .personalMessageSig _ _ => True
  | _ => False

/-- The reply carries no signature. -/
def Reply.Unsigned (reply : Reply) : Prop :=
  ¬ reply.IsTransactionSig ∧ ¬ reply.IsMessageSig

/-- A P1 = 1 command reaches the output parser. -/
structure OutputAdmitted (ctx : GlobalCtx target) : Prop where
  reqType : ctx.reqType = .confirmTransaction
  belowArray : ctx.txInfo.parsingOutputIndex < UInt8.ofNat maxOutputCount
  belowCount
    : ctx.txInfo.parsingOutputIndex < ctx.txInfo.transaction.txOutputLen.toUInt8

/-- A P1 = 2 command reaches the input parser. -/
structure InputAdmitted (ctx : GlobalCtx target) : Prop where
  reqType : ctx.reqType = .confirmTransaction
  belowArray : ctx.txInfo.parsingInputIndex < UInt8.ofNat target.maxInputCount
  belowCount : ctx.txInfo.parsingInputIndex < ctx.txInfo.transaction.txInputLen.toUInt8

/-- A P1 = 3 command is allowed to sign. -/
structure SigningAdmitted (ctx : GlobalCtx target) : Prop where
  reqType : ctx.reqType = .confirmTransaction
  state : ctx.state = .stateApproved

/-- What the output parser makes of a payload in the slot it is admitted to. -/
def parsedOutput (env : Env) (cdata : Buffer) (ctx : GlobalCtx target)
    : ParserStatus × TransactionOutput :=
  transactionOutputDeserialize cdata
    (ctx.txInfo.transaction.output (env.stray .signTx) ctx.txInfo.parsingOutputIndex.toNat)

def parsedInput (env : Env) (cdata : Buffer) (ctx : GlobalCtx target)
    : ParserStatus × TransactionInput :=
  transactionInputDeserialize cdata
    (ctx.txInfo.transaction.input (env.stray .signTx) ctx.txInfo.parsingInputIndex.toNat)

/-- What the header parser makes of a payload in a cleared context. -/
def parsedHeader (target : Target) (cdata : Buffer)
    : ParserStatus × Transaction target × Vector UInt32 kaspaMaxBip32PathLen :=
  transactionDeserialize cdata (.zero target) (Vector.replicate kaspaMaxBip32PathLen 0)

/-- The context that a header leaves, accepted or refused. -/
def headed (target : Target) (cdata : Buffer) : GlobalCtx target :=
  (GlobalCtx.cleared target .confirmTransaction).withHeader (parsedHeader target cdata).2.1
    (parsedHeader target cdata).2.2

/-- The context with the current output slot overwritten. -/
def GlobalCtx.storeOutput (ctx : GlobalCtx target) (txout : TransactionOutput)
    : GlobalCtx target :=
  let tx := ctx.txInfo.transaction.setOutput ctx.txInfo.parsingOutputIndex.toNat txout
  { ctx with txInfo := { ctx.txInfo with transaction := tx } }

def GlobalCtx.storeInput (ctx : GlobalCtx target) (txin : TransactionInput)
    : GlobalCtx target :=
  let tx := ctx.txInfo.transaction.setInput ctx.txInfo.parsingInputIndex.toNat txin
  { ctx with txInfo := { ctx.txInfo with transaction := tx } }

/-- The context with the current output slot overwritten and counted. -/
def GlobalCtx.acceptOutput (ctx : GlobalCtx target) (txout : TransactionOutput)
    : GlobalCtx target :=
  let stored := ctx.storeOutput txout
  { stored with
    txInfo :=
      { stored.txInfo with parsingOutputIndex := ctx.txInfo.parsingOutputIndex + 1 } }

def GlobalCtx.acceptInput (ctx : GlobalCtx target) (txin : TransactionInput)
    : GlobalCtx target :=
  let stored := ctx.storeInput txin
  { stored with
    txInfo := { stored.txInfo with parsingInputIndex := ctx.txInfo.parsingInputIndex + 1 } }

def GlobalCtx.withState (ctx : GlobalCtx target) (state : State) : GlobalCtx target :=
  { ctx with state := state }

/-- The context once the input being signed is counted as signed. -/
def GlobalCtx.nextInput (ctx : GlobalCtx target) : GlobalCtx target :=
  { ctx with
    txInfo := { ctx.txInfo with signingInputIndex := ctx.txInfo.signingInputIndex + 1 } }

section

variable (ctx : GlobalCtx target)

@[simp] theorem GlobalCtx.txInfo_withState (state : State)
    : (ctx.withState state).txInfo = ctx.txInfo :=
  rfl

@[simp] theorem GlobalCtx.bip32Path_withState (state : State)
    : (ctx.withState state).bip32Path = ctx.bip32Path :=
  rfl

@[simp] theorem GlobalCtx.reqType_withState (state : State)
    : (ctx.withState state).reqType = ctx.reqType :=
  rfl

@[simp] theorem GlobalCtx.state_withState (state : State)
    : (ctx.withState state).state = state :=
  rfl

@[simp] theorem GlobalCtx.transaction_nextInput
    : ctx.nextInput.txInfo.transaction = ctx.txInfo.transaction :=
  rfl

@[simp] theorem GlobalCtx.bip32Path_nextInput : ctx.nextInput.bip32Path = ctx.bip32Path :=
  rfl

@[simp] theorem GlobalCtx.reqType_nextInput : ctx.nextInput.reqType = ctx.reqType :=
  rfl

@[simp] theorem GlobalCtx.state_nextInput : ctx.nextInput.state = ctx.state :=
  rfl

@[simp] theorem GlobalCtx.signingInputIndex_nextInput
    : ctx.nextInput.txInfo.signingInputIndex = ctx.txInfo.signingInputIndex + 1 :=
  rfl

end

/-- A context whose session began with the given request type: the members of the union that
other sessions use are zero.
-/
structure SessionOf (request : RequestType) (ctx : GlobalCtx target) : Prop where
  reqType : ctx.reqType = request
  state : ctx.state = .stateNone
  pkInfo : request ≠ .confirmAddress → ctx.pkInfo = .zero
  txInfo : request ≠ .confirmTransaction → ctx.txInfo = .zero target
  msgInfo : request ≠ .confirmMessage → ctx.msgInfo = .zero

/-- The inputs that get an answer and nothing else. -/
inductive Ignored (ctx : GlobalCtx target) : Input → Prop
  | malformed : Ignored ctx .badLength
  | plain {cmd : Command} (plain : cmd.request.Plain) : Ignored ctx (.apdu cmd)
  | output {cmd : Command} (request : cmd.request = .output) (full : ¬ OutputAdmitted ctx)
    : Ignored ctx (.apdu cmd)
  | input {cmd : Command} {more : Bool} (request : cmd.request = .input more)
    (full : ¬ InputAdmitted ctx)
    : Ignored ctx (.apdu cmd)

/-- The two ways to sign the next input: approving a transaction review, or an admitted
P1 = 3 command. The last argument is the context that `crypto_sign_transaction` starts from.
-/
inductive SigningRequest
    : Option Review → Input → GlobalCtx target → GlobalCtx target → Prop
  | approval (ctx : GlobalCtx target) (amount fees address : List UInt8)
    : SigningRequest (some (.transaction amount fees address)) (.decision true) ctx
        (ctx.withState .stateApproved)
  | next {ctx : GlobalCtx target} {cmd : Command} (request : cmd.request = .nextSignature)
    (admitted : SigningAdmitted ctx)
    : SigningRequest none (.apdu cmd) ctx ctx

-----------------------------------------------------------------------------------------
-- The cases of a step
-----------------------------------------------------------------------------------------

/-- `Transition env before input effects after`: one step of the device, by cases. -/
inductive Transition (env : Env)
    : Device target → Input → List Effect → Device target → Prop
  | ignored {ctx : GlobalCtx target} {input : Input} (reply : Reply)
    (ignored : Ignored ctx input) (unsigned : reply.Unsigned)
    : Transition env ⟨ctx, none⟩ input [.reply reply] ⟨ctx, none⟩
  | otherReplied {ctx after : GlobalCtx target} {cmd : Command} {other : RequestType}
    (reply : Reply) (request : cmd.request.otherSession = some other)
    (session : SessionOf other after) (unsigned : reply.Unsigned)
    : Transition env ⟨ctx, none⟩ (.apdu cmd) [.reply reply] ⟨after, none⟩
  | otherReviewed {ctx after : GlobalCtx target} {cmd : Command} {review : Review}
    (request : cmd.request.otherSession = some review.session)
    (session : SessionOf review.session after)
    : Transition env ⟨ctx, none⟩ (.apdu cmd) [.review review] ⟨after, some review⟩
  | headerRefused {ctx : GlobalCtx target} {cmd : Command} (request : cmd.request = .header)
    (failed : (parsedHeader target (cmd.buffer env)).1 ≠ .parsingOk)
    : Transition env ⟨ctx, none⟩ (.apdu cmd) (ioSendSw swTxParsingFail)
        ⟨headed target (cmd.buffer env), none⟩
  | headerAccepted {ctx : GlobalCtx target} {cmd : Command} (request : cmd.request = .header)
    (parsed : (parsedHeader target (cmd.buffer env)).1 = .parsingOk)
    : Transition env ⟨ctx, none⟩ (.apdu cmd) (ioSendSw swOk)
        ⟨headed target (cmd.buffer env), none⟩
  | outputRefused {ctx : GlobalCtx target} {cmd : Command} {code : UInt16}
    (request : cmd.request = .output) (admitted : OutputAdmitted ctx)
    (failed : (parsedOutput env (cmd.buffer env) ctx).1 ≠ .parsingOk)
    : Transition env ⟨ctx, none⟩ (.apdu cmd) (ioSendSw code)
        ⟨ctx.storeOutput (parsedOutput env (cmd.buffer env) ctx).2, none⟩
  | outputAccepted {ctx : GlobalCtx target} {cmd : Command}
    (request : cmd.request = .output) (admitted : OutputAdmitted ctx)
    (parsed : (parsedOutput env (cmd.buffer env) ctx).1 = .parsingOk)
    : Transition env ⟨ctx, none⟩ (.apdu cmd) (ioSendSw swOk)
        ⟨ctx.acceptOutput (parsedOutput env (cmd.buffer env) ctx).2, none⟩
  | inputRefused {ctx : GlobalCtx target} {cmd : Command} {more : Bool}
    (request : cmd.request = .input more) (admitted : InputAdmitted ctx)
    (failed : (parsedInput env (cmd.buffer env) ctx).1 ≠ .parsingOk)
    : Transition env ⟨ctx, none⟩ (.apdu cmd) (ioSendSw swTxParsingFail)
        ⟨ctx.storeInput (parsedInput env (cmd.buffer env) ctx).2, none⟩
  | inputAccepted {ctx : GlobalCtx target} {cmd : Command}
    (request : cmd.request = .input true) (admitted : InputAdmitted ctx)
    (parsed : (parsedInput env (cmd.buffer env) ctx).1 = .parsingOk)
    : Transition env ⟨ctx, none⟩ (.apdu cmd) (ioSendSw swOk)
        ⟨ctx.acceptInput (parsedInput env (cmd.buffer env) ctx).2, none⟩
  | inputInvalid {ctx accepted : GlobalCtx target} {cmd : Command}
    (request : cmd.request = .input false) (admitted : InputAdmitted ctx)
    (parsed : (parsedInput env (cmd.buffer env) ctx).1 = .parsingOk)
    (stored : accepted = ctx.acceptInput (parsedInput env (cmd.buffer env) ctx).2)
    (invalid : (txValidateParsedTransaction env accepted).1 = false)
    : Transition env ⟨ctx, none⟩ (.apdu cmd) (ioSendSw swTxParsingFail)
        ⟨(txValidateParsedTransaction env accepted).2, none⟩
  | inputUndisplayed {ctx accepted : GlobalCtx target} {cmd : Command}
    (request : cmd.request = .input false) (admitted : InputAdmitted ctx)
    (parsed : (parsedInput env (cmd.buffer env) ctx).1 = .parsingOk)
    (stored : accepted = ctx.acceptInput (parsedInput env (cmd.buffer env) ctx).2)
    (valid : (txValidateParsedTransaction env accepted).1 = true)
    : Transition env ⟨ctx, none⟩ (.apdu cmd) (ioSendSw swDisplayAmountFail)
        ⟨(txValidateParsedTransaction env accepted).2.withState .stateParsed, none⟩
  | inputReviewed {ctx accepted : GlobalCtx target} {cmd : Command}
    {amount fees address : List UInt8}
    (request : cmd.request = .input false) (admitted : InputAdmitted ctx)
    (parsed : (parsedInput env (cmd.buffer env) ctx).1 = .parsingOk)
    (stored : accepted = ctx.acceptInput (parsedInput env (cmd.buffer env) ctx).2)
    (valid : (txValidateParsedTransaction env accepted).1 = true)
    : Transition env ⟨ctx, none⟩ (.apdu cmd) [.review (.transaction amount fees address)]
        ⟨(txValidateParsedTransaction env accepted).2.withState .stateParsed,
          some (.transaction amount fees address)⟩
  | nextRefused {ctx : GlobalCtx target} {cmd : Command}
    (request : cmd.request = .nextSignature) (refused : ¬ SigningAdmitted ctx)
    : Transition env ⟨ctx, none⟩ (.apdu cmd) (ioSendSw swBadState)
        ⟨GlobalCtx.zero target, none⟩
  | signed {pending : Option Review} {input : Input} {ctx start signed : GlobalCtx target}
    (request : SigningRequest pending input ctx start)
    (result : cryptoSignTransaction env start = (0, signed))
    : Transition env ⟨ctx, pending⟩ input (helperSendResponseSig signed)
        ⟨signed.nextInput, none⟩
  | signingFailed {pending : Option Review} {input : Input}
    {ctx start left : GlobalCtx target} {error : UInt32}
    (request : SigningRequest pending input ctx start)
    (result : cryptoSignTransaction env start = (error, left)) (failed : error ≠ 0)
    : Transition env ⟨ctx, pending⟩ input (ioSendSw error.toUInt16)
        ⟨left.withState .stateNone, none⟩
  | addressDecided {ctx : GlobalCtx target} {path address : List UInt8} {choice : Bool}
    (reply : Reply) (unsigned : reply.Unsigned)
    : Transition env ⟨ctx, some (.address path address)⟩ (.decision choice) [.reply reply]
        ⟨ctx, none⟩
  | transactionRejected {ctx : GlobalCtx target} {amount fees address : List UInt8}
    : Transition env ⟨ctx, some (.transaction amount fees address)⟩ (.decision false)
        (ioSendSw swDeny) ⟨ctx.withState .stateNone, none⟩
  | messageDecided {ctx : GlobalCtx target} {path text : List UInt8} {choice : Bool}
    {state : State} (info : MessageSignCtx) (reply : Reply)
    (unsigned : ¬ reply.IsTransactionSig) (approved : reply.IsMessageSig → choice = true)
    : Transition env ⟨ctx, some (.message path text)⟩ (.decision choice) [.reply reply]
        ⟨(ctx.withState state).withMsgInfo info, none⟩

-----------------------------------------------------------------------------------------
-- The output and input handlers
-----------------------------------------------------------------------------------------

section

variable {env : Env} {cdata : Buffer} {ctx : GlobalCtx target} {more : Bool}

/-- The two comparisons of the counter in front of a parser. -/
theorem full_iff {index limit count : UInt8}
    : (index ≥ limit ∨ index ≥ count) ↔ ¬ (index < limit ∧ index < count) := by
  rw [not_and_or, UInt8.not_lt, UInt8.not_lt]

theorem handlerSignTxOutput_of_admitted (admitted : OutputAdmitted ctx)
    : handlerSignTxOutput env cdata more ctx
      = if (parsedOutput env cdata ctx).1 ≠ .parsingOk then
          (ctx.storeOutput (parsedOutput env cdata ctx).2,
            ioSendSw (UInt16.ofInt (parsedOutput env cdata ctx).1.toInt))
        else
          handlerSignTxParsed env (ctx.acceptOutput (parsedOutput env cdata ctx).2) more := by
  rw [handlerSignTxOutput]
  simp only [full_iff, admitted.belowArray, admitted.belowCount, and_self, not_true_eq_false,
    if_false]
  rfl

theorem handlerSignTxOutput_of_full (session : ctx.reqType = .confirmTransaction)
    (full : ¬ OutputAdmitted ctx)
    : handlerSignTxOutput env cdata more ctx = (ctx, ioSendSw swTxParsingFail) := by
  rw [handlerSignTxOutput]
  refine if_pos (full_iff.mpr fun room => full ⟨session, room.1, room.2⟩)

theorem handlerSignTxInput_of_admitted (admitted : InputAdmitted ctx)
    : handlerSignTxInput env cdata more ctx
      = if (parsedInput env cdata ctx).1 ≠ .parsingOk then
          (ctx.storeInput (parsedInput env cdata ctx).2, ioSendSw swTxParsingFail)
        else
          handlerSignTxParsed env (ctx.acceptInput (parsedInput env cdata ctx).2) more := by
  rw [handlerSignTxInput]
  simp only [full_iff, admitted.belowArray, admitted.belowCount, and_self, not_true_eq_false,
    if_false, ParserStatus.toInt_neg_iff]
  rfl

theorem handlerSignTxInput_of_full (session : ctx.reqType = .confirmTransaction)
    (full : ¬ InputAdmitted ctx)
    : handlerSignTxInput env cdata more ctx = (ctx, ioSendSw swTxParsingFail) := by
  rw [handlerSignTxInput]
  refine if_pos (full_iff.mpr fun room => full ⟨session, room.1, room.2⟩)

end

-----------------------------------------------------------------------------------------
-- Each handler's steps
-----------------------------------------------------------------------------------------

section

variable {env : Env} {cmd : Command} {ctx : GlobalCtx target} {frontEnd : FrontEnd}

/-- The device step that a handler result makes. -/
private def Reached (env : Env) (cmd : Command) (ctx : GlobalCtx target)
    (result : GlobalCtx target × List Effect)
    : Prop :=
  Transition env ⟨ctx, none⟩ (.apdu cmd) result.2 ⟨result.1, openedReview result.2⟩

/-- `handler_get_public_key` starts an address session on every path. -/
private theorem handlerGetPublicKey_reached {display : Bool}
    (request : cmd.request = .getPublicKey display)
    : Reached env cmd ctx (handlerGetPublicKey frontEnd env (cmd.buffer env) display) := by
  have starts : cmd.request.otherSession = some .confirmAddress := by rw [request]; rfl
  have replied {after : GlobalCtx target} (code : UInt16)
      (session : SessionOf .confirmAddress after)
      : Reached env cmd ctx (after, ioSendSw code) :=
    .otherReplied (.sw code) starts session ⟨id, id⟩
  unfold handlerGetPublicKey
  simp only
  split
  · exact replied _ ⟨rfl, rfl, by simp, fun _ => rfl, fun _ => rfl⟩
  split
  · exact replied _ ⟨rfl, rfl, by simp, fun _ => rfl, fun _ => rfl⟩
  split
  · exact replied _ ⟨rfl, rfl, by simp, fun _ => rfl, fun _ => rfl⟩
  split
  · exact replied _ ⟨rfl, rfl, by simp, fun _ => rfl, fun _ => rfl⟩
  split
  · exact replied _ ⟨rfl, rfl, by simp, fun _ => rfl, fun _ => rfl⟩
  split
  · exact replied _ ⟨rfl, rfl, by simp, fun _ => rfl, fun _ => rfl⟩
  split
  · next shown =>
      generalize derived : GlobalCtx.withPkInfo _ _ = after
      have session : SessionOf .confirmAddress after := by
        subst derived
        exact ⟨rfl, rfl, by simp, fun _ => rfl, fun _ => rfl⟩
      rcases uiDisplayAddress_cases frontEnd env after session.reqType session.state with
        ⟨code, display⟩ | ⟨path, address, display⟩
      · rw [display]
        exact replied code session
      · rw [display]
        exact .otherReviewed starts session
  · exact .otherReplied (.pubkey _ _) starts
      ⟨rfl, rfl, by simp, fun _ => rfl, fun _ => rfl⟩ ⟨id, id⟩

/-- A check that answers with an error leaves the rest of the handler to look at. -/
private theorem reached_check {check : Prop} [Decidable check]
    {refused passed : GlobalCtx target × List Effect} (refuse : Reached env cmd ctx refused)
    (pass : Reached env cmd ctx passed)
    : Reached env cmd ctx (if check then refused else passed) := by
  by_cases checked : check
  · rwa [if_pos checked]
  · rwa [if_neg checked]

/-- `handler_sign_msg` starts a message session on every path. -/
private theorem handlerSignMsg_reached (request : cmd.request = .signMessage)
    : Reached env cmd ctx (handlerSignMsg frontEnd env (cmd.buffer env)) := by
  have starts : cmd.request.otherSession = some .confirmMessage := by rw [request]; rfl
  have session (info : MessageSignCtx)
      : SessionOf .confirmMessage
          ((GlobalCtx.cleared target .confirmMessage).withMsgInfo info) :=
    ⟨rfl, rfl, fun _ => rfl, fun _ => rfl, by simp⟩
  have replied {after : GlobalCtx target} (code : UInt16)
      (session : SessionOf .confirmMessage after)
      : Reached env cmd ctx (after, ioSendSw code) :=
    .otherReplied (.sw code) starts session ⟨id, id⟩
  unfold handlerSignMsg
  simp only
  iterate 10 refine reached_check (replied _ (session _)) ?_
  generalize stored : (GlobalCtx.withMsgInfo _ _).withPath _ = complete
  have session : SessionOf .confirmMessage complete := by
    subst stored
    exact ⟨rfl, rfl, fun _ => rfl, fun _ => rfl, by simp⟩
  rcases uiDisplayMessage_cases frontEnd env complete session.reqType session.state with
    display | ⟨path, text, display⟩
  · rw [display]
    exact replied _ session
  · rw [display]
    exact .otherReviewed starts session

private theorem handlerSignTxHeader_reached (request : cmd.request = .header)
    : Reached env cmd ctx (handlerSignTxHeader (cmd.buffer env)) := by
  unfold handlerSignTxHeader
  simp only
  split
  · next failed => exact .headerRefused request failed
  · next parsed => exact .headerAccepted request (Decidable.not_not.mp parsed)

private theorem handlerSignTxOutput_reached (request : cmd.request = .output)
    (session : ctx.reqType = .confirmTransaction)
    : Reached env cmd ctx (handlerSignTxOutput env (cmd.buffer env) true ctx) := by
  by_cases admitted : OutputAdmitted ctx
  · rw [handlerSignTxOutput_of_admitted admitted]
    split
    · next failed => exact .outputRefused request admitted failed
    · next parsed => exact .outputAccepted request admitted (Decidable.not_not.mp parsed)
  · rw [handlerSignTxOutput_of_full session admitted]
    exact .ignored (.sw _) (.output request admitted) ⟨id, id⟩

/-- The validation and the display after an accepted last input. -/
private theorem handlerSignTxParsed_reached {accepted : GlobalCtx target}
    (request : cmd.request = .input false) (admitted : InputAdmitted ctx)
    (parsed : (parsedInput env (cmd.buffer env) ctx).1 = .parsingOk)
    (stored : accepted = ctx.acceptInput (parsedInput env (cmd.buffer env) ctx).2)
    : Reached env cmd ctx (handlerSignTxParsed env accepted false) := by
  unfold handlerSignTxParsed
  simp only [Bool.false_eq_true, if_false]
  split
  · next invalid =>
      exact .inputInvalid request admitted parsed stored (by simpa using invalid)
  · next valid =>
      have valid : (txValidateParsedTransaction env accepted).1 = true := by simpa using valid
      have session
          : ((txValidateParsedTransaction env accepted).2.withState .stateParsed).reqType
            = .confirmTransaction := by
        rcases txValidate_context env accepted with same | same <;> rw [same, stored] <;>
          exact admitted.reqType
      rcases uiDisplayTransaction_cases env
          ((txValidateParsedTransaction env accepted).2.withState .stateParsed) session rfl with
        display | ⟨amount, fees, address, display⟩
      · change Reached env cmd ctx (uiDisplayTransaction env (GlobalCtx.withState _ _))
        rw [display]
        exact .inputUndisplayed request admitted parsed stored valid
      · change Reached env cmd ctx (uiDisplayTransaction env (GlobalCtx.withState _ _))
        rw [display]
        exact .inputReviewed request admitted parsed stored valid

private theorem handlerSignTxInput_reached {more : Bool} (request : cmd.request = .input more)
    (session : ctx.reqType = .confirmTransaction)
    : Reached env cmd ctx (handlerSignTxInput env (cmd.buffer env) more ctx) := by
  by_cases admitted : InputAdmitted ctx
  · rw [handlerSignTxInput_of_admitted admitted]
    split
    · next failed => exact .inputRefused request admitted failed
    · next parsed =>
        have parsed := Decidable.not_not.mp parsed
        cases more with
        | true => exact .inputAccepted request admitted parsed
        | false => exact handlerSignTxParsed_reached request admitted parsed rfl
  · rw [handlerSignTxInput_of_full session admitted]
    exact .ignored (.sw _) (.input request admitted) ⟨id, id⟩

/-- Signing ends in a signature reply or in an error reply with the state reset. -/
private theorem signInputAndSend_transition {pending : Option Review} {input : Input}
    {start : GlobalCtx target} (request : SigningRequest pending input ctx start)
    : Transition env ⟨ctx, pending⟩ input (signInputAndSend env start).2
        ⟨(signInputAndSend env start).1, none⟩
      ∧ openedReview (signInputAndSend env start).2 = none := by
  unfold signInputAndSend
  rcases result : cryptoSignTransaction env start with ⟨error, left⟩
  simp only
  split
  · next failed => exact ⟨.signingFailed request result failed, rfl⟩
  · next ok =>
      have zero : error = 0 := Decidable.not_not.mp ok
      subst zero
      exact ⟨.signed request result, rfl⟩

private theorem handleRequest_reached
    : Reached env cmd ctx (handleRequest frontEnd env cmd.request (cmd.buffer env) ctx) := by
  cases request : cmd.request with
  | refused code =>
      exact .ignored (.sw code) (.plain (request ▸ trivial)) ⟨id, id⟩
  | getVersion =>
      exact .ignored .version (.plain (request ▸ trivial)) ⟨id, id⟩
  | getAppName =>
      exact .ignored .appName (.plain (request ▸ trivial)) ⟨id, id⟩
  | getPublicKey display => exact handlerGetPublicKey_reached request
  | header => exact handlerSignTxHeader_reached request
  | output =>
      simp only [handleRequest]
      split
      · next other =>
          exact .ignored (.sw _)
            (.output request (fun admitted => other admitted.reqType)) ⟨id, id⟩
      · next session =>
          exact handlerSignTxOutput_reached request (Decidable.not_not.mp session)
  | input more =>
      simp only [handleRequest]
      split
      · next other =>
          exact .ignored (.sw _)
            (.input request (fun admitted => other admitted.reqType)) ⟨id, id⟩
      · next session =>
          exact handlerSignTxInput_reached request (Decidable.not_not.mp session)
  | nextSignature =>
      simp only [handleRequest]
      split
      · next other =>
          refine .nextRefused request ?_
          intro admitted
          rcases other with other | other
          · exact other admitted.reqType
          · exact other admitted.state
      · next session =>
          simp only [not_or, Decidable.not_not] at session
          obtain ⟨step, quiet⟩ := signInputAndSend_transition
            (.next request (SigningAdmitted.mk session.1 session.2))
          rw [Reached, quiet]
          exact step
  | signMessage => exact handlerSignMsg_reached request

end

/-- The callbacks of a review send one reply and leave no review. -/
private theorem decisionCallback_transition (env : Env) (ctx : GlobalCtx target)
    (review : Review) (choice : Bool)
    : Transition env ⟨ctx, some review⟩ (.decision choice)
        (decisionCallback env review choice ctx).2
        ⟨(decisionCallback env review choice ctx).1, none⟩ := by
  cases review with
  | address path address =>
      cases choice with
      | true => exact .addressDecided (.pubkey _ _) ⟨id, id⟩
      | false => exact .addressDecided (.sw _) ⟨id, id⟩
  | transaction amount fees address =>
      cases choice with
      | true => exact (signInputAndSend_transition (.approval ctx amount fees address)).1
      | false => exact .transactionRejected
  | message path text =>
      cases choice with
      | true =>
          obtain ⟨info, left⟩ :=
            cryptoSignPersonalMessage_context env (ctx.withState .stateApproved)
          rcases result : cryptoSignPersonalMessage env (ctx.withState .stateApproved) with
            ⟨error, after⟩
          rw [result] at left
          simp only at left
          subst left
          have unfolded : decisionCallback env (.message path text) true ctx
              = if error ≠ 0 then
                  ((ctx.withState .stateNone).withMsgInfo info, ioSendSw error.toUInt16)
                else
                  ((ctx.withState .stateApproved).withMsgInfo info,
                    [.reply (.personalMessageSig info.signature info.messageHash)]) := by
            have approved : { ctx with state := .stateApproved } = ctx.withState .stateApproved :=
              rfl
            simp only [decisionCallback, validateMessage, if_true, approved, result]
            rfl
          rw [unfolded]
          split
          · exact .messageDecided info (.sw _) id False.elim
          · exact .messageDecided info (.personalMessageSig _ _) id (fun _ => rfl)
      | false => exact .messageDecided ctx.msgInfo (.sw _) id False.elim

/-- Every step of the device is one of the cases of `Transition`. -/
theorem Transition.of_step {frontEnd : FrontEnd} {before after : Device target}
    {action : Action} {effects : List Effect}
    (taken : Device.step frontEnd before action = some (after, effects))
    : Transition action.env before action.input effects after := by
  obtain ⟨ctx, pending⟩ := before
  obtain ⟨env, input⟩ := action
  cases pending with
  | none =>
      cases input with
      | badLength =>
          simp only [Device.step, Option.some.injEq, Prod.mk.injEq] at taken
          obtain ⟨rfl, rfl⟩ := taken
          exact .ignored (.sw _) .malformed ⟨id, id⟩
      | apdu cmd =>
          simp only [Device.step, Option.some.injEq, Prod.mk.injEq,
            apduDispatcher_eq_handleRequest] at taken
          obtain ⟨rfl, rfl⟩ := taken
          exact handleRequest_reached
      | decision choice => simp [Device.step] at taken
  | some review =>
      cases input with
      | decision choice =>
          simp only [Device.step, Option.some.injEq, Prod.mk.injEq] at taken
          obtain ⟨rfl, rfl⟩ := taken
          exact decisionCallback_transition env ctx review choice
      | badLength | apdu cmd => simp [Device.step] at taken

end KaspaApp
