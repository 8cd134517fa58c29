import KaspaApp.Model.Crypto
import KaspaApp.Model.Deserialize
import KaspaApp.Model.Format

/-! Replies and reviews, the command handlers, the decision callbacks and the dispatcher.
Every function returns the context it leaves and the effects it had, in order.
-/

namespace KaspaApp

-----------------------------------------------------------------------------------------
-- Effects
-----------------------------------------------------------------------------------------

/-- A response handed to the transport, by `io_send_sw` or by one of the helpers. -/
inductive Reply where
  | sw (code : UInt16)
  | version
  | appName
  | pubkey (rawPublicKey : Bytes 64) (chainCode : Bytes 32)
  | sig (hasMore inputIndex : UInt8) (signature : Bytes maxDerSigLen) (sighash : Bytes 32)
  | personalMessageSig (signature : Bytes maxDerSigLen) (messageHash : Bytes 32)
deriving DecidableEq

/-- A review that waits for the user, with the texts on its screens. -/
inductive Review where
  | address (bip32Path address : List UInt8)
  | transaction (amount fees address : List UInt8)
  | message (bip32Path message : List UInt8)
deriving DecidableEq

inductive Effect where
  | reply (reply : Reply)
  | review (review : Review)
deriving DecidableEq

/-- `io_send_sw`. -/
def ioSendSw (code : UInt16) : List Effect := [.reply (.sw code)]

variable {target : Target}

/-- `helper_send_response_pubkey`. -/
def helperSendResponsePubkey (ctx : GlobalCtx target) : List Effect :=
  [.reply (.pubkey ctx.pkInfo.rawPublicKey ctx.pkInfo.chainCode)]

/-- `helper_send_response_sig`; `has_more` is the low byte of the unsigned difference. -/
def helperSendResponseSig (ctx : GlobalCtx target) : List Effect :=
  let info := ctx.txInfo
  let hasMore := (info.transaction.txInputLen - info.signingInputIndex.toUInt32 - 1).toUInt8
  [.reply (.sig hasMore info.signingInputIndex info.signature info.sighash)]

/-- `helper_send_response_personal_message_sig`. -/
def helperSendResponsePersonalMessageSig (ctx : GlobalCtx target) : List Effect :=
  [.reply (.personalMessageSig ctx.msgInfo.signature ctx.msgInfo.messageHash)]

-----------------------------------------------------------------------------------------
-- Review screens
-----------------------------------------------------------------------------------------

/-- `ui_display_address`. -/
def uiDisplayAddress (frontEnd : FrontEnd) (env : Env) (ctx : GlobalCtx target)
    : GlobalCtx target × List Effect :=
  if ctx.reqType ≠ .confirmAddress ∨ ctx.state ≠ .stateNone then
    ({ ctx with state := .stateNone }, ioSendSw swBadState)
  else
    match env.bip32PathFormat ctx.path 60 with
    | none => (ctx, ioSendSw swDisplayBip32PathFail)
    | some bip32Path =>
        let outLen := match frontEnd with
          | .bagl => ecdsaAddressLen
          | .nbgl => schnorrAddressLen
        match addressFromPubkey ctx.pkInfo.rawPublicKey .schnorr outLen with
        | none => (ctx, ioSendSw swDisplayAddressFail)
        | some address => (ctx, [.review (.address bip32Path (cString address))])

/-- `ui_display_transaction`, the same for both front ends. The address is shown whether or
not `script_public_key_to_address` succeeds.
-/
def uiDisplayTransaction (env : Env) (ctx : GlobalCtx target)
    : GlobalCtx target × List Effect :=
  if ctx.reqType ≠ .confirmTransaction ∨ ctx.state ≠ .stateParsed then
    ({ ctx with state := .stateNone }, ioSendSw swBadState)
  else
    let tx := ctx.txInfo.transaction
    let sendOutput := tx.output (env.stray .uiDisplay) 0
    match env.formatFpu64Trimmed 30 sendOutput.value exponentSmallestUnit with
    | none => (ctx, ioSendSw swDisplayAmountFail)
    | some amount =>
        match env.formatFpu64Trimmed 30 (calcFees (env.stray .uiDisplay) tx)
            exponentSmallestUnit with
        | none => (ctx, ioSendSw swDisplayAmountFail)
        | some fees =>
            let address :=
              (scriptPublicKeyToAddress ecdsaAddressLen sendOutput.scriptPublicKey
                scriptPublicKeyBufferLen).getD []
            (ctx, [.review (.transaction (kasText amount) (kasText fees) (cString address))])

/-- `ui_display_message`; the two front ends have text buffers of different sizes. -/
def uiDisplayMessage (frontEnd : FrontEnd) (env : Env) (ctx : GlobalCtx target)
    : GlobalCtx target × List Effect :=
  if ctx.reqType ≠ .confirmMessage ∨ ctx.state ≠ .stateNone then
    ({ ctx with state := .stateNone }, ioSendSw swBadState)
  else
    match env.bip32PathFormat ctx.path 60 with
    | none => (ctx, ioSendSw swDisplayBip32PathFail)
    | some bip32Path =>
        let destLen := match frontEnd with
          | .bagl => target.maxMessageLen + 6
          | .nbgl => target.maxMessageLen
        let message := messageText destLen (ctx.msgInfo.memory.take ctx.msgInfo.messageLen)
        (ctx, [.review (.message bip32Path message)])

-----------------------------------------------------------------------------------------
-- Decision callbacks
-----------------------------------------------------------------------------------------

/-- What `sign_input_and_send` and the approval in `validate_transaction` both do. -/
def signInputAndSend (env : Env) (ctx : GlobalCtx target) : GlobalCtx target × List Effect :=
  let (error, ctx) := cryptoSignTransaction env ctx
  if error ≠ 0 then
    ({ ctx with state := .stateNone }, ioSendSw error.toUInt16)
  else
    ({ ctx with
        txInfo :=
          { ctx.txInfo with signingInputIndex := ctx.txInfo.signingInputIndex + 1 } },
      helperSendResponseSig ctx)

/-- `validate_pubkey`. -/
def validatePubkey (ctx : GlobalCtx target) (choice : Bool)
    : GlobalCtx target × List Effect :=
  if choice then (ctx, helperSendResponsePubkey ctx) else (ctx, ioSendSw swDeny)

/-- `validate_transaction`. -/
def validateTransaction (env : Env) (ctx : GlobalCtx target) (choice : Bool)
    : GlobalCtx target × List Effect :=
  if choice then
    signInputAndSend env { ctx with state := .stateApproved }
  else
    ({ ctx with state := .stateNone }, ioSendSw swDeny)

/-- `validate_message`. -/
def validateMessage (env : Env) (ctx : GlobalCtx target) (choice : Bool)
    : GlobalCtx target × List Effect :=
  if choice then
    let ctx := { ctx with state := .stateApproved }
    let (error, ctx) := cryptoSignPersonalMessage env ctx
    if error ≠ 0 then
      ({ ctx with state := .stateNone }, ioSendSw error.toUInt16)
    else
      (ctx, helperSendResponsePersonalMessageSig ctx)
  else
    ({ ctx with state := .stateNone }, ioSendSw swDeny)

-----------------------------------------------------------------------------------------
-- SIGN_TX
-----------------------------------------------------------------------------------------

/-- The transaction and the path that `transaction_deserialize` writes. -/
def GlobalCtx.withHeader (ctx : GlobalCtx target) (tx : Transaction target)
    (bip32Path : Vector UInt32 kaspaMaxBip32PathLen)
    : GlobalCtx target :=
  { ctx with txInfo := { ctx.txInfo with transaction := tx }, bip32Path := bip32Path }

/-- `handler_sign_tx` for P1 = 0. -/
def handlerSignTxHeader (cdata : Buffer) : GlobalCtx target × List Effect :=
  let ctx : GlobalCtx target := .cleared target .confirmTransaction
  let (status, tx, bip32Path) :=
    transactionDeserialize cdata ctx.txInfo.transaction ctx.bip32Path
  let ctx := ctx.withHeader tx bip32Path
  if status ≠ .parsingOk then (ctx, ioSendSw swTxParsingFail) else (ctx, ioSendSw swOk)

/-- What `handler_sign_tx` does after an output or an input was parsed. -/
def handlerSignTxParsed (env : Env) (ctx : GlobalCtx target) (more : Bool)
    : GlobalCtx target × List Effect :=
  if more then
    (ctx, ioSendSw swOk)
  else
    let (ok, ctx) := txValidateParsedTransaction env ctx
    if !ok then
      (ctx, ioSendSw swTxParsingFail)
    else
      uiDisplayTransaction env { ctx with state := .stateParsed }

/-- The output slot that `parsing_output_index` names, written by the parser. -/
def Transaction.setOutput (tx : Transaction target) (index : Nat) (txout : TransactionOutput)
    : Transaction target :=
  { tx with txOutputs := tx.txOutputs.setIfInBounds index txout }

def Transaction.setInput (tx : Transaction target) (index : Nat) (txin : TransactionInput)
    : Transaction target :=
  { tx with txInputs := tx.txInputs.setIfInBounds index txin }

/-- `handler_sign_tx` for P1 = 1. -/
def handlerSignTxOutput (env : Env) (cdata : Buffer) (more : Bool) (ctx : GlobalCtx target)
    : GlobalCtx target × List Effect :=
  let info := ctx.txInfo
  if info.parsingOutputIndex ≥ UInt8.ofNat maxOutputCount
      ∨ info.parsingOutputIndex ≥ info.transaction.txOutputLen.toUInt8 then
    (ctx, ioSendSw swTxParsingFail)
  else
    let slot := info.parsingOutputIndex.toNat
    let (err, txout) := transactionOutputDeserialize cdata
      (info.transaction.output (env.stray .signTx) slot)
    let info := { info with transaction := info.transaction.setOutput slot txout }
    if err ≠ .parsingOk then
      ({ ctx with txInfo := info }, ioSendSw (UInt16.ofInt err.toInt))
    else
      let info := { info with parsingOutputIndex := info.parsingOutputIndex + 1 }
      handlerSignTxParsed env { ctx with txInfo := info } more

/-- `handler_sign_tx` for P1 = 2. -/
def handlerSignTxInput (env : Env) (cdata : Buffer) (more : Bool) (ctx : GlobalCtx target)
    : GlobalCtx target × List Effect :=
  let info := ctx.txInfo
  if info.parsingInputIndex ≥ UInt8.ofNat target.maxInputCount
      ∨ info.parsingInputIndex ≥ info.transaction.txInputLen.toUInt8 then
    (ctx, ioSendSw swTxParsingFail)
  else
    let slot := info.parsingInputIndex.toNat
    let (err, txin) := transactionInputDeserialize cdata
      (info.transaction.input (env.stray .signTx) slot)
    let info := { info with transaction := info.transaction.setInput slot txin }
    if err.toInt < 0 then
      ({ ctx with txInfo := info }, ioSendSw swTxParsingFail)
    else
      let info := { info with parsingInputIndex := info.parsingInputIndex + 1 }
      handlerSignTxParsed env { ctx with txInfo := info } more

/-- `handler_sign_tx`. -/
def handlerSignTx (env : Env) (cdata : Buffer) (type : UInt8) (more : Bool)
    (ctx : GlobalCtx target)
    : GlobalCtx target × List Effect :=
  if type = 0 then
    handlerSignTxHeader cdata
  else if type = 1 ∨ type = 2 then
    if ctx.reqType ≠ .confirmTransaction then
      (ctx, ioSendSw swBadState)
    else if type = 1 then
      handlerSignTxOutput env cdata more ctx
    else if type = 2 then
      handlerSignTxInput env cdata more ctx
    else
      (ctx, ioSendSw swWrongP1p2)
  else if type = 3 then
    if ctx.reqType ≠ .confirmTransaction ∨ ctx.state ≠ .stateApproved then
      (GlobalCtx.zero target, ioSendSw swBadState)
    else
      signInputAndSend env ctx
  else
    (GlobalCtx.zero target, ioSendSw swWrongP1p2)

-----------------------------------------------------------------------------------------
-- SIGN_MESSAGE and GET_PUBLIC_KEY
-----------------------------------------------------------------------------------------

/-- `handler_sign_msg`. -/
def handlerSignMsg (frontEnd : FrontEnd) (env : Env) (cdata : Buffer)
    : GlobalCtx target × List Effect :=
  let ctx : GlobalCtx target := .cleared target .confirmMessage
  let addressType := cdata.readU8
  let info := { MessageSignCtx.zero with addressType := addressType.value }
  if !addressType.ok then
    (ctx.withMsgInfo info, ioSendSw swMessageAddressTypeFail)
  else if info.addressType ≠ 0 ∧ info.addressType ≠ 1 then
    (ctx.withMsgInfo info, ioSendSw swMessageAddressTypeFail)
  else
    let addressIndex := addressType.next.readU32
    let info := { info with addressIndex := addressIndex.value }
    if !addressIndex.ok then
      (ctx.withMsgInfo info, ioSendSw swMessageAddressTypeFail)
    else
      let account := addressIndex.next.readU32
      let info := { info with account := account.value }
      if !account.ok then
        (ctx.withMsgInfo info, ioSendSw swMessageAddressTypeFail)
      else if info.account < 0x80000000 then
        (ctx.withMsgInfo info, ioSendSw swMessageAddressTypeFail)
      else
        let messageLen := account.next.readU8
        if !messageLen.ok then
          (ctx.withMsgInfo info, ioSendSw swMessageLenParsingFail)
        else if messageLen.value = 0 then
          (ctx.withMsgInfo info, ioSendSw swMessageTooShort)
        else if messageLen.value.toNat > target.maxMessageLen then
          (ctx.withMsgInfo info, ioSendSw swMessageTooLong)
        else
          let cdata := messageLen.next
          let info := { info with messageLen := messageLen.value.toNat }
          if !cdata.canRead info.messageLen then
            (ctx.withMsgInfo info, ioSendSw swMessageParsingFail)
          else
            let info := info.writeMessage (cdata.bytes info.messageLen)
            if !(cdata.seekCur info.messageLen).ok then
              (ctx.withMsgInfo info, ioSendSw swMessageUnexpected)
            else
              let bip32Path :=
                walletPath info.account info.addressType.toUInt32 info.addressIndex
              uiDisplayMessage frontEnd env ((ctx.withMsgInfo info).withPath bip32Path)

/-- Store the entries that `buffer_read_bip32_path` writes: the first five fill the array,
the low byte of the next one lands on `bip32_path_len` behind it, and later ones leave the
fields of the context.
-/
def GlobalCtx.writeBip32Path (ctx : GlobalCtx target) (entries : List UInt32)
    : GlobalCtx target :=
  { ctx with
    bip32Path := Memory.copy ctx.bip32Path entries
    bip32PathLen := ((entries[5]?).map UInt32.toUInt8).getD ctx.bip32PathLen }

/-- `handler_get_public_key`. -/
def handlerGetPublicKey (frontEnd : FrontEnd) (env : Env) (cdata : Buffer) (display : Bool)
    : GlobalCtx target × List Effect :=
  let ctx : GlobalCtx target := .cleared target .confirmAddress
  let pathLen := cdata.readU8
  let ctx := { ctx with bip32PathLen := pathLen.value }
  if !pathLen.ok then
    (ctx, ioSendSw swWrongDataLength)
  else
    let (ok, entries) := env.bufferReadBip32Path pathLen.next ctx.bip32PathLen.toNat
    let ctx := ctx.writeBip32Path entries
    if !ok then
      (ctx, ioSendSw swWrongDataLength)
    else if ctx.bip32PathLen < 2 ∨ ctx.bip32PathLen > 5 then
      (ctx, ioSendSw swWrongBip32PathLen)
    else if ctx.bip32Path[0] ≠ purpose then
      (ctx, ioSendSw swWrongBip32Purpose)
    else if ctx.bip32Path[1] ≠ coinType then
      (ctx, ioSendSw swWrongBip32CoinType)
    else
      let (error, rawPubkey, chainCode) := env.bip32DeriveGetPubkey256 ctx.path
      let info := { PubkeyCtx.zero with chainCode := chainCode }
      if error ≠ cxOk then
        (ctx.withPkInfo info, ioSendSw error.toUInt16)
      else
        let rawPublicKey := Memory.copy info.rawPublicKey (rawPubkey.toList.drop 1)
        let ctx := ctx.withPkInfo { info with rawPublicKey := rawPublicKey }
        if display then
          uiDisplayAddress frontEnd env ctx
        else
          (ctx, helperSendResponsePubkey ctx)

-----------------------------------------------------------------------------------------
-- The dispatcher
-----------------------------------------------------------------------------------------

/-- `command_t`, with the data that `apdu_parser` found in the APDU: a null pointer exactly
when there is none.
-/
structure Command where
  cla : UInt8
  ins : UInt8
  p1 : UInt8
  p2 : UInt8
  data : List UInt8
deriving DecidableEq

/-- `CLA` and `command_e`. -/
def kaspaCla : UInt8 := 0xE0
def insGetVersion : UInt8 := 0x03
def insGetAppName : UInt8 := 0x04
def insGetPublicKey : UInt8 := 0x05
def insSignTx : UInt8 := 0x06
def insSignMessage : UInt8 := 0x07

def p1Start : UInt8 := 0x00
def p1Outputs : UInt8 := 0x01
def p1Inputs : UInt8 := 0x02
def p1NextSignature : UInt8 := 0x03
def p2Last : UInt8 := 0x00
def p2More : UInt8 := 0x80

/-- The `buf` of the dispatcher. -/
def Command.buffer (env : Env) (cmd : Command) : Buffer :=
  { data := cmd.data, behind := env.behindPayload, offset := 0 }

/-- `apdu_dispatcher`. -/
def apduDispatcher (frontEnd : FrontEnd) (env : Env) (cmd : Command) (ctx : GlobalCtx target)
    : GlobalCtx target × List Effect :=
  if cmd.cla ≠ kaspaCla then
    (ctx, ioSendSw swClaNotSupported)
  else if cmd.ins = insGetVersion then
    if cmd.p1 ≠ 0 ∨ cmd.p2 ≠ 0 then (ctx, ioSendSw swWrongP1p2)
    else (ctx, [.reply .version])
  else if cmd.ins = insGetAppName then
    if cmd.p1 ≠ 0 ∨ cmd.p2 ≠ 0 then (ctx, ioSendSw swWrongP1p2)
    else (ctx, [.reply .appName])
  else if cmd.ins = insGetPublicKey then
    if cmd.p1 > 1 ∨ cmd.p2 > 0 then
      (ctx, ioSendSw swWrongP1p2)
    else if cmd.data = [] then
      (ctx, ioSendSw swWrongDataLength)
    else
      handlerGetPublicKey frontEnd env (cmd.buffer env) (cmd.p1 ≠ 0)
  else if cmd.ins = insSignTx then
    if (cmd.p1 = p1Start ∧ cmd.p2 ≠ p2More) ∨ (cmd.p1 = p1Outputs ∧ cmd.p2 ≠ p2More)
        ∨ (cmd.p1 ≠ p1Start ∧ cmd.p1 ≠ p1Outputs ∧ cmd.p1 ≠ p1Inputs
          ∧ cmd.p1 ≠ p1NextSignature)
        ∨ (cmd.p2 ≠ p2Last ∧ cmd.p2 ≠ p2More) then
      (ctx, ioSendSw swWrongP1p2)
    else if cmd.data = [] ∧ cmd.p1 ≠ p1NextSignature then
      (ctx, ioSendSw swWrongDataLength)
    else
      handlerSignTx env (cmd.buffer env) cmd.p1 (cmd.p2 &&& p2More ≠ 0) ctx
  else if cmd.ins = insSignMessage then
    handlerSignMsg frontEnd env (cmd.buffer env)
  else
    (ctx, ioSendSw swInsNotSupported)

end KaspaApp
