import Mathlib.Data.Set.List
import KaspaApp.Hashing.Reference
import KaspaApp.Session.SentPayloads
import KaspaApp.Session.SigningFailures
import KaspaApp.Session.SigningIndex

/-! A whole signing session, from its header to its last signature. The validation leaves the
transaction of the payloads alone, and every round signs the input that the signatures before it
have counted up to.
-/

namespace KaspaApp

open Histories

variable {target : Target} {frontEnd : FrontEnd}

/-- An accepted header, and as many accepted outputs and inputs as it declares. The last input
is kept apart, as it is the one that is sent with `P2_LAST`.
-/
structure HonestSession (target : Target) where
  header : List UInt8
  outputs : List (List UInt8)
  inputs : List (List UInt8)
  last : List UInt8
  headerAccepted : (sentHeader target header).1 = .parsingOk
  outputsAccepted : ∀ bytes ∈ outputs, (sentOutput bytes).1 = .parsingOk
  inputsAccepted : ∀ bytes ∈ inputs ++ [last], (sentInput bytes).1 = .parsingOk
  outputsDeclared : (sentHeader target header).2.1.txOutputLen.toNat = outputs.length
  inputsDeclared : (sentHeader target header).2.1.txInputLen.toNat = (inputs ++ [last]).length

namespace HonestSession

variable (session : HonestSession target)

/-- The inputs, the last one included. -/
def allInputs : List (List UInt8) := session.inputs ++ [session.last]

def transaction : Transaction target :=
  sentTransaction target session.header session.outputs session.allInputs

def txInputs : List TransactionInput := session.allInputs.map fun bytes => (sentInput bytes).2

/-- The context that the validation is called in. -/
def ctx : GlobalCtx target :=
  sentCtx target session.header session.outputs session.allInputs

/-- The context that the review is opened in. -/
def reviewed (env : Env) : GlobalCtx target :=
  (txValidateParsedTransaction env session.ctx).2.withState .stateParsed

/-- The commands in front of the last input. -/
def commands : List Command :=
  [signTxCommand p1Start p2More session.header]
  ++ session.outputs.map (signTxCommand p1Outputs p2More)
  ++ session.inputs.map (signTxCommand p1Inputs p2More)

end HonestSession

/-- The path of an input's key. -/
def inputPath (tx : Transaction target) (txin : TransactionInput) : List UInt32 :=
  (walletPath tx.account txin.addressType.toUInt32 txin.addressIndex).toList

section

variable (env : Env) (tx : Transaction target) (txin : TransactionInput)

/-- The calls that sign an input, each on the results of the earlier ones. -/
def inputKey : UInt32 × Bytes 32 := env.bip32DeriveInitPrivkey256 (inputPath tx txin)

def inputKeyPair : UInt32 × Bytes 65 :=
  env.cxEcfpGeneratePairNoThrow (inputKey env tx txin).2

/-- The hash that is signed; `stray` is what lies behind the arrays of the transaction. -/
def inputHash (stray : Stray) : Option (Bytes 32) :=
  calcSighash env.blake2b stray tx txin (keyBytes (inputKeyPair env tx txin).2 1)
    (Bytes.zero 32) 32

/-- The calls that sign an input succeed. -/
structure InputCallsSucceed : Prop where
  derived : (inputKey env tx txin).1 = cxOk
  paired : (inputKeyPair env tx txin).1 = cxOk
  signed
    : ∀ sighash ∈ inputHash env tx txin (env.stray .calcSighash),
        (env.cxEcschnorrSignNoThrow (inputKey env tx txin).2 sighash).1 = cxOk

end

/-- The last input is sent, the transaction is valid, and its review opens. -/
structure HonestSession.Opens (session : HonestSession target) (last : Action) (review : Review)
    : Prop where
  input : last.input = .apdu (signTxCommand p1Inputs p2Last session.last)
  valid : (txValidateParsedTransaction last.env session.ctx).1 = true
  shown : (uiDisplayTransaction last.env (session.reviewed last.env)).2 = [.review review]

/-- The user approves, a P1 = 3 command follows for every further input, and the calls that sign
the inputs succeed.
-/
structure HonestSession.Asks (session : HonestSession target) (approval : Action)
    (requests : List Action)
    : Prop where
  approves : approval.input = .decision true
  asksNext
    : ∀ action ∈ requests, ∃ cmd, action.input = .apdu cmd ∧ cmd.request = .nextSignature
  count : requests.length = session.allInputs.length - 1
  succeed
    : ∀ (number : Nat) (action : Action) (txin : TransactionInput),
        (approval :: requests)[number]? = some action
        → session.txInputs[number]? = some txin
        → InputCallsSucceed action.env session.transaction txin

/-- The round is answered with one signature, made for the input of this number: its index, the
number of inputs after it, its hash under the public key at its path, and a signature over this
hash by the private key of the same pair.
-/
structure SignsSentInput (session : HonestSession target) (number : Nat) (round : Step target)
    (txin : TransactionInput) (key : Bytes 32) (publicKey : Bytes 65) (sighash : Bytes 32)
    (signature : Bytes maxDerSigLen) (hasMore inputIndex : UInt8)
    : Prop where
  input : session.txInputs[number]? = some txin
  derived
    : round.action.env.bip32DeriveInitPrivkey256 (inputPath session.transaction txin) = (cxOk, key)
  paired : round.action.env.cxEcfpGeneratePairNoThrow key = (cxOk, publicKey)
  hashed
    : ∀ stray,
        calcSighash round.action.env.blake2b stray session.transaction txin
          (keyBytes publicKey 1) (Bytes.zero 32) 32
        = some sighash
  signed : round.action.env.cxEcschnorrSignNoThrow key sighash = (cxOk, signature)
  output : round.output = [.reply (.sig hasMore inputIndex signature sighash)]
  inputIndex : inputIndex.toNat = number
  hasMore : hasMore.toNat = session.allInputs.length - 1 - number

-----------------------------------------------------------------------------------------
-- Sending the payloads
-----------------------------------------------------------------------------------------

/-- Accepted payloads are serialised ones, and the transaction made of them is the one that the
parsers leave of these.
-/
theorem HonestSession.payloads (session : HonestSession target)
    : ∃ header inputs outputs,
        Declares target header inputs outputs
        ∧ session.transaction = parsedTransaction target header inputs outputs := by
  obtain ⟨header, allowed, -, headed⟩ := payload_of_sentHeader session.headerAccepted
  have outputBytes : session.outputs ∈ Set.range (List.map OutputPayload.serialize) := by
    rw [Set.range_list_map]
    intro bytes member
    obtain ⟨payload, serialized, -⟩ :=
      payload_of_sentOutput (session.outputsAccepted bytes member)
    exact ⟨payload, serialized.symm⟩
  have inputBytes : session.allInputs ∈ Set.range (List.map InputPayload.serialize) := by
    rw [Set.range_list_map]
    intro bytes member
    obtain ⟨payload, serialized, -⟩ := payload_of_sentInput (session.inputsAccepted bytes member)
    exact ⟨payload, serialized.symm⟩
  obtain ⟨outputs, sentOutputs⟩ := outputBytes
  obtain ⟨inputs, sentInputs⟩ := inputBytes
  have outputSlots
      : (session.outputs.map fun bytes => (sentOutput bytes).2)
        = outputs.map fun payload => payload.into .zero := by
    rw [← sentOutputs, List.map_map]
    exact List.map_congr_left fun payload _ =>
      congrArg Prod.snd (transactionOutputDeserialize_serialize rfl)
  have inputSlots
      : (session.allInputs.map fun bytes => (sentInput bytes).2)
        = inputs.map fun payload => payload.into .zero := by
    rw [← sentInputs, List.map_map]
    exact List.map_congr_left fun payload _ =>
      congrArg Prod.snd (transactionInputDeserialize_serialize rfl)
  have outputCount := session.outputsDeclared
  have inputCount := session.inputsDeclared
  rw [headed] at outputCount inputCount
  refine ⟨header, inputs, outputs, ⟨allowed, ?_, ?_⟩, ?_⟩
  · have length := congrArg List.length sentInputs
    rw [List.length_map] at length
    exact (UInt8.toNat_toUInt32 _).symm.trans (inputCount.trans length.symm)
  · have length := congrArg List.length sentOutputs
    rw [List.length_map] at length
    exact (UInt8.toNat_toUInt32 _).symm.trans (outputCount.trans length.symm)
  · rw [HonestSession.transaction, sentTransaction, headed, outputSlots, inputSlots]
    rfl

namespace HonestSession

variable {session : HonestSession target} {history : List (Step target)} {device : Device target}
  {bytes : List UInt8}

theorem handles_output (front rest : List (List UInt8))
    (split : session.outputs = front ++ bytes :: rest) (env : Env)
    : handleRequest frontEnd env (signTxCommand p1Outputs p2More bytes).request
        ((signTxCommand p1Outputs p2More bytes).buffer env)
        (sentCtx target session.header front [])
      = (sentCtx target session.header (front ++ [bytes]) [], ioSendSw swOk) := by
  have accepted := session.outputsAccepted bytes (by rw [split]; simp)
  have counts := (sentHeader_counts session.headerAccepted).1
  have declared := session.outputsDeclared
  rw [split, List.length_append, List.length_cons] at declared
  have admitted : OutputAdmitted (sentCtx target session.header front []) :=
    outputAdmitted_sentCtx session.headerAccepted (by omega)
  obtain ⟨parsed, filled⟩ := @acceptOutput_sentCtx target session.header bytes front []
    ((signTxCommand p1Outputs p2More bytes).buffer env) (by omega) env accepted
    (Command.rest_buffer _ _)
  rw [request_output (ne_nil_of_sentOutput accepted)]
  simp only [handleRequest, admitted.reqType, ne_eq, not_true_eq_false, if_false]
  rw [handlerSignTxOutput_of_admitted admitted, parsed, if_neg (not_not.mpr rfl), filled]
  rfl

/-- An accepted input is stored and counted, and the last one goes on to the validation. -/
theorem handles_input (front rest : List (List UInt8)) (more : Bool)
    (split : session.allInputs = front ++ bytes :: rest) (env : Env) {cmd : Command}
    (request : cmd.request = .input more) (data : cmd.data = bytes)
    : handleRequest frontEnd env cmd.request (cmd.buffer env)
        (sentCtx target session.header session.outputs front)
      = handlerSignTxParsed env
          (sentCtx target session.header session.outputs (front ++ [bytes])) more := by
  have member : bytes ∈ session.allInputs := by
    rw [split]
    simp
  have accepted := session.inputsAccepted bytes member
  have counts := (sentHeader_counts session.headerAccepted).2
  have declared
      : (sentHeader target session.header).2.1.txInputLen.toNat = session.allInputs.length :=
    session.inputsDeclared
  rw [split, List.length_append, List.length_cons] at declared
  have admitted : InputAdmitted (sentCtx target session.header session.outputs front) :=
    inputAdmitted_sentCtx session.headerAccepted (by omega)
  obtain ⟨parsed, filled⟩ := @acceptInput_sentCtx target session.header bytes session.outputs front
    (cmd.buffer env) (by omega) env accepted ((Command.rest_buffer _ _).trans data)
  rw [request]
  simp only [handleRequest, admitted.reqType, ne_eq, not_true_eq_false, if_false]
  rw [handlerSignTxInput_of_admitted admitted, parsed, if_neg (not_not.mpr rfl), filled]

/-- Whatever the device did before, the payloads up to the last input are taken. -/
theorem play_front (idle : device.pending = none) {front : List Action}
    (sends : front.map Action.input = session.commands.map Input.apdu)
    : ∃ records,
        (machine target frontEnd).play history device front
        = some (records,
            ⟨sentCtx target session.header session.outputs session.inputs, none⟩) := by
  obtain ⟨ctx, pending⟩ := device
  simp only at idle
  subst idle
  rw [commands, List.map_append, List.map_append] at sends
  obtain ⟨parts, inputs, rfl, sends, sendsInputs⟩ := List.map_eq_append_iff.mp sends
  obtain ⟨headers, outputs, rfl, sendsHeader, sendsOutputs⟩ := List.map_eq_append_iff.mp sends
  rw [List.map_singleton, List.map_eq_singleton_iff] at sendsHeader
  obtain ⟨action, rfl, input⟩ := sendsHeader
  have begun := @step_of_handled target frontEnd ctx _ action _ _ input
    (handles_header session.headerAccepted)
  have headed
      : ∃ records,
          (machine target frontEnd).play history ⟨ctx, none⟩ [action]
          = some (records, ⟨sentCtx target session.header [] [], none⟩) := by
    simp only [Machine.play, begun]
    exact ⟨_, rfl⟩
  obtain ⟨beginning, headed⟩ := headed
  obtain ⟨parsing, parsed⟩ := play_payloads session.outputs (signTxCommand p1Outputs p2More)
    (fun sent => sentCtx target session.header sent []) sendsOutputs
    fun front bytes rest split env => handles_output front rest split env
  have handled (front : List (List UInt8)) (bytes : List UInt8) (rest : List (List UInt8))
      (split : session.inputs = front ++ bytes :: rest) (env : Env)
      : handleRequest frontEnd env (signTxCommand p1Inputs p2More bytes).request
          ((signTxCommand p1Inputs p2More bytes).buffer env)
          (sentCtx target session.header session.outputs front)
        = (sentCtx target session.header session.outputs (front ++ [bytes]), ioSendSw swOk) := by
    have all : session.allInputs = front ++ bytes :: (rest ++ [session.last]) := by
      rw [allInputs, split, List.append_assoc, List.cons_append]
    have member : bytes ∈ session.allInputs := by
      rw [all]
      simp
    have present := ne_nil_of_sentInput (session.inputsAccepted bytes member)
    exact handles_input front _ true all env (request_input present true) rfl
  obtain ⟨filling, filled⟩ := play_payloads session.inputs (signTxCommand p1Inputs p2More)
    (fun sent => sentCtx target session.header session.outputs sent) sendsInputs handled
  refine ⟨filling, ?_⟩
  rw [Machine.play_append, Machine.play_append, headed, Option.bind_some, parsed, Option.bind_some,
    filled]

theorem step_last {last : Action} {review : Review} (opens : session.Opens last review)
    : (machine target frontEnd).step
          ⟨sentCtx target session.header session.outputs session.inputs, none⟩ last
        = some (⟨session.reviewed last.env, some review⟩, [.review review])
      ∧ review.session = .confirmTransaction := by
  have accepted := session.inputsAccepted session.last (by simp)
  have request := request_input (ne_nil_of_sentInput accepted) false
  have input := @handles_input target frontEnd session session.last session.inputs [] false rfl
    last.env _ request rfl
  have kept : (session.reviewed last.env).reqType = .confirmTransaction :=
    (txValidate_kept last.env session.ctx).1
  have parsed
      : handlerSignTxParsed last.env session.ctx false
        = uiDisplayTransaction last.env (session.reviewed last.env) :=
    handlerSignTxParsed_valid opens.valid
  have shown := opens.shown
  rcases uiDisplayTransaction_cases last.env (session.reviewed last.env) kept rfl with
    undisplayed | ⟨amount, fees, address, displayed⟩
  · have same : ioSendSw swDisplayAmountFail = [.review review] :=
      (congrArg Prod.snd undisplayed).symm.trans shown
    simp [ioSendSw] at same
  · have same : [Effect.review (.transaction amount fees address)] = [.review review] :=
      (congrArg Prod.snd displayed).symm.trans shown
    obtain rfl := Effect.review.inj (List.singleton_inj.mp same)
    exact ⟨step_of_handled opens.input (input.trans (parsed.trans displayed)), rfl⟩

-----------------------------------------------------------------------------------------
-- Signing the inputs
-----------------------------------------------------------------------------------------

/-- The device of a session once this many inputs are signed: before the first one the review
waits, and afterwards the session stays approved.
-/
structure Signing (session : HonestSession target) (number : Nat) (device : Device target)
    : Prop where
  transaction : device.ctx.txInfo.transaction = session.transaction
  index : device.ctx.txInfo.signingInputIndex = UInt8.ofNat number
  reqType : device.ctx.reqType = .confirmTransaction
  waits : number = 0 → device.pending.map Review.session = some .confirmTransaction
  approved : number ≠ 0 → device.pending = none ∧ device.ctx.state = .stateApproved

variable {approval action : Action} {requests : List Action} {number : Nat}
  {txin : TransactionInput}

theorem length_allInputs
    : 1 ≤ session.allInputs.length ∧ session.allInputs.length ≤ target.maxInputCount := by
  have counts := (sentHeader_counts session.headerAccepted).2
  have declared : _ = session.allInputs.length := session.inputsDeclared
  rw [declared] at counts
  exact ⟨by simp [allInputs], counts⟩

/-- Each round asks for a signature that the device does not refuse. -/
theorem Asks.request (asks : session.Asks approval requests)
    (found : (approval :: requests)[number]? = some action)
    (signing : session.Signing number device)
    : ∃ start,
        SigningRequest device.pending action.input device.ctx start
        ∧ start.txInfo = device.ctx.txInfo
        ∧ start.reqType = .confirmTransaction
        ∧ start.state = .stateApproved := by
  cases number with
  | zero =>
      obtain rfl : approval = action := Option.some.inj found
      obtain ⟨review, pending, kind⟩ := Option.map_eq_some_iff.mp (signing.waits rfl)
      rw [pending, asks.approves]
      cases review with
      | address | message => simp [Review.session] at kind
      | transaction amount fees address =>
          exact ⟨_, .approval device.ctx amount fees address, rfl, signing.reqType, rfl⟩
  | succ number =>
      obtain ⟨idle, state⟩ := signing.approved (Nat.succ_ne_zero number)
      obtain ⟨cmd, input, request⟩ := asks.asksNext action (List.mem_of_getElem? found)
      rw [idle, input]
      exact ⟨_, .next request ⟨signing.reqType, state⟩, rfl, signing.reqType, state⟩

/-- A signing request runs the signing function. -/
theorem step_of_request {start after signed : GlobalCtx target}
    (request : SigningRequest device.pending action.input device.ctx start)
    (signs : signInputAndSend action.env start = (after, helperSendResponseSig signed))
    : (machine target frontEnd).step device action
      = some (⟨after, none⟩, helperSendResponseSig signed) := by
  obtain ⟨ctx, pending⟩ := device
  obtain ⟨env, input⟩ := action
  simp only at request signs
  cases request with
  | approval ctx amount fees address =>
      have decided : validateTransaction env ctx true = (after, helperSendResponseSig signed) :=
        signs
      simp only [machine, Device.step, decisionCallback, decided]
  | @next _ cmd request admitted =>
      have asked : ¬ (start.reqType ≠ .confirmTransaction ∨ start.state ≠ .stateApproved) := by
        simp [admitted.reqType, admitted.state]
      have handled
          : handleRequest frontEnd env cmd.request (cmd.buffer env) start
            = (after, helperSendResponseSig signed) := by
        simp only [request, handleRequest, if_neg asked]
        exact signs
      exact @step_of_handled target frontEnd start cmd ⟨env, .apdu cmd⟩ after
        (helperSendResponseSig signed) rfl handled

/-- The slot of an input holds what its parser made of it. -/
theorem input_transaction (found : session.txInputs[number]? = some txin) (stray : Stray)
    : session.transaction.input stray number = txin := by
  obtain ⟨below, same⟩ := List.getElem?_eq_some_iff.mp found
  have few := (@length_allInputs target session).2
  have length : session.txInputs.length = session.allInputs.length := List.length_map _
  have inside : number < target.maxInputCount := by omega
  have stored : session.transaction.txInputs = Memory.copy _ session.txInputs := rfl
  rw [Transaction.input, Memory.read_of_lt _ _ inside]
  simp only [stored, Memory.getElem_copy, found, Option.getD_some]

/-- The calls that sign the input of this number, as the signing function makes them. -/
theorem calls_of_signing {start : GlobalCtx target} (env : Env)
    (transaction : start.txInfo.transaction = session.transaction)
    (index : start.txInfo.signingInputIndex.toNat = number)
    (found : session.txInputs[number]? = some txin)
    : signingPath env start
        = walletPath session.transaction.account txin.addressType.toUInt32 txin.addressIndex
      ∧ transactionHash env start
        = inputHash env session.transaction txin (env.stray .calcSighash) := by
  have path
      : signingPath env start
        = walletPath session.transaction.account txin.addressType.toUInt32 txin.addressIndex := by
    simp only [signingPath, transaction, index, input_transaction found]
  refine ⟨path, ?_⟩
  simp only [transactionHash, transactionKeyPair, transactionKey, path, transaction, index,
    input_transaction found]
  rfl

/-- The hash of an input does not depend on what lies behind the transaction. -/
theorem inputHash_stray (session : HonestSession target) (env : Env) (txin : TransactionInput)
    (left right : Stray)
    : inputHash env session.transaction txin left
      = inputHash env session.transaction txin right := by
  obtain ⟨header, inputs, outputs, declares, sent⟩ := session.payloads
  rw [sent]
  exact declares.calcSighash_stray env.blake2b left right txin _ _ (by decide)

/-- Calls that succeed sign the input of the round, and the transaction stays as it is. -/
theorem signed_of_calls {env : Env} {start : GlobalCtx target}
    (transaction : start.txInfo.transaction = session.transaction)
    (index : start.txInfo.signingInputIndex.toNat = number)
    (found : session.txInputs[number]? = some txin)
    (succeed : InputCallsSucceed env session.transaction txin)
    : ∃ signed sighash signature,
        cryptoSignTransaction env start = (0, signed)
        ∧ inputHash env session.transaction txin (env.stray .calcSighash) = some sighash
        ∧ env.cxEcschnorrSignNoThrow (inputKey env session.transaction txin).2 sighash
          = (cxOk, signature)
        ∧ signed.txInfo
          = { start.txInfo with sighash := sighash, signature := signature } := by
  obtain ⟨path, hash⟩ := calls_of_signing env transaction index found
  have key : transactionKey env start = inputKey env session.transaction txin := by
    rw [transactionKey, path]
    rfl
  have pair : transactionKeyPair env start = inputKeyPair env session.transaction txin := by
    rw [transactionKeyPair, key]
    rfl
  obtain ⟨sighash, hashed⟩
      : ∃ sighash, inputHash env session.transaction txin (env.stray .calcSighash) = some sighash :=
    ⟨_, calcSighash_eq _ _ _ _ _ _ (by decide)⟩
  have signs : TransactionSigned env start := by
    refine ⟨by rw [key, succeed.derived], by rw [pair, succeed.paired], sighash,
      hash.trans hashed, ?_⟩
    rw [transactionSignature, key]
    exact succeed.signed sighash hashed
  have result : cryptoSignTransaction env start = (0, (cryptoSignTransaction env start).2) :=
    Prod.ext ((cryptoSignTransaction_ok_iff env start).mpr signs) rfl
  obtain ⟨-, other, otherHashed, ok, left⟩ := cryptoSignTransaction_signed result
  obtain rfl : sighash = other := Option.some.inj ((hash.trans hashed).symm.trans otherHashed)
  rw [transactionSignature, key] at ok left
  exact ⟨_, sighash, _, result, hashed, Prod.ext ok rfl, by rw [left]; rfl⟩

/-- One round of an honest session signs the input of its number. -/
theorem signing_next (asks : session.Asks approval requests)
    (found : (approval :: requests)[number]? = some action)
    (signing : session.Signing number device)
    : ∃ after output,
        (machine target frontEnd).step device action = some (after, output)
        ∧ session.Signing (number + 1) after
        ∧ ∃ txin key publicKey sighash signature hasMore inputIndex,
            SignsSentInput session number ⟨device, action, output, after⟩ txin key publicKey
              sighash signature hasMore inputIndex := by
  obtain ⟨below, -⟩ := List.getElem?_eq_some_iff.mp found
  obtain ⟨positive, few⟩ := @length_allInputs target session
  have limit := target.maxInputCount_le
  have count := asks.count
  rw [List.length_cons, count] at below
  have inside : number < session.txInputs.length := by
    rw [txInputs, List.length_map]
    omega
  obtain ⟨start, request, txInfo, reqType, state⟩ := asks.request found signing
  have transaction : start.txInfo.transaction = session.transaction := by
    rw [txInfo, signing.transaction]
  have index : start.txInfo.signingInputIndex.toNat = number := by
    rw [txInfo, signing.index]
    exact UInt8.toNat_ofNat_of_lt' (by simp only [UInt8.size]; omega)
  have input : session.txInputs[number]? = some session.txInputs[number] :=
    List.getElem?_eq_getElem inside
  have succeed := asks.succeed number action _ found input
  obtain ⟨signed, sighash, signature, result, hashed, ok, left⟩ :=
    signed_of_calls transaction index input succeed
  have kept := cryptoSignTransaction_kept result
  refine ⟨_, _, step_of_request request (signInputAndSend_signed result), ?_, ?_⟩
  · refine ⟨?_, ?_, kept.1.trans reqType, fun zero => absurd zero (Nat.succ_ne_zero number),
      fun _ => ⟨rfl, kept.2.trans state⟩⟩
    · exact (congrArg TransactionCtx.transaction left).trans transaction
    · have counted : signed.txInfo.signingInputIndex = UInt8.ofNat number := by
        rw [left, ← signing.index, ← txInfo]
      change signed.txInfo.signingInputIndex + 1 = _
      rw [counted, UInt8.ofNat_add]
      rfl
  · have declared : session.transaction.txInputLen.toNat = session.allInputs.length :=
      session.inputsDeclared
    have output
        : helperSendResponseSig signed
          = [.reply (.sig
              (session.transaction.txInputLen - start.txInfo.signingInputIndex.toUInt32 - 1).toUInt8
              start.txInfo.signingInputIndex signature sighash)] := by
      simp only [helperSendResponseSig, left, transaction]
    refine ⟨_, _, _, sighash, signature, _, _, input, Prod.ext succeed.derived rfl,
      Prod.ext succeed.paired rfl, ?_, ok, output, index, ?_⟩
    · intro stray
      exact (inputHash_stray session action.env _ stray _).trans hashed
    · rw [hasMore_toNat (by omega) (by omega), index, declared]

/-- The approval and the P1 = 3 commands sign the inputs in order, one in each round. -/
theorem play_rounds (asks : session.Asks approval requests) (begun : session.Signing 0 device)
    : ∃ (rounds : List (Step target)) (final : Device target),
        (machine target frontEnd).play history device (approval :: requests)
          = some (rounds.reverse ++ history, final)
        ∧ rounds.length = session.allInputs.length
        ∧ ∀ number round,
            rounds[number]? = some round
            → ∃ txin key publicKey sighash signature hasMore inputIndex,
                SignsSentInput session number round txin key publicKey sighash signature hasMore
                  inputIndex := by
  have next (index : Nat) (action : Action) (device : Device target)
      (found : (approval :: requests)[index]? = some action)
      (signing : session.Signing (0 + index) device)
      : ∃ after output,
          (machine target frontEnd).step device action = some (after, output)
          ∧ session.Signing (0 + index + 1) after
          ∧ ∃ txin key publicKey sighash signature hasMore inputIndex,
              SignsSentInput session (0 + index) ⟨device, action, output, after⟩ txin key publicKey
                sighash signature hasMore inputIndex := by
    rw [Nat.zero_add] at signing ⊢
    exact signing_next asks found signing
  obtain ⟨rounds, final, signed, -, performed, each⟩ :=
    @Machine.play_of_invariant _ _ _ history (machine target frontEnd) _ session.Signing
      (fun number round =>
        ∃ txin key publicKey sighash signature hasMore inputIndex,
          SignsSentInput session number round txin key publicKey sighash signature hasMore
            inputIndex)
      (approval :: requests) 0 begun next
  refine ⟨rounds, final, signed, ?_, ?_⟩
  · have count := congrArg List.length performed
    have positive := (@length_allInputs target session).1
    rw [List.length_map, List.length_cons, asks.count] at count
    omega
  · intro number round found
    have signs := each number round found
    rwa [Nat.zero_add] at signs

end HonestSession

-----------------------------------------------------------------------------------------
-- The whole session
-----------------------------------------------------------------------------------------

/-- Whatever the device did before, an honest session opens its review, and the approval and the
P1 = 3 commands after it are answered with the signatures of the inputs, one each, in order.
-/
theorem honestSessionSigned (session : HonestSession target) {history : List (Step target)}
    {device : Device target} (idle : device.pending = none) {front requests : List Action}
    {last approval : Action} {review : Review}
    (sends : front.map Action.input = session.commands.map Input.apdu)
    (opens : session.Opens last review) (asks : session.Asks approval requests)
    : ∃ (parsing rounds : List (Step target)) (reviewed final : Device target),
        (machine target frontEnd).play history device (front ++ [last]) = some (parsing, reviewed)
        ∧ reviewed.pending = some review
        ∧ review.session = .confirmTransaction
        ∧ (machine target frontEnd).play parsing reviewed (approval :: requests)
          = some (rounds.reverse ++ parsing, final)
        ∧ rounds.length = session.allInputs.length
        ∧ ∀ number round,
            rounds[number]? = some round
            → ∃ txin key publicKey sighash signature hasMore inputIndex,
                SignsSentInput session number round txin key publicKey sighash signature hasMore
                  inputIndex := by
  obtain ⟨sent, played⟩ :=
    @HonestSession.play_front target frontEnd session history device idle front sends
  obtain ⟨opened, kind⟩ := @HonestSession.step_last target frontEnd session last review opens
  have reviewed
      : ∃ parsing,
          (machine target frontEnd).play history device (front ++ [last])
          = some (parsing, ⟨session.reviewed last.env, some review⟩) := by
    rw [Machine.play_append, played]
    simp only [Option.bind_some, Machine.play, opened]
    exact ⟨_, rfl⟩
  obtain ⟨parsing, reviewed⟩ := reviewed
  have info : (session.reviewed last.env).txInfo = session.ctx.txInfo :=
    txValidate_txInfo last.env session.ctx
  have begun : session.Signing 0 ⟨session.reviewed last.env, some review⟩ := by
    refine ⟨congrArg TransactionCtx.transaction info,
      congrArg TransactionCtx.signingInputIndex info, (txValidate_kept last.env session.ctx).1,
      fun _ => congrArg some kind, fun other => absurd rfl other⟩
  obtain ⟨rounds, final, signed, count, each⟩ :=
    HonestSession.play_rounds asks begun
  exact ⟨parsing, rounds, _, final, reviewed, rfl, kind, signed, count, each⟩

/-- One output and two inputs, each sent to calls that succeed. -/
def twoInputs : HonestSession .nanos :=
  {
    header := (plainHeader 1 2).serialize
    outputs := [(plainOutput 4).serialize]
    inputs := [(plainInput 5).serialize]
    last := (plainInput 7).serialize
    headerAccepted := by decide +kernel
    outputsAccepted := by decide +kernel
    inputsAccepted := by decide +kernel
    outputsDeclared := by decide +kernel
    inputsDeclared := by decide +kernel
  }

theorem honestSessionSigned_sample
    : ∃ (parsing rounds : List (Step .nanos)) (reviewed final : Device .nanos),
        (machine .nanos .bagl).play [] (machine .nanos .bagl).initial
            ((twoInputs.commands ++ [inputCommand false (plainInput 7)]).map fun cmd =>
              ⟨.succeeding, .apdu cmd⟩)
          = some (parsing, reviewed)
        ∧ (machine .nanos .bagl).play parsing reviewed
            [⟨.succeeding, .decision true⟩, ⟨.succeeding, .apdu nextSignatureCommand⟩]
          = some (rounds.reverse ++ parsing, final)
        ∧ rounds.length = 2
        ∧ ∀ number round,
            rounds[number]? = some round
            → ∃ hasMore inputIndex signature sighash,
                round.output = [.reply (.sig hasMore inputIndex signature sighash)]
                ∧ inputIndex.toNat = number
                ∧ hasMore.toNat = 1 - number := by
  have opens
      : twoInputs.Opens ⟨.succeeding, .apdu (inputCommand false (plainInput 7))⟩
          (.transaction (kasText [0x30]) (kasText [0x30]) _) :=
    ⟨rfl, by decide +kernel, rfl⟩
  have asks
      : twoInputs.Asks ⟨.succeeding, .decision true⟩
          [⟨.succeeding, .apdu nextSignatureCommand⟩] := by
    refine ⟨rfl, ?_, rfl, ?_⟩
    · intro action member
      obtain rfl := List.mem_singleton.mp member
      exact ⟨nextSignatureCommand, rfl, by decide⟩
    · intro number action txin found _
      have succeeding : action.env = .succeeding := by
        have member := List.mem_of_getElem? found
        simp only [List.mem_cons, List.not_mem_nil, or_false] at member
        rcases member with rfl | rfl <;> rfl
      rw [succeeding]
      exact ⟨rfl, rfl, fun _ _ => rfl⟩
  obtain ⟨parsing, rounds, reviewed, final, sent, -, -, signed, count, each⟩ :=
    @honestSessionSigned .nanos .bagl twoInputs [] (machine .nanos .bagl).initial rfl
      (twoInputs.commands.map fun cmd => ⟨.succeeding, .apdu cmd⟩) _ _ _ _ rfl opens asks
  refine ⟨parsing, rounds, reviewed, final, ?_, signed, count, ?_⟩
  · rw [List.map_append]
    exact sent
  · intro number round found
    obtain ⟨_, _, _, sighash, signature, hasMore, inputIndex, signs⟩ := each number round found
    exact ⟨hasMore, inputIndex, signature, sighash, signs.output, signs.inputIndex, signs.hasMore⟩

end KaspaApp
