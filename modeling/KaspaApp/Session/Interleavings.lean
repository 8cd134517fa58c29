import KaspaApp.Library.Interleavings
import KaspaApp.Session.Transitions
import KaspaApp.Wire.Payloads

/-! Output commands and input commands that announce more are independent of each other: they
share the context and use different parts of it.
-/

namespace KaspaApp

open Histories

variable {target : Target} {frontEnd : FrontEnd}

/-- A `SIGN_TX` APDU with P1 = 1, whatever its P2 and its data are. -/
def SendsOutput (action : Action) : Prop :=
  ∃ cmd : Command, action.input = .apdu cmd ∧ cmd.ins = insSignTx ∧ cmd.p1 = p1Outputs

/-- A `SIGN_TX` APDU with P1 = 2 and `P2_MORE`. -/
def SendsMoreInput (action : Action) : Prop :=
  ∃ cmd : Command,
    action.input = .apdu cmd ∧ cmd.ins = insSignTx ∧ cmd.p1 = p1Inputs ∧ cmd.p2 = p2More

/-- The context with other output slots and another output counter. -/
def GlobalCtx.withOutputs (ctx : GlobalCtx target)
    (slots : Vector TransactionOutput maxOutputCount) (index : UInt8)
    : GlobalCtx target :=
  let tx := { ctx.txInfo.transaction with txOutputs := slots }
  { ctx with txInfo := { ctx.txInfo with transaction := tx, parsingOutputIndex := index } }

/-- The context with other input slots and another input counter. -/
def GlobalCtx.withInputs (ctx : GlobalCtx target)
    (slots : Vector TransactionInput target.maxInputCount) (index : UInt8)
    : GlobalCtx target :=
  let tx := { ctx.txInfo.transaction with txInputs := slots }
  { ctx with txInfo := { ctx.txInfo with transaction := tx, parsingInputIndex := index } }

/-- What the dispatcher makes of a P1 = 1 APDU. -/
def Request.FillsOutputs : Request → Prop
  | .refused _ | .output => True
  | _ => False

/-- What the dispatcher makes of a P1 = 2 APDU with `P2_MORE`. -/
def Request.FillsInputs : Request → Prop
  | .refused _ | .input true => True
  | _ => False

/-- The dispatcher's way to the `SIGN_TX` checks. -/
theorem Command.request_of_signTx {cmd : Command} (ins : cmd.ins = insSignTx)
    : cmd.request
      = if cmd.cla ≠ kaspaCla then .refused swClaNotSupported else cmd.signTxRequest := by
  rw [Command.request, ins]
  rfl

theorem Command.fillsOutputs {cmd : Command} (ins : cmd.ins = insSignTx)
    (outputs : cmd.p1 = p1Outputs)
    : cmd.request.FillsOutputs := by
  rw [cmd.request_of_signTx ins, Command.signTxRequest]
  split
  · trivial
  split
  · trivial
  split
  · trivial
  rw [outputs]
  trivial

theorem Command.fillsInputs {cmd : Command} (ins : cmd.ins = insSignTx)
    (inputs : cmd.p1 = p1Inputs) (more : cmd.p2 = p2More)
    : cmd.request.FillsInputs := by
  rw [cmd.request_of_signTx ins, Command.signTxRequest]
  split
  · trivial
  split
  · trivial
  split
  · trivial
  rw [inputs, more]
  trivial

-----------------------------------------------------------------------------------------
-- Handlers that fill slots
-----------------------------------------------------------------------------------------

/-- A command that parses its payload into the next slot, in a signing session with room for it. -/
structure FillsSlot {Row : Type} (handle : GlobalCtx target → GlobalCtx target × List Effect)
    (Admitted : GlobalCtx target → Prop) (parsed : GlobalCtx target → ParserStatus × Row)
    (store accept : GlobalCtx target → Row → GlobalCtx target) (code : ParserStatus → UInt16)
    : Prop where
  inactive {ctx}
    : ctx.reqType ≠ .confirmTransaction → handle ctx = (ctx, ioSendSw swBadState)
  full {ctx}
    : ctx.reqType = .confirmTransaction
      → ¬ Admitted ctx
      → handle ctx = (ctx, ioSendSw swTxParsingFail)
  parses {ctx}
    : Admitted ctx
      → handle ctx
        = if (parsed ctx).1 ≠ .parsingOk then
            (store ctx (parsed ctx).2, ioSendSw (code (parsed ctx).1))
          else (accept ctx (parsed ctx).2, ioSendSw swOk)

/-- Contexts of one family, with `own` in the part that is filled: what the handler looks at does
not depend on the other part, and what it stores goes into the filled one.
-/
structure Indifferent {Row Part Other : Type} (contexts : Part → Other → GlobalCtx target)
    (own : Part) (Admitted : GlobalCtx target → Prop)
    (parsed : GlobalCtx target → ParserStatus × Row)
    (store accept : GlobalCtx target → Row → GlobalCtx target) (ctx : GlobalCtx target)
    : Prop where
  session (other) : (contexts own other).reqType = ctx.reqType
  admitted (other) : Admitted (contexts own other) ↔ Admitted ctx
  parsed (other) : parsed (contexts own other) = parsed ctx
  stored (row) : ∃ part, ∀ other, store (contexts own other) row = contexts part other
  accepted (row) : ∃ part, ∀ other, accept (contexts own other) row = contexts part other

/-- Such a command writes one value and sends one status word, whatever the other part holds. -/
theorem FillsSlot.uniform {Row Part Other : Type}
    {handle : GlobalCtx target → GlobalCtx target × List Effect}
    {Admitted : GlobalCtx target → Prop} {parsed : GlobalCtx target → ParserStatus × Row}
    {store accept : GlobalCtx target → Row → GlobalCtx target} {code : ParserStatus → UInt16}
    {contexts : Part → Other → GlobalCtx target} {own : Part} {ctx : GlobalCtx target}
    (fills : FillsSlot handle Admitted parsed store accept code)
    (same : Indifferent contexts own Admitted parsed store accept ctx)
    : ∃ part sent, ∀ other,
        handle (contexts own other) = (contexts part other, ioSendSw sent) := by
  by_cases session : ctx.reqType = .confirmTransaction
  · by_cases room : Admitted ctx
    · have handled (other : Other) := fills.parses ((same.admitted other).mpr room)
      by_cases failed : (parsed ctx).1 ≠ .parsingOk
      · obtain ⟨part, stored⟩ := same.stored (parsed ctx).2
        refine ⟨part, code (parsed ctx).1, fun other => ?_⟩
        rw [handled other, same.parsed other, if_pos failed, stored other]
      · obtain ⟨part, accepted⟩ := same.accepted (parsed ctx).2
        refine ⟨part, swOk, fun other => ?_⟩
        rw [handled other, same.parsed other, if_neg failed, accepted other]
    · refine ⟨own, swTxParsingFail, fun other => ?_⟩
      exact fills.full ((same.session other).trans session) (mt (same.admitted other).mp room)
  · refine ⟨own, swBadState, fun other => ?_⟩
    exact fills.inactive fun active => session ((same.session other).symm.trans active)

section

variable (frontEnd : FrontEnd) (env : Env) (cdata : Buffer)

theorem output_fillsSlot
    : FillsSlot (handleRequest frontEnd env .output cdata) (@OutputAdmitted target)
        (parsedOutput env cdata) GlobalCtx.storeOutput GlobalCtx.acceptOutput
        (fun status => UInt16.ofInt status.toInt) where
  inactive session := if_pos session
  full session full :=
    (if_neg (not_not.mpr session)).trans (handlerSignTxOutput_of_full session full)
  parses admitted :=
    (if_neg (not_not.mpr admitted.reqType)).trans (handlerSignTxOutput_of_admitted admitted)

theorem input_fillsSlot
    : FillsSlot (handleRequest frontEnd env (.input true) cdata) (@InputAdmitted target)
        (parsedInput env cdata) GlobalCtx.storeInput GlobalCtx.acceptInput
        (fun _ => swTxParsingFail) where
  inactive session := if_pos session
  full session full :=
    (if_neg (not_not.mpr session)).trans (handlerSignTxInput_of_full session full)
  parses admitted :=
    (if_neg (not_not.mpr admitted.reqType)).trans (handlerSignTxInput_of_admitted admitted)

end

section

variable {env : Env} {request : Request} {cdata : Buffer} (ctx : GlobalCtx target)

/-- An output command does not look at the input slots, and an input command not at the output
slots.
-/
theorem withInputs_indifferent
    : Indifferent
        (fun (part : Vector TransactionOutput maxOutputCount × UInt8)
            (other : Vector TransactionInput target.maxInputCount × UInt8) =>
          (ctx.withInputs other.1 other.2).withOutputs part.1 part.2)
        (ctx.txInfo.transaction.txOutputs, ctx.txInfo.parsingOutputIndex) OutputAdmitted
        (parsedOutput env cdata) GlobalCtx.storeOutput GlobalCtx.acceptOutput ctx where
  session _ := rfl
  admitted _ := ⟨fun same => ⟨same.1, same.2, same.3⟩, fun same => ⟨same.1, same.2, same.3⟩⟩
  parsed _ := rfl
  stored txout :=
    ⟨((ctx.storeOutput txout).txInfo.transaction.txOutputs, ctx.txInfo.parsingOutputIndex),
      fun _ => rfl⟩
  accepted txout :=
    ⟨((ctx.storeOutput txout).txInfo.transaction.txOutputs, ctx.txInfo.parsingOutputIndex + 1),
      fun _ => rfl⟩

theorem withOutputs_indifferent
    : Indifferent
        (fun (part : Vector TransactionInput target.maxInputCount × UInt8)
            (other : Vector TransactionOutput maxOutputCount × UInt8) =>
          (ctx.withOutputs other.1 other.2).withInputs part.1 part.2)
        (ctx.txInfo.transaction.txInputs, ctx.txInfo.parsingInputIndex) InputAdmitted
        (parsedInput env cdata) GlobalCtx.storeInput GlobalCtx.acceptInput ctx where
  session _ := rfl
  admitted _ := ⟨fun same => ⟨same.1, same.2, same.3⟩, fun same => ⟨same.1, same.2, same.3⟩⟩
  parsed _ := rfl
  stored txin :=
    ⟨((ctx.storeInput txin).txInfo.transaction.txInputs, ctx.txInfo.parsingInputIndex),
      fun _ => rfl⟩
  accepted txin :=
    ⟨((ctx.storeInput txin).txInfo.transaction.txInputs, ctx.txInfo.parsingInputIndex + 1),
      fun _ => rfl⟩

/-- A P1 = 1 command sends a status word and writes output slots and their counter; neither
depends on the input slots and their counter.
-/
theorem handleRequest_fillsOutputs (fills : request.FillsOutputs)
    : ∃ slots index code, ∀ others counter,
        handleRequest frontEnd env request cdata (ctx.withInputs others counter)
        = ((ctx.withInputs others counter).withOutputs slots index, ioSendSw code) := by
  cases request with
  | refused code => exact ⟨_, _, code, fun _ _ => rfl⟩
  | getVersion | getAppName | getPublicKey | header | input | nextSignature | signMessage =>
      exact fills.elim
  | output =>
      obtain ⟨part, code, uniform⟩ :=
        (output_fillsSlot frontEnd env cdata).uniform (withInputs_indifferent ctx)
      exact ⟨part.1, part.2, code, fun others counter => uniform (others, counter)⟩

/-- The same for a P1 = 2 command that announces more. -/
theorem handleRequest_fillsInputs (fills : request.FillsInputs)
    : ∃ slots index code, ∀ others counter,
        handleRequest frontEnd env request cdata (ctx.withOutputs others counter)
        = ((ctx.withOutputs others counter).withInputs slots index, ioSendSw code) := by
  cases request with
  | refused code => exact ⟨_, _, code, fun _ _ => rfl⟩
  | getVersion | getAppName | getPublicKey | header | output | nextSignature | signMessage =>
      exact fills.elim
  | input more =>
      cases more with
      | false => exact fills.elim
      | true =>
          obtain ⟨part, code, uniform⟩ :=
            (input_fillsSlot frontEnd env cdata).uniform (withOutputs_indifferent ctx)
          exact ⟨part.1, part.2, code, fun others counter => uniform (others, counter)⟩

end

/-- A P1 = 1 APDU as a step of the device. -/
theorem step_of_sendsOutput {action : Action} (sends : SendsOutput action)
    (ctx : GlobalCtx target)
    : ∃ slots index code, ∀ others counter,
        Device.step frontEnd ⟨ctx.withInputs others counter, none⟩ action
        = some (⟨(ctx.withInputs others counter).withOutputs slots index, none⟩,
            ioSendSw code) := by
  obtain ⟨cmd, input, ins, outputs⟩ := sends
  obtain ⟨slots, index, code, result⟩ :=
    @handleRequest_fillsOutputs target frontEnd action.env cmd.request (cmd.buffer action.env) ctx
      (cmd.fillsOutputs ins outputs)
  exact ⟨slots, index, code, fun others counter => step_of_handled input (result others counter)⟩

theorem step_of_sendsMoreInput {action : Action} (sends : SendsMoreInput action)
    (ctx : GlobalCtx target)
    : ∃ slots index code, ∀ others counter,
        Device.step frontEnd ⟨ctx.withOutputs others counter, none⟩ action
        = some (⟨(ctx.withOutputs others counter).withInputs slots index, none⟩,
            ioSendSw code) := by
  obtain ⟨cmd, input, ins, inputs, more⟩ := sends
  obtain ⟨slots, index, code, result⟩ :=
    @handleRequest_fillsInputs target frontEnd action.env cmd.request (cmd.buffer action.env) ctx
      (cmd.fillsInputs ins inputs more)
  exact ⟨slots, index, code, fun others counter => step_of_handled input (result others counter)⟩

/-- A context is the context with its own output slots, and with its own input slots. -/
theorem GlobalCtx.withOwn (ctx : GlobalCtx target)
    : ctx.withOutputs ctx.txInfo.transaction.txOutputs ctx.txInfo.parsingOutputIndex = ctx
      ∧ ctx.withInputs ctx.txInfo.transaction.txInputs ctx.txInfo.parsingInputIndex = ctx :=
  ⟨rfl, rfl⟩

/-- An output command and an input command commute in every context. -/
theorem commute_output_input (ctx : GlobalCtx target) {output input : Action}
    (sendsOutput : SendsOutput output) (sendsInput : SendsMoreInput input)
    : (machine target frontEnd).Commute ⟨ctx, none⟩ output input := by
  obtain ⟨outputs, outputIndex, outputCode, onOutput⟩ :=
    @step_of_sendsOutput target frontEnd output sendsOutput ctx
  obtain ⟨inputs, inputIndex, inputCode, onInput⟩ :=
    @step_of_sendsMoreInput target frontEnd input sendsInput ctx
  have first := onOutput ctx.txInfo.transaction.txInputs ctx.txInfo.parsingInputIndex
  have second := onInput ctx.txInfo.transaction.txOutputs ctx.txInfo.parsingOutputIndex
  rw [ctx.withOwn.2] at first
  rw [ctx.withOwn.1] at second
  exact ⟨_, _, _, _, _, first, onInput outputs outputIndex, second, onOutput inputs inputIndex⟩

/-- Both kinds of commands leave no review, and commute wherever no review waits. -/
theorem commutingKinds_outputs_inputs
    : CommutingKinds (machine target frontEnd) (fun device => device.pending = none)
        SendsOutput SendsMoreInput where
  takesLeft := by
    rintro ⟨ctx, _⟩ action rfl sends
    obtain ⟨_, _, _, taken⟩ := @step_of_sendsOutput target frontEnd action sends ctx
    exact ⟨_, _, taken ctx.txInfo.transaction.txInputs ctx.txInfo.parsingInputIndex, rfl⟩
  takesRight := by
    rintro ⟨ctx, _⟩ action rfl sends
    obtain ⟨_, _, _, taken⟩ := @step_of_sendsMoreInput target frontEnd action sends ctx
    exact ⟨_, _, taken ctx.txInfo.transaction.txOutputs ctx.txInfo.parsingOutputIndex, rfl⟩
  commute := by
    rintro ⟨ctx, _⟩ output input rfl sendsOutput sendsInput
    exact commute_output_input ctx sendsOutput sendsInput

/-- Output commands and input commands that announce more commute in every context, accepted or
refused. All interleavings of two sequences of them give each command the same reply and leave the
same context, so that everything after them, the review and the signatures included, is the same.
-/
theorem outputs_inputs_interleave (frontEnd : FrontEnd) (ctx : GlobalCtx target)
    : (∀ output input,
        SendsOutput output
        → SendsMoreInput input
        → (machine target frontEnd).Commute ⟨ctx, none⟩ output input)
      ∧ ∀ outputs inputs : List Action,
          (∀ output ∈ outputs, SendsOutput output)
          → (∀ input ∈ inputs, SendsMoreInput input)
          → ∃ (outputReplies inputReplies : List (Action × List Effect))
              (after : GlobalCtx target),
              outputReplies.map Prod.fst = outputs
              ∧ inputReplies.map Prod.fst = inputs
              ∧ ∀ merged,
                  Interleaving outputs inputs merged
                  → ∃ replies,
                      (machine target frontEnd).exchanges ⟨ctx, none⟩ merged
                        = some (replies, ⟨after, none⟩)
                      ∧ Interleaving outputReplies inputReplies replies
                      ∧ ∀ rest,
                          (machine target frontEnd).exchanges ⟨ctx, none⟩ (merged ++ rest)
                          = ((machine target frontEnd).exchanges ⟨after, none⟩ rest).map
                              fun later => (replies ++ later.1, later.2) := by
  refine ⟨fun output input => commute_output_input ctx, ?_⟩
  intro outputs inputs areOutputs areInputs
  have kinds := @commutingKinds_outputs_inputs target frontEnd
  have idle : (Device.mk ctx none).pending = none := rfl
  obtain ⟨outputReplies, middle, first, inside⟩ :=
    kinds.exchanges_isSome idle fun action member => Or.inl (areOutputs action member)
  obtain ⟨inputReplies, ⟨after, _⟩, second, rfl⟩ :=
    kinds.exchanges_isSome inside fun action member => Or.inr (areInputs action member)
  refine ⟨outputReplies, inputReplies, after, Machine.map_fst_of_exchanges first,
    Machine.map_fst_of_exchanges second, fun merged interleaving => ?_⟩
  obtain ⟨replies, sends, shuffled⟩ :=
    kinds.exchanges_merged idle areOutputs areInputs interleaving first second
  refine ⟨replies, sends, shuffled, fun rest => ?_⟩
  rw [Machine.exchanges_append, sends, Option.bind_some]

/-- One output and one of two inputs, sent in both orders after their header. -/
theorem outputs_inputs_interleave_sample
    : let ctx := headed .nanos ((headerCommand (plainHeader 1 2)).buffer .succeeding)
      let output := Action.mk .succeeding (.apdu (outputCommand (plainOutput 7)))
      let input := Action.mk .succeeding (.apdu (inputCommand true (plainInput 5)))
      (machine .nanos .bagl).Commute ⟨ctx, none⟩ output input
      ∧ ∃ first second after,
          (machine .nanos .bagl).exchanges ⟨ctx, none⟩ [output, input] = some (first, after)
          ∧ (machine .nanos .bagl).exchanges ⟨ctx, none⟩ [input, output]
            = some (second, after) := by
  intro ctx output input
  have sendsOutput : SendsOutput output := ⟨_, rfl, rfl, rfl⟩
  have sendsInput : SendsMoreInput input := ⟨_, rfl, rfl, rfl, rfl⟩
  obtain ⟨commute, interleave⟩ := outputs_inputs_interleave .bagl ctx
  obtain ⟨_, _, after, _, _, all⟩ := interleave [output] [input]
    (List.forall_mem_singleton.mpr sendsOutput) (List.forall_mem_singleton.mpr sendsInput)
  obtain ⟨first, sendsFirst, _⟩ := all [output, input] (.left (.right .nil))
  obtain ⟨second, sendsSecond, _⟩ := all [input, output] (.right (.left .nil))
  exact ⟨commute output input sendsOutput sendsInput, first, second, _, sendsFirst, sendsSecond⟩

end KaspaApp
