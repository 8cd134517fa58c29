import KaspaApp.Session.HeaderAcceptance
import KaspaApp.Wire.Inputs
import KaspaApp.Wire.Outputs

/-! What the steps of a signing session do to the output and input slots: a payload is written
into the slot behind the accepted ones, and only an accepted payload is counted.
-/

namespace KaspaApp

open Histories

variable {target : Target} {frontEnd : FrontEnd} {history : List (Step target)}
  {device : Device target} {step : Step target}

/-- What a step did to the output slots and their counter. -/
inductive OutputEffect (step : Step target) : Prop
  | kept (none : acceptedOutput step = none)
    (index
      : step.after.ctx.txInfo.parsingOutputIndex = step.before.ctx.txInfo.parsingOutputIndex)
    (slots
      : step.after.ctx.txInfo.transaction.txOutputs
        = step.before.ctx.txInfo.transaction.txOutputs)
  | refused (row : TransactionOutput) (admitted : OutputAdmitted step.before.ctx)
    (writes : WritesSlot step)
    (script
      : (∃ old ∈ step.before.ctx.txInfo.transaction.txOutputs.toList,
          row.scriptPublicKey = old.scriptPublicKey)
        ∨ ∃ script, Holds row.scriptPublicKey script)
    (none : acceptedOutput step = none)
    (index
      : step.after.ctx.txInfo.parsingOutputIndex = step.before.ctx.txInfo.parsingOutputIndex)
    (slots
      : step.after.ctx.txInfo.transaction.txOutputs
        = step.before.ctx.txInfo.transaction.txOutputs.setIfInBounds
            step.before.ctx.txInfo.parsingOutputIndex.toNat row)
  | accepted (payload : OutputPayload) (old : TransactionOutput)
    (admitted : OutputAdmitted step.before.ctx) (writes : WritesSlot step)
    (some : acceptedOutput step = some payload.serialize)
    (index
      : step.after.ctx.txInfo.parsingOutputIndex
        = step.before.ctx.txInfo.parsingOutputIndex + 1)
    (slots
      : step.after.ctx.txInfo.transaction.txOutputs
        = step.before.ctx.txInfo.transaction.txOutputs.setIfInBounds
            step.before.ctx.txInfo.parsingOutputIndex.toNat (payload.into old))

/-- What a step did to the input slots and their counter. -/
inductive InputEffect (step : Step target) : Prop
  | kept (none : acceptedInput step = none)
    (index
      : step.after.ctx.txInfo.parsingInputIndex = step.before.ctx.txInfo.parsingInputIndex)
    (slots
      : step.after.ctx.txInfo.transaction.txInputs
        = step.before.ctx.txInfo.transaction.txInputs)
  | refused (row : TransactionInput) (admitted : InputAdmitted step.before.ctx)
    (writes : WritesSlot step) (none : acceptedInput step = none)
    (index
      : step.after.ctx.txInfo.parsingInputIndex = step.before.ctx.txInfo.parsingInputIndex)
    (slots
      : step.after.ctx.txInfo.transaction.txInputs
        = step.before.ctx.txInfo.transaction.txInputs.setIfInBounds
            step.before.ctx.txInfo.parsingInputIndex.toNat row)
  | accepted (payload : InputPayload) (old : TransactionInput)
    (admitted : InputAdmitted step.before.ctx) (writes : WritesSlot step)
    (some : acceptedInput step = some payload.serialize)
    (index
      : step.after.ctx.txInfo.parsingInputIndex
        = step.before.ctx.txInfo.parsingInputIndex + 1)
    (slots
      : step.after.ctx.txInfo.transaction.txInputs
        = step.before.ctx.txInfo.transaction.txInputs.setIfInBounds
            step.before.ctx.txInfo.parsingInputIndex.toNat (payload.into old))

/-- What an accepted output command parsed. -/
theorem outputOf_parsed {cmd : Command} (parsed : (outputOf step cmd).1 = .parsingOk)
    : ∃ payload old,
        cmd.data = OutputPayload.serialize payload
        ∧ (outputOf step cmd).2 = payload.into old := by
  obtain ⟨payload, bytes⟩ := output_of_parsed parsed
  have stored : (outputOf step cmd).2 = payload.into _ :=
    congrArg Prod.snd (transactionOutputDeserialize_serialize bytes)
  rw [Command.rest_buffer] at bytes
  exact ⟨payload, _, bytes, stored⟩

theorem inputOf_parsed {cmd : Command} (parsed : (inputOf step cmd).1 = .parsingOk)
    : ∃ payload old,
        cmd.data = InputPayload.serialize payload
        ∧ (inputOf step cmd).2 = payload.into old := by
  obtain ⟨payload, bytes⟩ := input_of_parsed parsed
  have stored : (inputOf step cmd).2 = payload.into _ :=
    congrArg Prod.snd (transactionInputDeserialize_serialize bytes)
  rw [Command.rest_buffer] at bytes
  exact ⟨payload, _, bytes, stored⟩

theorem acceptedOutput_of_parsed {cmd : Command} (command : Commands step cmd .output)
    (admitted : OutputAdmitted step.before.ctx) (parsed : (outputOf step cmd).1 = .parsingOk)
    : acceptedOutput step = some cmd.data := by
  rw [acceptedOutput, command.input]
  exact if_pos ⟨command.request, admitted, parsed⟩

theorem acceptedInput_of_parsed {cmd : Command} {more : Bool}
    (command : Commands step cmd (.input more)) (admitted : InputAdmitted step.before.ctx)
    (parsed : (inputOf step cmd).1 = .parsingOk)
    : acceptedInput step = some cmd.data := by
  rw [acceptedInput, command.input]
  refine if_pos ⟨?_, admitted, parsed⟩
  cases more with
  | true => exact Or.inl command.request
  | false => exact Or.inr command.request

theorem writesSlot_of_output {cmd : Command} (command : Commands step cmd .output)
    (admitted : OutputAdmitted step.before.ctx)
    : WritesSlot step := by
  rw [WritesSlot, command.input]
  exact Or.inl ⟨command.request, admitted⟩

theorem writesSlot_of_input {cmd : Command} {more : Bool}
    (command : Commands step cmd (.input more)) (admitted : InputAdmitted step.before.ctx)
    : WritesSlot step := by
  rw [WritesSlot, command.input]
  refine Or.inr ⟨?_, admitted⟩
  cases more with
  | true => exact Or.inl command.request
  | false => exact Or.inr command.request

/-- A counter below the length of its array does not wrap. -/
theorem counter_of_lt {counter : UInt8} {limit : Nat} (byteWide : limit < 256)
    (below : counter < UInt8.ofNat limit)
    : counter.toNat < limit ∧ (counter + 1).toNat = counter.toNat + 1 := by
  have room := UInt8.lt_iff_toNat_lt.mp below
  have one : (1 : UInt8).toNat = 1 := rfl
  rw [UInt8.toNat_ofNat_of_lt' byteWide] at room
  refine ⟨room, ?_⟩
  rw [UInt8.toNat_add, one]
  omega

theorem OutputAdmitted.index {ctx : GlobalCtx target} (admitted : OutputAdmitted ctx)
    : ctx.txInfo.parsingOutputIndex.toNat < maxOutputCount
      ∧ (ctx.txInfo.parsingOutputIndex + 1).toNat
        = ctx.txInfo.parsingOutputIndex.toNat + 1 :=
  counter_of_lt (by decide) admitted.belowArray

theorem InputAdmitted.index {ctx : GlobalCtx target} (admitted : InputAdmitted ctx)
    : ctx.txInfo.parsingInputIndex.toNat < target.maxInputCount
      ∧ (ctx.txInfo.parsingInputIndex + 1).toNat
        = ctx.txInfo.parsingInputIndex.toNat + 1 := by
  have limit := target.maxInputCount_le
  exact counter_of_lt (by omega) admitted.belowArray

/-- The script that an output command leaves in its slot is the old one or a complete one. -/
theorem outputOf_written (admitted : OutputAdmitted step.before.ctx) (cmd : Command)
    : (∃ old ∈ step.before.ctx.txInfo.transaction.txOutputs.toList,
        (outputOf step cmd).2.scriptPublicKey = old.scriptPublicKey)
      ∨ ∃ script, Holds (outputOf step cmd).2.scriptPublicKey script := by
  have inside := admitted.index.1
  rcases transactionOutputDeserialize_written (cmd.buffer step.action.env) _ with
    same | ⟨script, copied⟩
  · refine Or.inl ⟨_, ?_, same⟩
    rw [Transaction.output, Memory.read_of_lt _ _ inside]
    exact Vector.mem_toList_iff.mpr (Vector.getElem_mem inside)
  · exact Or.inr ⟨script, copied ▸ holds_copy _ script⟩

theorem SessionStep.outputEffect (taken : SessionStep step) (other : ¬ IsHeader step)
    : OutputEffect step := by
  cases taken with
  | header heads =>
      exact absurd (by simp [IsHeader, heads.input, Input.request, heads.request]) other
  | idle silent noOutput noInput txInfo => exact .kept noOutput (by rw [txInfo]) (by rw [txInfo])
  | @outputRefused cmd command admitted failed silent after =>
      refine .refused _ admitted (writesSlot_of_output command admitted)
        (outputOf_written admitted cmd) ?_ (by rw [after]; rfl) (by rw [after]; rfl)
      rw [acceptedOutput, command.input]
      exact if_neg fun accepted => failed accepted.2.2
  | outputAccepted command admitted parsed silent after =>
      obtain ⟨payload, old, bytes, stored⟩ := outputOf_parsed parsed
      rw [stored] at after
      exact .accepted payload old admitted (writesSlot_of_output command admitted)
        (bytes ▸ acceptedOutput_of_parsed command admitted parsed) (by rw [after]; rfl)
        (by rw [after]; rfl)
  | inputRefused command admitted parsed silent after
  | inputAccepted command admitted parsed silent after =>
      exact .kept (acceptedOutput_eq_none (by simp [command.input, Input.request, command.request]))
        (by rw [after]; rfl) (by rw [after]; rfl)
  | inputInvalid command admitted parsed invalid silent after =>
      exact .kept (acceptedOutput_eq_none (by simp [command.input, Input.request, command.request]))
        (by rw [after, txValidate_txInfo]; rfl) (by rw [after, txValidate_txInfo]; rfl)
  | inputValid command admitted parsed valid unsigned after =>
      exact .kept (acceptedOutput_eq_none (by simp [command.input, Input.request, command.request]))
        (by rw [after, GlobalCtx.txInfo_withState, txValidate_txInfo]; rfl)
        (by rw [after, GlobalCtx.txInfo_withState, txValidate_txInfo]; rfl)
  | @signed start signed signs unopened =>
      obtain ⟨transaction, _, _, index⟩ := signs.request.signed_txInfo signs.result
      have after : step.after.ctx = signed.nextInput := by rw [signs.after]
      exact .kept signs.request.unaccepted.1 (by rw [after]; exact index)
        (by rw [after, GlobalCtx.transaction_nextInput, transaction])
  | signingFailed request result silent after =>
      obtain ⟨transaction, _, _, index⟩ := request.signed_txInfo result
      exact .kept request.unaccepted.1 (by rw [after]; exact index)
        (by simp only [after, GlobalCtx.txInfo_withState, transaction])

theorem SessionStep.inputEffect (taken : SessionStep step) (other : ¬ IsHeader step)
    : InputEffect step := by
  cases taken with
  | header heads =>
      exact absurd (by simp [IsHeader, heads.input, Input.request, heads.request]) other
  | idle silent noOutput noInput txInfo => exact .kept noInput (by rw [txInfo]) (by rw [txInfo])
  | outputRefused command admitted failed silent after
  | outputAccepted command admitted parsed silent after =>
      exact .kept (acceptedInput_eq_none (by simp [command.input, Input.request, command.request]))
        (by rw [after]; rfl) (by rw [after]; rfl)
  | inputRefused command admitted failed silent after =>
      refine .refused _ admitted (writesSlot_of_input command admitted) ?_ (by rw [after]; rfl)
        (by rw [after]; rfl)
      rw [acceptedInput, command.input]
      exact if_neg fun accepted => failed accepted.2.2
  | inputAccepted command admitted parsed silent after =>
      obtain ⟨payload, old, bytes, stored⟩ := inputOf_parsed parsed
      rw [stored] at after
      exact .accepted payload old admitted (writesSlot_of_input command admitted)
        (bytes ▸ acceptedInput_of_parsed command admitted parsed) (by rw [after]; rfl)
        (by rw [after]; rfl)
  | inputInvalid command admitted parsed invalid silent after =>
      obtain ⟨payload, old, bytes, stored⟩ := inputOf_parsed parsed
      refine .accepted payload old admitted (writesSlot_of_input command admitted)
        (bytes ▸ acceptedInput_of_parsed command admitted parsed) ?_ ?_
      · rw [after, txValidate_txInfo]
        rfl
      · rw [after, txValidate_txInfo, lastAccepted, stored]
        rfl
  | inputValid command admitted parsed valid unsigned after =>
      obtain ⟨payload, old, bytes, stored⟩ := inputOf_parsed parsed
      refine .accepted payload old admitted (writesSlot_of_input command admitted)
        (bytes ▸ acceptedInput_of_parsed command admitted parsed) ?_ ?_
      · rw [after, GlobalCtx.txInfo_withState, txValidate_txInfo]
        rfl
      · rw [after, GlobalCtx.txInfo_withState, txValidate_txInfo, lastAccepted, stored]
        rfl
  | @signed start signed signs unopened =>
      obtain ⟨transaction, _, index, _⟩ := signs.request.signed_txInfo signs.result
      have after : step.after.ctx = signed.nextInput := by rw [signs.after]
      exact .kept signs.request.unaccepted.2 (by rw [after]; exact index)
        (by rw [after, GlobalCtx.transaction_nextInput, transaction])
  | signingFailed request result silent after =>
      obtain ⟨transaction, _, index, _⟩ := request.signed_txInfo result
      exact .kept request.unaccepted.2 (by rw [after]; exact index)
        (by simp only [after, GlobalCtx.txInfo_withState, transaction])

end KaspaApp
