import KaspaApp.Session.Slots

/-! Whether a reviewed transaction is complete. The counters and the slots always agree with
the payloads accepted since the header; what nothing checks is that `P2_LAST` comes with the
last declared payload.
-/

namespace KaspaApp

open Histories

variable {target : Target} {frontEnd : FrontEnd} {history : List (Step target)}
  {device : Device target} {step : Step target}

/-- The payloads accepted since the most recent header, oldest first. -/
def sinceHeader (accepted : Step target → Option (List UInt8))
    : List (Step target) → List (List UInt8)
  | [] => []
  | step :: earlier =>
      if IsHeader step then [] else sinceHeader accepted earlier ++ (accepted step).toList

def acceptedOutputs (history : List (Step target)) : List (List UInt8) :=
  sinceHeader acceptedOutput history

def acceptedInputs (history : List (Step target)) : List (List UInt8) :=
  sinceHeader acceptedInput history

/-- The slot holds the value and begins with the script of the payload. -/
def OutputMatches (bytes : List UInt8) (slot : TransactionOutput) : Prop :=
  ∃ payload : OutputPayload,
    bytes = payload.serialize
    ∧ slot.value = payload.value
    ∧ Holds slot.scriptPublicKey payload.script

/-- The slot holds every field of the payload. -/
def InputMatches (bytes : List UInt8) (slot : TransactionInput) : Prop :=
  ∃ payload : InputPayload,
    bytes = payload.serialize
    ∧ slot.value = payload.value
    ∧ slot.txId = payload.txId
    ∧ slot.addressType = payload.addressType
    ∧ slot.addressIndex = payload.addressIndex
    ∧ slot.index = payload.index

/-- The transaction after the step is the one that the last header declared and the accepted
payloads make up.
-/
structure Complete (history : List (Step target)) (ctx : GlobalCtx target) : Prop where
  declared
    : ∃ header ∈ lastHeader history, ∃ cmd,
        Heads header cmd
        ∧ SameHeader ctx.txInfo.transaction
            (headed target (cmd.buffer header.action.env)).txInfo.transaction
  outputs : (acceptedOutputs history).length = ctx.txInfo.transaction.txOutputLen.toNat
  inputs : (acceptedInputs history).length = ctx.txInfo.transaction.txInputLen.toNat
  outputIndex
    : ctx.txInfo.parsingOutputIndex.toNat = ctx.txInfo.transaction.txOutputLen.toNat
  inputIndex : ctx.txInfo.parsingInputIndex.toNat = ctx.txInfo.transaction.txInputLen.toNat
  outputSlots
    : Memory.Stores OutputMatches (acceptedOutputs history) ctx.txInfo.transaction.txOutputs
  inputSlots
    : Memory.Stores InputMatches (acceptedInputs history) ctx.txInfo.transaction.txInputs

/-- A step that opens a transaction review shows a complete transaction. -/
def ReviewsCompleteTransaction (earlier : List (Step target)) (step : Step target) : Prop :=
  OpensReview .confirmTransaction step → Complete (step :: earlier) step.after.ctx

/-- The input marked last is the last one declared, and every output came before it. -/
def LastInputCompletes (_ : List (Step target)) (step : Step target) : Prop :=
  AcceptsLastInput step
    → step.before.ctx.txInfo.parsingOutputIndex.toNat
        = step.before.ctx.txInfo.transaction.txOutputLen.toNat
      ∧ step.before.ctx.txInfo.parsingInputIndex.toNat + 1
        = step.before.ctx.txInfo.transaction.txInputLen.toNat

instance (earlier : List (Step target)) (step : Step target)
    : Decidable (LastInputCompletes earlier step) := by
  unfold LastInputCompletes
  infer_instance

/-- The slots of a signing session hold the payloads accepted since its header. -/
structure Filled (history : List (Step target)) (device : Device target) : Prop where
  headed : Headed history device
  outputIndex
    : device.ctx.reqType = .confirmTransaction
      → device.ctx.txInfo.parsingOutputIndex.toNat = (acceptedOutputs history).length
  inputIndex
    : device.ctx.reqType = .confirmTransaction
      → device.ctx.txInfo.parsingInputIndex.toNat = (acceptedInputs history).length
  outputSlots
    : device.ctx.reqType = .confirmTransaction
      → Memory.Stores OutputMatches (acceptedOutputs history)
          device.ctx.txInfo.transaction.txOutputs
  inputSlots
    : device.ctx.reqType = .confirmTransaction
      → Memory.Stores InputMatches (acceptedInputs history)
          device.ctx.txInfo.transaction.txInputs

theorem sinceHeader_of_isHeader {accepted : Step target → Option (List UInt8)}
    (begins : IsHeader step)
    : sinceHeader accepted (step :: history) = [] := by
  rw [sinceHeader, if_pos begins]

theorem sinceHeader_of_other {accepted : Step target → Option (List UInt8)}
    (other : ¬ IsHeader step)
    : sinceHeader accepted (step :: history)
      = sinceHeader accepted history ++ (accepted step).toList := by
  rw [sinceHeader, if_neg other]

theorem OutputPayload.matches_into (payload : OutputPayload) (old : TransactionOutput)
    : OutputMatches payload.serialize (payload.into old) :=
  ⟨payload, rfl, rfl, holds_copy old.scriptPublicKey payload.script⟩

theorem InputPayload.matches_into (payload : InputPayload) (old : TransactionInput)
    : InputMatches payload.serialize (payload.into old) :=
  ⟨payload, rfl, rfl, rfl, rfl, rfl, rfl⟩

/-- What a step does to the output slots and their counter is a step of a table. -/
theorem OutputEffect.rowStep (effect : OutputEffect step)
    : Memory.RowStep OutputMatches step.before.ctx.txInfo.parsingOutputIndex.toNat
        step.before.ctx.txInfo.transaction.txOutputs (acceptedOutput step)
        step.after.ctx.txInfo.parsingOutputIndex.toNat
        step.after.ctx.txInfo.transaction.txOutputs := by
  cases effect with
  | kept none index slots => exact .kept none (congrArg UInt8.toNat index) slots
  | refused row admitted writes script none index slots =>
      exact .refused row none (congrArg UInt8.toNat index) slots
  | accepted payload old admitted writes some index slots =>
      obtain ⟨room, next⟩ := admitted.index
      exact .added room (payload.matches_into old) some (index ▸ next) slots

theorem InputEffect.rowStep (effect : InputEffect step)
    : Memory.RowStep InputMatches step.before.ctx.txInfo.parsingInputIndex.toNat
        step.before.ctx.txInfo.transaction.txInputs (acceptedInput step)
        step.after.ctx.txInfo.parsingInputIndex.toNat
        step.after.ctx.txInfo.transaction.txInputs := by
  cases effect with
  | kept none index slots => exact .kept none (congrArg UInt8.toNat index) slots
  | refused row admitted writes none index slots =>
      exact .refused row none (congrArg UInt8.toNat index) slots
  | accepted payload old admitted writes some index slots =>
      obtain ⟨room, next⟩ := admitted.index
      exact .added room (payload.matches_into old) some (index ▸ next) slots

/-- A step that begins no session keeps slots and counters in line with the accepted payloads. -/
theorem stores_sinceHeader {Row : Type} {size count next : Nat} {before after : Vector Row size}
    {holds : List UInt8 → Row → Prop} {accepted : Step target → Option (List UInt8)}
    (other : ¬ IsHeader step)
    (taken : Memory.RowStep holds count before (accepted step) next after)
    (index : count = (sinceHeader accepted history).length)
    (slots : Memory.Stores holds (sinceHeader accepted history) before)
    : next = (sinceHeader accepted (step :: history)).length
      ∧ Memory.Stores holds (sinceHeader accepted (step :: history)) after := by
  rw [sinceHeader_of_other other]
  exact taken.stores index slots

theorem filled_next
    (transition
      : Transition step.action.env step.before step.action.input step.output step.after)
    (filled : Filled history step.before)
    : Filled (step :: history) step.after := by
  have headedAfter := headed_next transition filled.headed
  by_cases begins : IsHeader step
  · obtain ⟨cmd, heads⟩ := heads_of_isHeader transition begins
    have none {accepted : Step target → Option (List UInt8)}
        : sinceHeader accepted (step :: history) = [] :=
      sinceHeader_of_isHeader begins
    refine ⟨headedAfter, fun _ => ?_, fun _ => ?_, fun _ => ?_, fun _ => ?_⟩
    · rw [acceptedOutputs, none, heads.after]
      rfl
    · rw [acceptedInputs, none, heads.after]
      rfl
    · rw [acceptedOutputs, none]
      exact Memory.stores_nil _
    · rw [acceptedInputs, none]
      exact Memory.stores_nil _
  · have effects (session : step.after.ctx.reqType = .confirmTransaction) := by
      have taken := sessionStep_of_transition transition filled.headed.ordered session
      have carried : step.before.ctx.reqType = .confirmTransaction :=
        ((session_carried transition session).resolve_left begins).1
      exact And.intro
        (stores_sinceHeader begins (taken.outputEffect begins).rowStep
          (filled.outputIndex carried) (filled.outputSlots carried))
        (stores_sinceHeader begins (taken.inputEffect begins).rowStep
          (filled.inputIndex carried) (filled.inputSlots carried))
    exact ⟨headedAfter, fun session => (effects session).1.1, fun session => (effects session).2.1,
      fun session => (effects session).1.2, fun session => (effects session).2.2⟩

/-- A review opened by an input that completes the transaction shows a complete one. -/
theorem complete_of_reviews {cmd : Command} {accepted : GlobalCtx target}
    (reviews : Reviews step cmd accepted) (after : Filled (step :: history) step.after)
    (counts
      : step.before.ctx.txInfo.parsingOutputIndex.toNat
          = step.before.ctx.txInfo.transaction.txOutputLen.toNat
        ∧ step.before.ctx.txInfo.parsingInputIndex.toNat + 1
          = step.before.ctx.txInfo.transaction.txInputLen.toNat)
    : Complete (step :: history) step.after.ctx := by
  have stored
      : step.after.ctx.txInfo = accepted.txInfo := by
    rw [reviews.after, GlobalCtx.txInfo_withState, txValidate_txInfo]
  have session : step.after.ctx.reqType = .confirmTransaction := by
    rw [reviews.after, GlobalCtx.reqType_withState, (txValidate_kept _ _).1, reviews.stored]
    exact reviews.admitted.reqType
  have outputIndex
      : step.after.ctx.txInfo.parsingOutputIndex.toNat
        = step.after.ctx.txInfo.transaction.txOutputLen.toNat := by
    rw [stored, reviews.stored]
    exact counts.1
  have inputIndex
      : step.after.ctx.txInfo.parsingInputIndex.toNat
        = step.after.ctx.txInfo.transaction.txInputLen.toNat := by
    rw [stored, reviews.stored]
    exact reviews.admitted.index.2.trans counts.2
  exact {
    declared := after.headed.header session
    outputs := (after.outputIndex session).symm.trans outputIndex
    inputs := (after.inputIndex session).symm.trans inputIndex
    outputIndex := outputIndex
    inputIndex := inputIndex
    outputSlots := after.outputSlots session
    inputSlots := after.inputSlots session
  }

/-- As long as every input marked last completes the declared transaction, every review of a
run shows a complete one.
-/
theorem reviewsCompleteTransactions (run : (machine target frontEnd).Run history device)
    (completes : Throughout LastInputCompletes history)
    : Throughout ReviewsCompleteTransaction history := by
  refine (run.throughout_of_invariant Filled completes ?_ ?_).2
  · refine ⟨headed_start frontEnd, ?_, ?_, ?_, ?_⟩ <;>
      exact fun session => by simp [machine, GlobalCtx.zero] at session
  · intro earlier step _ filled completes taken
    have transition := transition_of_takes taken
    have after := filled_next transition filled
    refine ⟨after, fun opens => ?_⟩
    obtain ⟨cmd, accepted, reviews⟩ := reviews_of_opensReview transition opens
    have lastInput : AcceptsLastInput step :=
      acceptsLastInput ⟨reviews.input, reviews.request⟩ reviews.admitted reviews.parsed
    exact complete_of_reviews reviews after (completes lastInput)

theorem reviewsCompleteTransactions_sample
    : ∃ history device,
        (machine .nanos .bagl).Run history device
        ∧ (∃ step ∈ history, OpensReview .confirmTransaction step)
        ∧ Throughout ReviewsCompleteTransaction history := by
  obtain ⟨history, device, run, completes, opens⟩ :=
    (machine .nanos .bagl).exists_run
      (((signTxCommands (plainHeader 1 2) [plainOutput 4] [plainInput 5] (plainInput 5)).map
        Input.apdu).map (Action.mk .succeeding))
      (fun history _ =>
        Throughout LastInputCompletes history
        ∧ ∃ step ∈ history, OpensReview .confirmTransaction step)
      (by decide +kernel)
  exact ⟨history, device, run, opens, reviewsCompleteTransactions run completes⟩

/-- Two inputs are declared and the first one is marked last: the review opens. -/
theorem reviews_incomplete_transaction
    : ¬ ∀ (history : List (Step .nanos)) (device : Device .nanos),
          (machine .nanos .bagl).Run history device
          → Throughout ReviewsCompleteTransaction history := by
  intro claim
  obtain ⟨history, device, run, step, member, opens, few⟩ :=
    (machine .nanos .bagl).exists_run
      (((signTxCommands (plainHeader 1 2) [plainOutput 4] [] (plainInput 5)).map
        Input.apdu).map (Action.mk .succeeding))
      (fun history _ =>
        ∃ step ∈ history,
          OpensReview .confirmTransaction step
          ∧ step.after.ctx.txInfo.parsingInputIndex.toNat
            ≠ step.after.ctx.txInfo.transaction.txInputLen.toNat)
      (by decide +kernel)
  obtain ⟨earlier, shows⟩ := (claim history device run).of_mem member
  exact few (shows opens).inputIndex

end KaspaApp
