import KaspaApp.Session.Events
import KaspaApp.Wire.Grammars

/-! What a transaction's payloads do to the device. Each one that its parser accepts lands in the
slot of its number, whatever lies behind it in memory and whatever the device did before.
-/

namespace KaspaApp

open Histories

variable {target : Target} {frontEnd : FrontEnd}

/-- What the header parser makes of a payload in a cleared context. -/
def sentHeader (target : Target) (bytes : List UInt8)
    : ParserStatus × Transaction target × Vector UInt32 kaspaMaxBip32PathLen :=
  parsedHeader target (.ofPayload bytes fun _ => 0)

/-- What the output parser makes of a payload in an empty slot. -/
def sentOutput (bytes : List UInt8) : ParserStatus × TransactionOutput :=
  transactionOutputDeserialize (.ofPayload bytes fun _ => 0) .zero

/-- What the input parser makes of a payload in an empty slot. -/
def sentInput (bytes : List UInt8) : ParserStatus × TransactionInput :=
  transactionInputDeserialize (.ofPayload bytes fun _ => 0) .zero

/-- The transaction made of the payloads, each in the slot of its number. -/
def sentTransaction (target : Target) (header : List UInt8) (outputs inputs : List (List UInt8))
    : Transaction target :=
  { (sentHeader target header).2.1 with
    txOutputs :=
      Memory.copy (Vector.replicate maxOutputCount .zero)
        (outputs.map fun bytes => (sentOutput bytes).2)
    txInputs :=
      Memory.copy (Vector.replicate target.maxInputCount .zero)
        (inputs.map fun bytes => (sentInput bytes).2) }

/-- The context once these payloads were sent. -/
def sentCtx (target : Target) (header : List UInt8) (outputs inputs : List (List UInt8))
    : GlobalCtx target :=
  let ctx :=
    (GlobalCtx.cleared target .confirmTransaction).withHeader
      (sentTransaction target header outputs inputs) (sentHeader target header).2.2
  { ctx with
    txInfo :=
      { ctx.txInfo with
        parsingOutputIndex := UInt8.ofNat outputs.length
        parsingInputIndex := UInt8.ofNat inputs.length } }

variable {header bytes : List UInt8} {outputs inputs : List (List UInt8)} {buf : Buffer}

/-- Accepted payloads are serialised ones. -/
theorem payload_of_sentHeader (accepted : (sentHeader target header).1 = .parsingOk)
    : ∃ payload : HeaderPayload,
        payload.Allowed target
        ∧ header = payload.serialize
        ∧ sentHeader target header = (.parsingOk, payload.into (.zero target), payload.path) := by
  obtain ⟨payload, allowed, serialized⟩ := header_of_parsed accepted
  exact ⟨payload, allowed, serialized, transactionDeserialize_serialize allowed serialized⟩

theorem payload_of_sentOutput (accepted : (sentOutput bytes).1 = .parsingOk)
    : ∃ payload : OutputPayload,
        bytes = payload.serialize ∧ sentOutput bytes = (.parsingOk, payload.into .zero) := by
  obtain ⟨payload, serialized⟩ := output_of_parsed accepted
  exact ⟨payload, serialized, transactionOutputDeserialize_serialize serialized⟩

theorem payload_of_sentInput (accepted : (sentInput bytes).1 = .parsingOk)
    : ∃ payload : InputPayload,
        bytes = payload.serialize ∧ sentInput bytes = (.parsingOk, payload.into .zero) := by
  obtain ⟨payload, serialized⟩ := input_of_parsed accepted
  exact ⟨payload, serialized, transactionInputDeserialize_serialize serialized⟩

/-- What a parser makes of an accepted payload does not depend on where it lies. -/
theorem transactionOutputDeserialize_sent (accepted : (sentOutput bytes).1 = .parsingOk)
    (same : buf.rest = bytes)
    : transactionOutputDeserialize buf .zero = (.parsingOk, (sentOutput bytes).2) := by
  obtain ⟨payload, serialized, sent⟩ := payload_of_sentOutput accepted
  rw [sent]
  exact transactionOutputDeserialize_serialize (same.trans serialized)

theorem transactionInputDeserialize_sent (accepted : (sentInput bytes).1 = .parsingOk)
    (same : buf.rest = bytes)
    : transactionInputDeserialize buf .zero = (.parsingOk, (sentInput bytes).2) := by
  obtain ⟨payload, serialized, sent⟩ := payload_of_sentInput accepted
  rw [sent]
  exact transactionInputDeserialize_serialize (same.trans serialized)

variable {env : Env} {ctx : GlobalCtx target}

/-- The dispatcher hands on every `SIGN_TX` command. -/
theorem request_signTxCommand (p1 p2 : UInt8)
    : (signTxCommand p1 p2 bytes).request = (signTxCommand p1 p2 bytes).signTxRequest :=
  rfl

theorem request_header (present : bytes ≠ [])
    : (signTxCommand p1Start p2More bytes).request = .header := by
  rw [request_signTxCommand]
  simp [Command.signTxRequest, Command.WrongP1p2, signTxCommand, present,
    p1Start, p2More]

theorem request_output (present : bytes ≠ [])
    : (signTxCommand p1Outputs p2More bytes).request = .output := by
  rw [request_signTxCommand]
  simp [Command.signTxRequest, Command.WrongP1p2, signTxCommand, present,
    p1Start, p1Outputs, p2More]

/-- Only `P2_LAST` marks an input as the last one. -/
theorem request_input (present : bytes ≠ []) (more : Bool)
    : (signTxCommand p1Inputs (if more then p2More else p2Last) bytes).request = .input more := by
  rw [request_signTxCommand]
  cases more <;>
    simp [Command.signTxRequest, Command.WrongP1p2, signTxCommand, present,
      p1Start, p1Outputs, p1Inputs, p2More, p2Last]

/-- Whatever the device did before, an accepted header begins with empty slots. -/
theorem handlerSignTxHeader_sent (accepted : (sentHeader target header).1 = .parsingOk)
    (same : buf.rest = header)
    : handlerSignTxHeader buf = (sentCtx target header [] [], ioSendSw swOk) := by
  obtain ⟨payload, allowed, bytes, headed⟩ := payload_of_sentHeader accepted
  have parsed
      : transactionDeserialize buf (Transaction.zero target)
          (Vector.replicate kaspaMaxBip32PathLen 0)
        = (.parsingOk, payload.into (.zero target), payload.path) :=
    transactionDeserialize_serialize allowed (same.trans bytes)
  have cleared
      : (GlobalCtx.cleared target .confirmTransaction).txInfo.transaction = .zero target
        ∧ (GlobalCtx.cleared target .confirmTransaction).bip32Path
          = Vector.replicate kaspaMaxBip32PathLen 0 :=
    ⟨rfl, rfl⟩
  simp only [handlerSignTxHeader, cleared, parsed, sentCtx, sentTransaction, headed, List.map_nil,
    Memory.copy_nil]
  rfl

/-- A counter below a byte-wide count is admitted. -/
theorem ofNat_lt_toUInt8 {index : Nat} {count : UInt32} (below : index < count.toNat)
    (byteWide : count.toNat < 256)
    : UInt8.ofNat index < count.toUInt8 := by
  rw [UInt8.ofNat_lt_iff (by simp only [UInt8.size]; omega), UInt32.toNat_toUInt8]
  omega

theorem ofNat_lt_ofNat {index limit : Nat} (below : index < limit) (byteWide : limit < 256)
    : UInt8.ofNat index < UInt8.ofNat limit := by
  rw [UInt8.ofNat_lt_iff (by simp only [UInt8.size]; omega), UInt8.toNat_ofNat']
  omega

/-- The counts of an accepted header fit their arrays. -/
theorem sentHeader_counts (accepted : (sentHeader target header).1 = .parsingOk)
    : (sentHeader target header).2.1.txOutputLen.toNat ≤ maxOutputCount
      ∧ (sentHeader target header).2.1.txInputLen.toNat ≤ target.maxInputCount := by
  obtain ⟨payload, allowed, -, headed⟩ := payload_of_sentHeader accepted
  rw [headed]
  refine ⟨?_, ?_⟩
  · exact (UInt8.toNat_toUInt32 _).trans_le allowed.outputsLe
  · exact (UInt8.toNat_toUInt32 _).trans_le allowed.inputsLe

theorem outputAdmitted_sentCtx (accepted : (sentHeader target header).1 = .parsingOk)
    (room : outputs.length < (sentHeader target header).2.1.txOutputLen.toNat)
    : OutputAdmitted (sentCtx target header outputs inputs) := by
  have count := (sentHeader_counts accepted).1
  have limit : maxOutputCount = 2 := rfl
  have below := ofNat_lt_toUInt8 room (by omega)
  exact ⟨rfl, ofNat_lt_ofNat (by omega) (by omega), below⟩

theorem inputAdmitted_sentCtx (accepted : (sentHeader target header).1 = .parsingOk)
    (room : inputs.length < (sentHeader target header).2.1.txInputLen.toNat)
    : InputAdmitted (sentCtx target header outputs inputs) := by
  have count := (sentHeader_counts accepted).2
  have limit := target.maxInputCount_le
  have below := ofNat_lt_toUInt8 room (by omega)
  exact ⟨rfl, ofNat_lt_ofNat (by omega) (by omega), below⟩

/-- In a table with a row for each payload sent so far, the counter leads to an empty row, and
the table and the counter go on with the row of the next payload.
-/
theorem sent_row {Row : Type} {size : Nat} (empty : Row) (parse : List UInt8 → Row)
    {sent : List (List UInt8)} (room : sent.length < size) (byteWide : size < 256)
    (behind : Nat → Row) (bytes : List UInt8)
    : let table := Memory.copy (Vector.replicate size empty) (sent.map parse)
      let index := UInt8.ofNat sent.length
      Memory.read table behind index.toNat = empty
      ∧ table.setIfInBounds index.toNat (parse bytes)
        = Memory.copy (Vector.replicate size empty) ((sent ++ [bytes]).map parse)
      ∧ index + 1 = UInt8.ofNat (sent ++ [bytes]).length := by
  intro table index
  have place : index.toNat = (sent.map parse).length := by
    rw [List.length_map]
    exact UInt8.toNat_ofNat_of_lt' (room.trans byteWide)
  refine ⟨?_, ?_, ?_⟩
  · rw [place]
    exact Memory.read_copy_replicate empty (sent.map parse) behind (by rwa [List.length_map])
  · rw [place, Memory.setIfInBounds_copy, List.map_append]
    rfl
  · rw [List.length_append, List.length_singleton, UInt8.ofNat_add]
    rfl

/-- An accepted output fills the slot of its number. -/
theorem acceptOutput_sentCtx (room : outputs.length < maxOutputCount) (env : Env)
    (accepted : (sentOutput bytes).1 = .parsingOk) (same : buf.rest = bytes)
    : parsedOutput env buf (sentCtx target header outputs inputs)
        = (.parsingOk, (sentOutput bytes).2)
      ∧ (sentCtx target header outputs inputs).acceptOutput (sentOutput bytes).2
        = sentCtx target header (outputs ++ [bytes]) inputs := by
  obtain ⟨empty, filled, next⟩ :=
    sent_row .zero (fun bytes => (sentOutput bytes).2) room (by decide)
      (env.stray .signTx).outputs bytes
  constructor
  · exact (congrArg (transactionOutputDeserialize buf) empty).trans
      (transactionOutputDeserialize_sent accepted same)
  · simp only [sentCtx, sentTransaction, GlobalCtx.acceptOutput, GlobalCtx.storeOutput,
      GlobalCtx.withHeader, Transaction.setOutput, filled, next]

theorem acceptInput_sentCtx (room : inputs.length < target.maxInputCount) (env : Env)
    (accepted : (sentInput bytes).1 = .parsingOk) (same : buf.rest = bytes)
    : parsedInput env buf (sentCtx target header outputs inputs)
        = (.parsingOk, (sentInput bytes).2)
      ∧ (sentCtx target header outputs inputs).acceptInput (sentInput bytes).2
        = sentCtx target header outputs (inputs ++ [bytes]) := by
  have limit := target.maxInputCount_le
  obtain ⟨empty, filled, next⟩ :=
    sent_row .zero (fun bytes => (sentInput bytes).2) room (by omega)
      (env.stray .signTx).inputs bytes
  constructor
  · exact (congrArg (transactionInputDeserialize buf) empty).trans
      (transactionInputDeserialize_sent accepted same)
  · simp only [sentCtx, sentTransaction, GlobalCtx.acceptInput, GlobalCtx.storeInput,
      GlobalCtx.withHeader, Transaction.setInput, filled, next]

/-- An accepted payload is not empty. -/
theorem ne_nil_of_sentHeader (accepted : (sentHeader target header).1 = .parsingOk)
    : header ≠ [] := by
  obtain ⟨payload, _, rfl, _⟩ := payload_of_sentHeader accepted
  exact List.ne_nil_of_length_pos (payload.length_serialize.symm ▸ by decide)

theorem ne_nil_of_sentOutput (accepted : (sentOutput bytes).1 = .parsingOk) : bytes ≠ [] := by
  obtain ⟨payload, rfl, _⟩ := payload_of_sentOutput accepted
  refine List.ne_nil_of_length_pos ?_
  rw [OutputPayload.serialize, List.length_append, FixedWidth.length_bigEndian]
  omega

theorem ne_nil_of_sentInput (accepted : (sentInput bytes).1 = .parsingOk) : bytes ≠ [] := by
  obtain ⟨payload, rfl, _⟩ := payload_of_sentInput accepted
  exact List.ne_nil_of_length_pos (payload.length_serialize.symm ▸ by decide)

/-- Payloads that are each answered with `SW_OK` are sent one after the other. -/
theorem play_payloads {history : List (Step target)} (payloads : List (List UInt8))
    (command : List UInt8 → Command) (reached : List (List UInt8) → GlobalCtx target)
    {actions : List Action}
    (sends : actions.map Action.input = (payloads.map command).map Input.apdu)
    (handled
      : ∀ front bytes rest,
          payloads = front ++ bytes :: rest
          → ∀ env,
              handleRequest frontEnd env (command bytes).request ((command bytes).buffer env)
                (reached front)
              = (reached (front ++ [bytes]), ioSendSw swOk))
    : ∃ records,
        (machine target frontEnd).play history ⟨reached [], none⟩ actions
        = some (records, ⟨reached payloads, none⟩) := by
  have count : actions.length = payloads.length := by
    have length := congrArg List.length sends
    rwa [List.length_map, List.length_map, List.length_map] at length
  have next (index : Nat) (action : Action) (device : Device target)
      (found : actions[index]? = some action)
      (before : device = ⟨reached (payloads.take (0 + index)), none⟩)
      : ∃ after output,
          (machine target frontEnd).step device action = some (after, output)
          ∧ after = ⟨reached (payloads.take (0 + index + 1)), none⟩
          ∧ True := by
    rw [Nat.zero_add] at before ⊢
    subst before
    have sent := congrArg (fun inputs => inputs[index]?) sends
    simp only [List.getElem?_map, found, Option.map_some] at sent
    obtain ⟨cmd, carried, input⟩ := Option.map_eq_some_iff.mp sent.symm
    obtain ⟨bytes, payload, rfl⟩ := Option.map_eq_some_iff.mp carried
    obtain ⟨inside, same⟩ := List.getElem?_eq_some_iff.mp payload
    have split : payloads = payloads.take index ++ bytes :: payloads.drop (index + 1) := by
      rw [← same, ← List.drop_eq_getElem_cons inside, List.take_append_drop]
    refine ⟨_, _, step_of_handled input.symm (handled _ bytes _ split action.env), ?_, trivial⟩
    rw [List.take_add_one, payload]
    rfl
  obtain ⟨records, final, played, rfl, -⟩ :=
    @Machine.play_of_invariant _ _ _ history (machine target frontEnd) ⟨reached [], none⟩
      (fun sent device => device = ⟨reached (payloads.take sent), none⟩) (fun _ _ => True)
      actions 0 rfl next
  rw [Nat.zero_add, count, List.take_length] at played
  exact ⟨records.reverse ++ history, played⟩

theorem handles_header (accepted : (sentHeader target header).1 = .parsingOk)
    : handleRequest frontEnd env (signTxCommand p1Start p2More header).request
        ((signTxCommand p1Start p2More header).buffer env) ctx
      = (sentCtx target header [] [], ioSendSw swOk) := by
  rw [request_header (ne_nil_of_sentHeader accepted)]
  exact handlerSignTxHeader_sent accepted (Command.rest_buffer _ _)

theorem handlerSignTxParsed_valid (valid : (txValidateParsedTransaction env ctx).1 = true)
    : handlerSignTxParsed env ctx false
      = uiDisplayTransaction env
          ((txValidateParsedTransaction env ctx).2.withState .stateParsed) := by
  rw [handlerSignTxParsed]
  generalize txValidateParsedTransaction env ctx = validated at valid ⊢
  obtain ⟨accepts, left⟩ := validated
  subst valid
  rfl

end KaspaApp
