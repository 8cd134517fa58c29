import KaspaApp.Keys.PathBuffers
import KaspaApp.Library.Exchanges
import KaspaApp.Session.ArrayBounds
import KaspaApp.Session.ReviewedContents
import KaspaApp.Wire.Grammars

/-! A session does not depend on the ones before it. The command that begins it clears the context,
and a step depends on no memory outside the objects that it reads, as long as its indices stay
inside the transaction arrays.
-/

namespace KaspaApp

open Histories

variable {target : Target} {frontEnd : FrontEnd} {env : Env} {ctx : GlobalCtx target}

/-- The SDK functions are the same; the memory behind the payload and behind the objects of the
application is not compared. What a failing path reader writes is determined by the payload.
-/
structure SameSdk (left right : Env) : Prop where
  bip32DeriveInitPrivkey256
    : left.bip32DeriveInitPrivkey256 = right.bip32DeriveInitPrivkey256
  bip32DeriveGetPubkey256 : left.bip32DeriveGetPubkey256 = right.bip32DeriveGetPubkey256
  cxEcfpGeneratePairNoThrow
    : left.cxEcfpGeneratePairNoThrow = right.cxEcfpGeneratePairNoThrow
  cxEcschnorrSignNoThrow : left.cxEcschnorrSignNoThrow = right.cxEcschnorrSignNoThrow
  formatFpu64Trimmed : left.formatFpu64Trimmed = right.formatFpu64Trimmed
  bip32PathFormat : left.bip32PathFormat = right.bip32PathFormat
  blake2b : left.blake2b = right.blake2b
  partialPath
    : ∀ buf behind count,
        left.partialPath buf count = right.partialPath (buf.withBehind behind) count

/-- The same input, with the same SDK behind it. -/
structure SameInput (left right : Action) : Prop where
  input : left.input = right.input
  sdk : SameSdk left.env right.env

/-- The requests that begin a session. -/
def Request.BeginsSession : Request → Prop
  | .getPublicKey _ | .header | .signMessage => True
  | _ => False

/-- Every index that the step uses on a transaction array lies inside it. -/
def AccessesInside (device : Device target) (action : Action) : Prop :=
  ∀ access ∈ device.accesses action, access.Inside target

instance (device : Device target) (action : Action) : Decidable (AccessesInside device action) :=
  inferInstanceAs (Decidable (∀ access ∈ _, _))

/-- The environment with other memory behind the payload, and the path reader that goes with it. -/
def Env.withPayloadEnd (env : Env) (partialPath : Buffer → Nat → List UInt32)
    (behind : Nat → UInt8)
    : Env :=
  { env with partialPath := partialPath, behindPayload := behind }

/-- The environment with other memory behind the script slots. -/
def Env.withScriptEnd (env : Env) (script : AccessSite → Nat → UInt8) : Env :=
  env.withStray fun site => { env.stray site with script := script site }

/-- Environments with the same SDK differ in what lies behind the arrays, behind the slots and
behind the payload.
-/
theorem SameSdk.eq {left right : Env} (same : SameSdk left right)
    : right
      = (left.withStray right.stray).withPayloadEnd right.partialPath right.behindPayload := by
  obtain ⟨initPrivkey, getPubkey, generatePair, sign, fpu, path, blake2b, -⟩ := same
  cases left
  cases right
  simp only at initPrivkey getPubkey generatePair sign fpu path blake2b
  subst initPrivkey getPubkey generatePair sign fpu path blake2b
  rfl

section

variable {partialPath : Buffer → Nat → List UInt32} {behind : Nat → UInt8}

/-- The path reader checks the length of the payload before it reads. -/
theorem bufferReadBip32Path_withBehind (buf : Buffer) (count : Nat)
    (same : env.partialPath buf count = partialPath (buf.withBehind behind) count)
    : (env.withPayloadEnd partialPath behind).bufferReadBip32Path (buf.withBehind behind) count
      = env.bufferReadBip32Path buf count := by
  unfold Env.bufferReadBip32Path
  by_cases readable
      : (0 < count && count ≤ maxBip32Path && buf.canRead (4 * count)) = true
  · have same
        : (0 < count && count ≤ maxBip32Path
            && (buf.withBehind behind).canRead (4 * count)) = true :=
      readable
    rw [if_pos readable, if_pos same]
    refine Prod.ext rfl (List.map_congr_left fun entry member => ?_)
    have inside := List.mem_range.mp member
    simp only [Bool.and_eq_true, Buffer.canRead_iff] at readable
    have enough : (buf.advance (4 * entry)).canRead 4 = true := by
      rw [Buffer.canRead_iff, Buffer.rest_advance, List.length_drop]
      omega
    exact congrArg (fun bytes => UInt32.ofNat (FixedWidth.fromBigEndian bytes))
      ((buf.advance (4 * entry)).bytes_withBehind behind enough)
  · have other
        : ¬ (0 < count && count ≤ maxBip32Path
            && (buf.withBehind behind).canRead (4 * count)) = true :=
      readable
    rw [if_neg readable, if_neg other]
    exact congrArg (Prod.mk false) same.symm

theorem handlerGetPublicKey_withBehind (cdata : Buffer) (display : Bool)
    (same : ∀ buf count, env.partialPath buf count = partialPath (buf.withBehind behind) count)
    : (handlerGetPublicKey frontEnd (env.withPayloadEnd partialPath behind)
        (cdata.withBehind behind) display : GlobalCtx target × List Effect)
      = handlerGetPublicKey frontEnd env cdata display := by
  have path
      : pathRead (env.withPayloadEnd partialPath behind) (cdata.withBehind behind)
        = pathRead env cdata := by
    rw [pathRead, cdata.readU8_withBehind]
    exact bufferReadBip32Path_withBehind _ _ (same _ _)
  have start : pathStart target (cdata.withBehind behind) = pathStart target cdata := by
    rw [pathStart, cdata.readU8_withBehind]
    rfl
  have context
      : pathContext target (env.withPayloadEnd partialPath behind) (cdata.withBehind behind)
        = pathContext target env cdata := by
    rw [pathContext, start, path]
    rfl
  rw [handlerGetPublicKey_eq, handlerGetPublicKey_eq, path, start, context,
    cdata.readU8_withBehind]
  rfl

theorem handlerSignMsg_withBehind (cdata : Buffer)
    : (handlerSignMsg frontEnd (env.withPayloadEnd partialPath behind) (cdata.withBehind behind)
        : GlobalCtx target × List Effect)
      = handlerSignMsg frontEnd env cdata := by
  have display (info : GlobalCtx target)
      : uiDisplayMessage frontEnd (env.withPayloadEnd partialPath behind) info
        = uiDisplayMessage frontEnd env info :=
    rfl
  simp only [handlerSignMsg, Buffer.readU8_withBehind, Buffer.readU32_withBehind,
    Buffer.canRead_withBehind, Buffer.seekCur_withBehind, display]
  generalize cdata.readU8.next.readU32.next.readU32.next.readU8 = messageLen
  by_cases present : messageLen.next.canRead messageLen.value.toNat = true
  · rw [messageLen.next.bytes_withBehind behind present]
  · rw [Bool.not_eq_true] at present
    simp only [present, Bool.not_false, if_true]

/-- No handler looks behind the payload. -/
theorem handleRequest_withBehind (request : Request) (cdata : Buffer) (ctx : GlobalCtx target)
    (same : ∀ buf count, env.partialPath buf count = partialPath (buf.withBehind behind) count)
    : handleRequest frontEnd (env.withPayloadEnd partialPath behind) request
        (cdata.withBehind behind) ctx
      = handleRequest frontEnd env request cdata ctx := by
  cases request with
  | refused | getVersion | getAppName | nextSignature => rfl
  | getPublicKey display => exact handlerGetPublicKey_withBehind cdata display same
  | signMessage => exact handlerSignMsg_withBehind cdata
  | header =>
      simp only [handleRequest, handlerSignTxHeader, transactionDeserialize_withBehind]
  | output =>
      simp only [handleRequest, handlerSignTxOutput, transactionOutputDeserialize_withBehind]
      rfl
  | input more =>
      simp only [handleRequest, handlerSignTxInput, transactionInputDeserialize_withBehind]
      rfl

theorem step_withPayloadEnd (device : Device target) (input : Input)
    (same : ∀ buf count, env.partialPath buf count = partialPath (buf.withBehind behind) count)
    : device.step frontEnd ⟨env.withPayloadEnd partialPath behind, input⟩
      = device.step frontEnd ⟨env, input⟩ := by
  obtain ⟨ctx, pending⟩ := device
  cases pending with
  | some review =>
      cases input with
      | badLength | apdu => rfl
      | decision choice => cases review <;> rfl
  | none =>
      cases input with
      | badLength | decision => rfl
      | apdu cmd =>
          have handled := @handleRequest_withBehind target frontEnd env partialPath behind
            cmd.request (cmd.buffer env) ctx same
          exact step_eq_of_handled_eq handled

end

/-- Empty slots and slots that hold a script are read inside. -/
theorem committedOutputs_shaped {tx : Transaction target} {stray : Stray}
    (outputs : tx.txOutputLen.toNat ≤ maxOutputCount)
    (shaped : ∀ slot ∈ tx.txOutputs.toList, Shaped slot.scriptPublicKey) (script : Nat → UInt8)
    : tx.committedOutputs { stray with script := script } = tx.committedOutputs stray := by
  refine List.map_congr_left fun txout visited => ?_
  obtain ⟨index, member, rfl⟩ := List.mem_map.mp visited
  have inside : index < maxOutputCount := (List.mem_range.mp member).trans_le outputs
  have slot : tx.output { stray with script := script } index ∈ tx.txOutputs.toList := by
    rw [Transaction.output, Memory.read_of_lt _ _ inside, Vector.mem_toList_iff]
    exact Vector.getElem_mem inside
  have fits := (shaped _ slot).scriptLen_le
  rw [committedScript, committedScript, Memory.readBlock_of_le _ _ fits,
    Memory.readBlock_of_le _ _ fits]

/-- `crypto_sign_transaction` hashes no byte behind a script slot. -/
theorem cryptoSignTransaction_withScriptEnd (script : AccessSite → Nat → UInt8)
    (shaped : ∀ slot ∈ ctx.txInfo.transaction.txOutputs.toList, Shaped slot.scriptPublicKey)
    (inside : ∀ access ∈ cryptoSignAccesses env ctx, access.Inside target)
    : cryptoSignTransaction (env.withScriptEnd script) ctx = cryptoSignTransaction env ctx := by
  have hash (keys : (transactionKey env ctx).1 = cxOk ∧ (transactionKeyPair env ctx).1 = cxOk)
      : transactionHash (env.withScriptEnd script) ctx = transactionHash env ctx := by
    rw [cryptoSignAccesses, if_pos keys, List.forall_mem_append,
      declaredAccesses_inside_iff] at inside
    have committed :=
      @committedOutputs_shaped target ctx.txInfo.transaction (env.stray .calcSighash)
        inside.2.2 shaped (script .calcSighash)
    have memory
        : (env.withScriptEnd script).stray .calcSighash
          = { env.stray .calcSighash with script := script .calcSighash } :=
      rfl
    simp only [transactionHash, memory, calcSighash_eq _ _ _ _ _ _ (le_refl 32), committed]
    rfl
  rw [cryptoSignTransaction_eq, cryptoSignTransaction_eq]
  by_cases keys : (transactionKey env ctx).1 = cxOk ∧ (transactionKeyPair env ctx).1 = cxOk
  · rw [hash keys]
    rfl
  · rw [not_and_or] at keys
    rcases keys with failed | failed
    · exact (if_pos failed).trans (if_pos failed).symm
    · refine ite_congr rfl (fun _ => rfl) fun _ => ?_
      exact (if_pos failed).trans (if_pos failed).symm

theorem signInputAndSend_withScriptEnd (script : AccessSite → Nat → UInt8)
    (shaped : ∀ slot ∈ ctx.txInfo.transaction.txOutputs.toList, Shaped slot.scriptPublicKey)
    (inside : ∀ access ∈ cryptoSignAccesses env ctx, access.Inside target)
    : signInputAndSend (env.withScriptEnd script) ctx = signInputAndSend env ctx := by
  rw [signInputAndSend, signInputAndSend,
    cryptoSignTransaction_withScriptEnd script shaped inside]

/-- What follows a parsed output or input reads no script through a length of its own. -/
theorem handlerSignTxParsed_withScriptEnd (script : AccessSite → Nat → UInt8)
    (ctx : GlobalCtx target) (more : Bool)
    : handlerSignTxParsed (env.withScriptEnd script) ctx more
      = handlerSignTxParsed env ctx more := by
  have validated
      : txValidateParsedTransaction (env.withScriptEnd script) ctx
        = txValidateParsedTransaction env ctx :=
    rfl
  have displayed (ctx : GlobalCtx target)
      : uiDisplayTransaction (env.withScriptEnd script) ctx = uiDisplayTransaction env ctx :=
    rfl
  simp only [handlerSignTxParsed, validated, displayed]

/-- Where the slots are empty or hold scripts, a step does not depend on the memory behind them. -/
theorem step_withScriptEnd {device : Device target} {input : Input}
    (script : AccessSite → Nat → UInt8)
    (session : ∀ review ∈ device.pending, device.ctx.reqType = review.session)
    (shaped
      : device.ctx.reqType = .confirmTransaction
        → ∀ slot ∈ device.ctx.txInfo.transaction.txOutputs.toList, Shaped slot.scriptPublicKey)
    (inside : AccessesInside device ⟨env, input⟩)
    : device.step frontEnd ⟨env.withScriptEnd script, input⟩
      = device.step frontEnd ⟨env, input⟩ := by
  obtain ⟨ctx, pending⟩ := device
  cases pending with
  | some review =>
      cases input with
      | badLength | apdu => rfl
      | decision choice =>
          cases review with
          | address | message => rfl
          | transaction amount fees address =>
              cases choice with
              | false => rfl
              | true =>
                  have signed
                      : validateTransaction (env.withScriptEnd script) ctx true
                        = validateTransaction env ctx true :=
                    signInputAndSend_withScriptEnd script (shaped (session _ rfl)) inside
                  simp only [Device.step, decisionCallback, signed]
  | none =>
      cases input with
      | badLength | decision => rfl
      | apdu cmd =>
          have handled
              : handleRequest frontEnd (env.withScriptEnd script) cmd.request (cmd.buffer env) ctx
                = handleRequest frontEnd env cmd.request (cmd.buffer env) ctx := by
            unfold AccessesInside Device.accesses at inside
            simp only at inside
            cases request : cmd.request with
            | refused | getVersion | getAppName | getPublicKey | header | signMessage => rfl
            | output =>
                simp only [handleRequest, handlerSignTxOutput, handlerSignTxParsed_withScriptEnd]
                rfl
            | input =>
                simp only [handleRequest, handlerSignTxInput, handlerSignTxParsed_withScriptEnd]
                rfl
            | nextSignature =>
                by_cases closed : ctx.reqType ≠ .confirmTransaction ∨ ctx.state ≠ .stateApproved
                · simp only [handleRequest, if_pos closed]
                · have admitted : SigningAdmitted ctx := by
                    rw [not_or, not_not, not_not] at closed
                    exact ⟨closed.1, closed.2⟩
                  rw [request, requestAccesses, if_pos admitted] at inside
                  simp only [handleRequest, if_neg closed]
                  exact signInputAndSend_withScriptEnd script (shaped admitted.reqType) inside
          exact step_eq_of_handled_eq handled

/-- The indices of a step depend on no memory behind the slots. -/
theorem accesses_withScriptEnd (device : Device target) (input : Input)
    (script : AccessSite → Nat → UInt8)
    : device.accesses ⟨env.withScriptEnd script, input⟩ = device.accesses ⟨env, input⟩ := by
  have crypto (ctx : GlobalCtx target)
      : cryptoSignAccesses (env.withScriptEnd script) ctx = cryptoSignAccesses env ctx := rfl
  have reaches (ctx : GlobalCtx target)
      : ReachesTotals (env.withScriptEnd script) ctx ↔ ReachesTotals env ctx :=
    ⟨fun reached => ⟨reached.1, reached.2, reached.3, reached.4⟩,
      fun reached => ⟨reached.1, reached.2, reached.3, reached.4⟩⟩
  have validate (ctx : GlobalCtx target)
      : txValidateAccesses (env.withScriptEnd script) ctx = txValidateAccesses env ctx := by
    simp only [txValidateAccesses, reaches]
  have validated (ctx : GlobalCtx target)
      : txValidateParsedTransaction (env.withScriptEnd script) ctx
        = txValidateParsedTransaction env ctx := rfl
  have display (ctx : GlobalCtx target)
      : uiDisplayAccesses (env.withScriptEnd script) ctx = uiDisplayAccesses env ctx := rfl
  have parsed (ctx : GlobalCtx target) (more : Bool)
      : parsedAccesses (env.withScriptEnd script) ctx more = parsedAccesses env ctx more := by
    simp only [parsedAccesses, validate, validated, display]
  obtain ⟨ctx, pending⟩ := device
  cases pending with
  | some review =>
      cases review with
      | address | message => cases input <;> rfl
      | transaction =>
          cases input with
          | badLength | apdu => rfl
          | decision choice =>
              cases choice with
              | false => rfl
              | true => exact crypto _
  | none =>
      cases input with
      | badLength | decision => rfl
      | apdu cmd =>
          rw [Device.accesses, Device.accesses]
          simp only
          cases cmd.request with
          | refused | getVersion | getAppName | getPublicKey | header | output | signMessage => rfl
          | nextSignature => simp only [requestAccesses, crypto]
          | input more =>
              simp only [requestAccesses, parsed]
              rfl

/-- A step of a reachable device whose indices stay inside the arrays depends on the SDK alone. -/
theorem step_sameSdk {device : Device target} {history : List (Step target)} {input : Input}
    {other : Env} (sound : Sound history device) (inside : AccessesInside device ⟨env, input⟩)
    (same : SameSdk env other)
    : device.step frontEnd ⟨env, input⟩ = device.step frontEnd ⟨other, input⟩ := by
  have scripts := @step_withScriptEnd target frontEnd env device input
    (fun site => (other.stray site).script) sound.ordered.session sound.shaped inside
  have stays
      : AccessesInside device ⟨env.withScriptEnd fun site => (other.stray site).script, input⟩ := by
    rwa [AccessesInside, accesses_withScriptEnd]
  have arrays := @step_of_inside target frontEnd _ other.stray device input stays fun _ => rfl
  have payload := @step_withPayloadEnd target frontEnd (env.withStray other.stray)
    other.partialPath other.behindPayload device input fun buf => same.partialPath buf _
  rw [same.eq, payload, ← scripts, ← arrays]
  rfl

/-- A command that begins a session goes the same way in every context in which no review waits. -/
theorem step_begins {left right : Device target} {env other : Env} {cmd : Command}
    (leftIdle : left.pending = none) (rightIdle : right.pending = none)
    (begins : cmd.request.BeginsSession) (same : SameSdk env other)
    : left.step frontEnd ⟨env, .apdu cmd⟩ = right.step frontEnd ⟨other, .apdu cmd⟩ := by
  obtain ⟨leftCtx, _⟩ := left
  obtain ⟨rightCtx, _⟩ := right
  subst leftIdle rightIdle
  have handled
      : handleRequest frontEnd (env.withStray other.stray) cmd.request (cmd.buffer env) rightCtx
        = handleRequest frontEnd env cmd.request (cmd.buffer env) leftCtx := by
    cases request : cmd.request with
    | getPublicKey | header | signMessage => rfl
    | refused | getVersion | getAppName | output | input | nextSignature =>
        rw [request] at begins
        exact begins.elim
  have payload := @step_withPayloadEnd target frontEnd (env.withStray other.stray)
    other.partialPath other.behindPayload ⟨rightCtx, none⟩ (.apdu cmd)
    fun buf => same.partialPath buf _
  rw [same.eq, payload]
  exact (step_eq_of_handled_eq handled).symm

theorem sound_of_run {history : List (Step target)} {device : Device target}
    (run : (machine target frontEnd).Run history device)
    : Sound history device := by
  refine run.invariant Sound ⟨ordered_of_run .start, ?_, ?_⟩ fun _ sound taken =>
    sound_next (transition_of_takes taken) sound
  · exact fun session => by simp [machine, GlobalCtx.zero] at session
  · exact fun session => by simp [machine, GlobalCtx.zero] at session

/-- A session does not depend on what came before it. From a reachable device and any other one,
both without a waiting review, the same inputs behind a command that begins a session get the same
replies and reviews and leave the same device, whatever lies in the memory behind the payloads, the
transaction arrays and the script slots, as long as the first run stays inside the arrays.
-/
theorem sessions_isolated {history : List (Step target)} {left right : Device target}
    {first second : Action} {cmd : Command} {firsts seconds : List Action}
    (reached : (machine target frontEnd).Run history left) (leftIdle : left.pending = none)
    (rightIdle : right.pending = none) (input : first.input = .apdu cmd)
    (begins : cmd.request.BeginsSession)
    (alike : List.Forall₂ SameInput (first :: firsts) (second :: seconds))
    (inside : (machine target frontEnd).Along AccessesInside left (first :: firsts))
    : (machine target frontEnd).outputs left (first :: firsts)
      = (machine target frontEnd).outputs right (second :: seconds) := by
  obtain ⟨same, rest⟩ := List.forall₂_cons.mp alike
  have start : left.step frontEnd first = right.step frontEnd second := by
    obtain ⟨env, _⟩ := first
    obtain ⟨other, _⟩ := second
    obtain ⟨sent, sdk⟩ := same
    subst input sent
    exact step_begins leftIdle rightIdle begins sdk
  refine Machine.outputs_cons_congr start fun after output taken => ?_
  refine @Machine.outputs_congr _ _ _ (machine target frontEnd) after SameInput AccessesInside
    (fun device => ∃ history, (machine target frontEnd).Run history device) ?_ ?_ _ _ rest
    ⟨_, reached.next ⟨left, first, output, after⟩ taken⟩ (inside.2 after output taken)
  · rintro state after action output ⟨earlier, run⟩ taken
    exact ⟨_, run.next ⟨state, action, output, after⟩ taken⟩
  · rintro state ⟨env, input⟩ ⟨other, _⟩ ⟨earlier, run⟩ stays ⟨sent, sdk⟩
    subst sent
    exact step_sameSdk (sound_of_run run) stays sdk

/-- A transaction is reviewed and signed alike at power-up and after another session, with other
bytes behind the arrays, the slots and the payloads.
-/
theorem sessions_isolated_sample
    : let elsewhere : Env :=
        { Env.succeeding with
          stray := fun _ =>
            {
              inputs := fun _ => { TransactionInput.zero with value := 9 }
              outputs := fun _ => { TransactionOutput.zero with value := 9 }
              script := fun _ => 9
            }
          behindPayload := fun _ => 9 }
      let inputs := decidedSession true (plainHeader 1 1) [plainOutput 4] [] (plainInput 5)
      (machine .nanos .bagl).outputs ⟨.zero .nanos, none⟩ (inputs.map (Action.mk .succeeding))
      = (machine .nanos .bagl).outputs
          ⟨headed .nanos ((headerCommand (plainHeader 2 7)).buffer .succeeding), none⟩
          (inputs.map (Action.mk elsewhere)) := by
  intro elsewhere inputs
  have sdk : SameSdk .succeeding elsewhere :=
    ⟨rfl, rfl, rfl, rfl, rfl, rfl, rfl, fun _ _ _ => rfl⟩
  have alike
      : List.Forall₂ SameInput (inputs.map (Action.mk .succeeding))
          (inputs.map (Action.mk elsewhere)) := by
    rw [List.forall₂_map_left_iff, List.forall₂_map_right_iff, List.forall₂_same]
    exact fun _ _ => ⟨rfl, sdk⟩
  exact sessions_isolated .start rfl rfl rfl trivial alike (by decide +kernel)

end KaspaApp
