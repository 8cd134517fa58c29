import KaspaApp.Messages.Payloads
import KaspaApp.Messages.Rendering

/-! What the review of a personal message shows of the bytes that an approval signs. The text
buffers hold about as many characters as a message has bytes, so a message with many escapes
is cut.
-/

namespace KaspaApp

variable {target : Target} {frontEnd : FrontEnd} {env : Env} {cdata : Buffer}

/-- The size of `g_message`. -/
def messageDestLen (target : Target) : FrontEnd → Nat
  | .bagl => target.maxMessageLen + 6
  | .nbgl => target.maxMessageLen

/-- A copied message is read back, also where it runs into the arrays behind its own. -/
theorem signedMessage_messageSession (info : MessageSignCtx) {bytes : List UInt8}
    (length : info.messageLen = bytes.length) (fits : bytes.length ≤ 224)
    : (messageSession target info bytes).signedMessage = bytes := by
  have signature : bytes.drop 160 = (bytes.drop 128).drop 32 := by rw [List.drop_drop]
  have memory : (info.writeMessage bytes).memory
      = (Memory.copy (info.message ++ (info.messageHash ++ info.signature)) bytes).toList := by
    rw [MessageSignCtx.memory, MessageSignCtx.writeMessage, List.append_assoc]
    simp only
    rw [signature, Memory.toList_copy_append, Memory.toList_copy_append]
  change (info.writeMessage bytes).memory.take (info.writeMessage bytes).messageLen = bytes
  rw [MessageSignCtx.messageLen_writeMessage, memory, length]
  exact Memory.take_copy _ bytes fits

/-- The text of a review is made of the bytes that will be signed. -/
theorem uiDisplayMessage_text {ctx : GlobalCtx target} {bip32Path text : List UInt8}
    (opened : (uiDisplayMessage frontEnd env ctx).2 = [.review (.message bip32Path text)])
    : text = messageText (messageDestLen target frontEnd) ctx.signedMessage := by
  unfold uiDisplayMessage at opened
  split at opened
  · simp [ioSendSw] at opened
  split at opened
  · simp [ioSendSw] at opened
  · simp only [List.cons.injEq, Effect.review.injEq, Review.message.injEq, and_true] at opened
    rw [← opened.2]
    cases frontEnd <;> rfl

theorem uiDisplayMessage_opens {ctx : GlobalCtx target} {bip32Path : List UInt8}
    (request : ctx.reqType = .confirmMessage) (idle : ctx.state = .stateNone)
    (formatted : env.bip32PathFormat ctx.path 60 = some bip32Path)
    : uiDisplayMessage frontEnd env ctx
      = (ctx,
          [.review (.message bip32Path
            (messageText (messageDestLen target frontEnd) ctx.signedMessage))]) := by
  have open' : ¬ (ctx.reqType ≠ .confirmMessage ∨ ctx.state ≠ .stateNone) := by
    simp [request, idle]
  unfold uiDisplayMessage
  rw [if_neg open', formatted]
  cases frontEnd <;> rfl

/-- What an admitted payload leaves to be signed is its message. -/
theorem signedMessage_handlerSignMsg {payload : MessagePayload} {after : List UInt8}
    (allowed : payload.Allowed target) (bytes : cdata.rest = payload.serialize ++ after)
    : (handlerSignMsg frontEnd env cdata : GlobalCtx target × List Effect).1.signedMessage
      = payload.message := by
  obtain ⟨admitted, rfl⟩ := admitted_of_serialize allowed bytes
  have longest := admitted.lengthLe
  have limit := target.maxMessageLen_le
  have length := (messageReads cdata).length_message
  rw [handlerSignMsg_context admitted, MessageReads.message_payload]
  exact signedMessage_messageSession _ length.symm (by omega)

/-- The review of an admitted payload opens unless the path cannot be formatted. -/
theorem handlerSignMsg_opens {payload : MessagePayload} {after bip32Path : List UInt8}
    (allowed : payload.Allowed target) (bytes : cdata.rest = payload.serialize ++ after)
    (formatted : ∀ path, env.bip32PathFormat path 60 = some bip32Path)
    : (handlerSignMsg frontEnd env cdata : GlobalCtx target × List Effect).2
      = [.review (.message bip32Path
          (messageText (messageDestLen target frontEnd) payload.message))] := by
  have signed := @signedMessage_handlerSignMsg target frontEnd env cdata payload after allowed bytes
  obtain ⟨admitted, -⟩ := admitted_of_serialize allowed bytes
  rw [handlerSignMsg_context admitted] at signed
  rw [handlerSignMsg_of_admitted admitted, uiDisplayMessage_opens rfl rfl (formatted _), signed]

/-- The review of an admitted message shows, in order, every byte in front of the first one that
has no room in the text, hence the whole message when all its bytes have.
-/
theorem messageReviewShows (target : Target) (frontEnd : FrontEnd) (env : Env) (cdata : Buffer)
    (payload : MessagePayload) (after bip32Path text : List UInt8)
    (allowed : payload.Allowed target) (bytes : cdata.rest = payload.serialize ++ after)
    (opened
      : (handlerSignMsg frontEnd env cdata : GlobalCtx target × List Effect).2
        = [.review (.message bip32Path text)])
    : (handlerSignMsg frontEnd env cdata : GlobalCtx target × List Effect).1.signedMessage
        = payload.message
      ∧ rendering (fitting (messageDestLen target frontEnd) payload.message 0) <+: text
      ∧ (fitting (messageDestLen target frontEnd) payload.message 0 = payload.message
          → text = rendering payload.message)
      ∧ ((rendering payload.message).length + 2 ≤ messageDestLen target frontEnd
          → text = rendering payload.message)
      ∧ ((∀ c ∈ payload.message, IsPlain c) → text = rendering payload.message) := by
  have signed := @signedMessage_handlerSignMsg target frontEnd env cdata payload after allowed bytes
  obtain ⟨admitted, -⟩ := admitted_of_serialize allowed bytes
  rw [handlerSignMsg_of_admitted admitted] at opened
  rw [handlerSignMsg_context admitted] at signed
  have shown := uiDisplayMessage_text opened
  rw [signed] at shown
  obtain ⟨front, whole⟩ :=
    messageText_shows (messageDestLen target frontEnd) payload.message
  rw [← shown] at front whole
  refine ⟨by rw [handlerSignMsg_context admitted]; exact signed, front, whole, ?_, ?_⟩
  · intro room
    exact whole (fitting_of_room (by omega))
  · intro plain
    apply whole
    apply fitting_of_plain plain
    have longest := allowed.lengthLe
    cases frontEnd
    · change 0 + _ ≤ target.maxMessageLen + 6
      omega
    · change 0 + _ ≤ target.maxMessageLen
      omega

/-- `"Hi"` and a byte that is shown as an escape. -/
def greeting : MessagePayload := ⟨0, 0, 0x80000000, [0x48, 0x69, 0x01]⟩

theorem allowed_greeting (target : Target) : greeting.Allowed target := by
  refine ⟨.inl rfl, UInt32.le_refl _, by decide, ?_⟩
  cases target <;> decide

theorem messageReviewShows_sample
    : ∃ text,
        (handlerSignMsg .nbgl .succeeding ⟨greeting.serialize, fun _ => 0, 0⟩
            : GlobalCtx .stax × List Effect).2
          = [.review (.message [0x6d] text)]
        ∧ text = [0x48, 0x69, 0x5c, 0x78, 0x30, 0x31] := by
  have allowed := allowed_greeting .stax
  have bytes : (⟨greeting.serialize, fun _ => 0, 0⟩ : Buffer).rest = greeting.serialize ++ [] :=
    (List.append_nil _).symm
  have opened := @handlerSignMsg_opens .stax .nbgl .succeeding _ greeting [] [0x6d] allowed bytes
    (fun _ => rfl)
  refine ⟨_, opened, ?_⟩
  obtain ⟨-, -, whole, -⟩ :=
    messageReviewShows .stax .nbgl .succeeding _ greeting [] [0x6d] _ allowed bytes opened
  rw [whole (by decide)]
  decide

/-- 32 bytes that are shown as escapes. -/
def escapes : MessagePayload := ⟨0, 0, 0x80000000, List.replicate 32 0x01⟩

theorem allowed_escapes (target : Target) : escapes.Allowed target := by
  refine ⟨.inl rfl, UInt32.le_refl _, by decide, ?_⟩
  cases target <;> decide

/-- The last of 32 escapes has no room in the 126 characters of a text. -/
theorem review_hides_suffix
    : ¬ ∀ (target : Target) (frontEnd : FrontEnd) (env : Env) (cdata : Buffer)
          (payload : MessagePayload) (after bip32Path text : List UInt8),
          payload.Allowed target
          → cdata.rest = payload.serialize ++ after
          → (handlerSignMsg frontEnd env cdata : GlobalCtx target × List Effect).2
              = [.review (.message bip32Path text)]
          → rendering payload.message <:+: text := by
  intro claim
  have allowed := allowed_escapes .nanos
  have bytes : (⟨escapes.serialize, fun _ => 0, 0⟩ : Buffer).rest = escapes.serialize ++ [] :=
    (List.append_nil _).symm
  have opened := @handlerSignMsg_opens .nanos .bagl .succeeding _ escapes [] [0x6d] allowed bytes
    (fun _ => rfl)
  have shown := claim .nanos .bagl .succeeding _ escapes [] [0x6d] _ allowed bytes opened
  have long : (rendering escapes.message).length = 128 := by decide +kernel
  have short := length_messageText_le (messageDestLen .nanos .bagl) escapes.message
  have size : messageDestLen .nanos .bagl = 126 := rfl
  have contained := shown.length_le
  omega

end KaspaApp
