import KaspaApp.Messages.Payloads
import KaspaApp.Model.Device

/-! Where the bytes of a personal message are stored. The length check admits up to
`MAX_MESSAGE_LEN` bytes, the array `msg_info.message` has 128.
-/

namespace KaspaApp

variable {target : Target} {frontEnd : FrontEnd} {env : Env} {cdata : Buffer}

instance (target : Target) (reads : MessageReads) : Decidable (reads.Admitted target) :=
  decidable_of_iff
    (reads.addressType.ok = true
      ∧ (reads.addressType.value = 0 ∨ reads.addressType.value = 1)
      ∧ reads.addressIndex.ok = true
      ∧ reads.account.ok = true
      ∧ 0x80000000 ≤ reads.account.value
      ∧ reads.messageLen.ok = true
      ∧ reads.messageLen.value ≠ 0
      ∧ reads.messageLen.value.toNat ≤ target.maxMessageLen
      ∧ reads.messageLen.next.canRead reads.messageLen.value.toNat = true)
    ⟨fun ⟨typeRead, type, indexRead, accountRead, hardened, lenRead, nonempty, le, present⟩ =>
        ⟨typeRead, type, indexRead, accountRead, hardened, lenRead, nonempty, le, present⟩,
      fun admitted =>
        ⟨admitted.addressTypeRead, admitted.addressType, admitted.addressIndexRead,
          admitted.accountRead, admitted.hardened, admitted.messageLenRead, admitted.nonempty,
          admitted.lengthLe, admitted.present⟩⟩

/-- The bytes that `handler_sign_msg` writes, counted from the start of `msg_info.message`. -/
def messageWrites (target : Target) (cdata : Buffer) : List Nat :=
  if (messageReads cdata).Admitted target then List.range (messageReads cdata).message.length
  else []

/-- The bytes that `hash_personal_message` reads to sign the message of a context. -/
def MessageSignCtx.hashReads (info : MessageSignCtx) : List Nat := List.range info.messageLen

/-- The bytes that an approval of the review that a payload opens makes
`hash_personal_message` read.
-/
def messageHashReads (target : Target) (frontEnd : FrontEnd) (env : Env) (cdata : Buffer)
    : List Nat :=
  let result : GlobalCtx target × List Effect := handlerSignMsg frontEnd env cdata
  if openedReview result.2 = none then [] else result.1.msgInfo.hashReads

/-- A personal message stays inside its array, and its copy changes nothing else. -/
structure StaysInMessage (target : Target) (frontEnd : FrontEnd) (env : Env) (cdata : Buffer)
    : Prop where
  written : ∀ cell ∈ messageWrites target cdata, cell < 128
  hashed : ∀ cell ∈ messageHashReads target frontEnd env cdata, cell < 128
  kept
    : (messageReads cdata).Admitted target
      → (messageReads cdata).info.writeMessage (messageReads cdata).message
        = { (messageReads cdata).info with
            message :=
              ((messageReads cdata).info.writeMessage (messageReads cdata).message).message }

/-- A copy that fits the array changes nothing else. -/
theorem writeMessage_of_le (info : MessageSignCtx) {bytes : List UInt8}
    (fits : bytes.length ≤ 128)
    : info.writeMessage bytes = { info with message := Memory.copy info.message bytes } := by
  have hash : bytes.drop 128 = [] := List.drop_of_length_le fits
  have signature : bytes.drop 160 = [] := List.drop_of_length_le (by omega)
  have kept {size : Nat} (object : Bytes size) : Memory.copy object [] = object := by
    simp [Memory.copy]
  rw [MessageSignCtx.writeMessage, hash, signature, kept, kept]

theorem messageSession_messageLen (target : Target) (info : MessageSignCtx) (bytes : List UInt8)
    : (messageSession target info bytes).msgInfo.messageLen = info.messageLen :=
  info.messageLen_writeMessage bytes

/-- Only the review of an admitted message can be approved. -/
theorem messageHashReads_of_refused (refused : ¬ (messageReads cdata).Admitted target)
    : messageHashReads target frontEnd env cdata = [] := by
  obtain ⟨code, -, replied⟩ := (@handlerSignMsg_refuses target frontEnd env cdata refused).replied
  rw [messageHashReads, replied]
  rfl

/-- An approval makes at most the bytes of the admitted message be read. -/
theorem mem_messageHashReads {cell : Nat}
    (read : cell ∈ messageHashReads target frontEnd env cdata)
    : (messageReads cdata).Admitted target ∧ cell < (messageReads cdata).message.length := by
  by_cases admitted : (messageReads cdata).Admitted target
  · refine ⟨admitted, ?_⟩
    rw [messageHashReads, handlerSignMsg_context admitted] at read
    split at read
    · simp at read
    · rw [MessageSignCtx.hashReads, messageSession_messageLen, List.mem_range] at read
      rw [(messageReads cdata).length_message]
      exact read
  · rw [messageHashReads_of_refused admitted] at read
    simp at read

theorem length_le_of_stays (stays : StaysInMessage target frontEnd env cdata)
    {payload : MessagePayload} (allowed : payload.Allowed target) {after : List UInt8}
    (bytes : cdata.rest = payload.serialize ++ after)
    : payload.message.length ≤ 128 := by
  obtain ⟨admitted, rfl⟩ := admitted_of_serialize allowed bytes
  have written := stays.written 128
  rw [messageWrites, if_pos admitted, List.mem_range] at written
  rw [MessageReads.message_payload]
  exact Nat.le_of_not_lt fun longer => Nat.lt_irrefl 128 (written longer)

theorem stays_of_length_le
    (fits : (messageReads cdata).Admitted target → (messageReads cdata).message.length ≤ 128)
    : StaysInMessage target frontEnd env cdata := by
  constructor
  · intro cell member
    rw [messageWrites] at member
    split at member
    · next admitted =>
        have inside := List.mem_range.mp member
        have short := fits admitted
        omega
    · simp at member
  · intro cell member
    obtain ⟨admitted, inside⟩ := mem_messageHashReads member
    exact inside.trans_le (fits admitted)
  · intro admitted
    rw [writeMessage_of_le _ (fits admitted)]

/-- A personal message stays inside its array exactly if the payload does not carry an allowed
message of more than 128 bytes.
-/
theorem staysInMessage_iff (target : Target) (frontEnd : FrontEnd) (env : Env) (cdata : Buffer)
    : StaysInMessage target frontEnd env cdata
      ↔ ∀ (payload : MessagePayload) (after : List UInt8),
          payload.Allowed target
          → cdata.rest = payload.serialize ++ after
          → payload.message.length ≤ 128 := by
  constructor
  · intro stays payload after allowed bytes
    exact length_le_of_stays stays allowed bytes
  · intro short
    apply stays_of_length_le
    intro admitted
    obtain ⟨allowed, after, bytes⟩ := admitted.payload
    have fits := short _ after allowed bytes
    rwa [MessageReads.message_payload] at fits

/-- Where `MAX_MESSAGE_LEN` is 120, every message stays inside its array. -/
theorem staysInMessage_nanos (frontEnd : FrontEnd) (env : Env) (cdata : Buffer)
    : StaysInMessage .nanos frontEnd env cdata := by
  apply stays_of_length_le
  intro admitted
  have longest : _ ≤ 120 := admitted.lengthLe
  rw [(messageReads cdata).length_message]
  omega

/-- A message of 129 bytes, which is admitted where `MAX_MESSAGE_LEN` is 200. -/
def longMessage : MessagePayload := ⟨0, 0, 0x80000000, List.replicate 129 0x41⟩

theorem length_longMessage : longMessage.message.length = 129 := List.length_replicate

theorem message_leaves_buffer
    : ¬ ∀ (target : Target) (frontEnd : FrontEnd) (env : Env) (cdata : Buffer),
          StaysInMessage target frontEnd env cdata := by
  intro claim
  let cdata : Buffer := ⟨longMessage.serialize, fun _ => 0, 0⟩
  have bytes : cdata.rest = longMessage.serialize ++ [] := (List.append_nil _).symm
  have allowed : longMessage.Allowed .stax := by
    constructor
    · exact Or.inl rfl
    · exact UInt32.le_refl _
    · rw [length_longMessage]
      decide
    · rw [length_longMessage]
      decide
  have short := length_le_of_stays (claim .stax .nbgl .succeeding cdata) allowed bytes
  rw [length_longMessage] at short
  omega

end KaspaApp
