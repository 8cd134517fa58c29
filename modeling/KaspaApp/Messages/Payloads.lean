import KaspaApp.Session.Signing
import KaspaApp.Wire.Readers

/-! The payloads of `SIGN_MESSAGE` as the client serialises them (`kaspa_message.py`), and the
copy that `handler_sign_msg` makes of the message in an admitted one.
-/

namespace KaspaApp

open FixedWidth

variable {target : Target} {frontEnd : FrontEnd} {env : Env} {cdata : Buffer}

/-- The fields of a personal message. -/
structure MessagePayload where
  addressType : UInt8
  addressIndex : UInt32
  account : UInt32
  message : List UInt8

/-- `PersonalMessage.serialize`. -/
def MessagePayload.serialize (payload : MessagePayload) : List UInt8 :=
  bigEndian 1 payload.addressType.toNat ++ bigEndian 4 payload.addressIndex.toNat
  ++ bigEndian 4 payload.account.toNat ++ bigEndian 1 payload.message.length
  ++ payload.message

/-- The field values that `handler_sign_msg` lets through. -/
structure MessagePayload.Allowed (target : Target) (payload : MessagePayload) : Prop where
  addressType : payload.addressType = 0 ∨ payload.addressType = 1
  hardened : 0x80000000 ≤ payload.account
  nonempty : 0 < payload.message.length
  lengthLe : payload.message.length ≤ target.maxMessageLen

theorem Target.maxMessageLen_le (target : Target) : target.maxMessageLen ≤ 200 := by
  cases target <;> decide

/-- The path of the key that signs the message. -/
def MessageSignCtx.path (info : MessageSignCtx) : Vector UInt32 kaspaMaxBip32PathLen :=
  walletPath info.account info.addressType.toUInt32 info.addressIndex

/-- The context in which a copied message is displayed. -/
def messageSession (target : Target) (info : MessageSignCtx) (bytes : List UInt8)
    : GlobalCtx target :=
  ((GlobalCtx.cleared target .confirmMessage).withMsgInfo (info.writeMessage bytes)).withPath
    info.path

/-- The bytes that `crypto_sign_personal_message` hashes. -/
def GlobalCtx.signedMessage (ctx : GlobalCtx target) : List UInt8 :=
  ctx.msgInfo.memory.take ctx.msgInfo.messageLen

section

variable (info : MessageSignCtx) (bytes : List UInt8)

@[simp] theorem MessageSignCtx.messageLen_writeMessage
    : (info.writeMessage bytes).messageLen = info.messageLen := by
  rw [writeMessage]

@[simp] theorem MessageSignCtx.account_writeMessage
    : (info.writeMessage bytes).account = info.account := by
  rw [writeMessage]

@[simp] theorem MessageSignCtx.addressType_writeMessage
    : (info.writeMessage bytes).addressType = info.addressType := by
  rw [writeMessage]

@[simp] theorem MessageSignCtx.addressIndex_writeMessage
    : (info.writeMessage bytes).addressIndex = info.addressIndex := by
  rw [writeMessage]

end

/-- The reads of `handler_sign_msg` in front of its `memcpy`. -/
structure MessageReads where
  addressType : Read UInt8
  addressIndex : Read UInt32
  account : Read UInt32
  messageLen : Read UInt8

def messageReads (cdata : Buffer) : MessageReads :=
  let addressType := cdata.readU8
  let addressIndex := addressType.next.readU32
  let account := addressIndex.next.readU32
  let messageLen := account.next.readU8
  ⟨addressType, addressIndex, account, messageLen⟩

/-- The checks of `handler_sign_msg` in front of its `memcpy`. -/
structure MessageReads.Admitted (target : Target) (reads : MessageReads) : Prop where
  addressTypeRead : reads.addressType.ok = true
  addressType : reads.addressType.value = 0 ∨ reads.addressType.value = 1
  addressIndexRead : reads.addressIndex.ok = true
  accountRead : reads.account.ok = true
  hardened : 0x80000000 ≤ reads.account.value
  messageLenRead : reads.messageLen.ok = true
  nonempty : reads.messageLen.value ≠ 0
  lengthLe : reads.messageLen.value.toNat ≤ target.maxMessageLen
  present : reads.messageLen.next.canRead reads.messageLen.value.toNat = true

/-- `msg_info` before the `memcpy`. -/
def MessageReads.info (reads : MessageReads) : MessageSignCtx :=
  { MessageSignCtx.zero with
    messageLen := reads.messageLen.value.toNat
    account := reads.account.value
    addressType := reads.addressType.value
    addressIndex := reads.addressIndex.value }

/-- The bytes that the `memcpy` stores. -/
def MessageReads.message (reads : MessageReads) : List UInt8 :=
  reads.messageLen.next.bytes reads.messageLen.value.toNat

/-- Behind its checks, the handler copies the message and displays it. -/
theorem handlerSignMsg_of_admitted (admitted : (messageReads cdata).Admitted target)
    : handlerSignMsg frontEnd env cdata
      = uiDisplayMessage frontEnd env
          (messageSession target (messageReads cdata).info (messageReads cdata).message) := by
  have addressType
      : ¬ ((messageReads cdata).addressType.value ≠ 0
          ∧ (messageReads cdata).addressType.value ≠ 1) :=
    fun neither => admitted.addressType.elim neither.1 neither.2
  have positive : 0 < (messageReads cdata).messageLen.value.toNat :=
    UInt8.pos_iff_ne_zero.mpr admitted.nonempty
  have skipped := Buffer.seekCur_of_le positive ((Buffer.canRead_iff _).mp admitted.present)
  have addressTypeRead : cdata.readU8.ok = true := admitted.addressTypeRead
  have addressIndexRead : cdata.readU8.next.readU32.ok = true := admitted.addressIndexRead
  have accountRead : cdata.readU8.next.readU32.next.readU32.ok = true := admitted.accountRead
  have messageLenRead : cdata.readU8.next.readU32.next.readU32.next.readU8.ok = true :=
    admitted.messageLenRead
  have hardened : ¬ cdata.readU8.next.readU32.next.readU32.value < 0x80000000 :=
    UInt32.not_lt.mpr admitted.hardened
  have nonempty : ¬ cdata.readU8.next.readU32.next.readU32.next.readU8.value = 0 :=
    admitted.nonempty
  have lengthLe := Nat.not_lt.mpr admitted.lengthLe
  have present := admitted.present
  simp only [messageReads] at addressType skipped lengthLe present
  simp only [handlerSignMsg, addressTypeRead, if_neg addressType, addressIndexRead, accountRead,
    if_neg hardened, messageLenRead, if_neg nonempty, gt_iff_lt, if_neg lengthLe, present, skipped,
    MessageSignCtx.messageLen_writeMessage, MessageSignCtx.account_writeMessage,
    MessageSignCtx.addressType_writeMessage, MessageSignCtx.addressIndex_writeMessage,
    Bool.not_true, Bool.false_eq_true, if_false, messageReads, MessageReads.info,
    MessageReads.message, messageSession, MessageSignCtx.path]

/-- The display leaves the context of an admitted message as it is. -/
theorem handlerSignMsg_context (admitted : (messageReads cdata).Admitted target)
    : (handlerSignMsg frontEnd env cdata : GlobalCtx target × List Effect).1
      = messageSession target (messageReads cdata).info (messageReads cdata).message := by
  rw [handlerSignMsg_of_admitted admitted]
  rcases uiDisplayMessage_cases frontEnd env (messageSession target (messageReads cdata).info
      (messageReads cdata).message) rfl rfl with display | ⟨path, text, display⟩
  · rw [display]
  · rw [display]

/-- What a refusing branch leaves: a status word, and no byte of the message stored. -/
structure RefusesMessage (result : GlobalCtx target × List Effect) : Prop where
  replied : ∃ code, code ≠ swOk ∧ result.2 = ioSendSw code
  message : result.1.msgInfo.message = Bytes.zero 128
  messageHash : result.1.msgInfo.messageHash = Bytes.zero 32
  signature : result.1.msgInfo.signature = Bytes.zero maxDerSigLen

/-- Where a check fails, the handler only replies. -/
theorem handlerSignMsg_refuses (refused : ¬ (messageReads cdata).Admitted target)
    : RefusesMessage (handlerSignMsg frontEnd env cdata : GlobalCtx target × List Effect) := by
  have replies (info : MessageSignCtx) (code : UInt16) (failure : code ≠ swOk)
      (message : info.message = Bytes.zero 128) (messageHash : info.messageHash = Bytes.zero 32)
      (signature : info.signature = Bytes.zero maxDerSigLen)
      : RefusesMessage
          ((GlobalCtx.cleared target .confirmMessage).withMsgInfo info, ioSendSw code) :=
    ⟨⟨code, failure, rfl⟩, message, messageHash, signature⟩
  unfold handlerSignMsg
  simp only
  refine iteInduction (fun _ => replies _ _ (by decide) rfl rfl rfl) fun addressTypeRead => ?_
  refine iteInduction (fun _ => replies _ _ (by decide) rfl rfl rfl) fun addressType => ?_
  refine iteInduction (fun _ => replies _ _ (by decide) rfl rfl rfl) fun addressIndexRead => ?_
  refine iteInduction (fun _ => replies _ _ (by decide) rfl rfl rfl) fun accountRead => ?_
  refine iteInduction (fun _ => replies _ _ (by decide) rfl rfl rfl) fun hardened => ?_
  refine iteInduction (fun _ => replies _ _ (by decide) rfl rfl rfl) fun messageLenRead => ?_
  refine iteInduction (fun _ => replies _ _ (by decide) rfl rfl rfl) fun nonempty => ?_
  refine iteInduction (fun _ => replies _ _ (by decide) rfl rfl rfl) fun lengthLe => ?_
  refine iteInduction (fun _ => replies _ _ (by decide) rfl rfl rfl) fun present => ?_
  -- every check has passed
  refine absurd ?_ refused
  rw [Bool.not_eq_true, Bool.not_eq_false']
    at addressTypeRead addressIndexRead accountRead messageLenRead present
  refine ⟨addressTypeRead, ?_, addressIndexRead, accountRead, UInt32.not_lt.mp hardened,
    messageLenRead, nonempty, Nat.not_lt.mp lengthLe, present⟩
  by_cases receive : cdata.readU8.value = 0
  · exact Or.inl receive
  · exact Or.inr (Decidable.not_not.mp fun change => addressType ⟨receive, change⟩)

/-- The payload that the reads have found. -/
def MessageReads.payload (reads : MessageReads) : MessagePayload :=
  ⟨reads.addressType.value, reads.addressIndex.value, reads.account.value, reads.message⟩

theorem MessageReads.message_payload (reads : MessageReads)
    : reads.payload.message = reads.message := by
  rw [payload]

theorem MessageReads.length_message (reads : MessageReads)
    : reads.message.length = reads.messageLen.value.toNat := by
  simp [message, Buffer.bytes]

/-- What is admitted begins with the serialisation of an allowed payload. -/
theorem MessageReads.Admitted.payload (admitted : (messageReads cdata).Admitted target)
    : (messageReads cdata).payload.Allowed target
      ∧ ∃ after, cdata.rest = (messageReads cdata).payload.serialize ++ after := by
  have length := (messageReads cdata).length_message
  constructor
  · constructor
    · exact admitted.addressType
    · exact admitted.hardened
    · rw [MessageReads.payload, length]
      exact UInt8.pos_iff_ne_zero.mpr admitted.nonempty
    · rw [MessageReads.payload, length]
      exact admitted.lengthLe
  · have enough := (Buffer.canRead_iff _).mp admitted.present
    have message : (messageReads cdata).messageLen.next.rest
        = (messageReads cdata).message
          ++ (messageReads cdata).messageLen.next.rest.drop
              (messageReads cdata).messageLen.value.toNat := by
      rw [MessageReads.message, Buffer.bytes_of_le enough, List.take_append_drop]
    have bytes :=
      rest_chain (Buffer.rest_of_readU8 admitted.addressTypeRead)
        (rest_chain (Buffer.rest_of_readU32 admitted.addressIndexRead)
          (rest_chain (Buffer.rest_of_readU32 admitted.accountRead)
            (rest_chain (Buffer.rest_of_readU8 admitted.messageLenRead) message)))
    refine ⟨(messageReads cdata).messageLen.next.rest.drop
      (messageReads cdata).messageLen.value.toNat, bytes.trans ?_⟩
    simp only [MessagePayload.serialize, MessageReads.payload, length, List.append_assoc]
    rfl

/-- A payload that begins with the serialisation of an allowed one is admitted, and its fields
are read.
-/
theorem admitted_of_serialize {payload : MessagePayload} (allowed : payload.Allowed target)
    {after : List UInt8} (bytes : cdata.rest = payload.serialize ++ after)
    : (messageReads cdata).Admitted target ∧ (messageReads cdata).payload = payload := by
  have small : payload.message.length < 256 := by
    have longest := allowed.lengthLe
    have limit := target.maxMessageLen_le
    omega
  have count : (UInt8.ofNat payload.message.length).toNat = payload.message.length :=
    UInt8.toNat_ofNat_of_lt' small
  rw [MessagePayload.serialize, ← count] at bytes
  simp only [List.append_assoc] at bytes
  obtain ⟨addressType, rest⟩ := Buffer.readU8_append bytes
  obtain ⟨addressIndex, rest⟩ := Buffer.readU32_append rest
  obtain ⟨account, rest⟩ := Buffer.readU32_append rest
  obtain ⟨messageLen, rest⟩ := Buffer.readU8_append rest
  generalize (((cdata.advance 1).advance 4).advance 4).advance 1 = message at messageLen rest
  have enough : payload.message.length ≤ message.rest.length := by simp [rest]
  have nonempty : UInt8.ofNat payload.message.length ≠ 0 := by
    have positive := allowed.nonempty
    rw [← count] at positive
    exact UInt8.pos_iff_ne_zero.mp positive
  constructor
  · constructor
    · simp only [messageReads, addressType]
    · simp only [messageReads, addressType, allowed.addressType]
    · simp only [messageReads, addressType, addressIndex]
    · simp only [messageReads, addressType, addressIndex, account]
    · simp only [messageReads, addressType, addressIndex, account, allowed.hardened]
    · simp only [messageReads, addressType, addressIndex, account, messageLen]
    · simpa only [messageReads, addressType, addressIndex, account, messageLen] using nonempty
    · simpa only [messageReads, addressType, addressIndex, account, messageLen, count]
        using allowed.lengthLe
    · simpa only [messageReads, addressType, addressIndex, account, messageLen, count]
        using (Buffer.canRead_iff _).mpr enough
  · simp only [messageReads, MessageReads.payload, MessageReads.message, addressType, addressIndex,
      account, messageLen, count, Buffer.bytes_of_le enough, rest, List.take_left']

end KaspaApp
