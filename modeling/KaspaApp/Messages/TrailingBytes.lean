import KaspaApp.Messages.ShownMessages
import KaspaApp.Model.Device
import KaspaApp.Wire.Grammars

/-! Which payloads of `SIGN_MESSAGE` open a review. The parsers of a transaction refuse bytes
behind their last field; `handler_sign_msg` does not look behind the message.
-/

namespace KaspaApp

variable {target : Target} {frontEnd : FrontEnd}

/-- A call of `handler_sign_msg`: the SDK that it finds, and its payload. -/
structure MessageCall where
  env : Env
  data : List UInt8

def MessageCall.buffer (call : MessageCall) : Buffer :=
  .ofPayload call.data call.env.behindPayload

def MessageCall.result (target : Target) (frontEnd : FrontEnd) (call : MessageCall)
    : GlobalCtx target × List Effect :=
  handlerSignMsg frontEnd call.env call.buffer

def MessageCall.review (target : Target) (frontEnd : FrontEnd) (call : MessageCall)
    : Option Review :=
  openedReview (call.result target frontEnd).2

/-- `bip32_path_format` finds room for every path. -/
def MessageCall.Formats (call : MessageCall) : Prop :=
  ∀ path, (call.env.bip32PathFormat path 60).isSome

/-- `m/44'/111111'/account/address_type/address_index`. -/
def MessagePayload.path (payload : MessagePayload) : List UInt32 :=
  [0x8000002c, 0x8001b207, payload.account, payload.addressType.toUInt32, payload.addressIndex]

/-- What the documentation of the command says of a payload: it opens a review exactly if it
is the serialisation of allowed fields, for the path and the message among them.
-/
structure ReadsDocumented (target : Target) (frontEnd : FrontEnd) (call : MessageCall)
    : Prop where
  opens
    : (call.review target frontEnd).isSome
      ↔ ∃ payload : MessagePayload, payload.Allowed target ∧ call.data = payload.serialize
  fields
    : ∀ payload : MessagePayload,
        payload.Allowed target → call.data = payload.serialize
        → (call.result target frontEnd).1.path = payload.path
          ∧ (call.result target frontEnd).1.signedMessage = payload.message
          ∧ ∃ shownPath,
              call.env.bip32PathFormat payload.path 60 = some shownPath
              ∧ call.review target frontEnd
                = some (.message shownPath
                    (messageText (messageDestLen target frontEnd) payload.message))

/-- Both calls open a review, for one path and one message. -/
structure SameReview (target : Target) (frontEnd : FrontEnd) (first second : MessageCall)
    : Prop where
  firstOpens : (first.review target frontEnd).isSome
  secondOpens : (second.review target frontEnd).isSome
  path : (first.result target frontEnd).1.path = (second.result target frontEnd).1.path
  message
    : (first.result target frontEnd).1.signedMessage
      = (second.result target frontEnd).1.signedMessage

/-- At least one byte follows the serialisation of allowed fields. -/
def CarriesMore (target : Target) (data : List UInt8) : Prop :=
  ∃ (payload : MessagePayload) (extra : List UInt8),
    payload.Allowed target ∧ extra ≠ [] ∧ data = payload.serialize ++ extra

/-- What is admitted is an allowed payload and whatever follows it. -/
theorem admitted_iff (cdata : Buffer)
    : (messageReads cdata).Admitted target
      ↔ ∃ (payload : MessagePayload) (after : List UInt8),
          payload.Allowed target ∧ cdata.rest = payload.serialize ++ after := by
  constructor
  · intro admitted
    obtain ⟨allowed, after, bytes⟩ := admitted.payload
    exact ⟨_, after, allowed, bytes⟩
  · rintro ⟨payload, after, allowed, bytes⟩
    exact (admitted_of_serialize allowed bytes).1

/-- Bytes behind an allowed payload are all that two readings of it can differ in. -/
theorem serialize_append_inj {first second : MessagePayload} {after after' : List UInt8}
    (firstAllowed : first.Allowed target) (secondAllowed : second.Allowed target)
    (same : first.serialize ++ after = second.serialize ++ after')
    : first = second ∧ after = after' := by
  let cdata : Buffer := .ofPayload (first.serialize ++ after) fun _ => 0
  have firstRead := (@admitted_of_serialize target cdata first firstAllowed after rfl).2
  have secondRead := (@admitted_of_serialize target cdata second secondAllowed after' same).2
  obtain rfl : first = second := firstRead.symm.trans secondRead
  exact ⟨rfl, List.append_cancel_left same⟩

/-- The session of an allowed payload, whatever follows it. -/
theorem result_of_serialize {call : MessageCall} (formats : call.Formats)
    {payload : MessagePayload} {after : List UInt8} (allowed : payload.Allowed target)
    (bytes : call.data = payload.serialize ++ after)
    : (call.result target frontEnd).1.path = payload.path
      ∧ (call.result target frontEnd).1.signedMessage = payload.message
      ∧ ∃ shownPath,
          call.env.bip32PathFormat payload.path 60 = some shownPath
          ∧ call.review target frontEnd
            = some (.message shownPath
                (messageText (messageDestLen target frontEnd) payload.message)) := by
  have signed
      : (call.result target frontEnd).1.signedMessage = payload.message :=
    signedMessage_handlerSignMsg allowed bytes
  obtain ⟨admitted, rfl⟩ := @admitted_of_serialize target call.buffer payload allowed after bytes
  have context := @handlerSignMsg_context target frontEnd call.env call.buffer admitted
  have path
      : (messageSession target (messageReads call.buffer).info
          (messageReads call.buffer).message).path
        = (messageReads call.buffer).payload.path := by
    rw [messageSession, GlobalCtx.path_withPath]
    rfl
  obtain ⟨shownPath, formatted⟩ :=
    Option.isSome_iff_exists.mp (formats (messageReads call.buffer).payload.path)
  refine ⟨?_, signed, shownPath, formatted, ?_⟩
  · rw [MessageCall.result, context, path]
  · rw [MessageCall.result, context] at signed
    rw [← path] at formatted
    rw [MessageCall.review, MessageCall.result, handlerSignMsg_of_admitted admitted,
      uiDisplayMessage_opens rfl rfl formatted, signed]
    rfl

/-- Exactly the payloads that begin with an allowed one open a review. -/
theorem review_isSome_iff {call : MessageCall} (formats : call.Formats)
    : (call.review target frontEnd).isSome
      ↔ ∃ (payload : MessagePayload) (after : List UInt8),
          payload.Allowed target ∧ call.data = payload.serialize ++ after := by
  rw [← show call.buffer.rest = call.data from rfl, ← admitted_iff]
  constructor
  · intro opened
    by_contra refused
    obtain ⟨code, -, replied⟩ :=
      (@handlerSignMsg_refuses target frontEnd call.env call.buffer refused).replied
    rw [MessageCall.review, MessageCall.result, replied] at opened
    simp [openedReview, ioSendSw] at opened
  · intro admitted
    obtain ⟨allowed, after, bytes⟩ := admitted.payload
    obtain ⟨-, -, shownPath, -, review⟩ :=
      @result_of_serialize target frontEnd call formats _ after allowed bytes
    rw [review]
    rfl

theorem readsDocumented_iff {call : MessageCall} (formats : call.Formats)
    : ReadsDocumented target frontEnd call ↔ ¬ CarriesMore target call.data := by
  constructor
  · rintro reads ⟨payload, extra, allowed, nonempty, bytes⟩
    obtain ⟨exact, exactAllowed, whole⟩ :=
      reads.opens.mp ((review_isSome_iff formats).mpr ⟨payload, extra, allowed, bytes⟩)
    have same : payload.serialize ++ extra = exact.serialize ++ [] := by
      rw [List.append_nil, ← bytes, whole]
    exact nonempty (serialize_append_inj allowed exactAllowed same).2
  · intro nothing
    constructor
    · rw [review_isSome_iff formats]
      constructor
      · rintro ⟨payload, after, allowed, bytes⟩
        by_cases nonempty : after = []
        · exact ⟨payload, allowed, by rw [bytes, nonempty, List.append_nil]⟩
        · exact absurd ⟨payload, after, allowed, nonempty, bytes⟩ nothing
      · rintro ⟨payload, allowed, bytes⟩
        exact ⟨payload, [], allowed, by rw [bytes, List.append_nil]⟩
    · intro payload allowed bytes
      exact result_of_serialize formats allowed (bytes.trans (List.append_nil _).symm)

theorem not_carriesMore_serialize {payload : MessagePayload} (allowed : payload.Allowed target)
    : ¬ CarriesMore target payload.serialize := by
  rintro ⟨other, extra, otherAllowed, nonempty, same⟩
  rw [← List.append_nil payload.serialize] at same
  exact nonempty (serialize_append_inj allowed otherAllowed same).2.symm

/-- A path and a message determine the payload. -/
theorem MessagePayload.eq_of_path {first second : MessagePayload}
    (path : first.path = second.path) (message : first.message = second.message)
    : first = second := by
  obtain ⟨addressType, addressIndex, account, bytes⟩ := first
  obtain ⟨addressType', addressIndex', account', bytes'⟩ := second
  simp only [MessagePayload.path, List.cons.injEq, UInt8.toUInt32_inj, and_true, true_and] at path
  obtain ⟨rfl, rfl, rfl⟩ := path
  obtain rfl : bytes = bytes' := message
  rfl

/-- The command reads two payloads as documented, and different ones never for one review,
exactly if nothing follows the message in either of them.
-/
theorem documentedMessages_iff {first second : MessageCall} (firstFormats : first.Formats)
    (secondFormats : second.Formats)
    : (ReadsDocumented target frontEnd first ∧ ReadsDocumented target frontEnd second
        ∧ (SameReview target frontEnd first second → first.data = second.data))
      ↔ ¬ CarriesMore target first.data ∧ ¬ CarriesMore target second.data := by
  rw [← @readsDocumented_iff target frontEnd first firstFormats,
    ← @readsDocumented_iff target frontEnd second secondFormats]
  constructor
  · exact fun ⟨firstReads, secondReads, _⟩ => ⟨firstReads, secondReads⟩
  · rintro ⟨firstReads, secondReads⟩
    refine ⟨firstReads, secondReads, fun same => ?_⟩
    obtain ⟨payload, allowed, bytes⟩ := firstReads.opens.mp same.firstOpens
    obtain ⟨payload', allowed', bytes'⟩ := secondReads.opens.mp same.secondOpens
    obtain ⟨path, message, -⟩ := firstReads.fields payload allowed bytes
    obtain ⟨path', message', -⟩ := secondReads.fields payload' allowed' bytes'
    have paths : payload.path = payload'.path := by rw [← path, ← path', same.path]
    have messages : payload.message = payload'.message := by
      rw [← message, ← message', same.message]
    rw [bytes, bytes', MessagePayload.eq_of_path paths messages]

theorem documentedMessages_iff_sample
    : ReadsDocumented .nanos .bagl ⟨.succeeding, greeting.serialize⟩
      ∧ ReadsDocumented .nanos .bagl ⟨.succeeding, escapes.serialize⟩
      ∧ (SameReview .nanos .bagl ⟨.succeeding, greeting.serialize⟩
            ⟨.succeeding, escapes.serialize⟩
          → greeting.serialize = escapes.serialize) :=
  (documentedMessages_iff (fun _ => rfl) (fun _ => rfl)).mpr
    ⟨not_carriesMore_serialize (allowed_greeting .nanos),
      not_carriesMore_serialize (allowed_escapes .nanos)⟩

/-- A greeting and one byte behind it open the review of the greeting. -/
theorem extra_byte_opens_review
    : ¬ ReadsDocumented .nanos .bagl ⟨.succeeding, greeting.serialize ++ [0]⟩
      ∧ SameReview .nanos .bagl ⟨.succeeding, greeting.serialize⟩
          ⟨.succeeding, greeting.serialize ++ [0]⟩
      ∧ greeting.serialize ≠ greeting.serialize ++ [0] := by
  have formats (data : List UInt8) : MessageCall.Formats ⟨.succeeding, data⟩ := fun _ => rfl
  have allowed := allowed_greeting .nanos
  have exact : greeting.serialize = greeting.serialize ++ [] := (List.append_nil _).symm
  obtain ⟨path, message, -⟩ :=
    @result_of_serialize .nanos .bagl ⟨.succeeding, greeting.serialize⟩ (formats _) greeting []
      allowed exact
  obtain ⟨path', message', -⟩ :=
    @result_of_serialize .nanos .bagl ⟨.succeeding, greeting.serialize ++ [0]⟩ (formats _) greeting
      [0] allowed rfl
  refine ⟨?_, ⟨?_, ?_, path.trans path'.symm, message.trans message'.symm⟩, by decide⟩
  · rw [readsDocumented_iff (formats _), not_not]
    exact ⟨greeting, [0], allowed, by simp, rfl⟩
  · exact (review_isSome_iff (formats _)).mpr ⟨greeting, [], allowed, exact⟩
  · exact (review_isSome_iff (formats _)).mpr ⟨greeting, [0], allowed, rfl⟩

end KaspaApp
