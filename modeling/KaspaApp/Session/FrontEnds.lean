import KaspaApp.Library.Bisimulation
import KaspaApp.Messages.ShownMessages
import KaspaApp.Session.MessageSignatures
import KaspaApp.Session.PaidAddresses

/-! The two front ends of the device. They accept the same commands and decisions and send the same
replies; the screens differ only in the room for the text of a message.
-/

namespace KaspaApp

open Histories

variable {target : Target} {frontEnd other : FrontEnd} {env : Env} {cdata : Buffer}
  {ctx : GlobalCtx target} {history : List (Step target)} {device : Device target}

-----------------------------------------------------------------------------------------
-- Results
-----------------------------------------------------------------------------------------

/-- The results of two front ends: the same, or the reviews of one message, each as far as the
text buffer of its front end holds it.
-/
inductive SameResult (frontEnd other : FrontEnd)
    : GlobalCtx target × List Effect → GlobalCtx target × List Effect → Prop
  | same (result : GlobalCtx target × List Effect) : SameResult frontEnd other result result
  | message (ctx : GlobalCtx target) (bip32Path : List UInt8)
    (short : ctx.signedMessage.length ≤ target.maxMessageLen)
    : SameResult frontEnd other
        (ctx,
          [.review (.message bip32Path
            (messageText (messageDestLen target frontEnd) ctx.signedMessage))])
        (ctx,
          [.review (.message bip32Path
            (messageText (messageDestLen target other) ctx.signedMessage))])

/-- The text buffers of both front ends have room for the message: no byte of it is shown as an
escape, or there is room for all escapes in the smaller one.
-/
def FitsScreens (target : Target) (message : List UInt8) : Prop :=
  (∀ char ∈ message, IsPlain char) ∨ (rendering message).length + 2 ≤ target.maxMessageLen

theorem messageText_of_fits {message : List UInt8} (short : message.length ≤ target.maxMessageLen)
    (fits : FitsScreens target message) (frontEnd : FrontEnd)
    : messageText (messageDestLen target frontEnd) message = rendering message := by
  have larger : target.maxMessageLen ≤ messageDestLen target frontEnd := by
    cases frontEnd with
    | bagl => exact Nat.le_add_right _ _
    | nbgl => exact Nat.le_refl _
  refine (messageText_shows _ message).2 ?_
  rcases fits with plain | room
  · exact fitting_of_plain plain (by omega)
  · exact fitting_of_room (by omega)

namespace SameResult

variable {left right : GlobalCtx target × List Effect}

theorem ctx_eq (same : SameResult frontEnd other left right) : right.1 = left.1 := by
  cases same with
  | same | message => rfl

theorem mem_reply_iff (same : SameResult frontEnd other left right) (reply : Reply)
    : Effect.reply reply ∈ right.2 ↔ Effect.reply reply ∈ left.2 := by
  cases same with
  | same => rfl
  | message => simp

/-- The waiting reviews run the same callback. -/
theorem session_eq (same : SameResult frontEnd other left right)
    : (openedReview right.2).map Review.session = (openedReview left.2).map Review.session := by
  cases same with
  | same | message => rfl

/-- The screens show the same text where it fits. -/
theorem effects_eq (same : SameResult frontEnd other left right)
    (fits : FitsScreens target left.1.signedMessage)
    : right.2 = left.2 := by
  cases same with
  | same => rfl
  | message ctx bip32Path short =>
      simp only [messageText_of_fits short fits]

/-- Both front ends make a check in the same way. -/
theorem check {condition : Prop} [Decidable condition]
    {refused : GlobalCtx target × List Effect}
    (rest : ¬ condition → SameResult frontEnd other left right)
    : SameResult frontEnd other (if condition then refused else left)
        (if condition then refused else right) := by
  by_cases holds : condition
  · rw [if_pos holds, if_pos holds]
    exact same refused
  · rw [if_neg holds, if_neg holds]
    exact rest holds

end SameResult

-----------------------------------------------------------------------------------------
-- The handlers
-----------------------------------------------------------------------------------------

/-- The address buffers of both front ends hold the address of a received key. -/
theorem uiDisplayAddress_frontEnd (frontEnd other : FrontEnd) (env : Env) (ctx : GlobalCtx target)
    : uiDisplayAddress frontEnd env ctx = uiDisplayAddress other env ctx := by
  by_cases ready : ctx.reqType = .confirmAddress ∧ ctx.state = .stateNone
  · rw [uiDisplayAddress_eq ready.1 ready.2, uiDisplayAddress_eq ready.1 ready.2, keyDisplay,
      keyDisplay, addressFromPubkey_keyAddress, addressFromPubkey_keyAddress]
  · have refused : ctx.reqType ≠ .confirmAddress ∨ ctx.state ≠ .stateNone :=
      not_and_or.mp ready
    unfold uiDisplayAddress
    rw [if_pos refused, if_pos refused]

theorem handlerGetPublicKey_frontEnd (frontEnd other : FrontEnd) (env : Env) (cdata : Buffer)
    (display : Bool)
    : (handlerGetPublicKey frontEnd env cdata display : GlobalCtx target × List Effect)
      = handlerGetPublicKey other env cdata display := by
  simp only [handlerGetPublicKey, uiDisplayAddress_frontEnd frontEnd other]

theorem sameResult_uiDisplayMessage (short : ctx.signedMessage.length ≤ target.maxMessageLen)
    : SameResult frontEnd other (uiDisplayMessage frontEnd env ctx)
        (uiDisplayMessage other env ctx) := by
  unfold uiDisplayMessage
  refine .check fun _ => ?_
  cases env.bip32PathFormat ctx.path 60 with
  | none => exact .same _
  | some bip32Path =>
      cases frontEnd <;> cases other <;> exact .message ctx bip32Path short

/-- Up to the display of the message, `handler_sign_msg` knows no front end. -/
theorem sameResult_handlerSignMsg (frontEnd other : FrontEnd) (env : Env) (cdata : Buffer)
    : SameResult frontEnd other
        (handlerSignMsg frontEnd env cdata : GlobalCtx target × List Effect)
        (handlerSignMsg other env cdata) := by
  unfold handlerSignMsg
  simp only
  iterate 7 refine .check fun _ => ?_
  refine .check fun lengthLe => ?_
  iterate 2 refine .check fun _ => ?_
  refine sameResult_uiDisplayMessage ?_
  refine (List.length_take_le _ _).trans ?_
  exact Nat.not_lt.mp lengthLe

theorem sameResult_handleRequest (frontEnd other : FrontEnd) (env : Env) (request : Request)
    (cdata : Buffer) (ctx : GlobalCtx target)
    : SameResult frontEnd other (handleRequest frontEnd env request cdata ctx)
        (handleRequest other env request cdata ctx) := by
  cases request with
  | getPublicKey display =>
      rw [handleRequest, handleRequest, handlerGetPublicKey_frontEnd frontEnd other]
      exact .same _
  | signMessage => exact sameResult_handlerSignMsg frontEnd other env cdata
  | _ => exact .same _

theorem decisionCallback_session {review shown : Review} (same : shown.session = review.session)
    (env : Env) (choice : Bool) (ctx : GlobalCtx target)
    : decisionCallback env shown choice ctx = decisionCallback env review choice ctx := by
  cases review <;> cases shown <;> first | rfl | cases same

-----------------------------------------------------------------------------------------
-- Runs
-----------------------------------------------------------------------------------------

/-- The devices hold the same context and wait for a decision on the same kind of review. -/
structure SameDevice (device shown : Device target) : Prop where
  ctx : shown.ctx = device.ctx
  session : shown.pending.map Review.session = device.pending.map Review.session

/-- The two results of a step. -/
structure SameOutcome (frontEnd other : FrontEnd) (outcome shown : Device target × List Effect)
    : Prop where
  device : SameDevice outcome.1 shown.1
  result : SameResult frontEnd other (outcome.1.ctx, outcome.2) (shown.1.ctx, shown.2)

theorem sameOutcome_command {left right : GlobalCtx target × List Effect}
    (same : SameResult frontEnd other left right)
    : SameOutcome frontEnd other (⟨left.1, openedReview left.2⟩, left.2)
        (⟨right.1, openedReview right.2⟩, right.2) :=
  ⟨⟨same.ctx_eq, same.session_eq⟩, same⟩

theorem sameOutcome_step {device shown : Device target} (action : Action)
    (same : SameDevice device shown)
    : Option.Rel (SameOutcome frontEnd other) (Device.step frontEnd device action)
        (Device.step other shown action) := by
  obtain ⟨ctx, pending⟩ := device
  obtain ⟨shownCtx, shownPending⟩ := shown
  obtain ⟨env, input⟩ := action
  obtain ⟨rfl, session⟩ := same
  cases pending with
  | none =>
      obtain rfl := Option.map_eq_none_iff.mp session
      cases input with
      | badLength => exact .some ⟨⟨rfl, rfl⟩, .same _⟩
      | apdu cmd =>
          simp only [Device.step, apduDispatcher_eq_handleRequest]
          exact .some (sameOutcome_command (sameResult_handleRequest frontEnd other _ _ _ _))
      | decision choice => exact .none
  | some review =>
      obtain ⟨shownReview, rfl, kind⟩ := Option.map_eq_some_iff.mp session
      cases input with
      | badLength | apdu => exact .none
      | decision choice =>
          simp only [Device.step, decisionCallback_session kind]
          exact .some ⟨⟨rfl, rfl⟩, .same _⟩

theorem frontEnds_bisimulation (target : Target) (frontEnd other : FrontEnd)
    : Bisimulation (machine target frontEnd) (machine target other) SameDevice
        (SameOutcome frontEnd other) :=
  {
    initial := ⟨rfl, rfl⟩
    step := sameOutcome_step
    carried := SameOutcome.device
  }

/-- A step of the device as the other front end takes it. -/
structure SameStep (frontEnd other : FrontEnd) (step shown : Step target) : Prop where
  action : shown.action = step.action
  before : shown.before.ctx = step.before.ctx
  after : shown.after.ctx = step.after.ctx
  replies : ∀ reply, Effect.reply reply ∈ shown.output ↔ Effect.reply reply ∈ step.output
  result : SameResult frontEnd other (step.after.ctx, step.output) (shown.after.ctx, shown.output)
  reviews : FitsScreens target step.after.ctx.signedMessage → shown.output = step.output

theorem sameStep_of_matched {step shown : Step target}
    (matched : MatchedRecords SameDevice (SameOutcome frontEnd other) step shown)
    : SameStep frontEnd other step shown :=
  {
    action := matched.action
    before := matched.before.ctx
    after := matched.results.device.ctx
    replies := matched.results.result.mem_reply_iff
    result := matched.results.result
    reviews := matched.results.result.effects_eq
  }

/-- Whatever a device does with one front end, it does with the other: the same commands and
decisions lead to the same contexts, replies and reviews, up to the room for the text of a message.
-/
theorem frontEnds_agree (other : FrontEnd) (run : (machine target frontEnd).Run history device)
    : ∃ shownHistory shownDevice,
        (machine target other).Run shownHistory shownDevice
        ∧ shownDevice.ctx = device.ctx
        ∧ List.Forall₂ (SameStep frontEnd other) history shownHistory := by
  obtain ⟨shownHistory, shownDevice, shownRun, same, records⟩ :=
    (frontEnds_bisimulation target frontEnd other).run run
  exact ⟨shownHistory, shownDevice, shownRun, same.ctx,
    records.imp fun _ _ => sameStep_of_matched⟩

/-- A key and a message are approved. -/
theorem frontEnds_agree_sample
    : ∃ (history shownHistory : List (Step .other)) (device shownDevice : Device .other),
        (machine .other .bagl).Run history device
        ∧ (machine .other .nbgl).Run shownHistory shownDevice
        ∧ (history.flatMap sentMessageSigs).length = 1
        ∧ shownDevice.ctx = device.ctx
        ∧ List.Forall₂ (SameStep .bagl .nbgl) history shownHistory := by
  obtain ⟨history, device, run, signed⟩ :=
    (machine .other .bagl).exists_run
      ([.apdu (publicKeyCommand true [purpose, coinType]), .decision true,
          .apdu (messageCommand greeting), .decision true].map
        (Action.mk .succeeding))
      (fun history _ => (history.flatMap sentMessageSigs).length = 1) (by decide +kernel)
  obtain ⟨shownHistory, shownDevice, shownRun, same, steps⟩ := frontEnds_agree .nbgl run
  exact ⟨history, shownHistory, device, shownDevice, run, shownRun, signed, same, steps⟩

end KaspaApp
