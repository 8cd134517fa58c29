import KaspaApp.Session.Events
import KaspaApp.Wire.Payloads

/-! One command, one reply: a command is answered at once or opens a review, and the decision on
the review is answered.
-/

namespace KaspaApp

open Histories

variable {target : Target} {frontEnd : FrontEnd} {env : Env} {history : List (Step target)}
  {device : Device target} {step : Step target}

/-- One response and nothing else. -/
def RepliesOnce (effects : List Effect) : Prop := ∃ reply, effects = [.reply reply]

/-- One review and nothing else. -/
def ReviewsOnce (effects : List Effect) : Prop := ∃ review, effects = [.review review]

def Effect.isReply : Effect → Bool
  | .reply _ => true
  | .review _ => false

/-- A command that the host has sent, well formed or not. -/
def Input.isCommand : Input → Bool
  | .badLength | .apdu _ => true
  | .decision _ => false

/-- The responses sent in a run. -/
def responses (history : List (Step target)) : Nat :=
  (history.flatMap Record.output).countP Effect.isReply

/-- The commands received in a run. -/
def commands (history : List (Step target)) : Nat :=
  history.countP fun step => step.action.input.isCommand

/-- The reviews that wait for a decision. -/
def Device.pendingReviews (device : Device target) : Nat := device.pending.toList.length

/-- What a step sends, and the review it leaves. -/
inductive Answer (before : Device target) (input : Input) (effects : List Effect)
    (after : Device target)
    : Prop
  | replied (command : input.isCommand = true) (idle : before.pending = none)
    (once : RepliesOnce effects) (closed : after.pending = none)
  | reviewed (command : input.isCommand = true) (idle : before.pending = none)
    (once : ReviewsOnce effects) (opened : after.pending.isSome = true)
  | decided (decision : input.isCommand = false) (waiting : before.pending.isSome = true)
    (once : RepliesOnce effects) (closed : after.pending = none)

/-- Signing is answered once, on approval as well as after a P1 = 3 command. -/
theorem SigningRequest.answer {pending : Option Review} {input : Input}
    {ctx start after : GlobalCtx target} {effects : List Effect}
    (request : SigningRequest pending input ctx start) (once : RepliesOnce effects)
    : Answer ⟨ctx, pending⟩ input effects ⟨after, none⟩ := by
  cases request with
  | approval => exact .decided rfl rfl once rfl
  | next => exact .replied rfl rfl once rfl

/-- Every step of the device answers once. -/
theorem Transition.answer {before after : Device target} {input : Input} {effects : List Effect}
    (transition : Transition env before input effects after)
    : Answer before input effects after := by
  cases transition with
  | ignored reply ignored unsigned =>
      cases ignored with
      | malformed | plain | output | input => exact .replied rfl rfl ⟨_, rfl⟩ rfl
  | otherReplied | headerRefused | headerAccepted | outputRefused | outputAccepted | inputRefused
  | inputAccepted | inputInvalid | inputUndisplayed | nextRefused =>
      exact .replied rfl rfl ⟨_, rfl⟩ rfl
  | otherReviewed | inputReviewed => exact .reviewed rfl rfl ⟨_, rfl⟩ rfl
  | signed request result => exact request.answer ⟨_, rfl⟩
  | signingFailed request result failed => exact request.answer ⟨_, rfl⟩
  | addressDecided | transactionRejected | messageDecided => exact .decided rfl rfl ⟨_, rfl⟩ rfl

/-- A step adds a response or a waiting review for its command, or turns the review into a
response.
-/
theorem Answer.balance {before after : Device target} {input : Input} {effects : List Effect}
    (answer : Answer before input effects after)
    : effects.countP Effect.isReply + after.pendingReviews
      = (if input.isCommand then 1 else 0) + before.pendingReviews := by
  cases answer with
  | replied command idle once closed =>
      obtain ⟨reply, rfl⟩ := once
      simp [Device.pendingReviews, command, idle, closed, Effect.isReply]
  | reviewed command idle once opened =>
      obtain ⟨review, rfl⟩ := once
      obtain ⟨waiting, found⟩ := Option.isSome_iff_exists.mp opened
      simp [Device.pendingReviews, command, idle, found, Effect.isReply]
  | decided decision waiting once closed =>
      obtain ⟨reply, rfl⟩ := once
      obtain ⟨review, found⟩ := Option.isSome_iff_exists.mp waiting
      simp [Device.pendingReviews, decision, found, closed, Effect.isReply]

/-- The balance of a run. -/
theorem responses_of_run (run : (machine target frontEnd).Run history device)
    : responses history + device.pendingReviews = commands history := by
  refine run.invariant (fun history device =>
    responses history + device.pendingReviews = commands history) rfl ?_
  intro earlier step _ balanced taken
  have now := (transition_of_takes taken).answer.balance
  simp only [responses, commands, List.flatMap_cons, List.countP_append,
    List.countP_cons] at balanced ⊢
  omega

/-- A command is answered with one response or opens one review, and each decision on a review is
answered with one response, whatever the signing calls return. In every run, the responses are the
commands but for the at most one review that waits.
-/
theorem one_reply_each (target : Target) (frontEnd : FrontEnd)
    : (∀ (env : Env) (cmd : Command) (ctx : GlobalCtx target),
        RepliesOnce (apduDispatcher frontEnd env cmd ctx).2
        ∨ ReviewsOnce (apduDispatcher frontEnd env cmd ctx).2)
      ∧ (∀ (env : Env) (review : Review) (choice : Bool) (ctx : GlobalCtx target),
          RepliesOnce (decisionCallback env review choice ctx).2)
      ∧ ∀ (history : List (Step target)) (device : Device target),
          (machine target frontEnd).Run history device
          → responses history = commands history - device.pendingReviews
            ∧ device.pendingReviews ≤ commands history
            ∧ device.pendingReviews ≤ 1 := by
  refine ⟨fun env cmd ctx => ?_, fun env review choice ctx => ?_, fun history device run => ?_⟩
  · have answer := (Transition.of_step
      (rfl : Device.step frontEnd ⟨ctx, none⟩ ⟨env, .apdu cmd⟩ = some _)).answer
    cases answer with
    | replied command idle once closed => exact Or.inl once
    | reviewed command idle once opened => exact Or.inr once
    | decided decision waiting once closed => cases decision
  · have answer := (Transition.of_step
      (rfl : Device.step frontEnd ⟨ctx, some review⟩ ⟨env, .decision choice⟩ = some _)).answer
    cases answer with
    | replied command idle once closed => cases command
    | reviewed command idle once opened => cases command
    | decided decision waiting once closed => exact once
  · have balanced := responses_of_run run
    have single : device.pendingReviews ≤ 1 := by
      unfold Device.pendingReviews
      cases device.pending <;> simp
    omega

/-- Three commands, with the review of the last one still waiting. -/
theorem one_reply_each_sample
    : ∃ history device,
        (machine .nanos .bagl).Run history device
        ∧ commands history = 3
        ∧ device.pendingReviews = 1
        ∧ responses history = 2 := by
  obtain ⟨history, device, run, sent, waiting⟩ :=
    (machine .nanos .bagl).exists_run
      ((signTxCommands (plainHeader 1 1) [plainOutput 4] [] (plainInput 5)).map
        fun cmd => Action.mk .succeeding (.apdu cmd))
      (fun history device => commands history = 3 ∧ device.pendingReviews = 1)
      (by decide +kernel)
  have balanced := ((one_reply_each .nanos .bagl).2.2 history device run).1
  exact ⟨history, device, run, sent, waiting, by rw [balanced, sent, waiting]⟩

end KaspaApp
