import KaspaApp.Library.Histories
import KaspaApp.Model.Handlers

/-! The device as a machine: `app_main` takes one APDU at a time while no review waits, and
the user decides each review that was opened.
-/

namespace KaspaApp

open Histories

/-- What can happen to the device next. The SDK results of a step come with its input. -/
inductive Input where
  /-- An APDU that `apdu_parser` refuses. -/
  | badLength
  | apdu (cmd : Command)
  | decision (choice : Bool)
deriving DecidableEq

structure Action where
  env : Env
  input : Input

/-- The review that the effects of a command leave waiting. -/
def openedReview (effects : List Effect) : Option Review :=
  (effects.filterMap fun effect =>
    match effect with
    | .review review => some review
    | .reply _ => none).getLast?

/-- The context, and the review that waits for its decision. -/
structure Device (target : Target) where
  ctx : GlobalCtx target
  pending : Option Review

variable {target : Target}

/-- The callback of a review. -/
def decisionCallback (env : Env) (review : Review) (choice : Bool) (ctx : GlobalCtx target)
    : GlobalCtx target × List Effect :=
  match review with
  | .address _ _ => validatePubkey ctx choice
  | .transaction _ _ _ => validateTransaction env ctx choice
  | .message _ _ => validateMessage env ctx choice

/-- One step of `app_main` or of the user. -/
def Device.step (frontEnd : FrontEnd) (device : Device target) (action : Action)
    : Option (Device target × List Effect) :=
  match device.pending, action.input with
  | none, .badLength => some (device, ioSendSw swWrongDataLength)
  | none, .apdu cmd =>
      let (ctx, effects) := apduDispatcher frontEnd action.env cmd device.ctx
      some ({ ctx := ctx, pending := openedReview effects }, effects)
  | some review, .decision choice =>
      let (ctx, effects) := decisionCallback action.env review choice device.ctx
      some ({ ctx := ctx, pending := none }, effects)
  | _, _ => none

/-- The device from power-up on. -/
def machine (target : Target) (frontEnd : FrontEnd)
    : Machine (Device target) Action (List Effect) :=
  {
    initial := { ctx := .zero target, pending := none }
    step := Device.step frontEnd
  }

/-- A step of a run of the device. -/
abbrev Step (target : Target) := Record (Device target) Action (List Effect)

end KaspaApp
