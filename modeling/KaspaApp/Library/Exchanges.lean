import KaspaApp.Library.Histories
import Mathlib.Data.List.Forall2

/-! What a machine sends back for a list of actions, and when two lists get the same: where each
step of one run would go the same way under the other's action.
-/

namespace Histories

variable {State Action Output : Type}

/-- The actions of a list with the outputs they get, and the state they leave. -/
def Machine.exchanges (machine : Machine State Action Output)
    : State → List Action → Option (List (Action × Output) × State)
  | state, [] => some ([], state)
  | state, action :: actions =>
      match machine.step state action with
      | none => none
      | some (after, output) =>
          (machine.exchanges after actions).map fun later =>
            ((action, output) :: later.1, later.2)

/-- The outputs of a list of actions, and the state they leave. -/
def Machine.outputs (machine : Machine State Action Output) (state : State)
    (actions : List Action)
    : Option (List Output × State) :=
  (machine.exchanges state actions).map fun run => (run.1.map Prod.snd, run.2)

/-- Every step that a list of actions takes meets a condition on its state and its action. -/
def Machine.Along (machine : Machine State Action Output) (condition : State → Action → Prop)
    : State → List Action → Prop
  | _, [] => True
  | state, action :: actions =>
      condition state action
      ∧ ∀ after output,
          machine.step state action = some (after, output)
          → machine.Along condition after actions

variable {machine : Machine State Action Output} {state : State}

instance {condition : State → Action → Prop} [∀ state action, Decidable (condition state action)]
    {actions : List Action}
    : Decidable (machine.Along condition state actions) :=
  decideAlong state actions
where
  decideAlong : (state : State) → (actions : List Action)
      → Decidable (machine.Along condition state actions)
    | _, [] => isTrue trivial
    | state, action :: actions =>
        match stepped : machine.step state action with
        | none =>
            decidable_of_iff (condition state action)
              ⟨fun meets => ⟨meets, fun _ _ taken => by simp [stepped] at taken⟩,
                fun along => along.1⟩
        | some (after, output) =>
            have := decideAlong after actions
            decidable_of_iff (condition state action ∧ machine.Along condition after actions)
              ⟨fun along => ⟨along.1, fun _ _ taken => by
                  obtain ⟨rfl, rfl⟩ := Prod.mk.inj (Option.some.inj (stepped.symm.trans taken))
                  exact along.2⟩,
                fun along => ⟨along.1, along.2 after output stepped⟩⟩

/-- The first of a list of actions is taken before the others. -/
theorem Machine.exchanges_cons {action : Action} {after : State} {output : Output}
    (taken : machine.step state action = some (after, output)) (actions : List Action)
    : machine.exchanges state (action :: actions)
      = (machine.exchanges after actions).map fun later =>
          ((action, output) :: later.1, later.2) := by
  simp only [exchanges, taken]

/-- What is sent behind the first action of a list. -/
theorem Machine.exchanges_of_cons {action : Action} {after final : State} {output : Output}
    {actions : List Action} {sent : List (Action × Output)}
    (taken : machine.step state action = some (after, output))
    (sends : machine.exchanges state (action :: actions) = some (sent, final))
    : ∃ later,
        machine.exchanges after actions = some (later, final)
        ∧ sent = (action, output) :: later := by
  rw [machine.exchanges_cons taken] at sends
  obtain ⟨⟨later, _⟩, sendsLater, same⟩ := Option.map_eq_some_iff.mp sends
  obtain ⟨rfl, rfl⟩ := Prod.mk.inj same
  exact ⟨later, sendsLater, rfl⟩

/-- An exchange is recorded for every action. -/
theorem Machine.map_fst_of_exchanges {actions : List Action} {sent : List (Action × Output)}
    {final : State} (sends : machine.exchanges state actions = some (sent, final))
    : sent.map Prod.fst = actions := by
  induction actions generalizing state sent with
  | nil =>
      obtain ⟨rfl, rfl⟩ := Prod.mk.inj (Option.some.inj sends)
      rfl
  | cons action actions ih =>
      cases stepped : machine.step state action with
      | none => simp [exchanges, stepped] at sends
      | some pair =>
          obtain ⟨later, sendsLater, rfl⟩ := machine.exchanges_of_cons stepped sends
          rw [List.map_cons, ih sendsLater]

theorem Machine.exchanges_append (first second : List Action)
    : machine.exchanges state (first ++ second)
      = (machine.exchanges state first).bind fun begun =>
          (machine.exchanges begun.2 second).map fun later => (begun.1 ++ later.1, later.2) := by
  induction first generalizing state with
  | nil => simp [exchanges]
  | cons action actions ih =>
      cases stepped : machine.step state action with
      | none => simp [exchanges, stepped]
      | some pair =>
          simp only [List.cons_append, exchanges, stepped, ih]
          cases machine.exchanges pair.1 actions with
          | none => rfl
          | some begun => simp [Option.map_map, Function.comp_def]

/-- Two first actions that are taken alike leave the outputs to the actions behind them. -/
theorem Machine.outputs_cons_congr {other : State} {first second : Action}
    {firsts seconds : List Action} (taken : machine.step state first = machine.step other second)
    (rest
      : ∀ after output,
          machine.step state first = some (after, output)
          → machine.outputs after firsts = machine.outputs after seconds)
    : machine.outputs state (first :: firsts) = machine.outputs other (second :: seconds) := by
  cases stepped : machine.step state first with
  | none => simp only [outputs, exchanges, ← taken, stepped]
  | some pair =>
      have later := rest pair.1 pair.2 stepped
      simp only [outputs, exchanges, ← taken, stepped, Option.map_map] at later ⊢
      simpa [Function.comp_def, Prod.map] using
        congrArg (Option.map fun run => (pair.2 :: run.1, run.2)) later

/-- Actions that are taken alike wherever an invariant and a condition hold get the same outputs
along a run that meets the condition.
-/
theorem Machine.outputs_congr {same : Action → Action → Prop}
    {condition : State → Action → Prop} {invariant : State → Prop}
    (keeps
      : ∀ {state after : State} {action : Action} {output : Output},
          invariant state
          → machine.step state action = some (after, output)
          → invariant after)
    (alike
      : ∀ {state : State} {first second : Action},
          invariant state
          → condition state first
          → same first second
          → machine.step state first = machine.step state second)
    {firsts seconds : List Action} (paired : List.Forall₂ same firsts seconds)
    (holds : invariant state) (meets : machine.Along condition state firsts)
    : machine.outputs state firsts = machine.outputs state seconds := by
  induction paired generalizing state with
  | nil => rfl
  | cons head tail ih =>
      refine machine.outputs_cons_congr (alike holds meets.1 head) fun after output taken => ?_
      exact ih (keeps holds taken) (meets.2 after output taken)

end Histories
