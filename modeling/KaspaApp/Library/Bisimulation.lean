import KaspaApp.Library.Histories
import Mathlib.Data.List.Forall2

/-! Two machines that take the same actions. They are compared step by step: related states accept
or refuse an action alike, and the results of a step match. The runs of both machines then match.
-/

namespace Histories

variable {State Other Action Output Answer : Type} {left : Machine State Action Output}
  {right : Machine Other Action Answer} {related : State → Other → Prop}
  {matched : State × Output → Other × Answer → Prop}

/-- A bisimulation, with the relation that holds between the results of a step. -/
structure Bisimulation (left : Machine State Action Output) (right : Machine Other Action Answer)
    (related : State → Other → Prop) (matched : State × Output → Other × Answer → Prop)
    : Prop where
  initial : related left.initial right.initial
  step
    : ∀ {state other} (action : Action),
        related state other
        → Option.Rel matched (left.step state action) (right.step other action)
  carried : ∀ {result answer}, matched result answer → related result.1 answer.1

/-- Two steps with the same action, between related states, with matching results. -/
structure MatchedRecords (related : State → Other → Prop)
    (matched : State × Output → Other × Answer → Prop) (record : Record State Action Output)
    (other : Record Other Action Answer)
    : Prop where
  action : other.action = record.action
  before : related record.before other.before
  results : matched (record.after, record.output) (other.after, other.output)

/-- A step of the left machine has its match on the right. -/
theorem Bisimulation.takes (bisimulation : Bisimulation left right related matched)
    {record : Record State Action Output} {other : Other} (same : related record.before other)
    (taken : left.Takes record)
    : ∃ reply : Record Other Action Answer,
        reply.before = other ∧ right.Takes reply ∧ MatchedRecords related matched record reply := by
  have stepped := bisimulation.step record.action same
  rw [Machine.Takes] at taken
  rw [taken] at stepped
  cases answered : right.step other record.action with
  | none =>
      rw [answered] at stepped
      cases stepped
  | some answer =>
      rw [answered] at stepped
      cases stepped with
      | some results =>
          exact ⟨⟨other, record.action, answer.2, answer.1⟩, rfl, answered, rfl, same, results⟩

/-- Every run of the left machine has a matching run of the right one. -/
theorem Bisimulation.run (bisimulation : Bisimulation left right related matched)
    {history : List (Record State Action Output)} {state : State}
    (run : left.Run history state)
    : ∃ answers other,
        right.Run answers other
        ∧ related state other
        ∧ List.Forall₂ (MatchedRecords related matched) history answers := by
  induction run with
  | start => exact ⟨[], right.initial, .start, bisimulation.initial, .nil⟩
  | next record run taken ih =>
      obtain ⟨answers, other, reached, same, matches'⟩ := ih
      obtain ⟨reply, rfl, answered, records⟩ := bisimulation.takes same taken
      exact ⟨reply :: answers, reply.after, .next reply reached answered,
        bisimulation.carried records.results, .cons records matches'⟩

end Histories
