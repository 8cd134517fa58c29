import Mathlib.Init

/-! Computations that may fail, over a state that they change. A computation that succeeds from
every state can be followed without looking at the state.
-/

namespace Attempts

variable {State Value Next Item : Type}

/-- From every state the computation succeeds, with a value that satisfies the condition. -/
def Succeeds (attempt : OptionT (StateM State) Value) (holds : Value → Prop) : Prop :=
  ∀ state, ∃ value after, attempt.run state = (some value, after) ∧ holds value

variable {holds : Value → Prop} {attempt : OptionT (StateM State) Value}

theorem succeeds_pure {value : Value} (satisfied : holds value)
    : Succeeds (pure value : OptionT (StateM State) Value) holds :=
  fun state => ⟨value, state, rfl, satisfied⟩

/-- What does not touch the state succeeds with its value. -/
theorem succeeds_mk {value : Value} (satisfied : holds value)
    : Succeeds (OptionT.mk (pure (some value)) : OptionT (StateM State) Value) holds :=
  fun state => ⟨value, state, rfl, satisfied⟩

/-- One computation behind the other. -/
theorem Succeeds.bind {next : Value → OptionT (StateM State) Next} {result : Next → Prop}
    (begun : Succeeds attempt holds)
    (rest : ∀ value, holds value → Succeeds (next value) result)
    : Succeeds (attempt >>= next) result := by
  intro state
  obtain ⟨value, between, ran, satisfied⟩ := begun state
  obtain ⟨final, after, ranNext, finished⟩ := rest value satisfied between
  refine ⟨final, after, ?_, finished⟩
  have unfolded
      : (attempt >>= next).run state
        = (fun step : Option Value × State =>
            (step.1.elim (pure none) fun value => (next value).run) step.2) (attempt.run state) := by
    rw [OptionT.run_bind]
    rfl
  rw [unfolded, ran]
  exact ranNext

/-- A loop keeps what each of its rounds keeps, for the items that it has gone through. -/
theorem Succeeds.foldlM {round : Value → Item → OptionT (StateM State) Value}
    (invariant : List Item → Value → Prop)
    (rounds
      : ∀ done item value,
          invariant done value → Succeeds (round value item) (invariant (done ++ [item])))
    {done : List Item} {value : Value} (start : invariant done value) (items : List Item)
    : Succeeds (items.foldlM round value) (invariant (done ++ items)) := by
  induction items generalizing done value with
  | nil =>
      rw [List.append_nil]
      exact succeeds_pure start
  | cons item items ih =>
      rw [List.foldlM_cons, List.append_cons]
      exact (rounds done item value start).bind fun _ kept => ih kept

end Attempts
