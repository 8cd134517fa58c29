import KaspaApp.Library.Exchanges

/-! Two streams of actions that commute with each other. Where every action of one stream commutes
with every action of the other, all interleavings of the streams give each action the same output
and end in the same state.
-/

namespace Histories

/-- `Interleaving left right merged`: the elements of both lists, each list in its own order. -/
inductive Interleaving {α : Type} : List α → List α → List α → Prop
  | nil : Interleaving [] [] []
  | left {head : α} {left right merged : List α} (rest : Interleaving left right merged)
    : Interleaving (head :: left) right (head :: merged)
  | right {head : α} {left right merged : List α} (rest : Interleaving left right merged)
    : Interleaving left (head :: right) (head :: merged)

variable {State Action Output : Type}

/-- Both orders of two actions are taken, give each action the same output and end in the same
state.
-/
def Machine.Commute (machine : Machine State Action Output) (state : State)
    (first second : Action)
    : Prop :=
  ∃ afterFirst afterSecond final firstOutput secondOutput,
    machine.step state first = some (afterFirst, firstOutput)
    ∧ machine.step afterFirst second = some (final, secondOutput)
    ∧ machine.step state second = some (afterSecond, secondOutput)
    ∧ machine.step afterSecond first = some (final, firstOutput)

/-- Two kinds of actions that commute in every state of a set that both of them stay in. -/
structure CommutingKinds (machine : Machine State Action Output) (within : State → Prop)
    (isLeft isRight : Action → Prop)
    : Prop where
  takesLeft
    : ∀ {state : State} {action : Action},
        within state
        → isLeft action
        → ∃ after output, machine.step state action = some (after, output) ∧ within after
  takesRight
    : ∀ {state : State} {action : Action},
        within state
        → isRight action
        → ∃ after output, machine.step state action = some (after, output) ∧ within after
  commute
    : ∀ {state : State} {left right : Action},
        within state → isLeft left → isRight right → machine.Commute state left right

variable {machine : Machine State Action Output} {state : State} {within : State → Prop}
  {isLeft isRight : Action → Prop} {lefts rights : List Action}

/-- An action of the right kind can be taken behind a list of the left kind as well as before. -/
theorem CommutingKinds.exchanges_past (kinds : CommutingKinds machine within isLeft isRight)
    (inside : within state) (left : ∀ action ∈ lefts, isLeft action) {right : Action}
    (isRight : isRight right) {after final : State} {output : Output}
    {sent : List (Action × Output)} (taken : machine.step state right = some (after, output))
    (sends : machine.exchanges after lefts = some (sent, final))
    : ∃ before,
        machine.exchanges state lefts = some (sent, before)
        ∧ machine.step before right = some (final, output) := by
  induction lefts generalizing state after sent with
  | nil =>
      obtain ⟨rfl, rfl⟩ := Prod.mk.inj (Option.some.inj sends)
      exact ⟨state, rfl, taken⟩
  | cons action actions ih =>
      obtain ⟨head, rest⟩ := List.forall_mem_cons.mp left
      obtain ⟨moved, _, met, actionOutput, rightOutput, first, behind, second, ahead⟩ :=
        kinds.commute inside head isRight
      obtain ⟨rfl, rfl⟩ := Prod.mk.inj (Option.some.inj (second.symm.trans taken))
      obtain ⟨_, _, again, kept⟩ := kinds.takesLeft inside head
      obtain ⟨rfl, rfl⟩ := Prod.mk.inj (Option.some.inj (again.symm.trans first))
      obtain ⟨later, sendsLater, rfl⟩ := machine.exchanges_of_cons ahead sends
      obtain ⟨before, sentFirst, taken⟩ := ih kept rest behind sendsLater
      refine ⟨before, ?_, taken⟩
      rw [machine.exchanges_cons first, sentFirst]
      rfl

/-- Every list of both kinds is taken to its end. -/
theorem CommutingKinds.exchanges_isSome (kinds : CommutingKinds machine within isLeft isRight)
    (inside : within state) {actions : List Action}
    (either : ∀ action ∈ actions, isLeft action ∨ isRight action)
    : ∃ sent final, machine.exchanges state actions = some (sent, final) ∧ within final := by
  induction actions generalizing state with
  | nil => exact ⟨[], state, rfl, inside⟩
  | cons action actions ih =>
      obtain ⟨head, rest⟩ := List.forall_mem_cons.mp either
      obtain ⟨after, output, taken, kept⟩
          : ∃ after output,
              machine.step state action = some (after, output) ∧ within after := by
        rcases head with left | right
        · exact kinds.takesLeft inside left
        · exact kinds.takesRight inside right
      obtain ⟨sent, final, sends, ends⟩ := ih kept rest
      refine ⟨(action, output) :: sent, final, ?_, ends⟩
      rw [machine.exchanges_cons taken, sends]
      rfl

/-- An interleaving gives every action the output that it gets when one stream goes first, and
leaves the same state.
-/
theorem CommutingKinds.exchanges_merged (kinds : CommutingKinds machine within isLeft isRight)
    (inside : within state) (left : ∀ action ∈ lefts, isLeft action)
    (right : ∀ action ∈ rights, isRight action) {merged : List Action}
    (interleaving : Interleaving lefts rights merged)
    {sentLeft sentRight : List (Action × Output)} {middle final : State}
    (first : machine.exchanges state lefts = some (sentLeft, middle))
    (second : machine.exchanges middle rights = some (sentRight, final))
    : ∃ sent,
        machine.exchanges state merged = some (sent, final)
        ∧ Interleaving sentLeft sentRight sent := by
  induction interleaving generalizing state sentLeft sentRight middle with
  | nil =>
      obtain ⟨rfl, rfl⟩ := Prod.mk.inj (Option.some.inj first)
      obtain ⟨rfl, rfl⟩ := Prod.mk.inj (Option.some.inj second)
      exact ⟨[], rfl, .nil⟩
  | @left action lefts rights merged rest ih =>
      obtain ⟨head, others⟩ := List.forall_mem_cons.mp left
      obtain ⟨after, output, taken, kept⟩ := kinds.takesLeft inside head
      obtain ⟨later, sends, rfl⟩ := machine.exchanges_of_cons taken first
      obtain ⟨sent, sendsMerged, shuffled⟩ := ih kept others right sends second
      refine ⟨(action, output) :: sent, ?_, shuffled.left⟩
      rw [machine.exchanges_cons taken, sendsMerged]
      rfl
  | @right action lefts rights merged rest ih =>
      -- the action of the right stream is moved in front of the whole left stream
      obtain ⟨head, others⟩ := List.forall_mem_cons.mp right
      obtain ⟨after, output, taken, kept⟩ := kinds.takesRight inside head
      obtain ⟨sent, passed, sends, -⟩ :=
        kinds.exchanges_isSome kept fun action member => Or.inl (left action member)
      obtain ⟨_, sendsFirst, behind⟩ := kinds.exchanges_past inside left head taken sends
      obtain ⟨rfl, rfl⟩ := Prod.mk.inj (Option.some.inj (sendsFirst.symm.trans first))
      obtain ⟨later, sendsLater, rfl⟩ := machine.exchanges_of_cons behind second
      obtain ⟨sentMerged, sendsMerged, shuffled⟩ := ih kept left others sends sendsLater
      refine ⟨(action, output) :: sentMerged, ?_, shuffled.right⟩
      rw [machine.exchanges_cons taken, sendsMerged]
      rfl

end Histories
