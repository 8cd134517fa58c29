import Mathlib.Data.List.Basic

/-! Runs of a partial deterministic machine, kept as histories with the newest step first.
A property of a run speaks about each step together with the history before it, so that
"the most recent", "since" and "never later" are statements about list prefixes.
-/

namespace Histories

/-- A machine refuses an action in a state by returning `none`. -/
structure Machine (State Action Output : Type) where
  initial : State
  step : State → Action → Option (State × Output)

/-- One step of a run, with the states around it. -/
structure Record (State Action Output : Type) where
  before : State
  action : Action
  output : Output
  after : State

variable {State Action Output : Type}

/-- The record is a step that the machine can take. -/
def Machine.Takes (machine : Machine State Action Output)
    (record : Record State Action Output)
    : Prop :=
  machine.step record.before record.action = some (record.after, record.output)

/-- `machine.Run history state`: the steps of `history` lead from the initial state to
`state`.
-/
inductive Machine.Run (machine : Machine State Action Output)
    : List (Record State Action Output) → State → Prop
  | start : machine.Run [] machine.initial
  | next {history : List (Record State Action Output)} (record : Record State Action Output)
    (run : machine.Run history record.before) (taken : machine.Takes record)
    : machine.Run (record :: history) record.after

/-- Every step of the history satisfies `property`, given the history before that step. -/
def Throughout
    (property : List (Record State Action Output) → Record State Action Output → Prop)
    : List (Record State Action Output) → Prop
  | [] => True
  | record :: earlier => property earlier record ∧ Throughout property earlier

/-- Some step satisfies `anchor`, and every step after it satisfies `quiet`. -/
def Since (quiet : Record State Action Output → Prop)
    (anchor : List (Record State Action Output) → Record State Action Output → Prop)
    : List (Record State Action Output) → Prop
  | [] => False
  | record :: earlier => anchor earlier record ∨ (quiet record ∧ Since quiet anchor earlier)

variable {property stronger : List (Record State Action Output) → Record State Action Output → Prop}
  {quiet : Record State Action Output → Prop}
  {anchor : List (Record State Action Output) → Record State Action Output → Prop}
  {history : List (Record State Action Output)}

instance [∀ earlier record, Decidable (property earlier record)]
    : Decidable (Throughout property history) :=
  decideThroughout history
where
  decideThroughout : (history : List (Record State Action Output))
      → Decidable (Throughout property history)
    | [] => isTrue trivial
    | record :: earlier =>
        have := decideThroughout earlier
        inferInstanceAs (Decidable (property earlier record ∧ Throughout property earlier))

instance [∀ record, Decidable (quiet record)]
    [∀ earlier record, Decidable (anchor earlier record)]
    : Decidable (Since quiet anchor history) :=
  decideSince history
where
  decideSince : (history : List (Record State Action Output))
      → Decidable (Since quiet anchor history)
    | [] => isFalse id
    | record :: earlier =>
        have := decideSince earlier
        inferInstanceAs
          (Decidable (anchor earlier record ∨ (quiet record ∧ Since quiet anchor earlier)))

theorem Throughout.mono (holds : Throughout property history)
    (weaken : ∀ earlier record, property earlier record → stronger earlier record)
    : Throughout stronger history := by
  induction history with
  | nil => trivial
  | cons head tail ih => exact ⟨weaken tail head holds.1, ih holds.2⟩

theorem Throughout.of_mem (holds : Throughout property history)
    {record : Record State Action Output} (member : record ∈ history)
    : ∃ earlier, property earlier record := by
  induction history with
  | nil => simp at member
  | cons head tail ih =>
      rcases List.mem_cons.mp member with rfl | member
      · exact ⟨tail, holds.1⟩
      · exact ih holds.2 member

/-- A property of every step holds of the last step of every earlier history. -/
theorem Throughout.of_suffix (holds : Throughout property history)
    {record : Record State Action Output} {earlier : List (Record State Action Output)}
    (suffix : record :: earlier <:+ history)
    : property earlier record := by
  obtain ⟨later, rfl⟩ := suffix
  induction later with
  | nil => exact holds.1
  | cons head tail ih => exact ih holds.2

theorem Since.mono {louder : Record State Action Output → Prop}
    {weaker : List (Record State Action Output) → Record State Action Output → Prop}
    (since : Since quiet anchor history)
    (anchors : ∀ earlier record, anchor earlier record → weaker earlier record)
    (quiets : ∀ record, quiet record → louder record)
    : Since louder weaker history := by
  induction history with
  | nil => exact since.elim
  | cons head tail ih =>
      exact since.imp (anchors tail head) (fun before => ⟨quiets head before.1, ih before.2⟩)

variable {machine : Machine State Action Output} {state : State}

/-- A run whose steps all meet `condition` keeps an invariant of history and state that
such steps keep, and each of its steps has the property that the invariant gives it.
-/
theorem Machine.Run.throughout_of_invariant
    {condition : List (Record State Action Output) → Record State Action Output → Prop}
    (invariant : List (Record State Action Output) → State → Prop)
    (run : machine.Run history state) (meets : Throughout condition history)
    (start : invariant [] machine.initial)
    (next
      : ∀ {earlier : List (Record State Action Output)} {record : Record State Action Output},
          machine.Run earlier record.before
          → invariant earlier record.before
          → condition earlier record
          → machine.Takes record
          → invariant (record :: earlier) record.after ∧ property earlier record)
    : invariant history state ∧ Throughout property history := by
  induction run with
  | start => exact ⟨start, trivial⟩
  | next record run taken ih =>
      obtain ⟨holds, before⟩ := ih meets.2
      obtain ⟨kept, now⟩ := next run holds meets.1 taken
      exact ⟨kept, now, before⟩

/-- The unconditional rule: what holds initially and is kept by every step holds after
every run.
-/
theorem Machine.Run.invariant (invariant : List (Record State Action Output) → State → Prop)
    (run : machine.Run history state) (start : invariant [] machine.initial)
    (next
      : ∀ {earlier : List (Record State Action Output)} {record : Record State Action Output},
          machine.Run earlier record.before
          → invariant earlier record.before
          → machine.Takes record
          → invariant (record :: earlier) record.after)
    : invariant history state := by
  induction run with
  | start => exact start
  | next record run taken ih => exact next run ih taken

/-- What an unconditional invariant gives every step. -/
theorem Machine.Run.throughout (invariant : List (Record State Action Output) → State → Prop)
    (run : machine.Run history state) (start : invariant [] machine.initial)
    (next
      : ∀ {earlier : List (Record State Action Output)} {record : Record State Action Output},
          machine.Run earlier record.before
          → invariant earlier record.before
          → machine.Takes record
          → invariant (record :: earlier) record.after ∧ property earlier record)
    : Throughout property history := by
  induction run with
  | start => trivial
  | next record run taken ih =>
      have before := run.invariant invariant start fun run holds taken => (next run holds taken).1
      exact ⟨(next run before taken).2, ih⟩

/-- Where the invariant makes a condition and a property of a step equivalent, and a step that
meets the condition keeps the invariant, the two hold throughout the same runs.
-/
theorem Machine.Run.throughout_iff
    {condition : List (Record State Action Output) → Record State Action Output → Prop}
    (invariant : List (Record State Action Output) → State → Prop)
    (run : machine.Run history state) (start : invariant [] machine.initial)
    (next
      : ∀ {earlier : List (Record State Action Output)} {record : Record State Action Output},
          machine.Run earlier record.before
          → invariant earlier record.before
          → machine.Takes record
          → (property earlier record ↔ condition earlier record)
            ∧ (condition earlier record → invariant (record :: earlier) record.after))
    : Throughout property history ↔ Throughout condition history := by
  constructor
  · intro holds
    refine (run.throughout_of_invariant invariant holds start ?_).2
    intro earlier record run kept holds taken
    obtain ⟨same, keeps⟩ := next run kept taken
    exact ⟨keeps (same.mp holds), same.mp holds⟩
  · intro meets
    refine (run.throughout_of_invariant invariant meets start ?_).2
    intro earlier record run kept meets taken
    obtain ⟨same, keeps⟩ := next run kept taken
    exact ⟨keeps meets, same.mpr meets⟩

/-- Running a list of actions, oldest first, on top of a history. -/
def Machine.play (machine : Machine State Action Output)
    : List (Record State Action Output) → State → List Action
      → Option (List (Record State Action Output) × State)
  | history, state, [] => some (history, state)
  | history, state, action :: actions =>
      match machine.step state action with
      | none => none
      | some (next, output) =>
          machine.play (⟨state, action, output, next⟩ :: history) next actions

/-- Actions are played one list after the other. -/
theorem Machine.play_append (first second : List Action)
    : machine.play history state (first ++ second)
      = (machine.play history state first).bind fun played =>
          machine.play played.1 played.2 second := by
  induction first generalizing history state with
  | nil => rfl
  | cons action actions ih =>
      cases stepped : machine.step state action with
      | none => simp [Machine.play, stepped]
      | some pair =>
          simp only [List.cons_append, Machine.play, stepped]
          exact ih

/-- Two actions are played by two steps. -/
theorem Machine.play_pair {first second : Action} {middle last : State} {asked answered : Output}
    (opens : machine.step state first = some (middle, asked))
    (closes : machine.step middle second = some (last, answered))
    : machine.play history state [first, second]
      = some
          (⟨middle, second, answered, last⟩ :: ⟨state, first, asked, middle⟩ :: history, last) := by
  simp only [Machine.play, opens, closes]

/-- A list of actions is played to its end if each action finds the state that its number
promises and leaves the one that the next number promises.
-/
theorem Machine.play_of_invariant (promised : Nat → State → Prop)
    (produces : Nat → Record State Action Output → Prop) {actions : List Action} {start : Nat}
    (holds : promised start state)
    (next
      : ∀ (index : Nat) (action : Action) (state : State),
          actions[index]? = some action
          → promised (start + index) state
          → ∃ after output,
              machine.step state action = some (after, output)
              ∧ promised (start + index + 1) after
              ∧ produces (start + index) ⟨state, action, output, after⟩)
    : ∃ (records : List (Record State Action Output)) (final : State),
        machine.play history state actions = some (records.reverse ++ history, final)
        ∧ promised (start + actions.length) final
        ∧ records.map Record.action = actions
        ∧ ∀ index record, records[index]? = some record → produces (start + index) record := by
  induction actions generalizing history state start with
  | nil => exact ⟨[], state, rfl, holds, rfl, by simp⟩
  | cons action actions ih =>
      obtain ⟨after, output, stepped, kept, now⟩ := next 0 action state rfl holds
      have shifted (count : Nat) : start + (count + 1) = start + 1 + count := by omega
      have played := @ih (⟨state, action, output, after⟩ :: history) after (start + 1) kept
        fun index other reached found holds =>
          shifted index ▸ next (index + 1) other reached found (shifted index ▸ holds)
      obtain ⟨records, final, played, ended, performed, each⟩ := played
      refine ⟨⟨state, action, output, after⟩ :: records, final, ?_, ?_, ?_, ?_⟩
      · simp only [Machine.play, stepped, played]
        simp
      · rwa [List.length_cons, shifted]
      · rw [List.map_cons, performed]
      · intro index record found
        cases index with
        | zero =>
            obtain rfl := Option.some.inj found
            exact now
        | succ index =>
            rw [shifted]
            exact each index record found

/-- What `play` returns is a run. -/
theorem Machine.Run.play (actions : List Action) (run : machine.Run history state)
    {played : List (Record State Action Output)} {final : State}
    (result : machine.play history state actions = some (played, final))
    : machine.Run played final := by
  induction actions generalizing history state with
  | nil =>
      obtain ⟨rfl, rfl⟩ := Prod.mk.inj (Option.some.inj result)
      exact run
  | cons action actions ih =>
      cases stepped : machine.step state action with
      | none => simp [Machine.play, stepped] at result
      | some pair =>
          simp only [Machine.play, stepped] at result
          exact ih (run.next ⟨state, action, pair.2, pair.1⟩ stepped) result

/-- The actions of what was played, newest first. -/
theorem Machine.map_action_play {actions : List Action}
    {played : List (Record State Action Output)} {final : State}
    (result : machine.play history state actions = some (played, final))
    : played.map Record.action = actions.reverse ++ history.map Record.action := by
  induction actions generalizing history state with
  | nil =>
      obtain ⟨rfl, rfl⟩ := Prod.mk.inj (Option.some.inj result)
      rfl
  | cons action actions ih =>
      cases stepped : machine.step state action with
      | none => simp [Machine.play, stepped] at result
      | some pair =>
          simp only [Machine.play, stepped] at result
          rw [ih result, List.map_cons, List.reverse_cons, List.append_assoc, List.singleton_append]

/-- A run that plays a list of actions and passes a check at its end, with what it has played. -/
theorem Machine.exists_played (machine : Machine State Action Output) (actions : List Action)
    (check : List (Record State Action Output) → State → Prop)
    [∀ history state, Decidable (check history state)]
    (passes
      : ((machine.play [] machine.initial actions).any fun final => check final.1 final.2)
        = true)
    : ∃ history state,
        machine.Run history state
        ∧ history.map Record.action = actions.reverse
        ∧ check history state := by
  cases result : machine.play [] machine.initial actions with
  | none => simp [result] at passes
  | some final =>
      simp only [result, Option.any_some, decide_eq_true_eq] at passes
      have performed := Machine.map_action_play result
      rw [List.map_nil, List.append_nil] at performed
      exact ⟨final.1, final.2, Machine.Run.start.play actions result, performed, passes⟩

/-- A run that plays a list of actions and passes a check at its end. -/
theorem Machine.exists_run (machine : Machine State Action Output) (actions : List Action)
    (check : List (Record State Action Output) → State → Prop)
    [∀ history state, Decidable (check history state)]
    (passes
      : ((machine.play [] machine.initial actions).any fun final => check final.1 final.2)
        = true)
    : ∃ history state, machine.Run history state ∧ check history state := by
  cases result : machine.play [] machine.initial actions with
  | none => simp [result] at passes
  | some final =>
      simp only [result, Option.any_some, decide_eq_true_eq] at passes
      exact ⟨final.1, final.2, Machine.Run.start.play actions result, passes⟩

end Histories
