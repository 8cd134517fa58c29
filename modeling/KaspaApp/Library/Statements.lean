import Mathlib.Data.List.Basic

/-! Functions with early returns, and exception blocks in which a `return` of the body leaves the
function without the clause behind it. A statement has one outcome, so its weakest precondition
says exactly how it ends.
-/

namespace Statements

/-- How a statement ends: at its end, or by returning from the function. -/
inductive Exit (State Value : Type) where
  | next (state : State)
  | returned (value : Value) (state : State)

abbrev Statement (State Value : Type) := State → Exit State Value

section

variable {State Value : Type}

def assign (update : State → State) : Statement State Value := fun state => .next (update state)

def ret (value : State → Value) : Statement State Value :=
  fun state => .returned (value state) state

def ifThen (condition : State → Prop) [DecidablePred condition] (body : Statement State Value)
    : Statement State Value :=
  fun state => if condition state then body state else .next state

/-- `if (!call) return value;`: a call that fails leaves the function. -/
def callElseReturn (call : State → Option State) (value : Value) : Statement State Value :=
  fun state =>
    match call state with
    | some after => .next after
    | none => .returned value state

/-- One statement behind the other; a return of the first one skips the second one. -/
def seq (first second : Statement State Value) : Statement State Value :=
  fun state =>
    match first state with
    | .next after => second after
    | .returned value after => .returned value after

def block : List (Statement State Value) → Statement State Value
  | [] => .next
  | first :: rest => seq first (block rest)

/-- A body of calls that do not throw, with a clause that runs at its end. A return of the body
leaves the function, so it skips the clause too.
-/
def tryFinally (body clause : Statement State Value) : Statement State Value :=
  fun state =>
    match body state with
    | .next after => clause after
    | .returned value after => .returned value after

/-- From the given state the statement ends in `next` or returns in `returned`. It is read through
its rules, which do not run the statement.
-/
@[irreducible] def wp (statement : Statement State Value) (next : State → Prop)
    (returned : Value → State → Prop) (state : State)
    : Prop :=
  match statement state with
  | .next after => next after
  | .returned value after => returned value after

/-- The function returns, with a value and a state that satisfy the condition. -/
def Returns (function : Statement State Value) (start : State)
    (condition : Value → State → Prop)
    : Prop :=
  wp function (fun _ => False) condition start

end

variable {State Value : Type} {body clause first second : Statement State Value}
  {next : State → Prop} {returned : Value → State → Prop} {state : State}

@[simp] theorem wp_assign (update : State → State)
    : wp (assign update) next returned state ↔ next (update state) := by
  simp only [wp, assign]

@[simp] theorem wp_ret (value : State → Value)
    : wp (ret value) next returned state ↔ returned (value state) state := by
  simp only [wp, ret]

@[simp] theorem wp_ifThen (condition : State → Prop) [DecidablePred condition]
    : wp (ifThen condition body) next returned state
      ↔ (condition state → wp body next returned state) ∧ (¬ condition state → next state) := by
  by_cases taken : condition state <;> simp [wp, ifThen, taken]

@[simp] theorem wp_callElseReturn (call : State → Option State) (value : Value)
    : wp (callElseReturn call value) next returned state
      ↔ (∀ after ∈ call state, next after) ∧ (call state = none → returned value state) := by
  cases result : call state <;> simp [wp, callElseReturn, result]

@[simp] theorem wp_seq
    : wp (seq first second) next returned state
      ↔ wp first (wp second next returned) returned state := by
  cases ended : first state <;> simp [wp, seq, ended]

@[simp] theorem wp_tryFinally
    : wp (tryFinally body clause) next returned state
      ↔ wp body (wp clause next returned) returned state := by
  cases ended : body state <;> simp [wp, tryFinally, ended]

@[simp] theorem wp_block_nil : wp (block []) next returned state ↔ next state := by
  simp only [wp, block]

@[simp] theorem wp_block_cons (rest : List (Statement State Value))
    : wp (block (first :: rest)) next returned state
      ↔ wp first (wp (block rest) next returned) returned state :=
  wp_seq

/-- What a statement makes of its exits is all that its precondition depends on. -/
theorem wp_congr {other : State → Prop} (same : ∀ after, next after ↔ other after)
    : wp body next returned state ↔ wp body other returned state := by
  cases ended : body state <;> simp [wp, ended, same]

/-- Where the clause establishes a condition from every state, the returns of the body are the
only exits of the block that can miss it.
-/
theorem wp_tryFinally_of_establishes
    (establishes : ∀ after, wp clause next returned after)
    : wp (tryFinally body clause) next returned state
      ↔ wp body (fun _ => True) returned state := by
  rw [wp_tryFinally]
  exact wp_congr fun after => iff_of_true (establishes after) trivial

end Statements
