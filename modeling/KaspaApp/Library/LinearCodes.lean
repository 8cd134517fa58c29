import Mathlib.Logic.Function.Iterate

/-! Checksums of a register that absorbs a list of words with a linear step. The checksum
words that bring the register to a given value are what is missing to it after as many zeros.
-/

namespace LinearCodes

/-- A register whose step is linear for an associative and commutative sum. -/
structure Register (State : Type) where
  add : State → State → State
  step : State → State
  zero : State
  add_assoc : ∀ first second third, add (add first second) third = add first (add second third)
  add_comm : ∀ left right, add left right = add right left
  add_zero : ∀ state, add state zero = state
  step_add : ∀ left right, step (add left right) = add (step left) (step right)

variable {State : Type} (register : Register State)

/-- The register after the words, from a start value. -/
def Register.absorb (start : State) (words : List State) : State :=
  words.foldl (fun state word => register.add (register.step state) word) start

theorem Register.absorb_append (start : State) (first second : List State)
    : register.absorb start (first ++ second)
      = register.absorb (register.absorb start first) second := by
  rw [absorb, absorb, absorb, List.foldl_append]

/-- A summand of the start value runs through the register by itself. -/
theorem Register.absorb_add (left right : State) (words : List State)
    : register.absorb (register.add left right) words
      = register.add (register.step^[words.length] left) (register.absorb right words) := by
  induction words generalizing left right with
  | nil => rfl
  | cons word words ih =>
      have step
          : register.absorb (register.add left right) (word :: words)
            = register.absorb
                (register.add (register.step left) (register.add (register.step right) word))
                words := by
        rw [absorb, List.foldl_cons, register.step_add, register.add_assoc, absorb]
      rw [step, ih, List.length_cons, Function.iterate_succ_apply]
      rfl

/-- Words that spell the difference between a target and the register after as many zeros
bring the register to the target.
-/
theorem Register.absorb_correction {start target : State} {words : List State}
    (cancels : ∀ state, register.add state state = register.zero)
    (spells
      : register.absorb register.zero words
        = register.add (register.step^[words.length] start) target)
    : register.absorb start words = target := by
  calc register.absorb start words
      = register.absorb (register.add start register.zero) words := by rw [register.add_zero]
    _ = register.add (register.step^[words.length] start)
          (register.add (register.step^[words.length] start) target) := by
        rw [register.absorb_add, spells]
    _ = register.add (register.add (register.step^[words.length] start)
          (register.step^[words.length] start)) target := by rw [register.add_assoc]
    _ = target := by rw [cancels, register.add_comm, register.add_zero]

end LinearCodes
