import Mathlib.Init

/-! Programs that look at the cells of a memory and do not change it. Where a program looks may
depend on what it has found, so it is a tree, and a memory picks one path of it. A rule for each
way to build a program bounds the places on all its paths.
-/

/-- A program that looks at a cell and goes on with its content, until it is done. -/
inductive Reading (Place Cell Result : Type) where
  | done (result : Result)
  | look (place : Place) (next : Cell → Reading Place Cell Result)

namespace Reading

variable {Place Cell Result Next : Type}

/-- One program behind the other. -/
def andThen
    : Reading Place Cell Result → (Result → Reading Place Cell Next) → Reading Place Cell Next
  | done result, rest => rest result
  | look place next, rest => look place fun cell => (next cell).andThen rest

instance : Monad (Reading Place Cell) where
  pure := done
  bind := andThen

/-- The content of one cell. -/
def cell (place : Place) : Reading Place Cell Cell := look place done

/-- The contents of some cells, one after the other. -/
def cells : List Place → Reading Place Cell (List Cell)
  | [] => pure []
  | place :: places => do
      let first ← cell place
      let rest ← cells places
      return first :: rest

/-- The result over a memory. -/
def run (memory : Place → Cell) : Reading Place Cell Result → Result
  | done result => result
  | look place next => (next (memory place)).run memory

/-- The places that the program looks at over a memory, in their order. -/
def trace (memory : Place → Cell) : Reading Place Cell Result → List Place
  | done _ => []
  | look place next => place :: (next (memory place)).trace memory

-----------------------------------------------------------------------------------------
-- Results
-----------------------------------------------------------------------------------------

section

variable (memory : Place → Cell)

@[simp] theorem run_pure (result : Result)
    : (pure result : Reading Place Cell Result).run memory = result :=
  rfl

@[simp] theorem run_bind (program : Reading Place Cell Result)
    (rest : Result → Reading Place Cell Next)
    : (program >>= rest).run memory = (rest (program.run memory)).run memory := by
  induction program with
  | done result => rfl
  | look place next ih => exact ih (memory place)

@[simp] theorem run_ite (condition : Prop) [Decidable condition]
    (left right : Reading Place Cell Result)
    : (if condition then left else right).run memory
      = if condition then left.run memory else right.run memory :=
  apply_ite (run memory) condition left right

@[simp] theorem run_cell (place : Place)
    : (cell place : Reading Place Cell Cell).run memory = memory place :=
  rfl

@[simp] theorem run_cells (places : List Place)
    : (cells places : Reading Place Cell (List Cell)).run memory = places.map memory := by
  induction places with
  | nil => rfl
  | cons place places ih => simp only [cells, run_bind, run_cell, run_pure, ih, List.map_cons]

end

/-- Memories that hold the same where the program looks give the same result. -/
theorem run_congr {left right : Place → Cell} (program : Reading Place Cell Result)
    (same : ∀ place ∈ program.trace left, left place = right place)
    : program.run left = program.run right := by
  induction program with
  | done result => rfl
  | look place next ih =>
      obtain ⟨here, later⟩ := List.forall_mem_cons.mp same
      rw [run, run, ← here]
      exact ih (left place) later

-----------------------------------------------------------------------------------------
-- Bounds
-----------------------------------------------------------------------------------------

/-- On every path the program looks at places of the region only, and its result satisfies the
condition.
-/
def StaysIn (region : Place → Prop) (holds : Result → Prop) : Reading Place Cell Result → Prop
  | done result => holds result
  | look place next => region place ∧ ∀ content, (next content).StaysIn region holds

variable {region : Place → Prop} {holds : Result → Prop} {program : Reading Place Cell Result}

/-- Over every memory, a bounded program looks at places of its region only. -/
theorem StaysIn.trace (stays : program.StaysIn region holds) (memory : Place → Cell)
    : ∀ place ∈ program.trace memory, region place := by
  induction program with
  | done result => exact fun _ member => absurd member List.not_mem_nil
  | look place next ih =>
      obtain ⟨here, later⟩ := stays
      exact List.forall_mem_cons.mpr ⟨here, ih (memory place) (later (memory place))⟩

theorem staysIn_pure {result : Result} (satisfied : holds result)
    : (pure result : Reading Place Cell Result).StaysIn region holds :=
  satisfied

/-- The condition on the first result is the start of the second program. -/
theorem StaysIn.bind {rest : Result → Reading Place Cell Next} {ends : Next → Prop}
    (begun : program.StaysIn region holds)
    (after : ∀ result, holds result → (rest result).StaysIn region ends)
    : (program >>= rest).StaysIn region ends := by
  induction program with
  | done result => exact after result begun
  | look place next ih =>
      obtain ⟨here, later⟩ := begun
      exact ⟨here, fun content => ih content (later content)⟩

theorem StaysIn.ite {condition : Prop} [Decidable condition]
    {left right : Reading Place Cell Result}
    (taken : condition → left.StaysIn region holds)
    (refused : ¬ condition → right.StaysIn region holds)
    : (if condition then left else right).StaysIn region holds := by
  by_cases decided : condition
  · rw [if_pos decided]
    exact taken decided
  · rw [if_neg decided]
    exact refused decided

/-- A check that ends the program early. -/
theorem StaysIn.check {condition : Prop} [Decidable condition] {result : Result}
    (satisfied : holds result) (passed : ¬ condition → program.StaysIn region holds)
    : (if condition then pure result else program).StaysIn region holds :=
  .ite (fun _ => staysIn_pure satisfied) passed

theorem staysIn_cell {place : Place} (inside : region place)
    : (cell place : Reading Place Cell Cell).StaysIn region fun _ => True :=
  ⟨inside, fun _ => trivial⟩

theorem staysIn_cells {places : List Place} (inside : ∀ place ∈ places, region place)
    : (cells places : Reading Place Cell (List Cell)).StaysIn region fun _ => True := by
  induction places with
  | nil => exact staysIn_pure trivial
  | cons place places ih =>
      obtain ⟨here, later⟩ := List.forall_mem_cons.mp inside
      refine (staysIn_cell here).bind fun first _ => ?_
      exact (ih later).bind fun rest _ => staysIn_pure trivial

end Reading
