import Mathlib.Algebra.BigOperators.Group.List.Basic
import Mathlib.Algebra.Ring.Nat

/-! Sums and differences of machine words that wrap, compared with the true ones. -/

namespace WrappingSums

/-- Words whose sums and differences are taken modulo `modulus`. -/
structure Words (Word : Type) [Add Word] [Sub Word] where
  modulus : Nat
  value : Word → Nat
  value_lt : ∀ word, value word < modulus
  value_add : ∀ left right, value (left + right) = (value left + value right) % modulus
  value_sub : ∀ left right, (value (left - right) + value right) % modulus = value left

/-- The words of C's `uint64_t`. -/
def uint64 : Words UInt64 where
  modulus := 2 ^ 64
  value := UInt64.toNat
  value_lt := UInt64.toNat_lt
  value_add := UInt64.toNat_add
  value_sub left right := by
    have leftBound := left.toNat_lt
    have rightBound := right.toNat_lt
    rw [UInt64.toNat_sub, Nat.mod_add_mod]
    omega

variable {Word : Type} [Add Word] [Sub Word] (words : Words Word)
  {Item : Type} (amount : Item → Word)

/-- The true sum of the amounts of some items. -/
def Words.total (items : List Item) : Nat := (items.map fun item => words.value (amount item)).sum

/-- Adding up in a loop leaves the true sum modulo the modulus. -/
theorem Words.value_foldl_add (items : List Item) (start : Word)
    : words.value (items.foldl (fun sum item => sum + amount item) start)
      = (words.value start + words.total amount items) % words.modulus := by
  induction items generalizing start with
  | nil => simp [total, Nat.mod_eq_of_lt (words.value_lt start)]
  | cons item items ih =>
      rw [List.foldl_cons, ih, words.value_add, Nat.mod_add_mod]
      simp [total, Nat.add_assoc]

/-- Adding back what a loop subtracts gives its start. -/
theorem Words.value_foldl_sub (items : List Item) (start : Word)
    : (words.value (items.foldl (fun rest item => rest - amount item) start)
          + words.total amount items) % words.modulus
      = words.value start := by
  induction items generalizing start with
  | nil => simp [total, Nat.mod_eq_of_lt (words.value_lt start)]
  | cons item items ih =>
      have rest := ih (start - amount item)
      rw [List.foldl_cons]
      calc (words.value (items.foldl (fun rest item => rest - amount item) (start - amount item))
              + words.total amount (item :: items)) % words.modulus
          = (words.value (items.foldl (fun rest item => rest - amount item)
                (start - amount item))
              + words.total amount items + words.value (amount item)) % words.modulus := by
            simp [total, Nat.add_comm, Nat.add_left_comm]
        _ = (words.value (start - amount item) + words.value (amount item)) % words.modulus := by
            rw [← Nat.mod_add_mod, rest]
        _ = words.value start := words.value_sub start (amount item)

/-- Where the wrapped income covers the wrapped expense, the wrapped difference is the true
one exactly when both have wrapped equally often.
-/
theorem exact_difference_iff {modulus income expense difference : Nat}
    (small : difference < modulus)
    (wrapped : (difference + expense) % modulus = income % modulus)
    (covered : expense % modulus ≤ income % modulus)
    : (expense ≤ income ∧ difference = income - expense)
      ↔ income / modulus = expense / modulus := by
  have incomeParts := Nat.div_add_mod income modulus
  have expenseParts := Nat.div_add_mod expense modulus
  have incomeSmall : income % modulus < modulus := Nat.mod_lt _ (by omega)
  have rest : difference = income % modulus - expense % modulus := by
    rw [← Nat.add_mod_mod] at wrapped
    rcases Nat.lt_or_ge (difference + expense % modulus) modulus with fits | carries
    · rw [Nat.mod_eq_of_lt fits] at wrapped
      omega
    · rw [Nat.mod_eq_sub_mod carries, Nat.mod_eq_of_lt (by omega)] at wrapped
      omega
  constructor
  · rintro ⟨enough, exact⟩
    have multiples : modulus * (income / modulus) = modulus * (expense / modulus) := by omega
    exact Nat.eq_of_mul_eq_mul_left (by omega) multiples
  · intro same
    rw [same] at incomeParts
    omega

end WrappingSums
