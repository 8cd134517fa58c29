import Mathlib.Data.List.Basic

/-! Strings that are compressed block by block while they arrive. The last block is kept back
until more data follows it, so that it can be treated differently at the end. How the data is cut
into pieces makes no difference to what has been compressed and to what is kept.
-/

namespace Streaming

/-- A function that compresses blocks of one length into a chaining value. -/
structure BlockFunction (Item Chain : Type) where
  size : Nat
  positive : 0 < size
  step : Chain → List Item → Chain

variable {Item Chain : Type} (function : BlockFunction Item Chain)

/-- Compress blocks as long as more than one block of data is there. What remains is kept. -/
def BlockFunction.absorb (chain : Chain) (data : List Item) : Chain × List Item :=
  if function.size < data.length then
    absorb (function.step chain (data.take function.size)) (data.drop function.size)
  else
    (chain, data)
termination_by data.length
decreasing_by
  have positive := function.positive
  rw [List.length_drop]
  omega

/-- More data behind what is kept. -/
def BlockFunction.resume (held : Chain × List Item) (data : List Item) : Chain × List Item :=
  function.absorb held.1 (held.2 ++ data)

/-- The number of blocks in front of the last one, of a string of the given length. -/
def BlockFunction.fullBlocks (length : Nat) : Nat := (length - 1) / function.size

variable {function} {chain : Chain} {data : List Item}

theorem BlockFunction.absorb_of_le (short : data.length ≤ function.size)
    : function.absorb chain data = (chain, data) := by
  rw [absorb, if_neg (by omega)]

theorem BlockFunction.absorb_of_lt (long : function.size < data.length)
    : function.absorb chain data
      = function.absorb (function.step chain (data.take function.size))
          (data.drop function.size) := by
  rw [absorb, if_pos long]

/-- A first block with data behind it is compressed. -/
theorem BlockFunction.absorb_block {block more : List Item}
    (length : block.length = function.size) (behind : more ≠ [])
    : function.absorb chain (block ++ more) = function.absorb (function.step chain block) more := by
  have left : 0 < more.length := List.length_pos_iff.mpr behind
  rw [absorb_of_lt (by rw [List.length_append]; omega), List.take_left' length,
    List.drop_left' length]

/-- At most one block is kept. -/
theorem BlockFunction.length_kept_le (chain : Chain) (data : List Item)
    : (function.absorb chain data).2.length ≤ function.size := by
  induction chain, data using BlockFunction.absorb.induct function with
  | case1 chain data long ih => rwa [absorb_of_lt long]
  | case2 chain data short =>
      rw [absorb_of_le (by omega)]
      exact Nat.le_of_not_lt short

/-- A string can be absorbed in two parts. By induction on the blocks of the first part, which
the second part only follows.
-/
theorem BlockFunction.absorb_append (chain : Chain) (first second : List Item)
    : function.absorb chain (first ++ second)
      = function.resume (function.absorb chain first) second := by
  induction chain, first using BlockFunction.absorb.induct function with
  | case1 chain first long ih =>
      have longer : function.size < (first ++ second).length := by
        rw [List.length_append]
        omega
      rw [absorb_of_lt longer, absorb_of_lt long, List.take_append_of_le_length (by omega),
        List.drop_append_of_le_length (by omega), ih]
  | case2 chain first short =>
      have kept : function.absorb chain first = (chain, first) := absorb_of_le (by omega)
      rw [kept, resume]

theorem BlockFunction.fullBlocks_of_le {length : Nat} (short : length ≤ function.size)
    : function.fullBlocks length = 0 := by
  have positive := function.positive
  exact Nat.div_eq_of_lt (by omega)

/-- A block in front of at least one item is a full block. -/
theorem BlockFunction.fullBlocks_of_lt {length : Nat} (long : function.size < length)
    : function.fullBlocks length = function.fullBlocks (length - function.size) + 1 := by
  have positive := function.positive
  have shift : length - 1 = length - function.size - 1 + function.size := by omega
  rw [fullBlocks, shift, Nat.add_div_right _ positive, fullBlocks]

/-- What has been compressed and what is kept, in terms of the blocks of the whole string. -/
theorem BlockFunction.absorb_eq (chain : Chain) (data : List Item)
    : function.absorb chain data
      = ((List.range (function.fullBlocks data.length)).foldl
          (fun chain index =>
            function.step chain ((data.drop (index * function.size)).take function.size)) chain,
        data.drop (function.fullBlocks data.length * function.size)) := by
  induction chain, data using BlockFunction.absorb.induct function with
  | case1 chain data long ih =>
      have later (index : Nat)
          : (data.drop function.size).drop (index * function.size)
            = data.drop ((index + 1) * function.size) := by
        rw [List.drop_drop, Nat.succ_mul, Nat.add_comm]
      rw [absorb_of_lt long, ih, fullBlocks_of_lt long, List.range_succ_eq_map, List.foldl_cons,
        List.foldl_map]
      simp only [List.length_drop, later, Nat.zero_mul, List.drop_zero, Nat.succ_eq_add_one]
  | case2 chain data short =>
      rw [absorb_of_le (by omega), fullBlocks_of_le (by omega)]
      simp

theorem BlockFunction.fullBlocks_mul_le (length : Nat)
    : function.fullBlocks length * function.size ≤ length := by
  have bound := Nat.div_mul_le_self (length - 1) function.size
  rw [fullBlocks]
  omega

end Streaming
