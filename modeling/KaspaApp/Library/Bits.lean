import Mathlib.Data.Nat.Bitwise

/-! Bit strings of fixed-width numbers, most significant bit first, and the regrouping of a
bit string into numbers of another width.
-/

namespace Bits

/-- The `width` low bits of `value`. -/
def bits : Nat → Nat → List Bool
  | 0, _ => []
  | width + 1, value => value.testBit width :: bits width value

/-- The number that a bit string writes. -/
def fromBits (string : List Bool) : Nat :=
  string.foldl (fun value bit => 2 * value + bit.toNat) 0

/-- The bits of a list of numbers of one width. -/
def pack (width : Nat) (values : List Nat) : List Bool := values.flatMap (bits width)

/-- The first `count` numbers of the given width in a bit string. -/
def unpack (width : Nat) : Nat → List Bool → List Nat
  | 0, _ => []
  | count + 1, string => fromBits (string.take width) :: unpack width count (string.drop width)

variable {width value : Nat}

@[simp] theorem length_bits (width value : Nat) : (bits width value).length = width := by
  induction width with
  | zero => rfl
  | succ width ih => rw [bits, List.length_cons, ih]

/-- Only the low bits count. -/
theorem bits_congr {left right : Nat}
    (same : ∀ index < width, left.testBit index = right.testBit index)
    : bits width left = bits width right := by
  induction width with
  | zero => rfl
  | succ width ih =>
      rw [bits, bits, same width (by omega), ih fun index inside => same index (by omega)]

/-- A bit string splits into its high and its low part. -/
theorem bits_add (high low value : Nat)
    : bits (high + low) value = bits high (value >>> low) ++ bits low value := by
  induction high with
  | zero => rw [Nat.zero_add, bits, List.nil_append]
  | succ high ih =>
      rw [Nat.add_right_comm, bits, bits, ih, Nat.testBit_shiftRight, Nat.add_comm low high,
        List.cons_append]

theorem bits_zero (width : Nat) : bits width 0 = List.replicate width false := by
  induction width with
  | zero => rfl
  | succ width ih => rw [bits, ih, Nat.zero_testBit, List.replicate_succ]

theorem fromBits_append_singleton (string : List Bool) (bit : Bool)
    : fromBits (string ++ [bit]) = 2 * fromBits string + bit.toNat := by
  simp [fromBits]

/-- Reading the bits of a number gives its low part. -/
theorem fromBits_bits (width value : Nat) : fromBits (bits width value) = value % 2 ^ width := by
  induction width generalizing value with
  | zero => simp [bits, fromBits, Nat.mod_one]
  | succ width ih =>
      rw [bits_add width 1 value]
      have last : bits 1 value = [value.testBit 0] := rfl
      rw [last, fromBits_append_singleton, ih, Nat.shiftRight_eq_div_pow, Nat.pow_one,
        Nat.testBit_zero, Nat.pow_succ]
      have parity : (decide (value % 2 = 1)).toNat = value % 2 := by
        rcases Nat.mod_two_eq_zero_or_one value with even | odd
        · rw [even]; rfl
        · rw [odd]; rfl
      rw [parity, Nat.mul_comm (2 ^ width) 2, Nat.mod_mul]
      omega

@[simp] theorem length_pack (width : Nat) (values : List Nat)
    : (pack width values).length = width * values.length := by
  induction values with
  | nil => simp [pack]
  | cons value values ih =>
      rw [pack, List.flatMap_cons, List.length_append, length_bits, List.length_cons]
      rw [pack] at ih
      rw [ih, Nat.mul_succ, Nat.add_comm]

/-- Numbers that fit their width are read back from the front of a bit string. -/
theorem unpack_pack (values : List Nat) (fits : ∀ value ∈ values, value < 2 ^ width)
    (rest : List Bool)
    : unpack width values.length (pack width values ++ rest) = values := by
  induction values with
  | nil => rfl
  | cons value values ih =>
      have small := fits value (by simp)
      have front
          : (bits width value ++ (pack width values ++ rest)).take width = bits width value :=
        List.take_left' (length_bits width value)
      have back
          : (bits width value ++ (pack width values ++ rest)).drop width
            = pack width values ++ rest :=
        List.drop_left' (length_bits width value)
      have first : pack width (value :: values) = bits width value ++ pack width values := by
        rw [pack, List.flatMap_cons, pack]
      rw [first, List.length_cons, unpack, List.append_assoc, front, back,
        fromBits_bits, Nat.mod_eq_of_lt small,
        ih fun other member => fits other (List.mem_cons_of_mem _ member)]

-----------------------------------------------------------------------------------------
-- Different numbers
-----------------------------------------------------------------------------------------

/-- Whether numbers differ in their `width` low bits: they are split by one bit after the other,
until each is alone.
-/
def distinct : Nat → List Nat → Bool
  | 0, values => Nat.ble values.length 1
  | width + 1, values =>
      match values with
      | [] | [_] => true
      | values =>
          let clear value := Nat.beq (value >>> width % 2) 0
          distinct width (values.filter clear)
          && distinct width (values.filter fun value => !clear value)

theorem nodup_of_filter {Value : Type} (p : Value → Bool) {values : List Value}
    (selected : (values.filter p).Nodup) (others : (values.filter fun value => !p value).Nodup)
    : values.Nodup := by
  refine (List.filter_append_perm p values).nodup_iff.mp (List.nodup_append.mpr
    ⟨selected, others, ?_⟩)
  rintro value left _ right rfl
  have holds := (List.mem_filter.mp left).2
  have fails := (List.mem_filter.mp right).2
  rw [holds] at fails
  exact Bool.false_ne_true fails

theorem nodup_of_distinct {values : List Nat} (checked : distinct width values = true)
    : values.Nodup := by
  induction width generalizing values with
  | zero =>
      rcases values with _ | ⟨first, _ | ⟨second, rest⟩⟩
      · exact List.nodup_nil
      · exact List.pairwise_singleton _ first
      · exact absurd (Nat.le_of_ble_eq_true checked) (by simp)
  | succ width ih =>
      rcases values with _ | ⟨first, _ | ⟨second, rest⟩⟩
      · exact List.nodup_nil
      · exact List.pairwise_singleton _ first
      · rw [distinct] at checked
        · obtain ⟨clear, set⟩ := Bool.and_eq_true_iff.mp checked
          exact nodup_of_filter _ (ih clear) (ih set)
        · exact List.cons_ne_nil first _
        · exact fun head single => absurd (List.cons.inj single).2 (List.cons_ne_nil second rest)

end Bits
