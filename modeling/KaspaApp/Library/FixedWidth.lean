import Mathlib.Data.Nat.Digits.Defs

/-! Fixed-width positional encodings: digit lists of a given length, and the byte strings
that write an unsigned integer in little-endian or big-endian order.
-/

namespace FixedWidth

/-- The `width` least significant digits of `value`, least significant first. -/
def digits (base : Nat) : Nat → Nat → List Nat
  | 0, _ => []
  | width + 1, value => value % base :: digits base width (value / base)

@[simp] theorem length_digits (base width value : Nat)
    : (digits base width value).length = width := by
  induction width generalizing value with
  | zero => rfl
  | succ width ih => simp only [digits, List.length_cons, ih]

theorem lt_of_mem_digits {base width value digit : Nat} (positive : 0 < base)
    (member : digit ∈ digits base width value)
    : digit < base := by
  induction width generalizing value with
  | zero => simp [digits] at member
  | succ width ih =>
      rcases List.mem_cons.mp member with same | later
      · exact same ▸ Nat.mod_lt _ positive
      · exact ih later

/-- Reading the digits back gives the value modulo the width, by induction on the width. -/
theorem ofDigits_digits (base width value : Nat)
    : Nat.ofDigits base (digits base width value) = value % base ^ width := by
  induction width generalizing value with
  | zero => simp [digits, Nat.mod_one]
  | succ width ih =>
      rw [digits, Nat.ofDigits_cons, ih, Nat.pow_succ', Nat.mod_mul]

/-- Digits of the right length are the digits of the number they write. -/
theorem digits_ofDigits {base : Nat} (list : List Nat) (small : ∀ digit ∈ list, digit < base)
    : digits base list.length (Nat.ofDigits base list) = list := by
  induction list with
  | nil => rfl
  | cons head tail ih =>
      have headSmall : head < base := small head (by simp)
      have positive : 0 < base := by omega
      rw [List.length_cons, digits, Nat.ofDigits_cons, Nat.add_mul_mod_self_left,
        Nat.mod_eq_of_lt headSmall, Nat.add_mul_div_left _ _ positive,
        Nat.div_eq_of_lt headSmall, Nat.zero_add,
        ih (fun digit member => small digit (List.mem_cons_of_mem head member))]

/-- The `width` bytes of `value`, least significant byte first. -/
def littleEndian (width value : Nat) : List UInt8 :=
  (digits 256 width value).map UInt8.ofNat

/-- The `width` bytes of `value`, most significant byte first. -/
def bigEndian (width value : Nat) : List UInt8 :=
  (littleEndian width value).reverse

/-- The number that a little-endian byte string writes. -/
def fromLittleEndian (bytes : List UInt8) : Nat :=
  Nat.ofDigits 256 (bytes.map UInt8.toNat)

/-- The number that a big-endian byte string writes. -/
def fromBigEndian (bytes : List UInt8) : Nat :=
  fromLittleEndian bytes.reverse

@[simp] theorem length_littleEndian (width value : Nat)
    : (littleEndian width value).length = width := by
  simp [littleEndian]

@[simp] theorem length_bigEndian (width value : Nat)
    : (bigEndian width value).length = width := by
  simp [bigEndian]

/-- A byte is its own big-endian string. -/
theorem bigEndian_one (byte : UInt8) : bigEndian 1 byte.toNat = [byte] := by
  simp [bigEndian, littleEndian, digits]

theorem map_toNat_littleEndian (width value : Nat)
    : (littleEndian width value).map UInt8.toNat = digits 256 width value := by
  rw [littleEndian, List.map_map]
  have same : ∀ digit ∈ digits 256 width value,
      (UInt8.toNat ∘ UInt8.ofNat) digit = id digit := by
    intro digit member
    have small := lt_of_mem_digits (by decide) member
    simpa using small
  rw [List.map_congr_left same, List.map_id]

theorem fromLittleEndian_littleEndian (width value : Nat)
    : fromLittleEndian (littleEndian width value) = value % 256 ^ width := by
  rw [fromLittleEndian, map_toNat_littleEndian, ofDigits_digits]

theorem fromBigEndian_bigEndian (width value : Nat)
    : fromBigEndian (bigEndian width value) = value % 256 ^ width := by
  rw [fromBigEndian, bigEndian, List.reverse_reverse, fromLittleEndian_littleEndian]

/-- Every byte string is the little-endian string of the number it writes. -/
theorem littleEndian_fromLittleEndian (bytes : List UInt8)
    : littleEndian bytes.length (fromLittleEndian bytes) = bytes := by
  have small : ∀ digit ∈ bytes.map UInt8.toNat, digit < 256 := by
    intro digit member
    obtain ⟨byte, _, rfl⟩ := List.mem_map.mp member
    exact byte.toNat_lt
  have values := digits_ofDigits (bytes.map UInt8.toNat) small
  rw [List.length_map] at values
  rw [littleEndian, fromLittleEndian, values, List.map_map]
  exact List.map_id'' (by simp) bytes

theorem bigEndian_fromBigEndian (bytes : List UInt8)
    : bigEndian bytes.length (fromBigEndian bytes) = bytes := by
  have reversed := littleEndian_fromLittleEndian bytes.reverse
  rw [List.length_reverse] at reversed
  rw [bigEndian, fromBigEndian, reversed, List.reverse_reverse]

theorem fromLittleEndian_lt (bytes : List UInt8)
    : fromLittleEndian bytes < 256 ^ bytes.length := by
  have bound := Nat.ofDigits_lt_base_pow_length (b := 256) (l := bytes.map UInt8.toNat)
    (by decide) (by
      intro digit member
      obtain ⟨byte, _, rfl⟩ := List.mem_map.mp member
      exact byte.toNat_lt)
  simpa [fromLittleEndian] using bound

theorem fromBigEndian_lt (bytes : List UInt8)
    : fromBigEndian bytes < 256 ^ bytes.length := by
  simpa [fromBigEndian] using fromLittleEndian_lt bytes.reverse

/-- A fixed-width byte string determines the value it writes. -/
theorem littleEndian_injective {width left right : Nat}
    (leftFits : left < 256 ^ width) (rightFits : right < 256 ^ width)
    (same : littleEndian width left = littleEndian width right)
    : left = right := by
  have values := congrArg fromLittleEndian same
  rwa [fromLittleEndian_littleEndian, fromLittleEndian_littleEndian,
    Nat.mod_eq_of_lt leftFits, Nat.mod_eq_of_lt rightFits] at values

/-- The number in the `count` bytes from `start` on, most significant byte first. -/
def field (bytes : List UInt8) (start count : Nat) : Nat :=
  fromBigEndian ((bytes.drop start).take count)

theorem field_lt (bytes : List UInt8) (start count : Nat)
    : field bytes start count < 256 ^ count := by
  have bound := fromBigEndian_lt ((bytes.drop start).take count)
  apply bound.trans_le
  exact Nat.pow_le_pow_right (by decide) (List.length_take_le _ _)

/-- A field that lies inside the bytes writes them. -/
theorem bigEndian_field {bytes : List UInt8} {start count : Nat}
    (inside : start + count ≤ bytes.length)
    : bigEndian count (field bytes start count) = (bytes.drop start).take count := by
  have length : ((bytes.drop start).take count).length = count := by
    simp only [List.length_take, List.length_drop]
    omega
  have written := bigEndian_fromBigEndian ((bytes.drop start).take count)
  rwa [length] at written

/-- A field behind the front part is a field of what follows it. -/
theorem field_skip {front rest : List UInt8} {start count : Nat} (behind : front.length ≤ start)
    : field (front ++ rest) start count = field rest (start - front.length) count := by
  rw [field, field, List.drop_append, List.drop_of_length_le behind, List.nil_append]

theorem field_front (count value : Nat) (after : List UInt8)
    : field (bigEndian count value ++ after) 0 count = value % 256 ^ count := by
  rw [field, List.drop_zero, List.take_left' (length_bigEndian count value),
    fromBigEndian_bigEndian]

theorem field_whole (count value : Nat)
    : field (bigEndian count value) 0 count = value % 256 ^ count := by
  have front := field_front count value []
  rwa [List.append_nil] at front

/-- Consecutive parts of a byte string join to what they are parts of. -/
theorem slice_append (bytes : List UInt8) (start count : Nat)
    : (bytes.drop start).take count ++ bytes.drop (start + count) = bytes.drop start := by
  rw [← List.drop_drop, List.take_append_drop]

-----------------------------------------------------------------------------------------
-- Rows of fields
-----------------------------------------------------------------------------------------

/-- The big-endian strings of the values, one behind the other. -/
def packed (width : Nat) (values : List Nat) : List UInt8 := values.flatMap (bigEndian width)

/-- The values of the first `count` fields of a width. -/
def fields (width count : Nat) (bytes : List UInt8) : List Nat :=
  (List.range count).map fun index => field bytes (width * index) width

@[simp] theorem length_packed (width : Nat) (values : List Nat)
    : (packed width values).length = width * values.length := by
  induction values with
  | nil => rfl
  | cons value values ih =>
      rw [packed, List.flatMap_cons, List.length_append, length_bigEndian, ← packed, ih,
        List.length_cons, Nat.mul_succ, Nat.add_comm]

@[simp] theorem length_fields (width count : Nat) (bytes : List UInt8)
    : (fields width count bytes).length = count := by
  simp [fields]

/-- The fields behind the first one are the fields of what follows it. -/
theorem fields_succ (width count value : Nat) (after : List UInt8)
    : fields width (count + 1) (bigEndian width value ++ after)
      = value % 256 ^ width :: fields width count after := by
  rw [fields, List.range_succ_eq_map, List.map_cons, Nat.mul_zero, field_front, List.map_map]
  refine congrArg _ (List.map_congr_left fun index _ => ?_)
  have behind : (bigEndian width value).length ≤ width * (index + 1) := by
    rw [length_bigEndian]
    exact Nat.le_mul_of_pos_right width (Nat.succ_pos index)
  simp only [Function.comp_apply]
  rw [field_skip behind, length_bigEndian, Nat.mul_succ, Nat.add_sub_cancel]

/-- Values that fit are read back from their strings, whatever follows. -/
theorem fields_packed {width : Nat} {values : List Nat}
    (fit : ∀ value ∈ values, value < 256 ^ width) (after : List UInt8)
    : fields width values.length (packed width values ++ after) = values := by
  induction values with
  | nil => rfl
  | cons value values ih =>
      have small := fit value (List.mem_cons_self)
      have rest := ih fun other member => fit other (List.mem_cons_of_mem value member)
      rw [packed, List.flatMap_cons, List.append_assoc, List.length_cons, fields_succ, ← packed,
        rest, Nat.mod_eq_of_lt small]

/-- Fields that are there write the bytes that they are read from. -/
theorem packed_fields {width count : Nat} {bytes : List UInt8}
    (inside : width * count ≤ bytes.length)
    : packed width (fields width count bytes) = bytes.take (width * count) := by
  induction count with
  | zero => simp [fields, packed]
  | succ count ih =>
      rw [Nat.mul_succ] at inside ⊢
      have front := ih (by omega)
      rw [fields, List.range_succ, List.map_append, ← fields, packed, List.flatMap_append, ← packed,
        front, List.map_singleton, List.flatMap_singleton, bigEndian_field inside, List.take_add]

end FixedWidth
