import KaspaApp.Library.LinearCodes
import KaspaApp.Model.Address
import Mathlib.Data.Nat.Bitwise

/-! The checksum of an address: the register of `cashaddr_polymod_step` is linear, so the
eight symbols of `create_checksum` bring it to 1.
-/

namespace KaspaApp

open LinearCodes

theorem and_xor_right (left right mask : UInt64)
    : (left ^^^ right) &&& mask = (left &&& mask) ^^^ (right &&& mask) := by
  apply UInt64.toNat_inj.mp
  simp only [UInt64.toNat_and, UInt64.toNat_xor, Nat.and_xor_distrib_right]

/-- A single bit of a byte, as the C code takes it, is 0 or 1. -/
theorem and_one_cases (b : UInt8) : b &&& 1 = 0 ∨ b &&& 1 = 1 := by
  have low : (b &&& 1).toNat = b.toNat % 2 := by
    rw [UInt8.toNat_and]
    exact Nat.and_one_is_mod b.toNat
  rcases Nat.mod_two_eq_zero_or_one b.toNat with even | odd
  · exact Or.inl (UInt8.toNat_inj.mp (low.trans even))
  · exact Or.inr (UInt8.toNat_inj.mp (low.trans odd))

theorem polymodMask_xor (left right shift : UInt8)
    : polymodMask (left ^^^ right) shift = polymodMask left shift ^^^ polymodMask right shift := by
  have split
      : ((left ^^^ right) >>> shift) &&& 1
        = ((left >>> shift) &&& 1) ^^^ ((right >>> shift) &&& 1) := by
    apply UInt8.toNat_inj.mp
    simp only [UInt8.shiftRight_xor, UInt8.toNat_and, UInt8.toNat_xor, Nat.and_xor_distrib_right]
  rw [polymodMask, polymodMask, polymodMask, split]
  rcases and_one_cases (left >>> shift) with zero | one <;>
    rcases and_one_cases (right >>> shift) with zero' | one' <;> simp [*]

/-- One generator constant, taken by its bit. -/
theorem polymodMask_and_xor (left right shift : UInt8) (generator : UInt64)
    : polymodMask (left ^^^ right) shift &&& generator
      = (polymodMask left shift &&& generator) ^^^ (polymodMask right shift &&& generator) := by
  rw [polymodMask_xor, and_xor_right]

theorem cashaddrPolymodStep_xor (left right : UInt64)
    : cashaddrPolymodStep (left ^^^ right)
      = cashaddrPolymodStep left ^^^ cashaddrPolymodStep right := by
  simp only [cashaddrPolymodStep, UInt64.shiftRight_xor, UInt64.toUInt8_xor, and_xor_right,
    UInt64.shiftLeft_xor, polymodMask_and_xor]
  ac_rfl

/-- The register of the address checksum. -/
def polymodRegister : Register UInt64 :=
  {
    add := fun left right => left ^^^ right
    step := cashaddrPolymodStep
    zero := 0
    add_assoc := UInt64.xor_assoc
    add_comm := UInt64.xor_comm
    add_zero := fun _ => UInt64.xor_zero
    step_add := cashaddrPolymodStep_xor
  }

/-- A register below 2^35 only moves up. -/
theorem cashaddrPolymodStep_of_lt {pre : UInt64} (small : pre.toNat < 2 ^ 35)
    : cashaddrPolymodStep pre = pre <<< 5 := by
  have none : pre >>> 35 = 0 := by
    apply UInt64.toNat_inj.mp
    rw [UInt64.toNat_shiftRight, Nat.shiftRight_eq_div_pow]
    exact Nat.div_eq_of_lt small
  have kept : pre &&& 0x07ffffffff = pre := by
    apply UInt64.toNat_inj.mp
    have mask : (0x07ffffffff : UInt64).toNat = 2 ^ 35 - 1 := rfl
    rw [UInt64.toNat_and, mask, Nat.and_two_pow_sub_one_eq_mod, Nat.mod_eq_of_lt small]
  have unset (shift : UInt8) : polymodMask 0 shift = 0 := by
    simp [polymodMask]
  rw [cashaddrPolymodStep, none, kept]
  simp [unset]

/-- Every value of the register after a step is below 2^40. -/
theorem cashaddrPolymodStep_lt (pre : UInt64) : (cashaddrPolymodStep pre).toNat < 2 ^ 40 := by
  have masked (shift : UInt8) (generator : UInt64) (small : generator.toNat < 2 ^ 40)
      : (polymodMask (pre >>> 35).toUInt8 shift &&& generator).toNat < 2 ^ 40 := by
    rw [UInt64.toNat_and]
    exact Nat.and_le_right.trans_lt small
  have moved : ((pre &&& 0x07ffffffff) <<< 5).toNat < 2 ^ 40 := by
    have low : (pre &&& 0x07ffffffff).toNat < 2 ^ 35 := by
      rw [UInt64.toNat_and]
      exact Nat.and_le_right.trans_lt (by decide)
    rw [UInt64.toNat_shiftLeft, Nat.shiftLeft_eq]
    exact (Nat.mod_le _ _).trans_lt (Nat.mul_lt_mul_of_pos_right low (by decide))
  rw [cashaddrPolymodStep]
  simp only [UInt64.toNat_xor]
  exact Nat.xor_lt_two_pow (Nat.xor_lt_two_pow (Nat.xor_lt_two_pow (Nat.xor_lt_two_pow
    (Nat.xor_lt_two_pow moved (masked 0 _ (by decide))) (masked 1 _ (by decide)))
    (masked 2 _ (by decide))) (masked 3 _ (by decide))) (masked 4 _ (by decide))

/-- Moving up the high part and adding the low symbol gives the value back. -/
theorem shift_xor_symbol (value : UInt64)
    : ((value >>> 5) <<< 5) ^^^ (value &&& 0x1f) = value := by
  apply UInt64.toNat_inj.mp
  apply Nat.eq_of_testBit_eq
  intro index
  have mask : (0x1f : UInt64).toNat = 2 ^ 5 - 1 := rfl
  have five : (5 : UInt64).toNat % 64 = 5 := rfl
  have bound := value.toNat_lt
  rw [UInt64.toNat_xor, UInt64.toNat_and, UInt64.toNat_shiftLeft, UInt64.toNat_shiftRight, five,
    mask, Nat.and_two_pow_sub_one_eq_mod, Nat.testBit_xor, Nat.testBit_mod_two_pow,
    Nat.testBit_mod_two_pow, Nat.testBit_shiftLeft, Nat.testBit_shiftRight]
  rcases Nat.lt_or_ge index 5 with low | high
  · rw [decide_eq_false (p := index ≥ 5) (by omega), decide_eq_true low, Bool.false_and,
      Bool.and_false, Bool.true_and, Bool.false_xor]
  · rw [decide_eq_true high, decide_eq_false (p := index < 5) (by omega), Bool.true_and,
      Bool.false_and, Bool.xor_false, Nat.add_sub_cancel' high]
    rcases Nat.lt_or_ge index 64 with inside | outside
    · rw [decide_eq_true inside, Bool.true_and]
    · rw [decide_eq_false (p := index < 64) (by omega), Bool.false_and]
      exact (Nat.testBit_lt_two_pow
        (bound.trans_le (Nat.pow_le_pow_right (by decide) outside))).symm

theorem toNat_shiftRight_ofNat (value : UInt64) {places : Nat} (inside : places < 64)
    : (value >>> UInt64.ofNat places).toNat = value.toNat >>> places := by
  rw [UInt64.toNat_shiftRight, UInt64.toNat_ofNat_of_lt' (by simp only [UInt64.size]; omega),
    Nat.mod_eq_of_lt inside]

/-- The first `count` of eight 5 bit groups of a 40 bit value, as `create_checksum` takes them.
-/
def checksumGroups (mod : UInt64) (count : Nat) : List UInt64 :=
  (List.range count).map fun i => (mod >>> UInt64.ofNat (5 * (7 - i))) &&& 0x1f

/-- From zero, the register spells the groups it absorbs. -/
theorem absorb_checksumGroups {mod : UInt64} (small : mod.toNat < 2 ^ 40) {count : Nat}
    (inside : count ≤ 8)
    : polymodRegister.absorb 0 (checksumGroups mod count)
      = mod >>> UInt64.ofNat (5 * (8 - count)) := by
  induction count with
  | zero =>
      have none : mod >>> UInt64.ofNat 40 = 0 := by
        apply UInt64.toNat_inj.mp
        rw [toNat_shiftRight_ofNat mod (by decide), Nat.shiftRight_eq_div_pow]
        exact Nat.div_eq_of_lt small
      exact none.symm
  | succ count ih =>
      have places : 5 * (8 - count) = 5 * (7 - count) + 5 := by omega
      have next : 8 - (count + 1) = 7 - count := by omega
      have held
          : mod >>> UInt64.ofNat (5 * (8 - count))
            = (mod >>> UInt64.ofNat (5 * (7 - count))) >>> 5 := by
        apply UInt64.toNat_inj.mp
        have five : (5 : UInt64).toNat % 64 = 5 := rfl
        rw [toNat_shiftRight_ofNat mod (by omega), UInt64.toNat_shiftRight, five,
          toNat_shiftRight_ofNat mod (by omega), places, Nat.shiftRight_add]
      have room : (mod >>> UInt64.ofNat (5 * (8 - count))).toNat < 2 ^ 35 := by
        rw [toNat_shiftRight_ofNat mod (by omega), places, Nat.shiftRight_add,
          Nat.shiftRight_eq_div_pow]
        have bound := Nat.shiftRight_le mod.toNat (5 * (7 - count))
        omega
      have groups
          : checksumGroups mod (count + 1)
            = checksumGroups mod count
              ++ [(mod >>> UInt64.ofNat (5 * (7 - count))) &&& 0x1f] := by
        simp only [checksumGroups, List.range_succ, List.map_append, List.map_singleton]
      calc polymodRegister.absorb 0 (checksumGroups mod (count + 1))
          = cashaddrPolymodStep (mod >>> UInt64.ofNat (5 * (8 - count)))
              ^^^ ((mod >>> UInt64.ofNat (5 * (7 - count))) &&& 0x1f) := by
            rw [groups, polymodRegister.absorb_append, ih (by omega)]
            rfl
        _ = mod >>> UInt64.ofNat (5 * (8 - (count + 1))) := by
            rw [cashaddrPolymodStep_of_lt room, held, shift_xor_symbol, next]

/-- The symbols of the address payload with those of the prefix in front. -/
def checksumInput (symbols : List UInt8) : List UInt64 :=
  (kaspaHrp.map fun character => (character &&& 0x1f).toUInt64) ++ 0
    :: symbols.map UInt8.toUInt64

/-- The register after the prefix and the symbols of an address, as its receiver computes it. -/
def addressChecksum (symbols : List UInt8) : UInt64 :=
  polymodRegister.absorb 1 (checksumInput symbols)

/-- `PolyMod` is the register after the payload and eight zeros, up to the last bit. -/
theorem polyMod_eq (payload : List UInt8)
    : polyMod kaspaHrp payload
      = cashaddrPolymodStep^[8] (addressChecksum payload) ^^^ 1 := by
  have separator (c : UInt64) : cashaddrPolymodStep c ^^^ 0 = cashaddrPolymodStep c :=
    UInt64.xor_zero
  rw [polyMod, List.foldl_const, List.length_range, addressChecksum, checksumInput,
    Register.absorb, List.foldl_append, List.foldl_map, List.foldl_cons, List.foldl_map]
  simp only [polymodRegister, separator]

theorem polyMod_lt (payload : List UInt8) : (polyMod kaspaHrp payload).toNat < 2 ^ 40 := by
  rw [polyMod_eq, Function.iterate_succ_apply', UInt64.toNat_xor]
  exact Nat.xor_lt_two_pow (cashaddrPolymodStep_lt _) (by decide)

theorem map_createChecksum (payload : List UInt8)
    : (createChecksum payload).map UInt8.toUInt64
      = checksumGroups (polyMod kaspaHrp payload) 8 := by
  have narrow (value : UInt64) : (value &&& 0x1f).toUInt8.toUInt64 = value &&& 0x1f := by
    apply UInt64.toNat_inj.mp
    have small : (value &&& 0x1f).toNat < 256 := by
      rw [UInt64.toNat_and]
      exact Nat.and_le_right.trans_lt (by decide)
    rw [UInt8.toNat_toUInt64, UInt64.toNat_toUInt8, Nat.mod_eq_of_lt small]
  simp only [createChecksum, checksumGroups, List.map_map, Function.comp_def, narrow]

/-- The receiver of an address finds 1. -/
theorem addressChecksum_createChecksum (payload : List UInt8)
    : addressChecksum (payload ++ createChecksum payload) = 1 := by
  have split
      : checksumInput (payload ++ createChecksum payload)
        = checksumInput payload ++ checksumGroups (polyMod kaspaHrp payload) 8 := by
    rw [checksumInput, checksumInput, List.map_append, map_createChecksum, List.append_assoc,
      List.cons_append]
  rw [addressChecksum, split, polymodRegister.absorb_append]
  refine polymodRegister.absorb_correction (fun _ => UInt64.xor_self) ?_
  have spelled := absorb_checksumGroups (polyMod_lt payload) (Nat.le_refl 8)
  have whole : polyMod kaspaHrp payload >>> UInt64.ofNat 0 = polyMod kaspaHrp payload :=
    UInt64.shiftRight_zero
  exact (spelled.trans whole).trans (polyMod_eq payload)

end KaspaApp
