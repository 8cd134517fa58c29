import KaspaApp.Library.Bits
import KaspaApp.Model.Address

/-! `convert_bits` keeps the bits of its input: the symbols it emits spell the input bytes,
followed by fewer zeros than a symbol has bits.
-/

namespace KaspaApp

open Bits

/-- The bits of 8 bit bytes and of 5 bit symbols. -/
def byteBits (bytes : List UInt8) : List Bool := pack 8 (bytes.map UInt8.toNat)

def symbolBits (symbols : List UInt8) : List Bool := pack 5 (symbols.map UInt8.toNat)

theorem symbolBits_append (left right : List UInt8)
    : symbolBits (left ++ right) = symbolBits left ++ symbolBits right := by
  simp [symbolBits, pack]

@[simp] theorem symbolBits_singleton (symbol : UInt8)
    : symbolBits [symbol] = bits 5 symbol.toNat := by
  simp [symbolBits, pack]

theorem byteBits_cons (byte : UInt8) (bytes : List UInt8)
    : byteBits (byte :: bytes) = bits 8 byte.toNat ++ byteBits bytes := by
  simp [byteBits, pack]

/-- The symbols are 5 bits wide. -/
def Symbols (symbols : List UInt8) : Prop := ∀ symbol ∈ symbols, symbol.toNat < 32

theorem Symbols.append_singleton {symbols : List UInt8} (fit : Symbols symbols) {symbol : UInt8}
    (small : symbol.toNat < 32)
    : Symbols (symbols ++ [symbol]) := by
  intro other member
  rcases List.mem_append.mp member with before | last
  · exact fit other before
  · rw [List.mem_singleton.mp last]
    exact small

/-- `& maxv` takes the low symbol. -/
theorem toNat_and_maxv (val : UInt32) : (val &&& 31).toUInt8.toNat = val.toNat % 32 := by
  have mask : (31 : UInt32).toNat = 2 ^ 5 - 1 := rfl
  rw [UInt32.toNat_toUInt8, UInt32.toNat_and, mask, Nat.and_two_pow_sub_one_eq_mod]
  omega

theorem toNat_ofNat_shift {shift : Nat} (inside : shift < 32)
    : (UInt32.ofNat shift).toNat % 32 = shift := by
  rw [UInt32.toNat_ofNat_of_lt' (by simp only [UInt32.size]; omega), Nat.mod_eq_of_lt inside]

/-- `(val >> bits) & maxv` is the symbol at that place. -/
theorem toNat_symbol (val : UInt32) {held : Nat} (inside : held < 32)
    : ((val >>> UInt32.ofNat held) &&& 31).toUInt8.toNat = (val.toNat >>> held) % 32 := by
  rw [toNat_and_maxv, UInt32.toNat_shiftRight, toNat_ofNat_shift inside]

theorem bits_mod (value : Nat) : bits 5 (value % 32) = bits 5 value := by
  refine bits_congr fun index inside => ?_
  have modulus : (32 : Nat) = 2 ^ 5 := rfl
  rw [modulus, Nat.testBit_mod_two_pow, decide_eq_true inside, Bool.true_and]

/-- The inner loop moves whole symbols from the held bits to the output. -/
theorem convertBitsEmit_bits (val : UInt32) {fuel held : Nat} {out : List UInt8}
    (enough : held ≤ fuel) (inside : held ≤ 32) (fit : Symbols out)
    : let result := convertBitsEmit 5 31 val fuel held out
      symbolBits result.2 ++ bits result.1 val.toNat = symbolBits out ++ bits held val.toNat
        ∧ result.1 < 5
        ∧ Symbols result.2 := by
  induction fuel generalizing held out with
  | zero =>
      obtain rfl : held = 0 := by omega
      exact ⟨rfl, Nat.zero_lt_succ 4, fit⟩
  | succ fuel ih =>
      simp only [convertBitsEmit]
      by_cases whole : 5 ≤ held
      · rw [if_pos whole]
        have symbol := toNat_symbol val (show held - 5 < 32 by omega)
        have small : ((val >>> UInt32.ofNat (held - 5)) &&& 31).toUInt8.toNat < 32 := by
          rw [symbol]
          exact Nat.mod_lt _ (by decide)
        obtain ⟨kept, few, fits⟩ :=
          ih (show held - 5 ≤ fuel by omega) (by omega) (fit.append_singleton small)
        refine ⟨kept.trans ?_, few, fits⟩
        have parts : bits held val.toNat
            = bits 5 (val.toNat >>> (held - 5)) ++ bits (held - 5) val.toNat := by
          rw [← bits_add, Nat.add_sub_cancel' whole]
        rw [symbolBits_append, symbolBits_singleton, symbol, bits_mod, parts, List.append_assoc]
      · rw [if_neg whole]
        exact ⟨rfl, by omega, fit⟩

/-- Taking in a byte adds its bits behind the held ones. -/
theorem bits_shift_or (val : UInt32) (byte : UInt8) {held : Nat} (room : held + 8 ≤ 32)
    : bits (held + 8) ((val <<< UInt32.ofNat 8) ||| byte.toUInt32).toNat
      = bits held val.toNat ++ bits 8 byte.toNat := by
  have shift : (UInt32.ofNat 8).toNat % 32 = 8 := rfl
  have taken
      : ((val <<< UInt32.ofNat 8) ||| byte.toUInt32).toNat
        = (val.toNat <<< 8) % 2 ^ 32 ||| byte.toNat := by
    rw [UInt32.toNat_or, UInt32.toNat_shiftLeft, shift, UInt8.toNat_toUInt32]
  have byteSmall := byte.toNat_lt
  rw [taken, bits_add]
  congr 1
  · refine bits_congr fun index inside => ?_
    have high : byte.toNat.testBit (8 + index) = false :=
      Nat.testBit_lt_two_pow (byteSmall.trans_le (Nat.pow_le_pow_right (by decide) (by omega)))
    rw [Nat.testBit_shiftRight, Nat.testBit_or, high, Bool.or_false, Nat.testBit_mod_two_pow,
      decide_eq_true (by omega), Bool.true_and, Nat.testBit_shiftLeft,
      decide_eq_true (by omega), Bool.true_and, Nat.add_sub_cancel_left]
  · refine bits_congr fun index inside => ?_
    rw [Nat.testBit_or, Nat.testBit_mod_two_pow, Nat.testBit_shiftLeft,
      decide_eq_false (p := 8 ≤ index) (by omega), Bool.false_and, Bool.and_false, Bool.false_or]

/-- The outer loop: what is emitted and held spells what was emitted, held and read. -/
theorem convertBitsLoop_bits (input : List UInt8) (val : UInt32) {held : Nat} {out : List UInt8}
    (few : held < 5) (fit : Symbols out)
    : let result := convertBitsLoop 5 8 31 input val held out
      symbolBits result.2.2 ++ bits result.2.1 result.1.toNat
          = symbolBits out ++ (bits held val.toNat ++ byteBits input)
        ∧ result.2.1 < 5
        ∧ Symbols result.2.2 := by
  induction input generalizing val held out with
  | nil => exact ⟨by simp [convertBitsLoop, byteBits, pack], few, fit⟩
  | cons byte rest ih =>
      simp only [convertBitsLoop]
      obtain ⟨emitted, fewAfter, fits⟩ :=
        convertBitsEmit_bits ((val <<< UInt32.ofNat 8) ||| byte.toUInt32)
          (Nat.le_refl (held + 8)) (by omega) fit
      obtain ⟨spelled, fewEnd, fitEnd⟩ := ih _ fewAfter fits
      refine ⟨spelled.trans ?_, fewEnd, fitEnd⟩
      rw [← List.append_assoc, emitted, bits_shift_or val byte (by omega), byteBits_cons,
        List.append_assoc, List.append_assoc]

/-- The padded last symbol: the held bits and zeros behind them. -/
theorem bits_padded (val : UInt32) {held : Nat} (few : held < 5)
    : bits 5 ((val <<< UInt32.ofNat (5 - held)) &&& 31).toUInt8.toNat
      = bits held val.toNat ++ List.replicate (5 - held) false := by
  have symbol
      : ((val <<< UInt32.ofNat (5 - held)) &&& 31).toUInt8.toNat
        = (val.toNat <<< (5 - held)) % 2 ^ 32 % 32 := by
    rw [toNat_and_maxv, UInt32.toNat_shiftLeft, toNat_ofNat_shift (by omega)]
  have parts := bits_add held (5 - held) ((val.toNat <<< (5 - held)) % 2 ^ 32)
  rw [Nat.add_sub_cancel' few.le] at parts
  rw [symbol, bits_mod, parts, ← bits_zero]
  congr 1
  · refine bits_congr fun index inside => ?_
    rw [Nat.testBit_shiftRight, Nat.testBit_mod_two_pow, decide_eq_true (by omega),
      Bool.true_and, Nat.testBit_shiftLeft, decide_eq_true (by omega), Bool.true_and,
      Nat.add_sub_cancel_left]
  · refine bits_congr fun index inside => ?_
    rw [Nat.testBit_mod_two_pow, Nat.testBit_shiftLeft,
      decide_eq_false (p := 5 - held ≤ index) (by omega), Bool.false_and, Bool.and_false,
      Nat.zero_testBit]

/-- `convert_bits` from bytes to symbols. -/
theorem convertBits_bits (input : List UInt8)
    : Symbols (convertBits 5 input 8)
      ∧ ∃ padding < 5,
          symbolBits (convertBits 5 input 8)
          = byteBits input ++ List.replicate padding false := by
  have mask : (1 <<< UInt32.ofNat 5 - 1 : UInt32) = 31 := rfl
  obtain ⟨spelled, few, fit⟩ :=
    convertBitsLoop_bits input 0 (show 0 < 5 by decide) (show Symbols [] by simp [Symbols])
  simp only [convertBits, mask]
  generalize convertBitsLoop 5 8 31 input 0 0 [] = result at spelled few fit ⊢
  obtain ⟨val, held, out⟩ := result
  simp only at spelled few fit ⊢
  have nothing : symbolBits [] = [] := rfl
  rw [nothing, List.nil_append, bits, List.nil_append] at spelled
  by_cases rest : held ≠ 0
  · rw [if_pos rest]
    have padded := bits_padded val few
    refine ⟨fit.append_singleton ?_, 5 - held, by omega, ?_⟩
    · rw [toNat_and_maxv]
      exact Nat.mod_lt _ (by decide)
    · rw [symbolBits_append, symbolBits_singleton, padded, ← List.append_assoc, spelled]
  · rw [if_neg rest]
    rw [Decidable.not_not.mp rest, bits, List.append_nil] at spelled
    exact ⟨fit, 0, by decide, by rw [spelled, List.replicate_zero, List.append_nil]⟩

end KaspaApp
