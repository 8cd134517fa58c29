import KaspaApp.Addresses.Decoding
import KaspaApp.Library.Bits
import KaspaApp.Library.ErrorDetection
import Mathlib.Data.List.Induction
import Mathlib.Data.List.Iterate
import Mathlib.Data.List.Nodup
import Mathlib.Tactic.IntervalCases

/-! Addresses with typing errors. The generator of `cashaddr_polymod_step` is such that no address
with errors in up to eight characters in a row, or in up to three places, is valid.
-/

namespace KaspaApp

open LinearCodes

-----------------------------------------------------------------------------------------
-- The register as a code
-----------------------------------------------------------------------------------------

/-- The generator constant of a bit, if the bit is set. -/
theorem toNat_polymodMask_and (pre : UInt64) {shift : UInt8} (inside : shift.toNat < 5)
    (generator : UInt64)
    : (polymodMask (pre >>> 35).toUInt8 shift &&& generator).toNat
      = bif pre.toNat.testBit (35 + shift.toNat) then generator.toNat else 0 := by
  have bit
      : (((pre >>> 35).toUInt8 >>> shift) &&& 1).toNat
        = (pre.toNat.testBit (35 + shift.toNat)).toNat := by
    have places : (35 : UInt64).toNat % 64 = 35 := rfl
    have low : shift.toNat % 8 = shift.toNat := Nat.mod_eq_of_lt (by omega)
    calc (((pre >>> 35).toUInt8 >>> shift) &&& 1).toNat
        = (pre.toNat >>> 35 % 2 ^ 8) / 2 ^ shift.toNat % 2 := by
          rw [UInt8.toNat_and, UInt8.toNat_shiftRight, low, UInt64.toNat_toUInt8,
            UInt64.toNat_shiftRight, places, UInt8.toNat_one, Nat.and_one_is_mod,
            Nat.shiftRight_eq_div_pow]
      _ = (pre.toNat.testBit (35 + shift.toNat)).toNat := by
          rw [← Nat.toNat_testBit, Nat.testBit_mod_two_pow, decide_eq_true (by omega),
            Bool.true_and, Nat.testBit_shiftRight]
  rcases and_one_cases ((pre >>> 35).toUInt8 >>> shift) with clear | set
  · rw [clear] at bit
    cases value : pre.toNat.testBit (35 + shift.toNat) with
    | false => simp [polymodMask, clear]
    | true => exact absurd (bit.trans (congrArg Bool.toNat value)) (by decide)
  · rw [set] at bit
    cases value : pre.toNat.testBit (35 + shift.toNat) with
    | false => exact absurd (bit.trans (congrArg Bool.toNat value)) (by decide)
    | true =>
        have ones : 0 - (1 : UInt8).toUInt64 = -1 := rfl
        rw [polymodMask, set, ones, UInt64.neg_one_and, cond_true]

/-- `cashaddr_polymod_step` on the value of the register. -/
def polymodStep (pre : Nat) : Nat :=
  (pre % 2 ^ 35 * 2 ^ 5)
  ^^^ (bif pre.testBit 35 then 0x98f2bc8e61 else 0)
  ^^^ (bif pre.testBit 36 then 0x79b76d99e2 else 0)
  ^^^ (bif pre.testBit 37 then 0xf33e5fb3c4 else 0)
  ^^^ (bif pre.testBit 38 then 0xae2eabe2a8 else 0)
  ^^^ (bif pre.testBit 39 then 0x1e4f43e470 else 0)

theorem toNat_cashaddrPolymodStep (pre : UInt64)
    : (cashaddrPolymodStep pre).toNat = polymodStep pre.toNat := by
  have moved : ((pre &&& 0x07ffffffff) <<< 5).toNat = pre.toNat % 2 ^ 35 * 2 ^ 5 := by
    have mask : (0x07ffffffff : UInt64).toNat = 2 ^ 35 - 1 := rfl
    have five : (5 : UInt64).toNat % 64 = 5 := rfl
    rw [UInt64.toNat_shiftLeft, UInt64.toNat_and, mask, five, Nat.and_two_pow_sub_one_eq_mod,
      Nat.shiftLeft_eq]
    omega
  rw [cashaddrPolymodStep]
  simp only [UInt64.toNat_xor, moved]
  rw [toNat_polymodMask_and pre (by decide), toNat_polymodMask_and pre (by decide),
    toNat_polymodMask_and pre (by decide), toNat_polymodMask_and pre (by decide),
    toNat_polymodMask_and pre (by decide)]
  rfl

/-- Each generator constant has one bit of its own in the low symbol. -/
theorem testBit_generators
    : ∀ place < 5,
        Nat.testBit 0x98f2bc8e61 place = decide (place = 0)
        ∧ Nat.testBit 0x79b76d99e2 place = decide (place = 1)
        ∧ Nat.testBit 0xf33e5fb3c4 place = decide (place = 2)
        ∧ Nat.testBit 0xae2eabe2a8 place = decide (place = 3)
        ∧ Nat.testBit 0x1e4f43e470 place = decide (place = 4) := by
  decide

/-- The low symbol after a step says which generator constants were taken. -/
theorem testBit_polymodStep (pre : Nat) {place : Nat} (inside : place < 5)
    : (polymodStep pre).testBit place = pre.testBit (35 + place) := by
  have taken (bit : Bool) (generator : Nat)
      : (bif bit then generator else 0).testBit place = (bit && generator.testBit place) := by
    cases bit <;> simp
  have moved : (pre % 2 ^ 35 * 2 ^ 5).testBit place = false := by
    rw [Nat.testBit_mul_two_pow, decide_eq_false (by omega), Bool.false_and]
  obtain ⟨first, second, third, fourth, fifth⟩ := testBit_generators place inside
  simp only [polymodStep, Nat.testBit_xor, moved, taken, first, second, third, fourth, fifth]
  interval_cases place <;> simp

theorem polymodStep_eq_zero {pre : Nat} (held : pre < 2 ^ 40) (zero : polymodStep pre = 0)
    : pre = 0 := by
  have low : pre < 2 ^ 35 := by
    refine Nat.lt_pow_two_of_testBit pre fun place above => ?_
    rcases Nat.lt_or_ge place 40 with inside | outside
    · have clear := testBit_polymodStep pre (show place - 35 < 5 by omega)
      rwa [zero, Nat.zero_testBit, Nat.add_sub_cancel' above, eq_comm] at clear
    · exact Nat.testBit_lt_two_pow
        (held.trans_le (Nat.pow_le_pow_right (by decide) outside))
  have clear {place : Nat} (above : 35 ≤ place) : pre.testBit place = false :=
    Nat.testBit_lt_two_pow (low.trans_le (Nat.pow_le_pow_right (by decide) above))
  rw [polymodStep, clear (by decide), clear (by decide), clear (by decide), clear (by decide),
    clear (by decide), Nat.mod_eq_of_lt low] at zero
  simpa using zero

/-- The checksum of an address as a code over 5 bit symbols. -/
def cashaddrCode : Code UInt64 :=
  {
    polymodRegister with
    Word := fun word => word.toNat < 2 ^ 5
    Held := fun state => state.toNat < 2 ^ 40
    add_self := fun _ => UInt64.xor_self
    word_zero := by decide
    word_add := fun left right => by
      rw [polymodRegister, UInt64.toNat_xor]
      exact Nat.xor_lt_two_pow left right
    held_word := fun small => small.trans (by decide)
    held_add := fun left right => by
      rw [polymodRegister, UInt64.toNat_xor]
      exact Nat.xor_lt_two_pow left right
    held_step := cashaddrPolymodStep_lt
    step_eq_zero := fun {state} held zero => by
      have value := toNat_cashaddrPolymodStep state
      have reached : cashaddrPolymodStep state = 0 := zero
      rw [reached, UInt64.toNat_zero] at value
      exact UInt64.toNat_inj.mp (polymodStep_eq_zero held value.symm)
  }

/-- Up to eight symbols stand in the register side by side. -/
theorem absorb_few {words : List UInt64} (letters : cashaddrCode.Words words)
    (few : words.length ≤ 8)
    : (cashaddrCode.absorb 0 words).toNat < 2 ^ (5 * words.length)
      ∧ (cashaddrCode.Codeword words → cashaddrCode.Zeros words) := by
  induction words using List.reverseRecOn with
  | nil => exact ⟨by decide, fun _ word member => absurd member List.not_mem_nil⟩
  | append_singleton front last ih =>
      rw [List.length_append, List.length_singleton] at few
      obtain ⟨small, spelled⟩ :=
        ih (fun word member => letters word (List.mem_append_left _ member)) (by omega)
      have lastSmall : last.toNat < 2 ^ 5 := letters last (by simp)
      have room : (cashaddrCode.absorb 0 front).toNat < 2 ^ 35 :=
        small.trans_le (Nat.pow_le_pow_right (by decide) (by omega))
      have next
          : (cashaddrCode.absorb 0 (front ++ [last])).toNat
            = (cashaddrCode.absorb 0 front).toNat * 2 ^ 5 ^^^ last.toNat := by
        have moved
            : cashaddrCode.absorb 0 (front ++ [last])
              = cashaddrPolymodStep (cashaddrCode.absorb 0 front) ^^^ last :=
          cashaddrCode.absorb_append 0 front [last]
        have five : (5 : UInt64).toNat % 64 = 5 := rfl
        rw [moved, cashaddrPolymodStep_of_lt room, UInt64.toNat_xor, UInt64.toNat_shiftLeft, five,
          Nat.shiftLeft_eq, Nat.mod_eq_of_lt (by omega)]
      constructor
      · rw [next, List.length_append, List.length_singleton]
        refine Nat.xor_lt_two_pow ?_ (lastSmall.trans_le (Nat.pow_le_pow_right (by decide) (by omega)))
        rw [Nat.mul_succ, Nat.pow_add]
        exact Nat.mul_lt_mul_of_pos_right small (by decide)
      · intro codeword
        have reached : cashaddrCode.absorb 0 (front ++ [last]) = 0 := codeword
        rw [reached, UInt64.toNat_zero, eq_comm, Nat.xor_eq_zero_iff] at next
        have frontZero : (cashaddrCode.absorb 0 front).toNat = 0 := by omega
        have lastZero : last.toNat = 0 := by omega
        intro word member
        rcases List.mem_append.mp member with inside | final
        · exact spelled (UInt64.toNat_inj.mp frontZero) word inside
        · rw [List.mem_singleton.mp final]
          exact UInt64.toNat_inj.mp lastZero

theorem cashaddrCode_spells : cashaddrCode.Spells 8 :=
  fun _ few letters => (absorb_few letters few).2

-----------------------------------------------------------------------------------------
-- Symbols that have moved up
-----------------------------------------------------------------------------------------

/-- A symbol from 1 to 31 that has moved up by 1 to 62 steps, and a zero. -/
def moves : List (Nat × Nat) :=
  (0, 0) :: (List.range 31).flatMap fun symbol =>
    (List.range 62).map fun steps => (steps + 1, symbol + 1)

/-- What stands above the low symbol after the moves, computed step by step. -/
def movedAbove : List Nat :=
  0 :: (List.range 31).flatMap fun symbol =>
    (List.iterate polymodStep (polymodStep (symbol + 1)) 62).map fun value => value >>> 5

theorem movedAbove_eq
    : movedAbove = moves.map fun move => polymodStep^[move.1] move.2 >>> 5 := by
  have row (symbol : Nat)
      : (List.iterate polymodStep (polymodStep (symbol + 1)) 62).map (fun value => value >>> 5)
        = ((List.range 62).map fun steps => (steps + 1, symbol + 1)).map fun move =>
            polymodStep^[move.1] move.2 >>> 5 := by
    rw [← List.range_map_iterate, List.map_map, List.map_map]
    rfl
  rw [movedAbove, moves, List.map_cons, List.map_flatMap]
  simp only [row]
  rfl

theorem nodup_movedAbove : movedAbove.Nodup := by
  have checked : Bits.distinct 35 movedAbove = true := by decide +kernel
  exact Bits.nodup_of_distinct checked

theorem mem_moves {steps symbol : Nat} (moved : 0 < steps) (few : steps < 63)
    (given : 0 < symbol) (small : symbol < 32)
    : (steps, symbol) ∈ moves := by
  refine List.mem_cons_of_mem _ (List.mem_flatMap.mpr ⟨symbol - 1, ?_, ?_⟩)
  · exact List.mem_range.mpr (by omega)
  · refine List.mem_map.mpr ⟨steps - 1, List.mem_range.mpr (by omega), ?_⟩
    rw [Nat.sub_add_cancel moved, Nat.sub_add_cancel given]

/-- Different moves leave different values above the low symbol. -/
theorem moves_apart {left right : Nat × Nat} (leftMove : left ∈ moves) (rightMove : right ∈ moves)
    (same : polymodStep^[left.1] left.2 >>> 5 = polymodStep^[right.1] right.2 >>> 5)
    : left = right :=
  List.inj_on_of_nodup_map (movedAbove_eq ▸ nodup_movedAbove) leftMove rightMove same

theorem toNat_iterate_step (count : Nat) (state : UInt64)
    : (cashaddrCode.step^[count] state).toNat = polymodStep^[count] state.toNat := by
  have each : Function.Semiconj UInt64.toNat cashaddrCode.step polymodStep :=
    toNat_cashaddrPolymodStep
  exact each.iterate_right count state

theorem cashaddrCode_apart : cashaddrCode.Apart 63 := by
  intro i inside j below first second firstWord secondWord given word
  have firstGiven : 0 < first.toNat :=
    Nat.pos_of_ne_zero fun zero => given (UInt64.toNat_inj.mp zero)
  have firstMove : (i, first.toNat) ∈ moves :=
    mem_moves (by omega) inside firstGiven firstWord
  have sum
      : polymodStep^[i] first.toNat ^^^ polymodStep^[j] second.toNat < 2 ^ 5 := by
    rw [← toNat_iterate_step, ← toNat_iterate_step]
    rwa [← UInt64.toNat_xor]
  have same : polymodStep^[i] first.toNat >>> 5 = polymodStep^[j] second.toNat >>> 5 := by
    rw [← Nat.xor_eq_zero_iff, ← Nat.shiftRight_xor_distrib, Nat.shiftRight_eq_div_pow]
    exact Nat.div_eq_of_lt sum
  -- the second symbol is zero, has not moved, or has moved by another number of steps
  obtain ⟨move, member, value, lower⟩
      : ∃ move ∈ moves,
          polymodStep^[j] second.toNat >>> 5 = polymodStep^[move.1] move.2 >>> 5 ∧ move.1 < i := by
    rcases Nat.eq_zero_or_pos second.toNat with zero | secondGiven
    · have fixed : polymodStep^[j] 0 = 0 := Function.iterate_fixed rfl j
      exact ⟨(0, 0), List.mem_cons_self, by rw [zero, fixed]; rfl, by omega⟩
    rcases Nat.eq_zero_or_pos j with rfl | moved
    · refine ⟨(0, 0), List.mem_cons_self, ?_, below⟩
      rw [Function.iterate_zero_apply, Nat.shiftRight_eq_div_pow]
      exact Nat.div_eq_of_lt secondWord
    · exact ⟨(j, second.toNat), mem_moves moved (by omega) secondGiven secondWord, rfl, below⟩
  have equal := moves_apart firstMove member (same.trans value)
  rw [← equal] at lower
  exact Nat.lt_irrefl i lower

-----------------------------------------------------------------------------------------
-- Symbols with errors
-----------------------------------------------------------------------------------------

/-- The number of places where two texts differ. -/
def changedPlaces (left right : List UInt8) : Nat :=
  (left.zip right).countP fun pair => pair.1 ≠ pair.2

/-- The differences of two lists of symbols, as the register takes them. -/
def symbolDifferences (left right : List UInt8) : List UInt64 :=
  cashaddrCode.differences (left.map UInt8.toUInt64) (right.map UInt8.toUInt64)

theorem symbolDifferences_eq (left right : List UInt8)
    : symbolDifferences left right
      = (left.zip right).map fun pair => pair.1.toUInt64 ^^^ pair.2.toUInt64 := by
  rw [symbolDifferences, Register.differences, List.zipWith_map, List.zip, List.map_zipWith]
  rfl

theorem toUInt64_inj {left right : UInt8} (same : left.toUInt64 = right.toUInt64)
    : left = right :=
  UInt8.toNat_inj.mp (by rw [← UInt8.toNat_toUInt64, same, UInt8.toNat_toUInt64])

theorem words_symbolDifferences {left right : List UInt8} (leftFit : Symbols left)
    (rightFit : Symbols right)
    : cashaddrCode.Words (symbolDifferences left right) := by
  intro word member
  rw [symbolDifferences_eq] at member
  obtain ⟨⟨symbol, other⟩, pair, rfl⟩ := List.mem_map.mp member
  obtain ⟨inLeft, inRight⟩ := List.of_mem_zip pair
  have small := Nat.xor_lt_two_pow (n := 5) (leftFit symbol inLeft) (rightFit other inRight)
  rwa [← UInt8.toNat_toUInt64 symbol, ← UInt8.toNat_toUInt64 other, ← UInt64.toNat_xor] at small

theorem weight_symbolDifferences (left right : List UInt8)
    : cashaddrCode.weight (symbolDifferences left right) = changedPlaces left right := by
  rw [Code.weight, symbolDifferences_eq, List.countP_map, changedPlaces]
  congr 1
  funext pair
  have zero : pair.1.toUInt64 ^^^ pair.2.toUInt64 = 0 ↔ pair.1 = pair.2 :=
    UInt64.xor_eq_zero_iff.trans ⟨toUInt64_inj, congrArg UInt8.toUInt64⟩
  exact decide_eq_decide.mpr (not_congr zero)

/-- Symbols with the same checksum differ by a codeword. -/
theorem codeword_symbolDifferences {left right : List UInt8} (length : left.length = right.length)
    (checksums : addressChecksum left = addressChecksum right)
    : cashaddrCode.Codeword (symbolDifferences left right) := by
  have start (symbols : List UInt8)
      : addressChecksum symbols
        = cashaddrCode.absorb (addressChecksum []) (symbols.map UInt8.toUInt64) := by
    rw [addressChecksum, addressChecksum, checksumInput, checksumInput, List.map_nil,
      List.append_cons _ 0 (symbols.map UInt8.toUInt64), polymodRegister.absorb_append]
    rfl
  rw [start left, start right] at checksums
  exact (cashaddrCode.absorb_eq_iff (by simpa using length) _).mp checksums

theorem eq_of_zeros {left right : List UInt8} (length : left.length = right.length)
    (zeros : cashaddrCode.Zeros (symbolDifferences left right))
    : left = right := by
  have same := cashaddrCode.eq_of_zeros (by simpa using length) zeros
  exact List.map_injective_iff.mpr (fun _ _ => toUInt64_inj) same

-----------------------------------------------------------------------------------------
-- Texts with errors
-----------------------------------------------------------------------------------------

/-- A text that spells symbols with a right checksum behind the prefix. -/
structure Spelled (text symbols : List UInt8) : Prop where
  text : text = kaspaHrp ++ [0x3a] ++ symbols.map charsetAt
  fit : Symbols symbols
  checksum : addressChecksum symbols = 1

theorem charsetAt_of_symbolOf {character symbol : UInt8} (found : symbolOf character = some symbol)
    : charsetAt symbol = character ∧ symbol.toNat < 32 := by
  have each
      : ∀ value < 256, ∀ symbol ∈ symbolOf (UInt8.ofNat value),
          charsetAt symbol = UInt8.ofNat value ∧ symbol.toNat < 32 := by
    decide +kernel
  have read := each character.toNat character.toNat_lt symbol
  rw [UInt8.ofNat_toNat] at read
  exact read found

theorem map_charsetAt_of_mapM {text symbols : List UInt8} (read : text.mapM symbolOf = some symbols)
    : symbols.map charsetAt = text ∧ Symbols symbols := by
  induction text generalizing symbols with
  | nil =>
      obtain rfl : [] = symbols := Option.some.inj read
      exact ⟨rfl, fun symbol member => absurd member List.not_mem_nil⟩
  | cons character text ih =>
      rw [List.mapM_cons] at read
      cases found : symbolOf character with
      | none => simp [found] at read
      | some symbol =>
          cases tail : text.mapM symbolOf with
          | none => simp [found, tail] at read
          | some rest =>
              simp only [found, tail, Option.bind_eq_bind, Option.bind_some, Option.pure_def,
                Option.some.injEq] at read
              subst read
              obtain ⟨first, small⟩ := charsetAt_of_symbolOf found
              obtain ⟨later, fit⟩ := ih tail
              exact ⟨by rw [List.map_cons, first, later], List.forall_mem_cons.mpr ⟨small, fit⟩⟩

/-- What the receiver reads is spelled with a right checksum. -/
theorem exists_spelled {text content : List UInt8} (read : decodeAddress text = some content)
    : ∃ symbols, Spelled text symbols := by
  rw [decodeAddress] at read
  split at read
  · next front =>
      obtain ⟨symbols, characters, rest⟩ := Option.bind_eq_some_iff.mp read
      split at rest
      · next right =>
          obtain ⟨spelled, fit⟩ := map_charsetAt_of_mapM characters
          refine ⟨symbols, ?_, fit, right.2⟩
          rw [spelled, ← front, List.take_append_drop]
      · exact absurd rest.symm (Option.some_ne_none content)
  · exact absurd read.symm (Option.some_ne_none content)

section

variable {left right leftSymbols rightSymbols : List UInt8} (leftSpelled : Spelled left leftSymbols)
  (rightSpelled : Spelled right rightSymbols)

include leftSpelled rightSpelled

theorem Spelled.length_eq (length : left.length = right.length)
    : leftSymbols.length = rightSymbols.length := by
  rw [leftSpelled.text, rightSpelled.text] at length
  simpa using length

theorem Spelled.codeword (length : left.length = right.length)
    : cashaddrCode.Codeword (symbolDifferences leftSymbols rightSymbols) :=
  codeword_symbolDifferences (leftSpelled.length_eq rightSpelled length)
    (leftSpelled.checksum.trans rightSpelled.checksum.symm)

theorem Spelled.eq_of_zeros (length : left.length = right.length)
    (zeros : cashaddrCode.Zeros (symbolDifferences leftSymbols rightSymbols))
    : left = right := by
  rw [leftSpelled.text, rightSpelled.text,
    KaspaApp.eq_of_zeros (leftSpelled.length_eq rightSpelled length) zeros]

/-- A symbol is in its place where the characters are the same. -/
theorem Spelled.symbol_eq {place : Nat} (same : left[6 + place]? = right[6 + place]?)
    : leftSymbols[place]? = rightSymbols[place]? := by
  have symbol {text symbols : List UInt8} (spelled : Spelled text symbols)
      : symbols[place]? = text[6 + place]?.bind symbolOf := by
    have behind : text[6 + place]? = (symbols.map charsetAt)[place]? := by
      rw [spelled.text, List.getElem?_append_right (Nat.le_add_right 6 place)]
      exact congrArg _ (Nat.add_sub_cancel_left 6 place)
    rw [behind, List.getElem?_map]
    cases found : symbols[place]? with
    | none => rfl
    | some symbol =>
        have small := spelled.fit symbol (List.mem_of_getElem? found)
        exact (symbolOf_charsetAt small).symm
  rw [symbol leftSpelled, symbol rightSpelled, same]

/-- Valid texts do not differ in up to eight characters in a row only. -/
theorem Spelled.eq_of_burst (length : left.length = right.length) (start : Nat)
    (within : ∀ i, i < start ∨ start + 8 ≤ i → left[i]? = right[i]?)
    : left = right := by
  have codeword := leftSpelled.codeword rightSpelled length
  have letters := words_symbolDifferences leftSpelled.fit rightSpelled.fit
  refine leftSpelled.eq_of_zeros rightSpelled length
    (cashaddrCode.zeros_of_burst cashaddrCode_spells letters (start - 6) ?_ codeword)
  intro place outside word found
  have same := leftSpelled.symbol_eq rightSpelled (within (6 + place) (by omega))
  rw [symbolDifferences_eq, List.getElem?_map] at found
  obtain ⟨⟨symbol, other⟩, pair, rfl⟩ := Option.map_eq_some_iff.mp found
  obtain ⟨inLeft, inRight⟩ := List.getElem?_zip_eq_some.mp pair
  obtain rfl : symbol = other := Option.some.inj (inLeft.symm.trans (same.trans inRight))
  exact UInt64.xor_self

/-- Symbols differ where their characters do. -/
theorem Spelled.changedPlaces_eq
    : changedPlaces leftSymbols rightSymbols = changedPlaces left right := by
  have front (rest other : List UInt8)
      : changedPlaces (kaspaHrp ++ [0x3a] ++ rest) (kaspaHrp ++ [0x3a] ++ other)
        = changedPlaces rest other := by
    rw [changedPlaces, List.zip_append rfl, List.countP_append]
    exact Nat.zero_add _
  rw [leftSpelled.text, rightSpelled.text, front, changedPlaces, changedPlaces, List.zip_map,
    List.countP_map]
  refine List.countP_congr fun pair member => ?_
  obtain ⟨inLeft, inRight⟩ := List.of_mem_zip (show (pair.1, pair.2) ∈ _ from member)
  have injective : charsetAt pair.1 = charsetAt pair.2 ↔ pair.1 = pair.2 := by
    constructor
    · intro same
      have read := congrArg symbolOf same
      rw [symbolOf_charsetAt (leftSpelled.fit _ inLeft),
        symbolOf_charsetAt (rightSpelled.fit _ inRight)] at read
      exact Option.some.inj read
    · exact congrArg charsetAt
  simp [injective]

/-- Valid texts that are not too long do not differ in up to three places only. -/
theorem Spelled.eq_of_three_places (length : left.length = right.length)
    (short : left.length ≤ 69) (few : changedPlaces left right ≤ 3)
    : left = right := by
  have codeword := leftSpelled.codeword rightSpelled length
  have letters := words_symbolDifferences leftSpelled.fit rightSpelled.fit
  have lengths := leftSpelled.length_eq rightSpelled length
  have symbols : left.length = 6 + leftSymbols.length := by
    rw [leftSpelled.text, List.length_append, List.length_map]
    rfl
  refine leftSpelled.eq_of_zeros rightSpelled length
    (cashaddrCode.zeros_of_weight_le_three cashaddrCode_apart letters ?_ ?_ codeword)
  · rw [symbolDifferences_eq, List.length_map, List.length_zip]
    omega
  · rwa [weight_symbolDifferences, leftSpelled.changedPlaces_eq rightSpelled]

end

/-- An address of any length in which up to eight characters in a row were mistyped is refused. -/
theorem decodeAddress_burst (content : List UInt8) {typed : List UInt8}
    (length : typed.length = (addressText content).length) {start : Nat}
    (within : ∀ i, i < start ∨ start + 8 ≤ i → typed[i]? = (addressText content)[i]?)
    (mistyped : typed ≠ addressText content)
    : decodeAddress typed = none := by
  obtain ⟨_, spelled⟩ := exists_spelled (decodeAddress_addressText content)
  cases read : decodeAddress typed with
  | none => rfl
  | some other =>
      obtain ⟨_, typedSpelled⟩ := exists_spelled read
      exact absurd (typedSpelled.eq_of_burst spelled length start within) mistyped

theorem decodeAddress_burst_sample
    : decodeAddress (((addressText [0, 1, 2]).set 9 0x70).set 16 0x39) = none :=
  decodeAddress_burst [0, 1, 2] (by simp)
    (show ∀ i, i < 9 ∨ 9 + 8 ≤ i → _ from fun i outside =>
      (List.getElem?_set_ne (by omega)).trans (List.getElem?_set_ne (by omega)))
    (by decide +kernel)

/-- An address that the device shows and in which up to three characters were mistyped is refused.
-/
theorem decodeAddress_three_places (publicKey : Bytes 64) (addressType : AddressType)
    (outLen : Nat) {address typed : List UInt8}
    (shown : addressFromPubkey publicKey addressType outLen = some address)
    (length : typed.length = address.length) (few : changedPlaces typed address ≤ 3)
    (mistyped : typed ≠ address)
    : decodeAddress typed = none := by
  rcases Nat.lt_or_ge outLen addressType.addressLen with short | room
  · have refused : addressFromPubkey publicKey addressType outLen = none := by
      cases addressType <;> exact if_pos short
    exact absurd (refused.symm.trans shown) (Option.some_ne_none address).symm
  rw [addressFromPubkey_eq publicKey addressType room] at shown
  obtain rfl := Option.some.inj shown
  obtain ⟨_, spelled⟩ := exists_spelled (decodeAddress_addressText
    (addressType.addressVersion.toUInt8 :: compressPublicKey publicKey addressType 33))
  have fits : typed.length ≤ 69 := by
    rw [length, length_addressText, List.length_cons, length_compressPublicKey]
    exact addressType.addressLen_le
  cases read : decodeAddress typed with
  | none => rfl
  | some other =>
      obtain ⟨_, typedSpelled⟩ := exists_spelled read
      exact absurd (typedSpelled.eq_of_three_places spelled length fits few) mistyped

theorem decodeAddress_three_places_sample
    : decodeAddress
          ((((addressText (0 :: List.replicate 32 0)).set 6 0x70).set 20 0x39).set 66 0x6c)
        = none :=
  decodeAddress_three_places (Bytes.zero 64) .schnorr 67
    (addressFromPubkey_eq (Bytes.zero 64) .schnorr (Nat.le_refl 67)) (by decide +kernel)
    (by decide +kernel) (by decide +kernel)

end KaspaApp
