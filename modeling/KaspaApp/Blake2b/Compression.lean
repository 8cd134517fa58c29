import KaspaApp.Library.CellUpdates
import KaspaApp.Model.Blake2b
import Mathlib.Data.List.GetD
import Mathlib.Tactic.IntervalCases

/-! What `blake2b_compress` computes, without the scratch it computes in.
-/

namespace KaspaApp.Blake2b

/-- The message words of a block. -/
def words (block : Bytes blockBytes) : Vector UInt64 16 :=
  Vector.ofFn fun i => load64 (block.toList.drop (i * 8))

/-- The working vector in front of the rounds. -/
def workingVector (h : Vector UInt64 8) (t f : Vector UInt64 2) : Vector UInt64 16 :=
  Vector.ofFn fun i =>
    (h.toList
      ++ [iv 0, iv 1, iv 2, iv 3, iv 4 ^^^ t.get 0, iv 5 ^^^ t.get 1, iv 6 ^^^ f.get 0,
        iv 7 ^^^ f.get 1]).getD i 0

/-- The twelve rounds. -/
def rounds (m v : Vector UInt64 16) : Vector UInt64 16 :=
  (List.range 12).foldl (fun v r => round m r v) v

/-- The new chaining value. -/
def mix (h : Vector UInt64 8) (t f : Vector UInt64 2) (block : Bytes blockBytes)
    : Vector UInt64 8 :=
  let v := rounds (words block) (workingVector h t f)
  Vector.ofFn fun i => h.get i ^^^ v.get (i.castLE half_le) ^^^ v.get (i.natAdd 8)

/-- The loop over the message words fills all of `m`. -/
theorem words_loop (block : Bytes blockBytes) (m : Vector UInt64 16)
    : (List.range 16).foldl
        (fun m i => m.setIfInBounds i (load64 (block.toList.drop (i * 8)))) m
      = words block :=
  Memory.foldl_range_fill (fun i => load64 (block.toList.drop (i * 8))) m

/-- The loop and the eight assignments fill all of `v`. -/
theorem workingVector_assignments (h : Vector UInt64 8) (t f : Vector UInt64 2)
    (v : Vector UInt64 16)
    : (((((((((List.finRange 8).foldl (fun v i => v.setIfInBounds i (h.get i)) v
        ).setIfInBounds 8 (iv 0)).setIfInBounds 9 (iv 1)).setIfInBounds 10 (iv 2)
        ).setIfInBounds 11 (iv 3)).setIfInBounds 12 (iv 4 ^^^ t.get 0)
        ).setIfInBounds 13 (iv 5 ^^^ t.get 1)).setIfInBounds 14 (iv 6 ^^^ f.get 0)
        ).setIfInBounds 15 (iv 7 ^^^ f.get 1)
      = workingVector h t f := by
  have distinct : ((List.finRange 8).map Fin.val).Nodup :=
    (List.nodup_finRange 8).map Fin.val_injective
  apply Vector.ext
  intro cell inside
  rcases Nat.lt_or_ge cell 8 with low | high
  · have written := Memory.getElem?_foldl_of_mem Fin.val
      (fun (i : Fin 8) (_ : Vector UInt64 16) => h.get i) v distinct (fun _ _ _ _ => rfl)
      (List.mem_finRange ⟨cell, low⟩) inside
    rw [Vector.getElem?_eq_getElem inside] at written
    have own : h.get ⟨cell, low⟩ = h[cell] := rfl
    have front (last : List UInt64) : (h.toList ++ last).getD cell 0 = h[cell] := by
      rw [List.getD_append _ _ _ _ (by simpa using low)]
      simp [low]
    rw [workingVector, Vector.getElem_ofFn, front]
    simp only [Vector.getElem_setIfInBounds inside]
    simp only [show ¬ 8 = cell by omega, show ¬ 9 = cell by omega, show ¬ 10 = cell by omega,
      show ¬ 11 = cell by omega, show ¬ 12 = cell by omega, show ¬ 13 = cell by omega,
      show ¬ 14 = cell by omega, show ¬ 15 = cell by omega, if_false]
    exact (Option.some.inj written).trans own
  · have behind (last : List UInt64) : (h.toList ++ last).getD cell 0 = last.getD (cell - 8) 0 := by
      rw [List.getD_append_right _ _ _ _ (by simpa using high), Vector.length_toList]
    rw [workingVector, Vector.getElem_ofFn, behind]
    simp only [Vector.getElem_setIfInBounds inside]
    interval_cases cell <;> rfl

/-- The loop over the chaining value changes each of its words by two words of `v`. -/
theorem feedForward_loop (h : Vector UInt64 8) (v : Vector UInt64 16)
    : (List.finRange 8).foldl
        (fun h i =>
          h.setIfInBounds i (h.get i ^^^ v.get (i.castLE half_le) ^^^ v.get (i.natAdd 8))) h
      = Vector.ofFn fun i => h.get i ^^^ v.get (i.castLE half_le) ^^^ v.get (i.natAdd 8) :=
  Memory.foldl_finRange_self
    (fun (i : Fin 8) (word : UInt64) => word ^^^ v.get (i.castLE half_le) ^^^ v.get (i.natAdd 8)) h

/-- The compression changes the chaining value, and nothing else of the state. The scratch has no
part in it and is left with the words of the block.
-/
theorem compress_eq (cx : Globals) (S : State) (block : Bytes blockBytes)
    : compress cx S block
      = ({ S with h := mix S.h S.t S.f block },
          { cx with
            m := words block
            v := rounds (words block) (workingVector S.h S.t S.f) }) := by
  simp only [compress, words_loop, workingVector_assignments, feedForward_loop]
  rfl

-----------------------------------------------------------------------------------------
-- The rounds lose nothing
-----------------------------------------------------------------------------------------

/-- Bit `bit` of a rotated word. -/
theorem testBit_rotr64 (w : UInt64) {c : UInt64} (positive : 0 < c.toNat) (small : c.toNat < 64)
    {bit : Nat} (inside : bit < 64)
    : (rotr64 w c).toNat.testBit bit = w.toNat.testBit ((bit + c.toNat) % 64) := by
  have high : ∀ place, 64 ≤ place → w.toNat.testBit place = false := fun place above =>
    Nat.testBit_lt_two_pow (w.toNat_lt.trans_le (Nat.pow_le_pow_right (by decide) above))
  have back : (64 - c).toNat = 64 - c.toNat := by
    rw [UInt64.toNat_sub_of_le _ _ (UInt64.le_iff_toNat_le.mpr small.le)]
    rfl
  have bits
      : (rotr64 w c).toNat.testBit bit
        = (w.toNat.testBit (c.toNat + bit)
          || (decide (64 - c.toNat ≤ bit) && w.toNat.testBit (bit - (64 - c.toNat)))) := by
    simp only [rotr64, UInt64.toNat_or, UInt64.toNat_shiftRight, UInt64.toNat_shiftLeft, back,
      Nat.mod_eq_of_lt small, Nat.mod_eq_of_lt (by omega : 64 - c.toNat < 64), Nat.testBit_or,
      Nat.testBit_shiftRight, Nat.testBit_mod_two_pow, Nat.testBit_shiftLeft, inside, decide_true,
      Bool.true_and]
  rw [bits]
  rcases Nat.lt_or_ge (bit + c.toNat) 64 with within | across
  · rw [Nat.mod_eq_of_lt within, Nat.add_comm bit, decide_eq_false (by omega)]
    simp
  · have wrapped : (bit + c.toNat) % 64 = bit - (64 - c.toNat) := by omega
    rw [high _ (by omega), wrapped, decide_eq_true (by omega)]
    simp

/-- A rotation loses no bit. -/
theorem rotr64_injective {c : UInt64} (positive : 0 < c.toNat) (small : c.toNat < 64)
    : Function.Injective fun w => rotr64 w c := by
  intro left right same
  apply UInt64.toNat_inj.mp
  apply Nat.eq_of_testBit_eq
  intro bit
  rcases Nat.lt_or_ge bit 64 with inside | beyond
  · -- bit `bit` is bit `place` of the rotated words
    have place : ((bit + 64 - c.toNat) % 64 + c.toNat) % 64 = bit := by omega
    have rotated := congrArg (fun w => w.toNat.testBit ((bit + 64 - c.toNat) % 64)) same
    simp only [testBit_rotr64 _ positive small (Nat.mod_lt _ (by decide : 0 < 64)), place]
      at rotated
    exact rotated
  · have bound : 2 ^ 64 ≤ 2 ^ bit := Nat.pow_le_pow_right (by decide) beyond
    rw [Nat.testBit_lt_two_pow (left.toNat_lt.trans_le bound),
      Nat.testBit_lt_two_pow (right.toNat_lt.trans_le bound)]

theorem G_eq (m : Vector UInt64 16) (r i : Nat) (a b c d : Fin 16)
    : G m r i a b c d
      = Memory.change b (fun v word => rotr64 (word ^^^ v.get c) 63)
        ∘ Memory.change c (fun v word => word + v.get d)
        ∘ Memory.change d (fun v word => rotr64 (word ^^^ v.get a) 16)
        ∘ Memory.change a (fun v word => word + v.get b + m.get (sigma r (2 * i + 1)))
        ∘ Memory.change b (fun v word => rotr64 (word ^^^ v.get c) 24)
        ∘ Memory.change c (fun v word => word + v.get d)
        ∘ Memory.change d (fun v word => rotr64 (word ^^^ v.get a) 32)
        ∘ Memory.change a (fun v word => word + v.get b + m.get (sigma r (2 * i + 0))) :=
  rfl

/-- `G` on four different words can be undone. -/
theorem G_injective (m : Vector UInt64 16) (r i : Nat) {a b c d : Fin 16} (ab : b ≠ a)
    (bc : c ≠ b) (cd : d ≠ c) (da : a ≠ d)
    : Function.Injective (G m r i a b c d) := by
  have added (message : UInt64)
      : Function.Injective
          (Memory.change a fun (v : Vector UInt64 16) word => word + v.get b + message) :=
    Memory.change_injective (Memory.looksAside_get ab fun other word => word + other + message)
      fun v _ _ same =>
        (UInt64.add_left_inj (v.get b)).mp ((UInt64.add_left_inj message).mp same)
  have summed
      : Function.Injective (Memory.change c fun (v : Vector UInt64 16) word => word + v.get d) :=
    Memory.change_injective (Memory.looksAside_get cd fun other word => word + other)
      fun v _ _ same => (UInt64.add_left_inj (v.get d)).mp same
  have rotated {cell other : Fin 16} (apart : other ≠ cell) {count : UInt64}
      (positive : 0 < count.toNat) (small : count.toNat < 64)
      : Function.Injective
          (Memory.change cell fun (v : Vector UInt64 16) word =>
            rotr64 (word ^^^ v.get other) count) :=
    Memory.change_injective
      (Memory.looksAside_get apart fun other word => rotr64 (word ^^^ other) count)
      fun v => (rotr64_injective positive small).comp fun _ _ same =>
        (UInt64.xor_left_inj (v.get other)).mp same
  rw [G_eq]
  exact (rotated bc (by decide) (by decide)).comp <| summed.comp <|
    (rotated da (by decide) (by decide)).comp <| (added _).comp <|
    (rotated bc (by decide) (by decide)).comp <| summed.comp <|
    (rotated da (by decide) (by decide)).comp (added _)

/-- The columns and the diagonals of a round are made of different words. -/
theorem round_injective (m : Vector UInt64 16) (r : Nat) : Function.Injective (round m r) := by
  have composed
      : round m r
        = G m r 7 3 4 9 14 ∘ G m r 6 2 7 8 13 ∘ G m r 5 1 6 11 12 ∘ G m r 4 0 5 10 15
          ∘ G m r 3 3 7 11 15 ∘ G m r 2 2 6 10 14 ∘ G m r 1 1 5 9 13 ∘ G m r 0 0 4 8 12 := by
    funext v
    simp only [round, Function.comp_apply]
  rw [composed]
  refine Function.Injective.comp ?_ <| .comp ?_ <| .comp ?_ <| .comp ?_ <| .comp ?_ <|
    .comp ?_ <| .comp ?_ ?_
  all_goals exact G_injective m r _ (by decide) (by decide) (by decide) (by decide)

theorem foldl_injective {Index Value : Type} {next : Value → Index → Value}
    (steps : ∀ index, Function.Injective fun value => next value index) (indices : List Index)
    : Function.Injective fun value => indices.foldl next value := by
  induction indices with
  | nil => exact fun _ _ same => same
  | cons index indices ih => exact ih.comp (steps index)

/-- Two working vectors that the rounds over one block make equal were equal, and every round
takes in every word of the block.
-/
theorem rounds_permute (block : Bytes blockBytes)
    : Function.Injective (rounds (words block))
      ∧ ∀ r < 12, ((List.range 16).map (sigma r)).Perm (List.finRange 16) := by
  constructor
  · exact foldl_injective (round_injective (words block)) (List.range 12)
  · decide

end KaspaApp.Blake2b
