import KaspaApp.Blake2b.Compression
import KaspaApp.Library.Streaming

/-! `blake2b_update` absorbs its input behind what the buffer holds, whatever is in the scratch
and behind the used part of the buffer.
-/

namespace KaspaApp.Blake2b

-----------------------------------------------------------------------------------------
-- Counters
-----------------------------------------------------------------------------------------

/-- The counter words after some more bytes. -/
def advance (t : Vector UInt64 2) (inc : UInt64) : Vector UInt64 2 :=
  let t := t.setIfInBounds 0 (t.get 0 + inc)
  t.setIfInBounds 1 (t.get 1 + if t.get 0 < inc then 1 else 0)

theorem incrementCounter_eq (S : State) (inc : UInt64)
    : incrementCounter S inc = { S with t := advance S.t inc } :=
  rfl

/-- A number of bytes as the two words of a counter. -/
def counterWords (count : Nat) : Vector UInt64 2 :=
  Vector.ofFn fun i => UInt64.ofNat (count / 2 ^ (64 * i.val))

/-- The carry goes into the second word exactly when the first one overflows. -/
theorem carry_counterWords (count : Nat) (inc : UInt64)
    : UInt64.ofNat (count / 2 ^ 64) + (if UInt64.ofNat count + inc < inc then 1 else 0)
      = UInt64.ofNat ((count + inc.toNat) / 2 ^ 64) := by
  have bound := inc.toNat_lt
  apply UInt64.toNat_inj.mp
  simp only [UInt64.lt_iff_toNat_lt, UInt64.toNat_add, UInt64.toNat_ofNat']
  split <;> simp only [UInt64.toNat_one, UInt64.toNat_zero] <;> omega

theorem advance_counterWords (count : Nat) (inc : UInt64)
    : advance (counterWords count) inc = counterWords (count + inc.toNat) := by
  have summed : UInt64.ofNat count + inc = UInt64.ofNat (count + inc.toNat) := by
    rw [UInt64.ofNat_add, UInt64.ofNat_toNat]
  have first : (counterWords count).get 0 = UInt64.ofNat count := by
    rw [counterWords, Memory.get_ofFn]
    simp
  have second : (counterWords count).get 1 = UInt64.ofNat (count / 2 ^ 64) := by
    rw [counterWords, Memory.get_ofFn]
    rfl
  have low (word : UInt64) : ((counterWords count).setIfInBounds 0 word).get 0 = word :=
    Memory.get_setIfInBounds_self _ 0 word
  have high (word : UInt64)
      : ((counterWords count).setIfInBounds 0 word).get 1 = (counterWords count).get 1 :=
    Memory.get_setIfInBounds_ne _ word (show (1 : Fin 2) ≠ 0 by decide)
  apply Vector.ext
  intro cell inside
  simp only [advance, low, high, first, second, Vector.getElem_setIfInBounds inside]
  rcases (by omega : cell = 0 ∨ cell = 1) with rfl | rfl
  · rw [if_neg (by decide), if_pos rfl, summed]
    simp [counterWords]
  · rw [if_pos rfl, carry_counterWords]
    simp [counterWords]

-----------------------------------------------------------------------------------------
-- Updates
-----------------------------------------------------------------------------------------

/-- The compression of a full block, after the counter has been moved to its end. -/
def blocks (f : Vector UInt64 2)
    : Streaming.BlockFunction UInt8 (Vector UInt64 8 × Vector UInt64 2) where
  size := blockBytes
  positive := by decide
  step chained block :=
    let t := advance chained.2 128
    (mix chained.1 t f (Memory.copy (Bytes.zero blockBytes) block), t)

/-- The chaining value, the counter and the bytes that the buffer holds. -/
def State.held (S : State) : (Vector UInt64 8 × Vector UInt64 2) × List UInt8 :=
  ((S.h, S.t), S.buf.toList.take S.buflen)

/-- What `blake2b_update` makes of a state whose buffer is not overrun. -/
structure Absorbs (S after : State) (input : List UInt8) : Prop where
  held : after.held = (blocks S.f).resume S.held input
  within : after.buflen ≤ blockBytes
  f : after.f = S.f
  outlen : after.outlen = S.outlen
  lastNode : after.lastNode = S.lastNode

/-- The loop compresses blocks of its input, and leaves the buffer alone. By induction on the
loop.
-/
theorem updateBlocks_eq (cx : Globals) (S : State) (input : List UInt8)
    : ∃ left,
        updateBlocks cx S input
        = ({ S with
              h := ((blocks S.f).absorb (S.h, S.t) input).1.1
              t := ((blocks S.f).absorb (S.h, S.t) input).1.2 },
            left,
            ((blocks S.f).absorb (S.h, S.t) input).2) := by
  induction cx, S, input using updateBlocks.induct with
  | case1 cx S input long counted compressed scratch taken ih =>
      obtain ⟨rfl, rfl⟩ := Prod.mk.inj ((compress_eq cx counted _).symm.trans taken)
      obtain ⟨left, later⟩ := ih
      have step
          : (blocks S.f).absorb (S.h, S.t) input
            = (blocks S.f).absorb ((blocks S.f).step (S.h, S.t) (input.take blockBytes))
                (input.drop blockBytes) :=
        Streaming.BlockFunction.absorb_of_lt long
      refine ⟨left, ?_⟩
      rw [updateBlocks, if_pos long, step]
      simp only [compress_eq, blocks, Memory.copy_take]
      exact later
  | case2 cx S input short =>
      rw [updateBlocks, if_neg short, Streaming.BlockFunction.absorb_of_le (Nat.le_of_not_lt short)]
      exact ⟨cx, rfl⟩

variable {S : State}

theorem length_held (within : S.buflen ≤ blockBytes) : S.held.2.length = S.buflen := by
  rw [State.held, List.length_take, Vector.length_toList, Nat.min_eq_left within]

/-- Input that fits behind what the buffer holds is only stored. -/
theorem update_stores (cx : Globals) {input : List UInt8}
    (fits : S.buflen + input.length ≤ blockBytes)
    : Absorbs S (update cx S input).1 input := by
  have within : S.buflen ≤ blockBytes := by omega
  have kept
      : (blocks S.f).resume S.held input = ((S.h, S.t), S.buf.toList.take S.buflen ++ input) := by
    apply Streaming.BlockFunction.absorb_of_le
    rw [List.length_append, length_held within]
    exact fits
  rcases Nat.eq_zero_or_pos input.length with empty | given
  · obtain rfl := List.length_eq_zero_iff.mp empty
    rw [update, if_neg (by decide)]
    refine ⟨?_, within, rfl, rfl, rfl⟩
    rw [kept, List.append_nil]
    rfl
  · rw [update, if_pos given]
    simp only [if_neg (by omega : ¬ input.length > blockBytes - S.buflen)]
    refine ⟨?_, fits, rfl, rfl, rfl⟩
    rw [kept, State.held]
    exact congrArg _ (Memory.take_writeAt S.buf S.buflen input fits)

/-- Longer input fills the buffer, which is compressed with all blocks but the last one. -/
theorem update_compresses (cx : Globals) {input : List UInt8} (within : S.buflen ≤ blockBytes)
    (exceeds : blockBytes < S.buflen + input.length)
    : Absorbs S (update cx S input).1 input := by
  have blockSize : blockBytes = 128 := rfl
  -- the buffer after it has been filled
  have filled
      : (Memory.writeAt S.buf S.buflen (input.take (blockBytes - S.buflen))).toList
        = S.buf.toList.take S.buflen ++ input.take (blockBytes - S.buflen) := by
    have length : S.buflen + (input.take (blockBytes - S.buflen)).length = blockBytes := by
      rw [List.length_take]
      omega
    have whole := Memory.take_writeAt S.buf S.buflen _ length.le
    rwa [length, List.take_of_length_le (by simp)] at whole
  have resumed
      : (blocks S.f).resume S.held input
        = (blocks S.f).absorb
            ((blocks S.f).step (S.h, S.t)
              (S.buf.toList.take S.buflen ++ input.take (blockBytes - S.buflen)))
            (input.drop (blockBytes - S.buflen)) := by
    have split : S.held.2 ++ input
        = S.buf.toList.take S.buflen ++ input.take (blockBytes - S.buflen)
          ++ input.drop (blockBytes - S.buflen) := by
      rw [List.append_assoc, List.take_append_drop]
      rfl
    have full
        : (S.buf.toList.take S.buflen ++ input.take (blockBytes - S.buflen)).length
          = (blocks S.f).size := by
      rw [← filled, Vector.length_toList]
      rfl
    rw [Streaming.BlockFunction.resume, split]
    apply Streaming.BlockFunction.absorb_block full
    rw [ne_eq, List.drop_eq_nil_iff]
    omega
  -- one step compresses the filled buffer
  have step
      : (blocks S.f).step (S.h, S.t)
          (S.buf.toList.take S.buflen ++ input.take (blockBytes - S.buflen))
        = (mix S.h (advance S.t 128) S.f
            (Memory.writeAt S.buf S.buflen (input.take (blockBytes - S.buflen))),
          advance S.t 128) := by
    simp only [blocks, ← filled, Memory.copy_toList]
  rw [step] at resumed
  rw [update, if_pos (by omega)]
  simp only [if_pos (by omega : input.length > blockBytes - S.buflen), incrementCounter_eq,
    compress_eq]
  obtain ⟨left, looped⟩ := updateBlocks_eq _
    {
      S with
      h := mix S.h (advance S.t 128) S.f
        (Memory.writeAt S.buf S.buflen (input.take (blockBytes - S.buflen)))
      t := advance S.t 128
      buf := Memory.writeAt S.buf S.buflen (input.take (blockBytes - S.buflen))
      buflen := 0
    } (input.drop (blockBytes - S.buflen))
  rw [looped]
  have short
      : 0 + ((blocks S.f).resume S.held input).2.length ≤ blockBytes := by
    rw [Nat.zero_add]
    exact Streaming.BlockFunction.length_kept_le _ _
  rw [resumed] at short
  refine ⟨?_, short, rfl, rfl, rfl⟩
  rw [resumed, State.held]
  exact congrArg _ (Memory.take_writeAt _ 0 _ short)

/-- `blake2b_update` absorbs its input. -/
theorem update_absorbs (cx : Globals) (input : List UInt8) (within : S.buflen ≤ blockBytes)
    : Absorbs S (update cx S input).1 input := by
  rcases Nat.lt_or_ge blockBytes (S.buflen + input.length) with exceeds | fits
  · exact update_compresses cx within exceeds
  · exact update_stores cx fits

end KaspaApp.Blake2b
