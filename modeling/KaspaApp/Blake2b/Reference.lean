import KaspaApp.Blake2b.Streaming

/-! The streaming interface computes BLAKE2b: the hash of the key block and of all input in front
of it, for every way to cut the input into updates and for any scratch at each call.
-/

namespace KaspaApp.Blake2b

-----------------------------------------------------------------------------------------
-- BLAKE2b of a whole string
-----------------------------------------------------------------------------------------

/-- The finalization flags of a block. -/
def blockFlags (last : Bool) : Vector UInt64 2 :=
  Vector.ofFn fun i => if last ∧ i.val = 0 then 0xffffffffffffffff else 0

/-- The compression of a block that ends with byte number `count`, short blocks padded by zeros. -/
def F (h : Vector UInt64 8) (block : List UInt8) (count : Nat) (last : Bool) : Vector UInt64 8 :=
  mix h (counterWords count) (blockFlags last) (Memory.copy (Bytes.zero blockBytes) block)

/-- The chaining value in front of the first block: the parameters are in its first word. -/
def initialChain (outlen keylen : Nat) : Vector UInt64 8 :=
  Vector.ofFn fun i =>
    if i.val = 0 then
      iv 0 ^^^ (UInt64.ofNat outlen ||| UInt64.ofNat keylen <<< 8 ||| 0x01010000)
    else
      iv i

/-- A key fills a block of its own. -/
def keyBlock (key : List UInt8) : List UInt8 :=
  if key = [] then [] else key ++ List.replicate (blockBytes - key.length) 0

/-- The chaining value behind the last block of a string. -/
def lastChain (h : Vector UInt64 8) (input : List UInt8) : Vector UInt64 8 :=
  let full := (input.length - 1) / blockBytes
  let h := (List.range full).foldl
    (fun h i =>
      F h ((input.drop (i * blockBytes)).take blockBytes) ((i + 1) * blockBytes) false) h
  F h (input.drop (full * blockBytes)) input.length true

/-- BLAKE2b with a digest of `outlen` bytes. -/
def hash (outlen : Nat) (key data : List UInt8) : List UInt8 :=
  ((lastChain (initialChain outlen key.length) (keyBlock key ++ data)).toList.flatMap
    store64).take outlen

theorem length_flatMap_store64 (h : Vector UInt64 8)
    : (h.toList.flatMap store64).length = outBytes := by
  have width (w : UInt64) : (store64 w).length = 8 := rfl
  simp [List.length_flatMap, width]

theorem length_hash {outlen : Nat} (small : outlen ≤ outBytes) (key data : List UInt8)
    : (hash outlen key data).length = outlen := by
  rw [hash, List.length_take, length_flatMap_store64, Nat.min_eq_left small]

-----------------------------------------------------------------------------------------
-- Initialization
-----------------------------------------------------------------------------------------

theorem toUInt64_ofNat {value : Nat} (small : value < 256)
    : (UInt8.ofNat value).toUInt64 = UInt64.ofNat value := by
  apply UInt64.toNat_inj.mp
  rw [UInt8.toNat_toUInt64, UInt8.toNat_ofNat_of_lt' small, UInt64.toNat_ofNat',
    Nat.mod_eq_of_lt (by omega)]

theorem store32_zero : store32 0 = List.replicate 4 0 := by decide

theorem sequentialParam_bytes (outlen keylen : Nat)
    : (sequentialParam outlen keylen).bytes
      = [UInt8.ofNat outlen, UInt8.ofNat keylen, 1, 1] ++ List.replicate 60 0 := by
  simp only [Param.bytes, sequentialParam, store32_zero, Vector.toList_replicate]
  rfl

theorem getD_replicate_zero (count index : Nat)
    : (List.replicate count (0 : UInt8)).getD index 0 = 0 := by
  rw [List.getD_eq_getElem?_getD, List.getElem?_replicate]
  split <;> rfl

theorem load64_replicate (count : Nat) : load64 (List.replicate count 0) = 0 := by
  simp only [load64, getD_replicate_zero]
  decide

/-- The lengths, the fanout and the depth are in the first word of the parameter block. -/
theorem load64_param_first {outlen keylen : Nat} (outSmall : outlen < 256)
    (keySmall : keylen < 256)
    : load64 (sequentialParam outlen keylen).bytes
      = UInt64.ofNat outlen ||| UInt64.ofNat keylen <<< 8 ||| 0x01010000 := by
  have fanoutDepth
      : (1 : UInt8).toUInt64 <<< 16 ||| (1 : UInt8).toUInt64 <<< 24 = (0x01010000 : UInt64) := by
    decide
  have zero (count : UInt64) : (0 : UInt8).toUInt64 <<< count = 0 := UInt64.zero_shiftLeft
  rw [sequentialParam_bytes]
  simp only [load64, List.cons_append, List.nil_append, List.getD_cons_zero, List.getD_cons_succ,
    getD_replicate_zero, zero, UInt64.or_zero, UInt64.or_assoc, fanoutDepth,
    UInt64.shiftLeft_zero, toUInt64_ofNat outSmall, toUInt64_ofNat keySmall]

/-- The other words of the parameter block are zero. -/
theorem load64_param_later {outlen keylen word : Nat} (later : 0 < word)
    : load64 ((sequentialParam outlen keylen).bytes.drop (8 * word)) = 0 := by
  have behind : ([UInt8.ofNat outlen, UInt8.ofNat keylen, 1, 1] : List UInt8).length ≤ 8 * word := by
    simp only [List.length_cons, List.length_nil]
    omega
  rw [sequentialParam_bytes, List.drop_append, List.drop_of_length_le behind, List.nil_append,
    List.drop_replicate, load64_replicate]

/-- The parameter block changes the first word of the initialization vector only. -/
theorem initParam_h {outlen keylen : Nat} (outSmall : outlen < 256) (keySmall : keylen < 256)
    : (initParam (sequentialParam outlen keylen)).h = initialChain outlen keylen := by
  have vector
      : (List.range 8).foldl (fun h i => h.setIfInBounds i (iv i)) (Vector.replicate 8 0)
        = Vector.ofFn fun i => iv i :=
    Memory.foldl_range_fill iv _
  have xored := Memory.foldl_finRange_self
    (fun (i : Fin 8) word => word ^^^ load64 ((sequentialParam outlen keylen).bytes.drop (8 * i)))
    (Vector.ofFn fun i => iv i)
  simp only [initParam, init0, vector, xored]
  apply Vector.ext
  intro cell inside
  rw [initialChain, Vector.getElem_ofFn, Vector.getElem_ofFn, Memory.get_ofFn]
  rcases Nat.eq_zero_or_pos cell with rfl | later
  · rw [if_pos rfl, Nat.mul_zero, List.drop_zero, load64_param_first outSmall keySmall]
  · rw [if_neg later.ne', load64_param_later later, UInt64.xor_zero]

-----------------------------------------------------------------------------------------
-- The states of a hash
-----------------------------------------------------------------------------------------

/-- The state of a hash that started from a chaining value and has absorbed a string. -/
structure Absorbed (outlen : Nat) (h : Vector UInt64 8) (input : List UInt8) (S : State)
    : Prop where
  held : S.held = (blocks (blockFlags false)).absorb (h, counterWords 0) input
  within : S.buflen ≤ blockBytes
  f : S.f = blockFlags false
  outlen : S.outlen = outlen
  lastNode : S.lastNode = 0

variable {outlen keylen : Nat} {h : Vector UInt64 8} {input : List UInt8} {S : State}

theorem Absorbed.update (absorbed : Absorbed outlen h input S) (cx : Globals)
    (data : List UInt8)
    : Absorbed outlen h (input ++ data) (update cx S data).1 := by
  have absorbs := update_absorbs cx data absorbed.within
  refine ⟨?_, absorbs.within, absorbs.f.trans absorbed.f, absorbs.outlen.trans absorbed.outlen,
    absorbs.lastNode.trans absorbed.lastNode⟩
  rw [absorbs.held, absorbed.f, absorbed.held, Streaming.BlockFunction.absorb_append]

theorem absorbed_initParam (outSmall : outlen < 256) (keySmall : keylen < 256)
    : Absorbed outlen (initialChain outlen keylen) []
        (initParam (sequentialParam outlen keylen)) := by
  have counter : Vector.replicate 2 0 = counterWords 0 := by decide
  have flags : Vector.replicate 2 0 = blockFlags false := by decide
  have length : (initParam (sequentialParam outlen keylen)).outlen = (UInt8.ofNat outlen).toNat :=
    rfl
  refine ⟨?_, Nat.zero_le _, flags, ?_, rfl⟩
  · rw [Streaming.BlockFunction.absorb_of_le (Nat.zero_le _), ← counter,
      ← initParam_h outSmall keySmall]
    rfl
  · rw [length, UInt8.toNat_ofNat_of_lt' outSmall]

/-- `blake2b_init`. -/
theorem absorbed_init (positive : 0 < outlen) (small : outlen ≤ outBytes)
    : ∃ S, init outlen = some S ∧ Absorbed outlen (initialChain outlen 0) [] S := by
  have size : outBytes = 64 := rfl
  refine ⟨_, ?_, absorbed_initParam (by omega) (by decide)⟩
  rw [init, if_neg (by omega)]

/-- `blake2b_init_key` absorbs the key in a block of its own. -/
theorem absorbed_initKey (cx : Globals) {key : List UInt8} (positive : 0 < outlen)
    (small : outlen ≤ outBytes) (keyed : 0 < keylen) (keyFits : keylen ≤ keyBytes)
    (present : keylen ≤ key.length)
    : ∃ S,
        (initKey cx outlen key keylen).1 = some S
        ∧ Absorbed outlen (initialChain outlen keylen) (keyBlock (key.take keylen)) S := by
  have outSize : outBytes = 64 := rfl
  have keySize : keyBytes = 64 := rfl
  have length : (key.take keylen).length = keylen := by
    rw [List.length_take, Nat.min_eq_left present]
  have given : key.take keylen ≠ [] := List.ne_nil_of_length_pos (by omega)
  have block
      : (Memory.copy (Bytes.zero blockBytes) (key.take keylen)).toList
        = keyBlock (key.take keylen) := by
    have fits : (key.take keylen).length ≤ blockBytes := by
      have size : blockBytes = 128 := rfl
      omega
    rw [Memory.toList_copy _ fits, Vector.toList_replicate, List.drop_replicate, keyBlock,
      if_neg given]
  refine ⟨_, ?_, (absorbed_initParam (by omega) (by omega)).update
    { cx with
      block1 := Memory.copy (Bytes.zero blockBytes) (key.take keylen) } (keyBlock (key.take keylen))⟩
  rw [initKey, if_neg (by omega), if_neg (by omega), ← block]

/-- All blocks of a string but the last one. -/
theorem foldl_blocks (h : Vector UInt64 8) (block : Nat → List UInt8) (count : Nat)
    : (List.range count).foldl
        (fun chained i => (blocks (blockFlags false)).step chained (block i)) (h, counterWords 0)
      = ((List.range count).foldl (fun h i => F h (block i) ((i + 1) * blockBytes) false) h,
          counterWords (count * blockBytes)) := by
  induction count with
  | zero => rw [Nat.zero_mul, List.range_zero, List.foldl_nil, List.foldl_nil]
  | succ count ih =>
      have counted
          : advance (counterWords (count * blockBytes)) 128
            = counterWords ((count + 1) * blockBytes) := by
        rw [advance_counterWords, Nat.succ_mul]
        rfl
      rw [List.range_succ, List.foldl_append, List.foldl_append, ih]
      simp only [List.foldl_cons, List.foldl_nil, blocks, counted, F]

/-- The counter and the bytes in the buffer add up to the length of the input. -/
theorem Absorbed.counter (absorbed : Absorbed outlen h input S)
    : advance S.t (UInt64.ofNat S.buflen) = counterWords input.length := by
  have blockSize : blockBytes = 128 := rfl
  have within := absorbed.within
  have held := absorbed.held
  rw [Streaming.BlockFunction.absorb_eq, foldl_blocks] at held
  have kept : S.held.2.length = S.buflen := length_held within
  have before := (blocks (blockFlags false)).fullBlocks_mul_le input.length
  have size : (blocks (blockFlags false)).size = blockBytes := rfl
  rw [size] at before held
  rw [held, List.length_drop] at kept
  have counted : S.t = counterWords _ := congrArg (fun held => held.1.2) held
  rw [counted, advance_counterWords, UInt64.toNat_ofNat_of_lt' (by rw [UInt64.size]; omega)]
  congr 1
  omega

/-- The buffer at the end holds the last block of the input. -/
theorem Absorbed.last (absorbed : Absorbed outlen h input S)
    : mix S.h (advance S.t (UInt64.ofNat S.buflen)) (blockFlags true)
        (Memory.copy (Bytes.zero blockBytes) S.held.2)
      = lastChain h input := by
  have held := absorbed.held
  rw [Streaming.BlockFunction.absorb_eq, foldl_blocks] at held
  have value : S.h = _ := congrArg (fun held => held.1.1) held
  rw [absorbed.counter, value, held]
  rfl

/-- The loop that stores the chaining value fills the buffer. -/
theorem output_loop (h : Vector UInt64 8) (buffer : Bytes outBytes)
    : (List.finRange 8).foldl
        (fun buffer (i : Fin 8) => Memory.writeAt buffer (8 * i) (store64 (h.get i))) buffer
      = Memory.copy buffer (h.toList.flatMap store64) := by
  have words : h.toList = (List.range 8).map fun i => h.toList.getD i 0 := by
    apply List.ext_getElem
    · simp
    · intro index left right
      rw [List.getElem_map, List.getElem_range, List.getD_eq_getElem _ _ left]
  have stored (i : Fin 8) : h.get i = h.toList.getD i.val 0 := by
    rw [List.getD_eq_getElem _ _ (by simp)]
    rfl
  have indices : List.range 8 = (List.finRange 8).map Fin.val :=
    List.map_coe_finRange_eq_range.symm
  rw [words, List.flatMap_map,
    ← Memory.foldl_writeAt_blocks 8 8 (fun i => store64 (h.toList.getD i 0)) (fun _ => rfl) buffer,
    indices, List.foldl_map]
  simp only [stored]

/-- `blake2b_final` writes the hash of all input. -/
theorem Absorbed.final {size : Nat} (absorbed : Absorbed outlen h input S) (cx : Globals)
    (out : Bytes size) {room : Nat} (fits : outlen ≤ room)
    : (final cx S out room).1
      = some (Memory.copy out ((lastChain h input).toList.flatMap store64 |>.take outlen)) := by
  have notLast : isLastblock S = false := by
    rw [isLastblock, absorbed.f]
    decide
  have flags : (blockFlags false).setIfInBounds 0 (0 - 1) = blockFlags true := by decide
  have padded
      : Memory.writeAt S.buf S.buflen (List.replicate (blockBytes - S.buflen) 0)
        = Memory.copy (Bytes.zero blockBytes) S.held.2 := by
    have within := absorbed.within
    have held : S.held.2.length ≤ blockBytes := (length_held within).trans_le within
    have whole := Memory.take_writeAt S.buf S.buflen (List.replicate (blockBytes - S.buflen) 0)
      (by rw [List.length_replicate]; omega)
    apply Vector.toList_inj.mp
    rw [Memory.toList_copy _ held, length_held within, Vector.toList_replicate,
      List.drop_replicate]
    rwa [List.length_replicate, Nat.add_sub_cancel' within,
      List.take_of_length_le (by simp)] at whole
  rw [Blake2b.final, absorbed.outlen, if_neg (by omega), notLast, if_neg Bool.false_ne_true]
  simp only [incrementCounter_eq, setLastblock, absorbed.lastNode, ne_eq, not_true_eq_false,
    if_false, absorbed.f, flags, compress_eq, padded, absorbed.last, absorbed.outlen]
  rw [output_loop, Memory.toList_copy_of_length_eq _ _ (length_flatMap_store64 _)]

-----------------------------------------------------------------------------------------
-- Whole computations
-----------------------------------------------------------------------------------------

/-- The whole computation in one call, keyed or not. -/
theorem blake2b_eq_hash {size : Nat} (cx : Globals) {key : List UInt8} (positive : 0 < outlen)
    (small : outlen ≤ outBytes) (keyFits : key.length ≤ keyBytes) (data : List UInt8)
    (out : Bytes size)
    : (blake2b cx out outlen data key key.length).1
      = some (Memory.copy out (hash outlen key data)) := by
  have finished {S : State} (cx : Globals)
      (absorbed : Absorbed outlen (initialChain outlen key.length) (keyBlock key) S)
      : (Blake2b.final (update cx S data).2 (update cx S data).1 out outlen).1
        = some (Memory.copy out (hash outlen key data)) :=
    (absorbed.update cx data).final (update cx S data).2 out (Nat.le_refl outlen)
  rw [blake2b, if_neg (by omega), if_neg (by omega)]
  rcases Nat.eq_zero_or_pos key.length with empty | keyed
  · obtain ⟨S, started, absorbed⟩ := absorbed_init positive small
    have unkeyed : keyBlock key = [] := if_pos (List.length_eq_zero_iff.mp empty)
    rw [← empty, ← unkeyed] at absorbed
    simp only [if_neg (by omega : ¬ key.length > 0), started, finished cx absorbed,
      Option.getD_some]
  · obtain ⟨S, started, absorbed⟩ :=
      absorbed_initKey cx positive small keyed keyFits (Nat.le_refl key.length)
    rw [List.take_length] at absorbed
    simp only [if_pos (by omega : key.length > 0), started, finished _ absorbed,
      Option.getD_some]

theorem blake2b_eq_hash_sample
    : (blake2b .start (Bytes.zero 40) 32 [1, 2] messageSigningKey messageSigningKey.length).1
      = some (Memory.copy (Bytes.zero 40) (hash 32 messageSigningKey [1, 2])) :=
  blake2b_eq_hash .start (by decide) (by decide) (by decide) [1, 2] (Bytes.zero 40)

end KaspaApp.Blake2b
