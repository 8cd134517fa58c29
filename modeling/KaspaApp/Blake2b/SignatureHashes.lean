import KaspaApp.Blake2b.Contexts
import KaspaApp.Hashing.Preimages
import KaspaApp.Library.Attempts
import KaspaApp.Model.HashWriters

/-! The hashes of `sighash.c` and `personal_message.c`, run on the hash states of `blake2b.c` and
the scratch that they share, are the ones over BLAKE2b as a function of key and data.
-/

namespace KaspaApp.Blake2b

open FixedWidth Attempts

/-- Keyed BLAKE2b-256. -/
def keyedHash (key data : List UInt8) : Bytes 32 :=
  Memory.copy (Bytes.zero 32) (hash 32 key data)

theorem toList_keyedHash (key data : List UInt8)
    : (keyedHash key data).toList = hash 32 key data :=
  Memory.toList_copy_of_length_eq _ _ (length_hash (by decide) key data)

/-- A hash state that has absorbed a key of the application and some bytes. -/
def Hashes (key absorbed : List UInt8) (hash : State) : Prop :=
  Absorbed 32 (initialChain 32 key.length) (keyBlock key ++ absorbed) hash

variable {key absorbed : List UInt8} {hash : State} {size outLen : Nat}

theorem hashInit_eq (key : List UInt8) (keyLen : Nat)
    : hashInit 256 key keyLen = OptionT.mk fun cx => initKey cx 32 key keyLen := by
  rw [hashInit, if_neg (by decide)]

theorem hashInit_succeeds {keyLen : Nat} (length : key.length = keyLen) (keyed : 0 < keyLen)
    (fits : keyLen ≤ keyBytes)
    : Succeeds (hashInit 256 key keyLen) (Hashes key []) := by
  subst length
  intro cx
  obtain ⟨started, ran, begun⟩
      : ∃ started, (initKey cx 32 key key.length).1 = some started
          ∧ Absorbed 32 (initialChain 32 key.length) (keyBlock (key.take key.length)) started :=
    absorbed_initKey cx (by decide) (by decide) keyed fits (Nat.le_refl _)
  rw [List.take_length] at begun
  rw [hashInit_eq]
  refine ⟨started, (initKey cx 32 key key.length).2, Prod.ext ran rfl, ?_⟩
  rw [Hashes, List.append_nil]
  exact begun

theorem hashUpdate_succeeds (hashes : Hashes key absorbed hash) (data : List UInt8)
    : Succeeds (hashUpdate hash data) (Hashes key (absorbed ++ data)) := by
  intro cx
  refine ⟨(update cx hash data).1, (update cx hash data).2, rfl, ?_⟩
  rw [Hashes, ← List.append_assoc]
  exact Absorbed.update hashes cx data

theorem hashFinalize_succeeds (hashes : Hashes key absorbed hash) (out : Bytes size)
    (room : 32 ≤ outLen)
    : Succeeds (hashFinalize hash out outLen)
        (· = Memory.copy out (keyedHash key absorbed).toList) := by
  intro cx
  have written := Absorbed.final hashes cx out (Nat.le_refl 32)
  refine ⟨_, (final cx hash out 32).2.2, ?_, rfl⟩
  rw [hashFinalize, if_neg (by omega), toList_keyedHash]
  exact Prod.ext written rfl

/-- A hash over one loop whose rounds absorb the bytes of their index. -/
theorem hashLoop_succeeds
    {round : State × Bytes 32 → Nat → Hashing (State × Bytes 32)} (bytes : Nat → List UInt8)
    (rounds
      : ∀ {absorbed : List UInt8} {hash : State} (buffer : Bytes 32) (i : Nat),
          Hashes signingKey absorbed hash
          → Succeeds (round (hash, buffer) i)
              fun loop => Hashes signingKey (absorbed ++ bytes i) loop.1)
    (count : Nat) (out : Bytes size) (room : 32 ≤ outLen)
    : Succeeds
        (do
          let hash ← hashInit 256 signingKey 22
          let (hash, _) ← (List.range count).foldlM round (hash, Bytes.zero 32)
          hashFinalize hash out outLen)
        (· = Memory.copy out
          (keyedHash signingKey ((List.range count).flatMap bytes)).toList) := by
  refine (hashInit_succeeds rfl (by decide) (by decide)).bind fun hash begun => ?_
  let absorbs (done : List Nat) (loop : State × Bytes 32) : Prop :=
    Hashes signingKey (done.flatMap bytes) loop.1
  have kept (done : List Nat) (i : Nat) (loop : State × Bytes 32) (hashes : absorbs done loop)
      : Succeeds (round loop i) (absorbs (done ++ [i])) := by
    simp only [absorbs, List.flatMap_append, List.flatMap_singleton]
    exact rounds loop.2 i hashes
  have start : absorbs [] (hash, Bytes.zero 32) := begun
  have looped := Succeeds.foldlM absorbs kept start (List.range count)
  rw [List.nil_append] at looped
  exact looped.bind fun loop hashes => hashFinalize_succeeds hashes out room

-----------------------------------------------------------------------------------------
-- The nested hashes
-----------------------------------------------------------------------------------------

section

variable {target : Target} (stray : Stray) (tx : Transaction target) (out : Bytes size)

theorem calcPrevOutputsHash_succeeds (room : 32 ≤ outLen)
    : Succeeds (calcPrevOutputsHash stray tx out outLen)
        (· = Memory.copy out
          (keyedHash signingKey ((tx.visitedInputs stray).flatMap outpointBytes)).toList) := by
  rw [Transaction.visitedInputs, List.flatMap_map]
  refine hashLoop_succeeds _ (fun buffer i hashes => ?_) _ out room
  refine (hashUpdate_succeeds hashes _).bind fun _ hashes => ?_
  refine (hashUpdate_succeeds hashes _).bind fun _ hashes => succeeds_pure ?_
  rwa [take_scratch _ (length_littleEndian 4 _) (by decide : 4 ≤ 32), List.append_assoc]
    at hashes

theorem calcSequencesHash_succeeds (room : 32 ≤ outLen)
    : Succeeds (calcSequencesHash stray tx out outLen)
        (· = Memory.copy out
          (keyedHash signingKey ((tx.visitedInputs stray).flatMap sequenceBytes)).toList) := by
  rw [Transaction.visitedInputs, List.flatMap_map]
  refine hashLoop_succeeds _ (fun buffer i hashes => ?_) _ out room
  refine (hashUpdate_succeeds hashes _).bind fun _ hashes => succeeds_pure ?_
  rwa [take_scratch _ (length_littleEndian 8 _) (by decide : 8 ≤ 32)] at hashes

theorem calcSigOpCountHash_succeeds (room : 32 ≤ outLen)
    : Succeeds (calcSigOpCountHash tx out outLen)
        (· = Memory.copy out
          (keyedHash signingKey ((tx.visitedInputs stray).flatMap fun _ => [1])).toList) := by
  rw [Transaction.visitedInputs, List.flatMap_map]
  refine hashLoop_succeeds _ (fun buffer i hashes => ?_) _ out room
  refine (hashUpdate_succeeds hashes _).bind fun _ hashes => succeeds_pure ?_
  rwa [take_scratch buffer List.length_singleton (by decide : 1 ≤ 32)] at hashes

theorem calcOutputsHash_succeeds (room : 32 ≤ outLen)
    : Succeeds (calcOutputsHash stray tx out outLen)
        (· = Memory.copy out
          (keyedHash signingKey ((tx.visitedOutputs stray).flatMap fun txout =>
            outputBytes txout.value (committedScript stray txout))).toList) := by
  have version : (Bytes.zero 32).toList.take 2 = littleEndian 2 0 := rfl
  rw [Transaction.visitedOutputs, List.flatMap_map]
  refine hashLoop_succeeds _ (fun buffer i hashes => ?_) _ out room
  refine (hashUpdate_succeeds hashes _).bind fun _ hashes => ?_
  refine (hashUpdate_succeeds hashes _).bind fun _ hashes => ?_
  refine (hashUpdate_succeeds hashes _).bind fun _ hashes => ?_
  refine (hashUpdate_succeeds hashes _).bind fun _ hashes => succeeds_pure ?_
  simp only [take_scratch _ (length_littleEndian 8 _) (by decide : 8 ≤ 32), version,
    List.append_assoc] at hashes
  simpa only [outputBytes, committedScript, Memory.length_readBlock, List.append_assoc]
    using hashes

end

-----------------------------------------------------------------------------------------
-- Whole hashes
-----------------------------------------------------------------------------------------

/-- `calc_sighash` hashes the preimage, from any scratch. The states of the nested hashes come and
go between two updates of the outer one.
-/
theorem calcSighash_succeeds {target : Target} (stray : Stray) (tx : Transaction target)
    (txin : TransactionInput) (publicKey outHash : Bytes 32) (room : 32 ≤ outLen)
    : Succeeds (calcSighash stray tx txin publicKey outHash outLen)
        (· = keyedHash signingKey
          (sighashPreimage (keyedHash signingKey) tx.version (tx.visitedInputs stray)
            (tx.committedOutputs stray) txin publicKey)) := by
  have cleared {count : Nat} (fits : count ≤ 36)
      : (Bytes.zero 36).toList.take count = List.replicate count 0 :=
    Memory.take_replicate_toList 0 fits
  have digestLength (data : List UInt8) : (keyedHash signingKey data).toList.length = 32 := by
    simp
  have script (buffer : Bytes 36)
      : calcTxinScriptPublicKey publicKey buffer 36
        = some (Memory.copy buffer ([0x20] ++ publicKey.toList ++ [opCheckSig])) :=
    rfl
  have scriptLength : ([0x20] ++ publicKey.toList ++ [opCheckSig]).length = 34 := by simp
  have scriptCount : (34 : UInt64).toNat = 34 := rfl
  rw [calcSighash, if_neg (by omega)]
  refine (hashInit_succeeds rfl (by decide) (by decide)).bind fun _ hashes => ?_
  refine (hashUpdate_succeeds hashes _).bind fun _ hashes => ?_
  refine (calcPrevOutputsHash_succeeds stray tx _ (by decide)).bind fun _ outpoints => ?_
  refine (hashUpdate_succeeds hashes _).bind fun _ hashes => ?_
  refine (calcSequencesHash_succeeds stray tx _ (by decide)).bind fun _ sequences => ?_
  refine (hashUpdate_succeeds hashes _).bind fun _ hashes => ?_
  refine (calcSigOpCountHash_succeeds stray tx _ (by decide)).bind fun _ counts => ?_
  refine (hashUpdate_succeeds hashes _).bind fun _ hashes => ?_
  -- the outpoint, the script version and the length of the script
  refine (hashUpdate_succeeds hashes _).bind fun _ hashes => ?_
  refine (hashUpdate_succeeds hashes _).bind fun _ hashes => ?_
  refine (hashUpdate_succeeds hashes _).bind fun _ hashes => ?_
  refine (hashUpdate_succeeds hashes _).bind fun _ hashes => ?_
  rw [script]
  refine (succeeds_mk rfl).bind fun _ written => ?_
  refine (hashUpdate_succeeds hashes _).bind fun _ hashes => ?_
  -- the value, the sequence and the count of the input
  refine (hashUpdate_succeeds hashes _).bind fun _ hashes => ?_
  refine (hashUpdate_succeeds hashes _).bind fun _ hashes => ?_
  refine (hashUpdate_succeeds hashes _).bind fun _ hashes => ?_
  refine (calcOutputsHash_succeeds stray tx _ (by decide)).bind fun _ outputs => ?_
  refine (hashUpdate_succeeds hashes _).bind fun _ hashes => ?_
  -- the fields that are zero, and the type
  refine (hashUpdate_succeeds hashes _).bind fun _ hashes => ?_
  refine (hashUpdate_succeeds hashes _).bind fun _ hashes => ?_
  refine (hashUpdate_succeeds hashes _).bind fun _ hashes => ?_
  refine (hashUpdate_succeeds hashes _).bind fun _ hashes => ?_
  refine (hashUpdate_succeeds hashes _).bind fun _ hashes => ?_
  subst outpoints sequences counts written outputs
  simp only [scriptCount, List.nil_append,
    take_scratch _ (length_littleEndian 2 _) (by decide : 2 ≤ 36),
    take_scratch _ (length_littleEndian 4 _) (by decide : 4 ≤ 36),
    take_scratch _ (length_littleEndian 8 _) (by decide : 8 ≤ 36),
    take_scratch _ (digestLength _) (by decide : 32 ≤ 36),
    take_scratch _ scriptLength (by decide : 34 ≤ 36),
    take_scratch _ (List.length_singleton) (by decide : 1 ≤ 36),
    cleared (by decide : 2 ≤ 36), cleared (by decide : 8 ≤ 36), cleared (by decide : 20 ≤ 36),
    cleared (by decide : 32 ≤ 36)] at hashes
  have finished := hashFinalize_succeeds hashes outHash room
  have version : List.replicate 2 (0 : UInt8) = littleEndian 2 0 := rfl
  rw [Memory.copy_toList, version] at finished
  simpa only [sighashPreimage, Transaction.committedOutputs, List.flatMap_map] using finished

/-- `calc_sighash` over the contexts of `blake2b.c` is `calc_sighash` over keyed BLAKE2b, whatever
the scratch holds.
-/
theorem calcSighash_refines {target : Target} (stray : Stray) (tx : Transaction target)
    (txin : TransactionInput) (publicKey outHash : Bytes 32) (outLen : Nat) (cx : Globals)
    : ((calcSighash stray tx txin publicKey outHash outLen).run cx).1
      = KaspaApp.calcSighash keyedHash stray tx txin publicKey outHash outLen := by
  rcases Nat.lt_or_ge outLen 32 with short | room
  · rw [calcSighash, if_pos short, KaspaApp.calcSighash, if_pos short]
    rfl
  · obtain ⟨digest, left, ran, rfl⟩ :=
      calcSighash_succeeds stray tx txin publicKey outHash room cx
    rw [ran, calcSighash_eq keyedHash stray tx txin publicKey outHash room]

theorem hashPersonalMessage_succeeds (message : List UInt8) (outHash : Bytes 32)
    (room : 32 ≤ outLen)
    : Succeeds (hashPersonalMessage message outHash outLen)
        (· = keyedHash messageSigningKey message) := by
  rw [hashPersonalMessage, if_neg (by omega)]
  refine (hashInit_succeeds rfl (by decide) (by decide)).bind fun _ hashes => ?_
  refine (hashUpdate_succeeds hashes _).bind fun _ hashes => ?_
  have finished := hashFinalize_succeeds hashes outHash room
  rwa [Memory.copy_toList, List.nil_append] at finished

/-- `hash_personal_message` is keyed BLAKE2b of the message. -/
theorem hashPersonalMessage_refines (message : List UInt8) (outHash : Bytes 32) (outLen : Nat)
    (cx : Globals)
    : ((hashPersonalMessage message outHash outLen).run cx).1
      = KaspaApp.hashPersonalMessage keyedHash message outHash outLen := by
  rcases Nat.lt_or_ge outLen 32 with short | room
  · rw [hashPersonalMessage, if_pos short, KaspaApp.hashPersonalMessage, if_pos short]
    rfl
  · obtain ⟨digest, left, ran, rfl⟩ := hashPersonalMessage_succeeds message outHash room cx
    rw [ran, hashPersonalMessage_eq keyedHash message outHash room]

end KaspaApp.Blake2b
