import KaspaApp.Model.Sighash

/-! The byte strings that the functions of `sighash.c` absorb. The scratch buffers disappear:
each string is a concatenation of fields, for every transaction and every memory behind it.
-/

namespace KaspaApp

open FixedWidth

variable {target : Target} {size : Nat} (blake2b : List UInt8 → List UInt8 → Bytes 32)
  (stray : Stray) (tx : Transaction target)

/-- The state after some more bytes. -/
def HashState.absorb (hash : HashState) (data : List UInt8) : HashState :=
  { hash with absorbed := hash.absorbed ++ data }

theorem HashState.absorb_absorb (hash : HashState) (first second : List UInt8)
    : (hash.absorb first).absorb second = hash.absorb (first ++ second) := by
  rw [absorb, absorb, absorb, List.append_assoc]

/-- The state of a signature hash that has absorbed some bytes. -/
def signingState (absorbed : List UInt8) : HashState :=
  { outLen := 32, key := signingKey, absorbed := absorbed }

theorem hashInit_signing : hashInit 256 signingKey 22 = some (signingState []) := rfl

theorem signingState_absorb (absorbed data : List UInt8)
    : (signingState absorbed).absorb data = signingState (absorbed ++ data) :=
  rfl

theorem hashUpdate_bind {Result : Type} (hash : HashState) (data : List UInt8)
    (next : HashState → Option Result)
    : (hashUpdate hash data >>= next) = next (hash.absorb data) :=
  rfl

/-- Finalising writes the digest to the start of the output buffer. -/
theorem hashFinalize_signing (absorbed : List UInt8) (out : Bytes size) {outLen : Nat}
    (room : 32 ≤ outLen)
    : hashFinalize blake2b (signingState absorbed) out outLen
      = some (Memory.copy out (blake2b signingKey absorbed).toList) := by
  have whole
      : (blake2b signingKey absorbed).toList.take 32 = (blake2b signingKey absorbed).toList :=
    List.take_of_length_le (by simp)
  rw [hashFinalize, if_neg (by omega), if_neg (by simp [signingState])]
  simp only [signingState, whole]

/-- What was just copied to the start of a scratch buffer is what the next update takes. -/
theorem take_scratch (buffer : Bytes size) {data : List UInt8} {count : Nat}
    (length : data.length = count) (fits : count ≤ size)
    : (Memory.copy buffer data).toList.take count = data := by
  rw [← length]
  exact Memory.take_copy buffer data (by omega)

/-- A loop whose rounds absorb the bytes of their index absorbs all of them, in order. -/
theorem foldlM_absorb
    {round : HashState × Bytes 32 → Nat → Option (HashState × Bytes 32)}
    (bytes : Nat → List UInt8)
    (rounds
      : ∀ hash buffer i, ∃ left, round (hash, buffer) i = some (hash.absorb (bytes i), left))
    (indices : List Nat) (absorbed : List UInt8) (buffer : Bytes 32)
    : ∃ left,
        indices.foldlM round (signingState absorbed, buffer)
        = some (signingState (absorbed ++ indices.flatMap bytes), left) := by
  induction indices generalizing absorbed buffer with
  | nil => exact ⟨buffer, by simp [pure]⟩
  | cons index indices ih =>
      obtain ⟨between, first⟩ := rounds (signingState absorbed) buffer index
      obtain ⟨left, rest⟩ := ih (absorbed ++ bytes index) between
      refine ⟨left, ?_⟩
      rw [List.foldlM_cons, first, Option.bind_eq_bind, Option.bind_some, signingState_absorb, rest,
        List.flatMap_cons, List.append_assoc]

/-- A hash over one loop of rounds. -/
theorem hashLoop_eq
    {round : HashState × Bytes 32 → Nat → Option (HashState × Bytes 32)}
    (bytes : Nat → List UInt8)
    (rounds
      : ∀ hash buffer i, ∃ left, round (hash, buffer) i = some (hash.absorb (bytes i), left))
    (count : Nat) (out : Bytes size) {outLen : Nat} (room : 32 ≤ outLen)
    : (do
        let hash ← hashInit 256 signingKey 22
        let (hash, _) ← (List.range count).foldlM round (hash, Bytes.zero 32)
        hashFinalize blake2b hash out outLen)
      = some (Memory.copy out
          (blake2b signingKey ((List.range count).flatMap bytes)).toList) := by
  obtain ⟨left, loop⟩ := foldlM_absorb bytes rounds (List.range count) [] (Bytes.zero 32)
  rw [hashInit_signing, Option.bind_eq_bind, Option.bind_some, loop]
  exact hashFinalize_signing blake2b _ out room

/-- The fields of an input that each nested hash absorbs. -/
def outpointBytes (txin : TransactionInput) : List UInt8 :=
  txin.txId.toList ++ littleEndian 4 txin.index.toNat

def sequenceBytes (txin : TransactionInput) : List UInt8 := littleEndian 8 txin.sequence.toNat

/-- The script bytes that `calc_outputs_hash` takes from a slot. -/
def committedScript (stray : Stray) (txout : TransactionOutput) : List UInt8 :=
  Memory.readBlock txout.scriptPublicKey stray.script (scriptLen txout.scriptPublicKey).toNat

/-- The value, the script version, the length of the script and the script of an output. -/
def outputBytes (value : UInt64) (script : List UInt8) : List UInt8 :=
  littleEndian 8 value.toNat ++ littleEndian 2 0 ++ littleEndian 8 script.length ++ script

/-- The inputs and outputs that the loops visit. -/
def Transaction.visitedInputs (tx : Transaction target) (stray : Stray) : List TransactionInput :=
  (List.range tx.txInputLen.toNat).map (tx.input stray)

def Transaction.visitedOutputs (tx : Transaction target) (stray : Stray)
    : List TransactionOutput :=
  (List.range tx.txOutputLen.toNat).map (tx.output stray)

theorem calcPrevOutputsHash_eq (out : Bytes size) {outLen : Nat} (room : 32 ≤ outLen)
    : calcPrevOutputsHash blake2b stray tx out outLen
      = some (Memory.copy out
          (blake2b signingKey ((tx.visitedInputs stray).flatMap outpointBytes)).toList) := by
  rw [Transaction.visitedInputs, List.flatMap_map]
  refine hashLoop_eq blake2b _ (fun hash buffer i => ?_) _ out room
  simp only [prevOutputsRound, hashUpdate_bind, HashState.absorb_absorb,
    take_scratch _ (length_littleEndian 4 _) (by decide : 4 ≤ 32)]
  exact ⟨_, rfl⟩

theorem calcSequencesHash_eq (out : Bytes size) {outLen : Nat} (room : 32 ≤ outLen)
    : calcSequencesHash blake2b stray tx out outLen
      = some (Memory.copy out
          (blake2b signingKey ((tx.visitedInputs stray).flatMap sequenceBytes)).toList) := by
  rw [Transaction.visitedInputs, List.flatMap_map]
  refine hashLoop_eq blake2b _ (fun hash buffer i => ?_) _ out room
  simp only [sequencesRound, hashUpdate_bind,
    take_scratch _ (length_littleEndian 8 _) (by decide : 8 ≤ 32)]
  exact ⟨_, rfl⟩

theorem calcSigOpCountHash_eq (out : Bytes size) {outLen : Nat} (room : 32 ≤ outLen)
    : calcSigOpCountHash blake2b tx out outLen
      = some (Memory.copy out
          (blake2b signingKey ((tx.visitedInputs stray).flatMap fun _ => [1])).toList) := by
  rw [Transaction.visitedInputs, List.flatMap_map]
  refine hashLoop_eq blake2b _ (fun hash buffer i => ?_) _ out room
  simp only [sigOpCountRound, hashUpdate_bind,
    take_scratch buffer (List.length_singleton) (by decide : 1 ≤ 32)]
  exact ⟨_, rfl⟩

theorem calcOutputsHash_eq (out : Bytes size) {outLen : Nat} (room : 32 ≤ outLen)
    : calcOutputsHash blake2b stray tx out outLen
      = some (Memory.copy out
          (blake2b signingKey ((tx.visitedOutputs stray).flatMap fun txout =>
            outputBytes txout.value (committedScript stray txout))).toList) := by
  have version : (Bytes.zero 32).toList.take 2 = littleEndian 2 0 := rfl
  rw [Transaction.visitedOutputs, List.flatMap_map]
  refine hashLoop_eq blake2b _ (fun hash buffer i => ?_) _ out room
  simp only [outputsRound, hashUpdate_bind, version, HashState.absorb_absorb,
    take_scratch _ (length_littleEndian 8 _) (by decide : 8 ≤ 32), outputBytes, committedScript,
    Memory.length_readBlock]
  exact ⟨_, rfl⟩

/-- What `calc_sighash` absorbs, for the lists of inputs and of values and scripts that its
loops visit. The digests of the nested hashes come from `digest`.
-/
def sighashPreimage (digest : List UInt8 → Bytes 32) (version : UInt16)
    (inputs : List TransactionInput) (outputs : List (UInt64 × List UInt8))
    (txin : TransactionInput) (publicKey : Bytes 32)
    : List UInt8 :=
  littleEndian 2 version.toNat
  ++ (digest (inputs.flatMap outpointBytes)).toList
  ++ (digest (inputs.flatMap sequenceBytes)).toList
  ++ (digest (inputs.flatMap fun _ => [1])).toList
  ++ txin.txId.toList ++ littleEndian 4 txin.index.toNat ++ littleEndian 2 0
  ++ littleEndian 8 34 ++ ([0x20] ++ publicKey.toList ++ [opCheckSig])
  ++ littleEndian 8 txin.value.toNat ++ littleEndian 8 txin.sequence.toNat ++ [1]
  ++ (digest (outputs.flatMap fun output => outputBytes output.1 output.2)).toList
  ++ List.replicate 8 0 ++ List.replicate 20 0 ++ List.replicate 8 0 ++ List.replicate 32 0
  ++ [1]

/-- The values and committed scripts of the visited outputs. -/
def Transaction.committedOutputs (tx : Transaction target) (stray : Stray)
    : List (UInt64 × List UInt8) :=
  (tx.visitedOutputs stray).map fun txout => (txout.value, committedScript stray txout)

theorem some_bind {Value Result : Type} (value : Value) (next : Value → Option Result)
    : (some value >>= next) = next value :=
  rfl

/-- `calc_sighash` succeeds, and hashes the preimage. -/
theorem calcSighash_eq (txin : TransactionInput) (publicKey outHash : Bytes 32) {outLen : Nat}
    (room : 32 ≤ outLen)
    : calcSighash blake2b stray tx txin publicKey outHash outLen
      = some (blake2b signingKey
          (sighashPreimage (blake2b signingKey) tx.version (tx.visitedInputs stray)
            (tx.committedOutputs stray) txin publicKey)) := by
  have cleared {count : Nat} (fits : count ≤ 36)
      : (Bytes.zero 36).toList.take count = List.replicate count 0 :=
    Memory.take_replicate_toList 0 fits
  have digestLength (data : List UInt8) : (blake2b signingKey data).toList.length = 32 := by simp
  have script (buffer : Bytes 36)
      : calcTxinScriptPublicKey publicKey buffer 36
        = some (Memory.copy buffer ([0x20] ++ publicKey.toList ++ [opCheckSig])) :=
    rfl
  have scriptLength : ([0x20] ++ publicKey.toList ++ [opCheckSig]).length = 34 := by simp
  have scriptCount : (34 : UInt64).toNat = 34 := rfl
  rw [calcSighash, if_neg (by omega)]
  simp only [hashInit_signing, some_bind, hashUpdate_bind, signingState_absorb, List.nil_append,
    calcPrevOutputsHash_eq blake2b stray tx _ (by decide : 32 ≤ 36),
    calcSequencesHash_eq blake2b stray tx _ (by decide : 32 ≤ 36),
    calcSigOpCountHash_eq blake2b stray tx _ (by decide : 32 ≤ 36),
    calcOutputsHash_eq blake2b stray tx _ (by decide : 32 ≤ 36), script, scriptCount,
    take_scratch _ (length_littleEndian 2 _) (by decide : 2 ≤ 36),
    take_scratch _ (length_littleEndian 4 _) (by decide : 4 ≤ 36),
    take_scratch _ (length_littleEndian 8 _) (by decide : 8 ≤ 36),
    take_scratch _ (digestLength _) (by decide : 32 ≤ 36),
    take_scratch _ scriptLength (by decide : 34 ≤ 36),
    take_scratch _ (List.length_singleton) (by decide : 1 ≤ 36),
    cleared (by decide : 2 ≤ 36), cleared (by decide : 8 ≤ 36), cleared (by decide : 20 ≤ 36),
    cleared (by decide : 32 ≤ 36), hashFinalize_signing blake2b _ outHash room]
  rw [Memory.copy_toList]
  simp only [sighashPreimage, Transaction.committedOutputs, List.flatMap_map]
  rfl

/-- `hash_personal_message` succeeds, and hashes the message. -/
theorem hashPersonalMessage_eq (message : List UInt8) (outHash : Bytes 32) {outLen : Nat}
    (room : 32 ≤ outLen)
    : hashPersonalMessage blake2b message outHash outLen
      = some (blake2b messageSigningKey message) := by
  have whole
      : (blake2b messageSigningKey message).toList.take 32
        = (blake2b messageSigningKey message).toList :=
    List.take_of_length_le (by simp)
  have begun
      : hashInit 256 messageSigningKey 26
        = some { outLen := 32, key := messageSigningKey, absorbed := [] } :=
    rfl
  rw [hashPersonalMessage, if_neg (by omega)]
  simp only [begun, some_bind, hashUpdate_bind, HashState.absorb, List.nil_append, hashFinalize,
    if_neg (by omega : ¬ outLen < 32), if_neg (by decide : ¬ 32 < 32), whole, Memory.copy_toList]

end KaspaApp
