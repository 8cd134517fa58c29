import KaspaApp.Library.FixedWidth
import KaspaApp.Model.Types

/-! The signature hash of `sighash.c` and the message hash of `personal_message.c`, over a
keyed BLAKE2b that is a function of its key and of the bytes absorbed. The two scratch
buffers are state of the computation, cleared and overwritten where the source does so.
-/

namespace KaspaApp

/-- What a `blake2b_state` determines: its digest length, its key and the bytes absorbed. -/
structure HashState where
  outLen : Nat
  key : List UInt8
  absorbed : List UInt8

/-- `blake2b_init_key`. -/
def blake2bInitKey (outLen : Nat) (key : List UInt8) (keyLen : Nat) : Option HashState :=
  if outLen = 0 ∨ outLen > 64 then none
  else if keyLen = 0 ∨ keyLen > 64 then none
  else some { outLen := outLen, key := key.take keyLen, absorbed := [] }

/-- `hash_init`, for a key that is never null. -/
def hashInit (size : Nat) (key : List UInt8) (keyLen : Nat) : Option HashState :=
  if size % 8 ≠ 0 ∨ size < 8 ∨ size > 512 then none
  else blake2bInitKey (size / 8) key keyLen

/-- `hash_update`, which always succeeds. -/
def hashUpdate (hash : HashState) (data : List UInt8) : Option HashState :=
  some { hash with absorbed := hash.absorbed ++ data }

/-- `hash_finalize`: the digest replaces the start of the output buffer. -/
def hashFinalize {size : Nat} (blake2b : List UInt8 → List UInt8 → Bytes 32)
    (hash : HashState) (out : Bytes size) (outLen : Nat)
    : Option (Bytes size) :=
  if outLen < 32 then none
  else if 32 < hash.outLen then none
  else some (Memory.copy out ((blake2b hash.key hash.absorbed).toList.take hash.outLen))

section

variable {target : Target} {size : Nat} (blake2b : List UInt8 → List UInt8 → Bytes 32)
  (stray : Stray) (tx : Transaction target)

/-- One round of the loop of `calc_prev_outputs_hash`. -/
def prevOutputsRound (loop : HashState × Bytes 32) (i : Nat)
    : Option (HashState × Bytes 32) := do
  let (hash, _) := loop
  let innerBuffer := Bytes.zero 32
  let innerBuffer := Memory.copy innerBuffer
    (FixedWidth.littleEndian 4 (tx.input stray i).index.toNat)
  let hash ← hashUpdate hash (tx.input stray i).txId.toList
  let hash ← hashUpdate hash (innerBuffer.toList.take 4)
  pure (hash, innerBuffer)

/-- `calc_prev_outputs_hash`. -/
def calcPrevOutputsHash (outHash : Bytes size) (outLen : Nat) : Option (Bytes size) := do
  let hash ← hashInit 256 signingKey 22
  let (hash, _) ←
    (List.range tx.txInputLen.toNat).foldlM (prevOutputsRound stray tx) (hash, Bytes.zero 32)
  hashFinalize blake2b hash outHash outLen

/-- One round of the loop of `calc_sequences_hash`. -/
def sequencesRound (loop : HashState × Bytes 32) (i : Nat)
    : Option (HashState × Bytes 32) := do
  let (hash, _) := loop
  let innerBuffer := Bytes.zero 32
  let innerBuffer := Memory.copy innerBuffer
    (FixedWidth.littleEndian 8 (tx.input stray i).sequence.toNat)
  let hash ← hashUpdate hash (innerBuffer.toList.take 8)
  pure (hash, Bytes.zero 32)

/-- `calc_sequences_hash`. -/
def calcSequencesHash (outHash : Bytes size) (outLen : Nat) : Option (Bytes size) := do
  let hash ← hashInit 256 signingKey 22
  let (hash, _) ←
    (List.range tx.txInputLen.toNat).foldlM (sequencesRound stray tx) (hash, Bytes.zero 32)
  hashFinalize blake2b hash outHash outLen

/-- One round of the loop of `calc_sig_op_count_hash`. -/
def sigOpCountRound (loop : HashState × Bytes 32) (_ : Nat)
    : Option (HashState × Bytes 32) := do
  let (hash, innerBuffer) := loop
  let innerBuffer := Memory.copy innerBuffer [1]
  let hash ← hashUpdate hash (innerBuffer.toList.take 1)
  pure (hash, Bytes.zero 32)

/-- `calc_sig_op_count_hash`. -/
def calcSigOpCountHash (outHash : Bytes size) (outLen : Nat) : Option (Bytes size) := do
  let hash ← hashInit 256 signingKey 22
  let (hash, _) ←
    (List.range tx.txInputLen.toNat).foldlM sigOpCountRound (hash, Bytes.zero 32)
  hashFinalize blake2b hash outHash outLen

/-- `script_len` as `calc_outputs_hash` computes it, in a `uint8_t`. -/
def scriptLen (script : Bytes scriptPublicKeyBufferLen) : UInt8 :=
  let tag := getElem script 0 zero_lt_bufferLen
  if tag = 0xaa then 35 else tag + 2

/-- One round of the loop of `calc_outputs_hash`. -/
def outputsRound (loop : HashState × Bytes 32) (i : Nat)
    : Option (HashState × Bytes 32) := do
  let (hash, _) := loop
  let txout := tx.output stray i
  let innerBuffer := Bytes.zero 32
  let innerBuffer := Memory.copy innerBuffer (FixedWidth.littleEndian 8 txout.value.toNat)
  let hash ← hashUpdate hash (innerBuffer.toList.take 8)
  let innerBuffer := Bytes.zero 32
  -- the script version, assumed 0
  let hash ← hashUpdate hash (innerBuffer.toList.take 2)
  let scriptLen := scriptLen txout.scriptPublicKey
  let innerBuffer := Memory.copy innerBuffer (FixedWidth.littleEndian 8 scriptLen.toNat)
  let hash ← hashUpdate hash (innerBuffer.toList.take 8)
  let hash ← hashUpdate hash
    (Memory.readBlock txout.scriptPublicKey stray.script scriptLen.toNat)
  pure (hash, innerBuffer)

/-- `calc_outputs_hash`. -/
def calcOutputsHash (outHash : Bytes size) (outLen : Nat) : Option (Bytes size) := do
  let hash ← hashInit 256 signingKey 22
  let (hash, _) ←
    (List.range tx.txOutputLen.toNat).foldlM (outputsRound stray tx) (hash, Bytes.zero 32)
  hashFinalize blake2b hash outHash outLen

/-- `calc_txin_script_public_key`. -/
def calcTxinScriptPublicKey (publicKey : Bytes 32) (outHash : Bytes size) (outLen : Nat)
    : Option (Bytes size) :=
  if outLen < 34 then none
  else some (Memory.copy outHash ([0x20] ++ publicKey.toList ++ [opCheckSig]))

/-- `calc_sighash`. -/
def calcSighash (txin : TransactionInput) (publicKey : Bytes 32) (outHash : Bytes 32)
    (outLen : Nat)
    : Option (Bytes 32) := do
  if outLen < 32 then
    none
  else
    let sighash ← hashInit 256 signingKey 22
    let outerBuffer := Bytes.zero 36
    -- version
    let outerBuffer := Memory.copy outerBuffer (FixedWidth.littleEndian 2 tx.version.toNat)
    let sighash ← hashUpdate sighash (outerBuffer.toList.take 2)
    let outerBuffer := Bytes.zero 36
    -- previous outputs hash
    let outerBuffer ← calcPrevOutputsHash blake2b stray tx outerBuffer 36
    let sighash ← hashUpdate sighash (outerBuffer.toList.take 32)
    let outerBuffer := Bytes.zero 36
    -- sequence hash
    let outerBuffer ← calcSequencesHash blake2b stray tx outerBuffer 36
    let sighash ← hashUpdate sighash (outerBuffer.toList.take 32)
    let outerBuffer := Bytes.zero 36
    -- sig op count hash
    let outerBuffer ← calcSigOpCountHash blake2b tx outerBuffer 36
    let sighash ← hashUpdate sighash (outerBuffer.toList.take 32)
    let outerBuffer := Bytes.zero 36
    -- outpoint
    let sighash ← hashUpdate sighash txin.txId.toList
    let outerBuffer := Memory.copy outerBuffer (FixedWidth.littleEndian 4 txin.index.toNat)
    let sighash ← hashUpdate sighash (outerBuffer.toList.take 4)
    let outerBuffer := Bytes.zero 36
    -- input script version, assumed 0
    let sighash ← hashUpdate sighash (outerBuffer.toList.take 2)
    -- script length and script; the buffer is not cleared between the two
    let scriptLen : UInt64 := 34
    let outerBuffer := Memory.copy outerBuffer (FixedWidth.littleEndian 8 scriptLen.toNat)
    let sighash ← hashUpdate sighash (outerBuffer.toList.take 8)
    let outerBuffer ← calcTxinScriptPublicKey publicKey outerBuffer 36
    let sighash ← hashUpdate sighash (outerBuffer.toList.take scriptLen.toNat)
    let outerBuffer := Bytes.zero 36
    -- value
    let outerBuffer := Memory.copy outerBuffer (FixedWidth.littleEndian 8 txin.value.toNat)
    let sighash ← hashUpdate sighash (outerBuffer.toList.take 8)
    let outerBuffer := Bytes.zero 36
    -- sequence
    let outerBuffer := Memory.copy outerBuffer (FixedWidth.littleEndian 8 txin.sequence.toNat)
    let sighash ← hashUpdate sighash (outerBuffer.toList.take 8)
    let outerBuffer := Bytes.zero 36
    -- sig op count, assumed 1
    let outerBuffer := Memory.copy outerBuffer [0x01]
    let sighash ← hashUpdate sighash (outerBuffer.toList.take 1)
    let outerBuffer := Bytes.zero 36
    -- outputs hash
    let outerBuffer ← calcOutputsHash blake2b stray tx outerBuffer 36
    let sighash ← hashUpdate sighash (outerBuffer.toList.take 32)
    let outerBuffer := Bytes.zero 36
    -- lock time, subnetwork id, gas and payload hash, all zero
    let sighash ← hashUpdate sighash (outerBuffer.toList.take 8)
    let sighash ← hashUpdate sighash (outerBuffer.toList.take 20)
    let sighash ← hashUpdate sighash (outerBuffer.toList.take 8)
    let sighash ← hashUpdate sighash (outerBuffer.toList.take 32)
    -- sighash type, SigHashAll
    let outerBuffer := Memory.copy outerBuffer [0x01]
    let sighash ← hashUpdate sighash (outerBuffer.toList.take 1)
    hashFinalize blake2b sighash outHash outLen

end

/-- `hash_personal_message`. -/
def hashPersonalMessage (blake2b : List UInt8 → List UInt8 → Bytes 32)
    (messageBytes : List UInt8) (outHash : Bytes 32) (outLen : Nat)
    : Option (Bytes 32) := do
  if outLen < 32 then
    none
  else
    let hash ← hashInit 256 messageSigningKey 26
    let hash ← hashUpdate hash messageBytes
    hashFinalize blake2b hash outHash outLen

end KaspaApp
