import KaspaApp.Model.Blake2b
import KaspaApp.Model.Sighash

/-! `sighash.c` and `personal_message.c` on the hash states of `blake2b.c`. The hash of a
transaction and the hashes nested in it work in the same `b2bg_cx`.
-/

namespace KaspaApp.Blake2b

/-- A computation that may fail, and that changes `b2bg_cx` in either case. -/
abbrev Hashing := OptionT (StateM Globals)

/-- `hash_init`, for a key that is never null. -/
def hashInit (size : Nat) (key : List UInt8) (keyLen : Nat) : Hashing State :=
  if size % 8 ≠ 0 ∨ size < 8 ∨ size > 512 then failure
  else OptionT.mk fun cx => initKey cx (size / 8) key keyLen

/-- `hash_update`. -/
def hashUpdate (hash : State) (data : List UInt8) : Hashing State :=
  OptionT.mk fun cx =>
    let (hash, cx) := update cx hash data
    (some hash, cx)

/-- `hash_finalize`. The state that `blake2b_final` leaves is not used any more. -/
def hashFinalize {size : Nat} (hash : State) (out : Bytes size) (outLen : Nat)
    : Hashing (Bytes size) :=
  if outLen < 32 then failure
  else
    OptionT.mk fun cx =>
      let (written, _, cx) := final cx hash out 32
      (written, cx)

section

variable {target : Target} {size : Nat} (stray : Stray) (tx : Transaction target)

/-- One round of the loop of `calc_prev_outputs_hash`. -/
def prevOutputsRound (loop : State × Bytes 32) (i : Nat)
    : Hashing (State × Bytes 32) := do
  let (hash, _) := loop
  let innerBuffer := Bytes.zero 32
  let innerBuffer := Memory.copy innerBuffer
    (FixedWidth.littleEndian 4 (tx.input stray i).index.toNat)
  let hash ← hashUpdate hash (tx.input stray i).txId.toList
  let hash ← hashUpdate hash (innerBuffer.toList.take 4)
  pure (hash, innerBuffer)

/-- `calc_prev_outputs_hash`. -/
def calcPrevOutputsHash (outHash : Bytes size) (outLen : Nat) : Hashing (Bytes size) := do
  let hash ← hashInit 256 signingKey 22
  let (hash, _) ←
    (List.range tx.txInputLen.toNat).foldlM (prevOutputsRound stray tx) (hash, Bytes.zero 32)
  hashFinalize hash outHash outLen

/-- One round of the loop of `calc_sequences_hash`. -/
def sequencesRound (loop : State × Bytes 32) (i : Nat)
    : Hashing (State × Bytes 32) := do
  let (hash, _) := loop
  let innerBuffer := Bytes.zero 32
  let innerBuffer := Memory.copy innerBuffer
    (FixedWidth.littleEndian 8 (tx.input stray i).sequence.toNat)
  let hash ← hashUpdate hash (innerBuffer.toList.take 8)
  pure (hash, Bytes.zero 32)

/-- `calc_sequences_hash`. -/
def calcSequencesHash (outHash : Bytes size) (outLen : Nat) : Hashing (Bytes size) := do
  let hash ← hashInit 256 signingKey 22
  let (hash, _) ←
    (List.range tx.txInputLen.toNat).foldlM (sequencesRound stray tx) (hash, Bytes.zero 32)
  hashFinalize hash outHash outLen

/-- One round of the loop of `calc_sig_op_count_hash`. -/
def sigOpCountRound (loop : State × Bytes 32) (_ : Nat)
    : Hashing (State × Bytes 32) := do
  let (hash, innerBuffer) := loop
  let innerBuffer := Memory.copy innerBuffer [1]
  let hash ← hashUpdate hash (innerBuffer.toList.take 1)
  pure (hash, Bytes.zero 32)

/-- `calc_sig_op_count_hash`. -/
def calcSigOpCountHash (outHash : Bytes size) (outLen : Nat) : Hashing (Bytes size) := do
  let hash ← hashInit 256 signingKey 22
  let (hash, _) ←
    (List.range tx.txInputLen.toNat).foldlM sigOpCountRound (hash, Bytes.zero 32)
  hashFinalize hash outHash outLen

/-- One round of the loop of `calc_outputs_hash`. -/
def outputsRound (loop : State × Bytes 32) (i : Nat)
    : Hashing (State × Bytes 32) := do
  let (hash, _) := loop
  let txout := tx.output stray i
  let innerBuffer := Bytes.zero 32
  let innerBuffer := Memory.copy innerBuffer (FixedWidth.littleEndian 8 txout.value.toNat)
  let hash ← hashUpdate hash (innerBuffer.toList.take 8)
  let innerBuffer := Bytes.zero 32
  -- the script version, assumed 0
  let hash ← hashUpdate hash (innerBuffer.toList.take 2)
  let scriptLen := scriptLen txout.scriptPublicKey
  let innerBuffer := Memory.copy innerBuffer (FixedWidth.littleEndian 8 scriptLen.toNat)
  let hash ← hashUpdate hash (innerBuffer.toList.take 8)
  let hash ← hashUpdate hash
    (Memory.readBlock txout.scriptPublicKey stray.script scriptLen.toNat)
  pure (hash, innerBuffer)

/-- `calc_outputs_hash`. -/
def calcOutputsHash (outHash : Bytes size) (outLen : Nat) : Hashing (Bytes size) := do
  let hash ← hashInit 256 signingKey 22
  let (hash, _) ←
    (List.range tx.txOutputLen.toNat).foldlM (outputsRound stray tx) (hash, Bytes.zero 32)
  hashFinalize hash outHash outLen

/-- `calc_sighash`. -/
def calcSighash (txin : TransactionInput) (publicKey : Bytes 32) (outHash : Bytes 32)
    (outLen : Nat)
    : Hashing (Bytes 32) := do
  if outLen < 32 then
    failure
  else
    let sighash ← hashInit 256 signingKey 22
    let outerBuffer := Bytes.zero 36
    -- version
    let outerBuffer := Memory.copy outerBuffer (FixedWidth.littleEndian 2 tx.version.toNat)
    let sighash ← hashUpdate sighash (outerBuffer.toList.take 2)
    let outerBuffer := Bytes.zero 36
    -- previous outputs hash
    let outerBuffer ← calcPrevOutputsHash stray tx outerBuffer 36
    let sighash ← hashUpdate sighash (outerBuffer.toList.take 32)
    let outerBuffer := Bytes.zero 36
    -- sequence hash
    let outerBuffer ← calcSequencesHash stray tx outerBuffer 36
    let sighash ← hashUpdate sighash (outerBuffer.toList.take 32)
    let outerBuffer := Bytes.zero 36
    -- sig op count hash
    let outerBuffer ← calcSigOpCountHash tx outerBuffer 36
    let sighash ← hashUpdate sighash (outerBuffer.toList.take 32)
    let outerBuffer := Bytes.zero 36
    -- outpoint
    let sighash ← hashUpdate sighash txin.txId.toList
    let outerBuffer := Memory.copy outerBuffer (FixedWidth.littleEndian 4 txin.index.toNat)
    let sighash ← hashUpdate sighash (outerBuffer.toList.take 4)
    let outerBuffer := Bytes.zero 36
    -- input script version, assumed 0
    let sighash ← hashUpdate sighash (outerBuffer.toList.take 2)
    -- script length and script; the buffer is not cleared between the two
    let scriptLen : UInt64 := 34
    let outerBuffer := Memory.copy outerBuffer (FixedWidth.littleEndian 8 scriptLen.toNat)
    let sighash ← hashUpdate sighash (outerBuffer.toList.take 8)
    let outerBuffer ← OptionT.mk (pure (calcTxinScriptPublicKey publicKey outerBuffer 36))
    let sighash ← hashUpdate sighash (outerBuffer.toList.take scriptLen.toNat)
    let outerBuffer := Bytes.zero 36
    -- value
    let outerBuffer := Memory.copy outerBuffer (FixedWidth.littleEndian 8 txin.value.toNat)
    let sighash ← hashUpdate sighash (outerBuffer.toList.take 8)
    let outerBuffer := Bytes.zero 36
    -- sequence
    let outerBuffer := Memory.copy outerBuffer (FixedWidth.littleEndian 8 txin.sequence.toNat)
    let sighash ← hashUpdate sighash (outerBuffer.toList.take 8)
    let outerBuffer := Bytes.zero 36
    -- sig op count, assumed 1
    let outerBuffer := Memory.copy outerBuffer [0x01]
    let sighash ← hashUpdate sighash (outerBuffer.toList.take 1)
    let outerBuffer := Bytes.zero 36
    -- outputs hash
    let outerBuffer ← calcOutputsHash stray tx outerBuffer 36
    let sighash ← hashUpdate sighash (outerBuffer.toList.take 32)
    let outerBuffer := Bytes.zero 36
    -- lock time, subnetwork id, gas and payload hash, all zero
    let sighash ← hashUpdate sighash (outerBuffer.toList.take 8)
    let sighash ← hashUpdate sighash (outerBuffer.toList.take 20)
    let sighash ← hashUpdate sighash (outerBuffer.toList.take 8)
    let sighash ← hashUpdate sighash (outerBuffer.toList.take 32)
    -- sighash type, SigHashAll
    let outerBuffer := Memory.copy outerBuffer [0x01]
    let sighash ← hashUpdate sighash (outerBuffer.toList.take 1)
    hashFinalize sighash outHash outLen

end

/-- `hash_personal_message`. -/
def hashPersonalMessage (messageBytes : List UInt8) (outHash : Bytes 32) (outLen : Nat)
    : Hashing (Bytes 32) := do
  if outLen < 32 then
    failure
  else
    let hash ← hashInit 256 messageSigningKey 26
    let hash ← hashUpdate hash messageBytes
    hashFinalize hash outHash outLen

end KaspaApp.Blake2b
