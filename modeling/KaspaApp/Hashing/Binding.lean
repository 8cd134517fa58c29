import KaspaApp.Hashing.Reference
import KaspaApp.Library.PrefixCodes
import Mathlib.Data.List.Nodup

/-! What a signature hash commits to. Every variable part of the preimages is delimited, so two
calls of `calc_sighash` whose hash has no collision among the strings they absorb agree on all
that they hash.
-/

namespace KaspaApp

open FixedWidth PrefixCodes

variable {target : Target}

/-- The arguments of one call of `calc_sighash`, and the memory behind its objects. -/
structure SighashCall (target : Target) where
  stray : Stray
  tx : Transaction target
  txin : TransactionInput
  publicKey : Bytes 32
  outHash : Bytes 32
  outLen : Nat

/-- The result of the call. -/
def SighashCall.result (blake2b : List UInt8 → List UInt8 → Bytes 32)
    (call : SighashCall target)
    : Option (Bytes 32) :=
  calcSighash blake2b call.stray call.tx call.txin call.publicKey call.outHash call.outLen

/-- The string that the outer hash of the call absorbs. -/
def SighashCall.preimage (blake2b : List UInt8 → List UInt8 → Bytes 32)
    (call : SighashCall target)
    : List UInt8 :=
  sighashPreimage (blake2b signingKey) call.tx.version (call.tx.visitedInputs call.stray)
    (call.tx.committedOutputs call.stray) call.txin call.publicKey

/-- All strings that the call absorbs: those of the nested hashes and the outer one. -/
def SighashCall.absorbed (blake2b : List UInt8 → List UInt8 → Bytes 32)
    (call : SighashCall target)
    : List (List UInt8) :=
  [(call.tx.visitedInputs call.stray).flatMap outpointBytes,
    (call.tx.visitedInputs call.stray).flatMap sequenceBytes,
    (call.tx.visitedInputs call.stray).flatMap fun _ => [1],
    (call.tx.committedOutputs call.stray).flatMap fun output => outputBytes output.1 output.2,
    call.preimage blake2b]

/-- The fields of every input that the hash commits to. -/
def TransactionInput.committed (txin : TransactionInput) : (Bytes 32 × UInt8) × UInt64 :=
  ((txin.txId, txin.index), txin.sequence)

/-- The slots of the call hold accepted scripts, and its outputs are these. -/
def SighashCall.Outputs (call : SighashCall target) (outputs : List ClientOutput) : Prop :=
  List.Forall₂ RepresentsOutput (call.tx.visitedOutputs call.stray) outputs

/-- Two calls, with the outputs that their slots hold, agree on everything that is signed. -/
structure SignsAlike (first second : SighashCall target)
    (firstOutputs secondOutputs : List ClientOutput)
    : Prop where
  version : first.tx.version = second.tx.version
  inputs
    : (first.tx.visitedInputs first.stray).map TransactionInput.committed
      = (second.tx.visitedInputs second.stray).map TransactionInput.committed
  outputs : firstOutputs = secondOutputs
  txId : first.txin.txId = second.txin.txId
  index : first.txin.index = second.txin.index
  value : first.txin.value = second.txin.value
  sequence : first.txin.sequence = second.txin.sequence
  publicKey : first.publicKey = second.publicKey

theorem index_of_bytes {left right : UInt8}
    (same : littleEndian 4 left.toNat = littleEndian 4 right.toNat)
    : left = right := by
  have leftSmall := left.toNat_lt
  have rightSmall := right.toNat_lt
  exact UInt8.toNat_inj.mp (littleEndian_injective (by omega) (by omega) same)

theorem version_of_bytes {left right : UInt16}
    (same : littleEndian 2 left.toNat = littleEndian 2 right.toNat)
    : left = right :=
  UInt16.toNat_inj.mp (littleEndian_injective left.toNat_lt right.toNat_lt same)

theorem uint64_of_bytes {left right : UInt64}
    (same : littleEndian 8 left.toNat = littleEndian 8 right.toNat)
    : left = right :=
  UInt64.toNat_inj.mp (littleEndian_injective left.toNat_lt right.toNat_lt same)

/-- The outpoints of a list of inputs are read back from their string. -/
theorem outpoints_of_bytes {left right : List TransactionInput}
    (same : left.flatMap outpointBytes = right.flatMap outpointBytes)
    : left.map (fun txin => (txin.txId, txin.index))
      = right.map (fun txin => (txin.txId, txin.index)) := by
  have width (txin : TransactionInput) : (outpointBytes txin).length = 36 := by
    simp [outpointBytes]
  refine (prefixCode_fixed (by decide : 0 < 36)).map_eq_of_flatMap_eq ?_
    (fun txin _ => width txin) (fun txin _ => width txin) same
  intro txin other bytes
  obtain ⟨txId, index⟩ := List.append_inj bytes (by simp)
  rw [Vector.toList_inj.mp txId, index_of_bytes index]

theorem sequences_of_bytes {left right : List TransactionInput}
    (same : left.flatMap sequenceBytes = right.flatMap sequenceBytes)
    : left.map TransactionInput.sequence = right.map TransactionInput.sequence := by
  have width (txin : TransactionInput) : (sequenceBytes txin).length = 8 :=
    length_littleEndian 8 _
  exact (prefixCode_fixed (by decide : 0 < 8)).map_eq_of_flatMap_eq
    (fun txin other bytes => uint64_of_bytes bytes) (fun txin _ => width txin)
    (fun txin _ => width txin) same

/-- Inputs with the same outpoints and the same sequences have the same committed fields. -/
theorem committed_of_parts {left right : List TransactionInput}
    (outpoints
      : left.map (fun txin => (txin.txId, txin.index))
        = right.map fun txin => (txin.txId, txin.index))
    (sequences : left.map TransactionInput.sequence = right.map TransactionInput.sequence)
    : left.map TransactionInput.committed = right.map TransactionInput.committed := by
  have parts (inputs : List TransactionInput)
      : inputs.map TransactionInput.committed
        = (inputs.map fun txin => (txin.txId, txin.index)).zip
            (inputs.map TransactionInput.sequence) :=
    List.zip_map'.symm
  rw [parts left, parts right, outpoints, sequences]

/-- The length that the head of an output's string gives its script. -/
def scriptCount (head : List UInt8) : Nat := fromLittleEndian (head.drop 10)

theorem outputBytes_mem_headed (value : UInt64) {script : List UInt8}
    (short : script.length < 2 ^ 64)
    : outputBytes value script ∈ PrefixCodes.headed 18 scriptCount := by
  refine ⟨littleEndian 8 value.toNat ++ littleEndian 2 0 ++ littleEndian 8 script.length, script,
    by simp, ?_, rfl⟩
  rw [scriptCount, List.drop_left' (by simp), fromLittleEndian_littleEndian]
  exact (Nat.mod_eq_of_lt short).symm

/-- The values and scripts of a list of outputs are read back from their string. -/
theorem outputs_of_bytes {left right : List (UInt64 × List UInt8)}
    (leftShort : ∀ output ∈ left, output.2.length < 2 ^ 64)
    (rightShort : ∀ output ∈ right, output.2.length < 2 ^ 64)
    (same
      : (left.flatMap fun output => outputBytes output.1 output.2)
        = right.flatMap fun output => outputBytes output.1 output.2)
    : left = right := by
  have determines (output other : UInt64 × List UInt8)
      (bytes : outputBytes output.1 output.2 = outputBytes other.1 other.2)
      : id output = id other := by
    obtain ⟨heads, scripts⟩ := List.append_inj bytes (by simp)
    obtain ⟨fronts, _⟩ := List.append_inj heads (by simp)
    obtain ⟨values, _⟩ := List.append_inj fronts (by simp)
    exact Prod.ext (uint64_of_bytes values) scripts
  have keys :=
    (prefixCode_headed (by decide : 0 < 18) scriptCount).map_eq_of_flatMap_eq determines
      (fun output member => outputBytes_mem_headed output.1 (leftShort output member))
      (fun output member => outputBytes_mem_headed output.1 (rightShort output member)) same
  rwa [List.map_id, List.map_id] at keys

/-- A slot commits to less than 256 script bytes. -/
theorem committedOutputs_short {stray : Stray} {tx : Transaction target}
    {output : UInt64 × List UInt8} (member : output ∈ tx.committedOutputs stray)
    : output.2.length < 2 ^ 64 := by
  obtain ⟨txout, _, rfl⟩ := List.mem_map.mp member
  have small := (scriptLen txout.scriptPublicKey).toNat_lt
  rw [committedScript, Memory.length_readBlock]
  omega

/-- What the loops read of slots that hold accepted scripts. -/
theorem SighashCall.Outputs.committedOutputs {call : SighashCall target}
    {outputs : List ClientOutput} (holds : call.Outputs outputs)
    : call.tx.committedOutputs call.stray
      = outputs.map fun output => (output.value, output.scriptPublicKey) := by
  have each (txout : TransactionOutput) (client : ClientOutput)
      (represents : RepresentsOutput txout client)
      : (txout.value, committedScript call.stray txout)
        = (client.value, client.scriptPublicKey) := by
    obtain ⟨script, same, held⟩ := represents.script.holds
    rw [represents.value, committedScript_of_holds held, same]
  rw [Transaction.committedOutputs, ← List.forall₂_eq_eq_eq, List.forall₂_map_left_iff,
    List.forall₂_map_right_iff]
  exact List.Forall₂.imp each holds

theorem clientOutputs_injective
    : Function.Injective
        (List.map fun output : ClientOutput => (output.value, output.scriptPublicKey)) := by
  refine List.map_injective_iff.mpr ?_
  rintro ⟨value, script⟩ ⟨value', script'⟩ same
  obtain ⟨rfl, rfl⟩ := Prod.mk.inj same
  rfl

variable {digest : List UInt8 → Bytes 32} {version version' : UInt16}
  {inputs inputs' : List TransactionInput} {outputs outputs' : List (UInt64 × List UInt8)}
  {txin txin' : TransactionInput} {publicKey publicKey' : Bytes 32}

/-- The variable fields of the preimage, and the constant rest. -/
def sighashFields (digest : List UInt8 → Bytes 32) (version : UInt16)
    (inputs : List TransactionInput) (outputs : List (UInt64 × List UInt8))
    (txin : TransactionInput) (publicKey : Bytes 32)
    : List (List UInt8) :=
  [littleEndian 2 version.toNat,
    (digest (inputs.flatMap outpointBytes)).toList,
    (digest (inputs.flatMap sequenceBytes)).toList,
    (digest (inputs.flatMap fun _ => [1])).toList,
    txin.txId.toList, littleEndian 4 txin.index.toNat,
    littleEndian 2 0 ++ littleEndian 8 34 ++ [0x20], publicKey.toList, [opCheckSig],
    littleEndian 8 txin.value.toNat, littleEndian 8 txin.sequence.toNat, [1],
    (digest (outputs.flatMap fun output => outputBytes output.1 output.2)).toList,
    List.replicate 8 0 ++ List.replicate 20 0 ++ List.replicate 8 0 ++ List.replicate 32 0 ++ [1]]

theorem sighashPreimage_eq_flatten
    : sighashPreimage digest version inputs outputs txin publicKey
      = (sighashFields digest version inputs outputs txin publicKey).flatten := by
  simp only [sighashPreimage, sighashFields, List.flatten_cons, List.flatten_nil, List.append_nil,
    List.append_assoc]

/-- All fields of the preimage have fixed widths. -/
theorem sighashFields_widths
    : (sighashFields digest version inputs outputs txin publicKey).map List.length
      = [2, 32, 32, 32, 32, 4, 11, 32, 1, 8, 8, 1, 32, 69] := by
  simp [sighashFields]

theorem sighashFields_of_preimage
    (same
      : sighashPreimage digest version inputs outputs txin publicKey
        = sighashPreimage digest version' inputs' outputs' txin' publicKey')
    : sighashFields digest version inputs outputs txin publicKey
      = sighashFields digest version' inputs' outputs' txin' publicKey' := by
  rw [sighashPreimage_eq_flatten, sighashPreimage_eq_flatten] at same
  exact List.eq_iff_flatten_eq.mpr ⟨same, sighashFields_widths.trans sighashFields_widths.symm⟩

variable {blake2b : List UInt8 → List UInt8 → Bytes 32} {first second : SighashCall target}

/-- A call that returns a hash returns that of its preimage. -/
theorem SighashCall.hash_of_result {call : SighashCall target} {hash : Bytes 32}
    (result : call.result blake2b = some hash)
    : hash = blake2b signingKey (call.preimage blake2b) := by
  rw [SighashCall.result] at result
  have room : 32 ≤ call.outLen := by
    by_contra small
    rw [calcSighash, if_pos (by omega)] at result
    cases result
  rw [calcSighash_eq blake2b _ _ _ _ _ room] at result
  exact (Option.some.inj result).symm

/-- No two different strings that the calls absorb have the same digest. -/
def CollisionFree (blake2b : List UInt8 → List UInt8 → Bytes 32)
    (first second : SighashCall target)
    : Prop :=
  Set.InjOn (blake2b signingKey) {data | data ∈ first.absorbed blake2b ++ second.absorbed blake2b}

theorem CollisionFree.strings (collisionFree : CollisionFree blake2b first second)
    {data other : List UInt8} (absorbed : data ∈ first.absorbed blake2b)
    (otherAbsorbed : other ∈ second.absorbed blake2b)
    (same : blake2b signingKey data = blake2b signingKey other)
    : data = other :=
  collisionFree (List.mem_append_left _ absorbed) (List.mem_append_right _ otherAbsorbed) same

/-- Calls of `calc_sighash` that return the same hash agree on all that is signed. -/
theorem sighash_binds (collisionFree : CollisionFree blake2b first second)
    {firstOutputs secondOutputs : List ClientOutput} (firstHolds : first.Outputs firstOutputs)
    (secondHolds : second.Outputs secondOutputs) {hash : Bytes 32}
    (firstResult : first.result blake2b = some hash)
    (secondResult : second.result blake2b = some hash)
    : SignsAlike first second firstOutputs secondOutputs := by
  have preimages : first.preimage blake2b = second.preimage blake2b :=
    collisionFree.strings (by simp [SighashCall.absorbed]) (by simp [SighashCall.absorbed])
      ((SighashCall.hash_of_result firstResult).symm.trans
        (SighashCall.hash_of_result secondResult))
  have fields := sighashFields_of_preimage preimages
  simp only [sighashFields, List.cons.injEq, Vector.toList_inj] at fields
  obtain ⟨version, outpointDigest, sequenceDigest, -, txId, index, -, publicKey, -, value, sequence,
    -, outputDigest, -⟩ := fields
  have outpoints :=
    outpoints_of_bytes (collisionFree.strings (by simp [SighashCall.absorbed])
      (by simp [SighashCall.absorbed]) outpointDigest)
  have sequences :=
    sequences_of_bytes (collisionFree.strings (by simp [SighashCall.absorbed])
      (by simp [SighashCall.absorbed]) sequenceDigest)
  have committed :=
    outputs_of_bytes (fun _ member => committedOutputs_short member)
      (fun _ member => committedOutputs_short member)
      (collisionFree.strings (by simp [SighashCall.absorbed]) (by simp [SighashCall.absorbed])
        outputDigest)
  rw [firstHolds.committedOutputs, secondHolds.committedOutputs] at committed
  exact {
    version := version_of_bytes version
    inputs := committed_of_parts outpoints sequences
    outputs := clientOutputs_injective committed
    txId := txId
    index := index_of_bytes index
    value := uint64_of_bytes value
    sequence := uint64_of_bytes sequence
    publicKey := publicKey
  }

/-- Calls for the second input of the same transaction. The second call finds other data in the
fields that are not signed, and in its output buffer.
-/
def exampleCall : SighashCall .nanos :=
  {
    stray := Env.succeeding.stray .calcSighash
    tx := exampleTransaction
    txin := exampleTransaction.input (Env.succeeding.stray .calcSighash) 1
    publicKey := Vector.replicate 32 9
    outHash := Bytes.zero 32
    outLen := 32
  }

def exampleCallElsewhere : SighashCall .nanos :=
  { exampleCall with
    tx := { exampleTransaction with account := 0x80000005 }
    txin := { exampleCall.txin with addressType := 1, addressIndex := 4 }
    outHash := Vector.replicate 32 0xff
    outLen := 64 }

theorem sighash_binds_sample
    : SignsAlike exampleCall exampleCallElsewhere exampleClient.outputs exampleClient.outputs := by
  have declares : Declares .nanos (plainHeader 1 2) exampleInputs [plainOutput 4] :=
    ⟨⟨by decide, by decide, by decide, by decide, by decide, by decide⟩, rfl, rfl⟩
  have represents : Represents exampleTransaction exampleClient :=
    declares.represents (Vector.replicate 32 9)
  have holds : exampleCall.Outputs exampleClient.outputs := by
    have outputs := represents.outputs
    rwa [← map_output_eq_declaredOutputs represents.counted exampleCall.stray] at outputs
  have collisionFree : CollisionFree exampleHash exampleCall exampleCallElsewhere := by
    have same : exampleCallElsewhere.absorbed exampleHash = exampleCall.absorbed exampleHash := rfl
    have distinct
        : ((exampleCall.absorbed exampleHash).map (exampleHash signingKey)).Nodup := by
      decide +kernel
    have once {data : List UInt8}
        (member
          : data ∈ exampleCall.absorbed exampleHash ++ exampleCallElsewhere.absorbed exampleHash)
        : data ∈ exampleCall.absorbed exampleHash := by
      rwa [same, List.mem_append, or_self] at member
    exact fun data member other otherMember hashes =>
      List.inj_on_of_nodup_map distinct (once member) (once otherMember) hashes
  have returned (call : SighashCall .nanos) (room : 32 ≤ call.outLen)
      : call.result exampleHash = some (exampleHash signingKey (call.preimage exampleHash)) :=
    calcSighash_eq exampleHash call.stray call.tx call.txin call.publicKey call.outHash room
  exact sighash_binds collisionFree holds holds (returned exampleCall (by decide))
    (returned exampleCallElsewhere (by decide))

end KaspaApp
