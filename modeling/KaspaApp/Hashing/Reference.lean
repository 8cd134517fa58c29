import KaspaApp.Hashing.Preimages
import KaspaApp.Wire.Transactions
import Mathlib.Data.List.Forall2

/-! `calc_sighash` against the reference of the client: the `Sighash` class of
`kaspa_transaction.py`. The reference takes lists of inputs and outputs, the device its two
arrays, its counts and the script slots.
-/

namespace KaspaApp

open FixedWidth

/-- The fields of the client's transactions that `Sighash` reads. -/
structure ClientInput where
  value : UInt64
  txId : Bytes 32
  index : UInt8
  publicKey : Bytes 32

structure ClientOutput where
  value : UInt64
  scriptPublicKey : List UInt8

structure ClientTransaction where
  version : UInt16
  inputs : List ClientInput
  outputs : List ClientOutput

namespace Sighash

variable (H : List UInt8 → Bytes 32) (tx : ClientTransaction)

/-- `_calc_prev_outputs_hash`. -/
def prevOutputsHash : List UInt8 :=
  (H (tx.inputs.flatMap fun txin =>
    txin.txId.toList ++ littleEndian 4 txin.index.toNat)).toList

/-- `_calc_sequences_hash`. -/
def sequencesHash : List UInt8 := (H (tx.inputs.flatMap fun _ => littleEndian 8 0)).toList

/-- `_calc_sig_op_count_hash`. -/
def sigOpCountHash : List UInt8 := (H (tx.inputs.flatMap fun _ => littleEndian 1 1)).toList

/-- `calc_txin_script_public_key`. -/
def txinScriptPublicKey (publicKey : Bytes 32) : List UInt8 :=
  littleEndian 1 0x20 ++ publicKey.toList ++ littleEndian 1 0xac

/-- The script length that `_calc_outputs_hash` writes, from the first byte of the script. -/
def scriptLength (script : List UInt8) : Nat :=
  if script.headD 0 = 0xaa then 35 else (script.headD 0).toNat + 2

/-- `_calc_outputs_hash`. -/
def outputsHash : List UInt8 :=
  (H (tx.outputs.flatMap fun txout =>
    littleEndian 8 txout.value.toNat ++ littleEndian 2 0
    ++ littleEndian 8 (scriptLength txout.scriptPublicKey) ++ txout.scriptPublicKey)).toList

/-- `to_hash`, for the input `txin` of the transaction. -/
def toHash (txin : ClientInput) : Bytes 32 :=
  H (littleEndian 2 tx.version.toNat
    ++ prevOutputsHash H tx ++ sequencesHash H tx ++ sigOpCountHash H tx
    ++ txin.txId.toList ++ littleEndian 4 txin.index.toNat ++ littleEndian 2 0
    ++ littleEndian 8 34 ++ txinScriptPublicKey txin.publicKey
    ++ littleEndian 8 txin.value.toNat ++ littleEndian 8 0 ++ littleEndian 1 1
    ++ outputsHash H tx
    ++ littleEndian 8 0 ++ littleEndian 20 0 ++ littleEndian 8 0 ++ littleEndian 32 0
    ++ littleEndian 1 1)

end Sighash

variable {target : Target}

/-- A parsed input with sequence 0. -/
structure RepresentsInput (txin : TransactionInput) (client : ClientInput) : Prop where
  value : txin.value = client.value
  txId : txin.txId = client.txId
  index : txin.index = client.index
  sequence : txin.sequence = 0

structure RepresentsOutput (txout : TransactionOutput) (client : ClientOutput) : Prop where
  value : txout.value = client.value
  script : AcceptedScript txout.scriptPublicKey client.scriptPublicKey

/-- The device holds the client's transaction. -/
structure Represents (tx : Transaction target) (client : ClientTransaction) : Prop where
  counted : tx.Counted
  version : tx.version = client.version
  inputs : List.Forall₂ RepresentsInput tx.declaredInputs client.inputs
  outputs : List.Forall₂ RepresentsOutput tx.declaredOutputs client.outputs

/-- Lists of related items are absorbed as the same bytes. -/
theorem flatMap_eq_of_forall₂ {Item Other : Type} {related : Item → Other → Prop}
    {items : List Item} {others : List Other} (matching : List.Forall₂ related items others)
    {bytes : Item → List UInt8} {otherBytes : Other → List UInt8}
    (same : ∀ item other, related item other → bytes item = otherBytes other)
    : items.flatMap bytes = others.flatMap otherBytes := by
  induction matching with
  | nil => rfl
  | cons first _ ih => rw [List.flatMap_cons, List.flatMap_cons, same _ _ first, ih]

/-- Of a slot that holds a script, exactly the script is committed. -/
theorem committedScript_of_holds {txout : TransactionOutput} {script : PaymentScript}
    (holds : Holds txout.scriptPublicKey script) (stray : Stray)
    : committedScript stray txout = script.bytes := by
  have fits : script.bytes.length ≤ scriptPublicKeyBufferLen :=
    script.length_bytes_le.trans (by decide)
  rw [committedScript, holds.scriptLen, Memory.readBlock_of_le _ _ fits]
  exact holds

/-- The client computes the length of a payment script from its first byte. -/
theorem scriptLength_bytes (script : PaymentScript)
    : Sighash.scriptLength script.bytes = script.bytes.length := by
  rw [script.length_bytes]
  cases script <;> rfl

theorem RepresentsOutput.bytes {txout : TransactionOutput} {client : ClientOutput}
    (represents : RepresentsOutput txout client) (stray : Stray)
    : outputBytes txout.value (committedScript stray txout)
      = littleEndian 8 client.value.toNat ++ littleEndian 2 0
        ++ littleEndian 8 (Sighash.scriptLength client.scriptPublicKey)
        ++ client.scriptPublicKey := by
  obtain ⟨script, same, holds⟩ := represents.script.holds
  rw [committedScript_of_holds holds, same, scriptLength_bytes, represents.value, outputBytes]

/-- The input that is signed is the client's input of that index. -/
theorem Represents.signed {tx : Transaction target} {client : ClientTransaction}
    (represents : Represents tx client) {index : Nat} {txin : ClientInput}
    (signed : client.inputs[index]? = some txin) (stray : Stray)
    : RepresentsInput (tx.input stray index) txin := by
  obtain ⟨inside, found⟩ := List.getElem?_eq_some_iff.mp signed
  have inputs := represents.inputs
  rw [← map_input_eq_declaredInputs represents.counted stray] at inputs
  obtain ⟨length, each⟩ := List.forall₂_iff_get.mp inputs
  have related := each index (by omega) inside
  simpa [found] using related

/-- `calc_sighash` succeeds and writes the hash of the reference, for every input of the
client's transaction.
-/
theorem calcSighash_eq_toHash (blake2b : List UInt8 → List UInt8 → Bytes 32) (stray : Stray)
    {tx : Transaction target} {client : ClientTransaction} (represents : Represents tx client)
    {index : Nat} {txin : ClientInput} (signed : client.inputs[index]? = some txin)
    (outHash : Bytes 32) {outLen : Nat} (room : 32 ≤ outLen)
    : calcSighash blake2b stray tx (tx.input stray index) txin.publicKey outHash outLen
      = some (Sighash.toHash (blake2b signingKey) client txin) := by
  have input := represents.signed signed stray
  have visited : tx.visitedInputs stray = tx.declaredInputs :=
    map_input_eq_declaredInputs represents.counted stray
  have visitedOutputs : tx.visitedOutputs stray = tx.declaredOutputs :=
    map_output_eq_declaredOutputs represents.counted stray
  have outpoints
      : tx.declaredInputs.flatMap outpointBytes
        = client.inputs.flatMap fun txin =>
            txin.txId.toList ++ littleEndian 4 txin.index.toNat :=
    flatMap_eq_of_forall₂ represents.inputs fun _ _ same => by
      rw [outpointBytes, same.txId, same.index]
  have sequences
      : tx.declaredInputs.flatMap sequenceBytes
        = client.inputs.flatMap fun _ => littleEndian 8 0 :=
    flatMap_eq_of_forall₂ represents.inputs fun _ _ same => by
      rw [sequenceBytes, same.sequence]
      rfl
  have sigOpCounts
      : (tx.declaredInputs.flatMap fun _ => [1])
        = client.inputs.flatMap fun _ => littleEndian 1 1 :=
    flatMap_eq_of_forall₂ represents.inputs fun _ _ _ => rfl
  have outputs
      : (tx.declaredOutputs.flatMap fun txout =>
          outputBytes txout.value (committedScript stray txout))
        = client.outputs.flatMap fun txout =>
            littleEndian 8 txout.value.toNat ++ littleEndian 2 0
            ++ littleEndian 8 (Sighash.scriptLength txout.scriptPublicKey)
            ++ txout.scriptPublicKey :=
    flatMap_eq_of_forall₂ represents.outputs fun _ _ same => same.bytes stray
  rw [calcSighash_eq blake2b stray tx _ _ _ room, sighashPreimage, Transaction.committedOutputs,
    List.flatMap_map, visited, visitedOutputs, outpoints, sequences, sigOpCounts, outputs,
    represents.version, input.txId, input.index, input.value, input.sequence]
  rfl

def InputPayload.client (payload : InputPayload) (publicKey : Bytes 32) : ClientInput :=
  {
    value := payload.value
    txId := payload.txId
    index := payload.index
    publicKey := publicKey
  }

def OutputPayload.client (payload : OutputPayload) : ClientOutput :=
  { value := payload.value, scriptPublicKey := payload.script.bytes }

/-- The device holds every transaction that it parsed from the payloads of a client. -/
theorem Declares.represents {header : HeaderPayload} {inputs : List InputPayload}
    {outputs : List OutputPayload} (declares : Declares target header inputs outputs)
    (publicKey : Bytes 32)
    : Represents (parsedTransaction target header inputs outputs)
        {
          version := header.version
          inputs := inputs.map fun payload => payload.client publicKey
          outputs := outputs.map OutputPayload.client
        } := by
  refine ⟨declares.counted, rfl, ?_, ?_⟩
  · rw [declares.declaredInputs, List.forall₂_map_left_iff, List.forall₂_map_right_iff,
      List.forall₂_same]
    exact fun payload _ => ⟨rfl, rfl, rfl, rfl⟩
  · rw [declares.declaredOutputs, List.forall₂_map_left_iff, List.forall₂_map_right_iff,
      List.forall₂_same]
    exact fun payload _ => ⟨rfl, acceptedScript_into payload .zero⟩

/-- The hash over a transaction of payloads does not depend on what lies behind its arrays. -/
theorem Declares.calcSighash_stray {header : HeaderPayload} {inputs : List InputPayload}
    {outputs : List OutputPayload} (declares : Declares target header inputs outputs)
    (blake2b : List UInt8 → List UInt8 → Bytes 32) (left right : Stray) (txin : TransactionInput)
    (publicKey outHash : Bytes 32) {outLen : Nat} (room : 32 ≤ outLen)
    : calcSighash blake2b left (parsedTransaction target header inputs outputs) txin publicKey
        outHash outLen
      = calcSighash blake2b right (parsedTransaction target header inputs outputs) txin publicKey
          outHash outLen := by
  have visited (stray : Stray)
      : (parsedTransaction target header inputs outputs).visitedInputs stray
        = (parsedTransaction target header inputs outputs).declaredInputs :=
    map_input_eq_declaredInputs declares.counted stray
  have committed (stray : Stray)
      : (parsedTransaction target header inputs outputs).committedOutputs stray
        = outputs.map fun payload => (payload.value, payload.script.bytes) := by
    have visitedOutputs
        : (parsedTransaction target header inputs outputs).visitedOutputs stray
          = outputs.map fun payload => payload.into .zero :=
      (map_output_eq_declaredOutputs declares.counted stray).trans declares.declaredOutputs
    rw [Transaction.committedOutputs, visitedOutputs, List.map_map]
    apply List.map_congr_left
    intro payload _
    have holds : Holds (payload.into .zero).scriptPublicKey payload.script := holds_copy _ _
    exact congrArg (Prod.mk payload.value) (committedScript_of_holds holds stray)
  rw [calcSighash_eq blake2b left _ _ _ _ room, calcSighash_eq blake2b right _ _ _ _ room,
    visited left, visited right, committed left, committed right]

/-- A hash that depends on every byte of its data, for examples. -/
def exampleHash (_ data : List UInt8) : Bytes 32 :=
  Memory.ofList (littleEndian 32 (fromBigEndian (1 :: data) % (2 ^ 255 - 19)))
    (length_littleEndian 32 _)

/-- Two inputs and one output, and the client's view of them. -/
def exampleInputs : List InputPayload := [plainInput 5, plainInput 7]

def exampleTransaction : Transaction .nanos :=
  parsedTransaction .nanos (plainHeader 1 2) exampleInputs [plainOutput 4]

def exampleClient : ClientTransaction :=
  {
    version := (plainHeader 1 2).version
    inputs := exampleInputs.map fun payload => payload.client (Vector.replicate 32 9)
    outputs := [plainOutput 4].map OutputPayload.client
  }

theorem calcSighash_eq_toHash_sample
    : calcSighash exampleHash (Env.succeeding.stray .calcSighash) exampleTransaction
        (exampleTransaction.input (Env.succeeding.stray .calcSighash) 1)
        (Vector.replicate 32 9) (Bytes.zero 32) 32
      = some (Sighash.toHash (exampleHash signingKey) exampleClient
          ((plainInput 7).client (Vector.replicate 32 9))) := by
  have declares : Declares .nanos (plainHeader 1 2) exampleInputs [plainOutput 4] :=
    ⟨⟨by decide, by decide, by decide, by decide, by decide, by decide⟩, rfl, rfl⟩
  have represents : Represents exampleTransaction exampleClient :=
    declares.represents (Vector.replicate 32 9)
  have signed
      : exampleClient.inputs[1]? = some ((plainInput 7).client (Vector.replicate 32 9)) :=
    rfl
  exact calcSighash_eq_toHash exampleHash (Env.succeeding.stray .calcSighash) represents signed
    (Bytes.zero 32) (Nat.le_refl 32)

end KaspaApp
