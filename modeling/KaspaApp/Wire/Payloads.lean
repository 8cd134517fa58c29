import KaspaApp.Library.FixedWidth
import KaspaApp.Model.Device
import KaspaApp.Wire.Scripts

/-! The payloads of `SIGN_TX` as the client serialises them (`kaspa_transaction.py`) and the
commands that carry them (`kaspa_command_sender.py`).
-/

namespace KaspaApp

open FixedWidth

/-- The fields of the first chunk of a transaction. -/
structure HeaderPayload where
  version : UInt16
  outputs : UInt8
  inputs : UInt8
  changeType : UInt8
  changeIndex : UInt32
  account : UInt32
deriving DecidableEq

structure OutputPayload where
  value : UInt64
  script : PaymentScript
deriving DecidableEq

structure InputPayload where
  value : UInt64
  txId : Bytes 32
  addressType : UInt8
  addressIndex : UInt32
  index : UInt8
deriving DecidableEq

/-- `serialize_first_chunk`. -/
def HeaderPayload.serialize (header : HeaderPayload) : List UInt8 :=
  bigEndian 2 header.version.toNat ++ bigEndian 1 header.outputs.toNat
  ++ bigEndian 1 header.inputs.toNat ++ bigEndian 1 header.changeType.toNat
  ++ bigEndian 4 header.changeIndex.toNat ++ bigEndian 4 header.account.toNat

/-- `TransactionOutput.serialize`. -/
def OutputPayload.serialize (txout : OutputPayload) : List UInt8 :=
  bigEndian 8 txout.value.toNat ++ txout.script.bytes

/-- `TransactionInput.serialize`. -/
def InputPayload.serialize (txin : InputPayload) : List UInt8 :=
  bigEndian 8 txin.value.toNat ++ txin.txId.toList ++ bigEndian 1 txin.addressType.toNat
  ++ bigEndian 4 txin.addressIndex.toNat ++ bigEndian 1 txin.index.toNat

/-- The field values that the header parser lets through. -/
structure HeaderPayload.Allowed (target : Target) (header : HeaderPayload) : Prop where
  outputsPos : 1 ≤ header.outputs.toNat
  outputsLe : header.outputs.toNat ≤ 2
  inputsPos : 1 ≤ header.inputs.toNat
  inputsLe : header.inputs.toNat ≤ target.maxInputCount
  changeType : header.changeType = 0 ∨ header.changeType = 1
  hardened : 0x80000000 ≤ header.account.toNat

@[simp] theorem HeaderPayload.length_serialize (header : HeaderPayload)
    : header.serialize.length = 13 := by
  simp [serialize]

@[simp] theorem InputPayload.length_serialize (txin : InputPayload)
    : txin.serialize.length = 46 := by
  simp [serialize]

/-- A `SIGN_TX` APDU. -/
def signTxCommand (p1 p2 : UInt8) (data : List UInt8) : Command :=
  { cla := kaspaCla, ins := insSignTx, p1 := p1, p2 := p2, data := data }

def headerCommand (header : HeaderPayload) : Command :=
  signTxCommand p1Start p2More header.serialize

def outputCommand (txout : OutputPayload) : Command :=
  signTxCommand p1Outputs p2More txout.serialize

def inputCommand (more : Bool) (txin : InputPayload) : Command :=
  signTxCommand p1Inputs (if more then p2More else p2Last) txin.serialize

def nextSignatureCommand : Command := signTxCommand p1NextSignature p2Last []

/-- The commands of `sign_tx`: the header, every output, every input, the last one marked. -/
def signTxCommands (header : HeaderPayload) (outputs : List OutputPayload)
    (inputs : List InputPayload) (last : InputPayload)
    : List Command :=
  [headerCommand header] ++ outputs.map outputCommand ++ inputs.map (inputCommand true)
  ++ [inputCommand false last]

/-- A session of the client up to the user's decision. -/
def decidedSession (choice : Bool) (header : HeaderPayload) (outputs : List OutputPayload)
    (inputs : List InputPayload) (last : InputPayload)
    : List Input :=
  (signTxCommands header outputs inputs last).map Input.apdu ++ [.decision choice]

/-- Payloads with nothing but counts or a value. -/
def plainHeader (outputs inputs : UInt8) : HeaderPayload :=
  ⟨0, outputs, inputs, 0, 0, 0x80000000⟩

def plainOutput (value : UInt64) : OutputPayload := ⟨value, .schnorr (Bytes.zero 32)⟩

def plainInput (value : UInt64) : InputPayload := ⟨value, Bytes.zero 32, 0, 0, 0⟩

end KaspaApp
