import KaspaApp.Wire.Headers
import KaspaApp.Wire.Inputs
import KaspaApp.Wire.Outputs

/-! Transactions as the arrays of the device hold them: the declared part of the arrays, and
what the parsers leave of the payloads of a client.
-/

namespace KaspaApp

variable {target : Target}

/-- The counts of a transaction are in the range that the header parser lets through. -/
structure Transaction.Counted (tx : Transaction target) : Prop where
  inputsPos : 1 ≤ tx.txInputLen.toNat
  inputsLe : tx.txInputLen.toNat ≤ target.maxInputCount
  outputsPos : 1 ≤ tx.txOutputLen.toNat
  outputsLe : tx.txOutputLen.toNat ≤ maxOutputCount

def Transaction.declaredInputs (tx : Transaction target) : List TransactionInput :=
  tx.txInputs.toList.take tx.txInputLen.toNat

def Transaction.declaredOutputs (tx : Transaction target) : List TransactionOutput :=
  tx.txOutputs.toList.take tx.txOutputLen.toNat

/-- A loop over the declared inputs stays inside their array. -/
theorem map_input_eq_declaredInputs {tx : Transaction target} (counted : tx.Counted)
    (stray : Stray)
    : (List.range tx.txInputLen.toNat).map (tx.input stray) = tx.declaredInputs :=
  Memory.readBlock_of_le tx.txInputs stray.inputs counted.inputsLe

theorem map_output_eq_declaredOutputs {tx : Transaction target} (counted : tx.Counted)
    (stray : Stray)
    : (List.range tx.txOutputLen.toNat).map (tx.output stray) = tx.declaredOutputs :=
  Memory.readBlock_of_le tx.txOutputs stray.outputs counted.outputsLe

/-- The transaction that the parsers leave of a header, inputs and outputs. -/
def parsedTransaction (target : Target) (header : HeaderPayload) (inputs : List InputPayload)
    (outputs : List OutputPayload)
    : Transaction target :=
  { header.into (.zero target) with
    txInputs :=
      Memory.copy (Vector.replicate target.maxInputCount .zero)
        (inputs.map fun payload => payload.into .zero)
    txOutputs :=
      Memory.copy (Vector.replicate maxOutputCount .zero)
        (outputs.map fun payload => payload.into .zero) }

/-- The header declares as many inputs and outputs as there are. -/
structure Declares (target : Target) (header : HeaderPayload) (inputs : List InputPayload)
    (outputs : List OutputPayload)
    : Prop where
  allowed : header.Allowed target
  inputs : header.inputs.toNat = inputs.length
  outputs : header.outputs.toNat = outputs.length

variable {header : HeaderPayload} {inputs : List InputPayload} {outputs : List OutputPayload}

theorem Declares.counted (declares : Declares target header inputs outputs)
    : (parsedTransaction target header inputs outputs).Counted := by
  have allowed := declares.allowed
  have inputCount : header.inputs.toUInt32.toNat = header.inputs.toNat := UInt8.toNat_toUInt32 _
  have outputCount : header.outputs.toUInt32.toNat = header.outputs.toNat := UInt8.toNat_toUInt32 _
  exact ⟨inputCount.symm ▸ allowed.inputsPos, inputCount.symm ▸ allowed.inputsLe,
    outputCount.symm ▸ allowed.outputsPos, outputCount.symm ▸ allowed.outputsLe⟩

theorem Declares.declaredInputs (declares : Declares target header inputs outputs)
    : (parsedTransaction target header inputs outputs).declaredInputs
      = inputs.map fun payload => payload.into .zero := by
  have count
      : header.inputs.toUInt32.toNat = (inputs.map fun payload => payload.into .zero).length := by
    rw [List.length_map, UInt8.toNat_toUInt32, declares.inputs]
  have fits : (inputs.map fun payload => payload.into .zero).length ≤ target.maxInputCount := by
    rw [List.length_map, ← declares.inputs]
    exact declares.allowed.inputsLe
  have copied := Memory.take_copy (Vector.replicate target.maxInputCount TransactionInput.zero) _ fits
  rwa [← count] at copied

theorem Declares.declaredOutputs (declares : Declares target header inputs outputs)
    : (parsedTransaction target header inputs outputs).declaredOutputs
      = outputs.map fun payload => payload.into .zero := by
  have count
      : header.outputs.toUInt32.toNat = (outputs.map fun payload => payload.into .zero).length := by
    rw [List.length_map, UInt8.toNat_toUInt32, declares.outputs]
  have fits : (outputs.map fun payload => payload.into .zero).length ≤ maxOutputCount := by
    rw [List.length_map, ← declares.outputs]
    exact declares.allowed.outputsLe
  have copied := Memory.take_copy (Vector.replicate maxOutputCount TransactionOutput.zero) _ fits
  rwa [← count] at copied

end KaspaApp
