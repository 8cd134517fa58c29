import KaspaApp.Wire.Payloads
import KaspaApp.Wire.Readers

/-! `transaction_input_deserialize` accepts exactly the serialised inputs, and writes every
field of its slot but the sequence number.
-/

namespace KaspaApp

open FixedWidth

variable {buf : Buffer} {txin : TransactionInput}

/-- The input slot after an accepted payload. -/
def InputPayload.into (payload : InputPayload) (txin : TransactionInput) : TransactionInput :=
  { txin with
    value := payload.value
    txId := payload.txId
    addressType := payload.addressType
    addressIndex := payload.addressIndex
    index := payload.index }

/-- The input that the parser's readers have found. -/
theorem input_of_fields {bytes txId : List UInt8} {value : UInt64} {addressType index : UInt8}
    {addressIndex : UInt32} (fills : txId.length = 32)
    (read
      : bytes
        = bigEndian 8 value.toNat ++ (txId ++ (bigEndian 1 addressType.toNat
          ++ (bigEndian 4 addressIndex.toNat ++ (bigEndian 1 index.toNat ++ [])))))
    : ∃ payload : InputPayload, bytes = payload.serialize := by
  refine ⟨⟨value, Memory.ofList txId fills, addressType, addressIndex, index⟩, ?_⟩
  simpa only [InputPayload.serialize, Memory.toList_ofList, List.append_assoc, List.append_nil]
    using read

/-- An accepted payload is the serialisation of an input. Witness: each reader that succeeded,
in turn.
-/
theorem input_of_parsed (ok : (transactionInputDeserialize buf txin).1 = .parsingOk)
    : ∃ payload : InputPayload, buf.rest = payload.serialize := by
  unfold transactionInputDeserialize at ok
  simp only at ok
  obtain ⟨value, ok⟩ := read_of_ok ok
  obtain ⟨txId, ok⟩ := read_of_ok ok
  obtain ⟨-, ok⟩ := read_of_ok ok
  obtain ⟨addressType, ok⟩ := read_of_ok ok
  obtain ⟨addressIndex, ok⟩ := read_of_ok ok
  obtain ⟨index, ok⟩ := read_of_ok ok
  have nothingLeft := rest_eq_nil_of_ok ok
  have enough := (Buffer.canRead_iff 32).mp txId
  rw [Buffer.seekCur_of_le (by decide) enough] at addressType addressIndex index nothingLeft
  have valueBytes := Buffer.rest_of_readU64 value
  have txIdBytes : buf.readU64.next.rest
      = buf.readU64.next.rest.take 32 ++ (buf.readU64.next.advance 32).rest := by
    rw [Buffer.rest_advance, List.take_append_drop]
  have addressTypeBytes := Buffer.rest_of_readU8 addressType
  have addressIndexBytes := Buffer.rest_of_readU32 addressIndex
  have indexBytes := Buffer.rest_of_readU8 index
  have bytes :=
    rest_chain valueBytes (rest_chain txIdBytes (rest_chain addressTypeBytes
      (rest_chain addressIndexBytes (rest_chain indexBytes nothingLeft))))
  have fills : (buf.readU64.next.rest.take 32).length = 32 := by
    rw [List.length_take]
    omega
  exact input_of_fields fills bytes

/-- The serialisation of an input is accepted, and its fields are stored. -/
theorem transactionInputDeserialize_serialize {payload : InputPayload}
    (bytes : buf.rest = payload.serialize)
    : transactionInputDeserialize buf txin = (.parsingOk, payload.into txin) := by
  have split
      : buf.rest
        = bigEndian 8 payload.value.toNat ++ (payload.txId.toList
          ++ (bigEndian 1 payload.addressType.toNat ++ (bigEndian 4 payload.addressIndex.toNat
          ++ (bigEndian 1 payload.index.toNat ++ [])))) := by
    simpa only [InputPayload.serialize, List.append_assoc, List.append_nil] using bytes
  obtain ⟨value, rest⟩ := Buffer.readU64_append split
  have enough : 32 ≤ (buf.advance 8).rest.length := by
    rw [rest, List.length_append, Vector.length_toList]
    omega
  have canRead := (Buffer.canRead_iff 32).mpr enough
  have skipped := Buffer.seekCur_of_le (by decide) enough
  have txId : (buf.advance 8).bytes 32 = payload.txId.toList := by
    rw [Buffer.bytes_of_le enough, rest, List.take_left' (by simp)]
  have rest := (Buffer.rest_advance (buf.advance 8) 32).trans (congrArg (List.drop 32) rest)
  rw [List.drop_left' (by simp)] at rest
  obtain ⟨addressType, rest⟩ := Buffer.readU8_append rest
  obtain ⟨addressIndex, rest⟩ := Buffer.readU32_append rest
  obtain ⟨index, rest⟩ := Buffer.readU8_append rest
  have nothingLeft := congrArg List.length rest
  rw [Buffer.length_rest, List.length_nil] at nothingLeft
  simp only [transactionInputDeserialize, value, canRead, skipped, txId, Memory.copy_toList,
    addressType, addressIndex, index, if_pos nothingLeft, Bool.not_true, Bool.false_eq_true,
    if_false]
  rfl

/-- The address type that the parser stores for a payload, if it gets that far. -/
def storedType (data : List UInt8) : Option UInt8 :=
  if data.length < 40 then none else some ((data[40]?).getD 0)

/-- The input parser stores the address type as soon as it has read the bytes before it. -/
theorem transactionInputDeserialize_addressType (buf : Buffer) (txin : TransactionInput)
    : (transactionInputDeserialize buf txin).2.addressType
      = (storedType buf.rest).getD txin.addressType := by
  by_cases value : buf.rest.length < 8
  · have short : buf.rest.length < 40 := by omega
    simp [transactionInputDeserialize, Buffer.readU64, Buffer.readBe_of_lt value, Read.map,
      storedType, short]
  have enough : 8 ≤ buf.rest.length := Nat.not_lt.mp value
  have read := Buffer.readBe_of_le enough
  by_cases txId : buf.rest.length < 40
  · have refused : (buf.advance 8).canRead 32 = false := by
      rw [Bool.eq_false_iff, ne_eq, Buffer.canRead_iff, Buffer.rest_advance, List.length_drop]
      omega
    simp [transactionInputDeserialize, Buffer.readU64, read, Read.map, refused, storedType, txId]
  have present : 32 ≤ (buf.advance 8).rest.length := by
    rw [Buffer.rest_advance, List.length_drop]
    omega
  have canRead := (Buffer.canRead_iff 32).mpr present
  have skipped := Buffer.seekCur_of_le (by decide) present
  have type : ((buf.advance 8).advance 32).readU8.value = (buf.rest[40]?).getD 0 := by
    have rest : ((buf.advance 8).advance 32).rest = buf.rest.drop 40 := by
      rw [Buffer.rest_advance, Buffer.rest_advance, List.drop_drop]
    rw [← List.head?_drop, ← rest]
    cases next : ((buf.advance 8).advance 32).rest with
    | nil => rw [Buffer.readU8, Buffer.readBe_of_lt (by simp [next])]; rfl
    | cons byte after => rw [(Buffer.readU8_cons next).1]; rfl
  rw [storedType, if_neg txId, Option.getD_some, ← type]
  simp only [transactionInputDeserialize, Buffer.readU64, read, Read.map, canRead, skipped,
    Bool.not_true, Bool.false_eq_true, if_false]
  split
  · rfl
  split
  · rfl
  split <;> rfl

end KaspaApp
