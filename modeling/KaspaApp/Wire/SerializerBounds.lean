import KaspaApp.Wire.RoundTrips

/-! The cells that the serialisers write, against the length of the buffer. Each serialiser
checks the length once, in front of its first write, against a constant.
-/

namespace KaspaApp

open FixedWidth Memory

variable {target : Target} {outLen : Nat}

/-- The writes of `transaction_serialize`. -/
def transactionSerializeStores (tx : Transaction target)
    (path : Vector UInt32 kaspaMaxBip32PathLen) (outLen : Nat)
    : List (Nat × List UInt8) :=
  if outLen < 9 then
    []
  else
    inSequence 0
      [bigEndian 2 tx.version.toNat,
        bigEndian 1 tx.txOutputLen.toUInt8.toNat,
        bigEndian 1 tx.txInputLen.toUInt8.toNat,
        bigEndian 1 (getElem path 3 three_lt_pathLen).toUInt8.toNat,
        bigEndian 4 (getElem path 4 four_lt_pathLen).toNat,
        bigEndian 4 (getElem path 2 two_lt_pathLen).toNat]

/-- The writes of `transaction_input_serialize`. -/
def transactionInputSerializeStores (txin : TransactionInput) (outLen : Nat)
    : List (Nat × List UInt8) :=
  if outLen < 46 then
    []
  else
    inSequence 0
      [bigEndian 8 txin.value.toNat,
        txin.txId.toList,
        bigEndian 1 txin.addressType.toNat,
        bigEndian 4 txin.addressIndex.toNat,
        bigEndian 1 txin.index.toNat]

/-- The writes of `transaction_output_serialize`. -/
def transactionOutputSerializeStores (stray : Stray) (txout : TransactionOutput) (outLen : Nat)
    : List (Nat × List UInt8) :=
  let script := txout.scriptPublicKey
  if outLen < 41 then
    []
  else if getElem script 0 zero_lt_bufferLen = opBlake2b then
    let scriptLen := (getElem script 1 one_lt_bufferLen).toNat
    inSequence 0
      [bigEndian 8 txout.value.toNat, readBlock script stray.script (scriptLen + 3)]
  else
    let scriptLen := (getElem script 0 zero_lt_bufferLen).toNat
    inSequence 0
      [bigEndian 8 txout.value.toNat, readBlock script stray.script (scriptLen + 2)]

/-- The buffers that the serialisers leave are what these writes make of them. -/
theorem transactionSerialize_stores (tx : Transaction target)
    (path : Vector UInt32 kaspaMaxBip32PathLen) (out : Bytes outLen)
    : (transactionSerialize tx path out).2
      = storeAll out (transactionSerializeStores tx path outLen) := by
  by_cases short : outLen < 9
  · rw [transactionSerialize, transactionSerializeStores, if_pos short, if_pos short]
    rfl
  · rw [transactionSerialize, transactionSerializeStores, if_neg short, if_neg short]
    simp [inSequence, storeAll, writeU8, writeU16Be, writeU32Be]

theorem transactionInputSerialize_stores (txin : TransactionInput) (out : Bytes outLen)
    : (transactionInputSerialize txin out).2
      = storeAll out (transactionInputSerializeStores txin outLen) := by
  by_cases short : outLen < 46
  · rw [transactionInputSerialize, transactionInputSerializeStores, if_pos short, if_pos short]
    rfl
  · rw [transactionInputSerialize, transactionInputSerializeStores, if_neg short, if_neg short]
    simp [inSequence, storeAll, writeU8, writeU32Be, writeU64Be]

theorem transactionOutputSerialize_stores (stray : Stray) (txout : TransactionOutput)
    (out : Bytes outLen)
    : (transactionOutputSerialize stray txout out).2
      = storeAll out (transactionOutputSerializeStores stray txout outLen) := by
  rw [transactionOutputSerialize, transactionOutputSerializeStores]
  by_cases short : outLen < 41
  · rw [if_pos short, if_pos short]
    rfl
  · rw [if_neg short, if_neg short]
    by_cases p2sh : getElem txout.scriptPublicKey 0 zero_lt_bufferLen = opBlake2b
    · simp only [if_pos p2sh]
      simp [inSequence, storeAll, writeU64Be]
    · simp only [if_neg p2sh]
      simp [inSequence, storeAll, writeU64Be]

/-- A serialiser refuses and writes nothing, or it writes as many bytes as it returns, from the
start of the buffer and inside it.
-/
def RespectsBuffer (outLen : Nat) (returned : Int) (stores : List (Nat × List UInt8)) : Prop :=
  (returned = -1 ∧ storedCells stores = [])
  ∨ ∃ length : Nat,
      returned = length ∧ length ≤ outLen ∧ ∀ cell, cell ∈ storedCells stores ↔ cell < length

/-- A serialiser that writes `size` bytes behind a check of the length respects its buffer if
the check refuses, and else if they have room.
-/
theorem respectsBuffer_of_check {limit size : Nat} {returned : Int}
    {stores : List (Nat × List UInt8)}
    (refused : outLen < limit → returned = -1 ∧ stores = [])
    (written
      : ¬ outLen < limit
        → returned = size
          ∧ ∃ parts : List (List UInt8),
              stores = inSequence 0 parts ∧ parts.flatten.length = size)
    : RespectsBuffer outLen returned stores ↔ outLen < limit ∨ size ≤ outLen := by
  by_cases short : outLen < limit
  · obtain ⟨rfl, rfl⟩ := refused short
    exact iff_of_true (.inl ⟨rfl, rfl⟩) (.inl short)
  · obtain ⟨rfl, parts, rfl, rfl⟩ := written short
    constructor
    · rintro (⟨minusOne, -⟩ | ⟨length, returned, room, -⟩)
      · omega
      · exact .inr (by omega)
    · rintro (refuses | room)
      · exact absurd refuses short
      · refine .inr ⟨_, rfl, room, fun cell => ?_⟩
        rw [mem_storedCells_inSequence]
        omega

/-- The check is for 9 bytes, the header has 13. -/
theorem transactionSerialize_respectsBuffer_iff (tx : Transaction target)
    (path : Vector UInt32 kaspaMaxBip32PathLen) (out : Bytes outLen)
    : RespectsBuffer outLen (transactionSerialize tx path out).1
        (transactionSerializeStores tx path outLen)
      ↔ outLen < 9 ∨ 13 ≤ outLen := by
  apply respectsBuffer_of_check
  · intro short
    rw [transactionSerialize, transactionSerializeStores, if_pos short, if_pos short]
    exact ⟨rfl, rfl⟩
  · intro long
    rw [transactionSerialize, transactionSerializeStores, if_neg long, if_neg long]
    exact ⟨rfl, _, rfl, by simp⟩

/-- The check of an input is for what an input has. -/
theorem transactionInputSerialize_respectsBuffer (txin : TransactionInput) (out : Bytes outLen)
    : RespectsBuffer outLen (transactionInputSerialize txin out).1
        (transactionInputSerializeStores txin outLen) := by
  have check
      : RespectsBuffer outLen (transactionInputSerialize txin out).1
          (transactionInputSerializeStores txin outLen)
        ↔ outLen < 46 ∨ 46 ≤ outLen := by
    apply respectsBuffer_of_check
    · intro short
      rw [transactionInputSerialize, transactionInputSerializeStores, if_pos short, if_pos short]
      exact ⟨rfl, rfl⟩
    · intro long
      rw [transactionInputSerialize, transactionInputSerializeStores, if_neg long, if_neg long]
      exact ⟨rfl, _, rfl, by simp⟩
  exact check.mpr (Nat.lt_or_ge outLen 46)

/-- The check is for 41 bytes, an output has a value of 8 bytes and its script. -/
theorem transactionOutputSerialize_respectsBuffer_iff (stray : Stray) {txout : TransactionOutput}
    {script : PaymentScript} (holds : Holds txout.scriptPublicKey script) (out : Bytes outLen)
    : RespectsBuffer outLen (transactionOutputSerialize stray txout out).1
        (transactionOutputSerializeStores stray txout outLen)
      ↔ outLen < 41 ∨ 8 + script.bytes.length ≤ outLen := by
  have scriptLen := holds.serializedLen
  have block := holds.readBlock stray.script
  apply respectsBuffer_of_check
  · intro short
    rw [transactionOutputSerialize, transactionOutputSerializeStores, if_pos short, if_pos short]
    exact ⟨rfl, rfl⟩
  · intro long
    have parts
        : [bigEndian 8 txout.value.toNat, script.bytes].flatten.length
          = 8 + script.bytes.length := by
      simp
    rw [transactionOutputSerialize, transactionOutputSerializeStores, if_neg long, if_neg long]
    by_cases p2sh : txout.scriptPublicKey[0] = opBlake2b
    · rw [if_pos p2sh] at scriptLen
      simp only [if_pos p2sh, scriptLen, block]
      exact ⟨by simp, _, rfl, parts⟩
    · rw [if_neg p2sh] at scriptLen
      simp only [if_neg p2sh, scriptLen, block]
      exact ⟨by simp, _, rfl, parts⟩

/-- An input is always written inside its buffer, a header and an output with an accepted script
exactly where the buffer is not between the constant of the check and what is written.
-/
theorem serializersRespectBuffer_iff (tx : Transaction target)
    (path : Vector UInt32 kaspaMaxBip32PathLen) (txin : TransactionInput) (stray : Stray)
    {txout : TransactionOutput} {script : List UInt8}
    (accepted : AcceptedScript txout.scriptPublicKey script) (out : Bytes outLen)
    : (RespectsBuffer outLen (transactionSerialize tx path out).1
          (transactionSerializeStores tx path outLen)
        ↔ outLen < 9 ∨ 13 ≤ outLen)
      ∧ RespectsBuffer outLen (transactionInputSerialize txin out).1
          (transactionInputSerializeStores txin outLen)
      ∧ (RespectsBuffer outLen (transactionOutputSerialize stray txout out).1
            (transactionOutputSerializeStores stray txout outLen)
          ↔ outLen < 41 ∨ 8 + script.length ≤ outLen) := by
  obtain ⟨template, rfl, holds⟩ := accepted.holds
  exact ⟨transactionSerialize_respectsBuffer_iff tx path out,
    transactionInputSerialize_respectsBuffer txin out,
    transactionOutputSerialize_respectsBuffer_iff stray holds out⟩

/-- In a buffer of 46 bytes every serialiser has room. -/
theorem serializersRespectBuffer_iff_sample
    : RespectsBuffer 46
          (transactionSerialize (.zero .nanos) (Vector.replicate 5 0) (Bytes.zero 46)).1
          (transactionSerializeStores (.zero .nanos) (Vector.replicate 5 0) 46)
      ∧ RespectsBuffer 46 (transactionInputSerialize .zero (Bytes.zero 46)).1
          (transactionInputSerializeStores .zero 46)
      ∧ RespectsBuffer 46
          (transactionOutputSerialize .zero ((plainOutput 4).into .zero) (Bytes.zero 46)).1
          (transactionOutputSerializeStores .zero ((plainOutput 4).into .zero) 46) := by
  obtain ⟨header, input, output⟩ :=
    serializersRespectBuffer_iff (.zero .nanos) (Vector.replicate 5 0) .zero .zero
      (acceptedScript_into (plainOutput 4) .zero) (Bytes.zero 46)
  exact ⟨header.mpr (.inr (by decide)), input, output.mpr (.inr (by decide))⟩

/-- Buffers of 9 and of 41 bytes pass the checks and are left. -/
theorem serializers_leave_buffer
    : ¬ RespectsBuffer 9
          (transactionSerialize (.zero .nanos) (Vector.replicate 5 0) (Bytes.zero 9)).1
          (transactionSerializeStores (.zero .nanos) (Vector.replicate 5 0) 9)
      ∧ ¬ RespectsBuffer 41
          (transactionOutputSerialize .zero ((plainOutput 4).into .zero) (Bytes.zero 41)).1
          (transactionOutputSerializeStores .zero ((plainOutput 4).into .zero) 41) := by
  have holds : Holds ((plainOutput 4).into .zero).scriptPublicKey (plainOutput 4).script :=
    holds_copy (TransactionOutput.zero).scriptPublicKey (plainOutput 4).script
  constructor
  · rw [transactionSerialize_respectsBuffer_iff]
    omega
  · rw [transactionOutputSerialize_respectsBuffer_iff .zero holds]
    decide

end KaspaApp
