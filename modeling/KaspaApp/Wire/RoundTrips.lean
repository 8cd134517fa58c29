import KaspaApp.Model.Serialize
import KaspaApp.Wire.Grammars

/-! The serialisers and the parsers are inverse to each other. A serialiser writes the payload
of the fields it reads; both directions follow from what the parsers make of a payload.
-/

namespace KaspaApp

open FixedWidth

variable {target : Target} {outLen : Nat}

/-- The header that `transaction_serialize` writes. -/
def Transaction.headerPayload (tx : Transaction target)
    (path : Vector UInt32 kaspaMaxBip32PathLen)
    : HeaderPayload :=
  {
    version := tx.version
    outputs := tx.txOutputLen.toUInt8
    inputs := tx.txInputLen.toUInt8
    changeType := (getElem path 3 three_lt_pathLen).toUInt8
    changeIndex := getElem path 4 four_lt_pathLen
    account := getElem path 2 two_lt_pathLen
  }

/-- The input that `transaction_input_serialize` writes. -/
def TransactionInput.payload (txin : TransactionInput) : InputPayload :=
  {
    value := txin.value
    txId := txin.txId
    addressType := txin.addressType
    addressIndex := txin.addressIndex
    index := txin.index
  }

/-- A serialiser has written the bytes: it returns their number and the buffer begins with
them.
-/
def Writes (written : Int × Bytes outLen) (bytes : List UInt8) : Prop :=
  written.1 = bytes.length ∧ written.2.toList.take bytes.length = bytes

theorem writes_copy {bytes : List UInt8} {length : Int} (out : Bytes outLen)
    (returned : length = bytes.length) (room : bytes.length ≤ outLen)
    : Writes (length, Memory.copy out bytes) bytes :=
  ⟨returned, Memory.take_copy out bytes room⟩

theorem transactionSerialize_writes (tx : Transaction target)
    (path : Vector UInt32 kaspaMaxBip32PathLen) (out : Bytes outLen) (room : 13 ≤ outLen)
    : Writes (transactionSerialize tx path out) (tx.headerPayload path).serialize := by
  have enough : ¬ outLen < 9 := by omega
  have written : transactionSerialize tx path out
      = (13, Memory.copy out (tx.headerPayload path).serialize) := by
    simp [transactionSerialize, enough, writeU8, writeU16Be, writeU32Be, Memory.writeAt_zero,
      Memory.writeAt_copy, HeaderPayload.serialize, Transaction.headerPayload]
  rw [written]
  exact writes_copy out (by simp) (by simpa using room)

theorem transactionInputSerialize_writes (txin : TransactionInput) (out : Bytes outLen)
    (room : 46 ≤ outLen)
    : Writes (transactionInputSerialize txin out) txin.payload.serialize := by
  have enough : ¬ outLen < 46 := by omega
  have written : transactionInputSerialize txin out
      = (46, Memory.copy out txin.payload.serialize) := by
    simp [transactionInputSerialize, enough, writeU8, writeU64Be, writeU32Be, Memory.writeAt_zero,
      Memory.writeAt_copy, InputPayload.serialize, TransactionInput.payload]
  rw [written]
  exact writes_copy out (by simp) (by simpa using room)

/-- The length that the serialiser computes from the first bytes of a slot is that of the script
in it.
-/
theorem Holds.serializedLen {slot : Bytes scriptPublicKeyBufferLen} {script : PaymentScript}
    (holds : Holds slot script)
    : (if slot[0] = opBlake2b then slot[1].toNat + 3 else slot[0].toNat + 2)
      = script.bytes.length := by
  have second := holds.getElem? (by have := script.length_bytes_ge; omega : 1 < _)
  rw [holds.tag, script.length_bytes]
  cases script with
  | schnorr key => rfl
  | ecdsa key => rfl
  | p2sh hash =>
      have length : slot[1] = 0x20 := by simpa [PaymentScript.bytes] using second
      rw [length]
      rfl

theorem Holds.readBlock {slot : Bytes scriptPublicKeyBufferLen} {script : PaymentScript}
    (holds : Holds slot script) (behind : Nat → UInt8)
    : Memory.readBlock slot behind script.bytes.length = script.bytes := by
  rw [Memory.readBlock_of_le slot behind (script.length_bytes_le.trans (by decide))]
  exact holds

/-- A slot that holds a script is written as the payload of its value and the script. -/
theorem transactionOutputSerialize_writes (stray : Stray) (txout : TransactionOutput)
    {script : PaymentScript} (holds : Holds txout.scriptPublicKey script) (out : Bytes outLen)
    (room : 8 + script.bytes.length ≤ outLen)
    : Writes (transactionOutputSerialize stray txout out)
        (OutputPayload.serialize ⟨txout.value, script⟩) := by
  have minimum := script.length_bytes_ge
  have enough : ¬ outLen < 41 := by omega
  have scriptLen := holds.serializedLen
  have block := holds.readBlock stray.script
  have value := Memory.writeAt_copy out (length_bigEndian 8 txout.value.toNat) script.bytes
  have written : transactionOutputSerialize stray txout out
      = (Int.ofNat (8 + script.bytes.length),
          Memory.copy out (OutputPayload.serialize ⟨txout.value, script⟩)) := by
    simp only [transactionOutputSerialize, if_neg enough, writeU64Be, Memory.writeAt_zero,
      Nat.zero_add]
    by_cases p2sh : txout.scriptPublicKey[0] = opBlake2b
    · rw [if_pos p2sh] at scriptLen
      rw [if_pos p2sh, scriptLen, block, value, OutputPayload.serialize]
    · rw [if_neg p2sh] at scriptLen
      rw [if_neg p2sh, scriptLen, block, value, OutputPayload.serialize]
  rw [written]
  exact writes_copy out (by simp [OutputPayload.serialize]) (by simpa [OutputPayload.serialize])

/-- What the serialisers read from parsed structures are the fields of the payload. -/
theorem headerPayload_into (header : HeaderPayload) (tx : Transaction target)
    : (header.into tx).headerPayload header.path = header := by
  simp [Transaction.headerPayload, HeaderPayload.into, HeaderPayload.path]

theorem transactionSerialize_parsed {bytes : List UInt8} {behind : Nat → UInt8}
    {tx : Transaction target} {bip32Path : Vector UInt32 kaspaMaxBip32PathLen}
    (accepted
      : (transactionDeserialize (.ofPayload bytes behind) tx bip32Path).1 = .parsingOk)
    (out : Bytes outLen) (room : bytes.length ≤ outLen)
    : Writes
        (transactionSerialize (transactionDeserialize (.ofPayload bytes behind) tx bip32Path).2.1
          (transactionDeserialize (.ofPayload bytes behind) tx bip32Path).2.2 out)
        bytes := by
  obtain ⟨header, allowed, same⟩ := header_of_parsed accepted
  obtain rfl : bytes = header.serialize := same
  have parsed : transactionDeserialize (.ofPayload header.serialize behind) tx bip32Path
      = (.parsingOk, header.into tx, header.path) :=
    transactionDeserialize_serialize allowed rfl
  rw [header.length_serialize] at room
  have written := transactionSerialize_writes (header.into tx) header.path out room
  rw [headerPayload_into] at written
  rw [parsed]
  exact written

theorem transactionInputSerialize_parsed {bytes : List UInt8} {behind : Nat → UInt8}
    {txin : TransactionInput}
    (accepted : (transactionInputDeserialize (.ofPayload bytes behind) txin).1 = .parsingOk)
    (out : Bytes outLen) (room : bytes.length ≤ outLen)
    : Writes
        (transactionInputSerialize (transactionInputDeserialize (.ofPayload bytes behind) txin).2
          out)
        bytes := by
  obtain ⟨payload, same⟩ := input_of_parsed accepted
  obtain rfl : bytes = payload.serialize := same
  have parsed : transactionInputDeserialize (.ofPayload payload.serialize behind) txin
      = (.parsingOk, payload.into txin) :=
    transactionInputDeserialize_serialize rfl
  rw [payload.length_serialize] at room
  rw [parsed]
  exact transactionInputSerialize_writes (payload.into txin) out room

theorem transactionOutputSerialize_parsed {bytes : List UInt8} {behind : Nat → UInt8}
    {txout : TransactionOutput}
    (accepted : (transactionOutputDeserialize (.ofPayload bytes behind) txout).1 = .parsingOk)
    (stray : Stray) (out : Bytes outLen) (room : bytes.length ≤ outLen)
    : Writes
        (transactionOutputSerialize stray
          (transactionOutputDeserialize (.ofPayload bytes behind) txout).2 out)
        bytes := by
  obtain ⟨payload, same⟩ := output_of_parsed accepted
  obtain rfl : bytes = payload.serialize := same
  have parsed : transactionOutputDeserialize (.ofPayload payload.serialize behind) txout
      = (.parsingOk, payload.into txout) :=
    transactionOutputDeserialize_serialize rfl
  rw [OutputPayload.serialize, List.length_append, length_bigEndian] at room
  rw [parsed]
  have holds := holds_copy txout.scriptPublicKey payload.script
  exact transactionOutputSerialize_writes stray (payload.into txout) holds out room

/-- The field values of a transaction and a path that the header parser lets through. -/
structure Transaction.HeaderAllowed (tx : Transaction target)
    (path : Vector UInt32 kaspaMaxBip32PathLen) : Prop where
  outputsPos : 1 ≤ tx.txOutputLen.toNat
  outputsLe : tx.txOutputLen.toNat ≤ 2
  inputsPos : 1 ≤ tx.txInputLen.toNat
  inputsLe : tx.txInputLen.toNat ≤ target.maxInputCount
  changeType : path[3] = 0 ∨ path[3] = 1
  hardened : 0x80000000 ≤ path[2].toNat

/-- The counts and the change type lose nothing in the bytes that carry them. -/
theorem Transaction.HeaderAllowed.exact {tx : Transaction target}
    {path : Vector UInt32 kaspaMaxBip32PathLen} (allowed : tx.HeaderAllowed path)
    : tx.txOutputLen.toUInt8.toUInt32 = tx.txOutputLen
      ∧ tx.txInputLen.toUInt8.toUInt32 = tx.txInputLen
      ∧ path[3].toUInt8.toUInt32 = path[3] := by
  have narrow {value : UInt32} (small : value.toNat < 256) : value.toUInt8.toUInt32 = value := by
    apply UInt32.toNat_inj.mp
    simpa using small
  have outputsLe := allowed.outputsLe
  have inputsLe := allowed.inputsLe
  have limit := target.maxInputCount_le
  refine ⟨narrow (by omega), narrow (by omega), ?_⟩
  rcases allowed.changeType with receive | change
  · rw [receive]
    rfl
  · rw [change]
    rfl

theorem Transaction.HeaderAllowed.payload {tx : Transaction target}
    {path : Vector UInt32 kaspaMaxBip32PathLen} (allowed : tx.HeaderAllowed path)
    : (tx.headerPayload path).Allowed target := by
  obtain ⟨outputs, inputs, changeType⟩ := allowed.exact
  have outputs : tx.txOutputLen.toUInt8.toNat = tx.txOutputLen.toNat := by
    rw [← UInt8.toNat_toUInt32, outputs]
  have inputs : tx.txInputLen.toUInt8.toNat = tx.txInputLen.toNat := by
    rw [← UInt8.toNat_toUInt32, inputs]
  constructor
  · exact outputs ▸ allowed.outputsPos
  · exact outputs ▸ allowed.outputsLe
  · exact inputs ▸ allowed.inputsPos
  · exact inputs ▸ allowed.inputsLe
  · rcases allowed.changeType with receive | change
    · exact Or.inl (congrArg UInt32.toUInt8 receive)
    · exact Or.inr (congrArg UInt32.toUInt8 change)
  · exact allowed.hardened

/-- What a serialiser has written, as the payload of a command. -/
def payloadOf (written : Int × Bytes outLen) : List UInt8 :=
  written.2.toList.take written.1.toNat

theorem Writes.payloadOf_eq {written : Int × Bytes outLen} {bytes : List UInt8}
    (writes : Writes written bytes)
    : payloadOf written = bytes := by
  rw [payloadOf, writes.1]
  exact writes.2

theorem transactionDeserialize_serialized {tx : Transaction target}
    {path : Vector UInt32 kaspaMaxBip32PathLen} (allowed : tx.HeaderAllowed path)
    (out : Bytes outLen) (room : 13 ≤ outLen) (behind : Nat → UInt8) (before : Transaction target)
    (bip32Path : Vector UInt32 kaspaMaxBip32PathLen)
    : transactionDeserialize (.ofPayload (payloadOf (transactionSerialize tx path out)) behind)
          before bip32Path
      = (.parsingOk,
          { before with
            version := tx.version
            txOutputLen := tx.txOutputLen
            txInputLen := tx.txInputLen
            account := path[2] },
          walletPath path[2] path[3] path[4]) := by
  obtain ⟨outputs, inputs, changeType⟩ := allowed.exact
  rw [(transactionSerialize_writes tx path out room).payloadOf_eq,
    transactionDeserialize_serialize allowed.payload rfl]
  simp only [HeaderPayload.into, HeaderPayload.path, Transaction.headerPayload, outputs, inputs,
    changeType]

theorem transactionInputDeserialize_serialized (txin : TransactionInput) (out : Bytes outLen)
    (room : 46 ≤ outLen) (behind : Nat → UInt8) (slot : TransactionInput)
    : transactionInputDeserialize (.ofPayload (payloadOf (transactionInputSerialize txin out)) behind)
          slot
      = (.parsingOk, { txin with sequence := slot.sequence }) := by
  rw [(transactionInputSerialize_writes txin out room).payloadOf_eq,
    transactionInputDeserialize_serialize rfl]
  rfl

theorem transactionOutputDeserialize_serialized (stray : Stray) (txout : TransactionOutput)
    {script : PaymentScript} (holds : Holds txout.scriptPublicKey script) (out : Bytes outLen)
    (room : 8 + script.bytes.length ≤ outLen) (behind : Nat → UInt8) (slot : TransactionOutput)
    : transactionOutputDeserialize
          (.ofPayload (payloadOf (transactionOutputSerialize stray txout out)) behind) slot
      = (.parsingOk,
          { value := txout.value
            scriptPublicKey := Memory.copy slot.scriptPublicKey script.bytes }) := by
  rw [(transactionOutputSerialize_writes stray txout holds out room).payloadOf_eq,
    transactionOutputDeserialize_serialize rfl]
  rfl

/-- Serialisers give back every payload that the parsers accept, and parsers give back the wire
fields of every structure that meets their constraints: for any earlier contents of the
structures and of the buffer, and any memory around them.
-/
theorem encodingsInverse (target : Target) (behind : Nat → UInt8) (stray : Stray)
    (outLen : Nat) (out : Bytes outLen)
    : (∀ (bytes : List UInt8) (tx : Transaction target)
          (bip32Path : Vector UInt32 kaspaMaxBip32PathLen),
        (transactionDeserialize (.ofPayload bytes behind) tx bip32Path).1 = .parsingOk
        → bytes.length ≤ outLen
        → Writes
            (transactionSerialize
              (transactionDeserialize (.ofPayload bytes behind) tx bip32Path).2.1
              (transactionDeserialize (.ofPayload bytes behind) tx bip32Path).2.2 out)
            bytes)
      ∧ (∀ (bytes : List UInt8) (txin : TransactionInput),
          (transactionInputDeserialize (.ofPayload bytes behind) txin).1 = .parsingOk
          → bytes.length ≤ outLen
          → Writes
              (transactionInputSerialize
                (transactionInputDeserialize (.ofPayload bytes behind) txin).2 out)
              bytes)
      ∧ (∀ (bytes : List UInt8) (txout : TransactionOutput),
          (transactionOutputDeserialize (.ofPayload bytes behind) txout).1 = .parsingOk
          → bytes.length ≤ outLen
          → Writes
              (transactionOutputSerialize stray
                (transactionOutputDeserialize (.ofPayload bytes behind) txout).2 out)
              bytes)
      ∧ (∀ (tx : Transaction target) (path : Vector UInt32 kaspaMaxBip32PathLen)
            (before : Transaction target) (bip32Path : Vector UInt32 kaspaMaxBip32PathLen),
          tx.HeaderAllowed path
          → 13 ≤ outLen
          → transactionDeserialize
                (.ofPayload (payloadOf (transactionSerialize tx path out)) behind) before bip32Path
            = (.parsingOk,
                { before with
                  version := tx.version
                  txOutputLen := tx.txOutputLen
                  txInputLen := tx.txInputLen
                  account := path[2] },
                walletPath path[2] path[3] path[4]))
      ∧ (∀ txin slot : TransactionInput,
          46 ≤ outLen
          → transactionInputDeserialize
                (.ofPayload (payloadOf (transactionInputSerialize txin out)) behind) slot
            = (.parsingOk, { txin with sequence := slot.sequence }))
      ∧ ∀ (txout slot : TransactionOutput) (script : PaymentScript),
          Holds txout.scriptPublicKey script
          → 8 + script.bytes.length ≤ outLen
          → transactionOutputDeserialize
                (.ofPayload (payloadOf (transactionOutputSerialize stray txout out)) behind) slot
            = (.parsingOk,
                { value := txout.value
                  scriptPublicKey := Memory.copy slot.scriptPublicKey script.bytes }) := by
  refine ⟨?_, ?_, ?_, ?_, ?_, ?_⟩
  · intro bytes tx bip32Path accepted room
    exact transactionSerialize_parsed accepted out room
  · intro bytes txin accepted room
    exact transactionInputSerialize_parsed accepted out room
  · intro bytes txout accepted room
    exact transactionOutputSerialize_parsed accepted stray out room
  · intro tx path before bip32Path allowed room
    exact transactionDeserialize_serialized allowed out room behind before bip32Path
  · intro txin slot room
    exact transactionInputDeserialize_serialized txin out room behind slot
  · intro txout slot script holds room
    exact transactionOutputDeserialize_serialized stray txout holds out room behind slot

/-- Memory behind the arrays that nothing has written to. -/
def Stray.zero : Stray :=
  { inputs := fun _ => .zero, outputs := fun _ => .zero, script := fun _ => 0 }

/-- A payload of each kind, written into a buffer of 46 bytes and read back over its slot. -/
theorem encodingsInverse_sample
    : let out := Bytes.zero 46
      let header := transactionSerialize ((plainHeader 1 1).into (.zero .nanos))
        (plainHeader 1 1).path out
      let txin := transactionInputSerialize ((plainInput 5).into .zero) out
      let txout := transactionOutputSerialize .zero ((plainOutput 4).into .zero) out
      (Writes header (plainHeader 1 1).serialize
        ∧ Writes txin (plainInput 5).serialize
        ∧ Writes txout (plainOutput 4).serialize)
      ∧ transactionDeserialize (.ofPayload (payloadOf header) fun _ => 0xff) (.zero .nanos)
            (Vector.replicate 5 0)
          = (.parsingOk, (plainHeader 1 1).into (.zero .nanos), (plainHeader 1 1).path)
      ∧ transactionInputDeserialize (.ofPayload (payloadOf txin) fun _ => 0xff) .zero
          = (.parsingOk, (plainInput 5).into .zero)
      ∧ transactionOutputDeserialize (.ofPayload (payloadOf txout) fun _ => 0xff) .zero
          = (.parsingOk, (plainOutput 4).into .zero) := by
  intro out header txin txout
  let behind : Nat → UInt8 := fun _ => 0xff
  obtain ⟨writesHeader, writesInput, writesOutput, readsHeader, readsInput, readsOutput⟩ :=
    encodingsInverse .nanos behind .zero 46 out
  have parsedHeader
      : transactionDeserialize (.ofPayload (plainHeader 1 1).serialize behind) (.zero .nanos)
          (Vector.replicate 5 0)
        = (.parsingOk, (plainHeader 1 1).into (.zero .nanos), (plainHeader 1 1).path) :=
    transactionDeserialize_serialize (by constructor <;> decide) rfl
  have parsedInput
      : transactionInputDeserialize (.ofPayload (plainInput 5).serialize behind) .zero
        = (.parsingOk, (plainInput 5).into .zero) :=
    transactionInputDeserialize_serialize rfl
  have parsedOutput
      : transactionOutputDeserialize (.ofPayload (plainOutput 4).serialize behind) .zero
        = (.parsingOk, (plainOutput 4).into .zero) :=
    transactionOutputDeserialize_serialize rfl
  have headerWritten := writesHeader _ _ _ (congrArg Prod.fst parsedHeader) (by simp)
  have inputWritten := writesInput _ _ (congrArg Prod.fst parsedInput) (by simp)
  have outputWritten := writesOutput _ _ (congrArg Prod.fst parsedOutput) (by decide)
  rw [parsedHeader] at headerWritten
  rw [parsedInput] at inputWritten
  rw [parsedOutput] at outputWritten
  refine ⟨⟨headerWritten, inputWritten, outputWritten⟩, ?_, ?_, ?_⟩
  · exact readsHeader _ _ _ _ (by constructor <;> decide) (by decide)
  · exact readsInput _ _ (by decide)
  · exact readsOutput _ _ (plainOutput 4).script (holds_copy _ _) (by decide)

end KaspaApp
