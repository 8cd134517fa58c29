import KaspaApp.Wire.PayloadReads
import KaspaApp.Wire.Transactions

/-! The three payload grammars in terms of byte positions. A parser accepts exactly its
grammar, stores the values at the positions of its fields, and reads no byte outside the payload,
so it gives the same result whatever the memory behind the payload holds.
-/

namespace KaspaApp

open FixedWidth

variable {target : Target}

/-- The buffer of a payload that lies in front of some memory. -/
def Buffer.ofPayload (bytes : List UInt8) (behind : Nat → UInt8) : Buffer :=
  { data := bytes, behind := behind, offset := 0 }

@[simp] theorem Buffer.rest_ofPayload (bytes : List UInt8) (behind : Nat → UInt8)
    : (Buffer.ofPayload bytes behind).rest = bytes :=
  rfl

-----------------------------------------------------------------------------------------
-- Grammars
-----------------------------------------------------------------------------------------

/-- The script templates of an output payload. -/
inductive ScriptForm where
  | schnorr
  | ecdsa
  | p2sh
deriving DecidableEq

def ScriptForm.opening : ScriptForm → List UInt8
  | .schnorr => [0x20]
  | .ecdsa => [0x21]
  | .p2sh => [0xaa, 0x20]

def ScriptForm.bodyLen : ScriptForm → Nat
  | .schnorr => 32
  | .ecdsa => 33
  | .p2sh => 32

def ScriptForm.closing : ScriptForm → UInt8
  | .schnorr => 0xac
  | .ecdsa => 0xab
  | .p2sh => 0x87

/-- Eight bytes of value and a script of this form, with nothing after it. -/
def ScriptForm.Writes (form : ScriptForm) (bytes : List UInt8) : Prop :=
  ∃ value body : List UInt8,
    value.length = 8
    ∧ body.length = form.bodyLen
    ∧ bytes = value ++ (form.opening ++ body ++ [form.closing])

/-- An output payload has exactly one of the forms. -/
def OutputGrammar (bytes : List UInt8) : Prop := ∃! form : ScriptForm, form.Writes bytes

/-- An input payload is any 46 bytes. -/
def InputGrammar (bytes : List UInt8) : Prop := bytes.length = 46

/-- A header payload is 13 bytes with allowed counts, change type and account. -/
structure HeaderGrammar (target : Target) (bytes : List UInt8) : Prop where
  length : bytes.length = 13
  outputsPos : 1 ≤ field bytes 2 1
  outputsLe : field bytes 2 1 ≤ 2
  inputsPos : 1 ≤ field bytes 3 1
  inputsLe : field bytes 3 1 ≤ target.maxInputCount
  changeType : field bytes 4 1 ≤ 1
  hardened : 0x80000000 ≤ field bytes 9 4

-----------------------------------------------------------------------------------------
-- Payloads of given bytes
-----------------------------------------------------------------------------------------

/-- The header whose fields stand at their positions in the bytes. -/
def HeaderPayload.ofBytes (bytes : List UInt8) : HeaderPayload :=
  {
    version := .ofNat (field bytes 0 2)
    outputs := .ofNat (field bytes 2 1)
    inputs := .ofNat (field bytes 3 1)
    changeType := .ofNat (field bytes 4 1)
    changeIndex := .ofNat (field bytes 5 4)
    account := .ofNat (field bytes 9 4)
  }

/-- The input whose fields stand at their positions in the bytes. -/
def InputPayload.ofBytes (bytes : List UInt8) : InputPayload :=
  {
    value := .ofNat (field bytes 0 8)
    txId := Memory.copy (Bytes.zero 32) ((bytes.drop 8).take 32)
    addressType := .ofNat (field bytes 40 1)
    addressIndex := .ofNat (field bytes 41 4)
    index := .ofNat (field bytes 45 1)
  }

section

variable (bytes : List UInt8) (start : Nat)

theorem toNat_field8 : (UInt8.ofNat (field bytes start 1)).toNat = field bytes start 1 :=
  UInt8.toNat_ofNat_of_lt' (field_lt bytes start 1)

theorem toNat_field16 : (UInt16.ofNat (field bytes start 2)).toNat = field bytes start 2 :=
  UInt16.toNat_ofNat_of_lt' (field_lt bytes start 2)

theorem toNat_field32 : (UInt32.ofNat (field bytes start 4)).toNat = field bytes start 4 :=
  UInt32.toNat_ofNat_of_lt' (field_lt bytes start 4)

theorem toNat_field64 : (UInt64.ofNat (field bytes start 8)).toNat = field bytes start 8 :=
  UInt64.toNat_ofNat_of_lt' (field_lt bytes start 8)

end

theorem HeaderPayload.ofBytes_serialize (header : HeaderPayload)
    : ofBytes header.serialize = header := by
  simp [ofBytes, serialize, field_skip, field_front, field_whole]

theorem HeaderPayload.serialize_ofBytes {bytes : List UInt8} (length : bytes.length = 13)
    : (ofBytes bytes).serialize = bytes := by
  have last : (bytes.drop 9).take 4 = bytes.drop 9 := List.take_of_length_le (by simp [length])
  simp only [ofBytes, serialize, toNat_field8, toNat_field16, toNat_field32]
  simp (disch := omega) only [bigEndian_field, List.append_assoc, last]
  rw [slice_append bytes 5 4, slice_append bytes 4 1, slice_append bytes 3 1,
    slice_append bytes 2 1, slice_append bytes 0 2]
  rfl

theorem InputPayload.ofBytes_serialize (txin : InputPayload)
    : ofBytes txin.serialize = txin := by
  have txId : ((txin.serialize).drop 8).take 32 = txin.txId.toList := by
    simp [serialize, List.drop_left', List.take_left']
  rw [ofBytes, txId, Memory.copy_toList]
  simp [serialize, field_skip, field_front, field_whole]

theorem InputPayload.serialize_ofBytes {bytes : List UInt8} (length : bytes.length = 46)
    : (ofBytes bytes).serialize = bytes := by
  have last : (bytes.drop 45).take 1 = bytes.drop 45 := List.take_of_length_le (by simp [length])
  have txId := Memory.toList_copy_of_length_eq (Bytes.zero 32) ((bytes.drop 8).take 32)
    (by simp [length])
  simp only [ofBytes, serialize, toNat_field8, toNat_field32, toNat_field64, txId]
  simp (disch := omega) only [bigEndian_field, List.append_assoc, last]
  rw [slice_append bytes 41 4, slice_append bytes 40 1, slice_append bytes 8 32,
    slice_append bytes 0 8]
  rfl

-----------------------------------------------------------------------------------------
-- Grammars and serialised payloads
-----------------------------------------------------------------------------------------

theorem headerGrammar_iff {bytes : List UInt8}
    : HeaderGrammar target bytes ↔ ∃ header : HeaderPayload,
        header.Allowed target ∧ bytes = header.serialize := by
  constructor
  · intro grammar
    refine ⟨.ofBytes bytes, ?_, (HeaderPayload.serialize_ofBytes grammar.length).symm⟩
    have changeType : UInt8.ofNat (field bytes 4 1) = 0 ∨ UInt8.ofNat (field bytes 4 1) = 1 := by
      have small := grammar.changeType
      rcases Nat.le_one_iff_eq_zero_or_eq_one.mp small with zero | one
      · exact Or.inl (by rw [zero]; rfl)
      · exact Or.inr (by rw [one]; rfl)
    constructor
    · exact (toNat_field8 bytes 2).symm ▸ grammar.outputsPos
    · exact (toNat_field8 bytes 2).symm ▸ grammar.outputsLe
    · exact (toNat_field8 bytes 3).symm ▸ grammar.inputsPos
    · exact (toNat_field8 bytes 3).symm ▸ grammar.inputsLe
    · exact changeType
    · exact (toNat_field32 bytes 9).symm ▸ grammar.hardened
  · rintro ⟨header, allowed, rfl⟩
    have same := header.ofBytes_serialize
    have outputs : field header.serialize 2 1 = header.outputs.toNat :=
      (toNat_field8 _ 2).symm.trans (congrArg (fun fields => fields.outputs.toNat) same)
    have inputs : field header.serialize 3 1 = header.inputs.toNat :=
      (toNat_field8 _ 3).symm.trans (congrArg (fun fields => fields.inputs.toNat) same)
    have changeType : field header.serialize 4 1 = header.changeType.toNat :=
      (toNat_field8 _ 4).symm.trans (congrArg (fun fields => fields.changeType.toNat) same)
    have account : field header.serialize 9 4 = header.account.toNat :=
      (toNat_field32 _ 9).symm.trans (congrArg (fun fields => fields.account.toNat) same)
    constructor
    · exact header.length_serialize
    · exact outputs ▸ allowed.outputsPos
    · exact outputs ▸ allowed.outputsLe
    · exact inputs ▸ allowed.inputsPos
    · exact inputs ▸ allowed.inputsLe
    · rw [changeType]
      rcases allowed.changeType with receive | change
      · simp [receive]
      · simp [change]
    · exact account ▸ allowed.hardened

theorem inputGrammar_iff {bytes : List UInt8}
    : InputGrammar bytes ↔ ∃ txin : InputPayload, bytes = txin.serialize := by
  constructor
  · intro length
    exact ⟨.ofBytes bytes, (InputPayload.serialize_ofBytes length).symm⟩
  · rintro ⟨txin, rfl⟩
    exact txin.length_serialize

/-- The form of a payment script. -/
def PaymentScript.form : PaymentScript → ScriptForm
  | .schnorr _ => .schnorr
  | .ecdsa _ => .ecdsa
  | .p2sh _ => .p2sh

/-- The first byte of the script tells its form. -/
theorem ScriptForm.Writes.form_eq {left right : ScriptForm} {bytes : List UInt8}
    (writesLeft : left.Writes bytes) (writesRight : right.Writes bytes)
    : left = right := by
  have first {form : ScriptForm} (writes : form.Writes bytes)
      : bytes[8]? = form.opening.head? := by
    obtain ⟨value, body, length, -, rfl⟩ := writes
    rw [List.getElem?_append_right length.le, length]
    cases form <;> rfl
  have same := (first writesLeft).symm.trans (first writesRight)
  cases left <;> cases right <;> first | rfl | (revert same; decide)

/-- The script of a form with the given key or hash. -/
def ScriptForm.script : (form : ScriptForm) → Bytes form.bodyLen → PaymentScript
  | .schnorr, key => .schnorr key
  | .ecdsa, key => .ecdsa key
  | .p2sh, hash => .p2sh hash

@[simp] theorem ScriptForm.form_script (form : ScriptForm) (body : Bytes form.bodyLen)
    : (form.script body).form = form := by
  cases form <;> rfl

theorem ScriptForm.bytes_script (form : ScriptForm) (body : Bytes form.bodyLen)
    : (form.script body).bytes = form.opening ++ body.toList ++ [form.closing] := by
  cases form <;> rfl

theorem PaymentScript.eq_script (script : PaymentScript)
    : ∃ body : Bytes script.form.bodyLen, script = script.form.script body := by
  cases script with
  | schnorr key => exact ⟨key, rfl⟩
  | ecdsa key => exact ⟨key, rfl⟩
  | p2sh hash => exact ⟨hash, rfl⟩

/-- A payload has a form exactly when it is a value and a script of this form. -/
theorem ScriptForm.writes_iff {form : ScriptForm} {bytes : List UInt8}
    : form.Writes bytes ↔ ∃ txout : OutputPayload,
        txout.script.form = form ∧ bytes = txout.serialize := by
  constructor
  · rintro ⟨value, body, length, fills, rfl⟩
    have bound := fromBigEndian_lt value
    rw [length] at bound
    have written : bigEndian 8 (UInt64.ofNat (fromBigEndian value)).toNat = value := by
      rw [UInt64.toNat_ofNat_of_lt' bound, ← length, bigEndian_fromBigEndian]
    refine ⟨⟨.ofNat (fromBigEndian value), form.script (Memory.ofList body fills)⟩,
      form.form_script _, ?_⟩
    rw [OutputPayload.serialize, written, form.bytes_script, Memory.toList_ofList]
  · rintro ⟨⟨value, script⟩, rfl, rfl⟩
    obtain ⟨body, same⟩ := script.eq_script
    refine ⟨bigEndian 8 value.toNat, body.toList, length_bigEndian 8 _, body.length_toList, ?_⟩
    rw [← script.form.bytes_script, ← same, OutputPayload.serialize]

theorem outputGrammar_iff {bytes : List UInt8}
    : OutputGrammar bytes ↔ ∃ txout : OutputPayload, bytes = txout.serialize := by
  constructor
  · rintro ⟨form, writes, -⟩
    obtain ⟨txout, -, same⟩ := ScriptForm.writes_iff.mp writes
    exact ⟨txout, same⟩
  · rintro ⟨txout, same⟩
    have writes : txout.script.form.Writes bytes := ScriptForm.writes_iff.mpr ⟨txout, rfl, same⟩
    exact ⟨txout.script.form, writes, fun form other => other.form_eq writes⟩

-----------------------------------------------------------------------------------------
-- Exactness
-----------------------------------------------------------------------------------------

/-- The output slot with the fields that stand at their positions in the bytes. -/
def TransactionOutput.withFields (txout : TransactionOutput) (bytes : List UInt8)
    : TransactionOutput :=
  {
    value := .ofNat (field bytes 0 8)
    scriptPublicKey := Memory.copy txout.scriptPublicKey (bytes.drop 8)
  }

theorem OutputPayload.into_eq_withFields (payload : OutputPayload) (txout : TransactionOutput)
    : payload.into txout = txout.withFields payload.serialize := by
  have value : field payload.serialize 0 8 = payload.value.toNat := by
    rw [serialize, field_front]
    exact Nat.mod_eq_of_lt payload.value.toNat_lt
  have script : payload.serialize.drop 8 = payload.script.bytes := by
    rw [serialize, List.drop_left' (length_bigEndian 8 _)]
  rw [into, TransactionOutput.withFields, value, script, UInt64.ofNat_toNat]

/-- What it means that a parser accepts a grammar: its status says so, and on acceptance it
has stored the fields.
-/
structure Accepts {α : Type} (grammar : Prop) (parsed : ParserStatus × α) (fields : α) : Prop where
  status : parsed.1 = .parsingOk ↔ grammar
  stored : parsed = (.parsingOk, fields) ↔ grammar

theorem Accepts.intro {α : Type} {grammar : Prop} {parsed : ParserStatus × α} {fields : α}
    (sound : parsed.1 = .parsingOk → grammar) (complete : grammar → parsed = (.parsingOk, fields))
    : Accepts grammar parsed fields := by
  constructor
  · exact ⟨sound, fun fits => by rw [complete fits]⟩
  · exact ⟨fun same => sound (by rw [same]), complete⟩

variable (bytes : List UInt8) (behind : Nat → UInt8)

theorem outputParser_accepts (txout : TransactionOutput)
    : Accepts (OutputGrammar bytes) (transactionOutputDeserialize (.ofPayload bytes behind) txout)
        (txout.withFields bytes) := by
  apply Accepts.intro
  · intro ok
    exact outputGrammar_iff.mpr (output_of_parsed ok)
  · intro grammar
    obtain ⟨payload, rfl⟩ := outputGrammar_iff.mp grammar
    rw [transactionOutputDeserialize_serialize (Buffer.rest_ofPayload _ behind),
      payload.into_eq_withFields]

theorem inputParser_accepts (txin : TransactionInput)
    : Accepts (InputGrammar bytes) (transactionInputDeserialize (.ofPayload bytes behind) txin)
        ((InputPayload.ofBytes bytes).into txin) := by
  apply Accepts.intro
  · intro ok
    exact inputGrammar_iff.mpr (input_of_parsed ok)
  · intro grammar
    obtain ⟨payload, rfl⟩ := inputGrammar_iff.mp grammar
    rw [transactionInputDeserialize_serialize (Buffer.rest_ofPayload _ behind),
      payload.ofBytes_serialize]

theorem headerParser_accepts (tx : Transaction target)
    (bip32Path : Vector UInt32 kaspaMaxBip32PathLen)
    : Accepts (HeaderGrammar target bytes)
        (transactionDeserialize (.ofPayload bytes behind) tx bip32Path)
        ((HeaderPayload.ofBytes bytes).into tx, (HeaderPayload.ofBytes bytes).path) := by
  apply Accepts.intro
  · intro ok
    exact headerGrammar_iff.mpr (header_of_parsed ok)
  · intro grammar
    obtain ⟨header, allowed, rfl⟩ := headerGrammar_iff.mp grammar
    rw [transactionDeserialize_serialize allowed (Buffer.rest_ofPayload _ behind),
      header.ofBytes_serialize]

/-- The three parsers accept exactly their grammars, into any slot and over any path. They read no
byte outside the payload, so their results do not depend on the memory behind it.
-/
theorem parsersAcceptGrammars (target : Target) (bytes : List UInt8) (behind : Nat → UInt8)
    (txout : TransactionOutput) (txin : TransactionInput) (tx : Transaction target)
    (bip32Path : Vector UInt32 kaspaMaxBip32PathLen)
    : (Accepts (OutputGrammar bytes)
          (transactionOutputDeserialize (.ofPayload bytes behind) txout)
          (txout.withFields bytes)
        ∧ Accepts (InputGrammar bytes)
            (transactionInputDeserialize (.ofPayload bytes behind) txin)
            ((InputPayload.ofBytes bytes).into txin)
        ∧ Accepts (HeaderGrammar target bytes)
            (transactionDeserialize (.ofPayload bytes behind) tx bip32Path)
            ((HeaderPayload.ofBytes bytes).into tx, (HeaderPayload.ofBytes bytes).path))
      ∧ (ReadsInside (.ofPayload bytes behind)
            (transactionOutputDeserializeReads ⟨bytes.length, 0⟩ txout)
            (transactionOutputDeserialize (.ofPayload bytes behind) txout)
          ∧ ReadsInside (.ofPayload bytes behind)
              (transactionInputDeserializeReads ⟨bytes.length, 0⟩ txin)
              (transactionInputDeserialize (.ofPayload bytes behind) txin)
          ∧ ReadsInside (.ofPayload bytes behind)
              (transactionDeserializeReads ⟨bytes.length, 0⟩ tx bip32Path)
              (transactionDeserialize (.ofPayload bytes behind) tx bip32Path))
      ∧ ∀ other : Nat → UInt8,
          transactionOutputDeserialize (.ofPayload bytes other) txout
            = transactionOutputDeserialize (.ofPayload bytes behind) txout
          ∧ transactionInputDeserialize (.ofPayload bytes other) txin
            = transactionInputDeserialize (.ofPayload bytes behind) txin
          ∧ transactionDeserialize (.ofPayload bytes other) tx bip32Path
            = transactionDeserialize (.ofPayload bytes behind) tx bip32Path := by
  refine ⟨⟨?_, ?_, ?_⟩, ⟨?_, ?_, ?_⟩, fun other => ⟨?_, ?_, ?_⟩⟩
  · exact outputParser_accepts bytes behind txout
  · exact inputParser_accepts bytes behind txin
  · exact headerParser_accepts bytes behind tx bip32Path
  · exact transactionOutputDeserialize_readsInside (.ofPayload bytes behind) txout
  · exact transactionInputDeserialize_readsInside (.ofPayload bytes behind) txin
  · exact transactionDeserialize_readsInside (.ofPayload bytes behind) tx bip32Path
  · exact transactionOutputDeserialize_withBehind (.ofPayload bytes behind) other txout
  · exact transactionInputDeserialize_withBehind (.ofPayload bytes behind) other txin
  · exact transactionDeserialize_withBehind (.ofPayload bytes behind) other tx bip32Path

end KaspaApp
