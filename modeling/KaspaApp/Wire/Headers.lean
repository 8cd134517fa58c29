import KaspaApp.Wire.Payloads
import KaspaApp.Wire.Readers

/-! `transaction_deserialize` accepts exactly the serialised headers with allowed fields, and
a refused header leaves at most its version, counts and account behind.
-/

namespace KaspaApp

open FixedWidth

variable {target : Target} {buf : Buffer} {tx : Transaction target}
  {bip32Path : Vector UInt32 kaspaMaxBip32PathLen}

/-- The transaction with the fields of a header. -/
def HeaderPayload.into (header : HeaderPayload) (tx : Transaction target) : Transaction target :=
  { tx with
    version := header.version
    txOutputLen := header.outputs.toUInt32
    txInputLen := header.inputs.toUInt32
    account := header.account }

/-- The path of the change address. -/
def HeaderPayload.path (header : HeaderPayload) : Vector UInt32 kaspaMaxBip32PathLen :=
  walletPath header.account header.changeType.toUInt32 header.changeIndex

/-- The checks of the parser are the conditions of `Allowed`. -/
theorem allowed_iff (header : HeaderPayload)
    : header.Allowed target
      ↔ ¬ (header.outputs.toUInt32 < 1 ∨ header.outputs.toUInt32 > 2)
        ∧ ¬ (header.inputs.toUInt32 < 1
            ∨ header.inputs.toUInt32 > UInt32.ofNat target.maxInputCount)
        ∧ ¬ (header.changeType ≠ 0 ∧ header.changeType ≠ 1)
        ∧ ¬ header.account < 0x80000000 := by
  have limit : (UInt32.ofNat target.maxInputCount).toNat = target.maxInputCount :=
    UInt32.toNat_ofNat_of_lt' (by have := target.maxInputCount_le; simp only [UInt32.size]; omega)
  have outputs : header.outputs.toUInt32.toNat = header.outputs.toNat := by simp
  have inputs : header.inputs.toUInt32.toNat = header.inputs.toNat := by simp
  simp only [UInt32.lt_iff_toNat_lt, GT.gt, outputs, inputs, limit, UInt32.reduceToNat]
  constructor
  · intro allowed
    have outputsPos := allowed.outputsPos
    have outputsLe := allowed.outputsLe
    have inputsPos := allowed.inputsPos
    have inputsLe := allowed.inputsLe
    have hardened := allowed.hardened
    refine ⟨by omega, by omega, ?_, by omega⟩
    rintro ⟨notReceive, notChange⟩
    exact allowed.changeType.elim notReceive notChange
  · rintro ⟨outputsRange, inputsRange, changeType, hardened⟩
    refine ⟨by omega, by omega, by omega, by omega, ?_, by omega⟩
    by_cases receive : header.changeType = 0
    · exact Or.inl receive
    · exact Or.inr (Decidable.not_not.mp fun notChange => changeType ⟨receive, notChange⟩)

/-- The header that the parser's readers and checks have found. -/
theorem header_of_fields {bytes : List UInt8} {version : UInt16} {outputs inputs changeType : UInt8}
    {changeIndex account : UInt32}
    (read
      : bytes
        = bigEndian 2 version.toNat ++ (bigEndian 1 outputs.toNat ++ (bigEndian 1 inputs.toNat
          ++ (bigEndian 1 changeType.toNat ++ (bigEndian 4 changeIndex.toNat
          ++ (bigEndian 4 account.toNat ++ []))))))
    (outputsRange : ¬ (outputs.toUInt32 < 1 ∨ outputs.toUInt32 > 2))
    (inputsRange
      : ¬ (inputs.toUInt32 < 1 ∨ inputs.toUInt32 > UInt32.ofNat target.maxInputCount))
    (changeTypeRange : ¬ (changeType ≠ 0 ∧ changeType ≠ 1))
    (hardened : ¬ account < 0x80000000)
    : ∃ header : HeaderPayload, header.Allowed target ∧ bytes = header.serialize := by
  let header : HeaderPayload := ⟨version, outputs, inputs, changeType, changeIndex, account⟩
  refine ⟨header, (allowed_iff header).mpr ⟨outputsRange, inputsRange, changeTypeRange,
    hardened⟩, ?_⟩
  simpa only [HeaderPayload.serialize, List.append_assoc, List.append_nil] using read

/-- An accepted payload is the serialisation of an allowed header. Witness: each reader that
succeeded, in turn.
-/
theorem header_of_parsed (ok : (transactionDeserialize buf tx bip32Path).1 = .parsingOk)
    : ∃ header : HeaderPayload, header.Allowed target ∧ buf.rest = header.serialize := by
  unfold transactionDeserialize at ok
  rw [if_neg (by decide)] at ok
  simp only at ok
  obtain ⟨version, ok⟩ := read_of_ok ok
  obtain ⟨outputs, ok⟩ := read_of_ok ok
  obtain ⟨outputsRange, ok⟩ := passed_of_ok ok
  obtain ⟨inputs, ok⟩ := read_of_ok ok
  obtain ⟨inputsRange, ok⟩ := passed_of_ok ok
  obtain ⟨changeType, ok⟩ := read_of_ok ok
  obtain ⟨changeTypeRange, ok⟩ := passed_of_ok ok
  obtain ⟨changeIndex, ok⟩ := read_of_ok ok
  obtain ⟨account, ok⟩ := read_of_ok ok
  obtain ⟨hardened, ok⟩ := passed_of_ok ok
  have nothingLeft := rest_eq_nil_of_ok ok
  have versionBytes := Buffer.rest_of_readU16 version
  have outputsBytes := Buffer.rest_of_readU8 outputs
  have inputsBytes := Buffer.rest_of_readU8 inputs
  have changeTypeBytes := Buffer.rest_of_readU8 changeType
  have changeIndexBytes := Buffer.rest_of_readU32 changeIndex
  have accountBytes := Buffer.rest_of_readU32 account
  have bytes :=
    rest_chain versionBytes (rest_chain outputsBytes (rest_chain inputsBytes
      (rest_chain changeTypeBytes (rest_chain changeIndexBytes
        (rest_chain accountBytes nothingLeft)))))
  exact header_of_fields bytes outputsRange inputsRange changeTypeRange hardened

/-- The serialisation of an allowed header is accepted, and its fields are stored. -/
theorem transactionDeserialize_serialize {header : HeaderPayload}
    (allowed : header.Allowed target) (bytes : buf.rest = header.serialize)
    : transactionDeserialize buf tx bip32Path = (.parsingOk, header.into tx, header.path) := by
  obtain ⟨outputsRange, inputsRange, changeTypeRange, hardened⟩ := (allowed_iff header).mp allowed
  have split
      : buf.rest
        = bigEndian 2 header.version.toNat ++ (bigEndian 1 header.outputs.toNat
          ++ (bigEndian 1 header.inputs.toNat ++ (bigEndian 1 header.changeType.toNat
          ++ (bigEndian 4 header.changeIndex.toNat
          ++ (bigEndian 4 header.account.toNat ++ []))))) := by
    simpa only [HeaderPayload.serialize, List.append_assoc, List.append_nil] using bytes
  obtain ⟨version, rest⟩ := Buffer.readU16_append split
  obtain ⟨outputs, rest⟩ := Buffer.readU8_append rest
  obtain ⟨inputs, rest⟩ := Buffer.readU8_append rest
  obtain ⟨changeType, rest⟩ := Buffer.readU8_append rest
  obtain ⟨changeIndex, rest⟩ := Buffer.readU32_append rest
  obtain ⟨account, rest⟩ := Buffer.readU32_append rest
  have nothingLeft := congrArg List.length rest
  rw [Buffer.length_rest, List.length_nil] at nothingLeft
  simp only [transactionDeserialize, version, outputs, inputs, changeType, changeIndex, account,
    if_neg outputsRange, if_neg inputsRange, if_neg changeTypeRange, if_neg hardened,
    if_pos nothingLeft, Nat.lt_irrefl, Bool.not_true, Bool.false_eq_true, if_false]
  rfl

/-- Accepted or refused, a header writes byte-wide counts into a cleared transaction. -/
theorem transactionDeserialize_written (target : Target) (buf : Buffer)
    (bip32Path : Vector UInt32 kaspaMaxBip32PathLen)
    : ∃ header : HeaderPayload,
        (transactionDeserialize buf (.zero target) bip32Path).2.1
        = header.into (.zero target) := by
  let Written (result
      : ParserStatus × Transaction target × Vector UInt32 kaspaMaxBip32PathLen)
      : Prop :=
    ∃ header : HeaderPayload, result.2.1 = header.into (.zero target)
  have version (version : UInt16) {status path}
      : Written (status, { Transaction.zero target with version := version }, path) :=
    ⟨⟨version, 0, 0, 0, 0, 0⟩, rfl⟩
  have outputs (version : UInt16) (outputs : UInt8) {status path}
      : Written (status, HeaderPayload.into ⟨version, outputs, 0, 0, 0, 0⟩ (.zero target), path) :=
    ⟨_, rfl⟩
  have inputs (version : UInt16) (outputs inputs : UInt8) (account : UInt32) {status path}
      : Written
          (status, HeaderPayload.into ⟨version, outputs, inputs, 0, 0, account⟩ (.zero target),
            path) :=
    ⟨_, rfl⟩
  change Written (transactionDeserialize buf (.zero target) bip32Path)
  unfold transactionDeserialize
  rw [if_neg (by decide)]
  simp only
  refine iteInduction (fun _ => version _) fun _ => ?_
  refine iteInduction (fun _ => version _) fun _ => ?_
  refine iteInduction (fun _ => outputs _ _) fun _ => ?_
  refine iteInduction (fun _ => outputs _ _) fun _ => ?_
  refine iteInduction (fun _ => inputs _ _ _ 0) fun _ => ?_
  refine iteInduction (fun _ => inputs _ _ _ 0) fun _ => ?_
  refine iteInduction (fun _ => inputs _ _ _ 0) fun _ => ?_
  refine iteInduction (fun _ => inputs _ _ _ 0) fun _ => ?_
  refine iteInduction (fun _ => inputs _ _ _ _) fun _ => ?_
  refine iteInduction (fun _ => inputs _ _ _ _) fun _ => ?_
  exact inputs _ _ _ _

end KaspaApp
