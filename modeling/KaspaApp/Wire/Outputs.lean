import KaspaApp.Wire.Payloads
import KaspaApp.Wire.Readers

/-! `transaction_output_deserialize` accepts exactly a value followed by a payment script, and
writes nothing into a slot but a value and the script.
-/

namespace KaspaApp

open FixedWidth

variable {buf : Buffer} {txout : TransactionOutput}

/-- The output slot after an accepted payload: bytes behind the script stay as they were. -/
def OutputPayload.into (payload : OutputPayload) (txout : TransactionOutput)
    : TransactionOutput :=
  {
    value := payload.value
    scriptPublicKey := Memory.copy txout.scriptPublicKey payload.script.bytes
  }

/-- What an output slot can hold: nothing, or a complete script. -/
def Shaped (slot : Bytes scriptPublicKeyBufferLen) : Prop :=
  slot = Bytes.zero scriptPublicKeyBufferLen ∨ ∃ script, Holds slot script

theorem Holds.getElem? {slot : Bytes scriptPublicKeyBufferLen} {script : PaymentScript}
    (holds : Holds slot script) {index : Nat} (inside : index < script.bytes.length)
    : slot.toList[index]? = script.bytes[index]? := by
  have same : (slot.toList.take script.bytes.length)[index]? = script.bytes[index]? :=
    congrArg (fun bytes => bytes[index]?) holds
  rwa [List.getElem?_take_of_lt inside] at same

/-- A part of the script is read from the same place of the slot. -/
theorem Holds.slice {slot : Bytes scriptPublicKeyBufferLen} {script : PaymentScript}
    (holds : Holds slot script) {start count : Nat}
    (inside : start + count ≤ script.bytes.length)
    : (slot.toList.drop start).take count = (script.bytes.drop start).take count := by
  have front : slot.toList.take (start + count) = script.bytes.take (start + count) := by
    rw [← Nat.min_eq_left inside, ← List.take_take, holds, Nat.min_eq_left inside]
  rw [List.take_drop, List.take_drop, front]

/-- The first byte of a slot that holds a script is the script's tag. -/
theorem Holds.tag {slot : Bytes scriptPublicKeyBufferLen} {script : PaymentScript}
    (holds : Holds slot script)
    : slot[0] = script.tag := by
  have first := holds.getElem? (by have := script.length_bytes_ge; omega : 0 < _)
  rw [← List.head?_eq_getElem?, ← List.head?_eq_getElem?, script.head_bytes,
    List.head?_eq_getElem?] at first
  simpa using first

/-- `calc_outputs_hash` computes the length of the script that a slot holds. -/
theorem Holds.scriptLen {slot : Bytes scriptPublicKeyBufferLen} {script : PaymentScript}
    (holds : Holds slot script)
    : (scriptLen slot).toNat = script.bytes.length := by
  rw [KaspaApp.scriptLen, holds.tag, script.length_bytes]
  cases script <;> rfl

theorem Shaped.scriptLen_le {slot : Bytes scriptPublicKeyBufferLen} (shaped : Shaped slot)
    : (scriptLen slot).toNat ≤ scriptPublicKeyBufferLen := by
  rcases shaped with rfl | ⟨script, holds⟩
  · decide
  · rw [holds.scriptLen]
    exact script.length_bytes_le.trans (by decide)

theorem holds_copy (slot : Bytes scriptPublicKeyBufferLen) (script : PaymentScript)
    : Holds (Memory.copy slot script.bytes) script :=
  Memory.take_copy slot script.bytes (script.length_bytes_le.trans (by decide))

theorem Buffer.getElem?_bytes {count index : Nat} (inside : index < count)
    : (buf.bytes count)[index]? = some (buf.byteAt index) := by
  simp [bytes, inside]

/-- A seek to the end of the payload leaves nothing only if it skipped all of it. -/
theorem bytes_of_seek {count : Nat} (positive : 0 < count) (inside : buf.canRead count = true)
    (done : (buf.seekCur count).next.rest = [])
    : buf.bytes count = buf.rest := by
  have enough := (Buffer.canRead_iff count).mp inside
  rw [Buffer.seekCur_of_le positive enough, Buffer.rest_advance] at done
  have dropped := congrArg List.length done
  rw [List.length_drop, List.length_nil] at dropped
  rw [Buffer.bytes_of_le enough, List.take_of_length_le (by omega)]

/-- The bytes that the parser copies after its checks are a script. -/
theorem script_of_p2sh (tag : buf.byteAt 0 = opBlake2b) (second : buf.byteAt 1 = 0x20)
    (last : buf.byteAt 34 = opEqual)
    : ∃ script : PaymentScript, buf.bytes 35 = script.bytes := by
  refine Template.script (.p2sh ?_ ?_ ?_ ?_)
  · rw [Buffer.getElem?_bytes (by decide), tag]
  · simp [Buffer.bytes]
  · rw [Buffer.getElem?_bytes (by decide), second]
  · rw [Buffer.getElem?_bytes (by decide), last]

theorem script_of_schnorr (tag : buf.byteAt 0 = 0x20) (last : buf.byteAt 33 = opCheckSig)
    : ∃ script : PaymentScript, buf.bytes 34 = script.bytes := by
  refine Template.script (.schnorr ?_ ?_ ?_)
  · rw [Buffer.getElem?_bytes (by decide), tag]
  · simp [Buffer.bytes]
  · rw [Buffer.getElem?_bytes (by decide), last]

theorem script_of_ecdsa (tag : buf.byteAt 0 = 0x21) (last : buf.byteAt 34 = opCheckSigEcdsa)
    : ∃ script : PaymentScript, buf.bytes 35 = script.bytes := by
  refine Template.script (.ecdsa ?_ ?_ ?_)
  · rw [Buffer.getElem?_bytes (by decide), tag]
  · simp [Buffer.bytes]
  · rw [Buffer.getElem?_bytes (by decide), last]

/-- An accepted payload is the serialisation of a value and a payment script. -/
theorem output_of_parsed (ok : (transactionOutputDeserialize buf txout).1 = .parsingOk)
    : ∃ payload : OutputPayload, buf.rest = payload.serialize := by
  unfold transactionOutputDeserialize at ok
  simp only at ok
  obtain ⟨value, ok⟩ := read_of_ok ok
  obtain ⟨-, ok⟩ := read_of_ok ok
  have valueBytes := Buffer.rest_of_readU64 value
  have found : ∃ script : PaymentScript, buf.readU64.next.rest = script.bytes := by
    generalize buf.readU64.next = script at ok
    by_cases p2sh : script.byteAt 0 = opBlake2b
    · rw [if_pos p2sh] at ok
      obtain ⟨-, ok⟩ := read_of_ok ok
      obtain ⟨second, ok⟩ := passed_of_ok ok
      have second := Decidable.not_not.mp second
      rw [second] at ok
      obtain ⟨canRead, ok⟩ := read_of_ok ok
      obtain ⟨last, ok⟩ := passed_of_ok ok
      obtain ⟨-, ok⟩ := read_of_ok ok
      rw [← bytes_of_seek (by decide) canRead (rest_eq_nil_of_ok ok)]
      exact script_of_p2sh p2sh second (Decidable.not_not.mp last)
    · rw [if_neg p2sh] at ok
      by_cases key : script.byteAt 0 = 0x20 ∨ script.byteAt 0 = 0x21
      · rw [if_pos key] at ok
        obtain ⟨canRead, ok⟩ := read_of_ok ok
        obtain ⟨last, ok⟩ := passed_of_ok ok
        obtain ⟨-, ok⟩ := read_of_ok ok
        have done := rest_eq_nil_of_ok ok
        rw [not_or, not_and, not_and, Decidable.not_not, Decidable.not_not] at last
        rcases key with schnorr | ecdsa
        · rw [schnorr] at canRead last done
          rw [← bytes_of_seek (by decide) canRead done]
          exact script_of_schnorr schnorr (last.1 rfl)
        · rw [ecdsa] at canRead last done
          rw [← bytes_of_seek (by decide) canRead done]
          exact script_of_ecdsa ecdsa (last.2 rfl)
      · rw [if_neg key] at ok
        simp at ok
  obtain ⟨script, bytes⟩ := found
  exact ⟨⟨_, script⟩, rest_chain valueBytes bytes⟩

/-- Accepted or refused, a payload leaves the script of its slot alone or replaces it by a
complete script.
-/
theorem transactionOutputDeserialize_written (buf : Buffer) (txout : TransactionOutput)
    : (transactionOutputDeserialize buf txout).2.scriptPublicKey = txout.scriptPublicKey
      ∨ ∃ script : PaymentScript,
          (transactionOutputDeserialize buf txout).2.scriptPublicKey
          = Memory.copy txout.scriptPublicKey script.bytes := by
  let Written (result : ParserStatus × TransactionOutput) : Prop :=
    result.2.scriptPublicKey = txout.scriptPublicKey
    ∨ ∃ script : PaymentScript,
        result.2.scriptPublicKey = Memory.copy txout.scriptPublicKey script.bytes
  have kept (value : UInt64) {status} : Written (status, { txout with value := value }) :=
    Or.inl rfl
  have copied {bytes : List UInt8} (value : UInt64)
      (found : ∃ script : PaymentScript, bytes = script.bytes) {status}
      : Written
          (status, ⟨value, Memory.copy txout.scriptPublicKey bytes⟩) := by
    obtain ⟨script, rfl⟩ := found
    exact Or.inr ⟨script, rfl⟩
  change Written (transactionOutputDeserialize buf txout)
  unfold transactionOutputDeserialize
  simp only
  generalize buf.readU64.next = script
  refine iteInduction (fun _ => kept _) fun _ => ?_
  refine iteInduction (fun _ => kept _) fun _ => ?_
  refine iteInduction (fun p2sh => ?_) fun _ => ?_
  · refine iteInduction (fun _ => kept _) fun _ => ?_
    refine iteInduction (fun _ => kept _) fun second => ?_
    rw [Decidable.not_not.mp second]
    refine iteInduction (fun _ => kept _) fun _ => ?_
    refine iteInduction (fun _ => kept _) fun last => ?_
    have found := script_of_p2sh p2sh (Decidable.not_not.mp second) (Decidable.not_not.mp last)
    exact iteInduction (fun _ => copied _ found) fun _ => copied _ found
  · refine iteInduction (fun key => ?_) fun _ => kept _
    refine iteInduction (fun _ => kept _) fun _ => ?_
    refine iteInduction (fun _ => kept _) fun last => ?_
    rw [not_or, not_and, not_and, Decidable.not_not, Decidable.not_not] at last
    rcases key with schnorr | ecdsa
    · rw [schnorr] at last ⊢
      have found := script_of_schnorr schnorr (last.1 rfl)
      exact iteInduction (fun _ => copied _ found) fun _ => copied _ found
    · rw [ecdsa] at last ⊢
      have found := script_of_ecdsa ecdsa (last.2 rfl)
      exact iteInduction (fun _ => copied _ found) fun _ => copied _ found

/-- The serialisation of a value and a script is accepted, and both are stored. -/
theorem transactionOutputDeserialize_serialize {payload : OutputPayload}
    (bytes : buf.rest = payload.serialize)
    : transactionOutputDeserialize buf txout = (.parsingOk, payload.into txout) := by
  obtain ⟨value, rest⟩ := Buffer.readU64_append bytes
  generalize buf.advance 8 = script at value rest
  have canRead {count : Nat} (inside : count ≤ payload.script.bytes.length)
      : script.canRead count = true := by
    rw [Buffer.canRead_iff, rest]
    exact inside
  have byteAt {index : Nat} {byte : UInt8} (found : payload.script.bytes[index]? = some byte)
      : script.byteAt index = byte := by
    obtain ⟨inside, same⟩ := List.getElem?_eq_some_iff.mp found
    rw [Buffer.byteAt_of_lt (by rw [rest]; exact inside)]
    simp only [rest, same]
  have copied {count : Nat} (whole : payload.script.bytes.length = count)
      : script.bytes count = payload.script.bytes := by
    rw [Buffer.bytes_of_le (by rw [rest, whole]), rest, List.take_of_length_le (by omega)]
  have skipped {count : Nat} (whole : payload.script.bytes.length = count) (positive : 0 < count)
      : script.seekCur count = ⟨true, (), script.advance count⟩
        ∧ (script.advance count).size - (script.advance count).offset = 0 := by
    refine ⟨Buffer.seekCur_of_le positive (by rw [rest, whole]), ?_⟩
    rw [← Buffer.length_rest, Buffer.rest_advance, rest, List.length_drop, whole, Nat.sub_self]
  have readable : script.canRead 1 = true :=
    canRead (by have := payload.script.length_bytes_ge; omega)
  rw [transactionOutputDeserialize]
  simp only [value, readable, Bool.not_true, Bool.false_eq_true, if_false]
  cases kind : payload.script with
  | schnorr key =>
      rw [kind] at canRead byteAt copied skipped
      have length : (PaymentScript.schnorr key).bytes.length = 34 := PaymentScript.length_bytes _
      have tag : script.byteAt 0 = 0x20 := byteAt rfl
      have last : script.byteAt 33 = opCheckSig := byteAt (by simp [PaymentScript.bytes])
      obtain ⟨seek, done⟩ := skipped length (by decide)
      have other : ¬ (0x20 : UInt8) = opBlake2b := by decide
      simp [tag, other, canRead length.ge, last, copied length, seek, done, OutputPayload.into, kind]
  | ecdsa key =>
      rw [kind] at canRead byteAt copied skipped
      have length : (PaymentScript.ecdsa key).bytes.length = 35 := PaymentScript.length_bytes _
      have tag : script.byteAt 0 = 0x21 := byteAt rfl
      have last : script.byteAt 34 = opCheckSigEcdsa := byteAt (by simp [PaymentScript.bytes])
      obtain ⟨seek, done⟩ := skipped length (by decide)
      have other : ¬ (0x21 : UInt8) = opBlake2b := by decide
      simp [tag, other, canRead length.ge, last, copied length, seek, done, OutputPayload.into, kind]
  | p2sh hash =>
      rw [kind] at canRead byteAt copied skipped
      have length : (PaymentScript.p2sh hash).bytes.length = 35 := PaymentScript.length_bytes _
      have tag : script.byteAt 0 = opBlake2b := byteAt rfl
      have second : script.byteAt 1 = 0x20 := byteAt rfl
      have last : script.byteAt 34 = opEqual := byteAt (by simp [PaymentScript.bytes])
      obtain ⟨seek, done⟩ := skipped length (by decide)
      have two : script.canRead 2 = true := canRead (by omega)
      simp [tag, second, two, canRead length.ge, last, copied length, seek, done,
        OutputPayload.into, kind]

/-- The slot is what the output parser left of an accepted payload with this script. -/
def AcceptedScript (slot : Bytes scriptPublicKeyBufferLen) (script : List UInt8) : Prop :=
  ∃ buf txout,
    (transactionOutputDeserialize buf txout).1 = .parsingOk
    ∧ (transactionOutputDeserialize buf txout).2.scriptPublicKey = slot
    ∧ buf.rest.drop 8 = script

/-- The script of an accepted payload is one of the templates, and stands in the slot. -/
theorem AcceptedScript.holds {slot : Bytes scriptPublicKeyBufferLen} {script : List UInt8}
    (accepted : AcceptedScript slot script)
    : ∃ template : PaymentScript, script = template.bytes ∧ Holds slot template := by
  obtain ⟨buf, txout, parsed, rfl, rfl⟩ := accepted
  obtain ⟨payload, bytes⟩ := output_of_parsed parsed
  refine ⟨payload.script, ?_, ?_⟩
  · rw [bytes, OutputPayload.serialize, List.drop_left' (length_bigEndian 8 _)]
  · rw [transactionOutputDeserialize_serialize bytes]
    exact holds_copy txout.scriptPublicKey payload.script

/-- The slots that a payload fills are accepted ones. -/
theorem acceptedScript_into (payload : OutputPayload) (txout : TransactionOutput)
    : AcceptedScript (payload.into txout).scriptPublicKey payload.script.bytes := by
  let buf : Buffer := { data := payload.serialize, behind := fun _ => 0, offset := 0 }
  have bytes : buf.rest = payload.serialize := rfl
  have parsed := @transactionOutputDeserialize_serialize buf txout payload bytes
  refine ⟨buf, txout, by rw [parsed], by rw [parsed], ?_⟩
  rw [bytes, OutputPayload.serialize, List.drop_left' (length_bigEndian 8 _)]

end KaspaApp
