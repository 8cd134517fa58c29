import KaspaApp.Addresses.Decoding
import KaspaApp.Hashing.Reference

/-! The address that is shown for an output against the script that is signed. A sender who
pays to an address writes the script of its version: 0 for a Schnorr key, 1 for an ECDSA key
and 8 for the hash of a script.
-/

namespace KaspaApp

/-- The script of a version byte and the key or hash behind it. -/
def scriptOfContent : List UInt8 → Option (List UInt8)
  | [] => none
  | version :: hash =>
      if version = 0 ∧ hash.length = 32 then some ([0x20] ++ hash ++ [0xac])
      else if version = 1 ∧ hash.length = 33 then some ([0x21] ++ hash ++ [0xab])
      else if version = 8 ∧ hash.length = 32 then some ([0xaa, 0x20] ++ hash ++ [0x87])
      else none

/-- The script that a payment to the address uses. -/
def scriptOfAddress (address : List UInt8) : Option (List UInt8) :=
  (decodeAddress address).bind scriptOfContent

/-- The version byte and the key or hash of the address of a script. -/
def PaymentScript.content : PaymentScript → List UInt8
  | .schnorr key => 0 :: key.toList
  | .ecdsa key => 1 :: key.toList
  | .p2sh hash => 8 :: hash.toList

theorem scriptOfAddress_content (script : PaymentScript)
    : scriptOfAddress (addressText script.content) = some script.bytes := by
  rw [scriptOfAddress, decodeAddress_addressText, Option.bind_some]
  cases script <;> simp [PaymentScript.content, scriptOfContent, PaymentScript.bytes, opCheckSig,
    opCheckSigEcdsa, opBlake2b, opEqual]

/-- The first byte of a compressed key whose second coordinate has the parity of `parity`. -/
def compressedPrefix (parity : UInt8) : UInt8 := if parity % 2 = 0 then 0x02 else 0x03

/-- The script whose address the device shows: the first byte of an ECDSA key becomes that of
a compressed key of the same parity.
-/
def PaymentScript.shown : PaymentScript → PaymentScript
  | .ecdsa key => .ecdsa (key.set 0 (compressedPrefix key[0]))
  | script => script

/-- The address that `script_public_key_to_address` produces from a script slot. -/
def shownAddress (outLen : Nat) (txout : TransactionOutput) : Option (List UInt8) :=
  scriptPublicKeyToAddress outLen txout.scriptPublicKey scriptPublicKeyBufferLen

variable {txout : TransactionOutput} {script : PaymentScript} {outLen : Nat}

/-- An x-only key that was copied to the front of a 64 byte key. -/
theorem compressPublicKey_copy (key : Bytes 32) {addressType : AddressType}
    (short : addressType ≠ .ecdsa)
    : compressPublicKey (Memory.copy (Bytes.zero 64) key.toList) addressType 33 = key.toList := by
  have front := Memory.take_copy (Bytes.zero 64) key.toList (by simp)
  rw [key.length_toList] at front
  cases addressType with
  | schnorr | p2sh =>
      simp only [compressPublicKey]
      rw [if_neg (by omega), front]
  | ecdsa => exact absurd rfl short

/-- The key that is built from the parts of an ECDSA script is compressed to the key of that
script with a prefix of the same parity.
-/
theorem compressPublicKey_ecdsa (key : Bytes 33)
    : compressPublicKey
        (Memory.copy (Bytes.zero 64) (key.toList.drop 1 ++ List.replicate 32 key[0])) .ecdsa 33
      = (key.set 0 (compressedPrefix key[0])).toList := by
  have fills : (key.toList.drop 1 ++ List.replicate 32 key[0]).length = 64 := by simp
  have cells := Memory.toList_copy_of_length_eq (Bytes.zero 64) _ fills
  have front
      : (Memory.copy (Bytes.zero 64) (key.toList.drop 1 ++ List.replicate 32 key[0])).toList.take 32
        = key.toList.drop 1 := by
    rw [cells, List.take_left' (by simp)]
  have last
      : (Memory.copy (Bytes.zero 64) (key.toList.drop 1 ++ List.replicate 32 key[0]))[63]
        = key[0] := by
    rw [Memory.getElem_copy_of_lt _ _ 63 (by decide) (by omega),
      List.getElem_append_right (by simp), List.getElem_replicate]
  have split : key.toList = key[0] :: key.toList.drop 1 := by
    have whole := List.drop_eq_getElem_cons (by simp : 0 < key.toList.length)
    rwa [List.drop_zero, Vector.getElem_toList] at whole
  simp only [compressPublicKey]
  rw [if_neg (by omega), front, last, Vector.toList_set, split, List.set_cons_zero, List.drop_one,
    List.tail_cons]
  rfl

theorem Holds.keyPrefix {slot : Bytes scriptPublicKeyBufferLen} {key : Bytes 33}
    (holds : Holds slot (.ecdsa key))
    : slot[1] = key[0] := by
  have second := holds.getElem? (by simp [PaymentScript.bytes] : 1 < _)
  simpa [PaymentScript.bytes] using second

/-- The type of the address that pays to a script. -/
def PaymentScript.addressType : PaymentScript → AddressType
  | .schnorr _ => .schnorr
  | .ecdsa _ => .ecdsa
  | .p2sh _ => .p2sh

/-- A slot that holds a script gives the address of `shown`, where it fits. -/
theorem scriptPublicKeyToAddress_of_holds {slot : Bytes scriptPublicKeyBufferLen}
    (holds : Holds slot script) {scriptLen : Nat} (long : 35 ≤ scriptLen)
    : scriptPublicKeyToAddress outLen slot scriptLen
      = if outLen < script.addressType.addressLen then none
        else some (addressText script.shown.content) := by
  have tag := holds.tag
  have enough : ¬ scriptLen < 35 := by omega
  have medium : ¬ scriptLen < 34 := by omega
  have short : ¬ scriptLen < 32 := by omega
  simp only [scriptPublicKeyToAddress, short, medium, enough, tag, if_false]
  cases script with
  | schnorr key =>
      have middle : ((PaymentScript.schnorr key).bytes.drop 1).take 32 = key.toList := by
        simp [PaymentScript.bytes]
      have inside : 1 + 32 ≤ (PaymentScript.schnorr key).bytes.length := by
        simp [PaymentScript.bytes]
      have slice := (holds.slice inside).trans middle
      have other : ¬ (0x20 : UInt8) = 0xaa := by decide
      have shorter : ¬ (0x20 : UInt8) = 0x21 := by decide
      simp only [PaymentScript.tag, other, shorter, if_false, slice]
      rw [addressFromPubkey_eq _ .schnorr (Nat.le_refl schnorrAddressLen),
        compressPublicKey_copy key (by decide)]
      rfl
  | ecdsa key =>
      have middle : ((PaymentScript.ecdsa key).bytes.drop 2).take 32 = key.toList.drop 1 := by
        simp [PaymentScript.bytes]
      have inside : 2 + 32 ≤ (PaymentScript.ecdsa key).bytes.length := by
        simp [PaymentScript.bytes]
      have slice := (holds.slice inside).trans middle
      have parity := holds.keyPrefix
      have other : ¬ (0x21 : UInt8) = 0xaa := by decide
      simp only [PaymentScript.tag, other, if_false, if_true, slice, parity]
      rw [addressFromPubkey_eq _ .ecdsa (Nat.le_refl ecdsaAddressLen), compressPublicKey_ecdsa key]
      rfl
  | p2sh hash =>
      have middle : ((PaymentScript.p2sh hash).bytes.drop 2).take 32 = hash.toList := by
        simp [PaymentScript.bytes]
      have inside : 2 + 32 ≤ (PaymentScript.p2sh hash).bytes.length := by
        simp [PaymentScript.bytes]
      have slice := (holds.slice inside).trans middle
      simp only [PaymentScript.tag, opBlake2b, if_true, slice]
      rw [addressFromPubkey_eq _ .p2sh (Nat.le_refl schnorrAddressLen),
        compressPublicKey_copy hash (by decide)]
      rfl

/-- The device shows the address of `shown` for a slot that holds a script. -/
theorem shownAddress_of_holds (holds : Holds txout.scriptPublicKey script)
    (room : ecdsaAddressLen ≤ outLen)
    : shownAddress outLen txout = some (addressText script.shown.content) := by
  have fits : ¬ outLen < script.addressType.addressLen := by
    have longest := script.addressType.addressLen_le
    omega
  have long : 35 ≤ scriptPublicKeyBufferLen := by decide
  rw [shownAddress, scriptPublicKeyToAddress_of_holds holds long, if_neg fits]

/-- Payments to the shown address use the script of the output that `calc_outputs_hash` takes. -/
def ShowsScript (outLen : Nat) (txout : TransactionOutput) : Prop :=
  ∀ stray, ∃ address,
    shownAddress outLen txout = some address
    ∧ scriptOfAddress address = some (committedScript stray txout)

/-- An ECDSA key in the slot begins with one of the two prefixes of compressed keys. -/
def KnownPrefix (txout : TransactionOutput) : Prop :=
  getElem txout.scriptPublicKey 0 zero_lt_bufferLen = 0x21
  → getElem txout.scriptPublicKey 1 one_lt_bufferLen = 0x02
    ∨ getElem txout.scriptPublicKey 1 one_lt_bufferLen = 0x03

theorem compressedPrefix_eq_iff (first : UInt8)
    : compressedPrefix first = first ↔ first = 0x02 ∨ first = 0x03 := by
  have each
      : ∀ value < 256,
          compressedPrefix (UInt8.ofNat value) = UInt8.ofNat value
          ↔ UInt8.ofNat value = 0x02 ∨ UInt8.ofNat value = 0x03 := by
    decide +kernel
  have found := each first.toNat first.toNat_lt
  rwa [UInt8.ofNat_toNat] at found

/-- The shown script is the script of the slot exactly if the prefix is known. -/
theorem shown_eq_iff (holds : Holds txout.scriptPublicKey script)
    : script.shown = script ↔ KnownPrefix txout := by
  have tag := holds.tag
  cases script with
  | schnorr key =>
      have other : ¬ txout.scriptPublicKey[0] = 0x21 := by simp [tag, PaymentScript.tag]
      exact iff_of_true rfl fun ecdsa => absurd ecdsa other
  | ecdsa key =>
      have unchanged
          : key.set 0 (compressedPrefix key[0]) = key ↔ compressedPrefix key[0] = key[0] := by
        constructor
        · intro same
          have front := congrArg (fun bytes : Bytes 33 => bytes[0]) same
          simpa using front
        · intro same
          rw [same, Vector.set_getElem_self]
      rw [KnownPrefix, holds.keyPrefix, PaymentScript.shown, PaymentScript.ecdsa.injEq, unchanged,
        compressedPrefix_eq_iff]
      exact ⟨fun known _ => known, fun known => known tag⟩
  | p2sh hash =>
      have other : ¬ txout.scriptPublicKey[0] = 0x21 := by simp [tag, PaymentScript.tag, opBlake2b]
      exact iff_of_true rfl fun ecdsa => absurd ecdsa other

theorem showsScript_iff (holds : Holds txout.scriptPublicKey script)
    (room : ecdsaAddressLen ≤ outLen)
    : ShowsScript outLen txout ↔ KnownPrefix txout := by
  rw [← shown_eq_iff holds]
  constructor
  · intro shows
    obtain ⟨address, shown, paid⟩ :=
      shows { inputs := fun _ => .zero, outputs := fun _ => .zero, script := fun _ => 0 }
    rw [shownAddress_of_holds holds room] at shown
    obtain rfl := Option.some.inj shown
    rw [scriptOfAddress_content, committedScript_of_holds holds] at paid
    exact PaymentScript.bytes_injective (Option.some.inj paid)
  · intro same stray
    refine ⟨_, shownAddress_of_holds holds room, ?_⟩
    rw [scriptOfAddress_content, committedScript_of_holds holds, same]

/-- Of two accepted outputs each is shown with its own script, and different scripts with
different addresses, exactly if the ECDSA keys among them have known prefixes.
-/
theorem showsScripts_iff {first second : TransactionOutput} {firstScript secondScript : List UInt8}
    (firstAccepted : AcceptedScript first.scriptPublicKey firstScript)
    (secondAccepted : AcceptedScript second.scriptPublicKey secondScript)
    (room : ecdsaAddressLen ≤ outLen)
    : (ShowsScript outLen first ∧ ShowsScript outLen second
        ∧ (firstScript ≠ secondScript → shownAddress outLen first ≠ shownAddress outLen second))
      ↔ KnownPrefix first ∧ KnownPrefix second := by
  obtain ⟨script, rfl, holds⟩ := firstAccepted.holds
  obtain ⟨script', rfl, holds'⟩ := secondAccepted.holds
  rw [showsScript_iff holds room, showsScript_iff holds' room]
  constructor
  · exact fun shows => ⟨shows.1, shows.2.1⟩
  · rintro ⟨known, known'⟩
    refine ⟨known, known', fun different same => different ?_⟩
    rw [shownAddress_of_holds holds room, shownAddress_of_holds holds' room,
      (shown_eq_iff holds).mpr known, (shown_eq_iff holds').mpr known'] at same
    have paid := congrArg scriptOfAddress (Option.some.inj same)
    rw [scriptOfAddress_content, scriptOfAddress_content] at paid
    exact Option.some.inj paid

/-- An output to the ECDSA key whose first byte is `first` and whose coordinate is all ones. -/
def ecdsaOutput (first : UInt8) : OutputPayload :=
  ⟨4, .ecdsa ((Vector.replicate 33 1).set 0 first)⟩

theorem showsScripts_iff_sample
    : ShowsScript ecdsaAddressLen ((ecdsaOutput 0x03).into .zero)
      ∧ ShowsScript ecdsaAddressLen ((plainOutput 4).into .zero)
      ∧ ((ecdsaOutput 0x03).script.bytes ≠ (plainOutput 4).script.bytes
          → shownAddress ecdsaAddressLen ((ecdsaOutput 0x03).into .zero)
            ≠ shownAddress ecdsaAddressLen ((plainOutput 4).into .zero)) := by
  have known : KnownPrefix ((ecdsaOutput 0x03).into .zero) := fun _ => .inr rfl
  have other : KnownPrefix ((plainOutput 4).into .zero) :=
    fun ecdsa => absurd ecdsa (by decide)
  exact (showsScripts_iff (acceptedScript_into (ecdsaOutput 0x03) .zero)
    (acceptedScript_into (plainOutput 4) .zero) (Nat.le_refl ecdsaAddressLen)).mpr ⟨known, other⟩

/-- Accepted outputs to keys that begin with 0x02 and 0x04 are shown as one address, which pays
to the first of them.
-/
theorem shows_foreign_script
    : AcceptedScript ((ecdsaOutput 0x02).into .zero).scriptPublicKey
        (ecdsaOutput 0x02).script.bytes
      ∧ AcceptedScript ((ecdsaOutput 0x04).into .zero).scriptPublicKey
          (ecdsaOutput 0x04).script.bytes
      ∧ (ecdsaOutput 0x02).script.bytes ≠ (ecdsaOutput 0x04).script.bytes
      ∧ shownAddress ecdsaAddressLen ((ecdsaOutput 0x02).into .zero)
        = shownAddress ecdsaAddressLen ((ecdsaOutput 0x04).into .zero)
      ∧ ¬ ShowsScript ecdsaAddressLen ((ecdsaOutput 0x04).into .zero) := by
  have held (first : UInt8)
      : Holds ((ecdsaOutput first).into .zero).scriptPublicKey (ecdsaOutput first).script :=
    holds_copy (TransactionOutput.zero).scriptPublicKey (ecdsaOutput first).script
  have room : ecdsaAddressLen ≤ ecdsaAddressLen := Nat.le_refl ecdsaAddressLen
  have same : (ecdsaOutput 0x02).script.shown = (ecdsaOutput 0x04).script.shown := by decide
  refine ⟨acceptedScript_into _ _, acceptedScript_into _ _, by decide, ?_, ?_⟩
  · rw [shownAddress_of_holds (held 0x02) room, shownAddress_of_holds (held 0x04) room, same]
  · rw [showsScript_iff (held 0x04) room]
    intro known
    rcases known rfl with even | odd
    · exact absurd even (by decide)
    · exact absurd odd (by decide)

end KaspaApp
