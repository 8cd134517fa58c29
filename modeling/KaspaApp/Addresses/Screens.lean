import KaspaApp.Addresses.ShownScripts

/-! The two ways to an address: the screen of a received key starts from the key, the screen of
an output from the script that pays to it.
-/

namespace KaspaApp

/-- The first byte of the compressed key: it tells the parity of the last byte of the key. -/
def parityByte (publicKey : Bytes 64) : UInt8 :=
  compressedPrefix (getElem publicKey 63 last_lt_keyLen)

/-- The compressed key of the ECDSA script of a public key. -/
def ecdsaKey (publicKey : Bytes 64) : Bytes 33 :=
  Memory.copy (Bytes.zero 33) (parityByte publicKey :: publicKey.toList.take 32)

/-- The coordinate of a public key that all scripts are made from. -/
def keyCoordinate (publicKey : Bytes 64) : Bytes 32 :=
  Memory.copy (Bytes.zero 32) (publicKey.toList.take 32)

/-- The script that pays to a public key, by the type of its address. -/
def scriptOfKey (publicKey : Bytes 64) : AddressType → PaymentScript
  | .schnorr => .schnorr (keyCoordinate publicKey)
  | .ecdsa => .ecdsa (ecdsaKey publicKey)
  | .p2sh => .p2sh (keyCoordinate publicKey)

/-- The bytes of that script: a tag, the coordinate and an opcode. -/
def scriptBytesOfKey (publicKey : Bytes 64) : AddressType → List UInt8
  | .schnorr => [0x20] ++ publicKey.toList.take 32 ++ [0xac]
  | .ecdsa => [0x21, parityByte publicKey] ++ publicKey.toList.take 32 ++ [0xab]
  | .p2sh => [0xaa, 0x20] ++ publicKey.toList.take 32 ++ [0x87]

theorem toList_keyCoordinate (publicKey : Bytes 64)
    : (keyCoordinate publicKey).toList = publicKey.toList.take 32 :=
  Memory.toList_copy_of_length_eq _ _ (by simp)

theorem toList_ecdsaKey (publicKey : Bytes 64)
    : (ecdsaKey publicKey).toList = parityByte publicKey :: publicKey.toList.take 32 :=
  Memory.toList_copy_of_length_eq _ _ (by simp)

theorem bytes_scriptOfKey (publicKey : Bytes 64) (addressType : AddressType)
    : (scriptOfKey publicKey addressType).bytes = scriptBytesOfKey publicKey addressType := by
  cases addressType <;>
    simp [scriptOfKey, PaymentScript.bytes, scriptBytesOfKey, toList_keyCoordinate,
      toList_ecdsaKey, opCheckSig, opCheckSigEcdsa, opBlake2b, opEqual]

theorem addressType_scriptOfKey (publicKey : Bytes 64) (addressType : AddressType)
    : (scriptOfKey publicKey addressType).addressType = addressType := by
  cases addressType <;> rfl

/-- The prefix of a compressed key has the parity that it stands for. -/
theorem compressedPrefix_compressedPrefix (parity : UInt8)
    : compressedPrefix (compressedPrefix parity) = compressedPrefix parity := by
  rw [compressedPrefix_eq_iff, compressedPrefix]
  split
  · exact .inl rfl
  · exact .inr rfl

/-- The device shows the script of a key as it is. -/
theorem shown_scriptOfKey (publicKey : Bytes 64) (addressType : AddressType)
    : (scriptOfKey publicKey addressType).shown = scriptOfKey publicKey addressType := by
  cases addressType with
  | schnorr | p2sh => rfl
  | ecdsa =>
      have first : (ecdsaKey publicKey)[0] = parityByte publicKey := by
        rw [ecdsaKey, Memory.getElem_copy_of_lt _ _ 0 (by decide) (by simp)]
        rfl
      have kept : compressedPrefix (ecdsaKey publicKey)[0] = (ecdsaKey publicKey)[0] := by
        rw [first, parityByte, compressedPrefix_compressedPrefix]
      rw [scriptOfKey, PaymentScript.shown, kept, Vector.set_getElem_self]

/-- The script of a key holds what its address encodes. -/
theorem content_scriptOfKey (publicKey : Bytes 64) (addressType : AddressType)
    : (scriptOfKey publicKey addressType).content
      = addressType.addressVersion.toUInt8 :: compressPublicKey publicKey addressType 33 := by
  cases addressType with
  | schnorr | p2sh =>
      rw [scriptOfKey, PaymentScript.content, toList_keyCoordinate]
      rfl
  | ecdsa =>
      rw [scriptOfKey, PaymentScript.content, toList_ecdsaKey]
      rfl

theorem holds_of_begins {script : PaymentScript} {slot : List UInt8}
    (begins : script.bytes <+: slot) (behind : Bytes scriptPublicKeyBufferLen)
    : Holds (Memory.copy behind slot) script := by
  have room : script.bytes.length ≤ scriptPublicKeyBufferLen :=
    script.length_bytes_le.trans (by decide)
  rw [Holds]
  apply List.ext_getElem
  · simp [room]
  · intro index left right
    have inside : index < slot.length := right.trans_le begins.length_le
    rw [List.getElem_take, Vector.getElem_toList,
      Memory.getElem_copy_of_lt behind slot index (right.trans_le room) inside]
    exact (begins.getElem right).symm

/-- Both screens show one address for a key: whatever lies in the slot behind the script, and in
the memory behind a slot that is shorter than the one of an output. It is the address of the
compressed key wherever the buffer has room for it.
-/
theorem scriptPublicKeyToAddress_scriptOfKey (publicKey : Bytes 64) (addressType : AddressType)
    (outLen : Nat) {slot : List UInt8} (begins : scriptBytesOfKey publicKey addressType <+: slot)
    (long : 35 ≤ slot.length) (behind : Bytes scriptPublicKeyBufferLen)
    : scriptPublicKeyToAddress outLen (Memory.copy behind slot) slot.length
        = addressFromPubkey publicKey addressType outLen
      ∧ (addressType.addressLen ≤ outLen
          → addressFromPubkey publicKey addressType outLen
            = some (addressText
                (addressType.addressVersion.toUInt8
                  :: compressPublicKey publicKey addressType 33))) := by
  constructor
  · rw [← bytes_scriptOfKey] at begins
    rw [scriptPublicKeyToAddress_of_holds (holds_of_begins begins behind) long,
      addressType_scriptOfKey, shown_scriptOfKey, content_scriptOfKey, addressFromPubkey_eq_ite]
  · exact addressFromPubkey_eq publicKey addressType

/-- The Schnorr script of the key of all ones, in a slot with one more byte. -/
theorem scriptPublicKeyToAddress_scriptOfKey_sample
    : let slot := [0x20] ++ List.replicate 32 1 ++ [0xac] ++ [0x05]
      scriptPublicKeyToAddress 67 (Memory.copy (Bytes.zero 40) slot) slot.length
          = addressFromPubkey (Vector.replicate 64 1) .schnorr 67
        ∧ addressFromPubkey (Vector.replicate 64 1) .schnorr 67
          = some (addressText (0x00 :: List.replicate 32 1)) := by
  intro slot
  have script
      : scriptBytesOfKey (Vector.replicate 64 1) .schnorr
        = [0x20] ++ List.replicate 32 1 ++ [0xac] := by
    decide +kernel
  have begins : scriptBytesOfKey (Vector.replicate 64 1) .schnorr <+: slot :=
    ⟨[0x05], by rw [script]⟩
  have key
      : compressPublicKey (Vector.replicate 64 1) .schnorr 33 = List.replicate 32 1 := by
    decide +kernel
  obtain ⟨same, address⟩ :=
    scriptPublicKeyToAddress_scriptOfKey (Vector.replicate 64 1) .schnorr 67 begins (by decide)
      (Bytes.zero 40)
  rw [key] at address
  exact ⟨same, address (by decide)⟩

end KaspaApp
