import KaspaApp.Addresses.Decoding

/-! The writes of `address_from_pubkey` and of the functions below it, object by object: what they
leave is what the functions return, and the address decodes to the key.
-/

namespace KaspaApp

open Memory

/-- The objects that are written: five locals and the buffer of the caller. -/
inductive AddressBuffer where
  | address
  | compressedPublicKey
  | tmp
  | payload
  | checksum
  | out
deriving DecidableEq

def AddressBuffer.size (outLen : Nat) : AddressBuffer → Nat
  | .address => 80
  | .compressedPublicKey => 33
  | .tmp => 40
  | .payload => 70
  | .checksum => 8
  | .out => outLen

/-- Bytes that go into an object, from its cell `start` on. -/
structure BlockWrite where
  buffer : AddressBuffer
  start : Nat
  bytes : List UInt8

/-- All bytes of the write lie in the object. -/
def BlockWrite.Inside (outLen : Nat) (write : BlockWrite) : Prop :=
  write.start + write.bytes.length ≤ write.buffer.size outLen

/-- The writes of `compress_public_key`. -/
def compressPublicKeyWrites (publicKey : Bytes 64) (addressType : AddressType) (outLen : Nat)
    : List BlockWrite :=
  match addressType with
  | .schnorr | .p2sh =>
      if outLen < 32 then [] else [⟨.compressedPublicKey, 0, publicKey.toList.take 32⟩]
  | .ecdsa =>
      if outLen < 33 then []
      else
        let parity := getElem publicKey 63 last_lt_keyLen
        [⟨.compressedPublicKey, 0, [if parity % 2 = 0 then 0x02 else 0x03]⟩,
          ⟨.compressedPublicKey, 1, publicKey.toList.take 32⟩]

/-- The writes of a loop over symbols in `cashaddr_encode`, whose `addr` is `address + 6`. A loop
that gives up clears the first byte.
-/
def cashaddrWriteWrites (first : UInt8) (maxAddrLen : Nat) : List UInt8 → Nat → List BlockWrite
  | [], _ => []
  | symbol :: rest, addrLength =>
      if first >>> 5 ≠ 0 then [⟨.address, 6, [0]⟩]
      else if maxAddrLen < addrLength + 1 then [⟨.address, 6, [0]⟩]
      else
        ⟨.address, 6 + addrLength, [charsetAt symbol]⟩
        :: cashaddrWriteWrites first maxAddrLen rest (addrLength + 1)

/-- The writes of `cashaddr_encode`; the last one is the terminating zero. -/
def cashaddrEncodeWrites (hash : List UInt8) (maxAddrLen : Nat) (version : UInt16)
    : List BlockWrite :=
  ⟨.address, 6, [0]⟩
  :: if version = 0 ∨ version = 1 ∨ version = 8 then
      let payload := convertBits 5 (version.toUInt8 :: hash) 8
      let checksum := createChecksum payload
      [⟨.tmp, 0, [version.toUInt8]⟩, ⟨.tmp, 1, hash⟩, ⟨.payload, 0, payload⟩,
        ⟨.checksum, 0, checksum⟩]
      ++ cashaddrWriteWrites (payload.headD 0) maxAddrLen payload 0
      ++ match cashaddrWrite payload maxAddrLen [] with
        | none => []
        | some written =>
            cashaddrWriteWrites (checksum.headD 0) maxAddrLen checksum written.length
            ++ match cashaddrWrite checksum maxAddrLen written with
              | none => []
              | some written => [⟨.address, 6 + written.length, [0]⟩]
    else
      []

/-- The stores of the writes to one object. -/
def AddressBuffer.stores (buffer : AddressBuffer) (writes : List BlockWrite)
    : List (Nat × List UInt8) :=
  (writes.filter fun write => write.buffer = buffer).map fun write => (write.start, write.bytes)

/-- The writes of `address_from_pubkey`. The copy of `hrp` takes its terminating zero along, and
`out` gets what the writes before have left in the local.
-/
def addressFromPubkeyWrites (publicKey : Bytes 64) (addressType : AddressType) (outLen : Nat)
    : List BlockWrite :=
  let addressLen := addressType.addressLen
  let initialised : List BlockWrite := [⟨.address, 0, List.replicate 80 0⟩]
  if outLen < addressLen then
    initialised
  else
    let compressedPublicKey := compressPublicKey publicKey addressType 33
    let compressed :=
      initialised ++ [⟨.compressedPublicKey, 0, List.replicate 33 0⟩]
      ++ compressPublicKeyWrites publicKey addressType 33
    if compressedPublicKey.length = 0 then
      compressed
    else
      let encoded :=
        compressed ++ [⟨.address, 0, kaspaHrp ++ [0]⟩, ⟨.address, 5, [0x3a]⟩]
        ++ cashaddrEncodeWrites compressedPublicKey addressLen addressType.addressVersion
      let address := storeAll (Bytes.zero 80) (AddressBuffer.address.stores encoded)
      encoded ++ [⟨.out, 0, address.toList.take addressLen⟩]

-----------------------------------------------------------------------------------------
-- What the writes leave
-----------------------------------------------------------------------------------------

section

variable {buffer : AddressBuffer}

@[simp] theorem AddressBuffer.stores_nil : buffer.stores [] = [] := rfl

@[simp] theorem AddressBuffer.stores_own (start : Nat) (bytes : List UInt8)
    (writes : List BlockWrite)
    : buffer.stores (⟨buffer, start, bytes⟩ :: writes)
      = (start, bytes) :: buffer.stores writes := by
  simp [stores]

@[simp] theorem AddressBuffer.stores_append (first second : List BlockWrite)
    : buffer.stores (first ++ second) = buffer.stores first ++ buffer.stores second := by
  simp [stores]

/-- Writes to other objects. -/
theorem AddressBuffer.stores_eq_nil {writes : List BlockWrite}
    (others : ∀ write ∈ writes, write.buffer ≠ buffer)
    : buffer.stores writes = [] := by
  rw [stores, List.map_eq_nil_iff, List.filter_eq_nil_iff]
  intro write member
  simpa using others write member

@[simp] theorem AddressBuffer.stores_other {other : AddressBuffer} (differ : other ≠ buffer)
    (start : Nat) (bytes : List UInt8) (writes : List BlockWrite)
    : buffer.stores (⟨other, start, bytes⟩ :: writes) = buffer.stores writes := by
  simp [stores, differ]

end

/-- The compressed key is what its writes leave. -/
theorem compressPublicKey_stores (publicKey : Bytes 64) (addressType : AddressType) (outLen : Nat)
    (object : Bytes 33)
    : storeAll object
        (AddressBuffer.compressedPublicKey.stores
          (compressPublicKeyWrites publicKey addressType outLen))
      = copy object (compressPublicKey publicKey addressType outLen) := by
  cases addressType with
  | schnorr | p2sh =>
      rw [compressPublicKeyWrites, compressPublicKey]
      by_cases short : outLen < 32
      · simp [short]
      · simp [short, writeAt_zero]
  | ecdsa =>
      rw [compressPublicKeyWrites, compressPublicKey]
      by_cases short : outLen < 33
      · simp [short]
      · simp only [short, if_false, AddressBuffer.stores_own, AddressBuffer.stores_nil,
          storeAll_cons, storeAll_nil, writeAt_zero]
        exact writeAt_copy object rfl (publicKey.toList.take 32)

variable {maxAddrLen : Nat}

/-- A loop that comes to its end has appended a character for each symbol, each behind the one
before it.
-/
theorem cashaddrWrite_finished {symbols written result : List UInt8}
    (finished : cashaddrWrite symbols maxAddrLen written = some result)
    : result = written ++ symbols.map charsetAt
      ∧ AddressBuffer.address.stores
            (cashaddrWriteWrites (symbols.headD 0) maxAddrLen symbols written.length)
          = inSequence (6 + written.length) (symbols.map fun symbol => [charsetAt symbol]) := by
  rw [cashaddrWrite] at finished
  generalize symbols.headD 0 = first at finished
  induction symbols generalizing written with
  | nil => exact ⟨(Option.some.inj finished).symm.trans (by simp), rfl⟩
  | cons symbol rest ih =>
      by_cases wide : first >>> 5 ≠ 0
      · rw [List.foldlM_cons, if_pos wide] at finished
        cases finished
      · by_cases full : maxAddrLen < written.length + 1
        · rw [List.foldlM_cons, if_neg wide, if_pos full] at finished
          cases finished
        · rw [List.foldlM_cons, if_neg wide, if_neg full] at finished
          obtain ⟨result, stores⟩ := ih finished
          rw [List.length_append, List.length_singleton] at stores
          constructor
          · rw [result, List.append_assoc]
            rfl
          · rw [cashaddrWriteWrites, if_neg wide, if_neg full, AddressBuffer.stores_own, stores]
            rfl

/-- A loop that gives up clears the first character last. -/
theorem cashaddrWrite_gaveUp {symbols written : List UInt8}
    (gaveUp : cashaddrWrite symbols maxAddrLen written = none)
    : ∃ before,
        AddressBuffer.address.stores
          (cashaddrWriteWrites (symbols.headD 0) maxAddrLen symbols written.length)
        = before ++ [(6, [0])] := by
  rw [cashaddrWrite] at gaveUp
  generalize symbols.headD 0 = first at gaveUp
  induction symbols generalizing written with
  | nil => cases gaveUp
  | cons symbol rest ih =>
      by_cases wide : first >>> 5 ≠ 0
      · rw [cashaddrWriteWrites, if_pos wide]
        exact ⟨[], rfl⟩
      · by_cases full : maxAddrLen < written.length + 1
        · rw [cashaddrWriteWrites, if_neg wide, if_pos full]
          exact ⟨[], rfl⟩
        · rw [List.foldlM_cons, if_neg wide, if_neg full] at gaveUp
          obtain ⟨before, stores⟩ := ih gaveUp
          rw [List.length_append, List.length_singleton] at stores
          rw [cashaddrWriteWrites, if_neg wide, if_neg full, AddressBuffer.stores_own, stores]
          exact ⟨_ :: before, rfl⟩

/-- The text that `cashaddr_encode` returns is what its writes leave, with a zero behind it. -/
theorem cashaddrEncode_stores {hash characters : List UInt8} {version : UInt16}
    (encoded : cashaddrEncode hash maxAddrLen version = some characters) (object : Bytes 80)
    : storeAll object
        (AddressBuffer.address.stores (cashaddrEncodeWrites hash maxAddrLen version))
      = writeAt object 6 (characters ++ [0]) := by
  rw [cashaddrEncode] at encoded
  rw [cashaddrEncodeWrites]
  by_cases known : version = 0 ∨ version = 1 ∨ version = 8
  · rw [if_pos known] at encoded
    rw [if_pos known]
    simp only at encoded ⊢
    generalize convertBits 5 (version.toUInt8 :: hash) 8 = payload at encoded ⊢
    obtain ⟨front, first, second⟩ := Option.bind_eq_some_iff.mp encoded
    obtain ⟨rfl, payloadStores⟩ := cashaddrWrite_finished first
    obtain ⟨rfl, checksumStores⟩ := cashaddrWrite_finished second
    rw [List.length_nil, Nat.add_zero] at payloadStores
    rw [List.nil_append] at first second checksumStores ⊢
    simp only [first, second, AddressBuffer.stores_own, AddressBuffer.stores_append,
      AddressBuffer.stores_nil, AddressBuffer.stores_other, ne_eq, reduceCtorEq, not_false_eq_true,
      List.nil_append, payloadStores, checksumStores, storeAll_append, storeAll_cons, storeAll_nil,
      storeAll_inSequence, ← List.flatMap_def, ← List.map_eq_flatMap]
    rw [writeAt_append, writeAt_append, writeAt_writeAt]
    simp
  · rw [if_neg known] at encoded
    cases encoded

/-- Where `cashaddr_encode` returns 0, the text that its writes leave is empty. -/
theorem cashaddrEncode_cleared {hash : List UInt8} {version : UInt16}
    (refused : cashaddrEncode hash maxAddrLen version = none) (object : Bytes 80)
    : (storeAll object
        (AddressBuffer.address.stores (cashaddrEncodeWrites hash maxAddrLen version)))[6]
      = 0 := by
  have cleared {stores : List (Nat × List UInt8)} (last : ∃ before, stores = before ++ [(6, [0])])
      : (storeAll object stores)[6] = 0 := by
    obtain ⟨before, rfl⟩ := last
    simp [storeAll_append, writeAt]
  apply cleared
  rw [cashaddrEncode] at refused
  rw [cashaddrEncodeWrites]
  by_cases known : version = 0 ∨ version = 1 ∨ version = 8
  · rw [if_pos known] at refused
    rw [if_pos known]
    simp only at refused ⊢
    generalize convertBits 5 (version.toUInt8 :: hash) 8 = payload at refused ⊢
    cases first : cashaddrWrite payload maxAddrLen [] with
    | none =>
        obtain ⟨before, stores⟩ := cashaddrWrite_gaveUp first
        rw [List.length_nil] at stores
        refine ⟨(6, [0]) :: before, ?_⟩
        simpa using stores
    | some written =>
        rw [first, Option.bind_some] at refused
        obtain ⟨before, stores⟩ := cashaddrWrite_gaveUp refused
        let front :=
          AddressBuffer.address.stores
            (cashaddrWriteWrites (payload.headD 0) maxAddrLen payload 0)
        refine ⟨(6, [0]) :: (front ++ before), ?_⟩
        simpa [front, refused] using stores
  · rw [if_neg known]
    exact ⟨[], rfl⟩

/-- The local of `address_from_pubkey` gets the text of an address. -/
theorem take_address_stores {hash : List UInt8} {addressLen : Nat} {version : UInt16}
    (known : version = 0 ∨ version = 1 ∨ version = 8)
    (length : 6 + ((8 * (hash.length + 1) + 4) / 5 + 8) = addressLen) (fits : addressLen < 80)
    : (storeAll (Bytes.zero 80)
        ((0, List.replicate 80 0) :: (0, kaspaHrp ++ [0]) :: (5, [0x3a])
          :: AddressBuffer.address.stores
              (cashaddrEncodeWrites hash addressLen version))).toList.take addressLen
      = addressText (version.toUInt8 :: hash) := by
  obtain ⟨characters, encoded, text⟩ :=
    @cashaddrEncode_of_fits hash addressLen version known (by omega)
  have whole : (addressText (version.toUInt8 :: hash)).length = addressLen := by
    rw [length_addressText, List.length_cons, length]
  have front
      : writeAt (writeAt (writeAt (Bytes.zero 80) 0 (List.replicate 80 0)) 0 (kaspaHrp ++ [0])) 5
          [0x3a]
        = copy (Bytes.zero 80) (kaspaHrp ++ [0x3a]) := by
    decide +kernel
  simp only [storeAll_cons]
  have behind := writeAt_copy (Bytes.zero 80) (rfl : (kaspaHrp ++ [0x3a]).length = 6)
  rw [cashaddrEncode_stores encoded, front, behind, ← List.append_assoc, text, ← whole]
  generalize addressText (version.toUInt8 :: hash) = content at whole ⊢
  have copied := take_copy (Bytes.zero 80) (content ++ [0]) (by simp; omega)
  have taken := congrArg (List.take content.length) copied
  rwa [List.take_take, List.length_append, Nat.min_eq_left (Nat.le_add_right _ _),
    List.take_left] at taken

-----------------------------------------------------------------------------------------
-- Where the writes go
-----------------------------------------------------------------------------------------

section

variable {outLen : Nat} {write : BlockWrite}

theorem compressPublicKeyWrites_inside {publicKey : Bytes 64} {addressType : AddressType}
    (member : write ∈ compressPublicKeyWrites publicKey addressType 33)
    : write.buffer = .compressedPublicKey ∧ write.Inside outLen := by
  cases addressType with
  | schnorr | p2sh =>
      obtain rfl := List.mem_singleton.mp member
      exact ⟨rfl, by simp [BlockWrite.Inside, AddressBuffer.size]⟩
  | ecdsa =>
      rcases List.mem_cons.mp member with rfl | member
      · exact ⟨rfl, by simp [BlockWrite.Inside, AddressBuffer.size]⟩
      · obtain rfl := List.mem_singleton.mp member
        exact ⟨rfl, by simp [BlockWrite.Inside, AddressBuffer.size]⟩

/-- Each round of a loop over symbols writes one byte further, or clears the first. -/
theorem cashaddrWriteWrites_inside {first : UInt8} {addrLength : Nat} {symbols : List UInt8}
    (room : 6 + (addrLength + symbols.length) < 80)
    (member : write ∈ cashaddrWriteWrites first maxAddrLen symbols addrLength)
    : write.buffer = .address ∧ write.Inside outLen := by
  have cleared : BlockWrite.Inside outLen ⟨.address, 6, [0]⟩ := by
    simp [BlockWrite.Inside, AddressBuffer.size]
  induction symbols generalizing addrLength with
  | nil => simp [cashaddrWriteWrites] at member
  | cons symbol rest ih =>
      rw [List.length_cons] at room
      rw [cashaddrWriteWrites] at member
      split at member
      · obtain rfl := List.mem_singleton.mp member
        exact ⟨rfl, cleared⟩
      · split at member
        · obtain rfl := List.mem_singleton.mp member
          exact ⟨rfl, cleared⟩
        · rcases List.mem_cons.mp member with rfl | later
          · refine ⟨rfl, ?_⟩
            simp only [BlockWrite.Inside, AddressBuffer.size, List.length_singleton]
            omega
          · exact ih (by omega) later

theorem cashaddrEncodeWrites_inside {hash : List UInt8} {version : UInt16}
    (short : hash.length ≤ 33) (member : write ∈ cashaddrEncodeWrites hash maxAddrLen version)
    : write.buffer ≠ .out ∧ write.Inside outLen := by
  have symbols := length_convertBits (version.toUInt8 :: hash)
  rw [List.length_cons] at symbols
  rw [cashaddrEncodeWrites] at member
  rcases List.mem_cons.mp member with rfl | encoded
  · exact ⟨by decide, by simp [BlockWrite.Inside, AddressBuffer.size]⟩
  · split at encoded
    · simp only [List.mem_append, List.mem_cons, List.not_mem_nil, or_false, or_assoc] at encoded
      rcases encoded with rfl | rfl | rfl | rfl | characters | rest
      · exact ⟨by simp, by simp [BlockWrite.Inside, AddressBuffer.size]⟩
      · exact ⟨by simp, by simp only [BlockWrite.Inside, AddressBuffer.size]; omega⟩
      · exact ⟨by simp, by simp only [BlockWrite.Inside, AddressBuffer.size]; omega⟩
      · exact ⟨by simp, by simp [BlockWrite.Inside, AddressBuffer.size]⟩
      · obtain ⟨own, inside⟩ := cashaddrWriteWrites_inside (by omega) characters
        exact ⟨by simp [own], inside⟩
      · split at rest
        · simp at rest
        · next written wrote =>
            obtain ⟨rfl, -⟩ := cashaddrWrite_finished wrote
            rw [List.nil_append, List.length_map] at rest
            rcases List.mem_append.mp rest with characters | terminator
            · obtain ⟨own, inside⟩ :=
                cashaddrWriteWrites_inside (by rw [length_createChecksum]; omega) characters
              exact ⟨by simp [own], inside⟩
            · split at terminator
              · simp at terminator
              · next all wroteAll =>
                  obtain ⟨rfl, -⟩ := cashaddrWrite_finished wroteAll
                  obtain rfl := List.mem_singleton.mp terminator
                  refine ⟨by simp, ?_⟩
                  simp only [BlockWrite.Inside, AddressBuffer.size, List.length_append,
                    List.length_map, length_createChecksum, List.length_singleton]
                  omega
    · simp at encoded

/-- Every byte of every call lies inside its object. -/
theorem addressFromPubkeyWrites_inside {publicKey : Bytes 64} {addressType : AddressType}
    (member : write ∈ addressFromPubkeyWrites publicKey addressType outLen)
    : write.Inside outLen := by
  have length := length_compressPublicKey publicKey addressType
  have longest : addressType.addressLen ≤ 69 := addressType.addressLen_le
  have initialised : BlockWrite.Inside outLen ⟨.address, 0, List.replicate 80 0⟩ := by
    simp [BlockWrite.Inside, AddressBuffer.size]
  rw [addressFromPubkeyWrites] at member
  simp only at member
  split at member
  · obtain rfl := List.mem_singleton.mp member
    exact initialised
  · next enough =>
      rw [if_neg (length_compressPublicKey_ne_zero publicKey addressType)] at member
      simp only [List.mem_append, List.mem_cons, List.not_mem_nil, or_false, or_assoc] at member
      rcases member with rfl | rfl | compressed | rfl | rfl | encoded | rfl
      · exact initialised
      · simp [BlockWrite.Inside, AddressBuffer.size]
      · exact (compressPublicKeyWrites_inside compressed).2
      · simp [BlockWrite.Inside, AddressBuffer.size, kaspaHrp]
      · simp [BlockWrite.Inside, AddressBuffer.size]
      · exact (cashaddrEncodeWrites_inside (by omega) encoded).2
      · simp only [BlockWrite.Inside, AddressBuffer.size, List.length_take, Vector.length_toList]
        omega

end

/-- `out` gets what `address_from_pubkey` returns, and nothing where it returns false. -/
theorem addressFromPubkey_stores (publicKey : Bytes 64) (addressType : AddressType)
    {outLen : Nat} (out : Bytes outLen)
    : storeAll out
        (AddressBuffer.out.stores (addressFromPubkeyWrites publicKey addressType outLen))
      = copy out ((addressFromPubkey publicKey addressType outLen).getD []) := by
  rw [addressFromPubkey_eq_ite, addressFromPubkeyWrites]
  simp only
  by_cases short : outLen < addressType.addressLen
  · rw [if_pos short, if_pos short]
    simp
  · rw [if_neg short, if_neg short, if_neg (length_compressPublicKey_ne_zero publicKey addressType)]
    have length := length_compressPublicKey publicKey addressType
    have fits : addressType.addressLen ≤ 69 := addressType.addressLen_le
    have key (buffer : AddressBuffer) (other : AddressBuffer.compressedPublicKey ≠ buffer)
        : buffer.stores (compressPublicKeyWrites publicKey addressType 33) = [] :=
      AddressBuffer.stores_eq_nil fun write member =>
        (@compressPublicKeyWrites_inside outLen write _ _ member).1 ▸ other
    have encoded
        : AddressBuffer.out.stores
            (cashaddrEncodeWrites (compressPublicKey publicKey addressType 33)
              addressType.addressLen addressType.addressVersion)
          = [] :=
      AddressBuffer.stores_eq_nil fun write member =>
        (@cashaddrEncodeWrites_inside _ outLen write _ _ (by omega) member).1
    simp only [List.append_assoc, List.cons_append, List.nil_append, AddressBuffer.stores_own,
      AddressBuffer.stores_other, AddressBuffer.stores_nil, AddressBuffer.stores_append, ne_eq,
      reduceCtorEq, not_false_eq_true, key, encoded]
    rw [storeAll_cons, take_address_stores addressType.addressVersion_known length (by omega)]
    exact writeAt_zero out _

-----------------------------------------------------------------------------------------
-- Addresses that decode
-----------------------------------------------------------------------------------------

variable {outLen : Nat}

/-- What a receiver finds in the symbols of an address: a checksum that verifies, and a version
byte and a key behind it with nothing but zeros in the padding.
-/
structure SpellsKey (addressType : AddressType) (compressedKey symbols : List UInt8)
    : Prop where
  length : symbols.length + 6 = addressType.addressLen
  fit : Symbols symbols
  verifies : addressChecksum symbols = 1
  read
    : bytesOf (symbols.take (symbols.length - 8))
      = some (addressType.addressVersion.toUInt8 :: compressedKey)

/-- The symbols of a key and of their checksum. -/
theorem spellsKey_compressPublicKey (publicKey : Bytes 64) (addressType : AddressType)
    : let symbols :=
        convertBits 5
          (addressType.addressVersion.toUInt8 :: compressPublicKey publicKey addressType 33) 8
      SpellsKey addressType (compressPublicKey publicKey addressType 33)
        (symbols ++ createChecksum symbols) := by
  intro symbols
  have length
      : (symbols ++ createChecksum symbols).length + 6 = addressType.addressLen := by
    have content := length_compressPublicKey publicKey addressType
    rw [List.length_append, length_convertBits, length_createChecksum, List.length_cons]
    omega
  refine ⟨length, ?_, addressChecksum_createChecksum _, ?_⟩
  · intro symbol member
    rcases List.mem_append.mp member with payload | checksum
    · exact (convertBits_bits _).1 symbol payload
    · exact symbols_createChecksum _ symbol checksum
  · rw [List.length_append, length_createChecksum, Nat.add_sub_cancel, List.take_left' rfl,
      bytesOf_convertBits]

theorem AddressType.addressVersion_injective {left right : AddressType}
    (same : left.addressVersion.toUInt8 = right.addressVersion.toUInt8)
    : left = right := by
  cases left <;> cases right <;> first | rfl | exact absurd same (by decide)

/-- Keys that are encoded as one address are one compressed key of one type. -/
theorem compressPublicKey_of_addressFromPubkey_eq {publicKey otherKey : Bytes 64}
    {addressType otherType : AddressType} {otherLen : Nat}
    (room : addressType.addressLen ≤ outLen) (otherRoom : otherType.addressLen ≤ otherLen)
    (same
      : addressFromPubkey publicKey addressType outLen
        = addressFromPubkey otherKey otherType otherLen)
    : addressType = otherType
      ∧ compressPublicKey publicKey addressType 33 = compressPublicKey otherKey otherType 33 := by
  rw [addressFromPubkey_eq publicKey addressType room,
    addressFromPubkey_eq otherKey otherType otherRoom] at same
  have contents := congrArg decodeAddress (Option.some.inj same)
  rw [decodeAddress_addressText, decodeAddress_addressText] at contents
  obtain ⟨version, key⟩ := List.cons.inj (Option.some.inj contents)
  exact ⟨AddressType.addressVersion_injective version, key⟩

/-- Every address decodes to the key it was made from and to no other, and making it leaves it in
the buffer of the caller and writes inside the objects only.
-/
theorem address_decodes (publicKey : Bytes 64) (addressType : AddressType)
    (room : addressType.addressLen ≤ outLen)
    : (∃ symbols,
        addressFromPubkey publicKey addressType outLen
          = some (kaspaHrp ++ [0x3a] ++ symbols.map charsetAt)
        ∧ SpellsKey addressType (compressPublicKey publicKey addressType 33) symbols
        ∧ ∀ out : Bytes outLen,
            storeAll out
              (AddressBuffer.out.stores (addressFromPubkeyWrites publicKey addressType outLen))
            = copy out (kaspaHrp ++ [0x3a] ++ symbols.map charsetAt))
      ∧ (∀ (otherKey : Bytes 64) (otherType : AddressType) (otherLen : Nat),
          otherType.addressLen ≤ otherLen
          → addressFromPubkey publicKey addressType outLen
            = addressFromPubkey otherKey otherType otherLen
          → addressType = otherType
            ∧ compressPublicKey publicKey addressType 33
              = compressPublicKey otherKey otherType 33)
      ∧ ∀ write ∈ addressFromPubkeyWrites publicKey addressType outLen, write.Inside outLen := by
  have address := addressFromPubkey_eq publicKey addressType room
  refine ⟨⟨_, address, spellsKey_compressPublicKey publicKey addressType, ?_⟩, ?_, ?_⟩
  · intro out
    rw [addressFromPubkey_stores, address]
    rfl
  · intro otherKey otherType otherLen otherRoom same
    exact compressPublicKey_of_addressFromPubkey_eq room otherRoom same
  · intro write member
    exact addressFromPubkeyWrites_inside member

/-- The ECDSA address of the key of all ones, in a buffer of exactly its length. -/
theorem address_decodes_sample
    : (∃ symbols,
        addressFromPubkey (Vector.replicate 64 1) .ecdsa 69
          = some (kaspaHrp ++ [0x3a] ++ symbols.map charsetAt)
        ∧ SpellsKey .ecdsa (0x03 :: List.replicate 32 1) symbols
        ∧ ∀ out : Bytes 69,
            storeAll out
              (AddressBuffer.out.stores
                (addressFromPubkeyWrites (Vector.replicate 64 1) .ecdsa 69))
            = copy out (kaspaHrp ++ [0x3a] ++ symbols.map charsetAt))
      ∧ ∀ write ∈ addressFromPubkeyWrites (Vector.replicate 64 1) .ecdsa 69, write.Inside 69 := by
  have enough : AddressType.addressLen .ecdsa ≤ 69 := by decide
  have key
      : compressPublicKey (Vector.replicate 64 1) .ecdsa 33 = 0x03 :: List.replicate 32 1 := by
    decide +kernel
  obtain ⟨decodes, -, inside⟩ := address_decodes (Vector.replicate 64 1) .ecdsa enough
  rw [key] at decodes
  exact ⟨decodes, inside⟩

end KaspaApp
