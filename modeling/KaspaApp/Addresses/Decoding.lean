import KaspaApp.Addresses.Checksum
import KaspaApp.Addresses.Regrouping

/-! What the receiver of an address reads from it, and that it is what the device encoded.
The receiver is a specification: it checks the prefix, the character set, the checksum and
the padding, and reads the version byte and the key or hash behind it.
-/

namespace KaspaApp

open Bits

/-- The symbol of a character. -/
def symbolOf (character : UInt8) : Option UInt8 :=
  (charset.toList.idxOf? character).map UInt8.ofNat

/-- The bytes that symbols spell. At most four zeros may be left over. -/
def bytesOf (symbols : List UInt8) : Option (List UInt8) :=
  let string := symbolBits symbols
  let count := string.length / 8
  let padding := string.drop (8 * count)
  if padding.length < 5 ∧ padding = List.replicate padding.length false then
    some ((unpack 8 count string).map UInt8.ofNat)
  else
    none

/-- The version byte and the key or hash of an address. -/
def decodeAddress (address : List UInt8) : Option (List UInt8) :=
  if address.take 6 = kaspaHrp ++ [0x3a] then
    ((address.drop 6).mapM symbolOf).bind fun symbols =>
      if 8 ≤ symbols.length ∧ addressChecksum symbols = 1 then
        bytesOf (symbols.take (symbols.length - 8))
      else
        none
  else
    none

theorem symbolOf_charsetAt {symbol : UInt8} (small : symbol.toNat < 32)
    : symbolOf (charsetAt symbol) = some symbol := by
  have each
      : ∀ value < 32, symbolOf (charsetAt (UInt8.ofNat value)) = some (UInt8.ofNat value) := by
    decide
  have found := each symbol.toNat small
  rwa [UInt8.ofNat_toNat] at found

theorem mapM_symbolOf {symbols : List UInt8} (fit : Symbols symbols)
    : (symbols.map charsetAt).mapM symbolOf = some symbols := by
  induction symbols with
  | nil => rfl
  | cons symbol symbols ih =>
      have first := symbolOf_charsetAt (fit symbol (by simp))
      have rest := ih fun other member => fit other (List.mem_cons_of_mem _ member)
      rw [List.map_cons, List.mapM_cons, first, rest]
      rfl

/-- The symbols of `convert_bits` spell its input. -/
theorem bytesOf_convertBits (input : List UInt8)
    : bytesOf (convertBits 5 input 8) = some input := by
  obtain ⟨_, padding, few, spelled⟩ := convertBits_bits input
  have inputLength : (byteBits input).length = 8 * input.length := by
    rw [byteBits, length_pack, List.length_map]
  have whole : (symbolBits (convertBits 5 input 8)).length = 8 * input.length + padding := by
    rw [spelled, List.length_append, inputLength, List.length_replicate]
  have count : (8 * input.length + padding) / 8 = input.length := by omega
  have rest
      : (symbolBits (convertBits 5 input 8)).drop (8 * input.length)
        = List.replicate padding false := by
    rw [spelled, List.drop_left' inputLength]
  have read
      : unpack 8 input.length (symbolBits (convertBits 5 input 8)) = input.map UInt8.toNat := by
    have fits : ∀ value ∈ input.map UInt8.toNat, value < 2 ^ 8 := by
      intro value member
      obtain ⟨byte, _, rfl⟩ := List.mem_map.mp member
      exact byte.toNat_lt
    have back := unpack_pack (input.map UInt8.toNat) fits (List.replicate padding false)
    rwa [List.length_map, ← byteBits, ← spelled] at back
  simp only [bytesOf, whole, count, rest, read, List.length_replicate]
  rw [if_pos ⟨few, trivial⟩, List.map_map]
  exact congrArg some (List.map_id'' (by simp) input)

theorem symbols_createChecksum (payload : List UInt8) : Symbols (createChecksum payload) := by
  intro symbol member
  obtain ⟨place, _, rfl⟩ := List.mem_map.mp member
  have small
      : ((polyMod kaspaHrp payload >>> UInt64.ofNat (5 * (7 - place))) &&& 0x1f).toNat < 32 := by
    rw [UInt64.toNat_and]
    exact Nat.and_le_right.trans_lt (by decide)
  rw [UInt64.toNat_toUInt8]
  exact (Nat.mod_le _ _).trans_lt small

@[simp] theorem length_createChecksum (payload : List UInt8)
    : (createChecksum payload).length = 8 := by
  simp [createChecksum]

/-- The address of a version byte and a key or hash. -/
def addressText (content : List UInt8) : List UInt8 :=
  let symbols := convertBits 5 content 8
  kaspaHrp ++ [0x3a] ++ (symbols ++ createChecksum symbols).map charsetAt

/-- Whatever was encoded is read back. -/
theorem decodeAddress_addressText (content : List UInt8)
    : decodeAddress (addressText content) = some content := by
  have front : (addressText content).take 6 = kaspaHrp ++ [0x3a] := List.take_left' rfl
  have back
      : (addressText content).drop 6
        = (convertBits 5 content 8 ++ createChecksum (convertBits 5 content 8)).map charsetAt :=
    List.drop_left' rfl
  have fit : Symbols (convertBits 5 content 8 ++ createChecksum (convertBits 5 content 8)) := by
    intro symbol member
    rcases List.mem_append.mp member with payload | checksum
    · exact (convertBits_bits content).1 symbol payload
    · exact symbols_createChecksum _ symbol checksum
  rw [decodeAddress, if_pos front, back, mapM_symbolOf fit, Option.bind_some,
    if_pos ⟨by simp, addressChecksum_createChecksum _⟩, List.length_append,
    length_createChecksum, Nat.add_sub_cancel, List.take_left' rfl, bytesOf_convertBits]

/-- Symbols with room for their characters are all written. -/
theorem cashaddrWrite_of_fits {symbols : List UInt8} (fit : Symbols symbols) {maxAddrLen : Nat}
    {written : List UInt8} (room : written.length + symbols.length ≤ maxAddrLen)
    : cashaddrWrite symbols maxAddrLen written = some (written ++ symbols.map charsetAt) := by
  have first : symbols.headD 0 >>> 5 = 0 := by
    have small : (symbols.headD 0).toNat < 32 := by
      cases symbols with
      | nil => decide
      | cons symbol symbols => exact fit symbol (by simp)
    apply UInt8.toNat_inj.mp
    have five : (5 : UInt8).toNat % 8 = 5 := rfl
    rw [UInt8.toNat_shiftRight, five, Nat.shiftRight_eq_div_pow]
    exact Nat.div_eq_of_lt small
  simp only [cashaddrWrite, first, ne_eq, not_true_eq_false, if_false]
  clear first fit
  induction symbols generalizing written with
  | nil => simp
  | cons symbol symbols ih =>
      rw [List.length_cons] at room
      rw [List.foldlM_cons, if_neg (by omega), Option.bind_eq_bind, Option.bind_some,
        ih (by rw [List.length_append, List.length_singleton]; omega), List.map_cons,
        List.append_assoc, List.singleton_append]

/-- The number of symbols for a number of bytes. -/
theorem length_convertBits (input : List UInt8)
    : (convertBits 5 input 8).length = (8 * input.length + 4) / 5 := by
  obtain ⟨_, padding, few, spelled⟩ := convertBits_bits input
  have lengths := congrArg List.length spelled
  rw [symbolBits, byteBits, List.length_append, length_pack, length_pack, List.length_map,
    List.length_map, List.length_replicate] at lengths
  omega

/-- With room for all characters, `cashaddr_encode` writes those of the content and its checksum. -/
theorem cashaddrEncode_of_fits {hash : List UInt8} {maxAddrLen : Nat} {version : UInt16}
    (known : version = 0 ∨ version = 1 ∨ version = 8)
    (room : (8 * (hash.length + 1) + 4) / 5 + 8 ≤ maxAddrLen)
    : ∃ characters,
        cashaddrEncode hash maxAddrLen version = some characters
        ∧ kaspaHrp ++ [0x3a] ++ characters = addressText (version.toUInt8 :: hash) := by
  have length := length_convertBits (version.toUInt8 :: hash)
  rw [List.length_cons] at length
  rw [cashaddrEncode, if_pos known]
  simp only
  rw [cashaddrWrite_of_fits (convertBits_bits _).1 (by rw [length]; simp; omega), Option.bind_some,
    cashaddrWrite_of_fits (symbols_createChecksum _) (by simp [length]; omega)]
  refine ⟨_, rfl, ?_⟩
  rw [addressText, List.nil_append, List.map_append]

theorem length_addressText (content : List UInt8)
    : (addressText content).length = 6 + ((8 * content.length + 4) / 5 + 8) := by
  have symbols
      : (convertBits 5 content 8 ++ createChecksum (convertBits 5 content 8)).length
        = (8 * content.length + 4) / 5 + 8 := by
    rw [List.length_append, length_convertBits, length_createChecksum]
  rw [addressText, List.length_append, List.length_map, symbols]
  rfl

/-- The 80 byte local holds every address that is as long as the caller expects. -/
theorem take_address {hash : List UInt8} {addressLen : Nat} {version : UInt16}
    (known : version = 0 ∨ version = 1 ∨ version = 8)
    (length : 6 + ((8 * (hash.length + 1) + 4) / 5 + 8) = addressLen) (fits : addressLen ≤ 80)
    : (Memory.copy (Bytes.zero 80)
        (kaspaHrp ++ [0x3a] ++ (cashaddrEncode hash addressLen version).getD [])).toList.take
        addressLen
      = addressText (version.toUInt8 :: hash) := by
  have whole : (addressText (version.toUInt8 :: hash)).length = addressLen := by
    rw [length_addressText, List.length_cons, length]
  obtain ⟨characters, encoded, text⟩ :=
    @cashaddrEncode_of_fits hash addressLen version known (by omega)
  rw [encoded, Option.getD_some, text, ← whole]
  exact Memory.take_copy _ _ (whole.trans_le fits)

def AddressType.addressVersion : AddressType → UInt16
  | .schnorr => 0
  | .ecdsa => 1
  | .p2sh => 8

def AddressType.addressLen : AddressType → Nat
  | .schnorr | .p2sh => schnorrAddressLen
  | .ecdsa => ecdsaAddressLen

theorem AddressType.addressLen_le (addressType : AddressType)
    : addressType.addressLen ≤ ecdsaAddressLen := by
  cases addressType <;> decide

theorem last_lt_keyLen : 63 < 64 := by decide

/-- The address of a compressed key is as long as the type of its address says. -/
theorem length_compressPublicKey (publicKey : Bytes 64) (addressType : AddressType)
    : 6 + ((8 * ((compressPublicKey publicKey addressType 33).length + 1) + 4) / 5 + 8)
      = addressType.addressLen := by
  cases addressType <;> simp [compressPublicKey, AddressType.addressLen]

theorem AddressType.addressVersion_known (addressType : AddressType)
    : addressType.addressVersion = 0 ∨ addressType.addressVersion = 1
      ∨ addressType.addressVersion = 8 := by
  cases addressType <;> simp [addressVersion]

theorem length_compressPublicKey_ne_zero (publicKey : Bytes 64) (addressType : AddressType)
    : (compressPublicKey publicKey addressType 33).length ≠ 0 := by
  cases addressType <;> simp [compressPublicKey]

/-- `address_from_pubkey` writes the address of the compressed key. -/
theorem addressFromPubkey_eq (publicKey : Bytes 64) (addressType : AddressType) {outLen : Nat}
    (room : addressType.addressLen ≤ outLen)
    : addressFromPubkey publicKey addressType outLen
      = some (addressText
          (addressType.addressVersion.toUInt8 :: compressPublicKey publicKey addressType 33)) := by
  have length := length_compressPublicKey publicKey addressType
  have known := addressType.addressVersion_known
  have fits : addressType.addressLen ≤ 80 := addressType.addressLen_le.trans (by decide)
  have address := take_address known length fits
  have written := length_compressPublicKey_ne_zero publicKey addressType
  cases addressType with
  | schnorr | ecdsa | p2sh =>
      rw [addressFromPubkey]
      exact (if_neg (Nat.not_lt.mpr room)).trans ((if_neg written).trans (congrArg some address))

/-- A buffer that is too short for the address is refused, every other one gets it. -/
theorem addressFromPubkey_eq_ite (publicKey : Bytes 64) (addressType : AddressType)
    (outLen : Nat)
    : addressFromPubkey publicKey addressType outLen
      = if outLen < addressType.addressLen then none
        else
          some (addressText
            (addressType.addressVersion.toUInt8
              :: compressPublicKey publicKey addressType 33)) := by
  by_cases short : outLen < addressType.addressLen
  · rw [if_pos short]
    cases addressType with
    | schnorr | ecdsa | p2sh => exact if_pos short
  · rw [if_neg short, addressFromPubkey_eq publicKey addressType (Nat.le_of_not_lt short)]

end KaspaApp
