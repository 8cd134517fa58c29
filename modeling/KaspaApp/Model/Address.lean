import KaspaApp.Model.Types

/-! Addresses: `import/cashaddr.c`, `address.c` and the address and fee helpers of
`transaction/utils.c`.
-/

namespace KaspaApp

/-- `charset`: `"qpzry9x8gf2tvdw0s3jn54khce6mua7l"`. -/
def charset : Vector UInt8 32 :=
  #v[0x71, 0x70, 0x7a, 0x72, 0x79, 0x39, 0x78, 0x38, 0x67, 0x66, 0x32, 0x74, 0x76, 0x64,
    0x77, 0x30, 0x73, 0x33, 0x6a, 0x6e, 0x35, 0x34, 0x6b, 0x68, 0x63, 0x65, 0x36, 0x6d,
    0x75, 0x61, 0x37, 0x6c]

/-- `charset[symbol]`; the symbols of an address are below 32. -/
def charsetAt (symbol : UInt8) : UInt8 := Memory.read charset (fun _ => 0) symbol.toNat

/-- `-((b >> shift) & 1)`, all ones or zero. -/
def polymodMask (b : UInt8) (shift : UInt8) : UInt64 :=
  0 - ((b >>> shift) &&& 1).toUInt64

/-- `cashaddr_polymod_step`. -/
def cashaddrPolymodStep (pre : UInt64) : UInt64 :=
  let b := (pre >>> 35).toUInt8
  ((pre &&& 0x07ffffffff) <<< 5) ^^^ (polymodMask b 0 &&& 0x98f2bc8e61)
    ^^^ (polymodMask b 1 &&& 0x79b76d99e2) ^^^ (polymodMask b 2 &&& 0xf33e5fb3c4)
    ^^^ (polymodMask b 3 &&& 0xae2eabe2a8) ^^^ (polymodMask b 4 &&& 0x1e4f43e470)

/-- `PolyMod`, for a prefix given without its terminating zero. -/
def polyMod (hrp : List UInt8) (payload : List UInt8) : UInt64 :=
  let c := hrp.foldl
    (fun c character => cashaddrPolymodStep c ^^^ (character &&& 0x1f).toUInt64) 1
  let c := cashaddrPolymodStep c
  let c := payload.foldl (fun c symbol => cashaddrPolymodStep c ^^^ symbol.toUInt64) c
  let c := (List.range 8).foldl (fun c _ => cashaddrPolymodStep c) c
  c ^^^ 1

/-- The inner loop of `convert_bits`: emit symbols while enough bits are held. Each round
takes `outbits` bits, so the held bits bound the number of rounds.
-/
def convertBitsEmit (outbits : Nat) (maxv val : UInt32)
    : Nat → Nat → List UInt8 → Nat × List UInt8
  | 0, bits, out => (bits, out)
  | fuel + 1, bits, out =>
      if outbits ≤ bits then
        let bits := bits - outbits
        convertBitsEmit outbits maxv val fuel bits
          (out ++ [((val >>> UInt32.ofNat bits) &&& maxv).toUInt8])
      else
        (bits, out)

/-- The outer loop of `convert_bits`, one round for each input byte. -/
def convertBitsLoop (outbits inbits : Nat) (maxv : UInt32)
    : List UInt8 → UInt32 → Nat → List UInt8 → UInt32 × Nat × List UInt8
  | [], val, bits, out => (val, bits, out)
  | byte :: rest, val, bits, out =>
      let val := (val <<< UInt32.ofNat inbits) ||| byte.toUInt32
      let bits := bits + inbits
      let (bits, out) := convertBitsEmit outbits maxv val bits bits out
      convertBitsLoop outbits inbits maxv rest val bits out

/-- `convert_bits` with `pad` set, as `cashaddr_encode` calls it. -/
def convertBits (outbits : Nat) (input : List UInt8) (inbits : Nat) : List UInt8 :=
  let maxv : UInt32 := (1 <<< UInt32.ofNat outbits) - 1
  let (val, bits, out) := convertBitsLoop outbits inbits maxv input 0 0 []
  if bits ≠ 0 then
    out ++ [((val <<< UInt32.ofNat (outbits - bits)) &&& maxv).toUInt8]
  else
    out

/-- `"kaspa"`, the human-readable part. -/
def kaspaHrp : List UInt8 := [0x6b, 0x61, 0x73, 0x70, 0x61]

/-- `create_checksum`. -/
def createChecksum (payload : List UInt8) : List UInt8 :=
  let mod := polyMod kaspaHrp payload
  (List.range 8).map fun i => ((mod >>> UInt64.ofNat (5 * (7 - i))) &&& 0x1f).toUInt8

/-- The two loops that write the characters of `symbols`: the first symbol is tested in
every round, and a character that would exceed `max_addr_len` gives up.
-/
def cashaddrWrite (symbols : List UInt8) (maxAddrLen : Nat) (written : List UInt8)
    : Option (List UInt8) :=
  symbols.foldlM
    (fun written symbol =>
      if symbols.headD 0 >>> 5 ≠ 0 then none
      else if maxAddrLen < written.length + 1 then none
      else some (written ++ [charsetAt symbol]))
    written

/-- `cashaddr_encode`: the characters it writes, or `none` where it returns 0. -/
def cashaddrEncode (hash : List UInt8) (maxAddrLen : Nat) (version : UInt16)
    : Option (List UInt8) :=
  if version = 0 ∨ version = 1 ∨ version = 8 then
    let versionByte := version.toUInt8
    let payload := convertBits 5 (versionByte :: hash) 8
    let checksum := createChecksum payload
    (cashaddrWrite payload maxAddrLen []).bind (cashaddrWrite checksum maxAddrLen)
  else
    none

/-- `compress_public_key`: the bytes written, none where it returns 0. -/
def compressPublicKey (publicKey : Bytes 64) (addressType : AddressType) (outLen : Nat)
    : List UInt8 :=
  match addressType with
  | .schnorr | .p2sh => if outLen < 32 then [] else publicKey.toList.take 32
  | .ecdsa =>
      if outLen < 33 then
        []
      else
        (if publicKey[63] % 2 = 0 then 0x02 else 0x03) :: publicKey.toList.take 32

/-- `address_from_pubkey`: the bytes it writes to `out`, or `none` where it returns false.
The 80 byte local is zero where `cashaddr_encode` writes nothing.
-/
def addressFromPubkey (publicKey : Bytes 64) (addressType : AddressType) (outLen : Nat)
    : Option (List UInt8) :=
  let (addressLen, version) : Nat × UInt16 :=
    match addressType with
    | .schnorr => (schnorrAddressLen, 0)
    | .ecdsa => (ecdsaAddressLen, 1)
    | .p2sh => (schnorrAddressLen, 8)
  if outLen < addressLen then
    none
  else
    let compressedPublicKey := compressPublicKey publicKey addressType 33
    if compressedPublicKey.length = 0 then
      none
    else
      let encoded := (cashaddrEncode compressedPublicKey addressLen version).getD []
      let address := Memory.copy (Bytes.zero 80) (kaspaHrp ++ [0x3a] ++ encoded)
      some (address.toList.take addressLen)

/-- `script_public_key_to_address`: the bytes it writes to `out_address`, or `none` where it
returns false.
-/
def scriptPublicKeyToAddress (outLen : Nat) (script : Bytes scriptPublicKeyBufferLen)
    (scriptLen : Nat)
    : Option (List UInt8) :=
  if scriptLen < 32 then
    none
  else if script[0] = 0xaa then
    if scriptLen < 35 then
      none
    else
      let publicKey := Memory.copy (Bytes.zero 64) ((script.toList.drop 2).take 32)
      if outLen < schnorrAddressLen then none
      else addressFromPubkey publicKey .p2sh schnorrAddressLen
  else if script[0] = 0x21 then
    if scriptLen < 35 then
      none
    else
      -- the parity byte fills the whole second half of the key
      let parity := script[1]
      let publicKey := Memory.copy (Bytes.zero 64)
        ((script.toList.drop 2).take 32 ++ List.replicate 32 parity)
      if outLen < ecdsaAddressLen then none
      else addressFromPubkey publicKey .ecdsa ecdsaAddressLen
  else if scriptLen < 34 then
    none
  else
    let publicKey := Memory.copy (Bytes.zero 64) ((script.toList.drop 1).take 32)
    if outLen < schnorrAddressLen then none
    else addressFromPubkey publicKey .schnorr schnorrAddressLen

/-- `calc_fees`. -/
def calcFees {target : Target} (stray : Stray) (tx : Transaction target) : UInt64 :=
  let fees := (List.range tx.txInputLen.toNat).foldl
    (fun fees i => fees + (tx.input stray i).value) 0
  (List.range tx.txOutputLen.toNat).foldl (fun fees i => fees - (tx.output stray i).value) fees

end KaspaApp
