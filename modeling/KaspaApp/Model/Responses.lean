import KaspaApp.Model.Handlers

/-! The bytes of the responses (`helper/send_reponse.c`, `handler/get_version.c` and
`handler/get_app_name.c`), and how the client takes them apart (`kaspa_response_unpacker.py`).
-/

namespace KaspaApp

-----------------------------------------------------------------------------------------
-- Sending
-----------------------------------------------------------------------------------------

/-- The local array `resp` of a helper, and the offset of its next byte. -/
structure ResponseBuffer (size : Nat) where
  resp : Bytes size
  offset : Nat

/-- The zeroed array. -/
def ResponseBuffer.start (size : Nat) : ResponseBuffer size :=
  { resp := Bytes.zero size, offset := 0 }

/-- `resp[offset++] = byte`. -/
def ResponseBuffer.put {size : Nat} (buf : ResponseBuffer size) (byte : UInt8)
    : ResponseBuffer size :=
  { resp := Memory.writeAt buf.resp buf.offset [byte], offset := buf.offset + 1 }

/-- `memmove(resp + offset, ...)` and `offset += ...`. -/
def ResponseBuffer.move {size : Nat} (buf : ResponseBuffer size) (bytes : List UInt8)
    : ResponseBuffer size :=
  { resp := Memory.writeAt buf.resp buf.offset bytes, offset := buf.offset + bytes.length }

/-- What the transport carries back to the client. -/
structure Rapdu where
  data : List UInt8
  status : UInt16

/-- `io_send_response_pointer`. -/
def ResponseBuffer.send {size : Nat} (buf : ResponseBuffer size) (sw : UInt16) : Rapdu :=
  { data := buf.resp.toList.take buf.offset, status := sw }

/-- The array of `helper_send_response_pubkey`. -/
def pubkeyResponse (rawPublicKey : Bytes 64) (chainCode : Bytes 32)
    : ResponseBuffer (1 + 1 + 64 + 1 + 32) :=
  let buf := ResponseBuffer.start (1 + 1 + 64 + 1 + 32)
  let buf := buf.put (64 + 1)
  let buf := buf.put 0x04
  let buf := buf.move rawPublicKey.toList
  let buf := buf.put 32
  buf.move chainCode.toList

/-- The array of `helper_send_response_sig`. -/
def sigResponse (hasMore inputIndex : UInt8) (signature : Bytes maxDerSigLen)
    (sighash : Bytes 32)
    : ResponseBuffer (3 + maxDerSigLen + 34) :=
  let buf := ResponseBuffer.start (3 + maxDerSigLen + 34)
  let buf := buf.put hasMore
  let buf := buf.put inputIndex
  let buf := buf.put (UInt8.ofNat maxDerSigLen)
  let buf := buf.move signature.toList
  let buf := buf.put 32
  buf.move sighash.toList

/-- The array of `helper_send_response_personal_message_sig`. -/
def personalMessageSigResponse (signature : Bytes maxDerSigLen) (messageHash : Bytes 32)
    : ResponseBuffer (3 + maxDerSigLen + 34) :=
  let buf := ResponseBuffer.start (3 + maxDerSigLen + 34)
  let buf := buf.put (UInt8.ofNat maxDerSigLen)
  let buf := buf.move signature.toList
  let buf := buf.put 32
  buf.move messageHash.toList

/-- `MAJOR_VERSION`, `MINOR_VERSION` and `PATCH_VERSION`. -/
def versionBytes : List UInt8 := [1, 0, 3]

/-- `APPNAME`: `"Kaspa"`. -/
def appNameText : List UInt8 := [0x4b, 0x61, 0x73, 0x70, 0x61]

/-- The response of a reply. -/
def Reply.rapdu : Reply → Rapdu
  | .sw code => { data := [], status := code }
  | .version => { data := versionBytes, status := swOk }
  | .appName => { data := appNameText, status := swOk }
  | .pubkey rawPublicKey chainCode => (pubkeyResponse rawPublicKey chainCode).send swOk
  | .sig hasMore inputIndex signature sighash =>
      (sigResponse hasMore inputIndex signature sighash).send swOk
  | .personalMessageSig signature messageHash =>
      (personalMessageSigResponse signature messageHash).send swOk

-----------------------------------------------------------------------------------------
-- Unpacking
-----------------------------------------------------------------------------------------

/-- `pop_sized_buf_from_buffer`: the remainder and the first bytes, fewer at the end. -/
def popSizedBufFromBuffer (buffer : List UInt8) (size : Nat) : List UInt8 × List UInt8 :=
  (buffer.drop size, buffer.take size)

/-- `pop_size_prefixed_buf_from_buf`: the remainder, the length and the data. The length byte must
be there.
-/
def popSizePrefixedBufFromBuf : List UInt8 → Option (List UInt8 × Nat × List UInt8)
  | [] => none
  | dataLen :: rest => some (rest.drop dataLen.toNat, dataLen.toNat, rest.take dataLen.toNat)

/-- `unpack_get_app_name_response`, with the characters of the string as bytes. -/
def unpackGetAppNameResponse (response : List UInt8) : Option (List UInt8) :=
  if response.all (· < 0x80) then some response else none

/-- `unpack_get_version_response`. -/
def unpackGetVersionResponse : List UInt8 → Option (Nat × Nat × Nat)
  | [major, minor, patch] => some (major.toNat, minor.toNat, patch.toNat)
  | _ => none

/-- The result of `unpack_get_public_key_response`. -/
structure UnpackedPublicKey where
  pubKeyLen : Nat
  pubKey : List UInt8
  chainCodeLen : Nat
  chainCode : List UInt8
deriving DecidableEq

/-- `unpack_get_public_key_response`; a failing assertion gives no result. -/
def unpackGetPublicKeyResponse (response : List UInt8) : Option UnpackedPublicKey := do
  let (response, pubKeyLen, pubKey) ← popSizePrefixedBufFromBuf response
  let (response, chainCodeLen, chainCode) ← popSizePrefixedBufFromBuf response
  if pubKeyLen = 65 ∧ chainCodeLen = 32 ∧ response.length = 0 then
    return { pubKeyLen, pubKey, chainCodeLen, chainCode }
  else
    none

/-- The result of `unpack_sign_tx_response`. -/
structure UnpackedSig where
  hasMore : Nat
  inputIndex : Nat
  derSigLen : Nat
  derSig : List UInt8
  sighashLen : Nat
  sighash : List UInt8
deriving DecidableEq

/-- `unpack_sign_tx_response`. -/
def unpackSignTxResponse (response : List UInt8) : Option UnpackedSig := do
  let (response, hasMore) := popSizedBufFromBuffer response 1
  let (response, inputIndex) := popSizedBufFromBuffer response 1
  let (response, derSigLen, derSig) ← popSizePrefixedBufFromBuf response
  let (response, sighashLen, sighash) ← popSizePrefixedBufFromBuf response
  if response.length = 0 then
    return {
      hasMore := FixedWidth.fromBigEndian hasMore
      inputIndex := FixedWidth.fromBigEndian inputIndex
      derSigLen, derSig, sighashLen, sighash }
  else
    none

/-- The result of `unpack_sign_message_response`. -/
structure UnpackedMessageSig where
  derSigLen : Nat
  derSig : List UInt8
  mhashLen : Nat
  mhash : List UInt8
deriving DecidableEq

/-- `unpack_sign_message_response`. -/
def unpackSignMessageResponse (response : List UInt8) : Option UnpackedMessageSig := do
  let (response, derSigLen, derSig) ← popSizePrefixedBufFromBuf response
  let (response, mhashLen, mhash) ← popSizePrefixedBufFromBuf response
  if response.length = 0 then
    return { derSigLen, derSig, mhashLen, mhash }
  else
    none

end KaspaApp
