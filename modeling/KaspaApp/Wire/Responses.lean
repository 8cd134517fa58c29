import KaspaApp.Library.CellUpdates
import KaspaApp.Model.Responses

/-! What the client reads from a response. The helpers fill their arrays from the front and never
write behind them, and the unpackers give back what was put in.
-/

namespace KaspaApp

-----------------------------------------------------------------------------------------
-- Filling the array
-----------------------------------------------------------------------------------------

/-- The bytes in front of the offset, all inside the array. -/
structure ResponseBuffer.Holds {size : Nat} (buf : ResponseBuffer size) (bytes : List UInt8)
    : Prop where
  offset : buf.offset = bytes.length
  inside : bytes.length ≤ size
  front : buf.resp.toList.take buf.offset = bytes

theorem ResponseBuffer.start_holds (size : Nat) : (ResponseBuffer.start size).Holds [] :=
  ⟨rfl, Nat.zero_le size, List.take_zero⟩

section

variable {size : Nat} {buf : ResponseBuffer size} {front : List UInt8}

theorem ResponseBuffer.Holds.move (holds : buf.Holds front) (bytes : List UInt8)
    (room : front.length + bytes.length ≤ size)
    : (buf.move bytes).Holds (front ++ bytes) := by
  have fits : buf.offset + bytes.length ≤ size := by rwa [holds.offset]
  have written := Memory.take_writeAt buf.resp buf.offset bytes fits
  refine ⟨?_, ?_, ?_⟩
  · rw [List.length_append, ← holds.offset]
    rfl
  · rwa [List.length_append]
  · rw [holds.front] at written
    exact written

/-- Parts that fit together are written one behind the other. -/
theorem ResponseBuffer.Holds.foldl_move (holds : buf.Holds front) (parts : List (List UInt8))
    (room : front.length + parts.flatten.length ≤ size)
    : (parts.foldl ResponseBuffer.move buf).Holds (front ++ parts.flatten) := by
  induction parts generalizing buf front with
  | nil => rwa [List.flatten_nil, List.append_nil]
  | cons part parts ih =>
      rw [List.flatten_cons, List.length_append] at room
      have next := ih (holds.move part (by omega)) (by rw [List.length_append]; omega)
      rwa [List.append_assoc] at next

theorem ResponseBuffer.Holds.send (holds : buf.Holds front) (sw : UInt16)
    : buf.send sw = { data := front, status := sw } := by
  rw [ResponseBuffer.send, holds.front]

end

theorem pubkeyResponse_holds (rawPublicKey : Bytes 64) (chainCode : Bytes 32)
    : (pubkeyResponse rawPublicKey chainCode).Holds
        (65 :: 0x04 :: (rawPublicKey.toList ++ 32 :: chainCode.toList)) := by
  have holds := (ResponseBuffer.start_holds (1 + 1 + 64 + 1 + 32)).foldl_move
    [[65], [0x04], rawPublicKey.toList, [32], chainCode.toList] (by simp)
  have filled
      : pubkeyResponse rawPublicKey chainCode
        = [[65], [0x04], rawPublicKey.toList, [32], chainCode.toList].foldl ResponseBuffer.move
            (ResponseBuffer.start (1 + 1 + 64 + 1 + 32)) :=
    rfl
  rw [filled]
  simpa using holds

theorem sigResponse_holds (hasMore inputIndex : UInt8) (signature : Bytes maxDerSigLen)
    (sighash : Bytes 32)
    : (sigResponse hasMore inputIndex signature sighash).Holds
        (hasMore :: inputIndex :: 64 :: (signature.toList ++ 32 :: sighash.toList)) := by
  have holds := (ResponseBuffer.start_holds (3 + maxDerSigLen + 34)).foldl_move
    [[hasMore], [inputIndex], [64], signature.toList, [32], sighash.toList] (by simp +arith)
  have filled
      : sigResponse hasMore inputIndex signature sighash
        = [[hasMore], [inputIndex], [64], signature.toList, [32], sighash.toList].foldl
            ResponseBuffer.move (ResponseBuffer.start (3 + maxDerSigLen + 34)) :=
    rfl
  rw [filled]
  simpa using holds

theorem personalMessageSigResponse_holds (signature : Bytes maxDerSigLen) (messageHash : Bytes 32)
    : (personalMessageSigResponse signature messageHash).Holds
        (64 :: (signature.toList ++ 32 :: messageHash.toList)) := by
  have holds := (ResponseBuffer.start_holds (3 + maxDerSigLen + 34)).foldl_move
    [[64], signature.toList, [32], messageHash.toList] (by simp +arith)
  have filled
      : personalMessageSigResponse signature messageHash
        = [[64], signature.toList, [32], messageHash.toList].foldl ResponseBuffer.move
            (ResponseBuffer.start (3 + maxDerSigLen + 34)) :=
    rfl
  rw [filled]
  simpa using holds

-----------------------------------------------------------------------------------------
-- Reading it back
-----------------------------------------------------------------------------------------

/-- A part behind its length is popped. -/
theorem popSizePrefixed_append {part : List UInt8} {dataLen : UInt8}
    (length : part.length = dataLen.toNat) (rest : List UInt8)
    : popSizePrefixedBufFromBuf (dataLen :: (part ++ rest)) = some (rest, dataLen.toNat, part) := by
  rw [popSizePrefixedBufFromBuf, ← length, List.drop_left' rfl, List.take_left' rfl]

theorem unpack_version
    : unpackGetVersionResponse Reply.version.rapdu.data = some (1, 0, 3) := by
  rw [Reply.rapdu]
  rfl

theorem unpack_appName : unpackGetAppNameResponse Reply.appName.rapdu.data = some appNameText := by
  have ascii : appNameText.all (· < 0x80) = true := by decide
  rw [Reply.rapdu]
  exact if_pos ascii

theorem unpack_pubkey (rawPublicKey : Bytes 64) (chainCode : Bytes 32)
    : unpackGetPublicKeyResponse (Reply.pubkey rawPublicKey chainCode).rapdu.data
      = some {
          pubKeyLen := 65
          pubKey := 0x04 :: rawPublicKey.toList
          chainCodeLen := 32
          chainCode := chainCode.toList } := by
  have key := @popSizePrefixed_append (0x04 :: rawPublicKey.toList) 65 (by simp)
    (32 :: (chainCode.toList ++ []))
  have chain := @popSizePrefixed_append chainCode.toList 32 (by simp) []
  rw [List.append_nil] at key
  rw [List.append_nil] at chain
  rw [Reply.rapdu, (pubkeyResponse_holds rawPublicKey chainCode).send]
  rw [List.cons_append] at key
  simp [unpackGetPublicKeyResponse, key, chain]

theorem unpack_sig (hasMore inputIndex : UInt8) (signature : Bytes maxDerSigLen)
    (sighash : Bytes 32)
    : unpackSignTxResponse (Reply.sig hasMore inputIndex signature sighash).rapdu.data
      = some {
          hasMore := hasMore.toNat
          inputIndex := inputIndex.toNat
          derSigLen := 64
          derSig := signature.toList
          sighashLen := 32
          sighash := sighash.toList } := by
  have sig := @popSizePrefixed_append signature.toList 64 (by simp) (32 :: sighash.toList)
  have hash := @popSizePrefixed_append sighash.toList 32 (by simp) []
  rw [List.append_nil] at hash
  rw [Reply.rapdu, (sigResponse_holds hasMore inputIndex signature sighash).send]
  have single (byte : UInt8) : FixedWidth.fromBigEndian [byte] = byte.toNat := by
    simp [FixedWidth.fromBigEndian, FixedWidth.fromLittleEndian]
  simp [unpackSignTxResponse, popSizedBufFromBuffer, sig, hash, single]

theorem unpack_personalMessageSig (signature : Bytes maxDerSigLen) (messageHash : Bytes 32)
    : unpackSignMessageResponse (Reply.personalMessageSig signature messageHash).rapdu.data
      = some {
          derSigLen := 64
          derSig := signature.toList
          mhashLen := 32
          mhash := messageHash.toList } := by
  have sig := @popSizePrefixed_append signature.toList 64 (by simp) (32 :: messageHash.toList)
  have hash := @popSizePrefixed_append messageHash.toList 32 (by simp) []
  rw [List.append_nil] at hash
  rw [Reply.rapdu, (personalMessageSigResponse_holds signature messageHash).send]
  simp [unpackSignMessageResponse, sig, hash]

end KaspaApp
