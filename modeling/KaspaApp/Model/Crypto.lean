import KaspaApp.Model.Address
import KaspaApp.Model.Sdk
import KaspaApp.Model.Sighash

/-! `crypto.c` and `transaction/tx_validate.c`: key checks and signing over the global
context.
-/

namespace KaspaApp

variable {target : Target}

/-- The bytes from `index` on of a 65 byte uncompressed key, in a 32 byte array. -/
def keyBytes (rawPubkey : Bytes 65) (index : Nat) : Bytes 32 :=
  Memory.copy (Bytes.zero 32) ((rawPubkey.toList.drop index).take 32)

/-- `crypto_validate_public_key`. -/
def cryptoValidatePublicKey (env : Env) (path : List UInt32)
    (compressedPublicKey : Bytes 32)
    : Bool :=
  let (error, rawPubkey, _) := env.bip32DeriveGetPubkey256 path
  if error ≠ cxOk then false else keyBytes rawPubkey 1 = compressedPublicKey

/-- `tx_validate_parsed_transaction` on the transaction of the context. The path elements
are forced before the change key is checked, and stay forced when the check fails.
-/
def txValidateParsedTransaction (env : Env) (ctx : GlobalCtx target)
    : Bool × GlobalCtx target :=
  let tx := ctx.txInfo.transaction
  let stray := env.stray .txValidate
  if tx.txOutputLen > 2 ∨ tx.txOutputLen < 1 then
    (false, ctx)
  else if tx.txInputLen < 1 then
    (false, ctx)
  else
    let (keyOk, ctx) : Bool × GlobalCtx target :=
      if tx.txOutputLen = 2 then
        let changeOutput := tx.output stray 1
        if getElem changeOutput.scriptPublicKey 0 zero_lt_bufferLen ≠ 0x20 then
          (false, ctx)
        else
          let changeAddressPubkey : Bytes 32 :=
            Memory.copy (Bytes.zero 32) ((changeOutput.scriptPublicKey.toList.drop 1).take 32)
          let ctx :=
            ctx.withPath (walletPath tx.account ctx.changeType ctx.changeIndex)
          (cryptoValidatePublicKey env ctx.path changeAddressPubkey, ctx)
      else
        (true, ctx)
    if !keyOk then
      (false, ctx)
    else
      let inputTotal := (List.range tx.txInputLen.toNat).foldl
        (fun total i => total + (tx.input stray i).value) (0 : UInt64)
      let outputTotal := (List.range tx.txOutputLen.toNat).foldl
        (fun total o => total + (tx.output stray o).value) (0 : UInt64)
      if inputTotal < outputTotal then (false, ctx) else (true, ctx)

/-- `crypto_sign_transaction`: the error code and the context it leaves. The input pointer
is dereferenced for the path and again while the hash is computed.
-/
def cryptoSignTransaction (env : Env) (ctx : GlobalCtx target)
    : UInt32 × GlobalCtx target :=
  let tx := ctx.txInfo.transaction
  let txin := tx.input (env.stray .cryptoSign) ctx.txInfo.signingInputIndex.toNat
  let ctx :=
    ctx.withPath (walletPath tx.account txin.addressType.toUInt32 txin.addressIndex)
  let (error, privateKey) := env.bip32DeriveInitPrivkey256 ctx.path
  if error ≠ cxOk then
    (error, ctx)
  else
    let ctx :=
      { ctx with
        txInfo :=
          { ctx.txInfo with
            sighash := Bytes.zero 32
            signature := Bytes.zero maxDerSigLen } }
    let (error, publicKey) := env.cxEcfpGeneratePairNoThrow privateKey
    if error ≠ cxOk then
      (error, ctx)
    else
      let stray := env.stray .calcSighash
      let txin := tx.input stray ctx.txInfo.signingInputIndex.toNat
      match calcSighash env.blake2b stray tx txin (keyBytes publicKey 1) ctx.txInfo.sighash 32
        with
      | none => (0xFFFFFFFF, ctx)
      | some sighash =>
          let ctx := { ctx with txInfo := { ctx.txInfo with sighash := sighash } }
          let (error, signature) := env.cxEcschnorrSignNoThrow privateKey sighash
          (error, { ctx with txInfo := { ctx.txInfo with signature := signature } })

/-- The bytes that `msg_info.message` and the two arrays behind it hold, from the start of
the message on.
-/
def MessageSignCtx.memory (info : MessageSignCtx) : List UInt8 :=
  info.message.toList ++ info.messageHash.toList ++ info.signature.toList

/-- `memcpy(msg_info.message, bytes, ...)`: bytes past the array of 128 run into the hash
and the signature behind it.
-/
def MessageSignCtx.writeMessage (info : MessageSignCtx) (bytes : List UInt8)
    : MessageSignCtx :=
  { info with
    message := Memory.copy info.message bytes
    messageHash := Memory.copy info.messageHash (bytes.drop 128)
    signature := Memory.copy info.signature (bytes.drop 160) }

/-- `crypto_sign_personal_message`. The error of the key derivation is overwritten by the
error of the signature.
-/
def cryptoSignPersonalMessage (env : Env) (ctx : GlobalCtx target)
    : UInt32 × GlobalCtx target :=
  let info := ctx.msgInfo
  match hashPersonalMessage env.blake2b (info.memory.take info.messageLen) info.messageHash 32
    with
  | none => (0xFFFFFFFF, ctx)
  | some messageHash =>
      let ctx := { ctx with msgInfo := { ctx.msgInfo with messageHash := messageHash } }
      let (_, privateKey) := env.bip32DeriveInitPrivkey256 ctx.path
      let (error, signature) := env.cxEcschnorrSignNoThrow privateKey messageHash
      (error, { ctx with msgInfo := { ctx.msgInfo with signature := signature } })

end KaspaApp
