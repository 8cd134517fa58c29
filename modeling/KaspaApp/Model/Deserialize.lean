import KaspaApp.Model.Sdk

/-! The three payload parsers of `transaction/deserialize.c`. Each returns the status and the
object it wrote into, whose fields are assigned before they are checked.
-/

namespace KaspaApp

/-- `transaction_output_deserialize`. -/
def transactionOutputDeserialize (buf : Buffer) (txout : TransactionOutput)
    : ParserStatus × TransactionOutput :=
  let value := buf.readU64
  let txout := { txout with value := value.value }
  let buf := value.next
  if !value.ok then
    (.outputValueParsingError, txout)
  else if !buf.canRead 1 then
    (.outputScriptPubkeyParsingError, txout)
  else
    let scriptLen := buf.byteAt 0
    if scriptLen = opBlake2b then
      -- for P2SH the length is the second byte
      if !buf.canRead 2 then
        (.outputScriptPubkeyParsingError, txout)
      else
        let scriptLen := buf.byteAt 1
        if scriptLen ≠ 0x20 then
          (.outputScriptPubkeyParsingError, txout)
        else if !buf.canRead (scriptLen.toNat + 3) then
          (.outputScriptPubkeyParsingError, txout)
        else
          let sigOpCode := buf.byteAt (scriptLen.toNat + 2)
          if sigOpCode ≠ opEqual then
            (.outputScriptPubkeyParsingError, txout)
          else
            let script := Memory.copy txout.scriptPublicKey (buf.bytes (scriptLen.toNat + 3))
            let txout := { txout with scriptPublicKey := script }
            let skipped := buf.seekCur (scriptLen.toNat + 3)
            if !skipped.ok then
              (.outputScriptPubkeyParsingError, txout)
            else
              let buf := skipped.next
              (if buf.size - buf.offset = 0 then .parsingOk else .outputParsingError, txout)
    else if scriptLen = 0x20 ∨ scriptLen = 0x21 then
      if !buf.canRead (scriptLen.toNat + 2) then
        (.outputScriptPubkeyParsingError, txout)
      else
        let sigOpCode := buf.byteAt (scriptLen.toNat + 1)
        if (scriptLen = 0x20 ∧ sigOpCode ≠ opCheckSig)
            ∨ (scriptLen = 0x21 ∧ sigOpCode ≠ opCheckSigEcdsa) then
          (.outputScriptPubkeyParsingError, txout)
        else
          let script := Memory.copy txout.scriptPublicKey (buf.bytes (scriptLen.toNat + 2))
          let txout := { txout with scriptPublicKey := script }
          let skipped := buf.seekCur (scriptLen.toNat + 2)
          if !skipped.ok then
            (.outputScriptPubkeyParsingError, txout)
          else
            let buf := skipped.next
            (if buf.size - buf.offset = 0 then .parsingOk else .outputParsingError, txout)
    else
      (.outputScriptPubkeyParsingError, txout)

/-- `transaction_input_deserialize`. -/
def transactionInputDeserialize (buf : Buffer) (txin : TransactionInput)
    : ParserStatus × TransactionInput :=
  let value := buf.readU64
  let txin := { txin with value := value.value }
  let buf := value.next
  if !value.ok then
    (.inputValueParsingError, txin)
  else if !buf.canRead 32 then
    (.inputTxIdParsingError, txin)
  else
    let txin := { txin with txId := Memory.copy txin.txId (buf.bytes 32) }
    let skipped := buf.seekCur 32
    if !skipped.ok then
      (.inputTxIdParsingError, txin)
    else
      let addressType := skipped.next.readU8
      let txin := { txin with addressType := addressType.value }
      if !addressType.ok then
        (.inputAddressTypeParsingError, txin)
      else
        let addressIndex := addressType.next.readU32
        let txin := { txin with addressIndex := addressIndex.value }
        if !addressIndex.ok then
          (.inputAddressIndexParsingError, txin)
        else
          let index := addressIndex.next.readU8
          let txin := { txin with index := index.value }
          if !index.ok then
            (.inputIndexParsingError, txin)
          else
            let buf := index.next
            (if buf.size - buf.offset = 0 then .parsingOk else .inputParsingError, txin)

/-- `transaction_deserialize`. The path is written only after all fields have passed. -/
def transactionDeserialize {target : Target} (buf : Buffer) (tx : Transaction target)
    (bip32Path : Vector UInt32 kaspaMaxBip32PathLen)
    : ParserStatus × Transaction target × Vector UInt32 kaspaMaxBip32PathLen :=
  if kaspaMaxBip32PathLen < 5 then
    (.headerParsingError, tx, bip32Path)
  else
    let version := buf.readU16
    let tx := { tx with version := version.value }
    if !version.ok then
      (.versionParsingError, tx, bip32Path)
    else
      let nOutput := version.next.readU8
      if !nOutput.ok then
        (.outputsLengthParsingError, tx, bip32Path)
      else
        let tx := { tx with txOutputLen := nOutput.value.toUInt32 }
        if tx.txOutputLen < 1 ∨ tx.txOutputLen > 2 then
          (.outputsLengthParsingError, tx, bip32Path)
        else
          let nInput := nOutput.next.readU8
          if !nInput.ok then
            (.inputsLengthParsingError, tx, bip32Path)
          else
            let tx := { tx with txInputLen := nInput.value.toUInt32 }
            if tx.txInputLen < 1 ∨ tx.txInputLen > UInt32.ofNat target.maxInputCount then
              (.inputsLengthParsingError, tx, bip32Path)
            else
              let changeAddressType := nInput.next.readU8
              if !changeAddressType.ok then
                (.headerParsingError, tx, bip32Path)
              else if changeAddressType.value ≠ 0 ∧ changeAddressType.value ≠ 1 then
                (.headerParsingError, tx, bip32Path)
              else
                let changeAddressIndex := changeAddressType.next.readU32
                if !changeAddressIndex.ok then
                  (.headerParsingError, tx, bip32Path)
                else
                  let account := changeAddressIndex.next.readU32
                  let tx := { tx with account := account.value }
                  if !account.ok then
                    (.headerParsingError, tx, bip32Path)
                  else if tx.account < 0x80000000 then
                    (.headerParsingError, tx, bip32Path)
                  else
                    let bip32Path :=
                      walletPath tx.account changeAddressType.value.toUInt32
                        changeAddressIndex.value
                    let buf := account.next
                    (if buf.size - buf.offset = 0 then .parsingOk else .headerParsingError, tx,
                      bip32Path)

end KaspaApp
