import KaspaApp.Library.FixedWidth
import KaspaApp.Model.Types

/-! The three serialisers of `transaction/serialize.c`. Each returns the length written, or -1,
and the buffer it leaves.
-/

namespace KaspaApp

variable {target : Target} {outLen : Nat}

theorem two_lt_pathLen : 2 < kaspaMaxBip32PathLen := by decide

theorem three_lt_pathLen : 3 < kaspaMaxBip32PathLen := by decide

theorem four_lt_pathLen : 4 < kaspaMaxBip32PathLen := by decide

/-- `out[offset] = byte`. -/
def writeU8 (out : Bytes outLen) (offset : Nat) (byte : UInt8) : Bytes outLen :=
  Memory.writeAt out offset (FixedWidth.bigEndian 1 byte.toNat)

/-- `write_u16_be`, `write_u32_be` and `write_u64_be`. -/
def writeU16Be (out : Bytes outLen) (offset : Nat) (value : UInt16) : Bytes outLen :=
  Memory.writeAt out offset (FixedWidth.bigEndian 2 value.toNat)

def writeU32Be (out : Bytes outLen) (offset : Nat) (value : UInt32) : Bytes outLen :=
  Memory.writeAt out offset (FixedWidth.bigEndian 4 value.toNat)

def writeU64Be (out : Bytes outLen) (offset : Nat) (value : UInt64) : Bytes outLen :=
  Memory.writeAt out offset (FixedWidth.bigEndian 8 value.toNat)

/-- `transaction_serialize`. The change address and the account come from the path. -/
def transactionSerialize (tx : Transaction target) (path : Vector UInt32 kaspaMaxBip32PathLen)
    (out : Bytes outLen)
    : Int × Bytes outLen :=
  let offset := 0
  if outLen < 9 then
    (-1, out)
  else
    let out := writeU16Be out offset tx.version
    let offset := offset + 2
    let out := writeU8 out offset tx.txOutputLen.toUInt8
    let offset := offset + 1
    let out := writeU8 out offset tx.txInputLen.toUInt8
    let offset := offset + 1
    let out := writeU8 out offset (getElem path 3 three_lt_pathLen).toUInt8
    let offset := offset + 1
    let out := writeU32Be out offset (getElem path 4 four_lt_pathLen)
    let offset := offset + 4
    let out := writeU32Be out offset (getElem path 2 two_lt_pathLen)
    let offset := offset + 4
    (Int.ofNat offset, out)

/-- `transaction_input_serialize`. -/
def transactionInputSerialize (txin : TransactionInput) (out : Bytes outLen)
    : Int × Bytes outLen :=
  let offset := 0
  if outLen < 46 then
    (-1, out)
  else
    let out := writeU64Be out offset txin.value
    let offset := offset + 8
    let out := Memory.writeAt out offset txin.txId.toList
    let offset := offset + 32
    let out := writeU8 out offset txin.addressType
    let offset := offset + 1
    let out := writeU32Be out offset txin.addressIndex
    let offset := offset + 4
    let out := writeU8 out offset txin.index
    let offset := offset + 1
    (Int.ofNat offset, out)

/-- `transaction_output_serialize`. A script length past the slot makes `memcpy` read the
memory behind it.
-/
def transactionOutputSerialize (stray : Stray) (txout : TransactionOutput) (out : Bytes outLen)
    : Int × Bytes outLen :=
  let offset := 0
  if outLen < 41 then
    (-1, out)
  else
    let out := writeU64Be out offset txout.value
    let offset := offset + 8
    let script := txout.scriptPublicKey
    if getElem script 0 zero_lt_bufferLen = opBlake2b then
      let scriptLen := (getElem script 1 one_lt_bufferLen).toNat
      let out :=
        Memory.writeAt out offset (Memory.readBlock script stray.script (scriptLen + 3))
      let offset := offset + (scriptLen + 3)
      (Int.ofNat offset, out)
    else
      let scriptLen := (getElem script 0 zero_lt_bufferLen).toNat
      let out :=
        Memory.writeAt out offset (Memory.readBlock script stray.script (scriptLen + 2))
      let offset := offset + (scriptLen + 2)
      (Int.ofNat offset, out)

end KaspaApp
