import KaspaApp.Library.ReadingPrograms
import KaspaApp.Wire.Readers

/-! The payload parsers with every byte that they read. A parser is a program that knows the
length of the payload and the read position, and comes to a byte only by looking at its position.
Over the memory of a buffer it does what the parser of the model does, and it looks at positions
of the payload only.
-/

namespace KaspaApp

open Reading

/-- `buffer_t` without the bytes that its pointer leads to. -/
structure Cursor where
  size : Nat
  offset : Nat

/-- The result of a reader, the value it stored and the read position it leaves. -/
structure CursorRead (α : Type) where
  ok : Bool
  value : α
  next : Cursor

-----------------------------------------------------------------------------------------
-- Readers
-----------------------------------------------------------------------------------------

namespace Cursor

variable (cur : Cursor)

/-- `buffer_can_read`. -/
def canRead (count : Nat) : Bool := count ≤ cur.size - cur.offset

/-- `*(buf->ptr + buf->offset + index)`, which no function checks. -/
def byteAt (index : Nat) : Reading Nat UInt8 UInt8 := cell (cur.offset + index)

/-- The `count` bytes that start at `buf->ptr + buf->offset`, as `memcpy` reads them. -/
def bytes (count : Nat) : Reading Nat UInt8 (List UInt8) :=
  cells ((List.range count).map fun index => cur.offset + index)

def advance (count : Nat) : Cursor := { cur with offset := cur.offset + count }

/-- `buffer_seek_cur`. -/
def seekCur (count : Nat) : CursorRead Unit :=
  if cur.offset + count ≤ cur.size then ⟨true, (), cur.advance count⟩ else ⟨false, (), cur⟩

/-- The big-endian readers: a reader that lacks bytes reads none. -/
def readBe (width : Nat) : Reading Nat UInt8 (CursorRead Nat) :=
  if cur.canRead width then do
    let block ← cur.bytes width
    return ⟨true, FixedWidth.fromBigEndian block, cur.advance width⟩
  else
    return ⟨false, 0, cur⟩

/-- The reader for the values of one type. -/
def readAs {α : Type} (ofNat : Nat → α) (width : Nat) : Reading Nat UInt8 (CursorRead α) := do
  let read ← cur.readBe width
  return ⟨read.ok, ofNat read.value, read.next⟩

def readU8 : Reading Nat UInt8 (CursorRead UInt8) := cur.readAs UInt8.ofNat 1
def readU16 : Reading Nat UInt8 (CursorRead UInt16) := cur.readAs UInt16.ofNat 2
def readU32 : Reading Nat UInt8 (CursorRead UInt32) := cur.readAs UInt32.ofNat 4
def readU64 : Reading Nat UInt8 (CursorRead UInt64) := cur.readAs UInt64.ofNat 8

end Cursor

-----------------------------------------------------------------------------------------
-- Parsers
-----------------------------------------------------------------------------------------

/-- `transaction_output_deserialize`. -/
def transactionOutputDeserializeReads (cur : Cursor) (txout : TransactionOutput)
    : Reading Nat UInt8 (ParserStatus × TransactionOutput) := do
  let value ← cur.readU64
  let txout := { txout with value := value.value }
  let cur := value.next
  if !value.ok then
    return (.outputValueParsingError, txout)
  else if !cur.canRead 1 then
    return (.outputScriptPubkeyParsingError, txout)
  else
    let scriptLen ← cur.byteAt 0
    if scriptLen = opBlake2b then
      -- for P2SH the length is the second byte
      if !cur.canRead 2 then
        return (.outputScriptPubkeyParsingError, txout)
      else
        let scriptLen ← cur.byteAt 1
        if scriptLen ≠ 0x20 then
          return (.outputScriptPubkeyParsingError, txout)
        else if !cur.canRead (scriptLen.toNat + 3) then
          return (.outputScriptPubkeyParsingError, txout)
        else
          let sigOpCode ← cur.byteAt (scriptLen.toNat + 2)
          if sigOpCode ≠ opEqual then
            return (.outputScriptPubkeyParsingError, txout)
          else
            let script ← cur.bytes (scriptLen.toNat + 3)
            let txout := { txout with scriptPublicKey := Memory.copy txout.scriptPublicKey script }
            let skipped := cur.seekCur (scriptLen.toNat + 3)
            if !skipped.ok then
              return (.outputScriptPubkeyParsingError, txout)
            else
              let cur := skipped.next
              return (if cur.size - cur.offset = 0 then .parsingOk else .outputParsingError, txout)
    else if scriptLen = 0x20 ∨ scriptLen = 0x21 then
      if !cur.canRead (scriptLen.toNat + 2) then
        return (.outputScriptPubkeyParsingError, txout)
      else
        let sigOpCode ← cur.byteAt (scriptLen.toNat + 1)
        if (scriptLen = 0x20 ∧ sigOpCode ≠ opCheckSig)
            ∨ (scriptLen = 0x21 ∧ sigOpCode ≠ opCheckSigEcdsa) then
          return (.outputScriptPubkeyParsingError, txout)
        else
          let script ← cur.bytes (scriptLen.toNat + 2)
          let txout := { txout with scriptPublicKey := Memory.copy txout.scriptPublicKey script }
          let skipped := cur.seekCur (scriptLen.toNat + 2)
          if !skipped.ok then
            return (.outputScriptPubkeyParsingError, txout)
          else
            let cur := skipped.next
            return (if cur.size - cur.offset = 0 then .parsingOk else .outputParsingError, txout)
    else
      return (.outputScriptPubkeyParsingError, txout)

/-- `transaction_input_deserialize`. -/
def transactionInputDeserializeReads (cur : Cursor) (txin : TransactionInput)
    : Reading Nat UInt8 (ParserStatus × TransactionInput) := do
  let value ← cur.readU64
  let txin := { txin with value := value.value }
  let cur := value.next
  if !value.ok then
    return (.inputValueParsingError, txin)
  else if !cur.canRead 32 then
    return (.inputTxIdParsingError, txin)
  else
    let txId ← cur.bytes 32
    let txin := { txin with txId := Memory.copy txin.txId txId }
    let skipped := cur.seekCur 32
    if !skipped.ok then
      return (.inputTxIdParsingError, txin)
    else
      let addressType ← skipped.next.readU8
      let txin := { txin with addressType := addressType.value }
      if !addressType.ok then
        return (.inputAddressTypeParsingError, txin)
      else
        let addressIndex ← addressType.next.readU32
        let txin := { txin with addressIndex := addressIndex.value }
        if !addressIndex.ok then
          return (.inputAddressIndexParsingError, txin)
        else
          let index ← addressIndex.next.readU8
          let txin := { txin with index := index.value }
          if !index.ok then
            return (.inputIndexParsingError, txin)
          else
            let cur := index.next
            return (if cur.size - cur.offset = 0 then .parsingOk else .inputParsingError, txin)

/-- `transaction_deserialize`. -/
def transactionDeserializeReads {target : Target} (cur : Cursor) (tx : Transaction target)
    (bip32Path : Vector UInt32 kaspaMaxBip32PathLen)
    : Reading Nat UInt8
        (ParserStatus × Transaction target × Vector UInt32 kaspaMaxBip32PathLen) := do
  if kaspaMaxBip32PathLen < 5 then
    return (.headerParsingError, tx, bip32Path)
  else
    let version ← cur.readU16
    let tx := { tx with version := version.value }
    if !version.ok then
      return (.versionParsingError, tx, bip32Path)
    else
      let nOutput ← version.next.readU8
      if !nOutput.ok then
        return (.outputsLengthParsingError, tx, bip32Path)
      else
        let tx := { tx with txOutputLen := nOutput.value.toUInt32 }
        if tx.txOutputLen < 1 ∨ tx.txOutputLen > 2 then
          return (.outputsLengthParsingError, tx, bip32Path)
        else
          let nInput ← nOutput.next.readU8
          if !nInput.ok then
            return (.inputsLengthParsingError, tx, bip32Path)
          else
            let tx := { tx with txInputLen := nInput.value.toUInt32 }
            if tx.txInputLen < 1 ∨ tx.txInputLen > UInt32.ofNat target.maxInputCount then
              return (.inputsLengthParsingError, tx, bip32Path)
            else
              let changeAddressType ← nInput.next.readU8
              if !changeAddressType.ok then
                return (.headerParsingError, tx, bip32Path)
              else if changeAddressType.value ≠ 0 ∧ changeAddressType.value ≠ 1 then
                return (.headerParsingError, tx, bip32Path)
              else
                let changeAddressIndex ← changeAddressType.next.readU32
                if !changeAddressIndex.ok then
                  return (.headerParsingError, tx, bip32Path)
                else
                  let account ← changeAddressIndex.next.readU32
                  let tx := { tx with account := account.value }
                  if !account.ok then
                    return (.headerParsingError, tx, bip32Path)
                  else if tx.account < 0x80000000 then
                    return (.headerParsingError, tx, bip32Path)
                  else
                    let bip32Path :=
                      walletPath tx.account changeAddressType.value.toUInt32
                        changeAddressIndex.value
                    let cur := account.next
                    return (if cur.size - cur.offset = 0 then .parsingOk else .headerParsingError,
                      tx, bip32Path)

-----------------------------------------------------------------------------------------
-- The programs over a buffer
-----------------------------------------------------------------------------------------

/-- The read position of a buffer. -/
def Buffer.cursor (buf : Buffer) : Cursor := ⟨buf.size, buf.offset⟩

/-- The bytes that the pointer of a buffer leads to, in the payload and behind it. -/
def Buffer.memory (buf : Buffer) (position : Nat) : UInt8 :=
  (buf.data[position]?).getD (buf.behind position)

/-- The result of a reader without the bytes. -/
def Read.cursorRead {α : Type} (read : Read α) : CursorRead α :=
  ⟨read.ok, read.value, read.next.cursor⟩

section

variable {α : Type} (read : Read α)

@[simp] theorem Read.ok_cursorRead : read.cursorRead.ok = read.ok := rfl

@[simp] theorem Read.value_cursorRead : read.cursorRead.value = read.value := rfl

@[simp] theorem Read.next_cursorRead : read.cursorRead.next = read.next.cursor := rfl

end

section

variable (buf : Buffer)

@[simp] theorem Buffer.size_cursor : buf.cursor.size = buf.size := rfl

@[simp] theorem Buffer.offset_cursor : buf.cursor.offset = buf.offset := rfl

@[simp] theorem Buffer.canRead_cursor (count : Nat)
    : buf.cursor.canRead count = buf.canRead count :=
  rfl

@[simp] theorem Buffer.seekCur_cursor (count : Nat)
    : buf.cursor.seekCur count = (buf.seekCur count).cursorRead := by
  by_cases inside : buf.offset + count ≤ buf.size
  · rw [seekCur, if_pos inside]
    exact if_pos inside
  · rw [seekCur, if_neg inside]
    exact if_neg inside

/-- A reader moves the read position, and nothing else. -/
theorem Buffer.memory_readBe (width : Nat) : (buf.readBe width).next.memory = buf.memory := by
  by_cases inside : buf.canRead width = true
  · rw [readBe, if_pos inside]
    rfl
  · rw [readBe, if_neg inside]

@[simp] theorem Buffer.memory_readU8 : buf.readU8.next.memory = buf.memory := buf.memory_readBe 1

@[simp] theorem Buffer.memory_readU16 : buf.readU16.next.memory = buf.memory :=
  buf.memory_readBe 2

@[simp] theorem Buffer.memory_readU32 : buf.readU32.next.memory = buf.memory :=
  buf.memory_readBe 4

@[simp] theorem Buffer.memory_readU64 : buf.readU64.next.memory = buf.memory :=
  buf.memory_readBe 8

@[simp] theorem Buffer.memory_seekCur (count : Nat)
    : (buf.seekCur count).next.memory = buf.memory := by
  by_cases inside : buf.offset + count ≤ buf.size
  · rw [seekCur, if_pos inside]
    rfl
  · rw [seekCur, if_neg inside]

end

section

variable {buf : Buffer} {memory : Nat → UInt8} (same : buf.memory = memory)

include same

@[simp] theorem Buffer.run_byteAt (index : Nat)
    : (buf.cursor.byteAt index).run memory = buf.byteAt index := by
  rw [← same]
  rfl

@[simp] theorem Buffer.run_bytes (count : Nat)
    : (buf.cursor.bytes count).run memory = buf.bytes count := by
  rw [Cursor.bytes, run_cells, List.map_map, ← same]
  rfl

theorem Buffer.run_readBe (width : Nat)
    : (buf.cursor.readBe width).run memory = (buf.readBe width).cursorRead := by
  by_cases inside : buf.canRead width = true
  · rw [Cursor.readBe, readBe, canRead_cursor, if_pos inside, if_pos inside, run_bind,
      run_bytes same]
    rfl
  · rw [Cursor.readBe, readBe, canRead_cursor, if_neg inside, if_neg inside]
    rfl

theorem Buffer.run_readAs {α : Type} (ofNat : Nat → α) (width : Nat)
    : (buf.cursor.readAs ofNat width).run memory = ((buf.readBe width).map ofNat).cursorRead := by
  rw [Cursor.readAs, run_bind, run_readBe same]
  rfl

@[simp] theorem Buffer.run_readU8 : buf.cursor.readU8.run memory = buf.readU8.cursorRead :=
  run_readAs same UInt8.ofNat 1

@[simp] theorem Buffer.run_readU16 : buf.cursor.readU16.run memory = buf.readU16.cursorRead :=
  run_readAs same UInt16.ofNat 2

@[simp] theorem Buffer.run_readU32 : buf.cursor.readU32.run memory = buf.readU32.cursorRead :=
  run_readAs same UInt32.ofNat 4

@[simp] theorem Buffer.run_readU64 : buf.cursor.readU64.run memory = buf.readU64.cursorRead :=
  run_readAs same UInt64.ofNat 8

end

section

variable (buf : Buffer)

/-- The programs give the results of the parsers, over the bytes of the payload and whatever lies
behind them.
-/
theorem run_transactionOutputDeserializeReads (txout : TransactionOutput)
    : (transactionOutputDeserializeReads buf.cursor txout).run buf.memory
      = transactionOutputDeserialize buf txout := by
  simp [transactionOutputDeserializeReads, transactionOutputDeserialize]

theorem run_transactionInputDeserializeReads (txin : TransactionInput)
    : (transactionInputDeserializeReads buf.cursor txin).run buf.memory
      = transactionInputDeserialize buf txin := by
  simp [transactionInputDeserializeReads, transactionInputDeserialize]

theorem run_transactionDeserializeReads {target : Target} (tx : Transaction target)
    (bip32Path : Vector UInt32 kaspaMaxBip32PathLen)
    : (transactionDeserializeReads buf.cursor tx bip32Path).run buf.memory
      = transactionDeserialize buf tx bip32Path := by
  simp [transactionDeserializeReads, transactionDeserialize]

end

-----------------------------------------------------------------------------------------
-- Bounds
-----------------------------------------------------------------------------------------

/-- A parser is a program that looks at bytes of the payload only: over the buffer it has the
given result, and all positions in the trace lie before the end of the payload.
-/
structure ReadsInside {α : Type} (buf : Buffer) (program : Reading Nat UInt8 α) (parsed : α)
    : Prop where
  result : program.run buf.memory = parsed
  inside : ∀ position ∈ program.trace buf.memory, position < buf.size

/-- Such a parser takes the same payload for the same whatever lies behind it. -/
theorem ReadsInside.parsed_eq {α : Type} {left right : Buffer} {program : Reading Nat UInt8 α}
    {parsedLeft parsedRight : α} (readsLeft : ReadsInside left program parsedLeft)
    (readsRight : ReadsInside right program parsedRight) (payload : left.data = right.data)
    : parsedLeft = parsedRight := by
  rw [← readsLeft.result, ← readsRight.result]
  apply program.run_congr
  intro position member
  have inside : position < left.data.length := readsLeft.inside position member
  have same : right.data[position]? = left.data[position]? := by rw [payload]
  rw [Buffer.memory, Buffer.memory, same, List.getElem?_eq_getElem inside]
  rfl

section

variable {cur : Cursor} {limit : Nat} (size : cur.size = limit)

include size

/-- A reader leaves a cursor over the same payload. -/
theorem Cursor.size_seekCur (count : Nat) : (cur.seekCur count).next.size = limit := by
  by_cases inside : cur.offset + count ≤ cur.size
  · rw [seekCur, if_pos inside]
    exact size
  · rw [seekCur, if_neg inside]
    exact size

variable {count : Nat}

/-- The length check lets positions of the payload through. -/
theorem Cursor.position_lt (checked : cur.canRead count = true) {index : Nat}
    (before : index < count)
    : cur.offset + index < limit := by
  have enough : count ≤ cur.size - cur.offset := of_decide_eq_true checked
  omega

theorem Cursor.staysIn_byteAt (checked : cur.canRead count = true) {index : Nat}
    (before : index < count)
    : (cur.byteAt index).StaysIn (· < limit) fun _ => True :=
  staysIn_cell (position_lt size checked before)

theorem Cursor.staysIn_bytes (checked : cur.canRead count = true)
    : (cur.bytes count).StaysIn (· < limit) fun _ => True := by
  apply staysIn_cells
  intro position member
  obtain ⟨index, inside, rfl⟩ := List.mem_map.mp member
  exact position_lt size checked (List.mem_range.mp inside)

theorem Cursor.staysIn_readBe (width : Nat)
    : (cur.readBe width).StaysIn (· < limit) fun read => read.next.size = limit := by
  apply StaysIn.ite
  · intro checked
    exact (staysIn_bytes size checked).bind fun block _ => staysIn_pure size
  · intro _
    exact staysIn_pure size

theorem Cursor.staysIn_readAs {α : Type} (ofNat : Nat → α) (width : Nat)
    : (cur.readAs ofNat width).StaysIn (· < limit) fun read => read.next.size = limit :=
  (staysIn_readBe size width).bind fun _ same => staysIn_pure same

end

/-- What stands behind a length check may rely on it. -/
theorem Cursor.staysIn_checked {cur : Cursor} {limit count : Nat} {α : Type} {holds : α → Prop}
    {result : α} {passed : Reading Nat UInt8 α} (satisfied : holds result)
    (checked : cur.canRead count = true → passed.StaysIn (· < limit) holds)
    : (if !cur.canRead count then pure result else passed).StaysIn (· < limit) holds := by
  refine .check satisfied fun passes => ?_
  rw [Bool.not_eq_true, Bool.not_eq_false'] at passes
  exact checked passes

section

variable (cur : Cursor)

theorem transactionOutputDeserializeReads_staysIn (txout : TransactionOutput)
    : (transactionOutputDeserializeReads cur txout).StaysIn (· < cur.size) fun _ => True := by
  refine (Cursor.staysIn_readAs rfl UInt64.ofNat 8).bind fun value size => ?_
  refine .check trivial fun _ => ?_
  refine Cursor.staysIn_checked trivial fun first => ?_
  refine (Cursor.staysIn_byteAt size first (by decide)).bind fun scriptLen _ => ?_
  refine .ite (fun _ => ?_) fun _ => ?_
  · refine Cursor.staysIn_checked trivial fun second => ?_
    refine (Cursor.staysIn_byteAt size second (by decide)).bind fun scriptLen _ => ?_
    refine .check trivial fun _ => ?_
    refine Cursor.staysIn_checked trivial fun script => ?_
    refine (Cursor.staysIn_byteAt size script (by omega)).bind fun sigOpCode _ => ?_
    refine .check trivial fun _ => ?_
    refine (Cursor.staysIn_bytes size script).bind fun _ _ => ?_
    exact .check trivial fun _ => staysIn_pure trivial
  · refine .ite (fun _ => ?_) fun _ => staysIn_pure trivial
    refine Cursor.staysIn_checked trivial fun script => ?_
    refine (Cursor.staysIn_byteAt size script (by omega)).bind fun sigOpCode _ => ?_
    refine .check trivial fun _ => ?_
    refine (Cursor.staysIn_bytes size script).bind fun _ _ => ?_
    exact .check trivial fun _ => staysIn_pure trivial

theorem transactionInputDeserializeReads_staysIn (txin : TransactionInput)
    : (transactionInputDeserializeReads cur txin).StaysIn (· < cur.size) fun _ => True := by
  refine (Cursor.staysIn_readAs rfl UInt64.ofNat 8).bind fun value size => ?_
  refine .check trivial fun _ => ?_
  refine Cursor.staysIn_checked trivial fun txId => ?_
  refine (Cursor.staysIn_bytes size txId).bind fun _ _ => ?_
  refine .check trivial fun _ => ?_
  have skipped := Cursor.size_seekCur size 32
  refine (Cursor.staysIn_readAs skipped UInt8.ofNat 1).bind fun addressType size => ?_
  refine .check trivial fun _ => ?_
  refine (Cursor.staysIn_readAs size UInt32.ofNat 4).bind fun addressIndex size => ?_
  refine .check trivial fun _ => ?_
  refine (Cursor.staysIn_readAs size UInt8.ofNat 1).bind fun index size => ?_
  exact .check trivial fun _ => staysIn_pure trivial

theorem transactionDeserializeReads_staysIn {target : Target} (tx : Transaction target)
    (bip32Path : Vector UInt32 kaspaMaxBip32PathLen)
    : (transactionDeserializeReads cur tx bip32Path).StaysIn (· < cur.size) fun _ => True := by
  refine .check trivial fun _ => ?_
  refine (Cursor.staysIn_readAs rfl UInt16.ofNat 2).bind fun version size => ?_
  refine .check trivial fun _ => ?_
  refine (Cursor.staysIn_readAs size UInt8.ofNat 1).bind fun nOutput size => ?_
  refine .check trivial fun _ => .check trivial fun _ => ?_
  refine (Cursor.staysIn_readAs size UInt8.ofNat 1).bind fun nInput size => ?_
  refine .check trivial fun _ => .check trivial fun _ => ?_
  refine (Cursor.staysIn_readAs size UInt8.ofNat 1).bind fun changeAddressType size => ?_
  refine .check trivial fun _ => .check trivial fun _ => ?_
  refine (Cursor.staysIn_readAs size UInt32.ofNat 4).bind fun changeAddressIndex size => ?_
  refine .check trivial fun _ => ?_
  refine (Cursor.staysIn_readAs size UInt32.ofNat 4).bind fun account size => ?_
  exact .check trivial fun _ => .check trivial fun _ => staysIn_pure trivial

end

section

variable (buf : Buffer)

theorem transactionOutputDeserialize_readsInside (txout : TransactionOutput)
    : ReadsInside buf (transactionOutputDeserializeReads buf.cursor txout)
        (transactionOutputDeserialize buf txout) where
  result := run_transactionOutputDeserializeReads buf txout
  inside := (transactionOutputDeserializeReads_staysIn buf.cursor txout).trace buf.memory

/-- A payload that ends behind the first two bytes of a P2SH script: the parser reads all ten bytes
and finds the script cut before it looks for its end.
-/
example
    : (transactionOutputDeserializeReads ⟨10, 0⟩ .zero).trace
        (fun position => if position = 8 then 0xaa else 0x20)
      = List.range 10 := by
  decide

theorem transactionInputDeserialize_readsInside (txin : TransactionInput)
    : ReadsInside buf (transactionInputDeserializeReads buf.cursor txin)
        (transactionInputDeserialize buf txin) where
  result := run_transactionInputDeserializeReads buf txin
  inside := (transactionInputDeserializeReads_staysIn buf.cursor txin).trace buf.memory

theorem transactionDeserialize_readsInside {target : Target} (tx : Transaction target)
    (bip32Path : Vector UInt32 kaspaMaxBip32PathLen)
    : ReadsInside buf (transactionDeserializeReads buf.cursor tx bip32Path)
        (transactionDeserialize buf tx bip32Path) where
  result := run_transactionDeserializeReads buf tx bip32Path
  inside := (transactionDeserializeReads_staysIn buf.cursor tx bip32Path).trace buf.memory

end

-----------------------------------------------------------------------------------------
-- Memory behind the payload
-----------------------------------------------------------------------------------------

/-- The same payload in front of other memory. -/
def Buffer.withBehind (buf : Buffer) (behind : Nat → UInt8) : Buffer :=
  { buf with behind := behind }

section

variable (buf : Buffer) (behind : Nat → UInt8)

@[simp] theorem Buffer.size_withBehind : (buf.withBehind behind).size = buf.size := rfl

@[simp] theorem Buffer.offset_withBehind : (buf.withBehind behind).offset = buf.offset := rfl

@[simp] theorem Buffer.rest_withBehind : (buf.withBehind behind).rest = buf.rest := rfl

@[simp] theorem Buffer.canRead_withBehind (count : Nat)
    : (buf.withBehind behind).canRead count = buf.canRead count :=
  rfl

/-- A block that the length check lets through lies in the payload. -/
theorem Buffer.bytes_withBehind {count : Nat} (inside : buf.canRead count = true)
    : (buf.withBehind behind).bytes count = buf.bytes count := by
  have enough := (canRead_iff count).mp inside
  have same : count ≤ (buf.withBehind behind).rest.length := enough
  rw [bytes_of_le enough, bytes_of_le same, rest_withBehind]

/-- A reader checks the length before it reads. -/
theorem Buffer.readBe_withBehind (width : Nat)
    : (buf.withBehind behind).readBe width
      = { buf.readBe width with next := (buf.readBe width).next.withBehind behind } := by
  by_cases inside : buf.canRead width = true
  · rw [readBe, readBe, canRead_withBehind, if_pos inside, if_pos inside,
      buf.bytes_withBehind behind inside]
    rfl
  · rw [readBe, readBe, canRead_withBehind, if_neg inside, if_neg inside]

theorem Buffer.readU8_withBehind
    : (buf.withBehind behind).readU8
      = { buf.readU8 with next := buf.readU8.next.withBehind behind } := by
  rw [readU8, readBe_withBehind]
  rfl

theorem Buffer.readU32_withBehind
    : (buf.withBehind behind).readU32
      = { buf.readU32 with next := buf.readU32.next.withBehind behind } := by
  rw [readU32, readBe_withBehind]
  rfl

theorem Buffer.seekCur_withBehind (count : Nat)
    : (buf.withBehind behind).seekCur count
      = { buf.seekCur count with next := (buf.seekCur count).next.withBehind behind } := by
  by_cases inside : buf.offset + count ≤ buf.size
  · rw [seekCur, seekCur, if_pos inside, size_withBehind, offset_withBehind, if_pos inside]
    rfl
  · rw [seekCur, seekCur, if_neg inside, size_withBehind, offset_withBehind, if_neg inside]

theorem transactionOutputDeserialize_withBehind (txout : TransactionOutput)
    : transactionOutputDeserialize (buf.withBehind behind) txout
      = transactionOutputDeserialize buf txout :=
  (transactionOutputDeserialize_readsInside (buf.withBehind behind) txout).parsed_eq
    (transactionOutputDeserialize_readsInside buf txout) rfl

theorem transactionInputDeserialize_withBehind (txin : TransactionInput)
    : transactionInputDeserialize (buf.withBehind behind) txin
      = transactionInputDeserialize buf txin :=
  (transactionInputDeserialize_readsInside (buf.withBehind behind) txin).parsed_eq
    (transactionInputDeserialize_readsInside buf txin) rfl

theorem transactionDeserialize_withBehind {target : Target} (tx : Transaction target)
    (bip32Path : Vector UInt32 kaspaMaxBip32PathLen)
    : transactionDeserialize (buf.withBehind behind) tx bip32Path
      = transactionDeserialize buf tx bip32Path :=
  (transactionDeserialize_readsInside (buf.withBehind behind) tx bip32Path).parsed_eq
    (transactionDeserialize_readsInside buf tx bip32Path) rfl

end

end KaspaApp
