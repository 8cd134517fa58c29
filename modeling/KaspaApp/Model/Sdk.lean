import KaspaApp.Library.FixedWidth
import KaspaApp.Model.Types

/-! What the application uses of the device SDK: the payload readers, and the calls whose
results the application does not determine.
-/

namespace KaspaApp

/-- `buffer_t`: the payload bytes, the memory behind them and the read position. -/
structure Buffer where
  data : List UInt8
  behind : Nat → UInt8
  offset : Nat

def Buffer.size (buf : Buffer) : Nat := buf.data.length

/-- `buffer_can_read`. -/
def Buffer.canRead (buf : Buffer) (count : Nat) : Bool := count ≤ buf.size - buf.offset

/-- `*(buf->ptr + buf->offset + index)`, which no function checks. -/
def Buffer.byteAt (buf : Buffer) (index : Nat) : UInt8 :=
  (buf.data[buf.offset + index]?).getD (buf.behind (buf.offset + index))

/-- The `count` bytes that start at `buf->ptr + buf->offset`. -/
def Buffer.bytes (buf : Buffer) (count : Nat) : List UInt8 :=
  (List.range count).map buf.byteAt

def Buffer.advance (buf : Buffer) (count : Nat) : Buffer :=
  { buf with offset := buf.offset + count }

/-- The result of a reader, the value it stored and the buffer it leaves. -/
structure Read (α : Type) where
  ok : Bool
  value : α
  next : Buffer

/-- `buffer_seek_cur`. -/
def Buffer.seekCur (buf : Buffer) (count : Nat) : Read Unit :=
  if buf.offset + count ≤ buf.size then ⟨true, (), buf.advance count⟩ else ⟨false, (), buf⟩

/-- The big-endian readers: a reader that lacks bytes fails and stores 0. -/
def Buffer.readBe (buf : Buffer) (width : Nat) : Read Nat :=
  if buf.canRead width then
    ⟨true, FixedWidth.fromBigEndian (buf.bytes width), buf.advance width⟩
  else
    ⟨false, 0, buf⟩

def Read.map {α β : Type} (f : α → β) (read : Read α) : Read β :=
  ⟨read.ok, f read.value, read.next⟩

def Buffer.readU8 (buf : Buffer) : Read UInt8 := (buf.readBe 1).map UInt8.ofNat
def Buffer.readU16 (buf : Buffer) : Read UInt16 := (buf.readBe 2).map UInt16.ofNat
def Buffer.readU32 (buf : Buffer) : Read UInt32 := (buf.readBe 4).map UInt32.ofNat
def Buffer.readU64 (buf : Buffer) : Read UInt64 := (buf.readBe 8).map UInt64.ofNat

/-- `CX_OK`. -/
def cxOk : UInt32 := 0

/-- The code that dereferences the transaction arrays. -/
inductive AccessSite where
  | signTx
  | txValidate
  | uiDisplay
  | cryptoSign
  | calcSighash

/-- The results of the SDK calls of one step, each an error code and what was written, and
the contents of the memory outside the objects that the step reads.
-/
structure Env where
  bip32DeriveInitPrivkey256 : List UInt32 → UInt32 × Bytes 32
  bip32DeriveGetPubkey256 : List UInt32 → UInt32 × Bytes 65 × Bytes 32
  cxEcfpGeneratePairNoThrow : Bytes 32 → UInt32 × Bytes 65
  cxEcschnorrSignNoThrow : Bytes 32 → Bytes 32 → UInt32 × Bytes maxDerSigLen
  formatFpu64Trimmed : Nat → UInt64 → UInt8 → Option (List UInt8)
  bip32PathFormat : List UInt32 → Nat → Option (List UInt8)
  blake2b : List UInt8 → List UInt8 → Bytes 32
  /-- The entries that a failing `buffer_read_bip32_path` leaves written. -/
  partialPath : Buffer → Nat → List UInt32
  stray : AccessSite → Stray
  behindPayload : Nat → UInt8

/-- `MAX_BIP32_PATH`. -/
def maxBip32Path : Nat := 10

/-- `buffer_read_bip32_path`: the result and the entries written to the array. -/
def Env.bufferReadBip32Path (env : Env) (buf : Buffer) (count : Nat)
    : Bool × List UInt32 :=
  if 0 < count && count ≤ maxBip32Path && buf.canRead (4 * count) then
    (true, (List.range count).map fun entry =>
      UInt32.ofNat (FixedWidth.fromBigEndian ((buf.advance (4 * entry)).bytes 4)))
  else
    (false, env.partialPath buf count)

/-- An environment in which every call succeeds with a result of zeros. -/
def Env.succeeding : Env :=
  {
    bip32DeriveInitPrivkey256 := fun _ => (cxOk, Bytes.zero 32)
    bip32DeriveGetPubkey256 := fun _ => (cxOk, Bytes.zero 65, Bytes.zero 32)
    cxEcfpGeneratePairNoThrow := fun _ => (cxOk, Bytes.zero 65)
    cxEcschnorrSignNoThrow := fun _ _ => (cxOk, Bytes.zero maxDerSigLen)
    formatFpu64Trimmed := fun _ _ _ => some [0x30]
    bip32PathFormat := fun _ _ => some [0x6d]
    blake2b := fun _ _ => Bytes.zero 32
    partialPath := fun _ _ => []
    stray := fun _ =>
      { inputs := fun _ => .zero, outputs := fun _ => .zero, script := fun _ => 0 }
    behindPayload := fun _ => 0
  }

end KaspaApp
