import KaspaApp.Model.Types

/-! BLAKE2b as `import/blake2b.c` and `import/blake2-impl.h` compute it. Every function that
compresses a block works in the one static `b2bg_cx`, which is passed along. Pointers that the
functions compare with `NULL` are never null here.
-/

namespace KaspaApp.Blake2b

abbrev blockBytes : Nat := 128
abbrev outBytes : Nat := 64
abbrev keyBytes : Nat := 64
abbrev saltBytes : Nat := 16
abbrev personalBytes : Nat := 16

theorem half_le : 8 ≤ 16 := by decide

/-- The counter and the flags are two words each. -/
scoped instance twoWords : @NeZero Nat Zero.ofOfNat0 2 := ⟨Nat.succ_ne_zero 1⟩

/-- `blake2b_state`. -/
structure State where
  h : Vector UInt64 8
  t : Vector UInt64 2
  f : Vector UInt64 2
  buf : Bytes blockBytes
  buflen : Nat
  outlen : Nat
  lastNode : UInt8

/-- `blake2b_globals_t`, the type of `b2bg_cx`. -/
structure Globals where
  m : Vector UInt64 16
  v : Vector UInt64 16
  buffer : Bytes outBytes
  block1 : Bytes blockBytes

/-- `b2bg_cx` before its first use. -/
def Globals.start : Globals where
  m := Vector.replicate 16 0
  v := Vector.replicate 16 0
  buffer := Bytes.zero outBytes
  block1 := Bytes.zero blockBytes

/-- `blake2b_param`. -/
structure Param where
  digestLength : UInt8
  keyLength : UInt8
  fanout : UInt8
  depth : UInt8
  leafLength : UInt32
  nodeOffset : UInt32
  xofLength : UInt32
  nodeDepth : UInt8
  innerLength : UInt8
  reserved : Bytes 14
  salt : Bytes saltBytes
  personal : Bytes personalBytes

-----------------------------------------------------------------------------------------
-- Words
-----------------------------------------------------------------------------------------

/-- `load64`, from the start of some bytes. -/
def load64 (src : List UInt8) : UInt64 :=
  (src.getD 0 0).toUInt64 <<< 0
  ||| (src.getD 1 0).toUInt64 <<< 8
  ||| (src.getD 2 0).toUInt64 <<< 16
  ||| (src.getD 3 0).toUInt64 <<< 24
  ||| (src.getD 4 0).toUInt64 <<< 32
  ||| (src.getD 5 0).toUInt64 <<< 40
  ||| (src.getD 6 0).toUInt64 <<< 48
  ||| (src.getD 7 0).toUInt64 <<< 56

/-- The bytes that `store32` writes. -/
def store32 (w : UInt32) : List UInt8 :=
  [(w >>> 0).toUInt8, (w >>> 8).toUInt8, (w >>> 16).toUInt8, (w >>> 24).toUInt8]

/-- The bytes that `store64` writes. -/
def store64 (w : UInt64) : List UInt8 :=
  [(w >>> 0).toUInt8, (w >>> 8).toUInt8, (w >>> 16).toUInt8, (w >>> 24).toUInt8,
    (w >>> 32).toUInt8, (w >>> 40).toUInt8, (w >>> 48).toUInt8, (w >>> 56).toUInt8]

/-- `rotr64`. -/
def rotr64 (w c : UInt64) : UInt64 := (w >>> c) ||| (w <<< (64 - c))

/-- The packed structure as bytes. -/
def Param.bytes (P : Param) : List UInt8 :=
  [P.digestLength, P.keyLength, P.fanout, P.depth]
  ++ store32 P.leafLength ++ store32 P.nodeOffset ++ store32 P.xofLength
  ++ [P.nodeDepth, P.innerLength]
  ++ P.reserved.toList ++ P.salt.toList ++ P.personal.toList

-----------------------------------------------------------------------------------------
-- Compression
-----------------------------------------------------------------------------------------

/-- `blake2b_IV`. -/
def iv (i : Nat) : UInt64 :=
  [0x6a09e667f3bcc908, 0xbb67ae8584caa73b, 0x3c6ef372fe94f82b, 0xa54ff53a5f1d36f1,
    0x510e527fade682d1, 0x9b05688c2b3e6c1f, 0x1f83d9abfb41bd6b, 0x5be0cd19137e2179].getD i 0

/-- The rows of `blake2b_sigma`. -/
def sigmaRows : List (List (Fin 16)) :=
  [[0, 1, 2, 3, 4, 5, 6, 7, 8, 9, 10, 11, 12, 13, 14, 15],
    [14, 10, 4, 8, 9, 15, 13, 6, 1, 12, 0, 2, 11, 7, 5, 3],
    [11, 8, 12, 0, 5, 2, 15, 13, 10, 14, 3, 6, 7, 1, 9, 4],
    [7, 9, 3, 1, 13, 12, 11, 14, 2, 6, 5, 10, 4, 0, 15, 8],
    [9, 0, 5, 7, 2, 4, 10, 15, 14, 1, 11, 12, 6, 8, 3, 13],
    [2, 12, 6, 10, 0, 11, 8, 3, 4, 13, 7, 5, 15, 14, 1, 9],
    [12, 5, 1, 15, 14, 13, 4, 10, 0, 7, 6, 3, 9, 2, 8, 11],
    [13, 11, 7, 14, 12, 1, 3, 9, 5, 0, 15, 4, 8, 6, 2, 10],
    [6, 15, 14, 9, 11, 3, 0, 8, 12, 2, 13, 7, 1, 4, 10, 5],
    [10, 2, 8, 4, 7, 6, 1, 5, 15, 11, 9, 14, 3, 12, 13, 0],
    [0, 1, 2, 3, 4, 5, 6, 7, 8, 9, 10, 11, 12, 13, 14, 15],
    [14, 10, 4, 8, 9, 15, 13, 6, 1, 12, 0, 2, 11, 7, 5, 3]]

/-- `blake2b_sigma[r][k]`. -/
def sigma (r k : Nat) : Fin 16 := (sigmaRows.getD r []).getD k 0

section

variable (m : Vector UInt64 16)

/-- The macro `G`, with the words `v[a]`, `v[b]`, `v[c]` and `v[d]` as its arguments. -/
def G (r i : Nat) (a b c d : Fin 16) (v : Vector UInt64 16) : Vector UInt64 16 :=
  let v := v.setIfInBounds a (v.get a + v.get b + m.get (sigma r (2 * i + 0)))
  let v := v.setIfInBounds d (rotr64 (v.get d ^^^ v.get a) 32)
  let v := v.setIfInBounds c (v.get c + v.get d)
  let v := v.setIfInBounds b (rotr64 (v.get b ^^^ v.get c) 24)
  let v := v.setIfInBounds a (v.get a + v.get b + m.get (sigma r (2 * i + 1)))
  let v := v.setIfInBounds d (rotr64 (v.get d ^^^ v.get a) 16)
  let v := v.setIfInBounds c (v.get c + v.get d)
  v.setIfInBounds b (rotr64 (v.get b ^^^ v.get c) 63)

/-- The macro `ROUND`. -/
def round (r : Nat) (v : Vector UInt64 16) : Vector UInt64 16 :=
  let v := G m r 0 0 4 8 12 v
  let v := G m r 1 1 5 9 13 v
  let v := G m r 2 2 6 10 14 v
  let v := G m r 3 3 7 11 15 v
  let v := G m r 4 0 5 10 15 v
  let v := G m r 5 1 6 11 12 v
  let v := G m r 6 2 7 8 13 v
  G m r 7 3 4 9 14 v

end

/-- `blake2b_compress`. The two calls of `memset` clear 16 bytes, that is two words. -/
def compress (cx : Globals) (S : State) (block : Bytes blockBytes) : State × Globals :=
  let m := Memory.copy cx.m [0, 0]
  let v := Memory.copy cx.v [0, 0]
  let m := (List.range 16).foldl
    (fun m i => m.setIfInBounds i (load64 (block.toList.drop (i * 8)))) m
  let v := (List.finRange 8).foldl (fun v i => v.setIfInBounds i (S.h.get i)) v
  let v := v.setIfInBounds 8 (iv 0)
  let v := v.setIfInBounds 9 (iv 1)
  let v := v.setIfInBounds 10 (iv 2)
  let v := v.setIfInBounds 11 (iv 3)
  let v := v.setIfInBounds 12 (iv 4 ^^^ S.t.get 0)
  let v := v.setIfInBounds 13 (iv 5 ^^^ S.t.get 1)
  let v := v.setIfInBounds 14 (iv 6 ^^^ S.f.get 0)
  let v := v.setIfInBounds 15 (iv 7 ^^^ S.f.get 1)
  let v := round m 0 v
  let v := round m 1 v
  let v := round m 2 v
  let v := round m 3 v
  let v := round m 4 v
  let v := round m 5 v
  let v := round m 6 v
  let v := round m 7 v
  let v := round m 8 v
  let v := round m 9 v
  let v := round m 10 v
  let v := round m 11 v
  let h := (List.finRange 8).foldl
    (fun h i =>
      h.setIfInBounds i (h.get i ^^^ v.get (i.castLE half_le) ^^^ v.get (i.natAdd 8))) S.h
  ({ S with h := h }, { cx with m := m, v := v })

-----------------------------------------------------------------------------------------
-- The streaming interface
-----------------------------------------------------------------------------------------

/-- `blake2b_set_lastnode`. -/
def setLastnode (S : State) : State := { S with f := S.f.setIfInBounds 1 (0 - 1) }

/-- `blake2b_is_lastblock`. -/
def isLastblock (S : State) : Bool := S.f.get 0 != 0

/-- `blake2b_set_lastblock`. -/
def setLastblock (S : State) : State :=
  let S := if S.lastNode ≠ 0 then setLastnode S else S
  { S with f := S.f.setIfInBounds 0 (0 - 1) }

/-- `blake2b_increment_counter`. -/
def incrementCounter (S : State) (inc : UInt64) : State :=
  let t := S.t.setIfInBounds 0 (S.t.get 0 + inc)
  let carry : UInt64 := if t.get 0 < inc then 1 else 0
  { S with t := t.setIfInBounds 1 (t.get 1 + carry) }

/-- `blake2b_init0`. -/
def init0 : State :=
  let S : State :=
    {
      h := Vector.replicate 8 0
      t := Vector.replicate 2 0
      f := Vector.replicate 2 0
      buf := Bytes.zero blockBytes
      buflen := 0
      outlen := 0
      lastNode := 0
    }
  { S with h := (List.range 8).foldl (fun h i => h.setIfInBounds i (iv i)) S.h }

/-- `blake2b_init_param`. -/
def initParam (P : Param) : State :=
  let p := P.bytes
  let S := init0
  let h := (List.finRange 8).foldl
    (fun h (i : Fin 8) => h.setIfInBounds i (h.get i ^^^ load64 (p.drop (8 * i)))) S.h
  { S with h := h, outlen := P.digestLength.toNat }

/-- The parameter block that `blake2b_init` and `blake2b_init_key` fill in. -/
def sequentialParam (outlen keylen : Nat) : Param where
  digestLength := UInt8.ofNat outlen
  keyLength := UInt8.ofNat keylen
  fanout := 1
  depth := 1
  leafLength := 0
  nodeOffset := 0
  xofLength := 0
  nodeDepth := 0
  innerLength := 0
  reserved := Bytes.zero 14
  salt := Bytes.zero saltBytes
  personal := Bytes.zero personalBytes

/-- `blake2b_init`; `none` is its -1. -/
def init (outlen : Nat) : Option State :=
  if outlen = 0 ∨ outlen > outBytes then none
  else some (initParam (sequentialParam outlen 0))

/-- The `while` loop of `blake2b_update`: the state, the scratch and the input left over. -/
def updateBlocks (cx : Globals) (S : State) (input : List UInt8)
    : State × Globals × List UInt8 :=
  if blockBytes < input.length then
    let S := incrementCounter S 128
    let (S, cx) := compress cx S (Memory.copy (Bytes.zero blockBytes) input)
    updateBlocks cx S (input.drop blockBytes)
  else
    (S, cx, input)
termination_by input.length
decreasing_by
  have size : blockBytes = 128 := rfl
  rw [List.length_drop]
  omega

/-- `blake2b_update`, which always returns 0. -/
def update (cx : Globals) (S : State) (input : List UInt8) : State × Globals :=
  if 0 < input.length then
    let left := S.buflen
    let fill := blockBytes - left
    let (S, cx, input) :=
      if input.length > fill then
        let S := { S with buflen := 0 }
        let S := { S with buf := Memory.writeAt S.buf left (input.take fill) }
        let S := incrementCounter S 128
        let (S, cx) := compress cx S S.buf
        updateBlocks cx S (input.drop fill)
      else
        (S, cx, input)
    let S := { S with buf := Memory.writeAt S.buf S.buflen input }
    ({ S with buflen := S.buflen + input.length }, cx)
  else
    (S, cx)

/-- `blake2b_init_key`; `none` is its -1. -/
def initKey (cx : Globals) (outlen : Nat) (key : List UInt8) (keylen : Nat)
    : Option State × Globals :=
  if outlen = 0 ∨ outlen > outBytes then
    (none, cx)
  else if keylen = 0 ∨ keylen > keyBytes then
    (none, cx)
  else
    let S := initParam (sequentialParam outlen keylen)
    let cx := { cx with block1 := Bytes.zero blockBytes }
    let cx := { cx with block1 := Memory.copy cx.block1 (key.take keylen) }
    let (S, cx) := update cx S cx.block1.toList
    (some S, { cx with block1 := Bytes.zero blockBytes })

/-- `blake2b_final`: the output buffer, or `none` for its -1, and the state it leaves. -/
def final {size : Nat} (cx : Globals) (S : State) (out : Bytes size) (outlen : Nat)
    : Option (Bytes size) × State × Globals :=
  let cx := { cx with buffer := Bytes.zero outBytes }
  if outlen < S.outlen then
    (none, S, cx)
  else if isLastblock S then
    (none, S, cx)
  else
    let S := incrementCounter S (UInt64.ofNat S.buflen)
    let S := setLastblock S
    let S := { S with
      buf := Memory.writeAt S.buf S.buflen (List.replicate (blockBytes - S.buflen) 0) }
    let (S, cx) := compress cx S S.buf
    let buffer := (List.finRange 8).foldl
      (fun buffer (i : Fin 8) => Memory.writeAt buffer (8 * i) (store64 (S.h.get i))) cx.buffer
    let out := Memory.copy out (buffer.toList.take S.outlen)
    (some out, S, { cx with buffer := Bytes.zero outBytes })

/-- `blake2b`, the whole computation; `none` is its -1. -/
def blake2b {size : Nat} (cx : Globals) (out : Bytes size) (outlen : Nat)
    (input : List UInt8) (key : List UInt8) (keylen : Nat)
    : Option (Bytes size) × Globals :=
  if outlen = 0 ∨ outlen > outBytes then
    (none, cx)
  else if keylen > keyBytes then
    (none, cx)
  else
    let (S, cx) := if keylen > 0 then initKey cx outlen key keylen else (init outlen, cx)
    match S with
    | none => (none, cx)
    | some S =>
        let (S, cx) := update cx S input
        let (written, _, cx) := final cx S out outlen
        -- the result of `blake2b_final` is not looked at
        (some (written.getD out), cx)

end KaspaApp.Blake2b
