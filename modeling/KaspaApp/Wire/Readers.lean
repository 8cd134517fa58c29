import KaspaApp.Model.Handlers

/-! What the payload readers do to the bytes that are left to read. -/

namespace KaspaApp

open FixedWidth

/-- The bytes from the read position on. -/
def Buffer.rest (buf : Buffer) : List UInt8 := buf.data.drop buf.offset

variable {buf : Buffer}

theorem Buffer.length_rest (buf : Buffer) : buf.rest.length = buf.size - buf.offset := by
  simp [rest, size]

/-- A command's payload is all left to read. -/
@[simp] theorem Command.rest_buffer (env : Env) (cmd : Command)
    : (cmd.buffer env).rest = cmd.data := by
  simp [Buffer.rest, buffer]

@[simp] theorem Buffer.rest_advance (buf : Buffer) (count : Nat)
    : (buf.advance count).rest = buf.rest.drop count := by
  simp [rest, advance, List.drop_drop]

theorem Buffer.canRead_iff (count : Nat) : buf.canRead count = true ↔ count ≤ buf.rest.length := by
  rw [length_rest]
  simp [canRead]

/-- A byte that is left to read is read without a look behind the payload. -/
theorem Buffer.byteAt_of_lt {index : Nat} (inside : index < buf.rest.length)
    : buf.byteAt index = buf.rest[index] := by
  have bound : buf.offset + index < buf.data.length := by
    rw [length_rest, size] at inside
    omega
  simp [byteAt, rest, bound]

theorem Buffer.bytes_of_le {count : Nat} (inside : count ≤ buf.rest.length)
    : buf.bytes count = buf.rest.take count := by
  apply List.ext_getElem
  · simp [bytes, inside]
  · intro index left right
    have bound : index < buf.rest.length := by
      simp only [bytes, List.length_map, List.length_range] at left
      omega
    simp [bytes, byteAt_of_lt bound]

theorem Buffer.seekCur_of_le {count : Nat} (positive : 0 < count)
    (inside : count ≤ buf.rest.length)
    : buf.seekCur count = ⟨true, (), buf.advance count⟩ := by
  have bound : buf.offset + count ≤ buf.size := by
    rw [length_rest] at inside
    omega
  simp [seekCur, bound]

/-- A reader that has its bytes returns their value and leaves the bytes behind them. -/
theorem Buffer.readBe_of_le {width : Nat} (inside : width ≤ buf.rest.length)
    : buf.readBe width = ⟨true, fromBigEndian (buf.rest.take width), buf.advance width⟩ := by
  rw [readBe, if_pos ((canRead_iff width).mpr inside), bytes_of_le inside]

theorem Buffer.readBe_of_lt {width : Nat} (short : buf.rest.length < width)
    : buf.readBe width = ⟨false, 0, buf⟩ := by
  have refused : ¬ buf.canRead width = true := by
    rw [canRead_iff]
    omega
  rw [readBe, if_neg refused]

/-- A reader succeeds exactly when the big-endian form of some value is next. -/
theorem Buffer.readBe_append {width value : Nat} {after : List UInt8}
    (next : buf.rest = bigEndian width value ++ after)
    : buf.readBe width = ⟨true, value % 256 ^ width, buf.advance width⟩
      ∧ (buf.advance width).rest = after := by
  have inside : width ≤ buf.rest.length := by simp [next]
  constructor
  · rw [readBe_of_le inside, next, List.take_left' (by simp), fromBigEndian_bigEndian]
  · rw [rest_advance, next, List.drop_left' (by simp)]

/-- What a successful reader has read. -/
theorem Buffer.rest_of_readBe {width : Nat} (ok : (buf.readBe width).ok = true)
    : buf.rest
      = bigEndian width (buf.readBe width).value ++ (buf.readBe width).next.rest
      ∧ (buf.readBe width).value < 256 ^ width := by
  by_cases inside : width ≤ buf.rest.length
  · have length : (buf.rest.take width).length = width := by simp [inside]
    rw [readBe_of_le inside]
    constructor
    · simp only [rest_advance]
      conv => rhs; arg 1; arg 1; rw [← length]
      rw [bigEndian_fromBigEndian, List.take_append_drop]
    · have bound := fromBigEndian_lt (buf.rest.take width)
      rwa [length] at bound
  · rw [readBe_of_lt (by omega)] at ok
    simp at ok

theorem Buffer.readU8_append {value : UInt8} {after : List UInt8}
    (next : buf.rest = bigEndian 1 value.toNat ++ after)
    : buf.readU8 = ⟨true, value, buf.advance 1⟩ ∧ (buf.advance 1).rest = after := by
  obtain ⟨read, rest⟩ := readBe_append next
  refine ⟨?_, rest⟩
  simp [readU8, Read.map, read, Nat.mod_eq_of_lt value.toNat_lt]

/-- The reader of a single byte. -/
theorem Buffer.readU8_cons {value : UInt8} {after : List UInt8} (next : buf.rest = value :: after)
    : buf.readU8 = ⟨true, value, buf.advance 1⟩ ∧ (buf.advance 1).rest = after := by
  apply readU8_append
  rw [next, bigEndian_one]
  rfl

theorem Buffer.readU8_nil (empty : buf.rest = []) : buf.readU8.ok = false := by
  rw [readU8, readBe_of_lt (by simp [empty])]
  rfl

theorem Buffer.readU16_append {value : UInt16} {after : List UInt8}
    (next : buf.rest = bigEndian 2 value.toNat ++ after)
    : buf.readU16 = ⟨true, value, buf.advance 2⟩ ∧ (buf.advance 2).rest = after := by
  obtain ⟨read, rest⟩ := readBe_append next
  refine ⟨?_, rest⟩
  simp [readU16, Read.map, read, Nat.mod_eq_of_lt value.toNat_lt]

theorem Buffer.readU32_append {value : UInt32} {after : List UInt8}
    (next : buf.rest = bigEndian 4 value.toNat ++ after)
    : buf.readU32 = ⟨true, value, buf.advance 4⟩ ∧ (buf.advance 4).rest = after := by
  obtain ⟨read, rest⟩ := readBe_append next
  refine ⟨?_, rest⟩
  simp [readU32, Read.map, read, Nat.mod_eq_of_lt value.toNat_lt]

theorem Buffer.readU64_append {value : UInt64} {after : List UInt8}
    (next : buf.rest = bigEndian 8 value.toNat ++ after)
    : buf.readU64 = ⟨true, value, buf.advance 8⟩ ∧ (buf.advance 8).rest = after := by
  obtain ⟨read, rest⟩ := readBe_append next
  refine ⟨?_, rest⟩
  simp [readU64, Read.map, read, Nat.mod_eq_of_lt value.toNat_lt]

theorem Buffer.rest_of_readU8 (ok : buf.readU8.ok = true)
    : buf.rest = bigEndian 1 buf.readU8.value.toNat ++ buf.readU8.next.rest := by
  obtain ⟨read, bound⟩ := rest_of_readBe ok
  have exact : (UInt8.ofNat (buf.readBe 1).value).toNat = (buf.readBe 1).value :=
    UInt8.toNat_ofNat_of_lt' bound
  simpa [readU8, Read.map, exact] using read

theorem Buffer.rest_of_readU16 (ok : buf.readU16.ok = true)
    : buf.rest = bigEndian 2 buf.readU16.value.toNat ++ buf.readU16.next.rest := by
  obtain ⟨read, bound⟩ := rest_of_readBe ok
  have exact : (UInt16.ofNat (buf.readBe 2).value).toNat = (buf.readBe 2).value :=
    UInt16.toNat_ofNat_of_lt' bound
  simpa [readU16, Read.map, exact] using read

theorem Buffer.rest_of_readU32 (ok : buf.readU32.ok = true)
    : buf.rest = bigEndian 4 buf.readU32.value.toNat ++ buf.readU32.next.rest := by
  obtain ⟨read, bound⟩ := rest_of_readBe ok
  have exact : (UInt32.ofNat (buf.readBe 4).value).toNat = (buf.readBe 4).value :=
    UInt32.toNat_ofNat_of_lt' bound
  simpa [readU32, Read.map, exact] using read

theorem Buffer.rest_of_readU64 (ok : buf.readU64.ok = true)
    : buf.rest = bigEndian 8 buf.readU64.value.toNat ++ buf.readU64.next.rest := by
  obtain ⟨read, bound⟩ := rest_of_readBe ok
  have exact : (UInt64.ofNat (buf.readBe 8).value).toNat = (buf.readBe 8).value :=
    UInt64.toNat_ofNat_of_lt' bound
  simpa [readU64, Read.map, exact] using read

/-- A parser that succeeds has passed its first check. -/
theorem passed_of_ok {α : Type} {check : Prop} [Decidable check]
    {status : ParserStatus} {written : α} {passed : ParserStatus × α}
    (ok : (if check then (status, written) else passed).1 = .parsingOk)
    (failure : status ≠ .parsingOk := by decide)
    : ¬ check ∧ passed.1 = .parsingOk := by
  by_cases checked : check
  · rw [if_pos checked] at ok
    exact absurd ok failure
  · rw [if_neg checked] at ok
    exact ⟨checked, ok⟩

/-- The form of the same for a reader's result. -/
theorem read_of_ok {α : Type} {read : Bool} {status : ParserStatus} {written : α}
    {passed : ParserStatus × α}
    (ok : (if (!read) = true then (status, written) else passed).1 = .parsingOk)
    (failure : status ≠ .parsingOk := by decide)
    : read = true ∧ passed.1 = .parsingOk := by
  obtain ⟨read, ok⟩ := passed_of_ok ok failure
  exact ⟨by simpa using read, ok⟩

/-- What one reader has read, followed by what the next ones have. -/
theorem rest_chain {bytes first rest after : List UInt8} (read : bytes = first ++ rest)
    (next : rest = after)
    : bytes = first ++ after := by
  rw [read, next]

/-- The last check of every parser: nothing is left in the payload. -/
theorem rest_eq_nil_of_ok {α : Type} {status : ParserStatus} {written : α}
    (ok
      : ((if buf.size - buf.offset = 0 then ParserStatus.parsingOk else status), written).1
        = .parsingOk)
    (failure : status ≠ .parsingOk := by decide)
    : buf.rest = [] := by
  simp only at ok
  by_cases left : buf.size - buf.offset = 0
  · exact List.eq_nil_of_length_eq_zero (buf.length_rest.trans left)
  · rw [if_neg left] at ok
    exact absurd ok failure

end KaspaApp
