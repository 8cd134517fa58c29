import KaspaApp.Keys.PathBuffers
import KaspaApp.Library.CellUpdates

/-! The payloads of `GET_PUBLIC_KEY`: how many elements a path has, and the elements. The handler
derives a key at the packed path where it fits its array, and else at as many of the elements as
the low byte of the sixth one says.
-/

namespace KaspaApp

open FixedWidth

variable {target : Target} {frontEnd : FrontEnd} {env : Env} {cdata : Buffer} {display : Bool}
  {path entries : List UInt32} {after : List UInt8}

/-- A path as a client packs it. -/
def packDerivationPath (path : List UInt32) : List UInt8 :=
  UInt8.ofNat path.length :: packed 4 (path.map UInt32.toNat)

/-- The length that is checked when the entries are stored. -/
def storedLength (entries : List UInt32) : UInt8 :=
  ((entries[5]?).map UInt32.toUInt8).getD (UInt8.ofNat entries.length)

/-- The path that is left of the entries. -/
def storedPath (entries : List UInt32) : List UInt32 := entries.take (storedLength entries).toNat

/-- The paths that the handler derives a key at. -/
structure AllowedPath (path : List UInt32) : Prop where
  lengthGe : 2 ≤ path.length
  lengthLe : path.length ≤ 5
  begins : [purpose, coinType] <+: path

theorem map_toNat_map_ofNat {values : List Nat} (fit : ∀ value ∈ values, value < 256 ^ 4)
    : (values.map UInt32.ofNat).map UInt32.toNat = values := by
  rw [List.map_map]
  refine (List.map_congr_left fun value member => ?_).trans (List.map_id values)
  exact UInt32.toNat_ofNat_of_lt' (fit value member)

theorem map_ofNat_map_toNat (path : List UInt32)
    : (path.map UInt32.toNat).map UInt32.ofNat = path := by
  rw [List.map_map]
  exact (List.map_congr_left fun element _ => UInt32.ofNat_toNat).trans (List.map_id path)

/-- What the reader writes when its entries are there. -/
theorem pathRead_of_readable {count : UInt8} {bytes : List UInt8}
    (payload : cdata.rest = count :: bytes) (readable : PathReadable count bytes)
    : pathRead env cdata = (true, (fields 4 count.toNat bytes).map UInt32.ofNat) := by
  obtain ⟨read, rest⟩ := Buffer.readU8_cons payload
  obtain ⟨positive, limit, inside⟩ := readable
  have enough : (cdata.advance 1).canRead (4 * count.toNat) = true := by
    rwa [Buffer.canRead_iff, rest]
  simp only [pathRead, read, Env.bufferReadBip32Path, positive, limit, enough, decide_true,
    Bool.and_self, if_true, fields, List.map_map]
  refine congrArg _ (List.map_congr_left fun entry member => ?_)
  have room : 4 ≤ ((cdata.advance 1).advance (4 * entry)).rest.length := by
    rw [List.mem_range] at member
    rw [Buffer.rest_advance, rest, List.length_drop]
    omega
  simp only [Function.comp_apply, field]
  rw [Buffer.bytes_of_le room, Buffer.rest_advance, rest]

/-- A path of up to ten elements is read back from what a client packs. -/
theorem pathRead_pack (nonempty : entries ≠ []) (short : entries.length ≤ maxBip32Path)
    (payload : cdata.rest = packDerivationPath entries ++ after)
    : cdata.readU8.ok = true
      ∧ cdata.readU8.value = UInt8.ofNat entries.length
      ∧ pathRead env cdata = (true, entries) := by
  have limit : maxBip32Path = 10 := rfl
  have count : (UInt8.ofNat entries.length).toNat = entries.length :=
    UInt8.toNat_ofNat_of_lt' (by simp only [UInt8.size]; omega)
  rw [packDerivationPath, List.cons_append] at payload
  obtain ⟨read, -⟩ := Buffer.readU8_cons payload
  have readable
      : PathReadable (UInt8.ofNat entries.length)
          (packed 4 (entries.map UInt32.toNat) ++ after) := by
    refine ⟨?_, ?_, ?_⟩
    · rw [count]
      exact List.length_pos_of_ne_nil nonempty
    · rwa [count]
    · rw [count, List.length_append, length_packed, List.length_map]
      omega
  refine ⟨by rw [read], by rw [read], ?_⟩
  have fit : ∀ value ∈ entries.map UInt32.toNat, value < 256 ^ 4 := by
    intro value member
    obtain ⟨element, -, rfl⟩ := List.mem_map.mp member
    exact element.toNat_lt
  have elements := fields_packed fit after
  rw [List.length_map] at elements
  rw [pathRead_of_readable payload readable, count, elements, map_ofNat_map_toNat]

/-- What the reader accepts is a packed path of up to ten elements. -/
theorem pack_of_pathRead (lengthRead : cdata.readU8.ok = true)
    (accepted : (pathRead env cdata).1 = true)
    : ∃ entries after,
        entries ≠ []
        ∧ entries.length ≤ maxBip32Path
        ∧ cdata.rest = packDerivationPath entries ++ after := by
  cases payload : cdata.rest with
  | nil => simp [Buffer.readU8_nil payload] at lengthRead
  | cons count bytes =>
      obtain ⟨read, rest⟩ := Buffer.readU8_cons payload
      have readable : PathReadable count bytes := by
        by_contra unreadable
        have refused : (pathRead env cdata).1 = false := by
          simp only [pathRead, read, Env.bufferReadBip32Path]
          rw [if_neg]
          simp only [Bool.and_eq_true, decide_eq_true_eq, Buffer.canRead_iff, rest]
          exact fun checks => unreadable ⟨checks.1.1, checks.1.2, checks.2⟩
        exact Bool.noConfusion (refused.symm.trans accepted)
      obtain ⟨positive, limit, inside⟩ := readable
      have fit : ∀ value ∈ fields 4 count.toNat bytes, value < 256 ^ 4 := by
        intro value member
        obtain ⟨index, -, rfl⟩ := List.mem_map.mp member
        exact field_lt _ _ _
      have length : ((fields 4 count.toNat bytes).map UInt32.ofNat).length = count.toNat := by
        rw [List.length_map, length_fields]
      refine ⟨(fields 4 count.toNat bytes).map UInt32.ofNat, bytes.drop (4 * count.toNat), ?_, ?_,
        ?_⟩
      · exact List.ne_nil_of_length_pos (by rwa [length])
      · rwa [length]
      · rw [packDerivationPath, length, UInt8.ofNat_toNat, map_toNat_map_ofNat fit,
          packed_fields inside, List.cons_append, List.take_append_drop]

-----------------------------------------------------------------------------------------
-- Storing it
-----------------------------------------------------------------------------------------

/-- What a prefix of the array holds. -/
theorem take_copied (array : Vector UInt32 5) {count : Nat} (inside : count ≤ 5)
    (written : count ≤ entries.length)
    : (Memory.copy array entries).toList.take count = entries.take count := by
  rw [← Memory.copy_take, Memory.toList_copy array (List.length_take_le 5 entries),
    List.take_append_of_le_length (by rw [List.length_take]; omega), List.take_take,
    Nat.min_eq_left inside]

theorem take_two (array : Vector UInt32 5) : array.toList.take 2 = [array[0], array[1]] := by
  apply List.ext_getElem
  · simp
  · intro index left right
    match index with
    | 0 | 1 => simp

theorem begins_iff (path : List UInt32)
    : [purpose, coinType] <+: path ↔ path.take 2 = [purpose, coinType] := by
  rw [List.prefix_iff_eq_take, eq_comm]
  rfl

/-- The length of entries that fit the array is stored as it is. -/
theorem storedLength_of_le (fits : entries.length ≤ 5)
    : (storedLength entries).toNat = entries.length := by
  rw [storedLength, List.getElem?_eq_none fits]
  exact UInt8.toNat_ofNat_of_lt' (by simp only [UInt8.size]; omega)

/-- Entries that fit the array are the path. -/
theorem storedPath_of_le (fits : entries.length ≤ 5) : storedPath entries = entries := by
  rw [storedPath, storedLength_of_le fits, List.take_length]

/-- A key is derived exactly where the path that is left of the entries is an allowed one. -/
theorem reaches_pack_iff (nonempty : entries ≠ []) (short : entries.length ≤ maxBip32Path)
    (payload : cdata.rest = packDerivationPath entries ++ after)
    : (ReachesDerivation target env cdata ↔ AllowedPath (storedPath entries))
      ∧ (AllowedPath (storedPath entries)
          → (pathContext target env cdata).path = storedPath entries) := by
  obtain ⟨lengthRead, declared, read⟩ :=
    @pathRead_pack env cdata entries after nonempty short payload
  have pathLen : (pathContext target env cdata).bip32PathLen = storedLength entries := by
    simp only [pathContext, pathStart, GlobalCtx.writeBip32Path, read, declared, storedLength]
  have array
      : (pathContext target env cdata).bip32Path
        = Memory.copy (pathStart target cdata).bip32Path entries := by
    simp only [pathContext, GlobalCtx.writeBip32Path, read]
  have fits := @storedLength_of_le entries
  have length
      : (storedPath entries).length = min (storedLength entries).toNat entries.length :=
    List.length_take
  have fixed (long : 2 ≤ entries.length) (stored : 2 ≤ (storedLength entries).toNat)
      : (storedPath entries).take 2
        = [(pathContext target env cdata).bip32Path[0],
            (pathContext target env cdata).bip32Path[1]] := by
    rw [← take_two, array, take_copied _ (by omega) long, storedPath, List.take_take,
      Nat.min_eq_left stored]
  refine ⟨⟨?_, ?_⟩, ?_⟩
  · intro reaches
    have ge := UInt8.le_iff_toNat_le.mp (pathLen ▸ reaches.lengthGe)
    have le := UInt8.le_iff_toNat_le.mp (pathLen ▸ reaches.lengthLe)
    change 2 ≤ (storedLength entries).toNat at ge
    change (storedLength entries).toNat ≤ 5 at le
    refine ⟨by omega, by omega, ?_⟩
    rw [begins_iff, fixed (by omega) ge, reaches.purpose, reaches.coinType]
  · intro allowed
    have ge := allowed.lengthGe
    have le := allowed.lengthLe
    have begins := (begins_iff _).mp allowed.begins
    rw [fixed (by omega) (by omega), List.cons.injEq, List.cons.injEq] at begins
    refine ⟨lengthRead, congrArg Prod.fst read, ?_, ?_, begins.1, begins.2.1⟩
    · rw [pathLen, UInt8.le_iff_toNat_le]
      change 2 ≤ (storedLength entries).toNat
      omega
    · rw [pathLen, UInt8.le_iff_toNat_le]
      change (storedLength entries).toNat ≤ 5
      omega
  · intro allowed
    have le := allowed.lengthLe
    rw [GlobalCtx.path, pathLen, array, take_copied _ (by omega) (by omega), storedPath]

end KaspaApp
