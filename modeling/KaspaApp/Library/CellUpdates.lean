import KaspaApp.Library.Memory
import Mathlib.Data.Fin.Basic
import Mathlib.Data.List.FinRange

/-! Writes to single cells of an object: loops that write each cell once, and writes that can be
undone because they change one cell by a function of the others.
-/

namespace Memory

variable {α : Type} {size : Nat}

section

variable {Index : Type} (place : Index → Nat) (next : Index → Vector α size → α)

/-- A loop leaves the cells alone that it does not write. -/
theorem getElem?_foldl_of_notMem (indices : List Index) (object : Vector α size) {cell : Nat}
    (other : ∀ index ∈ indices, place index ≠ cell)
    : (indices.foldl (fun object index => object.setIfInBounds (place index) (next index object))
        object)[cell]?
      = object[cell]? := by
  induction indices generalizing object with
  | nil => rfl
  | cons index indices ih =>
      obtain ⟨head, rest⟩ := List.forall_mem_cons.mp other
      rw [List.foldl_cons, ih _ rest, Vector.getElem?_setIfInBounds_ne head]

/-- A loop that writes every cell once, from the old value of that cell alone, leaves in each cell
what its round writes.
-/
theorem getElem?_foldl_of_mem {indices : List Index} (object : Vector α size)
    (distinct : (indices.map place).Nodup)
    (own
      : ∀ index (left right : Vector α size),
          left[place index]? = right[place index]? → next index left = next index right)
    {index : Index} (member : index ∈ indices) (inside : place index < size)
    : (indices.foldl (fun object index => object.setIfInBounds (place index) (next index object))
        object)[place index]?
      = some (next index object) := by
  induction indices generalizing object with
  | nil => exact absurd member List.not_mem_nil
  | cons first indices ih =>
      rw [List.map_cons, List.nodup_cons] at distinct
      obtain ⟨fresh, rest⟩ := distinct
      rw [List.foldl_cons]
      rcases List.mem_cons.mp member with rfl | later
      · have untouched : ∀ other ∈ indices, place other ≠ place index := fun other inner same =>
          fresh (List.mem_map.mpr ⟨other, inner, same⟩)
        rw [getElem?_foldl_of_notMem place next indices _ untouched,
          Vector.getElem?_setIfInBounds_self, if_pos inside]
      · have apart : place first ≠ place index := fun same =>
          fresh (List.mem_map.mpr ⟨index, later, same.symm⟩)
        rw [ih _ rest later]
        exact congrArg some (own index _ _ (Vector.getElem?_setIfInBounds_ne apart))

end

/-- A loop over all cells of an object. -/
theorem foldl_finRange_self (next : Fin size → α → α) (object : Vector α size)
    : (List.finRange size).foldl
        (fun object index => object.setIfInBounds index (next index (object.get index))) object
      = Vector.ofFn fun index => next index (object.get index) := by
  have distinct : ((List.finRange size).map Fin.val).Nodup :=
    (List.nodup_finRange size).map Fin.val_injective
  have own (index : Fin size) (left right : Vector α size)
      (same : left[index.val]? = right[index.val]?)
      : next index (left.get index) = next index (right.get index) := by
    have cell : left.get index = right.get index := by simpa [Vector.get] using same
    rw [cell]
  apply Vector.ext
  intro cell inside
  have written := getElem?_foldl_of_mem Fin.val _ object distinct own
    (List.mem_finRange ⟨cell, inside⟩) inside
  rw [Vector.getElem?_eq_getElem inside] at written
  rw [Option.some.inj written, Vector.getElem_ofFn]

/-- A loop that fills an object does not depend on its old cells. -/
theorem foldl_range_fill (value : Nat → α) (object : Vector α size)
    : (List.range size).foldl (fun object index => object.setIfInBounds index (value index)) object
      = Vector.ofFn fun index => value index := by
  have distinct : ((List.range size).map id).Nodup := by simpa using List.nodup_range
  apply Vector.ext
  intro cell inside
  have written := getElem?_foldl_of_mem id (fun index (_ : Vector α size) => value index) object
    distinct (fun _ _ _ _ => rfl) (List.mem_range.mpr inside) inside
  rw [id, Vector.getElem?_eq_getElem inside] at written
  rw [Vector.getElem_ofFn]
  exact Option.some.inj written

/-- Change one cell, by a function that may look at the other cells. -/
def change (cell : Fin size) (next : Vector α size → α → α) (object : Vector α size)
    : Vector α size :=
  object.setIfInBounds cell (next object (object.get cell))

/-- The function looks at no more than the cells other than the given one. -/
def LooksAside (cell : Fin size) (next : Vector α size → α → α) : Prop :=
  ∀ left right : Vector α size,
    (∀ other, other ≠ cell → left.get other = right.get other) → next left = next right

/-- Looking at one other cell is looking aside. -/
theorem looksAside_get {cell other : Fin size} (apart : other ≠ cell) (next : α → α → α)
    : LooksAside cell fun object => next (object.get other) :=
  fun _ _ same => congrArg next (same other apart)

theorem get_ofFn (cells : Fin size → α) (cell : Fin size)
    : (Vector.ofFn cells).get cell = cells cell :=
  Vector.getElem_ofFn cell.isLt

theorem get_setIfInBounds_self (object : Vector α size) (cell : Fin size) (value : α)
    : (object.setIfInBounds cell value).get cell = value :=
  (Vector.getElem_setIfInBounds cell.isLt).trans (if_pos rfl)

theorem get_setIfInBounds_ne (object : Vector α size) {cell other : Fin size} (value : α)
    (apart : other ≠ cell)
    : (object.setIfInBounds cell value).get other = object.get other :=
  (Vector.getElem_setIfInBounds other.isLt).trans (if_neg fun same => apart (Fin.ext same.symm))

/-- A change that can be undone in its cell can be undone. -/
theorem change_injective {cell : Fin size} {next : Vector α size → α → α}
    (aside : LooksAside cell next) (undone : ∀ object, Function.Injective (next object))
    : Function.Injective (change cell next) := by
  intro left right same
  have others (other : Fin size) (apart : other ≠ cell) : left.get other = right.get other := by
    have kept := congrArg (fun object => object.get other) same
    simpa only [change, get_setIfInBounds_ne _ _ apart] using kept
  have changed := congrArg (fun object => object.get cell) same
  simp only [change, get_setIfInBounds_self, aside left right others] at changed
  apply Vector.ext
  intro index inside
  by_cases own : ⟨index, inside⟩ = cell
  · subst own
    exact undone right changed
  · exact others ⟨index, inside⟩ own

-----------------------------------------------------------------------------------------
-- Copies
-----------------------------------------------------------------------------------------

/-- What lies behind the end of the object is not copied. -/
theorem copy_take (object : Vector α size) (source : List α)
    : copy object (source.take size) = copy object source := by
  apply Vector.ext
  intro cell inside
  rw [getElem_copy _ _ _ inside, getElem_copy _ _ _ inside, List.getElem?_take_of_lt inside]

/-- A copy leaves the cells behind it. -/
theorem toList_copy (object : Vector α size) {source : List α} (fits : source.length ≤ size)
    : (copy object source).toList = source ++ object.toList.drop source.length := by
  apply List.ext_getElem
  · simp only [Vector.length_toList, List.length_append, List.length_drop]
    omega
  · intro index left right
    rw [Vector.getElem_toList, getElem_copy]
    by_cases copied : index < source.length
    · rw [List.getElem_append_left copied, List.getElem?_eq_getElem copied]
      rfl
    · have place : source.length + (index - source.length) = index := by omega
      rw [List.getElem_append_right (by omega), List.getElem?_eq_none (by omega)]
      simp [place]

/-- Blocks of one length that a loop writes one behind the other. -/
theorem foldl_writeAt_blocks (width count : Nat) (block : Nat → List α)
    (widths : ∀ index, (block index).length = width) (object : Vector α size)
    : (List.range count).foldl
        (fun object index => writeAt object (width * index) (block index)) object
      = copy object ((List.range count).flatMap block) := by
  induction count with
  | zero => exact (copy_nil object).symm
  | succ count ih =>
      have length : ((List.range count).flatMap block).length = width * count := by
        simp [List.length_flatMap, widths, Nat.mul_comm]
      rw [List.range_succ, List.foldl_append, ih, List.flatMap_append, List.foldl_cons,
        List.foldl_nil, writeAt_copy object length, List.flatMap_singleton]

/-- A write behind the first cells extends them. -/
theorem take_writeAt (object : Vector α size) (start : Nat) (source : List α)
    (fits : start + source.length ≤ size)
    : (writeAt object start source).toList.take (start + source.length)
      = object.toList.take start ++ source := by
  have length : (object.toList.take start).length = start := by
    rw [List.length_take, Vector.length_toList]
    omega
  apply List.ext_getElem
  · simp only [List.length_append, List.length_take, Vector.length_toList]
    omega
  · intro index left right
    have bound : index < start + source.length := (List.length_take_le _ _).trans_lt' left
    simp only [List.getElem_take, Vector.getElem_toList, writeAt, Vector.getElem_ofFn,
      Fin.getElem_fin]
    by_cases behind : start ≤ index
    · rw [if_pos behind, List.getElem_append_right (by rw [length]; exact behind),
        List.getElem?_eq_getElem (by omega)]
      simp only [length]
      rfl
    · rw [if_neg behind, List.getElem_append_left (by omega), List.getElem_take,
        Vector.getElem_toList]

end Memory
