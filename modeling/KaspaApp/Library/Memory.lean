import Mathlib.Data.List.Basic

/-! Fixed-size objects in memory: reads that may run past the end of an object, and copies
of a byte string into it. The cells behind an object are a parameter of every read, so a
statement that holds for all of them depends on no cell outside the object.
-/

namespace Memory

/-- Cell `index` of an object of `size` cells; past its end the memory behind it is read. -/
def read {α : Type} {size : Nat} (object : Vector α size) (behind : Nat → α) (index : Nat)
    : α :=
  if inside : index < size then object[index] else behind index

/-- The first `count` cells that start at the object. -/
def readBlock {α : Type} {size : Nat} (object : Vector α size) (behind : Nat → α)
    (count : Nat)
    : List α :=
  (List.range count).map (read object behind)

/-- Copy `source` to the start of an object; cells after the copied ones keep their value. -/
def copy {α : Type} {size : Nat} (object : Vector α size) (source : List α)
    : Vector α size :=
  Vector.ofFn fun index => (source[index.val]?).getD object[index]

/-- Store `source` from cell `start` on; cells past the end of the object are no part of it. -/
def writeAt {α : Type} {size : Nat} (object : Vector α size) (start : Nat) (source : List α)
    : Vector α size :=
  Vector.ofFn fun index =>
    if start ≤ index.val then (source[index.val - start]?).getD object[index] else object[index]

/-- The object with the given cells. -/
def ofList {α : Type} {size : Nat} (cells : List α) (fills : cells.length = size)
    : Vector α size :=
  ⟨cells.toArray, by simpa using fills⟩

variable {α : Type} {size : Nat}

@[simp] theorem toList_ofList (cells : List α) (fills : cells.length = size)
    : (ofList cells fills).toList = cells := by
  simp [ofList, Vector.toList]

@[simp] theorem read_of_lt (object : Vector α size) (behind : Nat → α) {index : Nat}
    (inside : index < size)
    : read object behind index = object[index] := by
  simp [read, inside]

/-- Only a read past the end depends on what lies there. -/
theorem read_congr (object : Vector α size) {left right : Nat → α} {index : Nat}
    (same : size ≤ index → left index = right index)
    : read object left index = read object right index := by
  by_cases inside : index < size
  · rw [read_of_lt object left inside, read_of_lt object right inside]
  · simp only [read, inside, dite_false, same (Nat.le_of_not_lt inside)]

/-- A block that stays inside its object is a prefix of the object's cells. -/
theorem readBlock_of_le (object : Vector α size) (behind : Nat → α) {count : Nat}
    (inside : count ≤ size)
    : readBlock object behind count = object.toList.take count := by
  apply List.ext_getElem
  · simp [readBlock, inside]
  · intro index left right
    have bound : index < size := by
      simp only [readBlock, List.length_map, List.length_range] at left
      omega
    simp [readBlock, bound]

@[simp] theorem length_readBlock (object : Vector α size) (behind : Nat → α) (count : Nat)
    : (readBlock object behind count).length = count := by
  simp [readBlock]

theorem getElem_copy (object : Vector α size) (source : List α) (index : Nat)
    (inside : index < size)
    : (copy object source)[index] = (source[index]?).getD object[index] := by
  simp [copy]

theorem getElem_copy_of_lt (object : Vector α size) (source : List α) (index : Nat)
    (inside : index < size) (copied : index < source.length)
    : (copy object source)[index] = source[index] := by
  simp [getElem_copy, copied]

/-- What was copied is read back from the start of the object. -/
theorem take_copy (object : Vector α size) (source : List α) (fits : source.length ≤ size)
    : (copy object source).toList.take source.length = source := by
  apply List.ext_getElem
  · simp [fits]
  · intro index left right
    have bound : index < size := by omega
    simp [getElem_copy, right]

/-- A copy that fills the whole object leaves nothing of its old contents. -/
theorem toList_copy_of_length_eq (object : Vector α size) (source : List α)
    (fills : source.length = size)
    : (copy object source).toList = source := by
  have whole := take_copy object source (by omega)
  rwa [List.take_of_length_le (by simp [fills])] at whole

/-- Copying another object of the same size replaces the object. -/
theorem copy_toList (object source : Vector α size) : copy object source.toList = source := by
  apply Vector.toList_inj.mp
  exact toList_copy_of_length_eq object source.toList source.length_toList

/-- A copy that runs past the first of two adjacent objects goes on in the second. -/
theorem toList_copy_append {next : Nat} (object : Vector α size) (behind : Vector α next)
    (source : List α)
    : (copy object source).toList ++ (copy behind (source.drop size)).toList
      = (copy (object ++ behind) source).toList := by
  apply List.ext_getElem
  · simp
  · intro index left right
    simp only [Vector.length_toList] at right
    rw [List.getElem_append]
    simp only [Vector.length_toList, Vector.getElem_toList, getElem_copy, Vector.getElem_append]
    split
    · rfl
    · next behind =>
        have place : size + (index - size) = index := by omega
        rw [List.getElem?_drop, place]

/-- A first write at the start of an object is a copy. -/
theorem writeAt_zero (object : Vector α size) (source : List α)
    : writeAt object 0 source = copy object source := by
  simp [writeAt, copy]

/-- A write behind another one extends it. -/
theorem writeAt_append (object : Vector α size) (start : Nat) (front back : List α)
    : writeAt (writeAt object start front) (start + front.length) back
      = writeAt object start (front ++ back) := by
  apply Vector.ext
  intro index inside
  simp only [writeAt, Vector.getElem_ofFn, Fin.getElem_fin]
  by_cases reached : start ≤ index
  · simp only [if_pos reached]
    by_cases later : start + front.length ≤ index
    · have place : index - (start + front.length) = index - start - front.length := by omega
      rw [if_pos later, List.getElem?_append_right (by omega), place,
        List.getElem?_eq_none (by omega : front.length ≤ index - start)]
      rfl
    · rw [if_neg later, List.getElem?_append_left (by omega)]
  · rw [if_neg (by omega), if_neg reached, if_neg reached]

@[simp] theorem writeAt_nil (object : Vector α size) (start : Nat)
    : writeAt object start [] = object := by
  apply Vector.ext
  intro index inside
  simp only [writeAt, Vector.getElem_ofFn, Fin.getElem_fin, List.getElem?_nil,
    Option.getD_none, ite_self]

/-- A write that is at least as long as the one before it leaves nothing of that one. -/
theorem writeAt_writeAt (object : Vector α size) (start : Nat) {first second : List α}
    (covered : first.length ≤ second.length)
    : writeAt (writeAt object start first) start second = writeAt object start second := by
  apply Vector.ext
  intro index inside
  simp only [writeAt, Vector.getElem_ofFn, Fin.getElem_fin]
  by_cases reached : start ≤ index
  · simp only [if_pos reached]
    by_cases written : index - start < second.length
    · rw [List.getElem?_eq_getElem written]
      rfl
    · rw [List.getElem?_eq_none (by omega : first.length ≤ index - start)]
      rfl
  · simp only [if_neg reached]

/-- A write behind what was copied extends the copy. -/
theorem writeAt_copy (object : Vector α size) {front : List α} {start : Nat}
    (behind : front.length = start) (source : List α)
    : writeAt (copy object front) start source = copy object (front ++ source) := by
  subst behind
  simpa only [writeAt_zero, Nat.zero_add] using writeAt_append object 0 front source

@[simp] theorem copy_nil (object : Vector α size) : copy object [] = object := by
  apply Vector.ext
  intro index inside
  rw [getElem_copy object [] index inside]
  rfl

/-- Stores one after the other, each from its first cell on. -/
def storeAll (object : Vector α size) (stores : List (Nat × List α)) : Vector α size :=
  stores.foldl (fun object store => writeAt object store.1 store.2) object

/-- The cells that stores write, inside an object or behind its end. -/
def storedCells (stores : List (Nat × List α)) : List Nat :=
  stores.flatMap fun store => (List.range store.2.length).map (store.1 + ·)

/-- Stores of the parts of a string, each behind the one before it. -/
def inSequence (start : Nat) : List (List α) → List (Nat × List α)
  | [] => []
  | part :: parts => (start, part) :: inSequence (start + part.length) parts

@[simp] theorem storeAll_nil (object : Vector α size) : storeAll object [] = object := rfl

@[simp] theorem storeAll_cons (object : Vector α size) (store : Nat × List α)
    (stores : List (Nat × List α))
    : storeAll object (store :: stores) = storeAll (writeAt object store.1 store.2) stores :=
  rfl

theorem storeAll_append (object : Vector α size) (first second : List (Nat × List α))
    : storeAll object (first ++ second) = storeAll (storeAll object first) second :=
  List.foldl_append

/-- Parts in sequence write their string. -/
theorem storeAll_inSequence (object : Vector α size) (start : Nat) (parts : List (List α))
    : storeAll object (inSequence start parts) = writeAt object start parts.flatten := by
  induction parts generalizing object start with
  | nil => exact (writeAt_nil object start).symm
  | cons part parts ih => rw [inSequence, storeAll_cons, ih, writeAt_append, List.flatten_cons]

/-- Parts in sequence write every cell of their string and no other. -/
theorem mem_storedCells_inSequence {start cell : Nat} {parts : List (List α)}
    : cell ∈ storedCells (inSequence start parts)
      ↔ start ≤ cell ∧ cell < start + parts.flatten.length := by
  induction parts generalizing start with
  | nil =>
      simp only [inSequence, storedCells, List.flatMap_nil, List.flatten_nil, List.length_nil,
        List.not_mem_nil, false_iff]
      omega
  | cons part parts ih =>
      have first
          : cell ∈ (List.range part.length).map (start + ·)
            ↔ start ≤ cell ∧ cell < start + part.length := by
        rw [List.mem_map]
        constructor
        · rintro ⟨index, member, rfl⟩
          have inside := List.mem_range.mp member
          exact ⟨Nat.le_add_right start index, Nat.add_lt_add_left inside start⟩
        · rintro ⟨above, below⟩
          exact ⟨cell - start, List.mem_range.mpr (by omega), Nat.add_sub_cancel' above⟩
      rw [inSequence, storedCells, List.flatMap_cons, List.mem_append, first, ← storedCells, ih,
        List.flatten_cons, List.length_append]
      omega

/-- Writing the cell behind what was copied extends the copy. -/
theorem setIfInBounds_copy (object : Vector α size) (front : List α) (cell : α)
    : (copy object front).setIfInBounds front.length cell = copy object (front ++ [cell]) := by
  apply Vector.ext
  intro index inside
  rw [Vector.getElem_setIfInBounds inside, getElem_copy object _ index inside,
    getElem_copy object _ index inside]
  rcases Nat.lt_trichotomy index front.length with before | rfl | after
  · rw [if_neg (by omega), List.getElem?_append_left before]
  · rw [if_pos rfl, List.getElem?_append_right (Nat.le_refl _), Nat.sub_self]
    rfl
  · rw [if_neg (by omega), List.getElem?_eq_none (by omega), List.getElem?_eq_none (by simp; omega)]

/-- The first cell that a copy into an empty object leaves empty. -/
theorem read_copy_replicate (cell : α) (front : List α) (behind : Nat → α)
    (inside : front.length < size)
    : read (copy (Vector.replicate size cell) front) behind front.length = cell := by
  rw [read_of_lt _ _ inside, getElem_copy _ front _ inside,
    List.getElem?_eq_none (Nat.le_refl _), Vector.getElem_replicate]
  rfl

theorem take_replicate_toList (value : α) {count : Nat} (inside : count ≤ size)
    : (Vector.replicate size value).toList.take count = List.replicate count value := by
  simp [List.take_replicate, inside]

/-- Two objects, each with what lies behind it, have the same values in the given cells. -/
def Agree (cells : List Nat) (left right : Vector α size) (behindLeft behindRight : Nat → α)
    : Prop :=
  ∀ cell ∈ cells, read left behindLeft cell = read right behindRight cell

section

variable {cells : List Nat} {left right : Vector α size} {behindLeft behindRight : Nat → α}

theorem Agree.mono {fewer : List Nat} (agree : Agree cells left right behindLeft behindRight)
    (included : fewer ⊆ cells)
    : Agree fewer left right behindLeft behindRight :=
  fun cell member => agree cell (included member)

theorem Agree.getElem (agree : Agree cells left right behindLeft behindRight) {cell : Nat}
    (member : cell ∈ cells) (inside : cell < size)
    : left[cell] = right[cell] := by
  simpa only [read_of_lt _ _ inside] using agree cell member

theorem Agree.readBlock {count : Nat}
    (agree : Agree (List.range count) left right behindLeft behindRight)
    : Memory.readBlock left behindLeft count = Memory.readBlock right behindRight count :=
  List.map_congr_left agree

/-- A part of the object is read from the same place of the other one. -/
theorem Agree.slice {start count : Nat}
    (agree : Agree (List.range' start count) left right behindLeft behindRight)
    (inside : start + count ≤ size)
    : (left.toList.drop start).take count = (right.toList.drop start).take count := by
  apply List.ext_getElem
  · simp
  · intro index first second
    have bound : index < count := by
      rw [List.length_take] at first
      omega
    have member : start + index ∈ List.range' start count :=
      List.mem_range'_1.mpr ⟨by omega, by omega⟩
    simpa using agree.getElem member (by omega)

end

/-- The first rows of a table hold the items of a list. -/
def Stores {Item Row : Type} (holds : Item → Row → Prop) (items : List Item)
    (table : Vector Row size)
    : Prop :=
  ∀ (index : Nat) (item : Item),
    items[index]? = some item → ∃ row, table[index]? = some row ∧ holds item row

variable {Item Row : Type} {holds : Item → Row → Prop} {items : List Item}
  {table : Vector Row size}

theorem stores_nil (table : Vector Row size) : Stores holds [] table := by
  intro index item found
  simp at found

/-- Writing the first row behind the items keeps them. -/
theorem Stores.write (stores : Stores holds items table) (row : Row)
    : Stores holds items (table.setIfInBounds items.length row) := by
  intro index item found
  obtain ⟨inside, _⟩ := List.getElem?_eq_some_iff.mp found
  obtain ⟨old, same, kept⟩ := stores index item found
  refine ⟨old, ?_, kept⟩
  rw [Vector.getElem?_setIfInBounds_ne (by omega), same]

/-- Writing an item's row behind the items adds the item. -/
theorem Stores.append (stores : Stores holds items table) {item : Item} {row : Row}
    (room : items.length < size) (held : holds item row)
    : Stores holds (items ++ [item]) (table.setIfInBounds items.length row) := by
  intro index other found
  rcases Nat.lt_or_ge index items.length with before | behind
  · rw [List.getElem?_append_left before] at found
    exact stores.write row index other found
  · rw [List.getElem?_append_right behind] at found
    obtain ⟨last, same⟩ := List.getElem?_eq_some_iff.mp found
    obtain rfl : index = items.length := by
      simp only [List.length_singleton] at last
      omega
    simp only [Nat.sub_self, List.getElem_cons_zero] at same
    subst same
    exact ⟨row, by rw [Vector.getElem?_setIfInBounds_self, if_pos room], held⟩

/-- What a step does to a table and to the counter of its rows: nothing, or it writes the row behind
the counted ones, and counts it only if the row holds a new item.
-/
inductive RowStep (holds : Item → Row → Prop) (count : Nat) (table : Vector Row size)
    (new : Option Item) (next : Nat) (after : Vector Row size)
    : Prop
  | kept (none : new = none) (counter : next = count) (rows : after = table)
  | refused (row : Row) (none : new = none) (counter : next = count)
    (rows : after = table.setIfInBounds count row)
  | added {item : Item} {row : Row} (room : count < size) (held : holds item row)
    (some : new = some item) (counter : next = count + 1)
    (rows : after = table.setIfInBounds count row)

/-- A step keeps the counted rows in line with the items. -/
theorem RowStep.stores {count next : Nat} {new : Option Item} {after : Vector Row size}
    (taken : RowStep holds count table new next after) (counted : count = items.length)
    (stores : Stores holds items table)
    : next = (items ++ new.toList).length ∧ Stores holds (items ++ new.toList) after := by
  subst counted
  cases taken with
  | kept none counter rows =>
      subst none counter rows
      exact ⟨by simp, by simpa using stores⟩
  | refused row none counter rows =>
      subst none counter rows
      exact ⟨by simp, by simpa using stores.write row⟩
  | added room held some counter rows =>
      subst some counter rows
      exact ⟨by simp, stores.append room held⟩

end Memory
