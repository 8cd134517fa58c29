import Mathlib.Data.Set.Basic

/-! Codes whose words can be read from a string without a separator: concatenations of words
determine the words.
-/

namespace PrefixCodes

variable {Symbol : Type}

/-- Non-empty words none of which is the beginning of another. -/
structure PrefixCode (words : Set (List Symbol)) : Prop where
  nonempty : [] ∉ words
  unique
    : ∀ word ∈ words, ∀ other ∈ words, ∀ rest otherRest,
        word ++ rest = other ++ otherRest → word = other

/-- A string is a concatenation of words in at most one way. -/
theorem PrefixCode.flatten_injective {words : Set (List Symbol)} (code : PrefixCode words)
    {left right : List (List Symbol)} (leftWords : ∀ word ∈ left, word ∈ words)
    (rightWords : ∀ word ∈ right, word ∈ words) (same : left.flatten = right.flatten)
    : left = right := by
  induction left generalizing right with
  | nil =>
      cases right with
      | nil => rfl
      | cons word right =>
          have empty : word = [] := (List.append_eq_nil_iff.mp same.symm).1
          exact absurd (empty ▸ rightWords word (by simp)) code.nonempty
  | cons word left ih =>
      cases right with
      | nil =>
          have empty : word = [] := (List.append_eq_nil_iff.mp same).1
          exact absurd (empty ▸ leftWords word (by simp)) code.nonempty
      | cons other right =>
          rw [List.flatten_cons, List.flatten_cons] at same
          obtain rfl :=
            code.unique word (leftWords word (by simp)) other (rightWords other (by simp)) _ _ same
          have rest :=
            ih (fun next member => leftWords next (List.mem_cons_of_mem _ member))
              (fun next member => rightWords next (List.mem_cons_of_mem _ member))
              (List.append_cancel_left same)
          rw [rest]

/-- Words with a head of fixed width that determines how many symbols follow it. -/
def headed (width : Nat) (count : List Symbol → Nat) : Set (List Symbol) :=
  {word | ∃ head body, head.length = width ∧ body.length = count head ∧ word = head ++ body}

theorem prefixCode_headed {width : Nat} (positive : 0 < width) (count : List Symbol → Nat)
    : PrefixCode (headed width count) where
  nonempty := by
    rintro ⟨head, body, length, _, empty⟩
    have none : head = [] := (List.append_eq_nil_iff.mp empty.symm).1
    rw [none, List.length_nil] at length
    omega
  unique := by
    rintro word ⟨head, body, length, size, rfl⟩ other ⟨head', body', length', size', rfl⟩ rest
      otherRest same
    rw [List.append_assoc, List.append_assoc] at same
    obtain ⟨rfl, bodies⟩ := List.append_inj same (length.trans length'.symm)
    obtain ⟨rfl, _⟩ := List.append_inj bodies (size.trans size'.symm)
    rfl

/-- Words of one width. -/
theorem prefixCode_fixed {width : Nat} (positive : 0 < width)
    : PrefixCode {word : List Symbol | word.length = width} where
  nonempty := by
    intro length
    change 0 = width at length
    omega
  unique := by
    intro word length other length' rest otherRest same
    exact (List.append_inj same (length.trans length'.symm)).1

variable {Item Key : Type} {encode : Item → List Symbol} {words : Set (List Symbol)}

/-- Lists of items with the same encoding have the same keys, where a word determines the key
of its item.
-/
theorem PrefixCode.map_eq_of_flatMap_eq (code : PrefixCode words) {key : Item → Key}
    (determines : ∀ item other, encode item = encode other → key item = key other)
    {left right : List Item} (leftWords : ∀ item ∈ left, encode item ∈ words)
    (rightWords : ∀ item ∈ right, encode item ∈ words)
    (same : left.flatMap encode = right.flatMap encode)
    : left.map key = right.map key := by
  have each {items : List Item} (encodes : ∀ item ∈ items, encode item ∈ words)
      : ∀ word ∈ items.map encode, word ∈ words := by
    intro word member
    obtain ⟨item, inside, rfl⟩ := List.mem_map.mp member
    exact encodes item inside
  rw [List.flatMap_def, List.flatMap_def] at same
  have encoded := code.flatten_injective (each leftWords) (each rightWords) same
  clear same leftWords rightWords
  induction left generalizing right with
  | nil =>
      obtain rfl := List.map_eq_nil_iff.mp encoded.symm
      rfl
  | cons item left ih =>
      cases right with
      | nil => simp at encoded
      | cons other right =>
          obtain ⟨first, rest⟩ := List.cons.inj encoded
          rw [List.map_cons, List.map_cons, determines item other first, ih rest]

end PrefixCodes
