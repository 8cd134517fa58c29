import KaspaApp.Library.LinearCodes
import Mathlib.Data.List.Basic

/-! Which errors the checksum of a register detects. Two lists of words bring the register to the
same value exactly if their sums word by word bring it from zero to zero, so it is enough to know
the short and the sparse words that do.
-/

namespace LinearCodes

/-- A register over an alphabet of words: every value is its own inverse, and a step loses nothing
of the values that the register holds.
-/
structure Code (State : Type) extends Register State where
  Word : State → Prop
  Held : State → Prop
  add_self : ∀ state, add state state = zero
  word_zero : Word zero
  word_add : ∀ {left right}, Word left → Word right → Word (add left right)
  held_word : ∀ {word}, Word word → Held word
  held_add : ∀ {left right}, Held left → Held right → Held (add left right)
  held_step : ∀ state, Held (step state)
  step_eq_zero : ∀ {state}, Held state → step state = zero → state = zero

variable {State : Type} (code : Code State)

/-- The sums of two lists, word by word. -/
def Register.differences (register : Register State) (left right : List State) : List State :=
  List.zipWith register.add left right

/-- The words that bring the register from zero back to zero. -/
def Code.Codeword (words : List State) : Prop := code.absorb code.zero words = code.zero

/-- Words of the alphabet that are all zero. -/
def Code.Zeros (words : List State) : Prop := ∀ word ∈ words, word = code.zero

def Code.Words (words : List State) : Prop := ∀ word ∈ words, code.Word word

theorem Code.zero_add (state : State) : code.add code.zero state = state := by
  rw [code.add_comm, code.add_zero]

theorem Code.eq_of_add_eq_zero {left right : State} (cancels : code.add left right = code.zero)
    : left = right := by
  calc left
      = code.add left (code.add right right) := by rw [code.add_self, code.add_zero]
    _ = right := by rw [← code.add_assoc, cancels, code.zero_add]

theorem Code.step_zero : code.step code.zero = code.zero := by
  have twice := code.step_add code.zero code.zero
  rwa [code.add_zero, code.add_self] at twice

theorem Code.iterate_eq_zero {state : State} (held : code.Held state) {count : Nat}
    (reached : code.step^[count] state = code.zero)
    : state = code.zero := by
  induction count generalizing state with
  | zero => exact reached
  | succ count ih => exact code.step_eq_zero held (ih (code.held_step state) reached)

theorem Code.held_absorb {words : List State} (letters : code.Words words) {state : State}
    (held : code.Held state)
    : code.Held (code.absorb state words) := by
  induction words generalizing state with
  | nil => exact held
  | cons word words ih =>
      have first := code.held_word (letters word List.mem_cons_self)
      exact ih (fun other member => letters other (List.mem_cons_of_mem _ member))
        (code.held_add (code.held_step state) first)

/-- Zeros are nothing but steps. -/
theorem Code.absorb_zeros {words : List State} (zeros : code.Zeros words) (state : State)
    : code.absorb state words = code.step^[words.length] state := by
  induction words generalizing state with
  | nil => rfl
  | cons word words ih =>
      have first : code.absorb state (word :: words) = code.absorb (code.step state) words := by
        rw [Register.absorb, List.foldl_cons, zeros word List.mem_cons_self, code.add_zero,
          Register.absorb]
      rw [first, ih fun other member => zeros other (List.mem_cons_of_mem _ member),
        List.length_cons, Function.iterate_succ_apply]

theorem Code.codeword_zeros {words : List State} (zeros : code.Zeros words)
    : code.Codeword words := by
  have fixed : code.step^[words.length] code.zero = code.zero :=
    Function.iterate_fixed code.step_zero words.length
  rw [Codeword, code.absorb_zeros zeros, fixed]

/-- Zeros in front and behind make no difference. -/
theorem Code.codeword_trim {front words behind : List State} (frontZeros : code.Zeros front)
    (letters : code.Words words) (behindZeros : code.Zeros behind)
    (codeword : code.Codeword (front ++ (words ++ behind)))
    : code.Codeword words := by
  have start : code.absorb code.zero front = code.zero := code.codeword_zeros frontZeros
  rw [Codeword, code.absorb_append, start, code.absorb_append, code.absorb_zeros behindZeros]
    at codeword
  exact code.iterate_eq_zero (code.held_absorb letters (code.held_word code.word_zero)) codeword

/-- The difference of two runs is the run of the differences. -/
theorem Code.absorb_differences {left right : List State} (same : left.length = right.length)
    (first second : State)
    : code.add (code.absorb first left) (code.absorb second right)
      = code.absorb (code.add first second) (code.differences left right) := by
  induction left generalizing first second right with
  | nil =>
      obtain rfl := List.length_eq_zero_iff.mp same.symm
      rfl
  | cons word left ih =>
      cases right with
      | nil => exact absurd same (Nat.succ_ne_zero _)
      | cons other right =>
          have regroup (a b c d : State)
              : code.add (code.add a b) (code.add c d)
                = code.add (code.add a c) (code.add b d) := by
            rw [code.add_assoc, ← code.add_assoc b, code.add_comm b c, code.add_assoc c,
              ← code.add_assoc]
          have rest := ih (Nat.succ.inj same) (code.add (code.step first) word)
            (code.add (code.step second) other)
          rwa [regroup, ← code.step_add] at rest

/-- An error stays undetected exactly if the differences are a codeword. -/
theorem Code.absorb_eq_iff {left right : List State} (same : left.length = right.length)
    (start : State)
    : code.absorb start left = code.absorb start right
      ↔ code.Codeword (code.differences left right) := by
  have differ := code.absorb_differences same start start
  rw [code.add_self] at differ
  rw [Codeword, ← differ]
  constructor
  · intro reached
    rw [reached, code.add_self]
  · exact code.eq_of_add_eq_zero

theorem Code.eq_of_zeros {left right : List State} (same : left.length = right.length)
    (zeros : code.Zeros (code.differences left right))
    : left = right := by
  induction left generalizing right with
  | nil => exact (List.length_eq_zero_iff.mp same.symm).symm
  | cons word left ih =>
      cases right with
      | nil => exact absurd same (Nat.succ_ne_zero _)
      | cons other right =>
          obtain ⟨first, rest⟩ := List.forall_mem_cons.mp zeros
          rw [code.eq_of_add_eq_zero first, ih (Nat.succ.inj same) rest]

-----------------------------------------------------------------------------------------
-- Errors within a few words in a row
-----------------------------------------------------------------------------------------

/-- So few words that only zeros bring the register from zero to zero. -/
def Code.Spells (width : Nat) : Prop :=
  ∀ words, words.length ≤ width → code.Words words → code.Codeword words → code.Zeros words

/-- No burst of errors is a codeword. -/
theorem Code.zeros_of_burst {width : Nat} (spells : code.Spells width) {words : List State}
    (letters : code.Words words) (start : Nat)
    (within : ∀ i, i < start ∨ start + width ≤ i → ∀ word ∈ words[i]?, word = code.zero)
    (codeword : code.Codeword words)
    : code.Zeros words := by
  have split : words = words.take start
      ++ ((words.drop start).take width ++ (words.drop start).drop width) := by
    rw [List.take_append_drop, List.take_append_drop]
  have front : code.Zeros (words.take start) := by
    intro word member
    obtain ⟨i, found⟩ := List.mem_iff_getElem?.mp member
    rw [List.getElem?_take] at found
    split at found
    · exact within i (Or.inl ‹_›) word found
    · exact absurd found.symm (Option.some_ne_none word)
  have behind : code.Zeros ((words.drop start).drop width) := by
    intro word member
    obtain ⟨i, found⟩ := List.mem_iff_getElem?.mp member
    rw [List.drop_drop, List.getElem?_drop] at found
    exact within (start + width + i) (Or.inr (by omega)) word found
  have burstLetters : code.Words ((words.drop start).take width) := fun word member =>
    letters word (List.mem_of_mem_drop (List.mem_of_mem_take member))
  have burst : code.Zeros ((words.drop start).take width) := by
    rw [split] at codeword
    exact spells _ (List.length_take_le _ _) burstLetters
      (code.codeword_trim front burstLetters behind codeword)
  intro word member
  rw [split] at member
  rcases List.mem_append.mp member with first | later
  · exact front word first
  · rcases List.mem_append.mp later with second | third
    · exact burst word second
    · exact behind word third

-----------------------------------------------------------------------------------------
-- Errors in a few places
-----------------------------------------------------------------------------------------

/-- Two words, not both zero, that have moved up by different numbers of steps do not add up to a
word of the alphabet.
-/
def Code.Apart (length : Nat) : Prop :=
  ∀ i < length, ∀ j < i, ∀ first second, code.Word first → code.Word second →
    first ≠ code.zero →
    ¬ code.Word (code.add (code.step^[i] first) (code.step^[j] second))

/-- From a first to a last word that is not zero. -/
theorem Code.absorb_ends (first last : State) (middle : List State)
    : code.absorb code.zero (first :: (middle ++ [last]))
      = code.add (code.step^[middle.length + 1] first)
          (code.absorb code.zero (middle ++ [last])) := by
  have started
      : code.absorb code.zero (first :: (middle ++ [last]))
        = code.absorb (code.add first code.zero) (middle ++ [last]) := by
    rw [Register.absorb, List.foldl_cons, code.step_zero, code.zero_add, code.add_zero,
      Register.absorb]
  rw [started, code.absorb_add, List.length_append, List.length_singleton]

theorem Code.absorb_last {middle : List State} (zeros : code.Zeros middle) (state last : State)
    : code.absorb state (middle ++ [last])
      = code.add (code.step^[middle.length + 1] state) last := by
  rw [code.absorb_append, code.absorb_zeros zeros, Function.iterate_succ_apply']
  rfl

section

variable [DecidableEq State]

/-- The number of words that are not zero. -/
def Code.weight (words : List State) : Nat := words.countP fun word => word ≠ code.zero

theorem Code.zeros_of_weight {words : List State} (none : code.weight words = 0)
    : code.Zeros words := by
  intro word member
  have zero := List.countP_eq_zero.mp none word member
  simpa using zero

theorem Code.weight_append (left right : List State)
    : code.weight (left ++ right) = code.weight left + code.weight right :=
  List.countP_append

theorem Code.weight_zeros {words : List State} (zeros : code.Zeros words)
    : code.weight words = 0 :=
  List.countP_eq_zero.mpr fun word member => by simpa using zeros word member

theorem Code.weight_cons {word : State} (given : word ≠ code.zero) (words : List State)
    : code.weight (word :: words) = code.weight words + 1 :=
  List.countP_cons_of_pos (by simpa using given)

/-- The first word that is not zero. -/
theorem Code.exists_first (words : List State)
    : code.Zeros words
      ∨ ∃ front word rest,
          words = front ++ word :: rest ∧ code.Zeros front ∧ word ≠ code.zero := by
  induction words with
  | nil => exact Or.inl fun word member => absurd member List.not_mem_nil
  | cons head tail ih =>
      rcases Decidable.em (head = code.zero) with zero | given
      · rcases ih with zeros | ⟨front, word, rest, rfl, frontZeros, given⟩
        · exact Or.inl (List.forall_mem_cons.mpr ⟨zero, zeros⟩)
        · exact Or.inr ⟨head :: front, word, rest, rfl,
            List.forall_mem_cons.mpr ⟨zero, frontZeros⟩, given⟩
      · exact Or.inr ⟨[], head, tail, rfl, fun word member => absurd member List.not_mem_nil, given⟩

/-- The last word that is not zero. -/
theorem Code.exists_last (words : List State)
    : code.Zeros words
      ∨ ∃ front word rest,
          words = front ++ word :: rest ∧ word ≠ code.zero ∧ code.Zeros rest := by
  rcases code.exists_first words.reverse with zeros | ⟨front, word, rest, split, zeros, given⟩
  · exact Or.inl fun word member => zeros word (List.mem_reverse.mpr member)
  · refine Or.inr ⟨rest.reverse, word, front.reverse, ?_, given, fun word member =>
      zeros word (List.mem_reverse.mp member)⟩
    rw [← List.reverse_reverse words, split, List.reverse_append, List.reverse_cons,
      List.append_assoc, List.singleton_append]

/-- Errors in up to three places of a list that is not too long are no codeword. -/
theorem Code.zeros_of_weight_le_three {length : Nat} (apart : code.Apart length)
    {words : List State} (letters : code.Words words) (short : words.length ≤ length)
    (few : code.weight words ≤ 3) (codeword : code.Codeword words)
    : code.Zeros words := by
  rcases code.exists_first words with zeros | ⟨front, first, rest, rfl, frontZeros, given⟩
  · exact zeros
  have firstWord : code.Word first := letters first (by simp)
  rw [code.weight_append, code.weight_zeros frontZeros, code.weight_cons given] at few
  have none : code.Zeros ([] : List State) := fun word member => absurd member List.not_mem_nil
  rcases code.exists_last rest with zeros | ⟨middle, last, behind, rfl, lastGiven, behindZeros⟩
  · -- one error
    have single : code.Codeword [first] :=
      code.codeword_trim frontZeros (by simpa [Words] using firstWord) zeros codeword
    rw [Codeword, ← List.nil_append [first], code.absorb_last none] at single
    rw [List.length_nil, Function.iterate_one, code.step_zero, code.zero_add] at single
    exact absurd single given
  have lastWord : code.Word last := letters last (by simp)
  have middleLetters : code.Words middle := fun word member => letters word (by simp [member])
  have ends : code.Codeword (first :: (middle ++ [last])) := by
    refine code.codeword_trim frontZeros ?_ behindZeros (by simpa using codeword)
    intro word member
    exact letters word (by simp at member ⊢; tauto)
  have sum
      : code.step^[middle.length + 1] first = code.absorb code.zero (middle ++ [last]) := by
    rw [Codeword, code.absorb_ends] at ends
    exact code.eq_of_add_eq_zero ends
  simp only [List.length_append, List.length_cons] at short
  rw [code.weight_append, code.weight_cons lastGiven] at few
  rcases code.exists_first middle with zeros | ⟨before, second, after, rfl, beforeZeros, other⟩
  · -- two errors
    have word : code.Word (code.step^[middle.length + 1] first) := by
      rwa [sum, code.absorb_last zeros, Function.iterate_fixed code.step_zero, code.zero_add]
    refine absurd ?_ (apart (middle.length + 1) (by omega) 0 (by omega) first code.zero firstWord
      code.word_zero given)
    rwa [Function.iterate_zero_apply, code.add_zero]
  · -- three errors
    rw [code.weight_append, code.weight_cons other] at few
    have afterZeros : code.Zeros after := code.zeros_of_weight (by omega)
    have start : code.absorb code.zero before = code.zero := code.codeword_zeros beforeZeros
    have moved
        : code.absorb code.zero (before ++ second :: after ++ [last])
          = code.add (code.step^[after.length + 1] second) last := by
      rw [List.append_assoc, code.absorb_append, start, List.cons_append, Register.absorb,
        List.foldl_cons, code.step_zero, code.zero_add, ← Register.absorb,
        code.absorb_last afterZeros]
    have secondWord : code.Word second := middleLetters second (by simp)
    rw [List.length_append, List.length_cons] at short sum
    refine absurd ?_ (apart (before.length + (after.length + 1) + 1) (by omega)
      (after.length + 1) (by omega) first second firstWord secondWord given)
    rw [sum, moved, code.add_comm, ← code.add_assoc, code.add_self, code.zero_add]
    exact lastWord

end

end LinearCodes
