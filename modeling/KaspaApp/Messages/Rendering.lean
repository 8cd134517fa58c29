import KaspaApp.Model.Format

/-! What `format_message_to_sign` makes of a message: the cells it writes spell the rendering
of every byte as long as the destination has room, each byte with its terminating zero.
-/

namespace KaspaApp

/-- The value of a cell after some writes. -/
def valueAfter (writes : List (Nat × UInt8)) (before : UInt8) (cell : Nat) : UInt8 :=
  writes.foldl (fun value write => if write.1 = cell then write.2 else value) before

theorem valueAfter_append (first second : List (Nat × UInt8)) (before : UInt8) (cell : Nat)
    : valueAfter (first ++ second) before cell
      = valueAfter second (valueAfter first before cell) cell :=
  List.foldl_append

/-- Writes to other cells leave a cell as it is. -/
theorem valueAfter_of_other {writes : List (Nat × UInt8)} {cell : Nat}
    (other : ∀ write ∈ writes, write.1 ≠ cell) (before : UInt8)
    : valueAfter writes before cell = before := by
  induction writes generalizing before with
  | nil => rfl
  | cons write later ih =>
      have same : valueAfter (write :: later) before cell = valueAfter later before cell := by
        simp [valueAfter, other write List.mem_cons_self]
      rw [same]
      exact ih (fun write member => other write (List.mem_cons_of_mem _ member)) before

theorem writesAt_cons (start : Nat) (char : UInt8) (chars : List UInt8)
    : writesAt start (char :: chars) = (start, char) :: writesAt (start + 1) chars := by
  rw [writesAt, writesAt, List.zipIdx_cons', List.map_cons, List.map_map]
  congr 1
  apply List.map_congr_left
  intro entry _
  simp [Nat.add_assoc, Nat.add_comm 1]

theorem le_of_mem_writesAt {start : Nat} {chars : List UInt8} {write : Nat × UInt8}
    (member : write ∈ writesAt start chars)
    : start ≤ write.1 := by
  induction chars generalizing start with
  | nil => simp [writesAt] at member
  | cons char chars ih =>
      rw [writesAt_cons, List.mem_cons] at member
      rcases member with rfl | later
      · exact Nat.le_refl _
      · exact Nat.le_of_succ_le (ih later)

/-- A string that is stored at `start` replaces the cells from there on. -/
theorem valueAfter_writesAt {start cell : Nat} (behind : start ≤ cell) (chars : List UInt8)
    (before : UInt8)
    : valueAfter (writesAt start chars) before cell = (chars[cell - start]?).getD before := by
  induction chars generalizing start before with
  | nil => rfl
  | cons char chars ih =>
      rw [writesAt_cons]
      rcases Nat.eq_or_lt_of_le behind with rfl | later
      · have rest : valueAfter (writesAt (start + 1) chars) char start = char := by
          apply valueAfter_of_other
          intro write member
          have bound := le_of_mem_writesAt member
          omega
        simpa [valueAfter] using rest
      · have place : cell - start = cell - (start + 1) + 1 := by omega
        have other : ¬ start = cell := by omega
        rw [place, List.getElem?_cons_succ, ← ih later before]
        simp [valueAfter, other]

/-- In a zero-filled destination the writes leave a string and nothing behind it. -/
def Spells (writes : List (Nat × UInt8)) (text : List UInt8) : Prop :=
  ∀ cell, valueAfter writes 0 cell = (text[cell]?).getD 0

/-- Storing characters and a terminator behind a string extends the string. -/
theorem Spells.extend {writes : List (Nat × UInt8)} {text : List UInt8}
    (spells : Spells writes text) (chars : List UInt8)
    : Spells (writes ++ writesAt text.length (chars ++ [0])) (text ++ chars) := by
  intro cell
  rw [valueAfter_append, spells cell]
  rcases Nat.lt_or_ge cell text.length with inside | behind
  · rw [valueAfter_of_other, List.getElem?_append_left inside]
    intro write member
    have bound := le_of_mem_writesAt member
    omega
  · rw [valueAfter_writesAt behind, List.getElem?_append_right behind,
      List.getElem?_eq_none behind, Option.getD_none]
    rcases Nat.lt_or_ge (cell - text.length) chars.length with more | done
    · rw [List.getElem?_append_left more]
    · rw [List.getElem?_append_right done, List.getElem?_eq_none done]
      rcases Nat.eq_or_lt_of_le done with last | past
      · simp [← last]
      · rw [List.getElem?_eq_none (by simp only [List.length_singleton]; omega), Option.getD_none]

/-- The byte is shown as one character. -/
def IsPlain (c : UInt8) : Prop := isSpace c = true ∨ isPrint c = true

instance (c : UInt8) : Decidable (IsPlain c) := inferInstanceAs (Decidable (_ ∨ _))

theorem not_isPlain_iff {c : UInt8}
    : ¬ IsPlain c ↔ isSpace c = false ∧ isPrint c = false := by
  rw [IsPlain, not_or, Bool.not_eq_true, Bool.not_eq_true]

/-- The characters that show one byte of a message. -/
def renderByte (c : UInt8) : List UInt8 :=
  if isSpace c then [0x20] else if isPrint c then [c] else [0x5c, 0x78] ++ hexDigits c

/-- The characters that show a message. -/
def rendering (message : List UInt8) : List UInt8 := message.flatMap renderByte

/-- The byte has room at a place of the destination. -/
def Fits (msgDestLen destIdx : Nat) (c : UInt8) : Prop :=
  if IsPlain c then destIdx < msgDestLen else destIdx + 6 ≤ msgDestLen

instance (msgDestLen destIdx : Nat) (c : UInt8) : Decidable (Fits msgDestLen destIdx c) := by
  unfold Fits
  infer_instance

/-- The bytes of a message before the first one that has no room. -/
def fitting (msgDestLen : Nat) : List UInt8 → Nat → List UInt8
  | [], _ => []
  | c :: rest, destIdx =>
      if Fits msgDestLen destIdx c then
        c :: fitting msgDestLen rest (destIdx + (renderByte c).length)
      else
        []

theorem length_renderByte (c : UInt8) : (renderByte c).length = if IsPlain c then 1 else 4 := by
  unfold renderByte IsPlain
  by_cases space : isSpace c = true
  · simp [space]
  · by_cases print : isPrint c = true
    · simp [space, print]
    · simp [space, print, hexDigits]

theorem rendering_cons (c : UInt8) (rest : List UInt8)
    : rendering (c :: rest) = renderByte c ++ rendering rest :=
  List.flatMap_cons

theorem rendering_append (front rest : List UInt8)
    : rendering (front ++ rest) = rendering front ++ rendering rest :=
  List.flatMap_append

/-- A byte that has room leaves its characters and their terminator. -/
theorem formatMessageLoop_of_fits {msgDestLen destIdx : Nat} {c : UInt8}
    (fits : Fits msgDestLen destIdx c) (rest : List UInt8)
    : formatMessageLoop msgDestLen (c :: rest) destIdx
      = writesAt destIdx (renderByte c ++ [0])
        ++ formatMessageLoop msgDestLen rest (destIdx + (renderByte c).length) := by
  rw [formatMessageLoop]
  by_cases space : isSpace c = true
  · have room : destIdx < msgDestLen := by simpa [Fits, IsPlain, space] using fits
    have blank : isPrint 0x20 = true := by decide
    simp [room, space, blank, renderByte]
  by_cases print : isPrint c = true
  · have room : destIdx < msgDestLen := by simpa [Fits, IsPlain, space, print] using fits
    simp [room, space, print, renderByte]
  · have room : destIdx + 6 ≤ msgDestLen := by simpa [Fits, IsPlain, space, print] using fits
    have inside : destIdx < msgDestLen := by omega
    have enough : 4 ≤ msgDestLen - destIdx - 1 := by omega
    have whole : ([0x5c, 0x78] ++ hexDigits c).take (msgDestLen - destIdx - 1 - 1)
        = [0x5c, 0x78] ++ hexDigits c := by
      apply List.take_of_length_le
      simp only [hexDigits, List.length_append, List.length_cons, List.length_nil, List.length_map]
      omega
    simp only [inside, space, print, enough, if_true, if_false, whole, renderByte,
      Bool.false_eq_true]
    rfl

/-- The loop writes no cell before its place. -/
theorem le_of_mem_formatMessageLoop {msgDestLen destIdx : Nat} {message : List UInt8}
    {write : Nat × UInt8} (member : write ∈ formatMessageLoop msgDestLen message destIdx)
    : destIdx ≤ write.1 := by
  induction message generalizing destIdx with
  | nil => simp [formatMessageLoop] at member
  | cons c rest ih =>
      -- whatever a round stores, the next one starts at the same place or behind it
      have round {stored : List UInt8} {count : Nat}
          (member
            : write ∈ writesAt destIdx stored
                ++ formatMessageLoop msgDestLen rest (destIdx + count))
          : destIdx ≤ write.1 := by
        rcases List.mem_append.mp member with now | later
        · exact le_of_mem_writesAt now
        · exact Nat.le_of_add_right_le (ih later)
      simp only [formatMessageLoop] at member
      generalize (if isSpace c = true then (0x20 : UInt8) else c) = shown at member
      split at member
      · split at member
        · exact round member
        · split at member
          · exact round member
          · exact round member
      · simp at member

/-- The loop spells the rendering of the bytes that have room, and what it writes for the
others lies behind. Induction on the message: each byte that fits extends the string.
-/
theorem formatMessageLoop_spells (msgDestLen : Nat) (message : List UInt8)
    {writes : List (Nat × UInt8)} {text : List UInt8} (spells : Spells writes text)
    (inside : text.length ≤ msgDestLen)
    : ∃ spelling later,
        formatMessageLoop msgDestLen message text.length = spelling ++ later
        ∧ Spells (writes ++ spelling)
            (text ++ rendering (fitting msgDestLen message text.length))
        ∧ (text ++ rendering (fitting msgDestLen message text.length)).length ≤ msgDestLen
        ∧ (∀ write ∈ later,
            (text ++ rendering (fitting msgDestLen message text.length)).length ≤ write.1)
        ∧ (fitting msgDestLen message text.length = message → later = []) := by
  induction message generalizing writes text with
  | nil => exact ⟨[], [], rfl, by simpa [fitting, rendering] using spells,
      by simpa [fitting, rendering] using inside, by simp, fun _ => rfl⟩
  | cons c rest ih =>
      by_cases fits : Fits msgDestLen text.length c
      · have room : (text ++ renderByte c).length ≤ msgDestLen := by
          rw [List.length_append, length_renderByte]
          unfold Fits at fits
          split at fits
          · rename_i plain
            rw [if_pos plain]
            omega
          · rename_i escaped
            rw [if_neg escaped]
            omega
        obtain ⟨spelling, later, split, whole, bound, behind, done⟩ :=
          ih (spells.extend (renderByte c)) room
        have next : fitting msgDestLen (c :: rest) text.length
            = c :: fitting msgDestLen rest (text ++ renderByte c).length := by
          rw [fitting, if_pos fits, List.length_append]
        have text' : text ++ rendering (fitting msgDestLen (c :: rest) text.length)
            = text ++ renderByte c
              ++ rendering (fitting msgDestLen rest (text ++ renderByte c).length) := by
          rw [next, rendering, List.flatMap_cons, List.append_assoc]
          rfl
        refine ⟨writesAt text.length (renderByte c ++ [0]) ++ spelling, later, ?_, ?_, ?_, ?_, ?_⟩
        · rw [formatMessageLoop_of_fits fits, List.append_assoc, ← split, List.length_append]
        · rw [text', ← List.append_assoc]
          exact whole
        · rw [text']
          exact bound
        · rw [text']
          exact behind
        · rw [next]
          intro all
          exact done (List.cons.inj all).2
      · have stops : fitting msgDestLen (c :: rest) text.length = [] := by
          rw [fitting, if_neg fits]
        refine ⟨[], formatMessageLoop msgDestLen (c :: rest) text.length, rfl, ?_, ?_, ?_, ?_⟩
        · simpa [stops, rendering] using spells
        · simpa [stops, rendering] using inside
        · intro write member
          simpa [stops, rendering] using le_of_mem_formatMessageLoop member
        · rw [stops]
          intro all
          exact absurd all (by simp)

/-- A source whose bytes all have room is spelled. -/
theorem spells_of_fitting {n : Nat} {front : List UInt8} (all : fitting n front 0 = front)
    : Spells (formatMessageToSign n front) (rendering front) ∧ (rendering front).length ≤ n := by
  have start : Spells [] [] := fun cell => rfl
  obtain ⟨spelling, later, split, spells, bound, -, done⟩ :=
    formatMessageLoop_spells n front start (Nat.zero_le _)
  simp only [List.nil_append, List.length_nil, all] at split spells bound done
  rw [done trivial, List.append_nil] at split
  rw [formatMessageToSign, split]
  exact ⟨spells, bound⟩

/-- Bytes that are shown as one character each fit as long as the destination does. -/
theorem fitting_of_plain {msgDestLen destIdx : Nat} {message : List UInt8}
    (plain : ∀ c ∈ message, IsPlain c) (room : destIdx + message.length ≤ msgDestLen)
    : fitting msgDestLen message destIdx = message := by
  induction message generalizing destIdx with
  | nil => rfl
  | cons c rest ih =>
      have first : IsPlain c := plain c List.mem_cons_self
      rw [List.length_cons] at room
      have fits : Fits msgDestLen destIdx c := by
        rw [Fits, if_pos first]
        omega
      rw [fitting, if_pos fits, length_renderByte, if_pos first,
        ih (fun c member => plain c (List.mem_cons_of_mem _ member)) (by omega)]

/-- Two cells more than the rendering are enough for every message. -/
theorem fitting_of_room {msgDestLen destIdx : Nat} {message : List UInt8}
    (room : destIdx + (rendering message).length + 2 ≤ msgDestLen)
    : fitting msgDestLen message destIdx = message := by
  induction message generalizing destIdx with
  | nil => rfl
  | cons c rest ih =>
      have length : (rendering (c :: rest)).length
          = (renderByte c).length + (rendering rest).length := by
        rw [rendering, List.flatMap_cons, List.length_append]
        rfl
      rw [length] at room
      have fits : Fits msgDestLen destIdx c := by
        rw [length_renderByte] at room
        unfold Fits
        split
        · next first =>
            rw [if_pos first] at room
            omega
        · next escaped =>
            rw [if_neg escaped] at room
            omega
      rw [fitting, if_pos fits, ih (by omega)]

/-- The character of a hexadecimal digit does not end a string. -/
theorem hexDigit_ne_zero {digit : UInt8} (small : digit.toNat < 16)
    : (if digit < 10 then digit + 0x30 else digit + 0x57) ≠ 0 := by
  intro zero
  have value := congrArg UInt8.toNat zero
  split at value
  · rw [UInt8.toNat_add] at value
    simp only [UInt8.reduceToNat] at value
    omega
  · rw [UInt8.toNat_add] at value
    simp only [UInt8.reduceToNat] at value
    omega

theorem ne_zero_of_mem_hexDigits {c char : UInt8} (member : char ∈ hexDigits c) : char ≠ 0 := by
  simp only [hexDigits, List.map_cons, List.map_nil, List.mem_cons, List.not_mem_nil, or_false]
    at member
  have bound := c.toNat_lt
  rcases member with rfl | rfl
  · apply hexDigit_ne_zero
    simp only [UInt8.toNat_shiftRight, UInt8.reduceToNat, Nat.reduceMod, Nat.shiftRight_eq_div_pow]
    omega
  · apply hexDigit_ne_zero
    rw [UInt8.toNat_and]
    exact Nat.lt_of_le_of_lt Nat.and_le_right (by decide)

/-- No character of a rendering ends the string. -/
theorem ne_zero_of_mem_rendering {message : List UInt8} {char : UInt8}
    (member : char ∈ rendering message)
    : char ≠ 0 := by
  obtain ⟨c, -, shown⟩ := List.mem_flatMap.mp member
  unfold renderByte at shown
  split at shown
  · rw [List.mem_singleton.mp shown]
    decide
  split at shown
  · next print =>
      rw [List.mem_singleton.mp shown]
      rintro rfl
      exact absurd print (by decide)
  · rcases List.mem_append.mp shown with opening | digits
    · simp only [List.mem_cons, List.not_mem_nil, or_false] at opening
      rcases opening with rfl | rfl <;> decide
    · exact ne_zero_of_mem_hexDigits digits

theorem cString_append {text rest : List UInt8} (nonzero : ∀ char ∈ text, char ≠ 0)
    : cString (text ++ rest) = text ++ cString rest := by
  rw [cString, cString, List.takeWhile_append_of_pos]
  intro char member
  simpa using nonzero char member

/-- Cells that begin with the characters of a string. -/
theorem cells_eq_append {count : Nat} {value : Nat → UInt8} {text : List UInt8}
    (fits : text.length ≤ count)
    (same : ∀ cell (inside : cell < text.length), value cell = text[cell])
    : (List.range count).map value
      = text ++ (List.range (count - text.length)).map fun cell => value (text.length + cell) := by
  apply List.ext_getElem
  · simp
    omega
  · intro index left right
    rw [List.getElem_append]
    split
    · next inside => simp [same index inside]
    · next outside =>
        have place : text.length + (index - text.length) = index := by omega
        simp [place]

/-- A text begins with the characters that the first cells hold. -/
theorem messageText_eq_append {n : Nat} {source text : List UInt8} (room : text.length ≤ n)
    (nonzero : ∀ char ∈ text, char ≠ 0)
    (same
      : ∀ cell (inside : cell < text.length),
          valueAfter (formatMessageToSign n source) 0 cell = text[cell])
    : messageText n source
      = text ++ cString ((List.range (n + 1 - text.length)).map fun cell =>
          valueAfter (formatMessageToSign n source) 0 (text.length + cell)) := by
  rw [← cString_append nonzero, ← cells_eq_append (by omega) same]
  rfl

/-- Cells that hold a string and a zero behind it are shown as that string. -/
theorem messageText_of_cells {n : Nat} {source text : List UInt8} (room : text.length ≤ n)
    (nonzero : ∀ char ∈ text, char ≠ 0)
    (cells
      : ∀ cell ≤ text.length,
          valueAfter (formatMessageToSign n source) 0 cell = (text[cell]?).getD 0)
    : messageText n source = text := by
  have same
      : ∀ cell (inside : cell < text.length),
          valueAfter (formatMessageToSign n source) 0 cell = text[cell] := by
    intro cell inside
    rw [cells cell (Nat.le_of_lt inside), List.getElem?_eq_getElem inside, Option.getD_some]
  have terminator : valueAfter (formatMessageToSign n source) 0 text.length = 0 := by
    rw [cells text.length (Nat.le_refl _), List.getElem?_eq_none (Nat.le_refl _), Option.getD_none]
  obtain ⟨count, behind⟩ : ∃ count, n + 1 - text.length = count + 1 :=
    ⟨n - text.length, by omega⟩
  rw [messageText_eq_append room nonzero same, behind, List.range_succ_eq_map, List.map_cons,
    Nat.add_zero, terminator, cString, List.takeWhile_cons]
  simp

theorem messageText_of_spells {n : Nat} {source text : List UInt8} (room : text.length ≤ n)
    (nonzero : ∀ char ∈ text, char ≠ 0) (spells : Spells (formatMessageToSign n source) text)
    : messageText n source = text :=
  messageText_of_cells room nonzero fun cell _ => spells cell

/-- The text begins with the rendering of the bytes that have room, and ends there if these are
all.
-/
theorem messageText_shows (msgDestLen : Nat) (message : List UInt8)
    : rendering (fitting msgDestLen message 0) <+: messageText msgDestLen message
      ∧ (fitting msgDestLen message 0 = message
          → messageText msgDestLen message = rendering message) := by
  have start : Spells [] [] := fun cell => rfl
  obtain ⟨spelling, later, split, spells, bound, behind, done⟩ :=
    formatMessageLoop_spells msgDestLen message start (Nat.zero_le _)
  simp only [List.nil_append, List.length_nil] at split spells bound behind done
  generalize shown : rendering (fitting msgDestLen message 0) = text at spells bound behind
  have front : ∀ cell (inside : cell < text.length),
      valueAfter (formatMessageToSign msgDestLen message) 0 cell = text[cell] := by
    intro cell inside
    rw [formatMessageToSign, split, valueAfter_append, valueAfter_of_other, spells cell,
      List.getElem?_eq_getElem inside, Option.getD_some]
    intro write member
    have bound := behind write member
    omega
  have nonzero : ∀ char ∈ text, char ≠ 0 := by
    intro char member
    rw [← shown] at member
    exact ne_zero_of_mem_rendering member
  refine ⟨⟨_, (messageText_eq_append bound nonzero front).symm⟩, fun all => ?_⟩
  obtain ⟨whole, room⟩ := spells_of_fitting all
  exact messageText_of_spells room (fun char member => ne_zero_of_mem_rendering member) whole

/-- The text has at most one character more than the destination. -/
theorem length_messageText_le (msgDestLen : Nat) (message : List UInt8)
    : (messageText msgDestLen message).length ≤ msgDestLen + 1 := by
  have shorter := List.IsPrefix.length_le (List.takeWhile_prefix (· ≠ (0 : UInt8))
    (l := cellsAfter (formatMessageToSign msgDestLen message) (msgDestLen + 1)))
  simpa [messageText, cString, cellsAfter] using shorter

end KaspaApp
