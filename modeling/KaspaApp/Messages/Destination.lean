import KaspaApp.Messages.ShownMessages

/-! The cells that `format_message_to_sign` writes, against the length of its destination. An
escape leaves the last cell free for the terminating zero, a byte that is shown as it is does not.
-/

namespace KaspaApp

variable {n d : Nat} {c : UInt8} {rest : List UInt8}

theorem lt_of_mem_writesAt {start : Nat} {chars : List UInt8} {write : Nat × UInt8}
    (member : write ∈ writesAt start chars)
    : write.1 < start + chars.length := by
  induction chars generalizing start with
  | nil => simp [writesAt] at member
  | cons char chars ih =>
      rw [writesAt_cons, List.mem_cons] at member
      rw [List.length_cons]
      rcases member with rfl | later
      · exact Nat.lt_add_of_pos_right (Nat.succ_pos _)
      · have bound := ih later
        omega

/-- A full destination takes nothing more. -/
theorem formatMessageLoop_of_full (message : List UInt8) (full : n ≤ d)
    : formatMessageLoop n message d = [] := by
  cases message with
  | nil => rfl
  | cons c rest => rw [formatMessageLoop, if_neg (Nat.not_lt.mpr full)]

/-- A byte that is shown as one character, at any place of the destination. -/
theorem formatMessageLoop_plain (plain : IsPlain c) (inside : d < n) (rest : List UInt8)
    : formatMessageLoop n (c :: rest) d
      = writesAt d (renderByte c ++ [0]) ++ formatMessageLoop n rest (d + 1) := by
  have fits : Fits n d c := by
    rw [Fits, if_pos plain]
    exact inside
  rw [formatMessageLoop_of_fits fits, length_renderByte, if_pos plain]

/-- An escape with six cells left. -/
theorem formatMessageLoop_escape (escape : ¬ IsPlain c) (room : d + 6 ≤ n) (rest : List UInt8)
    : formatMessageLoop n (c :: rest) d
      = writesAt d (renderByte c ++ [0]) ++ formatMessageLoop n rest (d + 4) := by
  have fits : Fits n d c := by
    rw [Fits, if_neg escape]
    exact room
  rw [formatMessageLoop_of_fits fits, length_renderByte, if_neg escape]

/-- An escape with five cells left: `snprintf` is told of four and cuts the last character. -/
theorem formatMessageLoop_cut (escape : ¬ IsPlain c) (last : d + 5 = n) (rest : List UInt8)
    : formatMessageLoop n (c :: rest) d
      = writesAt d ((renderByte c).take 3 ++ [0]) ++ formatMessageLoop n rest (d + 4) := by
  subst last
  obtain ⟨space, print⟩ := not_isPlain_iff.mp escape
  have inside : d < d + 5 := Nat.lt_add_of_pos_right (Nat.succ_pos 4)
  have left : d + 5 - d - 1 = 4 := by omega
  rw [formatMessageLoop, if_pos inside]
  simp only [space, print, left, renderByte, Bool.false_eq_true, if_false, Nat.le_refl, if_true,
    Nat.reduceSub]

/-- An escape with at most four cells left: all but the last are filled. -/
theorem formatMessageLoop_fill (escape : ¬ IsPlain c) (inside : d < n) (tight : n < d + 5)
    (rest : List UInt8)
    : formatMessageLoop n (c :: rest) d
      = writesAt d (List.replicate (n - d - 1) 0x20) ++ formatMessageLoop n rest (n - 1) := by
  obtain ⟨space, print⟩ := not_isPlain_iff.mp escape
  have few : ¬ 4 ≤ n - d - 1 := by omega
  have next : d + (n - d - 1) = n - 1 := by omega
  rw [formatMessageLoop, if_pos inside]
  simp only [space, print, few, next, Bool.false_eq_true, if_false]

/-- Every byte that is shown as it is ends, behind `d` characters and in the rendering of the
whole source, in front of the last cell.
-/
def PlainEndInside (n d : Nat) (source : List UInt8) : Prop :=
  ∀ front c rest,
    source = front ++ c :: rest → IsPlain c → d + (rendering (front ++ [c])).length < n

theorem plainEndInside_nil : PlainEndInside n d [] := by
  intro front c rest split
  simp at split

theorem plainEndInside_cons
    : PlainEndInside n d (c :: rest)
      ↔ (IsPlain c → d + 1 < n) ∧ PlainEndInside n (d + (renderByte c).length) rest := by
  constructor
  · intro all
    constructor
    · intro plain
      have first := all [] c rest rfl plain
      rwa [List.nil_append, rendering_cons, rendering, List.flatMap_nil, List.append_nil,
        length_renderByte, if_pos plain] at first
    · intro front later tail split plain
      have inside := all (c :: front) later tail (by rw [split, List.cons_append]) plain
      rwa [List.cons_append, rendering_cons, List.length_append, ← Nat.add_assoc] at inside
  · rintro ⟨first, later⟩ front other tail split plain
    cases front with
    | nil =>
        obtain ⟨rfl, rfl⟩ := List.cons.inj split
        rw [List.nil_append, rendering_cons, rendering, List.flatMap_nil, List.append_nil,
          length_renderByte, if_pos plain]
        exact first plain
    | cons head front =>
        obtain ⟨rfl, rfl⟩ := List.cons.inj split
        have inside := later front other tail rfl plain
        rwa [List.cons_append, rendering_cons, List.length_append, ← Nat.add_assoc]

/-- Where only the last cell is left, no byte may be shown as it is. -/
theorem plainEndInside_of_last {source : List UInt8} (last : n ≤ d + 1)
    : PlainEndInside n d source ↔ ∀ c ∈ source, ¬ IsPlain c := by
  induction source generalizing d with
  | nil => simp [plainEndInside_nil]
  | cons c rest ih =>
      rw [plainEndInside_cons, ih (by omega), List.forall_mem_cons]
      constructor
      · rintro ⟨first, later⟩
        exact ⟨fun plain => absurd (first plain) (by omega), later⟩
      · rintro ⟨first, later⟩
        exact ⟨fun plain => absurd plain first, later⟩

/-- What the loop may write: cells of the destination, and only zeros in the last of them. -/
def InsideDestination (n : Nat) (write : Nat × UInt8) : Prop :=
  write.1 < n ∧ (write.1 + 1 = n → write.2 = 0)

theorem insideDestination_of_short {start : Nat} {chars : List UInt8}
    (room : start + chars.length < n) {write : Nat × UInt8} (member : write ∈ writesAt start chars)
    : InsideDestination n write := by
  have bound := lt_of_mem_writesAt member
  exact ⟨by omega, fun last => by omega⟩

/-- Characters in front of the last cell, and the zero behind them. -/
theorem insideDestination_of_terminated {start : Nat} {chars : List UInt8}
    (room : start + chars.length < n) {write : Nat × UInt8}
    (member : write ∈ writesAt start (chars ++ [0]))
    : InsideDestination n write := by
  induction chars generalizing start with
  | nil =>
      rw [List.nil_append, writesAt_cons, List.mem_cons] at member
      rcases member with rfl | later
      · exact ⟨room, fun _ => rfl⟩
      · simp [writesAt] at later
  | cons char chars ih =>
      rw [List.length_cons] at room
      rw [List.cons_append, writesAt_cons, List.mem_cons] at member
      rcases member with rfl | later
      · exact ⟨by simp only; omega, fun last => by simp only at last; omega⟩
      · exact ih (by omega) later

/-- Induction on the source: every round keeps the last cell free of characters. -/
theorem insideDestination_of_plainEndInside {source : List UInt8} (inside : d < n)
    (ends : PlainEndInside n d source) {write : Nat × UInt8}
    (member : write ∈ formatMessageLoop n source d)
    : InsideDestination n write := by
  induction source generalizing d with
  | nil => simp [formatMessageLoop] at member
  | cons c rest ih =>
      obtain ⟨first, later⟩ := plainEndInside_cons.mp ends
      have length := length_renderByte c
      by_cases plain : IsPlain c
      · rw [if_pos plain] at length
        rw [length] at later
        rw [formatMessageLoop_plain plain inside, List.mem_append] at member
        rcases member with now | next
        · exact insideDestination_of_terminated (by have := first plain; omega) now
        · exact ih (first plain) later next
      · rw [if_neg plain] at length
        rw [length] at later
        rcases Nat.lt_or_ge n (d + 5) with tight | room
        · rw [formatMessageLoop_fill plain inside tight, List.mem_append] at member
          rw [plainEndInside_of_last (by omega)] at later
          rcases member with now | next
          · refine insideDestination_of_short ?_ now
            rw [List.length_replicate]
            omega
          · exact ih (by omega) ((plainEndInside_of_last (by omega)).mpr later) next
        · rcases Nat.eq_or_lt_of_le room with last | room
          · rw [formatMessageLoop_cut plain last, List.mem_append] at member
            rcases member with now | next
            · refine insideDestination_of_terminated ?_ now
              rw [List.length_take, length]
              omega
            · exact ih (by omega) later next
          · rw [formatMessageLoop_escape plain room, List.mem_append] at member
            rcases member with now | next
            · exact insideDestination_of_terminated (by omega) now
            · exact ih (by omega) later next

/-- A byte that is shown as it is in the last cell puts its zero behind the destination. -/
theorem plainEndInside_of_inside {source : List UInt8} (inside : d < n)
    (writes : ∀ write ∈ formatMessageLoop n source d, write.1 < n)
    : PlainEndInside n d source := by
  induction source generalizing d with
  | nil => exact plainEndInside_nil
  | cons c rest ih =>
      have length := length_renderByte c
      rw [plainEndInside_cons]
      by_cases plain : IsPlain c
      · rw [if_pos plain] at length
        rw [formatMessageLoop_plain plain inside] at writes
        have character : d + 1 < n := by
          obtain ⟨shown, single⟩ := List.length_eq_one_iff.mp length
          apply writes (d + 1, 0)
          rw [single, List.singleton_append, writesAt_cons, writesAt_cons]
          simp
        rw [length]
        exact ⟨fun _ => character,
          ih character fun write member => writes write (List.mem_append_right _ member)⟩
      · rw [if_neg plain] at length
        refine ⟨fun shown => absurd shown plain, ?_⟩
        rw [length]
        rcases Nat.lt_or_ge n (d + 5) with tight | room
        · rw [formatMessageLoop_fill plain inside tight] at writes
          have later := ih (show n - 1 < n by omega)
            fun write member => writes write (List.mem_append_right _ member)
          rw [plainEndInside_of_last (by omega)] at later
          exact (plainEndInside_of_last (by omega)).mpr later
        · rcases Nat.eq_or_lt_of_le room with last | room
          · rw [formatMessageLoop_cut plain last] at writes
            exact ih (by omega) fun write member => writes write (List.mem_append_right _ member)
          · rw [formatMessageLoop_escape plain room] at writes
            exact ih (by omega) fun write member => writes write (List.mem_append_right _ member)

/-- A cell that only zeros are written to stays zero. -/
theorem valueAfter_of_zeros {writes : List (Nat × UInt8)} {cell : Nat}
    (zeros : ∀ write ∈ writes, write.1 = cell → write.2 = 0)
    : valueAfter writes 0 cell = 0 := by
  induction writes with
  | nil => rfl
  | cons write later ih =>
      have rest := ih fun other member => zeros other (List.mem_cons_of_mem _ member)
      have first : (if write.1 = cell then write.2 else 0) = 0 := by
        split
        · next same => exact zeros write List.mem_cons_self same
        · rfl
      rw [valueAfter, List.foldl_cons, first]
      exact rest

/-- The destination is left as a string, and nothing behind it is written. -/
structure StaysInDestination (n : Nat) (source : List UInt8) : Prop where
  inside : ∀ write ∈ formatMessageToSign n source, write.1 < n
  terminated : (0 : UInt8) ∈ cellsAfter (formatMessageToSign n source) n

/-- The renderer stays in a destination of any length, and terminates it, exactly if every
white-space or printable byte of the source ends in front of the last cell.
-/
theorem staysInDestination_iff (source : List UInt8) (nonempty : 1 ≤ n)
    : StaysInDestination n source
      ↔ ∀ front c rest,
          source = front ++ c :: rest → IsPlain c → (rendering (front ++ [c])).length < n := by
  have places
      : PlainEndInside n 0 source
        ↔ ∀ front c rest,
            source = front ++ c :: rest → IsPlain c → (rendering (front ++ [c])).length < n := by
    simp only [PlainEndInside, Nat.zero_add]
  rw [← places]
  constructor
  · intro stays
    exact plainEndInside_of_inside nonempty stays.inside
  · intro ends
    constructor
    · intro write member
      exact (insideDestination_of_plainEndInside nonempty ends member).1
    · rw [cellsAfter, List.mem_map]
      refine ⟨n - 1, List.mem_range.mpr (by omega), ?_⟩
      apply valueAfter_of_zeros
      intro write member place
      exact (insideDestination_of_plainEndInside nonempty ends member).2 (by omega)

/-- The six characters of the greeting in a destination of seven cells. -/
theorem staysInDestination_iff_sample : 1 ≤ 7 ∧ StaysInDestination 7 greeting.message := by
  refine ⟨by decide, (staysInDestination_iff greeting.message (by decide)).mpr ?_⟩
  intro front c rest split plain
  have whole : (rendering greeting.message).length = 6 := by decide
  rw [split, ← List.singleton_append, ← List.append_assoc, rendering_append, List.length_append]
    at whole
  omega

theorem length_rendering_of_plain {message : List UInt8} (plain : ∀ c ∈ message, IsPlain c)
    : (rendering message).length = message.length := by
  induction message with
  | nil => rfl
  | cons c rest ih =>
      obtain ⟨first, later⟩ := List.forall_mem_cons.mp plain
      rw [rendering_cons, List.length_append, length_renderByte, if_pos first, ih later,
        List.length_cons, Nat.add_comm]

/-- The longest message that is admitted where `MAX_MESSAGE_LEN` is 200. -/
def fullMessage : MessagePayload := ⟨0, 0, 0x80000000, List.replicate 200 0x41⟩

theorem allowed_fullMessage : fullMessage.Allowed .stax := by
  refine ⟨.inl rfl, UInt32.le_refl _, ?_, ?_⟩
  · rw [fullMessage, List.length_replicate]
    decide
  · rw [fullMessage, List.length_replicate]
    decide

/-- Its characters fill `g_message`, and their terminator is written behind it. -/
theorem message_text_leaves_destination
    : fullMessage.Allowed .stax
      ∧ ¬ StaysInDestination (messageDestLen .stax .nbgl) fullMessage.message := by
  refine ⟨allowed_fullMessage, fun stays => ?_⟩
  have size : messageDestLen .stax .nbgl = 200 := rfl
  rw [size] at stays
  have ends := plainEndInside_of_inside (by decide) stays.inside
  have letter : IsPlain 0x41 := by decide
  have last := ends (List.replicate 199 0x41) 0x41 [] List.replicate_succ' letter
  rw [length_rendering_of_plain, List.length_append, List.length_replicate] at last
  · simp at last
  · intro c member
    rcases List.mem_append.mp member with front | single
    · exact List.eq_of_mem_replicate front ▸ letter
    · exact List.mem_singleton.mp single ▸ letter

end KaspaApp
