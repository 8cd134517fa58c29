import KaspaApp.Messages.Destination

/-! The text that is shown of a message that is longer than its destination. It ends in one of
four ways: behind the bytes that have room, inside an escape, in the spaces that fill the
destination, or with a byte from behind an escape that was left out.
-/

namespace KaspaApp

variable {n d : Nat} {front : List UInt8} {c : UInt8}

/-- Storing characters behind a string extends the string, the cells behind being zero. -/
theorem Spells.fill {writes : List (Nat × UInt8)} {text : List UInt8}
    (spells : Spells writes text) (chars : List UInt8)
    : Spells (writes ++ writesAt text.length chars) (text ++ chars) := by
  intro cell
  rw [valueAfter_append, spells cell]
  rcases Nat.lt_or_ge cell text.length with inside | behind
  · rw [valueAfter_of_other, List.getElem?_append_left inside]
    intro write member
    have bound := le_of_mem_writesAt member
    omega
  · rw [valueAfter_writesAt behind, List.getElem?_append_right behind,
      List.getElem?_eq_none behind, Option.getD_none]

/-- Bytes that all have room are stored before the others are looked at. -/
theorem formatMessageLoop_append (all : fitting n front d = front) (rest : List UInt8)
    : formatMessageLoop n (front ++ rest) d
      = formatMessageLoop n front d
        ++ formatMessageLoop n rest (d + (rendering front).length) := by
  induction front generalizing d with
  | nil => rfl
  | cons c front ih =>
      rw [fitting] at all
      by_cases fits : Fits n d c
      · rw [if_pos fits] at all
        rw [List.cons_append, formatMessageLoop_of_fits fits, formatMessageLoop_of_fits fits,
          ih (List.cons.inj all).2, rendering_cons, List.length_append, List.append_assoc,
          Nat.add_assoc]
      · rw [if_neg fits] at all
        cases all

/-- The writes of a source whose front has room. -/
theorem formatMessageToSign_append (all : fitting n front 0 = front) (rest : List UInt8)
    : formatMessageToSign n (front ++ rest)
      = formatMessageToSign n front ++ formatMessageLoop n rest (rendering front).length := by
  rw [formatMessageToSign, formatMessageLoop_append all, Nat.zero_add]
  rfl

/-- The text ends behind the bytes that have room. -/
theorem messageText_of_nothing (all : fitting n front 0 = front) {rest : List UInt8}
    (nothing : formatMessageLoop n rest (rendering front).length = [])
    : messageText n (front ++ rest) = rendering front := by
  obtain ⟨spells, room⟩ := spells_of_fitting all
  apply messageText_of_spells room fun char member => ne_zero_of_mem_rendering member
  rw [formatMessageToSign_append all, nothing, List.append_nil]
  exact spells

theorem ne_zero_of_mem_append {left right : List UInt8} (leftNonzero : ∀ char ∈ left, char ≠ 0)
    (rightNonzero : ∀ char ∈ right, char ≠ 0)
    : ∀ char ∈ left ++ right, char ≠ 0 := by
  intro char member
  rcases List.mem_append.mp member with first | second
  · exact leftNonzero char first
  · exact rightNonzero char second

theorem ne_zero_of_mem_renderByte (c : UInt8) : ∀ char ∈ renderByte c, char ≠ 0 := by
  intro char member
  apply @ne_zero_of_mem_rendering [c]
  rw [rendering_cons]
  exact List.mem_append_left _ member

theorem ne_zero_of_mem_spaces (count : Nat)
    : ∀ char ∈ List.replicate count (0x20 : UInt8), char ≠ 0 := by
  intro char member
  rw [List.eq_of_mem_replicate member]
  decide

/-- The text ends inside an escape that has one cell too few. -/
theorem messageText_of_cut (all : fitting n front 0 = front) (escape : ¬ IsPlain c)
    (last : (rendering front).length + 5 = n) (later : List UInt8)
    : messageText n (front ++ c :: later) = rendering front ++ (renderByte c).take 3 := by
  obtain ⟨spells, -⟩ := spells_of_fitting all
  have length := length_renderByte c
  rw [if_neg escape] at length
  have shown
      : (rendering front ++ (renderByte c).take 3).length = (rendering front).length + 3 := by
    rw [List.length_append, List.length_take, length]
    rfl
  apply messageText_of_cells (by omega)
  · refine ne_zero_of_mem_append (fun char member => ne_zero_of_mem_rendering member) ?_
    exact fun char member => ne_zero_of_mem_renderByte c char (List.mem_of_mem_take member)
  · intro cell inside
    rw [formatMessageToSign_append all, formatMessageLoop_cut escape last, ← List.append_assoc,
      valueAfter_append, valueAfter_of_other]
    · exact spells.extend _ cell
    · intro write member
      have behind := le_of_mem_formatMessageLoop member
      omega

/-- Escapes leave the last cell as it is. -/
theorem formatMessageLoop_of_escapes {later : List UInt8} (last : d + 1 = n)
    (escapes : ∀ c ∈ later, ¬ IsPlain c)
    : formatMessageLoop n later d = [] := by
  induction later with
  | nil => rfl
  | cons c later ih =>
      obtain ⟨escape, rest⟩ := List.forall_mem_cons.mp escapes
      have none : n - d - 1 = 0 := by omega
      have same : n - 1 = d := by omega
      rw [formatMessageLoop_fill escape (by omega) (by omega), none, same, ih rest]
      rfl

/-- The first byte behind them that is shown as it is takes the last cell. -/
theorem formatMessageLoop_of_plain {later : List UInt8} (last : d + 1 = n)
    (plain : ∃ c ∈ later, IsPlain c)
    : ∃ c, IsPlain c ∧ formatMessageLoop n later d = writesAt d (renderByte c ++ [0]) := by
  induction later with
  | nil => simp at plain
  | cons c later ih =>
      by_cases shown : IsPlain c
      · refine ⟨c, shown, ?_⟩
        rw [formatMessageLoop_plain shown (by omega),
          formatMessageLoop_of_full later (Nat.le_of_eq last.symm), List.append_nil]
      · obtain ⟨found, member, isPlain⟩ := plain
        have behind : found ∈ later := by
          rcases List.mem_cons.mp member with rfl | behind
          · exact absurd isPlain shown
          · exact behind
        obtain ⟨character, characterPlain, writes⟩ := ih ⟨found, behind, isPlain⟩
        refine ⟨character, characterPlain, ?_⟩
        have none : n - d - 1 = 0 := by omega
        have same : n - 1 = d := by omega
        rw [formatMessageLoop_fill shown (by omega) (by omega), none, same, writes]
        rfl

/-- The text ends in the spaces that an escape without room leaves. -/
theorem messageText_of_filled (all : fitting n front 0 = front) (escape : ¬ IsPlain c)
    (inside : (rendering front).length < n) (tight : n < (rendering front).length + 5)
    {later : List UInt8} (escapes : ∀ c ∈ later, ¬ IsPlain c)
    : messageText n (front ++ c :: later)
      = rendering front ++ List.replicate (n - (rendering front).length - 1) 0x20 := by
  obtain ⟨spells, -⟩ := spells_of_fitting all
  apply messageText_of_spells
  · rw [List.length_append, List.length_replicate]
    omega
  · exact ne_zero_of_mem_append (fun char member => ne_zero_of_mem_rendering member)
      (ne_zero_of_mem_spaces _)
  · rw [formatMessageToSign_append all, formatMessageLoop_fill escape inside tight,
      formatMessageLoop_of_escapes (by omega) escapes, List.append_nil]
    exact spells.fill _

/-- The text ends with a byte from behind the escape, in the last cell. -/
theorem messageText_of_passed (all : fitting n front 0 = front) (escape : ¬ IsPlain c)
    (inside : (rendering front).length < n) (tight : n < (rendering front).length + 5)
    {later : List UInt8} (plain : ∃ c ∈ later, IsPlain c)
    : ∃ character,
        IsPlain character
        ∧ messageText n (front ++ c :: later)
          = rendering front ++ List.replicate (n - (rendering front).length - 1) 0x20
            ++ renderByte character := by
  obtain ⟨spells, -⟩ := spells_of_fitting all
  obtain ⟨character, shown, writes⟩ :=
    @formatMessageLoop_of_plain n (n - 1) later (by omega) plain
  have filled
      : (rendering front ++ List.replicate (n - (rendering front).length - 1) 0x20).length
        = n - 1 := by
    rw [List.length_append, List.length_replicate]
    omega
  refine ⟨character, shown, ?_⟩
  apply messageText_of_spells
  · rw [List.length_append, filled, length_renderByte, if_pos shown]
    omega
  · refine ne_zero_of_mem_append ?_ (ne_zero_of_mem_renderByte character)
    exact ne_zero_of_mem_append (fun char member => ne_zero_of_mem_rendering member)
      (ne_zero_of_mem_spaces _)
  · have extended :=
      (spells.fill (List.replicate (n - (rendering front).length - 1) 0x20)).extend
        (renderByte character)
    rw [filled] at extended
    rw [formatMessageToSign_append all, formatMessageLoop_fill escape inside tight, writes,
      ← List.append_assoc]
    exact extended

/-- A part at the front has room where the whole has. -/
theorem fitting_of_append {rest : List UInt8} (all : fitting n (front ++ rest) d = front ++ rest)
    : fitting n front d = front := by
  induction front generalizing d with
  | nil => rfl
  | cons c front ih =>
      rw [List.cons_append, fitting] at all
      by_cases fits : Fits n d c
      · rw [if_pos fits] at all
        rw [fitting, if_pos fits, ih (List.cons.inj all).2]
      · rw [if_neg fits] at all
        cases all

/-- Bytes have room if they end in the destination and each escape among them has. -/
theorem fitting_of_escapes (inside : d + (rendering front).length ≤ n)
    (escapes
      : ∀ before c after,
          front = before ++ c :: after → ¬ IsPlain c → d + (rendering before).length + 6 ≤ n)
    : fitting n front d = front := by
  induction front generalizing d with
  | nil => rfl
  | cons c front ih =>
      have length := length_renderByte c
      rw [rendering_cons, List.length_append] at inside
      have fits : Fits n d c := by
        rw [Fits]
        split
        · next plain =>
            rw [if_pos plain] at length
            omega
        · next escape => exact escapes [] c front rfl escape
      have later := ih (d := d + (renderByte c).length) (by omega) ?_
      · rw [fitting, if_pos fits, later]
      · intro before other after split escape
        have room := escapes (c :: before) other after (by rw [split, List.cons_append]) escape
        rw [rendering_cons, List.length_append] at room
        omega

/-- A source begins with the bytes that have room, and goes on with one that has none. -/
theorem exists_omitted (n : Nat) (source : List UInt8) (d : Nat)
    : ∃ omitted,
        source = fitting n source d ++ omitted
        ∧ fitting n (fitting n source d) d = fitting n source d
        ∧ ∀ c later,
            omitted = c :: later → ¬ Fits n (d + (rendering (fitting n source d)).length) c := by
  induction source generalizing d with
  | nil => exact ⟨[], rfl, rfl, fun c later split => by cases split⟩
  | cons c rest ih =>
      by_cases fits : Fits n d c
      · obtain ⟨omitted, split, all, stops⟩ := ih (d + (renderByte c).length)
        have next : fitting n (c :: rest) d = c :: fitting n rest (d + (renderByte c).length) := by
          rw [fitting, if_pos fits]
        rw [next]
        refine ⟨omitted, ?_, ?_, ?_⟩
        · rw [List.cons_append, ← split]
        · rw [fitting, if_pos fits, all]
        · rw [rendering_cons, List.length_append, ← Nat.add_assoc]
          exact stops
      · have next : fitting n (c :: rest) d = [] := by rw [fitting, if_neg fits]
        rw [next]
        refine ⟨c :: rest, rfl, rfl, ?_⟩
        intro other later split
        obtain ⟨rfl, rfl⟩ := List.cons.inj split
        exact fits

/-- The text of a source shows some of its first bytes, and no trace of the others but spaces:
none is left out where the whole rendering has room, and what follows the first one that is left
out makes no difference.
-/
structure ShowsFront (n : Nat) (source shown omitted : List UInt8) : Prop where
  split : source = shown ++ omitted
  text
    : ∃ padding, messageText n source = rendering shown ++ List.replicate padding 0x20
  whole : (rendering source).length < n → omitted = []
  nothingLater
    : ∀ c later, omitted = c :: later → messageText n source = messageText n (shown ++ [c])

/-- No escape begins with five cells left, and no byte that is shown as it is follows an escape
that begins with one to four cells left, both counted in the rendering of the whole source.
-/
structure EndsClean (n : Nat) (source : List UInt8) : Prop where
  uncut
    : ∀ front c rest,
        source = front ++ c :: rest → ¬ IsPlain c → (rendering front).length + 5 ≠ n
  last
    : ∀ front c rest,
        source = front ++ c :: rest → ¬ IsPlain c
        → (rendering front).length < n → n < (rendering front).length + 5
        → ∀ later ∈ rest, ¬ IsPlain later

/-- A clean end shows the bytes that have room. -/
theorem showsFront_of_endsClean {source : List UInt8} (clean : EndsClean n source)
    : ∃ shown omitted, ShowsFront n source shown omitted := by
  obtain ⟨omitted, split, all, stops⟩ := exists_omitted n source 0
  rw [Nat.zero_add] at stops
  generalize fitting n source 0 = front at split all stops
  subst split
  cases omitted with
  | nil =>
      have text := @messageText_of_nothing n front all [] rfl
      exact ⟨front, [], rfl, ⟨0, by rw [text, List.replicate_zero, List.append_nil]⟩,
        fun _ => rfl, fun c later split => by cases split⟩
  | cons c later =>
      have unfit := stops c later rfl
      have length
          : (rendering (front ++ c :: later)).length
            = (rendering front).length + ((renderByte c).length + (rendering later).length) := by
        rw [rendering_append, rendering_cons, List.length_append, List.length_append]
      rcases Nat.lt_or_ge (rendering front).length n with inside | full
      · -- only an escape lacks room in a destination that is not full
        have escape : ¬ IsPlain c := by
          intro plain
          rw [Fits, if_pos plain] at unfit
          exact unfit inside
        rw [Fits, if_neg escape] at unfit
        rw [length_renderByte, if_neg escape] at length
        have uncut := clean.uncut front c later rfl escape
        have tight : n < (rendering front).length + 5 := by omega
        have escapes := clean.last front c later rfl escape inside tight
        have text := messageText_of_filled all escape inside tight escapes
        have alone := @messageText_of_filled n front c all escape inside tight [] (by simp)
        refine ⟨front, c :: later, rfl, ⟨_, text⟩, fun short => by omega, ?_⟩
        intro first others split
        obtain ⟨rfl, rfl⟩ := List.cons.inj split
        rw [text, alone]
      · have text (rest : List UInt8) : messageText n (front ++ rest) = rendering front :=
          messageText_of_nothing all (formatMessageLoop_of_full rest full)
        refine ⟨front, c :: later, rfl, ⟨0, ?_⟩, fun short => by omega, ?_⟩
        · rw [text, List.replicate_zero, List.append_nil]
        · intro first others split
          rw [text, text]

/-- The first character of an escape. -/
theorem getElem?_escape (escape : ¬ IsPlain c) (rest : List UInt8)
    : (renderByte c ++ rest)[0]? = some 0x5c := by
  obtain ⟨space, print⟩ := not_isPlain_iff.mp escape
  simp [renderByte, space, print]

/-- A front of the source that is shown does not reach an escape whose rendering is not. -/
theorem shown_within_front {source shown omitted rest : List UInt8}
    (shows : ShowsFront n source shown omitted) (split : source = front ++ c :: rest)
    (escape : ¬ IsPlain c)
    (other
      : (messageText n source).length < (rendering front).length + 4
        ∨ (messageText n source)[(rendering front).length]? ≠ some 0x5c)
    : ∃ between, front = shown ++ between ∧ omitted = between ++ c :: rest := by
  have same := shows.split.symm.trans split
  rcases List.append_eq_append_iff.mp same
    with ⟨between, within, behind⟩ | ⟨between, beyond, behind⟩
  · exact ⟨between, within, behind⟩
  · cases between with
    | nil => exact ⟨[], by rw [beyond, List.append_nil, List.append_nil], behind.symm⟩
    | cons first between =>
        obtain ⟨rfl, -⟩ := List.cons.inj behind
        obtain ⟨padding, text⟩ := shows.text
        rw [text, beyond, rendering_append, rendering_cons, List.append_assoc] at other
        rcases other with short | different
        · simp only [List.length_append, length_renderByte, if_neg escape] at short
          omega
        · rw [List.getElem?_append_right (Nat.le_refl _), Nat.sub_self, List.append_assoc,
            getElem?_escape escape] at different
          exact absurd rfl different

/-- No escape is cut. -/
theorem uncut_of_showsFront {source shown omitted : List UInt8}
    (shows : ShowsFront n source shown omitted) (front : List UInt8) (c : UInt8)
    (rest : List UInt8) (split : source = front ++ c :: rest) (escape : ¬ IsPlain c)
    : (rendering front).length + 5 ≠ n := by
  intro last
  have all : fitting n front 0 = front := by
    apply fitting_of_escapes (by omega)
    rintro before other after rfl otherEscape
    rw [rendering_append, rendering_cons, List.length_append, List.length_append,
      length_renderByte, if_neg otherEscape] at last
    omega
  have text := messageText_of_cut all escape last rest
  rw [← split] at text
  have length := length_renderByte c
  rw [if_neg escape] at length
  have short : (messageText n source).length < (rendering front).length + 4 := by
    rw [text, List.length_append, List.length_take, length]
    omega
  obtain ⟨between, rfl, -⟩ := shown_within_front shows split escape (.inl short)
  -- the text goes on with a backslash where it should end or be filled
  obtain ⟨padding, padded⟩ := shows.text
  rw [rendering_append] at text
  have places : rendering between ++ (renderByte c).take 3 = List.replicate padding 0x20 := by
    rw [padded, List.append_assoc] at text
    exact (List.append_cancel_left text).symm
  have backslash : (0x5c : UInt8) ∈ (renderByte c).take 3 := by
    have first := getElem?_escape escape []
    rw [List.append_nil] at first
    apply List.mem_of_getElem? (i := 0)
    rw [List.getElem?_take_of_lt (by decide), first]
  have space : (0x5c : UInt8) ∈ List.replicate padding 0x20 := by
    rw [← places]
    exact List.mem_append_right _ backslash
  exact absurd (List.eq_of_mem_replicate space) (by decide)

/-- No byte from behind an escape that is left out is shown. -/
theorem last_of_showsFront {source shown omitted : List UInt8}
    (shows : ShowsFront n source shown omitted) (front : List UInt8) (c : UInt8)
    (rest : List UInt8) (split : source = front ++ c :: rest) (escape : ¬ IsPlain c)
    (inside : (rendering front).length < n) (tight : n < (rendering front).length + 5)
    : ∀ later ∈ rest, ¬ IsPlain later := by
  intro later member plain
  have all : fitting n front 0 = front := by
    apply fitting_of_escapes (by omega)
    rintro before other after rfl otherEscape
    have uncut := uncut_of_showsFront shows before other (after ++ c :: rest)
      (by rw [split, List.append_assoc, List.cons_append]) otherEscape
    rw [rendering_append, rendering_cons, List.length_append, List.length_append,
      length_renderByte, if_neg otherEscape] at inside
    omega
  obtain ⟨character, shownPlain, text⟩ :=
    messageText_of_passed all escape inside tight ⟨later, member, plain⟩
  rw [← split] at text
  have length : (messageText n source).length = n := by
    rw [text, List.length_append, List.length_append, List.length_replicate, length_renderByte,
      if_pos shownPlain]
    omega
  have other
      : (messageText n source).length < (rendering front).length + 4
        ∨ (messageText n source)[(rendering front).length]? ≠ some 0x5c := by
    rcases Nat.lt_or_ge n ((rendering front).length + 4) with short | long
    · exact .inl (length.trans_lt short)
    · right
      have filled : n - (rendering front).length - 1 = 3 := by omega
      rw [text, filled, List.append_assoc, List.getElem?_append_right (Nat.le_refl _), Nat.sub_self]
      simp [List.replicate]
  obtain ⟨between, rfl, behind⟩ := shown_within_front shows split escape other
  -- the text without what follows the first byte that is left out is shorter
  cases between with
  | nil =>
      have same := shows.nothingLater c rest behind
      have alone := @messageText_of_filled n (shown ++ []) c all escape inside tight [] (by simp)
      rw [List.append_nil] at alone
      rw [same, alone, List.length_append, List.length_replicate] at length
      simp only [List.append_nil] at inside length
      omega
  | cons first between =>
      have same := shows.nothingLater first (between ++ c :: rest) behind
      have fits : fitting n (shown ++ [first]) 0 = shown ++ [first] := by
        apply @fitting_of_append n 0 _ between
        rwa [List.append_assoc, List.singleton_append]
      have alone := @messageText_of_nothing n (shown ++ [first]) fits [] rfl
      rw [List.append_nil] at alone
      rw [same, alone] at length
      rw [rendering_append, List.length_append] at length
      rw [rendering_append, rendering_cons, List.length_append, List.length_append] at inside
      rw [rendering_cons, List.length_append] at length
      simp only [rendering, List.flatMap_nil, List.length_nil] at length inside
      omega

/-- The text of a source shows its front and nothing else exactly if it ends clean. -/
theorem showsFront_iff (n : Nat) (source : List UInt8)
    : (∃ shown omitted, ShowsFront n source shown omitted) ↔ EndsClean n source := by
  constructor
  · rintro ⟨shown, omitted, shows⟩
    exact ⟨uncut_of_showsFront shows, last_of_showsFront shows⟩
  · exact showsFront_of_endsClean

/-- Letters, and a byte that is shown as an escape. -/
def cutMessage : MessagePayload := ⟨0, 0, 0x80000000, List.replicate 195 0x41 ++ [0x01]⟩

/-- Letters, a byte that is shown as an escape, and one more letter. -/
def passedMessage : MessagePayload :=
  ⟨0, 0, 0x80000000, List.replicate 197 0x41 ++ [0x01, 0x42]⟩

theorem length_rendering_letters (count : Nat)
    : (rendering (List.replicate count 0x41)).length = count := by
  rw [length_rendering_of_plain, List.length_replicate]
  intro c member
  rw [List.eq_of_mem_replicate member]
  decide

/-- The first text ends inside the escape, the second shows the last letter behind two spaces. -/
theorem message_texts_end_unclean
    : cutMessage.Allowed .stax
      ∧ passedMessage.Allowed .stax
      ∧ (¬ ∃ shown omitted,
          ShowsFront (messageDestLen .stax .nbgl) cutMessage.message shown omitted)
      ∧ ¬ ∃ shown omitted,
          ShowsFront (messageDestLen .stax .nbgl) passedMessage.message shown omitted := by
  have size : messageDestLen .stax .nbgl = 200 := rfl
  have escape : ¬ IsPlain 0x01 := by decide
  have letter : IsPlain 0x42 := by decide
  have cutLength : cutMessage.message.length = 196 := by
    rw [cutMessage, List.length_append, List.length_replicate]
    rfl
  have passedLength : passedMessage.message.length = 199 := by
    rw [passedMessage, List.length_append, List.length_replicate]
    rfl
  refine ⟨?_, ?_, ?_, ?_⟩
  · refine ⟨.inl rfl, UInt32.le_refl _, ?_, ?_⟩
    · rw [cutLength]
      decide
    · rw [cutLength]
      decide
  · refine ⟨.inl rfl, UInt32.le_refl _, ?_, ?_⟩
    · rw [passedLength]
      decide
    · rw [passedLength]
      decide
  · rintro ⟨shown, omitted, shows⟩
    refine uncut_of_showsFront shows (List.replicate 195 0x41) 0x01 [] rfl escape ?_
    rw [length_rendering_letters, size]
  · rintro ⟨shown, omitted, shows⟩
    refine last_of_showsFront shows (List.replicate 197 0x41) 0x01 [0x42] rfl escape ?_ ?_ 0x42
      (List.mem_singleton_self 0x42) letter
    · rw [length_rendering_letters, size]
      decide
    · rw [length_rendering_letters, size]
      decide

end KaspaApp
