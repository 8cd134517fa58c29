import KaspaApp.Blake2b.Reference
import KaspaApp.Library.SharedScratch
import Mathlib.Tactic.Choose

/-! Hash contexts that share `b2bg_cx`. Calls on any number of contexts, in any order, give each
context the results that its own calls mean, and leave no key and no digest in the scratch.
-/

namespace KaspaApp.Blake2b

/-- The calls of `blake2b.h` on a context. The output buffer of `final` comes with its contents. -/
inductive Call where
  | init (outlen : Nat)
  | initKey (outlen : Nat) (key : List UInt8)
  | update (data : List UInt8)
  | final (size : Nat) (out : Bytes size) (outlen : Nat)

/-- What a call returns: `none` for -1, or the contents of the output buffer. -/
abbrev CallResult := Option (List UInt8)

/-- A call on a context. -/
def Call.run (cx : Globals) (S : State) : Call → CallResult × State × Globals
  | .init outlen =>
      match Blake2b.init outlen with
      | none => (none, S, cx)
      | some S => (some [], S, cx)
  | .initKey outlen key =>
      match Blake2b.initKey cx outlen key key.length with
      | (none, cx) => (none, S, cx)
      | (some S, cx) => (some [], S, cx)
  | .update data =>
      let (S, cx) := Blake2b.update cx S data
      (some [], S, cx)
  | .final _ out outlen =>
      let (written, S, cx) := Blake2b.final cx S out outlen
      (written.map Vector.toList, S, cx)

def contexts : SharedScratch.Implementation Globals State Call CallResult where
  run cx S call := call.run cx S

-----------------------------------------------------------------------------------------
-- What the calls mean
-----------------------------------------------------------------------------------------

/-- A hash, without buffers and chaining values. -/
inductive HashObject where
  | unused
  | absorbing (outlen : Nat) (key data : List UInt8)
  | finished

/-- Only a hash that has been started can be used, and it gives its digest once. -/
def HashObject.run : HashObject → Call → Option (CallResult × HashObject)
  | object, .init outlen =>
      if outlen = 0 ∨ outlen > outBytes then some (none, object)
      else some (some [], .absorbing outlen [] [])
  | object, .initKey outlen key =>
      if outlen = 0 ∨ outlen > outBytes ∨ key = [] ∨ key.length > keyBytes then
        some (none, object)
      else
        some (some [], .absorbing outlen key [])
  | .unused, _ => none
  | .absorbing outlen key data, .update more => some (some [], .absorbing outlen key (data ++ more))
  | .absorbing outlen key data, .final _ out room =>
      if room < outlen then
        some (none, .absorbing outlen key data)
      else
        some (some (Memory.copy out (hash outlen key data)).toList, .finished)
  | .finished, .update _ => some (some [], .finished)
  | .finished, .final _ _ _ => some (none, .finished)

def hashObjects : SharedScratch.Meaning HashObject Call CallResult where
  run := HashObject.run

/-- The states of a context that stand for a hash. -/
def HashObject.Represents : HashObject → State → Prop
  | .unused, _ => True
  | .absorbing outlen key data, S =>
      Absorbed outlen (initialChain outlen key.length) (keyBlock key ++ data) S
  | .finished, S => S.buflen ≤ blockBytes ∧ isLastblock S = true

/-- A context that has given its digest refuses to give another one. -/
theorem final_finished {size : Nat} {S : State} (finished : isLastblock S = true) (cx : Globals)
    (out : Bytes size) (outlen : Nat)
    : final cx S out outlen = (none, S, { cx with buffer := Bytes.zero outBytes }) := by
  rw [final]
  by_cases short : outlen < S.outlen
  · rw [if_pos short]
  · rw [if_neg short, if_pos finished]

/-- A buffer without room for the digest is refused. -/
theorem final_short {size : Nat} {S : State} (cx : Globals) (out : Bytes size) {outlen : Nat}
    (short : outlen < S.outlen)
    : final cx S out outlen = (none, S, { cx with buffer := Bytes.zero outBytes }) := by
  rw [final, if_pos short]

theorem isLastblock_setLastblock (S : State) : isLastblock (setLastblock S) = true := by
  have marked (f : Vector UInt64 2) : ((f.setIfInBounds 0 (0 - 1)).get 0 != 0) = true := by
    have cell : (f.setIfInBounds 0 (0 - 1)).get 0 = 0 - 1 :=
      Memory.get_setIfInBounds_self f 0 (0 - 1)
    rw [cell]
    decide
  exact marked _

/-- A digest that has been given marks its context. -/
theorem final_marks {size : Nat} {S : State} (cx : Globals) (out : Bytes size) {outlen : Nat}
    (fits : S.outlen ≤ outlen)
    : (final cx S out outlen).2.1.buflen = S.buflen
      ∧ isLastblock (final cx S out outlen).2.1 = true := by
  by_cases finished : isLastblock S = true
  · rw [final_finished finished]
    exact ⟨rfl, finished⟩
  · rw [final, if_neg (by omega), if_neg finished]
    simp only [compress_eq]
    refine ⟨?_, isLastblock_setLastblock _⟩
    rw [setLastblock]
    split <;> rfl

/-- The two ways to start a hash, on a context in any state. -/
theorem init_implements {object after : HashObject} {S : State} {outlen : Nat}
    {result : CallResult} (represented : object.Represents S)
    (meant : object.run (.init outlen) = some (result, after)) (cx : Globals)
    : ∃ next left,
        Call.run cx S (.init outlen) = (result, next, left) ∧ after.Represents next := by
  rw [HashObject.run] at meant
  by_cases refused : outlen = 0 ∨ outlen > outBytes
  · rw [if_pos refused] at meant
    obtain ⟨rfl, rfl⟩ := Prod.mk.inj (Option.some.inj meant)
    refine ⟨S, cx, ?_, represented⟩
    simp only [Call.run, init, if_pos refused]
  · rw [if_neg refused] at meant
    obtain ⟨rfl, rfl⟩ := Prod.mk.inj (Option.some.inj meant)
    obtain ⟨next, started, absorbed⟩
        : ∃ next, Blake2b.init outlen = some next
            ∧ Absorbed outlen (initialChain outlen 0) [] next :=
      absorbed_init (by omega) (by omega)
    refine ⟨next, cx, ?_, absorbed⟩
    simp only [Call.run, started]

theorem initKey_implements {object after : HashObject} {S : State} {outlen : Nat}
    {key : List UInt8} {result : CallResult} (represented : object.Represents S)
    (meant : object.run (.initKey outlen key) = some (result, after)) (cx : Globals)
    : ∃ next left,
        Call.run cx S (.initKey outlen key) = (result, next, left) ∧ after.Represents next := by
  rw [HashObject.run] at meant
  by_cases refused : outlen = 0 ∨ outlen > outBytes ∨ key = [] ∨ key.length > keyBytes
  · rw [if_pos refused] at meant
    obtain ⟨rfl, rfl⟩ := Prod.mk.inj (Option.some.inj meant)
    refine ⟨S, cx, ?_, represented⟩
    rw [← List.length_eq_zero_iff] at refused
    by_cases length : outlen = 0 ∨ outlen > outBytes
    · simp only [Call.run, initKey, if_pos length]
    · simp only [Call.run, initKey, if_neg length,
        if_pos (by omega : key.length = 0 ∨ key.length > keyBytes)]
  · rw [if_neg refused] at meant
    obtain ⟨rfl, rfl⟩ := Prod.mk.inj (Option.some.inj meant)
    rw [← List.length_eq_zero_iff] at refused
    obtain ⟨next, started, absorbed⟩
        : ∃ next, (Blake2b.initKey cx outlen key key.length).1 = some next
            ∧ Absorbed outlen (initialChain outlen key.length) (keyBlock (key.take key.length))
                next :=
      absorbed_initKey cx (by omega) (by omega) (by omega) (by omega) (Nat.le_refl key.length)
    obtain ⟨left, split⟩
        : ∃ left, Blake2b.initKey cx outlen key key.length = (some next, left) :=
      ⟨_, Prod.ext started rfl⟩
    refine ⟨next, left, ?_, ?_⟩
    · simp only [Call.run, split]
    · rw [List.take_length] at absorbed
      rw [HashObject.Represents, List.append_nil]
      exact absorbed

/-- A hash that is still open absorbs, and gives its digest where there is room. -/
theorem final_implements {after : HashObject} {S : State} {outlen room size : Nat}
    {key given : List UInt8} {out : Bytes size} {result : CallResult}
    (represented : (HashObject.absorbing outlen key given).Represents S)
    (meant
      : (HashObject.absorbing outlen key given).run (.final size out room)
        = some (result, after))
    (cx : Globals)
    : ∃ next left,
        Call.run cx S (.final size out room) = (result, next, left) ∧ after.Represents next := by
  rw [HashObject.run] at meant
  by_cases short : room < outlen
  · rw [if_pos short] at meant
    obtain ⟨rfl, rfl⟩ := Prod.mk.inj (Option.some.inj meant)
    refine ⟨S, { cx with buffer := Bytes.zero outBytes }, ?_, represented⟩
    simp only [Call.run, final_short cx out (represented.outlen.symm ▸ short), Option.map_none]
  · rw [if_neg short] at meant
    obtain ⟨rfl, rfl⟩ := Prod.mk.inj (Option.some.inj meant)
    have fits : outlen ≤ room := Nat.le_of_not_lt short
    obtain ⟨buflen, marked⟩ := final_marks cx out (represented.outlen.trans_le fits)
    refine ⟨(Blake2b.final cx S out room).2.1, (Blake2b.final cx S out room).2.2, ?_,
      buflen.trans_le represented.within, marked⟩
    simp only [Call.run, represented.final cx out fits, Option.map_some]
    rfl

theorem contexts_implement
    : SharedScratch.Implements contexts hashObjects HashObject.Represents := by
  intro object S call result after represented meant cx
  cases call with
  | init outlen => exact init_implements represented meant cx
  | initKey outlen key => exact initKey_implements represented meant cx
  | update data =>
      cases object with
      | unused => exact absurd meant (by simp [hashObjects, HashObject.run])
      | absorbing outlen key given =>
          obtain ⟨rfl, rfl⟩ := Prod.mk.inj (Option.some.inj meant)
          refine ⟨(Blake2b.update cx S data).1, (Blake2b.update cx S data).2, rfl, ?_⟩
          rw [HashObject.Represents, ← List.append_assoc]
          exact Absorbed.update represented cx data
      | finished =>
          obtain ⟨rfl, rfl⟩ := Prod.mk.inj (Option.some.inj meant)
          obtain ⟨within, marked⟩ := represented
          have absorbs := update_absorbs cx data within
          refine ⟨(Blake2b.update cx S data).1, (Blake2b.update cx S data).2, rfl,
            absorbs.within, ?_⟩
          rw [isLastblock, absorbs.f]
          exact marked
  | final size out room =>
      cases object with
      | unused => exact absurd meant (by simp [hashObjects, HashObject.run])
      | absorbing outlen key given => exact final_implements represented meant cx
      | finished =>
          obtain ⟨rfl, rfl⟩ := Prod.mk.inj (Option.some.inj meant)
          refine ⟨S, { cx with buffer := Bytes.zero outBytes }, ?_, represented⟩
          simp only [contexts, Call.run, final_finished represented.2, Option.map_none]

-----------------------------------------------------------------------------------------
-- What stays in the scratch
-----------------------------------------------------------------------------------------

/-- The parts of the scratch that held a key and a digest are zero. -/
structure Globals.Wiped (cx : Globals) : Prop where
  buffer : cx.buffer = Bytes.zero outBytes
  block1 : cx.block1 = Bytes.zero blockBytes

theorem updateBlocks_keeps (cx : Globals) (S : State) (input : List UInt8)
    : (updateBlocks cx S input).2.1.buffer = cx.buffer
      ∧ (updateBlocks cx S input).2.1.block1 = cx.block1 := by
  induction cx, S, input using updateBlocks.induct with
  | case1 cx S input long counted compressed scratch taken ih =>
      obtain ⟨rfl, rfl⟩ := Prod.mk.inj ((compress_eq cx counted _).symm.trans taken)
      rw [updateBlocks, if_pos long]
      simp only [compress_eq]
      exact ih
  | case2 cx S input short =>
      rw [updateBlocks, if_neg short]
      exact ⟨rfl, rfl⟩

theorem update_keeps (cx : Globals) (S : State) (input : List UInt8)
    : (update cx S input).2.buffer = cx.buffer ∧ (update cx S input).2.block1 = cx.block1 := by
  rw [update]
  by_cases given : 0 < input.length
  · rw [if_pos given]
    by_cases exceeds : input.length > blockBytes - S.buflen
    · simp only [if_pos exceeds, compress_eq]
      exact updateBlocks_keeps _ _ _
    · simp only [if_neg exceeds, and_self]
  · rw [if_neg given]
    exact ⟨rfl, rfl⟩

theorem Globals.Wiped.initKey {cx : Globals} (wiped : cx.Wiped) (outlen : Nat)
    (key : List UInt8) (keylen : Nat)
    : (initKey cx outlen key keylen).2.Wiped := by
  rw [Blake2b.initKey]
  by_cases length : outlen = 0 ∨ outlen > outBytes
  · rwa [if_pos length]
  · rw [if_neg length]
    by_cases keyLength : keylen = 0 ∨ keylen > keyBytes
    · rwa [if_pos keyLength]
    · rw [if_neg keyLength]
      dsimp only
      have kept := (update_keeps
        { cx with block1 := Memory.copy (Bytes.zero blockBytes) (key.take keylen) }
        (initParam (sequentialParam outlen keylen))
        (Memory.copy (Bytes.zero blockBytes) (key.take keylen)).toList).1
      revert kept
      generalize update _ _ _ = updated
      obtain ⟨S, left⟩ := updated
      exact fun kept => ⟨kept.trans wiped.buffer, rfl⟩

theorem Globals.Wiped.final {cx : Globals} (wiped : cx.Wiped) {size : Nat} (S : State)
    (out : Bytes size) (outlen : Nat)
    : (final cx S out outlen).2.2.Wiped := by
  by_cases short : outlen < S.outlen
  · rw [final_short cx out short]
    exact ⟨rfl, wiped.block1⟩
  · by_cases finished : isLastblock S = true
    · rw [final_finished finished]
      exact ⟨rfl, wiped.block1⟩
    · rw [Blake2b.final, if_neg short, if_neg finished]
      simp only [compress_eq]
      exact ⟨rfl, wiped.block1⟩

/-- Every call that works on a key or on a digest wipes it. -/
theorem Call.run_wipes (cx : Globals) (S : State) (call : Call) (wiped : cx.Wiped)
    : (call.run cx S).2.2.Wiped := by
  cases call with
  | init outlen =>
      rw [Call.run]
      split <;> exact wiped
  | initKey outlen key =>
      have left := wiped.initKey outlen key key.length
      rw [Call.run]
      split
      all_goals
        next split => rwa [split] at left
  | update data =>
      obtain ⟨buffer, block1⟩ := update_keeps cx S data
      exact ⟨buffer.trans wiped.buffer, block1.trans wiped.block1⟩
  | final size out outlen => exact wiped.final S out outlen

/-- Calls on hash contexts in any order, on contexts that nothing was known of and a scratch that
every call writes to: each context answers as a hash of what was given to it alone, gives its
digest at most once, and nothing of a key or a digest stays behind.
-/
theorem contexts_eq_meaning {Name : Type} [DecidableEq Name] (cx : Globals) (wiped : cx.Wiped)
    (states : Name → State) (calls : List (Name × Call))
    (started
      : ∀ name,
          (hashObjects.runAlone .unused (SharedScratch.belongingTo name calls)).isSome)
    : (∀ name,
          (hashObjects.runAlone .unused (SharedScratch.belongingTo name calls)).map Prod.fst
          = some (SharedScratch.belongingTo name (contexts.runAll cx states calls).1))
      ∧ (contexts.runAll cx states calls).2.2.Wiped := by
  have defined (name : Name)
      : ∃ results final,
          hashObjects.runAlone .unused (SharedScratch.belongingTo name calls)
          = some (results, final) := by
    obtain ⟨⟨results, final⟩, meant⟩ := Option.isSome_iff_exists.mp (started name)
    exact ⟨results, final, meant⟩
  choose results finals meant using defined
  have represented (name : Name) : HashObject.Represents .unused (states name) := trivial
  constructor
  · intro name
    rw [(contexts_implement.runAll represented meant cx name).1, meant name]
    rfl
  · exact contexts.runAll_keeps (fun cx S call => Call.run_wipes cx S call) wiped states calls

/-- Two hashes under way at the same time; the first one is asked twice for its digest. -/
def exampleCalls : List (Bool × Call) :=
  [(true, .initKey 32 signingKey), (false, .initKey 32 messageSigningKey),
    (true, .update [1, 2]), (false, .update [3]), (true, .final 32 (Bytes.zero 32) 32),
    (true, .update [4]), (true, .final 32 (Bytes.zero 32) 32),
    (false, .final 32 (Bytes.zero 32) 32)]

theorem contexts_eq_meaning_sample
    : (∀ name,
          (hashObjects.runAlone .unused (SharedScratch.belongingTo name exampleCalls)).map Prod.fst
          = some
              (SharedScratch.belongingTo name
                (contexts.runAll .start (fun _ => init0) exampleCalls).1))
      ∧ (contexts.runAll .start (fun _ => init0) exampleCalls).2.2.Wiped :=
  contexts_eq_meaning .start ⟨rfl, rfl⟩ (fun _ => init0) exampleCalls (by decide)

end KaspaApp.Blake2b
