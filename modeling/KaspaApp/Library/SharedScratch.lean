import Mathlib.Data.List.Basic
import Mathlib.Logic.Function.Basic

/-! Objects that are worked on one call at a time, in a scratch that all of them share. Where each
call on one object does what its meaning says from every scratch, calls on many objects in any
order do what the meanings say apart from each other.
-/

namespace SharedScratch

/-- A call on an object, from a given scratch. -/
structure Implementation (Scratch Object Call Result : Type) where
  run : Scratch → Object → Call → Result × Object × Scratch

/-- What a call means, where it is allowed. -/
structure Meaning (State Call Result : Type) where
  run : State → Call → Option (Result × State)

variable {Scratch Object State Call Result Name : Type} [DecidableEq Name]

/-- Calls on named objects, first call first: the result of each call and what is left. -/
def Implementation.runAll (implementation : Implementation Scratch Object Call Result)
    : Scratch → (Name → Object) → List (Name × Call)
      → List (Name × Result) × (Name → Object) × Scratch
  | scratch, objects, [] => ([], objects, scratch)
  | scratch, objects, (name, call) :: calls =>
      let (result, object, scratch) := implementation.run scratch (objects name) call
      let (results, left) :=
        implementation.runAll scratch (Function.update objects name object) calls
      ((name, result) :: results, left)

/-- Calls on one object alone. -/
def Meaning.runAlone (meaning : Meaning State Call Result)
    : State → List Call → Option (List Result × State)
  | state, [] => some ([], state)
  | state, call :: calls => do
      let (result, state) ← meaning.run state call
      let (results, state) ← meaning.runAlone state calls
      pure (result :: results, state)

/-- The elements of a list that belong to a name. -/
def belongingTo {Item : Type} (name : Name) (items : List (Name × Item)) : List Item :=
  (items.filter fun item => item.1 = name).map Prod.snd

/-- The implementation of one call does what the call means, from every scratch. -/
def Implements (implementation : Implementation Scratch Object Call Result)
    (meaning : Meaning State Call Result) (represents : State → Object → Prop)
    : Prop :=
  ∀ {state : State} {object : Object} {call : Call} {result : Result} {after : State},
    represents state object
    → meaning.run state call = some (result, after)
    → ∀ scratch, ∃ next left,
        implementation.run scratch object call = (result, next, left) ∧ represents after next

section

variable {Item : Type} {name other : Name} {item : Item} {items : List (Name × Item)}

theorem belongingTo_cons_self
    : belongingTo name ((name, item) :: items) = item :: belongingTo name items := by
  simp [belongingTo]

theorem belongingTo_cons_of_ne (apart : other ≠ name)
    : belongingTo name ((other, item) :: items) = belongingTo name items := by
  simp [belongingTo, apart]

end

variable {implementation : Implementation Scratch Object Call Result}
  {meaning : Meaning State Call Result} {represents : State → Object → Prop}

/-- The first of the calls on one object. -/
theorem Meaning.runAlone_cons {state final : State} {call : Call} {calls : List Call}
    {results : List Result}
    (runs : meaning.runAlone state (call :: calls) = some (results, final))
    : ∃ result after rest,
        meaning.run state call = some (result, after)
        ∧ meaning.runAlone after calls = some (rest, final)
        ∧ results = result :: rest := by
  obtain ⟨⟨result, after⟩, first, runs⟩ := Option.bind_eq_some_iff.mp runs
  obtain ⟨⟨rest, _⟩, later, same⟩ := Option.bind_eq_some_iff.mp runs
  obtain ⟨rfl, rfl⟩ := Prod.mk.inj (Option.some.inj same)
  exact ⟨result, after, rest, first, later, rfl⟩

/-- In any order of calls on any number of objects, the calls on each object get the results that
they mean on their own. By induction on the calls, for all objects at once.
-/
theorem Implements.runAll (implements : Implements implementation meaning represents)
    {states finals : Name → State} {results : Name → List Result} {objects : Name → Object}
    (represented : ∀ name, represents (states name) (objects name)) {calls : List (Name × Call)}
    (meant
      : ∀ name,
          meaning.runAlone (states name) (belongingTo name calls)
          = some (results name, finals name))
    (scratch : Scratch) (name : Name)
    : belongingTo name (implementation.runAll scratch objects calls).1 = results name
      ∧ represents (finals name) ((implementation.runAll scratch objects calls).2.1 name) := by
  induction calls generalizing scratch states results objects name with
  | nil =>
      obtain ⟨given, same⟩ := Prod.mk.inj (Option.some.inj (meant name))
      exact ⟨given, same ▸ represented name⟩
  | cons call calls ih =>
      obtain ⟨called, call⟩ := call
      have first := meant called
      rw [belongingTo_cons_self] at first
      obtain ⟨result, after, rest, taken, later, split⟩ := meaning.runAlone_cons first
      obtain ⟨next, left, ran, kept⟩ := implements (represented called) taken scratch
      have representedNext (name : Name)
          : represents (Function.update states called after name)
              (Function.update objects called next name) := by
        by_cases own : name = called
        · subst own
          rwa [Function.update_self, Function.update_self]
        · rw [Function.update_of_ne own, Function.update_of_ne own]
          exact represented name
      have meantNext (name : Name)
          : meaning.runAlone (Function.update states called after name) (belongingTo name calls)
            = some (Function.update results called rest name, finals name) := by
        by_cases own : name = called
        · subst own
          rwa [Function.update_self, Function.update_self]
        · have others := meant name
          rw [belongingTo_cons_of_ne (Ne.symm own)] at others
          rwa [Function.update_of_ne own, Function.update_of_ne own]
      obtain ⟨received, ended⟩ := ih representedNext meantNext left name
      simp only [Implementation.runAll, ran]
      refine ⟨?_, ended⟩
      by_cases own : name = called
      · subst own
        rw [belongingTo_cons_self, received, Function.update_self, split]
      · rw [belongingTo_cons_of_ne (Ne.symm own), received, Function.update_of_ne own]

/-- What every call keeps of the scratch is kept by all calls. -/
theorem Implementation.runAll_keeps {kept : Scratch → Prop}
    (keeps
      : ∀ scratch object call,
          kept scratch → kept (implementation.run scratch object call).2.2)
    {scratch : Scratch} (start : kept scratch) (objects : Name → Object)
    (calls : List (Name × Call))
    : kept (implementation.runAll scratch objects calls).2.2 := by
  induction calls generalizing scratch objects with
  | nil => exact start
  | cons call calls ih => exact ih (keeps scratch (objects call.1) call.2 start) _

end SharedScratch
