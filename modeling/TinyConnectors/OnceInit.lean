/-
# A value that is made once

A small library, independent of any program.  Callers share a slot behind an
asynchronous lock.  Whoever gets the lock and finds the slot empty runs an
initialisation over a store, in many steps, keeping the lock; the run may fail or be
cut off, and only a run that succeeds fills the slot.  `Step` is one step of any of the
callers.  What the lock gives is `Inv`: the runs that have happened are one after
another (`Init.Attempts`), the value is the one of the last of them, and everybody who
has been given a value has been given that one.
-/
import Mathlib.Logic.Function.Basic
import Mathlib.Logic.Relation

open Relation

namespace OnceInit

variable {σ S ε H ι : Type}

/-- An initialisation with states `σ` over stores `S` that makes a value of `H`. -/
structure Init (σ S ε H : Type) where
  start : σ
  step : σ × S → σ × S → Prop
  /-- What it has come to in a state, if it has come to something there. -/
  result : σ → Option (Except ε H)

namespace Init

variable (init : Init σ S ε H)

/-- A run, cut off anywhere. -/
def Attempt (store store' : S) : Prop :=
  ∃ state, ReflTransGen init.step (init.start, store) (state, store')

/-- Any number of runs, one after another. -/
def Attempts : S → S → Prop := ReflTransGen init.Attempt

/-- A run that makes the value. -/
def Makes (store : S) (value : H) (store' : S) : Prop :=
  ∃ state, ReflTransGen init.step (init.start, store) (state, store') ∧
    init.result state = some (.ok value)

end Init

/-- Where a caller is. -/
inductive Caller (σ ε H : Type) where
  /-- It waits for the lock. -/
  | waiting
  /-- It has the lock and runs the initialisation. -/
  | inside (state : σ)
  | returned (result : Except ε H)
  /-- It has been given up. -/
  | dropped

/-- All callers, what they share, and when the slot was filled. -/
structure Shared (σ S ε H ι : Type) where
  callers : ι → Caller σ ε H
  slot : Option H
  locked : Bool
  store : S
  /-- History: the store the slot was filled over. -/
  filledOver : Option S

/-- Nobody has the lock, and nothing has been made. -/
def Shared.fresh (store : S) : Shared σ S ε H ι where
  callers _ := .waiting
  slot := none
  locked := false
  store := store
  filledOver := none

variable [DecidableEq ι]

/-- The state after caller `i` has gone on. -/
def Shared.setCaller (s : Shared σ S ε H ι) (i : ι) (caller : Caller σ ε H) : Shared σ S ε H ι :=
  { s with callers := Function.update s.callers i caller }

@[simp] theorem Shared.setCaller_self (s : Shared σ S ε H ι) (i : ι) (caller : Caller σ ε H) :
    (s.setCaller i caller).callers i = caller := Function.update_self ..

theorem Shared.setCaller_of_ne {s : Shared σ S ε H ι} {i j : ι} (h : j ≠ i)
    (caller : Caller σ ε H) : (s.setCaller i caller).callers j = s.callers j :=
  Function.update_of_ne h ..

/-- One step of one caller, or a use of the store by those who have the value. -/
inductive Step (init : Init σ S ε H) : Shared σ S ε H ι → Shared σ S ε H ι → Prop where
  /-- The lock is free, and there is no value yet. -/
  | enter {s : Shared σ S ε H ι} (i : ι) (hcaller : s.callers i = .waiting)
      (hfree : s.locked = false) (hslot : s.slot = none) :
      Step init s { s.setCaller i (.inside init.start) with locked := true }
  /-- The lock is free, and there is a value: it is given out and the lock with it. -/
  | found {s : Shared σ S ε H ι} (i : ι) {value : H} (hcaller : s.callers i = .waiting)
      (hfree : s.locked = false) (hslot : s.slot = some value) :
      Step init s (s.setCaller i (.returned (.ok value)))
  | work {s : Shared σ S ε H ι} (i : ι) {state state' : σ} {store' : S}
      (hcaller : s.callers i = .inside state)
      (hstep : init.step (state, s.store) (state', store')) :
      Step init s { s.setCaller i (.inside state') with store := store' }
  | fill {s : Shared σ S ε H ι} (i : ι) {state : σ} {value : H}
      (hcaller : s.callers i = .inside state) (hresult : init.result state = some (.ok value)) :
      Step init s { s.setCaller i (.returned (.ok value)) with
        slot := some value, locked := false, filledOver := some s.store }
  | fail {s : Shared σ S ε H ι} (i : ι) {state : σ} {error : ε}
      (hcaller : s.callers i = .inside state) (hresult : init.result state = some (.error error)) :
      Step init s { s.setCaller i (.returned (.error error)) with locked := false }
  | giveUp {s : Shared σ S ε H ι} (i : ι) (hcaller : s.callers i = .waiting) :
      Step init s (s.setCaller i .dropped)
  /-- Given up with the lock, which is released. -/
  | abandon {s : Shared σ S ε H ι} (i : ι) {state : σ} (hcaller : s.callers i = .inside state) :
      Step init s { s.setCaller i .dropped with locked := false }
  | use {s : Shared σ S ε H ι} {store' : S} (hslot : s.slot.isSome = true) :
      Step init s { s with store := store' }

/-- Every interleaving. -/
def Run (init : Init σ S ε H) : Shared σ S ε H ι → Shared σ S ε H ι → Prop :=
  ReflTransGen (Step init)

/-! ## What the lock gives -/

/-- What holds of every interleaving that starts over `store₀`. -/
structure Inv (init : Init σ S ε H) (store₀ : S) (s : Shared σ S ε H ι) : Prop where
  exclusive : ∀ i j state state', s.callers i = .inside state → s.callers j = .inside state' → i = j
  locked : ∀ i state, s.callers i = .inside state → s.locked = true
  /-- Whoever is inside is in the middle of one more run. -/
  working : ∀ i state, s.callers i = .inside state → s.slot = none ∧
    ∃ before, init.Attempts store₀ before ∧
      ReflTransGen init.step (init.start, before) (state, s.store)
  empty : s.slot = none → init.Attempts store₀ s.store
  filled : ∀ value, s.slot = some value → ∃ before store, s.filledOver = some store ∧
    init.Attempts store₀ before ∧ init.Makes before value store
  returned : ∀ i value, s.callers i = .returned (.ok value) → s.slot = some value

section
variable {init : Init σ S ε H} {store₀ : S} {s s' : Shared σ S ε H ι}

omit [DecidableEq ι] in
theorem Inv.fresh (init : Init σ S ε H) (store₀ : S) :
    Inv init store₀ (Shared.fresh store₀ : Shared σ S ε H ι) where
  exclusive i j state state' h := by cases h
  locked i state h := by cases h
  working i state h := by cases h
  empty _ := .refl
  filled value h := by cases h
  returned i value h := by cases h

/-- A caller that is inside after another one has gone on was inside before. -/
theorem inside_of_setCaller {i j : ι} {caller : Caller σ ε H} {state : σ}
    (hcaller : ∀ state, caller ≠ .inside state)
    (h : (s.setCaller i caller).callers j = .inside state) :
    j ≠ i ∧ s.callers j = .inside state := by
  by_cases hj : j = i
  · subst hj
    rw [Shared.setCaller_self] at h
    exact absurd h (hcaller state)
  · rw [Shared.setCaller_of_ne hj] at h
    exact ⟨hj, h⟩

/-- Nobody is inside once the one who was has left. -/
theorem Inv.left (h : Inv init store₀ s) {i j : ι} {state state' : σ} {caller : Caller σ ε H}
    (hi : s.callers i = .inside state) (hcaller : ∀ state, caller ≠ .inside state)
    (hj : (s.setCaller i caller).callers j = .inside state') : False := by
  obtain ⟨hne, hj⟩ := inside_of_setCaller hcaller hj
  exact hne (h.exclusive j i state' state hj hi)

/-- A value that has been given out before or is given out now. -/
theorem returned_of_setCaller {i j : ι} {caller : Caller σ ε H} {value : H}
    (h : (s.setCaller i caller).callers j = .returned (.ok value)) :
    caller = .returned (.ok value) ∨ s.callers j = .returned (.ok value) := by
  by_cases hj : j = i
  · subst hj
    rw [Shared.setCaller_self] at h
    exact .inl h
  · rw [Shared.setCaller_of_ne hj] at h
    exact .inr h

/-- A step that changes only a caller who is not inside after it. -/
theorem Inv.setCaller (h : Inv init store₀ s) {i : ι} {caller : Caller σ ε H}
    (hcaller : ∀ state, caller ≠ .inside state)
    (hvalue : ∀ value, caller = .returned (.ok value) → s.slot = some value) :
    Inv init store₀ (s.setCaller i caller) where
  exclusive j k state state' hj hk :=
    h.exclusive j k state state' (inside_of_setCaller hcaller hj).2
      (inside_of_setCaller hcaller hk).2
  locked j state hj := h.locked j state (inside_of_setCaller hcaller hj).2
  working j state hj := h.working j state (inside_of_setCaller hcaller hj).2
  empty := h.empty
  filled := h.filled
  returned j value hj := by
    rcases returned_of_setCaller hj with hnow | hbefore
    · exact hvalue value hnow
    · exact h.returned j value hbefore

/-- The lock is taken, and the initialisation started. -/
theorem Inv.enter (h : Inv init store₀ s) {i : ι} (hfree : s.locked = false)
    (hslot : s.slot = none) :
    Inv init store₀ { s.setCaller i (.inside init.start) with locked := true } := by
  have hnobody : ∀ j state, s.callers j ≠ .inside state := by
    intro j state hj
    have hlocked := h.locked j state hj
    rw [hfree] at hlocked
    cases hlocked
  have hme : ∀ j state, (s.setCaller i (.inside init.start)).callers j = .inside state →
      j = i ∧ state = init.start := by
    intro j state hj
    by_cases hji : j = i
    · subst hji
      rw [Shared.setCaller_self] at hj
      cases hj
      exact ⟨rfl, rfl⟩
    · rw [Shared.setCaller_of_ne hji] at hj
      exact absurd hj (hnobody j state)
  constructor
  · intro j k state state' hj hk
    rw [(hme j state hj).1, (hme k state' hk).1]
  · intro j state _
    rfl
  · intro j state hj
    obtain ⟨-, rfl⟩ := hme j state hj
    exact ⟨hslot, s.store, h.empty hslot, .refl⟩
  · exact h.empty
  · exact h.filled
  · intro j value hj
    rcases returned_of_setCaller hj with hnow | hbefore
    · cases hnow
    · exact h.returned j value hbefore

/-- Whoever is inside goes on. -/
theorem Inv.work (h : Inv init store₀ s) {i : ι} {state state' : σ} {store' : S}
    (hi : s.callers i = .inside state) (hstep : init.step (state, s.store) (state', store')) :
    Inv init store₀ { s.setCaller i (.inside state') with store := store' } := by
  have hme : ∀ j t, (s.setCaller i (.inside state')).callers j = .inside t →
      j = i ∧ t = state' := by
    intro j t hj
    by_cases hji : j = i
    · subst hji
      rw [Shared.setCaller_self] at hj
      cases hj
      exact ⟨rfl, rfl⟩
    · rw [Shared.setCaller_of_ne hji] at hj
      exact absurd (h.exclusive j i t state hj hi) hji
  obtain ⟨hnone, before, hbefore, hrun⟩ := h.working i state hi
  have hrun' := hrun.tail hstep
  constructor
  · intro j k t t' hj hk
    rw [(hme j t hj).1, (hme k t' hk).1]
  · intro j t _
    exact h.locked i state hi
  · intro j t hj
    obtain ⟨-, rfl⟩ := hme j t hj
    exact ⟨hnone, before, hbefore, hrun'⟩
  · intro _
    exact hbefore.tail ⟨state', hrun'⟩
  · intro value hvalue
    rw [show s.slot = some value from hvalue] at hnone
    cases hnone
  · intro j value hj
    rcases returned_of_setCaller hj with hnow | hbefore
    · cases hnow
    · exact h.returned j value hbefore

/-- Whoever is inside leaves with nothing. -/
theorem Inv.leave (h : Inv init store₀ s) {i : ι} {state : σ} {caller : Caller σ ε H}
    (hi : s.callers i = .inside state) (hcaller : ∀ state, caller ≠ .inside state)
    (hvalue : ∀ value, caller ≠ .returned (.ok value)) :
    Inv init store₀ { s.setCaller i caller with locked := false } where
  exclusive j k t t' hj _ := (h.left hi hcaller hj).elim
  locked j t hj := (h.left hi hcaller hj).elim
  working j t hj := (h.left hi hcaller hj).elim
  empty := h.empty
  filled := h.filled
  returned j value hj := by
    rcases returned_of_setCaller hj with hnow | hbefore
    · exact absurd hnow (hvalue value)
    · exact h.returned j value hbefore

/-- Whoever is inside has made the value. -/
theorem Inv.fill (h : Inv init store₀ s) {i : ι} {state : σ} {value : H}
    (hi : s.callers i = .inside state) (hresult : init.result state = some (.ok value)) :
    Inv init store₀ { s.setCaller i (.returned (.ok value)) with
      slot := some value, locked := false, filledOver := some s.store } := by
  have hcaller : ∀ t : σ, (Caller.returned (.ok value) : Caller σ ε H) ≠ .inside t := by
    intro t ht
    cases ht
  obtain ⟨hnone, before, hbefore, hrun⟩ := h.working i state hi
  constructor
  · intro j k t t' hj _
    exact (h.left hi hcaller hj).elim
  · intro j t hj
    exact (h.left hi hcaller hj).elim
  · intro j t hj
    exact (h.left hi hcaller hj).elim
  · intro hempty
    cases hempty
  · intro made hmade
    cases hmade
    exact ⟨before, s.store, rfl, hbefore, state, hrun, hresult⟩
  · intro j made hj
    rcases returned_of_setCaller hj with hnow | hearlier
    · cases hnow
      rfl
    -- before the slot was filled nobody had been given a value
    · rw [h.returned j made hearlier] at hnone
      cases hnone

/-- What one step keeps. -/
theorem Inv.step (h : Inv init store₀ s) (hstep : Step init s s') : Inv init store₀ s' := by
  cases hstep with
  | enter i _ hfree hslot => exact h.enter hfree hslot
  | found i _ _ hslot =>
    apply h.setCaller
    · intro state hstate
      cases hstate
    · intro value hvalue
      cases hvalue
      exact hslot
  | work i hcaller hstep => exact h.work hcaller hstep
  | fill i hcaller hresult => exact h.fill hcaller hresult
  | fail i hcaller _ =>
    apply h.leave hcaller
    · intro state hstate
      cases hstate
    · intro value hvalue
      cases hvalue
  | giveUp i _ =>
    apply h.setCaller
    · intro state hstate
      cases hstate
    · intro value hvalue
      cases hvalue
  | abandon i hcaller =>
    apply h.leave hcaller
    · intro state hstate
      cases hstate
    · intro value hvalue
      cases hvalue
  | use hslot =>
    obtain ⟨value, hvalue⟩ := Option.isSome_iff_exists.mp hslot
    -- with a value in the slot nobody is inside, and nothing is said of the store
    have hnobody : ∀ i state, s.callers i ≠ .inside state := by
      intro i state hi
      have hnone := (h.working i state hi).1
      rw [hvalue] at hnone
      cases hnone
    exact
      { exclusive := h.exclusive
        locked := h.locked
        working := fun i state hi => absurd hi (hnobody i state)
        empty := by
          intro hnone
          rw [show s.slot = none from hnone] at hvalue
          cases hvalue
        filled := h.filled
        returned := h.returned }

/-- A value that is in the slot stays there. -/
theorem Inv.slot_stays (h : Inv init store₀ s) (hstep : Step init s s') {value : H}
    (hvalue : s.slot = some value) : s'.slot = some value := by
  cases hstep with
  | fill i hcaller _ =>
    -- whoever is inside has found the slot empty
    have hnone := (h.working i _ hcaller).1
    rw [hvalue] at hnone
    cases hnone
  | _ => exact hvalue

/-- What every interleaving keeps. -/
theorem Inv.run (h : Inv init store₀ s) (hrun : Run init s s') : Inv init store₀ s' := by
  induction hrun with
  | refl => exact h
  | tail _ hstep ih => exact ih.step hstep

/-- Steps over an empty slot, which nobody can use. -/
def Filling (init : Init σ S ε H) : Shared σ S ε H ι → Shared σ S ε H ι → Prop :=
  ReflTransGen fun s s' => Step init s s' ∧ s.slot = none

theorem Filling.run (h : Filling init s s') : Run init s s' :=
  ReflTransGen.lift id (fun _ _ hstep => hstep.1) _ _ h

/-- Whoever is inside can go on as far as the initialisation can, and nobody else notices. -/
theorem exists_work {i : ι} {state state' : σ} {store' : S} (hcaller : s.callers i = .inside state)
    (hslot : s.slot = none) (hrun : ReflTransGen init.step (state, s.store) (state', store')) :
    ∃ s', Filling init s s' ∧ s'.callers i = .inside state' ∧ s'.store = store' ∧ s'.slot = none ∧
      ∀ j ≠ i, s'.callers j = s.callers j := by
  obtain ⟨last, hlast⟩ : ∃ last, last = (state', store') := ⟨_, rfl⟩
  rw [← hlast] at hrun
  have hreached : ∃ s', Filling init s s' ∧ s'.callers i = .inside last.1 ∧ s'.store = last.2 ∧
      s'.slot = none ∧ ∀ j ≠ i, s'.callers j = s.callers j := by
    clear hlast
    induction hrun with
    | refl => exact ⟨s, .refl, hcaller, rfl, hslot, fun _ _ => rfl⟩
    | @tail p q _ hstep ih =>
      obtain ⟨t, ht, hinside, hstore, hempty, hothers⟩ := ih
      have hnext : Step init t { t.setCaller i (.inside q.1) with store := q.2 } := by
        apply Step.work i hinside
        rw [hstore]
        exact hstep
      refine ⟨_, ReflTransGen.tail ht ⟨hnext, hempty⟩, Shared.setCaller_self t i _, rfl, hempty, ?_⟩
      intro j hj
      exact (Shared.setCaller_of_ne hj _).trans (hothers j hj)
  subst hlast
  exact hreached

/-- Whoever gets the lock of an empty slot can go as far. -/
theorem exists_inside {i : ι} {state : σ} {store' : S} (hcaller : s.callers i = .waiting)
    (hfree : s.locked = false) (hslot : s.slot = none)
    (hrun : ReflTransGen init.step (init.start, s.store) (state, store')) :
    ∃ s', Filling init s s' ∧ s'.callers i = .inside state ∧ s'.store = store' ∧ s'.slot = none ∧
      ∀ j ≠ i, s'.callers j = s.callers j := by
  have henter := (Step.enter i hcaller hfree hslot : Step init s _)
  obtain ⟨entered, hentered⟩ : ∃ entered : Shared σ S ε H ι,
    entered = { s.setCaller i (.inside init.start) with locked := true } := ⟨_, rfl⟩
  rw [← hentered] at henter
  have hinside : entered.callers i = .inside init.start := by
    rw [hentered]
    exact Shared.setCaller_self s i _
  have hstore : entered.store = s.store := by
    rw [hentered]
    rfl
  have hempty : entered.slot = none := by
    rw [hentered]
    exact hslot
  rw [← hstore] at hrun
  obtain ⟨t, ht, hready, hlast, hstill, hothers⟩ := exists_work hinside hempty hrun
  refine ⟨t, ReflTransGen.head ⟨henter, hslot⟩ ht, hready, hlast, hstill, ?_⟩
  intro j hj
  refine (hothers j hj).trans ?_
  rw [hentered]
  exact Shared.setCaller_of_ne hj _

/-- It can be given what the initialisation can make. -/
theorem exists_made {i : ι} {value : H} {store' : S} (hcaller : s.callers i = .waiting)
    (hfree : s.locked = false) (hslot : s.slot = none) (hmakes : init.Makes s.store value store') :
    ∃ s', Filling init s s' ∧ s'.callers i = .returned (.ok value) ∧ s'.store = store' ∧
      s'.slot = some value ∧ s'.locked = false ∧ ∀ j ≠ i, s'.callers j = s.callers j := by
  obtain ⟨state, hrun, hresult⟩ := hmakes
  obtain ⟨t, ht, hinside, hstore, hempty, hothers⟩ := exists_inside hcaller hfree hslot hrun
  have hfill : Step init t _ := .fill i hinside hresult
  refine ⟨_, ReflTransGen.tail ht ⟨hfill, hempty⟩, Shared.setCaller_self t i _, hstore,
    rfl, rfl, ?_⟩
  intro j hj
  exact (Shared.setCaller_of_ne hj _).trans (hothers j hj)

/-- It can fail as the initialisation does, and leave the lock to the others. -/
theorem exists_failed {i : ι} {state : σ} {error : ε} {store' : S}
    (hcaller : s.callers i = .waiting) (hfree : s.locked = false) (hslot : s.slot = none)
    (hrun : ReflTransGen init.step (init.start, s.store) (state, store'))
    (hresult : init.result state = some (.error error)) :
    ∃ s', Filling init s s' ∧ s'.callers i = .returned (.error error) ∧ s'.store = store' ∧
      s'.slot = none ∧ s'.locked = false ∧ ∀ j ≠ i, s'.callers j = s.callers j := by
  obtain ⟨t, ht, hinside, hstore, hempty, hothers⟩ := exists_inside hcaller hfree hslot hrun
  have hfail : Step init t _ := .fail i hinside hresult
  refine ⟨_, ReflTransGen.tail ht ⟨hfail, hempty⟩, Shared.setCaller_self t i _, hstore,
    hempty, rfl, ?_⟩
  intro j hj
  exact (Shared.setCaller_of_ne hj _).trans (hothers j hj)

/-- It can be given up anywhere. -/
theorem exists_dropped {i : ι} {state : σ} {store' : S} (hcaller : s.callers i = .waiting)
    (hfree : s.locked = false) (hslot : s.slot = none)
    (hrun : ReflTransGen init.step (init.start, s.store) (state, store')) :
    ∃ s', Filling init s s' ∧ s'.callers i = .dropped ∧ s'.store = store' ∧ s'.slot = none ∧
      s'.locked = false ∧ ∀ j ≠ i, s'.callers j = s.callers j := by
  obtain ⟨t, ht, hinside, hstore, hempty, hothers⟩ := exists_inside hcaller hfree hslot hrun
  have habandon : Step init t _ := .abandon i hinside
  refine ⟨_, ReflTransGen.tail ht ⟨habandon, hempty⟩, Shared.setCaller_self t i _, hstore,
    hempty, rfl, ?_⟩
  intro j hj
  exact (Shared.setCaller_of_ne hj _).trans (hothers j hj)

end

end OnceInit
