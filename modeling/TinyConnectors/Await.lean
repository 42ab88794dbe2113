/-
# Asynchronous functions over a shared store

A small library, independent of any program: an `async` function is a machine
that is polled, and each poll either returns or names one call on a shared
store together with the way the reply resumes it.  Between two polls anything
else may happen.  Three things are built on this:

* `System`, any number of machines interleaved with an environment, and the
  rely–guarantee rule `System.Stable.reachable`;
* `Finishes`, the total-correctness judgement of one machine running alone,
  with a condition that holds at every point where it may be cut off;
* `FaultyStep`, runs in which calls may fail, and the rule
  `Finishes.crash` that carries the condition through them.
-/
import Mathlib.Data.Finset.Basic
import Mathlib.Logic.Relation

open Relation

/-- What polling a machine with states `σ` and result `α` yields. -/
inductive Poll (Call : Type) (Reply : Call → Type) (σ α : Type) where
  /-- The function has returned. -/
  | ready (result : α)
  /-- It awaits the reply to `call`. -/
  | pending (call : Call) (resume : Reply call → σ)
  /-- It goes on in another state without touching the store. -/
  | goto (state : σ)

/-- A frame of an outer machine that runs an inner one: it awaits what the inner
one awaits, and goes on with the result. -/
def Poll.embed {Call : Type} {Reply : Call → Type} {σ τ α β : Type} (frame : σ → τ)
    (cont : α → τ) : Poll Call Reply σ α → Poll Call Reply τ β
  | .ready result => .goto (cont result)
  | .pending call resume => .pending call fun reply => frame (resume reply)
  | .goto state => .goto (frame state)

namespace Await

variable {Call : Type} {Reply : Call → Type} {σ τ α β S ι : Type}

/-- What a store may answer to a call, and what it is afterwards. -/
abbrev Port (Call : Type) (Reply : Call → Type) (S : Type) :=
  (call : Call) → S → Reply call → S → Prop

/-- One step of a machine over a store. -/
def Advances (poll : σ → Poll Call Reply σ α) (serves : Port Call Reply S)
    (s : σ) (store : S) (s' : σ) (store' : S) : Prop :=
  match poll s with
  | .ready _ => False
  | .pending call resume => ∃ reply, serves call store reply store' ∧ s' = resume reply
  | .goto next => s' = next ∧ store' = store

/-- A machine with the record of the replies it has had, the newest first. -/
structure Traced (Call : Type) (Reply : Call → Type) (σ : Type) where
  state : σ
  events : List ((call : Call) × Reply call)

/-- One step of a recorded machine. -/
def Traced.Advances (poll : σ → Poll Call Reply σ α) (serves : Port Call Reply S)
    (t : Traced Call Reply σ) (store : S) (t' : Traced Call Reply σ) (store' : S) : Prop :=
  match poll t.state with
  | .ready _ => False
  | .pending call resume =>
    ∃ reply, serves call store reply store' ∧ t' = ⟨resume reply, ⟨call, reply⟩ :: t.events⟩
  | .goto next => t' = ⟨next, t.events⟩ ∧ store' = store

/-- A step either leaves the store alone or is one served call. -/
theorem Traced.Advances.served {poll : σ → Poll Call Reply σ α} {serves : Port Call Reply S}
    {t t' : Traced Call Reply σ} {store store' : S}
    (h : Traced.Advances poll serves t store t' store') :
    store' = store ∨ ∃ call reply, serves call store reply store' := by
  unfold Traced.Advances at h
  split at h
  · exact h.elim
  · obtain ⟨reply, hserved, -⟩ := h
    exact .inr ⟨_, reply, hserved⟩
  · exact .inl h.2

/-! ## Interleaving -/

/-- What the members of a pool may do to their own state and the shared store,
and what everybody else may do to the store. -/
structure System (σ S : Type) where
  task : σ → S → σ → S → Prop
  env : S → S → Prop

/-- The states of all members and the store. -/
structure Config (ι σ S : Type) where
  tasks : ι → σ
  store : S

/-- One step of one member, or of the environment. -/
inductive System.Step [DecidableEq ι] (sys : System σ S) : Config ι σ S → Config ι σ S → Prop where
  | task {c : Config ι σ S} (i : ι) {s' : σ} {store' : S}
      (h : sys.task (c.tasks i) c.store s' store') :
      sys.Step c ⟨Function.update c.tasks i s', store'⟩
  | env {c : Config ι σ S} {store' : S} (h : sys.env c.store store') :
      sys.Step c ⟨c.tasks, store'⟩

/-- The step of a pool with one member. -/
theorem System.Step.single {sys : System σ S} {s s' : σ} {store store' : S}
    (h : sys.task s store s' store') :
    sys.Step (ι := Unit) ⟨fun _ => s, store⟩ ⟨fun _ => s', store'⟩ := by
  have hstep := System.Step.task (c := ⟨fun _ : Unit => s, store⟩) () h
  rwa [Function.update_eq_const_of_subsingleton] at hstep

/-- Every interleaving. -/
def System.Run [DecidableEq ι] (sys : System σ S) : Config ι σ S → Config ι σ S → Prop :=
  ReflTransGen sys.Step

/-- A pool of two members. -/
def Config.two (first second : σ) (store : S) : Config Bool σ S :=
  ⟨fun i => if i then first else second, store⟩

/-- Steps of one member while nobody else does anything. -/
def System.Alone (sys : System σ S) : σ × S → σ × S → Prop :=
  ReflTransGen fun p q => sys.task p.1 p.2 q.1 q.2

section Alone

variable {sys : System σ S} {s s' other : σ} {store store' : S}

theorem System.Step.first (h : sys.task s store s' store') :
    sys.Step (Config.two s other store) (Config.two s' other store') := by
  have hstep := System.Step.task (c := Config.two s other store) true h
  rwa [show Function.update (Config.two s other store).tasks true s' =
    (Config.two s' other store').tasks from funext fun i => by cases i <;> rfl] at hstep

theorem System.Step.second (h : sys.task s store s' store') :
    sys.Step (Config.two other s store) (Config.two other s' store') := by
  have hstep := System.Step.task (c := Config.two other s store) false h
  rwa [show Function.update (Config.two other s store).tasks false s' =
    (Config.two other s' store').tasks from funext fun i => by cases i <;> rfl] at hstep

theorem System.Alone.step (h : sys.task s store s' store') : sys.Alone (s, store) (s', store') :=
  ReflTransGen.single h

theorem System.Alone.trans {p q r : σ × S} (h : sys.Alone p q) (h' : sys.Alone q r) :
    sys.Alone p r :=
  ReflTransGen.trans h h'

/-- A pool runs as its one member does. -/
theorem System.Alone.run (h : sys.Alone (s, store) (s', store')) :
    sys.Run (ι := Unit) ⟨fun _ => s, store⟩ ⟨fun _ => s', store'⟩ :=
  h.lift (fun p : σ × S => (⟨fun _ => p.1, p.2⟩ : Config Unit σ S)) fun _ _ => .single

theorem System.Alone.first (h : sys.Alone (s, store) (s', store')) :
    sys.Run (Config.two s other store) (Config.two s' other store') :=
  h.lift (fun p : σ × S => Config.two p.1 other p.2) fun _ _ => .first

theorem System.Alone.second (h : sys.Alone (s, store) (s', store')) :
    sys.Run (Config.two other s store) (Config.two other s' store') :=
  h.lift (fun p : σ × S => Config.two other p.1 p.2) fun _ _ => .second

end Alone

/-- What a proof about an interleaving needs: an invariant of the store, an
assertion for each member about its own state and the store, and a relation
`grows` that every step of anybody respects and that keeps every assertion. -/
structure System.Stable (sys : System σ S) (inv : S → Prop) (loc : σ → S → Prop)
    (grows : S → S → Prop) : Prop where
  task : ∀ {s store s' store'}, inv store → loc s store → sys.task s store s' store' →
    inv store' ∧ loc s' store' ∧ grows store store'
  env : ∀ {store store'}, inv store → sys.env store store' → inv store' ∧ grows store store'
  mono : ∀ {s store store'}, inv store → grows store store' → loc s store → loc s store'

/-- The assertions of all members hold together. -/
def Config.Holds (inv : S → Prop) (loc : σ → S → Prop) (c : Config ι σ S) : Prop :=
  inv c.store ∧ ∀ i, loc (c.tasks i) c.store

theorem System.Stable.step [DecidableEq ι] {sys : System σ S} {inv : S → Prop}
    {loc : σ → S → Prop} {grows : S → S → Prop} (stable : sys.Stable inv loc grows)
    {c c' : Config ι σ S} (hc : c.Holds inv loc) (hstep : sys.Step c c') :
    c'.Holds inv loc ∧ grows c.store c'.store := by
  obtain ⟨hinv, hloc⟩ := hc
  cases hstep with
  | task i h =>
    obtain ⟨hinv', hloc', hgrows⟩ := stable.task hinv (hloc i) h
    refine ⟨⟨hinv', fun j => ?_⟩, hgrows⟩
    by_cases hj : j = i
    · subst hj
      simpa using hloc'
    · simpa [Function.update_of_ne hj] using stable.mono hinv hgrows (hloc j)
  | env h =>
    obtain ⟨hinv', hgrows⟩ := stable.env hinv h
    exact ⟨⟨hinv', fun j => stable.mono hinv hgrows (hloc j)⟩, hgrows⟩

/-- The rely–guarantee rule: the assertions hold in every interleaving. -/
theorem System.Stable.reachable [DecidableEq ι] {sys : System σ S} {inv : S → Prop}
    {loc : σ → S → Prop} {grows : S → S → Prop} (stable : sys.Stable inv loc grows)
    {c c' : Config ι σ S} (hc : c.Holds inv loc) (hrun : sys.Run c c') : c'.Holds inv loc := by
  induction hrun with
  | refl => exact hc
  | tail _ hstep ih => exact (stable.step ih hstep).1

/-! ## One machine alone -/

/-- From `s` every run of the machine is finite, at least one reply is possible
at every call, the result satisfies `post`, and `crash` holds of the store all
the way. -/
inductive Finishes (poll : σ → Poll Call Reply σ α) (serves : Port Call Reply S)
    (crash : S → Prop) (post : α → S → Prop) : σ → S → Prop where
  | ready {s store result} (h : poll s = .ready result) (hcrash : crash store)
      (hpost : post result store) : Finishes poll serves crash post s store
  | pending {s store call resume} (h : poll s = .pending call resume) (hcrash : crash store)
      (hserved : ∃ reply store', serves call store reply store')
      (hnext : ∀ reply store', serves call store reply store' →
        Finishes poll serves crash post (resume reply) store') :
      Finishes poll serves crash post s store
  | goto {s store next} (h : poll s = .goto next)
      (hnext : Finishes poll serves crash post next store) :
      Finishes poll serves crash post s store

namespace Finishes

variable {poll : σ → Poll Call Reply σ α} {serves : Port Call Reply S} {crash : S → Prop}
  {post : α → S → Prop} {s : σ} {store : S}

theorem crash_now (h : Finishes poll serves crash post s store) : crash store := by
  induction h with
  | ready _ hcrash _ => exact hcrash
  | pending _ hcrash _ _ _ => exact hcrash
  | goto _ _ ih => exact ih

/-- The rule of consequence. -/
theorem weaken {crash' : S → Prop} {post' : α → S → Prop}
    (h : Finishes poll serves crash post s store) (hcrash : ∀ store, crash store → crash' store)
    (hpost : ∀ result store, crash store → post result store → post' result store) :
    Finishes poll serves crash' post' s store := by
  induction h with
  | ready h hc hp => exact .ready h (hcrash _ hc) (hpost _ _ hc hp)
  | pending h hc hserved _ ih => exact .pending h (hcrash _ hc) hserved ih
  | goto h _ ih => exact .goto h ih

/-- A finishing machine has a run that returns. -/
theorem exists_run (h : Finishes poll serves crash post s store) :
    ∃ s' store' result,
      ReflTransGen (fun p q => Advances poll serves p.1 p.2 q.1 q.2) (s, store) (s', store') ∧
        poll s' = .ready result ∧ post result store' := by
  induction h with
  | @ready s store result h _ hpost => exact ⟨s, store, result, .refl, h, hpost⟩
  | @pending s store call resume h _ hserved _ ih =>
    obtain ⟨reply, store', hreply⟩ := hserved
    obtain ⟨s'', store'', result, hrun, hready, hpost⟩ := ih reply store' hreply
    refine ⟨s'', store'', result, .head ?_ hrun, hready, hpost⟩
    simp only [Advances, h]
    exact ⟨reply, hreply, rfl⟩
  | @goto s store next h _ ih =>
    obtain ⟨s'', store'', result, hrun, hready, hpost⟩ := ih
    refine ⟨s'', store'', result, .head ?_ hrun, hready, hpost⟩
    simp only [Advances, h, and_self]

/-- What a finishing machine steps to finishes. -/
theorem advances (h : Finishes poll serves crash post s store) {s' : σ} {store' : S}
    (hstep : Advances poll serves s store s' store') :
    Finishes poll serves crash post s' store' := by
  cases h with
  | ready h _ _ => simp only [Advances, h] at hstep
  | pending h _ _ hnext =>
    simp only [Advances, h] at hstep
    obtain ⟨reply, hreply, rfl⟩ := hstep
    exact hnext reply store' hreply
  | goto h hnext =>
    simp only [Advances, h] at hstep
    obtain ⟨rfl, rfl⟩ := hstep
    exact hnext

/-- Every run that returns ends in the postcondition. -/
theorem post_of_run (h : Finishes poll serves crash post s store) {s' : σ} {store' : S} {result : α}
    (hrun : ReflTransGen (fun p q => Advances poll serves p.1 p.2 q.1 q.2) (s, store) (s', store'))
    (hready : poll s' = .ready result) : post result store' := by
  have hall : ∀ q : σ × S,
      ReflTransGen (fun p q => Advances poll serves p.1 p.2 q.1 q.2) (s, store) q →
        Finishes poll serves crash post q.1 q.2 := by
    intro q hq
    induction hq with
    | refl => exact h
    | tail _ hstep ih => exact ih.advances hstep
  cases hall _ hrun with
  | ready h' _ hpost =>
    rw [hready, Poll.ready.injEq] at h'
    rwa [h']
  | pending h' _ _ _ =>
    rw [hready] at h'
    cases h'
  | goto h' _ =>
    rw [hready] at h'
    cases h'

end Finishes

/-! ## Calling one machine from another -/

/-- The rule of sequential composition. -/
theorem Finishes.embed {inner : σ → Poll Call Reply σ α} {outer : τ → Poll Call Reply τ β}
    {serves : Port Call Reply S} {crash : S → Prop} {mid : α → S → Prop} {post : β → S → Prop}
    {frame : σ → τ} {cont : α → τ} (hframe : ∀ s, outer (frame s) = (inner s).embed frame cont)
    {s : σ} {store : S} (h : Finishes inner serves crash mid s store)
    (hcont : ∀ result store, crash store → mid result store →
      Finishes outer serves crash post (cont result) store) :
    Finishes outer serves crash post (frame s) store := by
  induction h with
  | ready h hcrash hmid =>
    refine .goto ?_ (hcont _ _ hcrash hmid)
    rw [hframe, h, Poll.embed]
  | pending h hcrash hserved _ ih =>
    refine .pending ?_ hcrash hserved ih
    rw [hframe, h, Poll.embed]
  | goto h _ ih =>
    refine .goto ?_ ih
    rw [hframe, h, Poll.embed]

/-! ## Failing calls -/

/-- From `s` the machine returns without another call, and with a bad result. -/
inductive Stops (poll : σ → Poll Call Reply σ α) (bad : α → Prop) : σ → Prop where
  | ready {s result} (h : poll s = .ready result) (hbad : bad result) : Stops poll bad s
  | goto {s next} (h : poll s = .goto next) (hnext : Stops poll bad next) : Stops poll bad s

/-- Every reply that reports a fault makes the machine return at once. -/
def FaultStops (poll : σ → Poll Call Reply σ α) (fault : (call : Call) → Reply call → Prop)
    (bad : α → Prop) : Prop :=
  ∀ s call resume reply, poll s = .pending call resume → fault call reply →
    Stops poll bad (resume reply)

/-- A fault in an inner machine stops the frame that runs it. -/
theorem Stops.embed {inner : σ → Poll Call Reply σ α} {outer : τ → Poll Call Reply τ β}
    {frame : σ → τ} {cont : α → τ} {bad : α → Prop} {bad' : β → Prop}
    (hframe : ∀ s, outer (frame s) = (inner s).embed frame cont)
    (hcont : ∀ result, bad result → Stops outer bad' (cont result))
    {s : σ} (h : Stops inner bad s) : Stops outer bad' (frame s) := by
  induction h with
  | ready h hbad =>
    refine .goto ?_ (hcont _ hbad)
    rw [hframe, h, Poll.embed]
  | goto h _ ih =>
    refine .goto ?_ ih
    rw [hframe, h, Poll.embed]

/-- A frame returns on a fault of the machine it runs. -/
theorem FaultStops.embed {inner : σ → Poll Call Reply σ α} {outer : τ → Poll Call Reply τ β}
    {frame : σ → τ} {cont : α → τ} {fault : (call : Call) → Reply call → Prop} {bad : α → Prop}
    {bad' : β → Prop} (hinner : FaultStops inner fault bad)
    (hframe : ∀ s, outer (frame s) = (inner s).embed frame cont)
    (hcont : ∀ result, bad result → Stops outer bad' (cont result)) {s : σ} {call : Call}
    {resume : Reply call → τ} {reply : Reply call} (hpoll : outer (frame s) = .pending call resume)
    (hfault : fault call reply) : Stops outer bad' (resume reply) := by
  rw [hframe] at hpoll
  cases hs : inner s with
  | ready result =>
    rw [hs] at hpoll
    cases hpoll
  | goto next =>
    rw [hs] at hpoll
    cases hpoll
  | pending call' resume' =>
    rw [hs] at hpoll
    cases hpoll
    exact (hinner s _ resume' reply hs hfault).embed hframe hcont

/-- One step in which the call may fail: the machine is told of a fault, and the
call either took effect or did not. -/
inductive FaultyStep (poll : σ → Poll Call Reply σ α) (serves : Port Call Reply S)
    (fault : (call : Call) → Reply call → Prop) : σ × S → σ × S → Prop where
  | served {s store s' store'} (h : Advances poll serves s store s' store') :
      FaultyStep poll serves fault (s, store) (s', store')
  | failed {s store call resume reply store'} (h : poll s = .pending call resume)
      (hfault : fault call reply)
      (heffect : store' = store ∨ ∃ unseen, serves call store unseen store') :
      FaultyStep poll serves fault (s, store) (resume reply, store')

/-- A frame steps as the machine it runs does, or goes on with what that has returned. -/
theorem FaultyStep.embed {inner : σ → Poll Call Reply σ α} {outer : τ → Poll Call Reply τ β}
    {serves : Port Call Reply S} {fault : (call : Call) → Reply call → Prop} {frame : σ → τ}
    {cont : α → τ} (hframe : ∀ s, outer (frame s) = (inner s).embed frame cont) {s : σ} {t : τ}
    {store store' : S} (h : FaultyStep outer serves fault (frame s, store) (t, store')) :
    (∃ s', t = frame s' ∧ FaultyStep inner serves fault (s, store) (s', store')) ∨
      (∃ result, inner s = .ready result ∧ t = cont result ∧ store' = store) := by
  have hpoll := hframe s
  cases hs : inner s with
  | ready result =>
    rw [hs] at hpoll
    cases h with
    | served h =>
      simp only [Advances, hpoll, Poll.embed] at h
      exact .inr ⟨result, rfl, h⟩
    -- a machine that has returned has no call under way that could fail
    | failed h _ _ =>
      rw [hpoll] at h
      cases h
  | pending call resume =>
    rw [hs] at hpoll
    left
    cases h with
    | served h =>
      simp only [Advances, hpoll, Poll.embed] at h
      obtain ⟨reply, hserved, rfl⟩ := h
      refine ⟨resume reply, rfl, .served ?_⟩
      simp only [Advances, hs]
      exact ⟨reply, hserved, rfl⟩
    | failed h hfault heffect =>
      rw [hpoll] at h
      cases h
      exact ⟨resume _, rfl, .failed hs hfault heffect⟩
  | goto next =>
    rw [hs] at hpoll
    left
    cases h with
    | served h =>
      simp only [Advances, hpoll, Poll.embed] at h
      obtain ⟨rfl, rfl⟩ := h
      refine ⟨next, rfl, .served ?_⟩
      simp only [Advances, hs, and_self]
    | failed h _ _ =>
      rw [hpoll] at h
      cases h

namespace Finishes

variable {poll : σ → Poll Call Reply σ α} {serves : Port Call Reply S} {crash : S → Prop}
  {post : α → S → Prop} {fault : (call : Call) → Reply call → Prop} {bad : α → Prop}

/-- What a run with failing calls is in the middle of: a finishing machine, or
one that a fault has stopped. -/
def Underway (poll : σ → Poll Call Reply σ α) (serves : Port Call Reply S) (crash : S → Prop)
    (post : α → S → Prop) (bad : α → Prop) (p : σ × S) : Prop :=
  Finishes poll serves crash post p.1 p.2 ∨ (Stops poll bad p.1 ∧ crash p.2)

theorem Underway.step (hstops : FaultStops poll fault bad) {p q : σ × S}
    (hp : Underway poll serves crash post bad p) (hstep : FaultyStep poll serves fault p q) :
    Underway poll serves crash post bad q := by
  cases hstep with
  | served hstep =>
    rcases hp with hfin | ⟨hstop, hcrash⟩
    · exact .inl (hfin.advances hstep)
    · cases hstop with
      | ready h _ => simp only [Advances, h] at hstep
      | goto h hnext =>
        simp only [Advances, h] at hstep
        obtain ⟨rfl, rfl⟩ := hstep
        exact .inr ⟨hnext, hcrash⟩
  | @failed s store call resume reply store' hpoll hfault heffect =>
    refine .inr ⟨hstops _ _ _ _ hpoll hfault, ?_⟩
    rcases hp with hfin | ⟨hstop, -⟩
    · rcases heffect with rfl | ⟨unseen, hserved⟩
      · exact hfin.crash_now
      · have hnext : Advances poll serves s store (resume unseen) store' := by
          simp only [Advances, hpoll]
          exact ⟨unseen, hserved, rfl⟩
        exact (hfin.advances hnext).crash_now
    · cases hstop with
      | ready h _ =>
        rw [hpoll] at h
        cases h
      | goto h _ =>
        rw [hpoll] at h
        cases h

/-- What holds at the start is still under way, however many calls have failed. -/
theorem underway_of_run (hstops : FaultStops poll fault bad)
    (h : Finishes poll serves crash post s store) {q : σ × S}
    (hrun : ReflTransGen (FaultyStep poll serves fault) (s, store) q) :
    Underway poll serves crash post bad q := by
  induction hrun with
  | refl => exact .inl h
  | tail _ hstep ih => exact ih.step hstops hstep

/-- The condition holds wherever a run with failing calls is cut off. -/
theorem crash_of_run (hstops : FaultStops poll fault bad) {s s' : σ} {store store' : S}
    (h : Finishes poll serves crash post s store)
    (hrun : ReflTransGen (FaultyStep poll serves fault) (s, store) (s', store')) :
    crash store' := by
  rcases h.underway_of_run hstops hrun with hfin | ⟨-, hcrash⟩
  · exact hfin.crash_now
  · exact hcrash

/-- A run that returns a result of another kind than the faulty ones has met no failure. -/
theorem post_of_faultyRun (hstops : FaultStops poll fault bad) {s s' : σ} {store store' : S}
    {result : α} (h : Finishes poll serves crash post s store)
    (hrun : ReflTransGen (FaultyStep poll serves fault) (s, store) (s', store'))
    (hready : poll s' = .ready result) (hgood : ¬ bad result) : post result store' := by
  rcases h.underway_of_run hstops hrun with hfin | ⟨hstop, -⟩
  · exact hfin.post_of_run .refl hready
  · cases hstop with
    | ready h' hbad =>
      rw [hready, Poll.ready.injEq] at h'
      exact absurd (h' ▸ hbad) hgood
    | goto h' _ =>
      rw [hready] at h'
      cases h'

end Finishes

end Await
