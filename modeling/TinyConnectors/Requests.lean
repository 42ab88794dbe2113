/-
# Programs that make requests

A program that asks its surroundings for one thing at a time and goes on with
the answer is a tree with a branch for every answer.  What a run asked for and
what it came to are read off the answers it got.  `Ensures` is a condition on the
tree, built up along its binds; from it follows that in every run each request
is one the exchanges before it allow and the result one they warrant.
-/
import Mathlib.Data.List.Basic

/-- Requests `Req`, answered by `Ans`, and a result in the end. -/
inductive Prog (Req Ans α : Type) where
  | done (a : α)
  | ask (request : Req) (next : Ans → Prog Req Ans α)

namespace Prog

variable {Req Ans α β ε : Type}

/-- One program, then the one its result picks. -/
def bind : Prog Req Ans α → (α → Prog Req Ans β) → Prog Req Ans β
  | .done a, f => f a
  | .ask request next, f => .ask request fun answer => (next answer).bind f

instance : Monad (Prog Req Ans) where
  pure := .done
  bind := bind

/-! ## Runs -/

/-- What a run with these answers has asked for, each request with its answer. -/
def exchanges : Prog Req Ans α → List Ans → List (Req × Ans)
  | .ask request next, answer :: answers => (request, answer) :: (next answer).exchanges answers
  | _, _ => []

/-- What it has come to, if it has ended. -/
def result : Prog Req Ans α → List Ans → Option α
  | .done a, _ => some a
  | .ask _ _, [] => none
  | .ask _ next, answer :: answers => (next answer).result answers

/-- What it comes to when every request is answered by `reply`. -/
def under (reply : Req → Ans) : Prog Req Ans α → α
  | .done a => a
  | .ask request next => (next (reply request)).under reply

theorem under_bind (reply : Req → Ans) (p : Prog Req Ans α) (f : α → Prog Req Ans β) :
    (p >>= f).under reply = (f (p.under reply)).under reply := by
  induction p with
  | done a => rfl
  | ask request next ih => exact ih (reply request)

/-- A failing program under surroundings that let its first part succeed. -/
theorem under_bind_ok {reply : Req → Ans} {p : ExceptT ε (Prog Req Ans) α} {a : α}
    (h : p.run.under reply = .ok a) (f : α → ExceptT ε (Prog Req Ans) β) :
    (p >>= f).run.under reply = (f a).run.under reply := by
  have hbind := under_bind reply p.run (ExceptT.bindCont f)
  rw [h] at hbind
  exact hbind

theorem under_attempt (reply : Req → Ans) (p : Prog Req Ans α) :
    (ExceptT.lift (ε := ε) p).run.under reply = .ok (p.under reply) :=
  under_bind reply p fun a => Prog.done (Except.ok (ε := ε) a)

/-- One part, then what its value picks; a failure is the failure of the whole. -/
theorem under_andThen (reply : Req → Ans) (p : ExceptT ε (Prog Req Ans) α)
    (f : α → ExceptT ε (Prog Req Ans) β) :
    (p >>= f).run.under reply = (p.run.under reply).bind fun a => (f a).run.under reply := by
  have hbind := under_bind reply p.run (ExceptT.bindCont f)
  cases hp : p.run.under reply with
  | ok a => exact under_bind_ok hp f
  | error e =>
    rw [hp] at hbind
    exact hbind

/-- The exchanges of a run whose requests are answered one after the other. -/
def transcript : Prog Req Ans α → (ℕ → Ans) → List (Req × Ans)
  | .done _, _ => []
  | .ask request next, answers =>
    (request, answers 0) :: (next (answers 0)).transcript fun n => answers (n + 1)

/-- What such a run comes to. -/
def outcome : Prog Req Ans α → (ℕ → Ans) → α
  | .done a, _ => a
  | .ask _ next, answers => (next (answers 0)).outcome fun n => answers (n + 1)

/-- Each answer of such a run is the one of its turn. -/
theorem mem_transcript {p : Prog Req Ans α} {answers : ℕ → Ans} {exchange : Req × Ans}
    (h : exchange ∈ p.transcript answers) : ∃ n, exchange.2 = answers n := by
  induction p generalizing answers with
  | done a => cases h
  | ask request next ih =>
    rcases List.mem_cons.mp h with rfl | h
    · exact ⟨0, rfl⟩
    · obtain ⟨n, hn⟩ := ih (answers 0) h
      exact ⟨n + 1, hn⟩

/-- The second program is answered from where the first has stopped. -/
theorem transcript_bind (p : Prog Req Ans α) (f : α → Prog Req Ans β) (answers : ℕ → Ans) :
    (p >>= f).transcript answers = p.transcript answers ++
      (f (p.outcome answers)).transcript fun n => answers (n + (p.transcript answers).length) := by
  induction p generalizing answers with
  | done a => rfl
  | ask request next ih =>
    show (request, answers 0) :: (next (answers 0) >>= f).transcript (fun n => answers (n + 1)) = _
    rw [ih (answers 0) fun n => answers (n + 1)]
    simp only [transcript, outcome, List.cons_append, List.length_cons]
    congr 2

theorem outcome_bind (p : Prog Req Ans α) (f : α → Prog Req Ans β) (answers : ℕ → Ans) :
    (p >>= f).outcome answers =
      (f (p.outcome answers)).outcome fun n => answers (n + (p.transcript answers).length) := by
  induction p generalizing answers with
  | done a => rfl
  | ask request next ih => exact ih (answers 0) fun n => answers (n + 1)

/-! ## Rules -/

/-- Each request is one that the exchanges before it allow, and the result one that
all of them warrant, whatever is answered after the exchanges `past`. -/
def Ensures (may : List (Req × Ans) → Req → Prop) (good : List (Req × Ans) → α → Prop) :
    List (Req × Ans) → Prog Req Ans α → Prop
  | past, .done a => good past a
  | past, .ask request next =>
    may past request ∧ ∀ answer, Ensures may good (past ++ [(request, answer)]) (next answer)

section Rules

variable {may : List (Req × Ans) → Req → Prop} {past : List (Req × Ans)}

theorem Ensures.mono {good better : List (Req × Ans) → α → Prop} {p : Prog Req Ans α}
    (h : Ensures may better past p) (himp : ∀ past a, better past a → good past a) :
    Ensures may good past p := by
  induction p generalizing past with
  | done a => exact himp past a h
  | ask request next ih => exact ⟨h.1, fun answer => ih answer (h.2 answer)⟩

/-- The exchanges before a program are still there after it. -/
theorem Ensures.grows {good : List (Req × Ans) → α → Prop} {p : Prog Req Ans α}
    (h : Ensures may good past p) :
    Ensures may (fun later a => past <+: later ∧ good later a) past p := by
  induction p generalizing past with
  | done a => exact ⟨List.prefix_refl past, h⟩
  | ask request next ih =>
    refine ⟨h.1, fun answer => ?_⟩
    refine (ih answer (h.2 answer)).mono ?_
    rintro later a ⟨hle, ha⟩
    exact ⟨(List.prefix_append past _).trans hle, ha⟩

theorem Ensures.andThen {f : α → Prog Req Ans β} {good : List (Req × Ans) → β → Prop}
    {p : Prog Req Ans α} (h : Ensures may (fun later a => Ensures may good later (f a)) past p) :
    Ensures may good past (p >>= f) := by
  induction p generalizing past with
  | done a => exact h
  | ask request next ih => exact ⟨h.1, fun answer => ih answer (h.2 answer)⟩

/-- The second program goes on after the exchanges of the first. -/
theorem Ensures.bind {f : α → Prog Req Ans β} {good : List (Req × Ans) → β → Prop}
    {p : Prog Req Ans α}
    (h : Ensures may (fun later a => past <+: later → Ensures may good later (f a)) past p) :
    Ensures may good past (p >>= f) := by
  apply Ensures.andThen
  refine h.grows.mono ?_
  rintro later a ⟨hle, ha⟩
  exact ha hle

/-- Every run keeps to the rule about its requests. -/
theorem Ensures.may_of_exchanges {good : List (Req × Ans) → α → Prop} {p : Prog Req Ans α}
    (h : Ensures may good past p) {answers : List Ans} {before later : List (Req × Ans)}
    {request : Req} {answer : Ans}
    (hrun : p.exchanges answers = before ++ (request, answer) :: later) :
    may (past ++ before) request := by
  induction answers generalizing p past before with
  | nil =>
    cases p with
    | done a => cases before <;> cases hrun
    | ask r next => cases before <;> cases hrun
  | cons first answers ih =>
    cases p with
    | done a => cases before <;> cases hrun
    | ask r next =>
      rw [exchanges] at hrun
      cases before with
      | nil =>
        rw [List.nil_append, List.cons.injEq, Prod.mk.injEq] at hrun
        obtain ⟨⟨rfl, rfl⟩, _⟩ := hrun
        rw [List.append_nil]
        exact h.1
      | cons exchange before =>
        rw [List.cons_append, List.cons.injEq] at hrun
        obtain ⟨rfl, hrest⟩ := hrun
        have := ih (h.2 first) hrest
        rwa [List.append_assoc] at this

/-- Every run that ends comes to what it should. -/
theorem Ensures.good_of_result {good : List (Req × Ans) → α → Prop} {p : Prog Req Ans α}
    (h : Ensures may good past p) {answers : List Ans} {a : α} (hrun : p.result answers = some a) :
    good (past ++ p.exchanges answers) a := by
  induction answers generalizing p past with
  | nil =>
    cases p with
    | done b =>
      rw [result, Option.some_inj] at hrun
      rw [exchanges, List.append_nil]
      · exact hrun ▸ h
      · intros
        contradiction
    | ask r next => cases hrun
  | cons first answers ih =>
    cases p with
    | done b =>
      rw [result, Option.some_inj] at hrun
      rw [exchanges, List.append_nil]
      · exact hrun ▸ h
      · intros
        contradiction
    | ask r next =>
      rw [exchanges]
      have := ih (h.2 first) hrun
      rwa [List.append_assoc] at this

/-- So does the run that is answered one request after the other: it ends, each
request is allowed by those before it, and the result is warranted by all. -/
theorem Ensures.transcript {good : List (Req × Ans) → α → Prop} {p : Prog Req Ans α}
    (h : Ensures may good past p) (answers : ℕ → Ans) :
    (∀ before exchange later, p.transcript answers = before ++ exchange :: later →
      may (past ++ before) exchange.1) ∧
        good (past ++ p.transcript answers) (p.outcome answers) := by
  induction p generalizing past answers with
  | done a =>
    refine ⟨?_, ?_⟩
    · intro before exchange later hrun
      cases before <;> cases hrun
    · rw [Prog.transcript, List.append_nil]
      exact h
  | ask request next ih =>
    obtain ⟨hmay, hgood⟩ := ih (answers 0) (h.2 (answers 0)) fun n => answers (n + 1)
    rw [List.append_assoc] at hgood
    refine ⟨?_, hgood⟩
    intro before exchange later hrun
    rw [Prog.transcript] at hrun
    rcases before with _ | ⟨first, before⟩
    · rw [List.nil_append, List.cons.injEq] at hrun
      rw [List.append_nil, ← hrun.1]
      exact h.1
    · rw [List.cons_append, List.cons.injEq] at hrun
      have hlater := hmay before exchange later hrun.2
      rw [List.append_assoc] at hlater
      rw [← hrun.1]
      exact hlater

end Rules

/-! ## Programs that may fail -/

/-- As `Ensures`, of a program that may also end in an error: only its values count. -/
structure Yields (may : List (Req × Ans) → Req → Prop) (good : List (Req × Ans) → α → Prop)
    (past : List (Req × Ans)) (p : ExceptT ε (Prog Req Ans) α) : Prop where
  ensures : Ensures may (fun past outcome => ∀ a, outcome = .ok a → good past a) past p.run

section Yields

variable {may : List (Req × Ans) → Req → Prop} {good : List (Req × Ans) → α → Prop}
  {past : List (Req × Ans)}

theorem Yields.pure {a : α} (h : good past a) : Yields (ε := ε) may good past (pure a) := by
  constructor
  intro b hb
  cases hb
  exact h

theorem Yields.throw (e : ε) : Yields may good past (throw e : ExceptT ε (Prog Req Ans) α) := by
  constructor
  intro a ha
  cases ha

/-- What is already decided is decided without a request. -/
theorem Yields.liftExcept {x : Except ε α} (h : ∀ a, x = .ok a → good past a) :
    Yields may good past (liftM x : ExceptT ε (Prog Req Ans) α) := by
  constructor
  intro a ha
  exact h a ha

/-- A failure that is looked at goes on like a value. -/
theorem Yields.attempt {p : Prog Req Ans α} (h : Ensures may good past p) :
    Yields (ε := ε) may good past (ExceptT.lift p) := by
  constructor
  apply Ensures.bind (p := p)
  refine h.mono ?_
  intro later a ha _ b hb
  cases hb
  exact ha

/-- A failing program goes on only with a value. -/
theorem Yields.bind {f : α → ExceptT ε (Prog Req Ans) β} {good : List (Req × Ans) → β → Prop}
    {p : ExceptT ε (Prog Req Ans) α}
    (h : Yields may (fun later a => past <+: later → Yields may good later (f a)) past p) :
    Yields may good past (p >>= f) := by
  constructor
  apply Ensures.bind (p := p.run)
  refine h.ensures.mono ?_
  intro later outcome houtcome hle
  cases outcome with
  | ok a => exact (houtcome a rfl hle).ensures
  | error e =>
    intro b hb
    cases hb

theorem Yields.mono {better : List (Req × Ans) → α → Prop} {p : ExceptT ε (Prog Req Ans) α}
    (h : Yields may better past p) (himp : ∀ past a, better past a → good past a) :
    Yields may good past p := by
  constructor
  refine h.ensures.mono ?_
  intro past outcome houtcome a ha
  exact himp past a (houtcome a ha)

/-- One request and its answer. -/
theorem Yields.ask {request : Req} {reading : Ans → Except ε α} (hmay : may past request)
    (hgood : ∀ answer a, reading answer = .ok a → good (past ++ [(request, answer)]) a) :
    Yields may good past (ExceptT.mk (.ask request fun answer => .done (reading answer))) := by
  constructor
  exact ⟨hmay, hgood⟩

/-- Every run from the start keeps to the rule about its requests. -/
theorem Yields.may_of_exchanges {p : ExceptT ε (Prog Req Ans) α} (h : Yields may good [] p)
    {answers : List Ans} {before later : List (Req × Ans)} {request : Req} {answer : Ans}
    (hrun : p.run.exchanges answers = before ++ (request, answer) :: later) : may before request :=
  h.ensures.may_of_exchanges hrun

/-- Every run from the start that ends in a value ends in a good one. -/
theorem Yields.good_of_result {p : ExceptT ε (Prog Req Ans) α} (h : Yields may good [] p)
    {answers : List Ans} {a : α} (hrun : p.run.result answers = some (.ok a)) :
    good (p.run.exchanges answers) a :=
  h.ensures.good_of_result hrun a rfl

end Yields

/-! ## Programs that stop at an answer -/

/-- The program has failed, or fails when this is the answer to its next request. -/
inductive StopsAt (answer : Ans) (p : ExceptT ε (Prog Req Ans) α) : Prop where
  | failed (e : ε) (h : p.run = .done (.error e))
  | fails (request : Req) (next : Ans → Prog Req Ans (Except ε α)) (e : ε)
      (h : p.run = .ask request next) (hnext : next answer = .done (.error e))

section StopsAt

variable {answer : Ans}

theorem StopsAt.of_throw (e : ε) : StopsAt answer (throw e : ExceptT ε (Prog Req Ans) α) :=
  .failed e rfl

theorem StopsAt.ask {request : Req} {reading : Ans → Except ε α} {e : ε}
    (h : reading answer = .error e) :
    StopsAt answer (ExceptT.mk (.ask request fun answer => .done (reading answer))) :=
  .fails request _ e rfl (by rw [h])

/-- A program that has failed does not go on. -/
theorem StopsAt.bind {p : ExceptT ε (Prog Req Ans) α} (h : StopsAt answer p)
    (f : α → ExceptT ε (Prog Req Ans) β) : StopsAt answer (p >>= f) := by
  have hrun : (p >>= f).run = Prog.bind p.run (ExceptT.bindCont f) := rfl
  cases h with
  | failed e h =>
    refine .failed e ?_
    rw [hrun, h]
    rfl
  | fails request next e h hnext =>
    refine .fails request (fun answer => (next answer).bind (ExceptT.bindCont f)) e ?_ ?_
    · rw [hrun, h]
      rfl
    · rw [hnext]
      rfl

theorem StopsAt.skip {a : α} {f : α → ExceptT ε (Prog Req Ans) β} (h : StopsAt answer (f a)) :
    StopsAt answer (pure a >>= f : ExceptT ε (Prog Req Ans) β) := by
  cases h with
  | failed e h => exact .failed e h
  | fails request next e h hnext => exact .fails request next e h hnext

/-- What is already decided is an error, or is gone on with. -/
theorem StopsAt.liftExcept {x : Except ε α} {f : α → ExceptT ε (Prog Req Ans) β}
    (h : ∀ a, x = .ok a → StopsAt answer (f a)) :
    StopsAt answer (liftM x >>= f : ExceptT ε (Prog Req Ans) β) := by
  cases x with
  | ok a => exact StopsAt.skip (h a rfl)
  | error e => exact .failed e rfl

/-- A failure that is looked at, and made one of the program's own. -/
theorem StopsAt.attempt {request : Req} {reading : Ans → Except ε α}
    {f : Except ε α → ExceptT ε (Prog Req Ans) β} {e : ε}
    (h : f (reading answer) = throw e) :
    StopsAt answer (ExceptT.lift
      (ExceptT.mk (.ask request fun answer => .done (reading answer)) : ExceptT ε
        (Prog Req Ans) α).run
      >>= f) := by
  refine .fails request (fun answer => (f (reading answer)).run) e rfl ?_
  rw [h]
  rfl

/-- It makes one request at most. -/
theorem StopsAt.run {p : ExceptT ε (Prog Req Ans) α} (h : StopsAt answer p) (answers : List Ans) :
    (∃ e, p.run.result (answer :: answers) = some (.error e)) ∧
      (p.run.exchanges (answer :: answers)).length ≤ 1 := by
  cases h with
  | failed e h =>
    rw [h]
    exact ⟨⟨e, rfl⟩, Nat.zero_le _⟩
  | fails request next e h hnext =>
    rw [h, result, exchanges, hnext]
    refine ⟨⟨e, rfl⟩, ?_⟩
    cases answers <;> exact Nat.le_refl _

end StopsAt

end Prog
