/-
# Programs in surroundings that change

A small library, independent of any program.  Calls are served by programs that make
requests one at a time, any number of them at once, in surroundings that others replace
meanwhile; a request is answered as the surroundings are at that moment.  What a program
ensures alone (`Prog.Ensures`) it ensures in every interleaving, and each answer it has
been given is one the surroundings had for it at some time since it was called.
-/
import TinyConnectors.Await
import TinyConnectors.Requests

open Await

namespace Session

variable {Call Req Ans α P : Type}

/-! ## Surroundings -/

/-- What is in place, and what was. -/
structure Place (P : Type) where
  current : P
  /-- History: the oldest first. -/
  past : List P

namespace Place

/-- All that has been in place, the present last. -/
def contents (place : Place P) : List P := place.past ++ [place.current]

def replace (place : Place P) (next : P) : Place P := ⟨next, place.contents⟩

/-- At some time since `began` replacements had happened, `q` held of what was in place. -/
def HeldSince (place : Place P) (began : ℕ) (q : P → Prop) : Prop :=
  ∃ n p, began ≤ n ∧ place.contents[n]? = some p ∧ q p

variable {place place' : Place P} {began : ℕ} {q : P → Prop}

theorem getElem?_current (place : Place P) :
    place.contents[place.past.length]? = some place.current := by
  rw [contents, List.getElem?_append_right (le_refl _), Nat.sub_self]
  rfl

theorem contents_replace (place : Place P) (next : P) :
    place.contents <+: (place.replace next).contents := List.prefix_append ..

/-- What holds now has held. -/
theorem heldSince_current (h : q place.current) (hbegan : began ≤ place.past.length) :
    place.HeldSince began q :=
  ⟨place.past.length, place.current, hbegan, place.getElem?_current, h⟩

theorem HeldSince.imp {q' : P → Prop} (h : place.HeldSince began q) (himp : ∀ p, q p → q' p) :
    place.HeldSince began q' := by
  obtain ⟨n, p, hle, hn, hq⟩ := h
  exact ⟨n, p, hle, hn, himp p hq⟩

/-- What has held has held later too. -/
theorem HeldSince.mono (h : place.HeldSince began q) (hgrow : place.contents <+: place'.contents) :
    place'.HeldSince began q := by
  obtain ⟨n, p, hle, hn, hq⟩ := h
  obtain ⟨later, hlater⟩ := hgrow
  refine ⟨n, p, hle, ?_, hq⟩
  rw [← hlater, List.getElem?_append_left]
  · exact hn
  · exact (List.getElem?_eq_some_iff.mp hn).1

/-- Where nothing was replaced, what has held holds. -/
theorem HeldSince.current (h : place.HeldSince place.past.length q) : q place.current := by
  obtain ⟨n, p, hle, hn, hq⟩ := h
  have hlt := (List.getElem?_eq_some_iff.mp hn).1
  rw [contents, List.length_append, List.length_singleton] at hlt
  obtain rfl : n = place.past.length := by omega
  rw [place.getElem?_current, Option.some_inj] at hn
  rwa [hn]

theorem length_mono (hgrow : place.contents <+: place'.contents) :
    place.past.length ≤ place'.past.length := by
  have hle := hgrow.length_le
  rw [contents, contents, List.length_append, List.length_append, List.length_singleton,
    List.length_singleton] at hle
  omega

end Place

/-! ## Calls under way -/

/-- A call, and once it has begun its program with what it was answered so far. -/
inductive Task (Call Req Ans α : Type) where
  | called (call : Call)
  /-- `began` counts the replacements before it; the exchanges are in order. -/
  | running (call : Call) (began : ℕ) (past : List (Req × Ans)) (program : Prog Req Ans α)

section Steps

variable (body : Call → Prog Req Ans α) (serves : Req → P → Ans → Prop)

/-- One step of one call. -/
inductive Task.Step (place : Place P) : Task Call Req Ans α → Task Call Req Ans α → Prop where
  | begin (call : Call) :
      Task.Step place (.called call) (.running call place.past.length [] (body call))
  | exchange (call : Call) (began : ℕ) (past : List (Req × Ans)) (request : Req)
      (next : Ans → Prog Req Ans α) (answer : Ans) (h : serves request place.current answer) :
      Task.Step place (.running call began past (.ask request next))
        (.running call began (past ++ [(request, answer)]) (next answer))

/-- Calls and replacements. -/
def sessions : System (Task Call Req Ans α) (Place P) where
  task t place t' place' := place' = place ∧ t.Step body serves place t'
  env place place' := ∃ next, place' = place.replace next

end Steps

/-! ## What every interleaving keeps -/

section Runs

variable {body : Call → Prog Req Ans α} {serves : Req → P → Ans → Prop}
  {may : Call → List (Req × Ans) → Req → Prop} {good : Call → List (Req × Ans) → α → Prop}

/-- Each request is one that the exchanges before it allow. -/
def Allowed (may : List (Req × Ans) → Req → Prop) (past : List (Req × Ans)) : Prop :=
  ∀ before exchange later, past = before ++ exchange :: later → may before exchange.1

theorem Allowed.nil (may : List (Req × Ans) → Req → Prop) : Allowed may [] := by
  intro before exchange later h
  simp at h

theorem Allowed.snoc {may : List (Req × Ans) → Req → Prop} {past : List (Req × Ans)} {request : Req}
    (h : Allowed may past) (hrequest : may past request) (answer : Ans) :
    Allowed may (past ++ [(request, answer)]) := by
  intro before exchange later hsplit
  rcases List.eq_nil_or_concat later with rfl | ⟨later', last, rfl⟩
  · obtain ⟨rfl, hlast⟩ := List.append_inj' hsplit rfl
    rw [List.cons.injEq] at hlast
    rw [← hlast.1]
    exact hrequest
  · rw [List.concat_eq_append, ← List.cons_append, ← List.append_assoc] at hsplit
    obtain ⟨rfl, -⟩ := List.append_inj' hsplit rfl
    exact h before exchange later' rfl

/-- At the end of a program its requests are known to have been allowed. -/
theorem ensures_allowed {may : List (Req × Ans) → Req → Prop} {good : List (Req × Ans) → α → Prop}
    {past : List (Req × Ans)} {p : Prog Req Ans α} (h : Prog.Ensures may good past p)
    (hpast : Allowed may past) :
    Prog.Ensures may (fun later a => Allowed may later ∧ good later a) past p := by
  induction p generalizing past with
  | done a => exact ⟨hpast, h⟩
  | ask request next ih =>
    exact ⟨h.1, fun answer => ih answer (h.2 answer) (hpast.snoc h.1 answer)⟩

/-- A rule that allows no more than another after these exchanges. -/
theorem ensures_imp {may may' : List (Req × Ans) → Req → Prop} {good : List (Req × Ans) → α → Prop}
    {past : List (Req × Ans)} {p : Prog Req Ans α} (h : Prog.Ensures may good past p)
    (himp : ∀ later request, past <+: later → may later request → may' later request) :
    Prog.Ensures may' good past p := by
  induction p generalizing past with
  | done a => exact h
  | ask request next ih =>
    refine ⟨himp past request List.prefix_rfl h.1, fun answer => ih answer (h.2 answer) ?_⟩
    intro later request' hle
    exact himp later request' ((List.prefix_append past _).trans hle)

/-- How a call that has begun stands. -/
structure Stands (serves : Req → P → Ans → Prop) (may : List (Req × Ans) → Req → Prop)
    (good : List (Req × Ans) → α → Prop) (place : Place P) (began : ℕ) (past : List (Req × Ans))
    (program : Prog Req Ans α) : Prop where
  since : began ≤ place.past.length
  /-- Every request so far was allowed. -/
  allowed : Allowed may past
  /-- Every answer so far is one there was for the request since the call. -/
  served : ∀ exchange ∈ past, place.HeldSince began fun p => serves exchange.1 p exchange.2
  /-- The rest keeps to the same rules. -/
  rest : Prog.Ensures may good past program

/-- The assertion of one call. -/
def Sound (serves : Req → P → Ans → Prop) (may : Call → List (Req × Ans) → Req → Prop)
    (good : Call → List (Req × Ans) → α → Prop) (t : Task Call Req Ans α) (place : Place P) :
    Prop :=
  match t with
  | .called _ => True
  | .running call began past program =>
      Stands serves (may call) (good call) place began past program

theorem Sound.step (hbody : ∀ call, Prog.Ensures (may call) (good call) [] (body call))
    {place : Place P} {t t' : Task Call Req Ans α} (h : Sound serves may good t place)
    (hstep : t.Step body serves place t') : Sound serves may good t' place := by
  cases hstep with
  | begin call =>
    refine ⟨Nat.le_refl _, Allowed.nil _, ?_, hbody call⟩
    intro exchange hmem
    exact absurd hmem List.not_mem_nil
  | exchange call began past request next answer hserves =>
    obtain ⟨hmay, hrest⟩ := h.rest
    refine ⟨h.since, h.allowed.snoc hmay answer, ?_, hrest answer⟩
    intro exchange hmem
    rcases List.mem_append.mp hmem with hbefore | hnow
    · exact h.served exchange hbefore
    · -- the answer of this moment
      rw [List.mem_singleton.mp hnow]
      exact Place.heldSince_current hserves h.since

theorem Sound.mono {t : Task Call Req Ans α} {place place' : Place P}
    (hgrow : place.contents <+: place'.contents) (h : Sound serves may good t place) :
    Sound serves may good t place' := by
  cases t with
  | called call => exact trivial
  | running call began past program =>
    refine ⟨h.since.trans (Place.length_mono hgrow), h.allowed, ?_, h.rest⟩
    intro exchange hmem
    exact (h.served exchange hmem).mono hgrow

theorem stable (hbody : ∀ call, Prog.Ensures (may call) (good call) [] (body call)) :
    (sessions body serves).Stable (fun _ => True) (Sound serves may good)
      fun place place' => place.contents <+: place'.contents where
  task := by
    rintro t place t' place' - ht ⟨rfl, hstep⟩
    exact ⟨trivial, ht.step hbody hstep, List.prefix_rfl⟩
  env := by
    rintro place place' - ⟨next, rfl⟩
    exact ⟨trivial, place.contents_replace next⟩
  mono _ hgrow ht := ht.mono hgrow

/-- Whatever the order of steps, each call keeps to what its program ensures. -/
theorem stands_of_run {ι : Type} [DecidableEq ι]
    (hbody : ∀ call, Prog.Ensures (may call) (good call) [] (body call))
    {c c' : Config ι (Task Call Req Ans α) (Place P)}
    (hcalled : ∀ i, ∃ call, c.tasks i = .called call) (hrun : (sessions body serves).Run c c')
    {i : ι} {call : Call} {began : ℕ} {past : List (Req × Ans)} {program : Prog Req Ans α}
    (hi : c'.tasks i = .running call began past program) :
    Stands serves (may call) (good call) c'.store began past program := by
  have hstart : c.Holds (fun _ => True) (Sound serves may good) := by
    refine ⟨trivial, fun i => ?_⟩
    obtain ⟨call, hcall⟩ := hcalled i
    rw [hcall]
    exact trivial
  have hsound := ((stable hbody).reachable hstart hrun).2 i
  rw [hi] at hsound
  exact hsound

end Runs

/-! ## Programs within programs -/

section Within

variable {Req' Ans' : Type} (request : Req' → Req) (answer : Ans → Ans')

/-- A program whose requests are written as others, and whose answers are read off theirs. -/
def within : Prog Req' Ans' α → Prog Req Ans α
  | .done a => .done a
  | .ask r next => .ask (request r) fun reply => within (next (answer reply))

/-- The exchanges of an inner program, as those of the outer one. -/
def Mirrors (outer : List (Req × Ans)) (inner : List (Req' × Ans')) : Prop :=
  List.Forall₂ (fun x y => x.1 = request y.1 ∧ answer x.2 = y.2) outer inner

variable {request answer}

/-- What was exchanged inside was exchanged outside. -/
theorem Mirrors.exists_of_mem {outer : List (Req × Ans)} {inner : List (Req' × Ans')}
    (h : Mirrors request answer outer inner) {exchange : Req' × Ans'} (hmem : exchange ∈ inner) :
    ∃ reply, (request exchange.1, reply) ∈ outer ∧ answer reply = exchange.2 := by
  induction h with
  | nil => exact absurd hmem List.not_mem_nil
  | @cons x y outer inner hxy _ ih =>
    rcases List.mem_cons.mp hmem with rfl | hmem
    · refine ⟨x.2, ?_, hxy.2⟩
      rw [← hxy.1]
      exact List.mem_cons_self
    · obtain ⟨reply, hreply, hanswer⟩ := ih hmem
      exact ⟨reply, List.mem_cons_of_mem x hreply, hanswer⟩

/-- What an inner program ensures of its exchanges the outer one ensures of the mirrored ones. -/
theorem ensures_within {may : List (Req × Ans) → Req → Prop} {good : List (Req × Ans) → α → Prop}
    {may' : List (Req' × Ans') → Req' → Prop} {good' : List (Req' × Ans') → α → Prop}
    {base : List (Req × Ans)}
    (hmay : ∀ outer inner r, Mirrors request answer outer inner → may' inner r →
      may (base ++ outer) (request r))
    (hgood : ∀ outer inner a, Mirrors request answer outer inner → good' inner a →
      good (base ++ outer) a)
    {outer : List (Req × Ans)} {inner : List (Req' × Ans')} {p : Prog Req' Ans' α}
    (hmirrors : Mirrors request answer outer inner) (h : Prog.Ensures may' good' inner p) :
    Prog.Ensures may good (base ++ outer) (within request answer p) := by
  induction p generalizing outer inner with
  | done a => exact hgood outer inner a hmirrors h
  | ask r next ih =>
    refine ⟨hmay outer inner r hmirrors h.1, fun reply => ?_⟩
    rw [List.append_assoc]
    apply ih (answer reply) _ (h.2 (answer reply))
    exact List.rel_append hmirrors (.cons ⟨rfl, rfl⟩ .nil)

end Within

/-! ## Programs whose failures count -/

section Settles

variable {β ε : Type} {may : List (Req × Ans) → Req → Prop}
  {good : List (Req × Ans) → Except ε α → Prop} {past : List (Req × Ans)}

/-- As `Prog.Yields`, of the errors as well. -/
structure Settles (may : List (Req × Ans) → Req → Prop)
    (good : List (Req × Ans) → Except ε α → Prop) (past : List (Req × Ans))
    (p : ExceptT ε (Prog Req Ans) α) : Prop where
  ensures : Prog.Ensures may good past p.run

theorem Settles.pure {a : α} (h : good past (.ok a)) : Settles may good past (pure a) := ⟨h⟩

theorem Settles.throw {e : ε} (h : good past (.error e)) : Settles may good past (throw e) := ⟨h⟩

/-- One request and its answer. -/
theorem Settles.ask {request : Req} {reading : Ans → Except ε α} (hmay : may past request)
    (hgood : ∀ answer, good (past ++ [(request, answer)]) (reading answer)) :
    Settles may good past (ExceptT.mk (.ask request fun answer => .done (reading answer))) :=
  ⟨hmay, hgood⟩

/-- A failure is the failure of the whole. -/
theorem Settles.bind {first : List (Req × Ans) → Except ε β → Prop} {p : ExceptT ε (Prog Req Ans) β}
    {f : β → ExceptT ε (Prog Req Ans) α} (h : Settles may first past p)
    (hf : ∀ later a, past <+: later → first later (.ok a) → Settles may good later (f a))
    (herror : ∀ later e, past <+: later → first later (.error e) → good later (.error e)) :
    Settles may good past (p >>= f) := by
  constructor
  apply Prog.Ensures.bind (p := p.run)
  refine h.ensures.mono ?_
  intro later outcome houtcome hle
  cases outcome with
  | ok a => exact (hf later a hle houtcome).ensures
  | error e => exact herror later e hle houtcome

/-- A program whose failures are looked at does not fail. -/
theorem Settles.attempt {good : List (Req × Ans) → α → Prop} {p : Prog Req Ans α}
    (h : Prog.Ensures may good past p) :
    Settles (ε := ε) may (fun later outcome => ∃ a, outcome = .ok a ∧ good later a) past
      (ExceptT.lift p) := by
  constructor
  apply Prog.Ensures.bind (p := p)
  refine h.mono ?_
  intro later a ha _
  exact ⟨a, rfl, ha⟩

theorem Settles.mono {better : List (Req × Ans) → Except ε α → Prop}
    {p : ExceptT ε (Prog Req Ans) α} (h : Settles may better past p)
    (himp : ∀ later outcome, better later outcome → good later outcome) :
    Settles may good past p :=
  ⟨h.ensures.mono himp⟩

theorem Settles.imp {may' : List (Req × Ans) → Req → Prop} {p : ExceptT ε (Prog Req Ans) α}
    (h : Settles may good past p)
    (himp : ∀ later request, past <+: later → may later request → may' later request) :
    Settles may' good past p :=
  ⟨ensures_imp h.ensures himp⟩

end Settles

/-! ## One run of a program -/

section Leads

variable {β ε Req' Ans' : Type}

/-- After these exchanges the rest of one program is another. -/
inductive Leads : List (Req × Ans) → Prog Req Ans α → Prog Req Ans α → Prop
  | refl (p : Prog Req Ans α) : Leads [] p p
  | ask {request : Req} {answer : Ans} {next : Ans → Prog Req Ans α} {rest : List (Req × Ans)}
      {p : Prog Req Ans α} (h : Leads rest (next answer) p) :
      Leads ((request, answer) :: rest) (.ask request next) p

theorem Leads.trans {first second : List (Req × Ans)} {p p' p'' : Prog Req Ans α}
    (h : Leads first p p') (h' : Leads second p' p'') : Leads (first ++ second) p p'' := by
  induction h with
  | refl p => exact h'
  | ask _ ih => exact .ask (ih h')

theorem Leads.bind {exchanges : List (Req × Ans)} {p p' : Prog Req Ans β}
    (h : Leads exchanges p p') (f : β → Prog Req Ans α) : Leads exchanges (p >>= f) (p' >>= f) := by
  induction h with
  | refl p => exact .refl _
  | ask _ ih => exact .ask ih

/-- A part that succeeds. -/
theorem Leads.andThen {exchanges : List (Req × Ans)} {p : ExceptT ε (Prog Req Ans) β} {b : β}
    (h : Leads exchanges p.run (.done (.ok b))) (f : β → ExceptT ε (Prog Req Ans) α) :
    Leads exchanges (p >>= f).run (f b).run :=
  h.bind (ExceptT.bindCont f)

theorem Leads.map {exchanges : List (Req × Ans)} {p p' : ExceptT ε (Prog Req Ans) β}
    (h : Leads exchanges p.run p'.run) (f : β → α) : Leads exchanges (f <$> p).run (f <$> p').run :=
  Leads.bind h _

/-- A part whose failures are looked at. -/
theorem Leads.attempt {exchanges : List (Req × Ans)} {p : Prog Req Ans β} {b : β}
    (h : Leads exchanges p (.done b)) (f : β → ExceptT ε (Prog Req Ans) α) :
    Leads exchanges (ExceptT.lift p >>= f).run (f b).run :=
  Leads.andThen (h.bind fun b => Prog.done (Except.ok b)) f

theorem Leads.within {request : Req' → Req} {answer : Ans → Ans'} {outer : List (Req × Ans)}
    {inner : List (Req' × Ans')} {p p' : Prog Req' Ans' α} (h : Leads inner p p')
    (hmirrors : Mirrors request answer outer inner) :
    Leads outer (within request answer p) (within request answer p') := by
  induction h generalizing outer with
  | refl p =>
    cases hmirrors
    exact .refl _
  | ask _ ih =>
    cases hmirrors with
    | @cons x _ outer _ hxy hmirrors =>
      obtain ⟨r, reply⟩ := x
      obtain ⟨hrequest, hanswer⟩ := hxy
      dsimp only at hrequest hanswer
      subst hrequest hanswer
      exact .ask (ih hmirrors)

variable {body : Call → Prog Req Ans α} {serves : Req → P → Ans → Prop} {place : Place P}

/-- A call whose requests are answered from where nothing is replaced meanwhile. -/
theorem Leads.alone {exchanges : List (Req × Ans)} {p p' : Prog Req Ans α}
    (h : Leads exchanges p p')
    (hserves : ∀ exchange ∈ exchanges, serves exchange.1 place.current exchange.2) (call : Call)
    (began : ℕ) (past : List (Req × Ans)) :
    (sessions body serves).Alone (.running call began past p, place)
      (.running call began (past ++ exchanges) p', place) := by
  induction h generalizing past with
  | refl p =>
    rw [List.append_nil]
    exact .refl
  | @ask request answer next rest p _ ih =>
    obtain ⟨hanswer, hrest⟩ := List.forall_mem_cons.mp hserves
    have hstep : (sessions body serves).Alone (.running call began past (.ask request next), place)
        (.running call began (past ++ [(request, answer)]) (next answer), place) :=
      System.Alone.step ⟨rfl, .exchange call began past request next answer hanswer⟩
    have hlater := hstep.trans (ih hrest (past ++ [(request, answer)]))
    rwa [List.append_assoc, List.singleton_append] at hlater

/-- So far as it is answered before anything is replaced. -/
theorem alone_called {call : Call} {exchanges : List (Req × Ans)} {p : Prog Req Ans α}
    (h : Leads exchanges (body call) p)
    (hserves : ∀ exchange ∈ exchanges, serves exchange.1 place.current exchange.2) :
    (sessions body serves).Alone (.called call, place)
      (.running call place.past.length exchanges p, place) := by
  have hbegin : (sessions body serves).Alone (.called call, place)
      (.running call place.past.length [] (body call), place) :=
    System.Alone.step ⟨rfl, Task.Step.begin call⟩
  exact hbegin.trans (h.alone hserves call _ [])

end Leads

/-! ## Programs with a limited vocabulary -/

section Only

variable {β ε Req' Ans' : Type} {q : Req → Prop}

/-- Whatever it is answered, the program makes only these requests. -/
inductive Only (q : Req → Prop) : Prog Req Ans α → Prop
  | done (a : α) : Only q (.done a)
  | ask {request : Req} {next : Ans → Prog Req Ans α} (hrequest : q request)
      (hnext : ∀ answer, Only q (next answer)) : Only q (.ask request next)

theorem Only.mono {q' : Req → Prop} {p : Prog Req Ans α} (h : Only q p)
    (himp : ∀ request, q request → q' request) : Only q' p := by
  induction h with
  | done a => exact .done a
  | ask hrequest _ ih => exact .ask (himp _ hrequest) ih

theorem Only.bind {p : Prog Req Ans α} {f : α → Prog Req Ans β} (h : Only q p)
    (hf : ∀ a, Only q (f a)) : Only q (p >>= f) := by
  induction h with
  | done a => exact hf a
  | ask hrequest _ ih => exact .ask hrequest ih

theorem Only.within {request : Req' → Req} {answer : Ans → Ans'} (h : ∀ r, q (request r))
    (p : Prog Req' Ans' α) : Only q (within request answer p) := by
  induction p with
  | done a => exact .done a
  | ask r next ih => exact .ask (h r) fun reply => ih (answer reply)

/-- The same of programs that may fail. -/
theorem Only.andThen {p : ExceptT ε (Prog Req Ans) α} {f : α → ExceptT ε (Prog Req Ans) β}
    (h : Only q p.run) (hf : ∀ a, Only q (f a).run) : Only q (p >>= f).run := by
  refine Only.bind (p := p.run) h ?_
  intro outcome
  cases outcome with
  | ok a => exact hf a
  | error e => exact Only.done (Except.error e)

theorem Only.attempt {p : Prog Req Ans α} (h : Only q p) : Only q (ExceptT.lift (ε := ε) p).run :=
  Only.bind h fun a => Only.done (Except.ok a)

theorem Only.map {p : ExceptT ε (Prog Req Ans) α} (h : Only q p.run) (f : α → β) :
    Only q (f <$> p).run := by
  refine Only.bind (p := p.run) h ?_
  intro outcome
  cases outcome with
  | ok a => exact Only.done (Except.ok (f a))
  | error e => exact Only.done (Except.error e)

theorem Only.ensures_tail {may : List (Req × Ans) → Req → Prop} {good : List (Req × Ans) → α → Prop}
    {past tail : List (Req × Ans)} {p : Prog Req Ans α} (h : Only q p)
    (hmay : ∀ tail request, (∀ exchange ∈ tail, q exchange.1) → q request →
      may (past ++ tail) request)
    (hgood : ∀ tail a, (∀ exchange ∈ tail, q exchange.1) → good (past ++ tail) a)
    (htail : ∀ exchange ∈ tail, q exchange.1) : Prog.Ensures may good (past ++ tail) p := by
  induction h generalizing tail with
  | done a => exact hgood tail a htail
  | @ask request next hrequest _ ih =>
    refine ⟨hmay tail request htail hrequest, fun answer => ?_⟩
    rw [List.append_assoc]
    apply ih answer
    intro exchange hmem
    rcases List.mem_append.mp hmem with hmem | hmem
    · exact htail exchange hmem
    · rw [List.mem_singleton.mp hmem]
      exact hrequest

/-- Where these requests may be made after each other, it ensures what holds after them. -/
theorem Only.ensures {may : List (Req × Ans) → Req → Prop} {good : List (Req × Ans) → α → Prop}
    {past : List (Req × Ans)} {p : Prog Req Ans α} (h : Only q p)
    (hmay : ∀ tail request, (∀ exchange ∈ tail, q exchange.1) → q request →
      may (past ++ tail) request)
    (hgood : ∀ tail a, (∀ exchange ∈ tail, q exchange.1) → good (past ++ tail) a) :
    Prog.Ensures may good past p := by
  have hall := h.ensures_tail hmay hgood (List.forall_mem_nil _)
  rwa [List.append_nil] at hall

end Only

/-! ## Programs with a limited budget -/

section Keeps

variable {β ε : Type} {q : Req → Prop} {cost : Req → ℕ}

/-- Whatever it is answered, the program makes only these requests, and they cost no more
than this. -/
inductive Keeps (q : Req → Prop) (cost : Req → ℕ) : ℕ → Prog Req Ans α → Prop
  | done (budget : ℕ) (a : α) : Keeps q cost budget (.done a)
  | ask {budget : ℕ} {request : Req} {next : Ans → Prog Req Ans α} (hrequest : q request)
      (hcost : cost request ≤ budget)
      (hnext : ∀ answer, Keeps q cost (budget - cost request) (next answer)) :
      Keeps q cost budget (.ask request next)

/-- What the requests of a run cost together. -/
def spent (cost : Req → ℕ) : List (Req × Ans) → ℕ
  | [] => 0
  | exchange :: rest => cost exchange.1 + spent cost rest

theorem Keeps.mono {budget more : ℕ} {p : Prog Req Ans α} (h : Keeps q cost budget p)
    (hle : budget ≤ more) : Keeps q cost more p := by
  induction h generalizing more with
  | done _ a => exact .done more a
  | ask hrequest hcost _ ih =>
    exact .ask hrequest (hcost.trans hle) fun answer => ih answer (Nat.sub_le_sub_right hle _)

theorem Keeps.bind {first second : ℕ} {p : Prog Req Ans α} {f : α → Prog Req Ans β}
    (h : Keeps q cost first p) (hf : ∀ a, Keeps q cost second (f a)) :
    Keeps q cost (first + second) (p >>= f) := by
  induction h with
  | done budget a => exact (hf a).mono (Nat.le_add_left second budget)
  | ask hrequest hcost _ ih =>
    refine .ask hrequest (by omega) fun answer => ?_
    rw [Nat.sub_add_comm hcost]
    exact ih answer

/-- The same of programs that may fail. -/
theorem Keeps.andThen {first second : ℕ} {p : ExceptT ε (Prog Req Ans) α}
    {f : α → ExceptT ε (Prog Req Ans) β} (h : Keeps q cost first p.run)
    (hf : ∀ a, Keeps q cost second (f a).run) : Keeps q cost (first + second) (p >>= f).run := by
  refine Keeps.bind (p := p.run) h ?_
  intro outcome
  cases outcome with
  | ok a => exact hf a
  | error e => exact Keeps.done second (Except.error e)

theorem Keeps.liftExcept {budget : ℕ} {x : Except ε α} {f : α → ExceptT ε (Prog Req Ans) β}
    (hf : ∀ a, x = .ok a → Keeps q cost budget (f a).run) :
    Keeps q cost budget (liftM x >>= f : ExceptT ε (Prog Req Ans) β).run := by
  cases x with
  | ok a => exact hf a rfl
  | error e => exact Keeps.done budget (Except.error e)

theorem Keeps.attempt {budget : ℕ} {p : Prog Req Ans α} (h : Keeps q cost budget p) :
    Keeps q cost budget (ExceptT.lift (ε := ε) p).run :=
  Keeps.bind h fun a => Keeps.done 0 (Except.ok a)

/-- No run makes another request. -/
theorem Keeps.exchanges {budget : ℕ} {p : Prog Req Ans α} (h : Keeps q cost budget p)
    (answers : List Ans) : ∀ exchange ∈ p.exchanges answers, q exchange.1 := by
  induction h generalizing answers with
  | done budget a =>
    rw [Prog.exchanges]
    · exact List.forall_mem_nil _
    · intros
      contradiction
  | @ask budget request next hrequest _ _ ih =>
    cases answers with
    | nil => exact List.forall_mem_nil _
    | cons answer answers => exact List.forall_mem_cons.mpr ⟨hrequest, ih answer answers⟩

/-- No run spends more. -/
theorem Keeps.spent_exchanges {budget : ℕ} {p : Prog Req Ans α} (h : Keeps q cost budget p)
    (answers : List Ans) : spent cost (p.exchanges answers) ≤ budget := by
  induction h generalizing answers with
  | done budget a =>
    rw [Prog.exchanges]
    · exact Nat.zero_le budget
    · intros
      contradiction
  | @ask budget request next _ hcost _ ih =>
    cases answers with
    | nil => exact Nat.zero_le budget
    | cons answer answers =>
      have hrest := ih answer answers
      rw [Prog.exchanges, spent]
      dsimp only
      omega

end Keeps

end Session
