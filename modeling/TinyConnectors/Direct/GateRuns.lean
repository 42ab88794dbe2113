/-
# Members behind the gate

Any number of members at work on one route, interleaved step by step with the calls
they have made.  What the gate keeps to for any calls it keeps to for theirs; and a
closed gate makes each of them fail without a request.
-/
import TinyConnectors.Await
import TinyConnectors.Direct.Gate

open Await Prog Relation RustStr

namespace Direct

/-! ## Members -/

/-- A call of the `Route` trait, with its arguments. -/
inductive Member where
  | listToolkits
  | listConnections
  | authorize (body : Json)
  | listTools (toolkits tags : List String)
  | execute (tool : String) (arguments : Json) (connectionId : Option String)
  | deleteConnection
  | listGithubRepos
  | listAvailableTriggers (toolkit : String)
  | listTriggers (toolkit : Option String)
  | createTrigger (slug : String) (connectionId : Option String) (triggerConfig : Option Json)
  | enableTrigger (connectionId slug : String) (triggerConfig : Option Json)
  | disableTrigger (triggerId : String)

/-- Whether it went well. -/
def finished {α : Type} (p : Calls α) : Calls Unit := p >>= fun _ => pure ()

/-- What a member does, but for the value it returns. -/
def Member.calls (route : Route) : Member → Calls Unit
  | .listToolkits => throw (unsupported "ListToolkits")
  | .listConnections => finished Direct.listConnections
  | .authorize body => finished (Direct.authorize route body)
  | .listTools toolkits tags => finished (Direct.listTools toolkits tags)
  | .execute tool arguments connectionId =>
    finished (Direct.execute route tool arguments connectionId)
  | .deleteConnection => throw (unsupported "DeleteConnection")
  | .listGithubRepos => throw (unsupported "ListGithubRepos")
  | .listAvailableTriggers toolkit => finished (Direct.listAvailableTriggers route toolkit)
  | .listTriggers toolkit => finished (Direct.listTriggers route toolkit)
  | .createTrigger slug connectionId triggerConfig =>
    finished (Direct.createTrigger route slug connectionId triggerConfig)
  | .enableTrigger connectionId slug triggerConfig =>
    finished (Direct.enableTrigger route connectionId slug triggerConfig)
  | .disableTrigger triggerId => finished (Direct.disableTrigger route triggerId)

/-! ## Members at work -/

/-- A member at work. -/
inductive Task where
  /-- It goes on with this. -/
  | working (p : Prog Request Answer (Except Error Unit))
  /-- It awaits the call of this number. -/
  | waiting (n : ℕ) (next : Answer → Prog Request Answer (Except Error Unit))

/-- One step of a member: a check that refuses, one that passes, or the return of a
call. -/
inductive Task.Step : Task → Gate → Task → Gate → Prop where
  | refuse {request next gate} (h : INVALID_API_KEY_THRESHOLD ≤ gate.count) :
      Task.Step (.working (.ask request next)) gate (.working (next .gated)) gate
  | pass {request next gate} (h : gate.count < INVALID_API_KEY_THRESHOLD) :
      Task.Step (.working (.ask request next)) gate (.waiting gate.calls.length next)
        (gate.pass request)
  | resume {n next gate request outcome} (h : gate.calls[n]? = some (request, .recorded outcome)) :
      Task.Step (.waiting n next) gate (.working (next (.replied outcome))) gate

/-- The members of a route and the calls they have made. -/
def atWork : System Task Gate where
  task := Task.Step
  env := Gate.Works

/-- Every member of a route that was never called, before its first step. -/
def start (route : Route) (member : ℕ → Member) : Config ℕ Task Gate :=
  { tasks := fun i => .working ((member i).calls route).run, store := Gate.init }

/-- Runs in which no two calls overlap. -/
def SerialRun : Config ℕ Task Gate → Config ℕ Task Gate → Prop :=
  ReflTransGen fun c c' => atWork.Step c c' ∧ Gate.Alone c.store c'.store

/-- A step of the members is a step of the gate, or none. -/
theorem gateStep_of_step {c c' : Config ℕ Task Gate} (h : atWork.Step c c') :
    c'.store = c.store ∨ Gate.Step c.store c'.store := by
  cases h with
  | env hworks => exact .inr (.works hworks)
  | task i hstep =>
    rcases c with ⟨tasks, store⟩
    dsimp only at hstep ⊢
    generalize tasks i = task at hstep
    cases hstep with
    | refuse hclosed => exact .inl rfl
    | pass hlow => exact .inr (.pass _ hlow)
    | resume hcall => exact .inl rfl

theorem counts_of_run {route : Route} {member : ℕ → Member} {c : Config ℕ Task Gate}
    (hrun : atWork.Run (start route member) c) : c.store.Counts := by
  induction hrun with
  | refl => exact Gate.counts_init
  | tail _ hstep ih =>
    rcases gateStep_of_step hstep with hsame | hgate
    · rw [hsame]
      exact ih
    · exact ih.step hgate

theorem run_of_serialRun {c c' : Config ℕ Task Gate} (hrun : SerialRun c c') : atWork.Run c c' :=
  ReflTransGen.mono (fun _ _ h => h.1) _ _ hrun

theorem serial_of_serialRun {route : Route} {member : ℕ → Member} {c : Config ℕ Task Gate}
    (hrun : SerialRun (start route member) c) : c.store.Serial := by
  induction hrun with
  | refl => exact Gate.serial_init
  | tail _ hstep ih =>
    obtain ⟨hstep, halone⟩ := hstep
    rcases gateStep_of_step hstep with hsame | hgate
    · rw [hsame]
      exact ih
    · exact ih.step hgate halone

/-! ## A closed gate -/

theorem stops_call (request : Request) : StopsAt .gated (call request) := StopsAt.ask rfl

theorem stops_listPages (path : String) : StopsAt .gated (listPages path) := by
  rw [listPages, MAX_PAGES, listPagesFrom]
  exact (stops_call _).bind _

/-- A refusal, or the rejection of the key. -/
def TurnsDown (answer : Answer) : Prop :=
  answer = .gated ∨ ∃ error, answer = .replied (.error error) ∧ isInvalidApiKey error = true

/-- An owner lookup that is turned down fails. -/
theorem stops_accountOwner {answer : Answer} (h : TurnsDown answer) (connectionId : String) :
    StopsAt answer (accountOwner connectionId) := by
  rw [accountOwner]
  refine StopsAt.liftExcept ?_
  intro path _
  rcases h with rfl | ⟨error, rfl, hrejected⟩
  · exact StopsAt.attempt rfl
  · refine StopsAt.attempt (e := error) ?_
    cases error with
    | transport failedPath message =>
      show (if isInvalidApiKey _ = true then throw _ else pure none) = _
      rw [if_pos hrejected]
    | _ => cases hrejected

theorem stops_upsert (route : Route) (slug : String) (connectionId : Option String)
    (triggerConfig : Option Json) :
    StopsAt .gated (upsert route slug connectionId triggerConfig) := by
  rw [upsert]
  cases connectionId with
  | some connectionId =>
    refine StopsAt.bind ?_ _
    rw [Option.elim_some, ensureOwned]
    exact (stops_accountOwner (.inl rfl) connectionId).bind _
  | none =>
    refine StopsAt.skip ?_
    refine StopsAt.liftExcept ?_
    intro named _
    exact (stops_call _).bind _

theorem stops_execute {answer : Answer} (h : TurnsDown answer) (route : Route) (tool : String)
    (arguments : Json) (connectionId : String) :
    StopsAt answer (execute route tool arguments (some connectionId)) := by
  rw [execute]
  refine StopsAt.liftExcept ?_
  intro named _
  refine StopsAt.bind ?_ _
  rw [executeEntity]
  exact (stops_accountOwner h connectionId).bind _

/-- Without a connection there is no owner to look up. -/
theorem stops_execute_none (route : Route) (tool : String) (arguments : Json) :
    StopsAt .gated (execute route tool arguments none) := by
  rw [execute]
  refine StopsAt.liftExcept ?_
  intro named _
  rw [executeEntity]
  refine StopsAt.skip ?_
  exact (stops_call _).bind _

theorem stops_listTriggers (route : Route) (toolkit : Option String) :
    StopsAt .gated (listTriggers route toolkit) := by
  rw [listTriggers]
  refine StopsAt.liftExcept ?_
  intro _ _
  exact (stops_listPages _).bind _

theorem stops_listAvailableTriggers (route : Route) (toolkit : String) :
    StopsAt .gated (listAvailableTriggers route toolkit) := by
  rw [listAvailableTriggers]
  refine StopsAt.liftExcept ?_
  intro _ _
  exact (stops_listPages _).bind _

theorem stops_createTrigger (route : Route) (slug : String) (connectionId : Option String)
    (triggerConfig : Option Json) :
    StopsAt .gated (createTrigger route slug connectionId triggerConfig) := by
  rw [createTrigger]
  refine StopsAt.liftExcept ?_
  intro _ _
  exact stops_upsert route slug connectionId triggerConfig

theorem stops_enableTrigger (route : Route) (connectionId slug : String)
    (triggerConfig : Option Json) :
    StopsAt .gated (enableTrigger route connectionId slug triggerConfig) := by
  rw [enableTrigger]
  refine StopsAt.liftExcept ?_
  intro _ _
  exact (stops_upsert route slug (some connectionId) triggerConfig).bind _

theorem stops_disableTrigger (route : Route) (id : String) :
    StopsAt .gated (disableTrigger route id) := by
  rw [disableTrigger]
  refine StopsAt.liftExcept ?_
  intro _ _
  exact (stops_call _).bind _

/-- Every member fails where every call is refused. -/
theorem stops_calls (route : Route) (member : Member) : StopsAt .gated (member.calls route) := by
  cases member with
  | listToolkits => exact StopsAt.of_throw _
  | listConnections =>
    rw [Member.calls, finished, Direct.listConnections]
    exact ((stops_call _).bind _).bind _
  | authorize body =>
    rw [Member.calls, finished]
    unfold Direct.authorize
    exact ((stops_call _).bind _).bind _
  | listTools toolkits tags =>
    rw [Member.calls, finished, Direct.listTools]
    exact ((stops_call _).bind _).bind _
  | execute tool arguments connectionId =>
    cases connectionId with
    | some connectionId => exact (stops_execute (.inl rfl) route tool arguments connectionId).bind _
    | none => exact (stops_execute_none route tool arguments).bind _
  | deleteConnection => exact StopsAt.of_throw _
  | listGithubRepos => exact StopsAt.of_throw _
  | listAvailableTriggers toolkit => exact (stops_listAvailableTriggers route toolkit).bind _
  | listTriggers toolkit => exact (stops_listTriggers route toolkit).bind _
  | createTrigger slug connectionId triggerConfig =>
    exact (stops_createTrigger route slug connectionId triggerConfig).bind _
  | enableTrigger connectionId slug triggerConfig =>
    exact (stops_enableTrigger route connectionId slug triggerConfig).bind _
  | disableTrigger triggerId => exact (stops_disableTrigger route triggerId).bind _

/-- Where no two calls overlap, nothing happens to the calls of a closed gate any more. -/
theorem store_of_closed {c c' : Config ℕ Task Gate} (hserial : c.store.Serial)
    (hclosed : INVALID_API_KEY_THRESHOLD ≤ c.store.count) (hrun : atWork.Run c c') :
    c'.store = c.store := by
  induction hrun with
  | refl => rfl
  | tail _ hstep ih =>
    rcases gateStep_of_step hstep with hsame | hgate
    · rw [hsame, ih]
    · rw [ih] at hgate
      exact absurd hgate (hserial.not_step hclosed)

/-- And a member that stops at a refusal has failed, or has not gone on yet. -/
theorem working_of_closed {c c' : Config ℕ Task Gate} (hserial : c.store.Serial)
    (hclosed : INVALID_API_KEY_THRESHOLD ≤ c.store.count) (hrun : atWork.Run c c') {i : ℕ}
    {p : Calls Unit} (hi : c.tasks i = .working p.run) (hstops : StopsAt .gated p) :
    ∃ p' : Calls Unit, c'.tasks i = .working p'.run ∧ StopsAt .gated p' := by
  induction hrun with
  | refl => exact ⟨p, hi, hstops⟩
  | @tail d d' hcd hstep ih =>
    have hstore := store_of_closed hserial hclosed hcd
    obtain ⟨p', htask, hstops'⟩ := ih
    cases hstep with
    | env hworks => exact ⟨p', htask, hstops'⟩
    | @task j task' store' hstep =>
      by_cases hij : i = j
      · subst hij
        rw [htask, hstore] at hstep
        cases hstops' with
        | failed e hfailed =>
          rw [hfailed] at hstep
          cases hstep
        | fails request next e hask hnext =>
          rw [hask] at hstep
          cases hstep with
          | refuse h =>
            refine ⟨throw e, ?_, StopsAt.of_throw e⟩
            show Function.update d.tasks i (.working (next .gated)) i = _
            rw [Function.update_self, hnext]
            rfl
          -- the gate is closed, so the request can only be refused
          | pass hlow => omega
      · refine ⟨p', ?_, hstops'⟩
        show Function.update d.tasks j task' i = .working p'.run
        rw [Function.update_of_ne hij]
        exact htask

/-! ## Every run -/

/-- What the gate of a route does in every run of its members. -/
structure GateHolds (route : Route) : Prop where
  /-- The count is the number of rejections since the last success. -/
  count : ∀ member c, atWork.Run (start route member) c →
    c.store.count = rejectionsSinceSuccess (recordedOf c.store.log)
  /-- Only recording a success or a rejection changes it. -/
  changes : ∀ member c c', atWork.Run (start route member) c → atWork.Step c c' →
    c'.store.failures = c.store.failures ∨
      ∃ n outcome, c'.store.log = c.store.log ++ [.recorded n outcome] ∧
        (fails outcome = false ∨ rejects outcome = true)
  /-- A request is sent only after a check that found fewer than three. -/
  sent : ∀ member c, atWork.Run (start route member) c → Warranted sentChecked c.store.log
  /-- Without overlaps at most three requests are rejected after the last success. -/
  rejected : ∀ member c, SerialRun (start route member) c →
    rejectionsSinceSuccess (answeredOf c.store.log) ≤ INVALID_API_KEY_THRESHOLD
  /-- After three, nothing is sent any more and every member called then fails. -/
  refused : ∀ member c c', SerialRun (start route member) c →
    rejectionsSinceSuccess (recordedOf c.store.log) = INVALID_API_KEY_THRESHOLD → atWork.Run c c' →
    c'.store = c.store ∧ ∀ i, c.tasks i = .working ((member i).calls route).run →
      ∃ p, c'.tasks i = .working p ∧ ∀ result, p = .done result → ∃ error, result = .error error
  /-- An execute whose owner lookup is turned down fails, and sends nothing else. -/
  owner : ∀ tool arguments connectionId answer answers, TurnsDown answer →
    (∃ error, (execute route tool arguments (some connectionId)).run.result (answer :: answers) =
      some (.error error)) ∧
    ((execute route tool arguments (some connectionId)).run.exchanges
      (answer :: answers)).length ≤ 1

/-- The count of the gate is that of the rejections since the last success, in every interleaved
run; where calls do not overlap, three of them close the gate to every member. -/
theorem gateHolds (route : Route) : GateHolds route where
  count member c hrun := (counts_of_run hrun).count
  changes member c c' _ hstep := by
    rcases gateStep_of_step hstep with hsame | hgate
    · rw [hsame]
      exact .inl rfl
    · exact hgate.count_eq
  sent member c hrun := (counts_of_run hrun).sent
  rejected member c hrun :=
    (serial_of_serialRun hrun).rejected_le (counts_of_run (run_of_serialRun hrun))
  refused member c c' hrun hthree hlater := by
    have hserial := serial_of_serialRun hrun
    have hclosed : INVALID_API_KEY_THRESHOLD ≤ c.store.count := by
      rw [(counts_of_run (run_of_serialRun hrun)).count, hthree]
    refine ⟨store_of_closed hserial hclosed hlater, ?_⟩
    intro i hi
    obtain ⟨p, hp, hstops⟩ :=
      working_of_closed hserial hclosed hlater hi (stops_calls route (member i))
    refine ⟨p.run, hp, ?_⟩
    intro result hdone
    cases hstops with
    | failed e hfailed =>
      rw [hfailed, Prog.done.injEq] at hdone
      exact ⟨e, hdone.symm⟩
    | fails request next e hask hnext =>
      rw [hask] at hdone
      cases hdone
  owner tool arguments connectionId answer answers hdown :=
    (stops_execute hdown route tool arguments connectionId).run answers

end Direct
