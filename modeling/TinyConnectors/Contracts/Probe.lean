/-
# What a probe may do

`probe_output` calls a real action to see the shape of its output, so it has to
be a read: the scope table, the connections and the stored preference are each
asked, under the toolkit each of them resolves the slug to.  Here one probe is
followed from its call to its answer, over a service that other calls may have
changed at every await point (`Probe.Run`); what has been confirmed by then is
an invariant of the await points (`Probe.Stage`).
-/
import TinyConnectors.Catalog.Slugs
import TinyConnectors.Contracts.Service

open RustStr ContractTask

namespace Probe

/-- One resumption of a probe: where it was, with what it was resumed over which
service, and what it left. -/
structure Step where
  service : ContractService
  task : ContractTask
  answer : Answer
  after : ContractTask
  serviceAfter : ContractService

/-- A probe of `slug` under way, with its resumptions so far, the latest first.
The service is any one with these preferences: what other calls do to it between
two resumptions is not restricted. -/
inductive Run (prefs : PrefsStore) (slug : String) (args : Json) :
    List Step → ContractTask → Prop where
  | called : Run prefs slug args [] (.called (.probeOutput slug args))
  | resumed {past : List Step} {task task' : ContractTask} {service service' : ContractService}
      {answer : Answer} (hrun : Run prefs slug args past task) (hprefs : service.prefs = prefs)
      (hresume : resume service task answer = some (task', service')) :
      Run prefs slug args (⟨service, task, answer, task', service'⟩ :: past) task'

/-! ## What is to be shown -/

/-- A toolkit's catalog lists the action as a read and as nothing else; where
there is no catalog, the action is a read by its verb. -/
inductive ConfirmedRead (toolkit tool : String) : Prop where
  | listed {catalog : List CuratedTool} (hcatalog : catalogForToolkit toolkit = some catalog)
      (hlisted : ∃ entry ∈ catalog, eqIgnoreAsciiCase entry.slug tool = true)
      (hread : ∀ entry ∈ catalog, eqIgnoreAsciiCase entry.slug tool = true → entry.scope = .read)
  | byVerb (hcatalog : catalogForToolkit toolkit = none) (hread : Bus.classifyUnknown tool = .read)

/-- This probe has fetched a listing with an active connection of the toolkit. -/
def SawActive (past : List Step) (toolkit : String) : Prop :=
  ∃ step ∈ past, ∃ connections, step.answer = .connections (.ok connections) ∧
    ∃ connection ∈ connections, connection.isActive = true ∧ connection.normalizedToolkit = toolkit

/-- The action belongs to a toolkit that both the scope table and the listing speak for. -/
structure VettedAs (past : List Step) (tool toolkit : String) : Prop where
  resolved : Bus.toolkitFromSlug tool = some toolkit
  read : ConfirmedRead toolkit tool
  active : SawActive past toolkit

def Vetted (past : List Step) (tool : String) : Prop := ∃ toolkit, VettedAs past tool toolkit

/-- Execution permits the action. -/
def Permitted (prefs : PrefsStore) (tool : String) : Prop :=
  ∀ client, (ConnectorService.load client prefs).permits tool = .ok true

/-- Whether a resumption hands an action to the route. -/
def Step.dispatches (step : Step) : Bool :=
  match step.after with
  | .awaitExecute .. => true
  | _ => false

/-- The probe cache gains at most the shape of a successful reply, under the slug. -/
def Step.GainsShape (slug : String) (step : Step) : Prop :=
  ∀ key entry, step.serviceAfter.caches.probes.entries.lookup key = some entry →
    step.service.caches.probes.entries.lookup key = some entry ∨
      key = ContractCaches.probeKey slug ∧
        ∃ response, step.answer = .executed (.ok response) ∧ response.successful = true ∧
          entry.2.primaryArrayPath = (probedSample response).primaryArrayPath ∧
          entry.2.outputFields = (probedSample response).outputFields ∧
          entry.2.sample = .null

/-- A probe is read-only, however it is resumed. -/
structure ReadOnly (prefs : PrefsStore) (slug : String) (args : Json) : Prop where
  /-- What is dispatched is the probed action, and it is a permitted read of a connected toolkit. -/
  dispatched : ∀ past tool arguments client,
    Run prefs slug args past (.awaitExecute tool arguments client) →
      tool = trim slug ∧ Vetted past tool ∧ Permitted prefs tool
  once : ∀ past task, Run prefs slug args past task → past.countP Step.dispatches ≤ 1
  cached : ∀ past task, Run prefs slug args past task → ∀ step ∈ past, step.GainsShape slug

/-! ## The gates -/

/-- A published catalog has one entry for a slug. -/
theorem distinctSlugs_of_catalogForToolkit {toolkit : String} {catalog : List CuratedTool}
    (h : catalogForToolkit toolkit = some catalog) : DistinctSlugs catalog := by
  rw [catalogForToolkit, List.lookup_eq_some_iff] at h
  obtain ⟨before, after, hsplit, -⟩ := h
  exact distinctSlugs_of_mem (hsplit ▸ List.mem_append_right before List.mem_cons_self)

/-- The scope gate. -/
theorem confirmedRead_of_resolveActionScope {tool : String}
    (h : resolveActionScope tool = some .read) :
    ∃ toolkit, Bus.toolkitFromSlug tool = some toolkit ∧
      ConfirmedRead toolkit tool := by
  rw [resolveActionScope] at h
  obtain ⟨toolkit, htoolkit, hscope⟩ := Option.bind_eq_some_iff.mp h
  refine ⟨toolkit, htoolkit, ?_⟩
  cases hcatalog : catalogForToolkit toolkit with
  | none =>
    rw [hcatalog] at hscope
    exact .byVerb hcatalog (Option.some_inj.mp hscope)
  | some catalog =>
    rw [hcatalog] at hscope
    obtain ⟨found, hfound, hread⟩ := Option.map_eq_some_iff.mp hscope
    obtain ⟨hmem, hslug⟩ := findCurated_eq_some hfound
    refine .listed hcatalog ⟨found, hmem, hslug⟩ fun entry hentry heq => ?_
    -- two entries for one slug would be one entry
    have hsame : entry = found := by
      apply List.inj_on_of_nodup_map (distinctSlugs_of_catalogForToolkit hcatalog) hentry hmem
      exact (slugCode_congr heq).trans (slugCode_congr hslug).symm
    rw [hsame, hread]

theorem SawActive.cons {past : List Step} {toolkit : String} (h : SawActive past toolkit)
    (step : Step) : SawActive (step :: past) toolkit := by
  obtain ⟨earlier, hmem, hsaw⟩ := h
  exact ⟨earlier, List.mem_cons_of_mem step hmem, hsaw⟩

theorem Vetted.cons {past : List Step} {tool : String} (h : Vetted past tool) (step : Step) :
    Vetted (step :: past) tool := by
  obtain ⟨toolkit, hvetted⟩ := h
  exact ⟨toolkit, hvetted.resolved, hvetted.read, hvetted.active.cons step⟩

/-- The preference gate, for an action without a toolkit. -/
theorem permitted_of_none {prefs : PrefsStore} {tool : String}
    (htoolkit : Sync.toolkitFromSlug tool = none) : Permitted prefs tool := by
  intro client
  simp only [ConnectorService.permits, htoolkit]

/-- The preference gate, once the preference has been read. -/
theorem permitted_of_allows {prefs : PrefsStore} {tool toolkit : String} {pref : UserScopePref}
    (htoolkit : Sync.toolkitFromSlug tool = some toolkit) (hpref : prefFor prefs tool = .ok pref)
    (hallows : pref.allows (requiredScope defaultRegistry toolkit tool) = true) :
    Permitted prefs tool := by
  intro client
  exact (permits_load_iff htoolkit).mpr ⟨pref, hpref, hallows⟩

/-! ## Where a probe can be -/

/-- What has been confirmed of a probe of `tool`, by where it is suspended. -/
inductive Stage (prefs : PrefsStore) (tool : String) (past : List Step) : ContractTask → Prop where
  | called {slug : String} {args : Json} (hslug : trim slug = tool) :
      Stage prefs tool past (.called (.probeOutput slug args))
  | connections {toolkit : String} {args : Json} {client : RouteClient}
      (htoolkit : Bus.toolkitFromSlug tool = some toolkit)
      (hread : ConfirmedRead toolkit tool) :
      Stage prefs tool past (.awaitConnections tool toolkit args client)
  | pref {arguments : Option Json} {name : String} {rest : List String} (hvetted : Vetted past tool)
      (hpref : prefFor prefs tool = prefForToolkits prefs (name :: rest)) :
      Stage prefs tool past (.awaitPref tool arguments name rest)
  | load {arguments : Option Json} {name : String} (hvetted : Vetted past tool)
      (hpref : prefFor prefs tool = (UserScopePref.load prefs name).mapError .prefs) :
      Stage prefs tool past (.awaitLoad tool arguments name)
  | execute {arguments : Option Json} {client : RouteClient} (hvetted : Vetted past tool)
      (hpermitted : Permitted prefs tool) :
      Stage prefs tool past (.awaitExecute tool arguments client)
  | returned {result : Except ContractError ComposioProbedOutputSample} :
      Stage prefs tool past (.returned (.sample result))

section Steps

variable {prefs : PrefsStore} {tool : String} {past : List Step} {service : ContractService}
  {arguments : Option Json}

theorem stage_execute (hvetted : Vetted past tool) (hpermitted : Permitted prefs tool) :
    Stage prefs tool past (execute service tool arguments) := by
  unfold execute
  split
  · exact .returned
  · exact .execute hvetted hpermitted

/-- Refused by the preference, the probe ends. -/
theorem stage_judge (hvetted : Vetted past tool) {pref : UserScopePref}
    (hpref : prefFor prefs tool = .ok pref) :
    Stage prefs tool past (judge service tool arguments pref) := by
  unfold judge
  split
  · next htoolkit => exact stage_execute hvetted (permitted_of_none htoolkit)
  · next toolkit htoolkit =>
    split_ifs with hallows
    · exact stage_execute hvetted (permitted_of_allows htoolkit hpref hallows)
    · exact .returned

/-- Each toolkit name the slug starts with is asked in turn. -/
theorem stage_nextPref (hvetted : Vetted past tool) (names : List String)
    (hpref : prefFor prefs tool = prefForToolkits prefs names) :
    Stage prefs tool past (nextPref service tool arguments names) := by
  cases names with
  | nil => exact stage_judge hvetted hpref
  | cons name rest => exact .pref hvetted hpref

theorem stage_afterPref (hprefs : service.prefs = prefs) (hvetted : Vetted past tool)
    {name : String} {rest : List String}
    (hpref : prefFor prefs tool = prefForToolkits prefs (name :: rest)) :
    Stage prefs tool past (afterPref service tool arguments name rest) := by
  rw [prefForToolkits] at hpref
  rw [afterPref, hprefs]
  cases hrow : prefs.get (UserScopePref.key name) with
  | error error => exact .returned
  | ok row =>
    rw [hrow] at hpref
    cases row with
    | none => exact stage_nextPref hvetted rest hpref
    | some value => exact .load hvetted hpref

theorem stage_afterLoad (hprefs : service.prefs = prefs) (hvetted : Vetted past tool)
    {name : String} (hpref : prefFor prefs tool = (UserScopePref.load prefs name).mapError .prefs) :
    Stage prefs tool past (afterLoad service tool arguments name) := by
  rw [afterLoad, hprefs]
  cases hload : UserScopePref.load prefs name with
  | error error => exact .returned
  | ok pref => exact stage_judge hvetted (by rw [hpref, hload]; rfl)

/-- The listing is the one this probe asked for. -/
theorem stage_afterConnections {toolkit : String} {args : Json}
    {reply : Except String (List ComposioConnection)} {step : Step}
    (hanswer : step.answer = .connections reply)
    (htoolkit : Bus.toolkitFromSlug tool = some toolkit)
    (hread : ConfirmedRead toolkit tool) :
    Stage prefs tool (step :: past) (afterConnections service tool toolkit args reply) := by
  cases reply with
  | error message => exact .returned
  | ok connections =>
    by_cases hactive : toolkit ∈ activeToolkits connections
    · have hsaw : SawActive (step :: past) toolkit :=
        ⟨step, List.mem_cons_self, connections, hanswer, (mem_activeToolkits.mp hactive).2⟩
      have hvetted : Vetted (step :: past) tool := ⟨toolkit, htoolkit, hread, hsaw⟩
      simp only [afterConnections, hactive, not_true_eq_false, if_false]
      generalize (if args = .null then none else some args) = arguments
      split
      · next hnone => exact stage_execute hvetted (permitted_of_none hnone)
      · exact stage_nextPref hvetted _ rfl
    · simp only [afterConnections, hactive, not_false_eq_true, if_true]
      exact .returned

/-- Before anything is asked of the route, the action is a confirmed read. -/
theorem stage_probeOutput {slug : String} {args : Json} (hslug : trim slug = tool) :
    Stage prefs tool past (probeOutput service slug args) := by
  simp only [probeOutput, hslug]
  split_ifs
  · exact .returned
  · split
    · next hscope =>
      obtain ⟨toolkit, htoolkit, hread⟩ := confirmedRead_of_resolveActionScope hscope
      rw [show toolkitOf tool = some toolkit from htoolkit]
      cases service.client with
      | none => exact .returned
      | some client => exact .connections htoolkit hread
    · exact .returned
    · exact .returned

/-- How many dispatches a probe may have made by an await point. -/
def allowance : ContractTask → ℕ
  | .awaitExecute .. => 1
  | .returned _ => 1
  | _ => 0

/-- What one resumption of a probe does: up to the call it asks questions only,
and the reply to the call ends it. -/
theorem Stage.resumed {task task' : ContractTask} {service' : ContractService} {answer : Answer}
    (hstage : Stage prefs tool past task) (hprefs : service.prefs = prefs)
    (hresume : resume service task answer = some (task', service')) :
    (allowance task = 0 ∧ service' = service ∧
        Stage prefs tool (⟨service, task, answer, task', service'⟩ :: past) task') ∨
      ∃ client reply, answer = .executed reply ∧
        afterExecute service tool client reply = (task', service') ∧ allowance task = 1 := by
  unfold resume at hresume
  split at hresume
  · -- the call has just been made
    cases hstage with
    | called hslug =>
      obtain ⟨hafter, hservice⟩ := Prod.mk.inj (Option.some_inj.mp hresume)
      rw [← hafter, begin]
      exact .inl ⟨rfl, hservice.symm, stage_probeOutput hslug⟩
  · cases hstage
  · cases hstage
  · cases hstage with
    | connections htoolkit hread =>
      obtain ⟨hafter, hservice⟩ := Prod.mk.inj (Option.some_inj.mp hresume)
      rw [← hafter]
      exact .inl ⟨rfl, hservice.symm, stage_afterConnections rfl htoolkit hread⟩
  · cases hstage with
    | pref hvetted hpref =>
      obtain ⟨hafter, hservice⟩ := Prod.mk.inj (Option.some_inj.mp hresume)
      rw [← hafter]
      exact .inl ⟨rfl, hservice.symm, stage_afterPref hprefs (hvetted.cons _) hpref⟩
  · cases hstage with
    | load hvetted hpref =>
      obtain ⟨hafter, hservice⟩ := Prod.mk.inj (Option.some_inj.mp hresume)
      rw [← hafter]
      exact .inl ⟨rfl, hservice.symm, stage_afterLoad hprefs (hvetted.cons _) hpref⟩
  · cases hstage with
    | execute hvetted hpermitted => exact .inr ⟨_, _, rfl, Option.some_inj.mp hresume, rfl⟩
  · cases hresume

end Steps

/-- A reply ends the probe, and only a successful one is remembered. -/
theorem afterExecute_cases {service service' : ContractService} {tool : String}
    {client : RouteClient} {reply : Except String ComposioExecuteResponse} {task' : ContractTask}
    (hafter : afterExecute service tool client reply = (task', service')) :
    (∃ result, task' = .returned (.sample result)) ∧
      (service' = service ∨ ∃ response, reply = .ok response ∧ response.successful = true ∧
        service' = service.rememberProbe client tool (probedSample response)) := by
  cases reply with
  | error message =>
    obtain ⟨htask, hservice⟩ := Prod.mk.inj hafter
    exact ⟨⟨_, htask.symm⟩, .inl hservice.symm⟩
  | ok response =>
    rw [afterExecute] at hafter
    split_ifs at hafter with hsuccessful
    · obtain ⟨htask, hservice⟩ := Prod.mk.inj hafter
      exact ⟨⟨_, htask.symm⟩, .inr ⟨response, rfl, hsuccessful, hservice.symm⟩⟩
    · obtain ⟨htask, hservice⟩ := Prod.mk.inj hafter
      exact ⟨⟨_, htask.symm⟩, .inl hservice.symm⟩

section Runs

variable {prefs : PrefsStore} {slug : String} {args : Json} {past : List Step} {task : ContractTask}

/-- So every point of a run is a stage. -/
theorem Run.stage (hrun : Run prefs slug args past task) : Stage prefs (trim slug) past task := by
  induction hrun with
  | called => exact .called rfl
  | resumed _ hprefs hresume ih =>
    rcases ih.resumed hprefs hresume with ⟨-, -, hstage⟩ | ⟨client, reply, -, hafter, -⟩
    · exact hstage
    · obtain ⟨⟨result, rfl⟩, -⟩ := afterExecute_cases hafter
      exact .returned

/-! ## One dispatch -/

/-- A dispatch uses the allowance up. -/
theorem countP_dispatches_le (step : Step) :
    [step].countP Step.dispatches ≤ allowance step.after := by
  obtain ⟨-, -, -, after, -⟩ := step
  cases after <;> simp [Step.dispatches, allowance]

/-- A probe has dispatched at most what its await point allows. -/
theorem Run.countP_le (hrun : Run prefs slug args past task) :
    past.countP Step.dispatches ≤ allowance task := by
  induction hrun with
  | called => exact le_rfl
  | @resumed past task task' service service' answer hrun hprefs hresume ih =>
    rw [← List.singleton_append, List.countP_append]
    rcases hrun.stage.resumed hprefs hresume with ⟨hnone, -, -⟩ | ⟨client, reply, -, hafter, hone⟩
    · have hstep := countP_dispatches_le ⟨service, task, answer, task', service'⟩
      have hpast : past.countP Step.dispatches = 0 := by omega
      rw [hpast]
      exact hstep
    · obtain ⟨⟨result, rfl⟩, -⟩ := afterExecute_cases hafter
      show 0 + _ ≤ 1
      omega

/-! ## The cache -/

theorem gainsShape_of_eq {step : Step} (h : step.serviceAfter = step.service) :
    step.GainsShape slug := by
  intro key entry hlookup
  rw [h] at hlookup
  exact .inl hlookup

/-- What is remembered of a successful reply is its shape. -/
theorem gainsShape_rememberProbe {step : Step} {client : RouteClient}
    {response : ComposioExecuteResponse} (hanswer : step.answer = .executed (.ok response))
    (hsuccessful : response.successful = true)
    (h : step.serviceAfter = step.service.rememberProbe client (trim slug)
      (probedSample response)) :
    step.GainsShape slug := by
  intro key entry hlookup
  have hprobes : step.serviceAfter.caches.probes.entries =
      step.service.caches.probes.entries.insert (ContractCaches.probeKey (trim slug))
        (step.service.now, { probedSample response with sample := .null }) := by rw [h]; rfl
  rw [hprobes] at hlookup
  by_cases hkey : key = ContractCaches.probeKey (trim slug)
  · rw [hkey, AList.lookup_insert, Option.some_inj] at hlookup
    refine .inr ⟨?_, response, hanswer, hsuccessful, ?_⟩
    · rw [hkey, ContractCaches.probeKey, ContractCaches.probeKey, trim_trim]
    · rw [← hlookup]
      exact ⟨rfl, rfl, rfl⟩
  · rw [AList.lookup_insert_ne hkey] at hlookup
    exact .inl hlookup

theorem Run.gainsShape (hrun : Run prefs slug args past task) :
    ∀ step ∈ past, step.GainsShape slug := by
  induction hrun with
  | called => simp
  | @resumed past task task' service service' answer hrun hprefs hresume ih =>
    intro step hmem
    rcases List.mem_cons.mp hmem with rfl | hmem
    · rcases hrun.stage.resumed hprefs hresume with
        ⟨-, hsame, -⟩ | ⟨client, reply, hanswer, hafter, -⟩
      · exact gainsShape_of_eq hsame
      · rcases (afterExecute_cases hafter).2 with hsame | ⟨response, rfl, hsuccessful, hremembered⟩
        · exact gainsShape_of_eq hsame
        · exact gainsShape_rememberProbe hanswer hsuccessful hremembered
    · exact ih step hmem

end Runs

/-- However a probe is resumed, it dispatches at most one action, a permitted
read of a connected toolkit, and keeps no payload. -/
theorem readOnly (prefs : PrefsStore) (slug : String) (args : Json) : ReadOnly prefs slug args where
  dispatched past tool arguments client hrun := by
    cases hrun.stage with
    | execute hvetted hpermitted => exact ⟨rfl, hvetted, hpermitted⟩
  once past task hrun := by
    have hcount := hrun.countP_le
    have hallowance : allowance task ≤ 1 := by cases task <;> simp [allowance]
    omega
  cached past task hrun := hrun.gainsShape

end Probe
