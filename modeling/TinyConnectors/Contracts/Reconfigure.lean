/-
# What the caches answer with after Configure

`configure` swaps the client and clears the caches in one step, but a call that
took its client earlier still stores what that client answers.  Entries of
replaced routes therefore come back exactly through answers that a `Configure`
has overtaken; where there are none, every hit is of the route in use
(`answers_current_of_prompt`).
-/
import TinyConnectors.Await
import TinyConnectors.Contracts.Service

open Await

namespace ContractService

/-- No catalog and no probed shape that the caches answer with was fetched over a
route that a `Configure` has replaced. -/
structure AnswersCurrent (service : ContractService) : Prop where
  catalog : ∀ key contracts, service.catalog key = some contracts →
    service.generation ≤ service.catalogRoute key
  probe : ∀ slug sample, service.probe slug = some sample →
    service.generation ≤ service.probeRoute (ContractCaches.probeKey slug)

/-- Nothing that is stored was fetched over a replaced route. -/
structure StoresCurrent (service : ContractService) : Prop where
  catalog : ∀ key ∈ service.caches.catalogs.entries, service.generation ≤ service.catalogRoute key
  probe : ∀ key ∈ service.caches.probes.entries, service.generation ≤ service.probeRoute key

/-- A hit is an entry. -/
theorem StoresCurrent.answersCurrent {service : ContractService} (h : service.StoresCurrent) :
    service.AnswersCurrent where
  catalog key _ hhit := h.catalog key (TtlCache.mem_of_get hhit)
  probe slug _ hhit := h.probe (ContractCaches.probeKey slug) (TtlCache.mem_of_get hhit)

/-! ## Configure -/

theorem storesCurrent_load (route : Option String) (prefs : PrefsStore) :
    (load route prefs).StoresCurrent where
  catalog _ _ := le_rfl
  probe _ _ := le_rfl

/-- Installing a route forgets everything, whatever had been stored. -/
theorem storesCurrent_install (service : ContractService) (route : Option String) :
    (service.install route).StoresCurrent where
  catalog key hkey := absurd hkey (TtlCache.not_mem_clear _ key)
  probe key hkey := absurd hkey (TtlCache.not_mem_clear _ key)

/-- A `Configure` that is refused changes nothing. -/
theorem StoresCurrent.configure {service : ContractService} (h : service.StoresCurrent)
    (request : ConfigureRequest) : (service.configure request).2.StoresCurrent := by
  cases request with
  | none => exact storesCurrent_install service none
  | route built =>
    cases built with
    | error error => exact h
    | ok name => exact storesCurrent_install service (some name)

/-! ## Remembering -/

theorem catalogRoute_rememberCatalog (service : ContractService) (client : RouteClient)
    (key : String) (contracts : List ComposioToolContract) :
    (service.rememberCatalog client key contracts).catalogRoute =
      Function.update service.catalogRoute key client.generation := rfl

theorem probeRoute_rememberProbe (service : ContractService) (client : RouteClient)
    (slug : String) (sample : ComposioProbedOutputSample) :
    (service.rememberProbe client slug sample).probeRoute =
      Function.update service.probeRoute (ContractCaches.probeKey slug) client.generation := by
  rw [rememberProbe]

/-- A catalog may be remembered when its client has not been replaced. -/
theorem StoresCurrent.rememberCatalog {service : ContractService} (h : service.StoresCurrent)
    {client : RouteClient} (hprompt : service.generation ≤ client.generation) (key : String)
    (contracts : List ComposioToolContract) :
    (service.rememberCatalog client key contracts).StoresCurrent where
  catalog other hother := by
    rw [catalogRoute_rememberCatalog]
    by_cases hkey : other = key
    · rw [hkey, Function.update_self]
      exact hprompt
    · rw [Function.update_of_ne hkey]
      exact h.catalog other ((TtlCache.mem_insert.mp hother).resolve_left hkey)
  probe := h.probe

/-- So may a probe. -/
theorem StoresCurrent.rememberProbe {service : ContractService} (h : service.StoresCurrent)
    {client : RouteClient} (hprompt : service.generation ≤ client.generation) (slug : String)
    (sample : ComposioProbedOutputSample) :
    (service.rememberProbe client slug sample).StoresCurrent where
  catalog := h.catalog
  probe other hother := by
    rw [probeRoute_rememberProbe]
    by_cases hkey : other = ContractCaches.probeKey slug
    · rw [hkey, Function.update_self]
      exact hprompt
    · rw [Function.update_of_ne hkey]
      exact h.probe other ((TtlCache.mem_insert.mp hother).resolve_left hkey)

/-! ## Overtaken answers -/

/-- Both caches keep their entries for some time. -/
def KeepsEntries (service : ContractService) : Prop :=
  0 < service.caches.catalogs.ttl ∧ 0 < service.caches.probes.ttl

theorem keepsEntries_load (route : Option String) (prefs : PrefsStore) :
    (load route prefs).KeepsEntries := by
  show 0 < CATALOG_CACHE_TTL ∧ 0 < CATALOG_CACHE_TTL
  decide

/-- A catalog of a replaced client is answered with at once. -/
theorem not_answersCurrent_rememberCatalog {service : ContractService}
    (hkeeps : service.KeepsEntries) {client : RouteClient}
    (hover : client.generation < service.generation) (key : String)
    (contracts : List ComposioToolContract) :
    ¬ (service.rememberCatalog client key contracts).AnswersCurrent := by
  intro hcurrent
  have hroute := hcurrent.catalog key contracts
    (ContractCaches.catalog_rememberCatalog hkeeps.1 service.now key contracts)
  rw [catalogRoute_rememberCatalog, Function.update_self] at hroute
  exact absurd hover (not_lt.mpr hroute)

/-- So is a probe. -/
theorem not_answersCurrent_rememberProbe {service : ContractService} (hkeeps : service.KeepsEntries)
    {client : RouteClient} (hover : client.generation < service.generation) (slug : String)
    (sample : ComposioProbedOutputSample) :
    ¬ (service.rememberProbe client slug sample).AnswersCurrent := by
  intro hcurrent
  have hroute := hcurrent.probe slug _
    (ContractCaches.probe_rememberProbe hkeeps.2 service.now slug sample)
  rw [probeRoute_rememberProbe, Function.update_self] at hroute
  exact absurd hover (not_lt.mpr hroute)

end ContractService

namespace ContractTask

open ContractService

/-! ## What one resumption does -/

/-- What resuming a call may do to the service, by the client whose answer it
stores, if it stores one. -/
inductive Resumed (service : ContractService) : Option RouteClient → ContractService → Prop where
  | same : Resumed service none service
  | hold (key : String) : Resumed service none (service.hold key)
  | release (key : String) : Resumed service none (service.release key)
  | catalog (client : RouteClient) (key : String) (contracts : List ComposioToolContract) :
      Resumed service (some client) ((service.rememberCatalog client key contracts).release key)
  | probe (client : RouteClient) (slug : String) (sample : ComposioProbedOutputSample) :
      Resumed service (some client) (service.rememberProbe client slug sample)

section
variable {service service' : ContractService} {task task' : ContractTask}

theorem resumed_afterLock {use : CatalogUse} {key : String}
    (h : afterLock service use key = (task', service')) : Resumed service none service' := by
  unfold afterLock at h
  split at h
  · cases h
    exact .same
  · split at h <;> cases h
    · exact .same
    · exact .hold key

theorem resumed_afterListing {use : CatalogUse} {key : String} {client : RouteClient}
    {reply : Except String ComposioToolsResponse}
    (h : afterListing service use key client reply = (task', service')) :
    Resumed service (storedOver (.awaitListing use key client) (.listing reply)) service' := by
  cases reply <;> cases h
  · exact .release key
  · exact .catalog client key _

/-- Only a successful answer is stored. -/
theorem resumed_afterExecute {slug : String} {arguments : Option Json} {client : RouteClient}
    {reply : Except String ComposioExecuteResponse}
    (h : afterExecute service slug client reply = (task', service')) :
    Resumed service (storedOver (.awaitExecute slug arguments client) (.executed reply))
      service' := by
  cases reply with
  | error message =>
    cases h
    exact .same
  | ok response =>
    simp only [afterExecute] at h
    simp only [storedOver]
    split_ifs at h ⊢ with hsuccessful
    · cases h
      exact .probe client slug _
    · cases h
      exact .same

theorem resumed_of_resume {answer : Answer}
    (h : resume service task answer = some (task', service')) :
    Resumed service (storedOver task answer) service' := by
  cases task with
  | awaitLock use key =>
    cases answer with
    | turn =>
      simp only [resume] at h
      split_ifs at h with hheld
      exact resumed_afterLock (Option.some_inj.mp h)
    | _ => cases h
  | awaitListing use key client =>
    cases answer with
    | listing reply => exact resumed_afterListing (Option.some_inj.mp h)
    | _ => cases h
  | awaitExecute slug arguments client =>
    cases answer with
    | executed reply => exact resumed_afterExecute (Option.some_inj.mp h)
    | _ => cases h
  | called call =>
    cases answer <;> cases h
    exact .same
  | awaitConnections slug toolkit args client =>
    cases answer <;> cases h
    exact .same
  | awaitPref slug arguments toolkit rest =>
    cases answer <;> cases h
    exact .same
  | awaitLoad slug arguments toolkit =>
    cases answer <;> cases h
    exact .same
  | returned reply => cases answer <;> cases h

end

/-- No `Configure` has taken effect since the call took the client whose answer
it is about to store. -/
def Prompt (service : ContractService) (task : ContractTask) (answer : Answer) : Prop :=
  ∀ client ∈ storedOver task answer, service.generation ≤ client.generation

theorem storesCurrent_of_resume {service service' : ContractService} {task task' : ContractTask}
    {answer : Answer} (hstores : service.StoresCurrent) (hprompt : Prompt service task answer)
    (h : resume service task answer = some (task', service')) : service'.StoresCurrent := by
  have hresumed := resumed_of_resume h
  unfold Prompt at hprompt
  -- the guard is about the same client as the case of the resumption
  generalize storedOver task answer = stored at hresumed hprompt
  cases hresumed with
  | same => exact hstores
  | hold key => exact ⟨hstores.catalog, hstores.probe⟩
  | release key => exact ⟨hstores.catalog, hstores.probe⟩
  | catalog client key contracts =>
    have hcurrent := hstores.rememberCatalog (hprompt client rfl) key contracts
    exact ⟨hcurrent.catalog, hcurrent.probe⟩
  | probe client slug sample => exact hstores.rememberProbe (hprompt client rfl) slug sample

/-- Nothing changes how long entries are kept. -/
theorem Resumed.keepsEntries {service service' : ContractService} {stored : Option RouteClient}
    (h : Resumed service stored service') (hkeeps : service.KeepsEntries) :
    service'.KeepsEntries := by
  cases h with
  | same => exact hkeeps
  | hold key => exact hkeeps
  | release key => exact hkeeps
  | catalog client key contracts => exact hkeeps
  | probe client slug sample => exact hkeeps

/-- The guard is exact: an overtaken answer is answered with as soon as it is stored. -/
theorem not_answersCurrent_of_resume {service service' : ContractService}
    {task task' : ContractTask} {answer : Answer} (hkeeps : service.KeepsEntries)
    (hover : ¬ Prompt service task answer)
    (h : resume service task answer = some (task', service')) : ¬ service'.AnswersCurrent := by
  have hresumed := resumed_of_resume h
  simp only [Prompt, not_forall, not_le] at hover
  obtain ⟨client, hclient, hover⟩ := hover
  rw [Option.mem_def] at hclient
  rw [hclient] at hresumed
  cases hresumed with
  | catalog _ key contracts =>
    intro hcurrent
    exact not_answersCurrent_rememberCatalog hkeeps hover key contracts
      ⟨hcurrent.catalog, hcurrent.probe⟩
  | probe _ slug sample => exact not_answersCurrent_rememberProbe hkeeps hover slug sample

end ContractTask

/-! ## Any number of calls, and Configure -/

open ContractService ContractTask

/-- What happens between two resumptions: `Configure` calls, time, and changes to
the stored preferences. -/
def Between (service service' : ContractService) : Prop :=
  (∃ request, service' = (service.configure request).2) ∨
    (∃ seconds, service' = { service with now := service.now + seconds }) ∨
      ∃ prefs, service' = { service with prefs := prefs }

/-- The contract members of one service. -/
def contractMembers : System ContractTask ContractService where
  task task service task' service' :=
    ∃ answer, resume service task answer = some (task', service')
  env := Between

/-- The same, where no answer is stored that a `Configure` has overtaken. -/
def promptMembers : System ContractTask ContractService where
  task task service task' service' :=
    ∃ answer, Prompt service task answer ∧ resume service task answer = some (task', service')
  env := Between

/-- The module has been loaded and nothing has happened yet. -/
def Loaded {ι : Type} (c : Config ι ContractTask ContractService) : Prop :=
  (∀ i, ∃ call, c.tasks i = .called call) ∧ ∃ route prefs, c.store = .load route prefs

theorem ContractService.StoresCurrent.between {service service' : ContractService}
    (h : service.StoresCurrent) (hbetween : Between service service') : service'.StoresCurrent := by
  rcases hbetween with ⟨request, rfl⟩ | ⟨seconds, rfl⟩ | ⟨prefs, rfl⟩
  · exact h.configure request
  · exact ⟨h.catalog, h.probe⟩
  · exact ⟨h.catalog, h.probe⟩

theorem promptMembers_stable :
    promptMembers.Stable StoresCurrent (fun _ _ => True) (fun _ _ => True) where
  task hstores _ hstep := by
    obtain ⟨answer, hprompt, hresume⟩ := hstep
    exact ⟨storesCurrent_of_resume hstores hprompt hresume, trivial, trivial⟩
  env hstores hbetween := ⟨hstores.between hbetween, trivial⟩
  mono _ _ _ := trivial

/-- In every run in which no stored answer has been overtaken by a `Configure`,
the caches answer with nothing that was fetched over a replaced route. -/
theorem answers_current_of_prompt {ι : Type} [DecidableEq ι]
    {c₀ c : Config ι ContractTask ContractService} (hloaded : Loaded c₀)
    (hrun : promptMembers.Run c₀ c) : c.store.AnswersCurrent := by
  obtain ⟨-, route, prefs, hload⟩ := hloaded
  have hstart : c₀.Holds StoresCurrent (fun _ _ => True) := by
    refine ⟨?_, fun _ => trivial⟩
    rw [hload]
    exact storesCurrent_load route prefs
  exact (promptMembers_stable.reachable hstart hrun).1.answersCurrent

theorem keepsEntries_of_between {service service' : ContractService} (hkeeps : service.KeepsEntries)
    (hbetween : Between service service') : service'.KeepsEntries := by
  rcases hbetween with ⟨request, rfl⟩ | ⟨seconds, rfl⟩ | ⟨prefs, rfl⟩
  · cases request with
    | none => exact hkeeps
    | route built => cases built <;> exact hkeeps
  · exact hkeeps
  · exact hkeeps

theorem contractMembers_keepsEntries :
    contractMembers.Stable KeepsEntries (fun _ _ => True) (fun _ _ => True) where
  task hkeeps _ hstep := by
    obtain ⟨answer, hresume⟩ := hstep
    exact ⟨(resumed_of_resume hresume).keepsEntries hkeeps, trivial, trivial⟩
  env hkeeps hbetween := ⟨keepsEntries_of_between hkeeps hbetween, trivial⟩
  mono _ _ _ := trivial

/-- Conversely: in every run, once a call stores an answer that a `Configure` has
overtaken, the caches answer with it. -/
theorem not_answersCurrent_of_overtaken {ι : Type} [DecidableEq ι]
    {c₀ c : Config ι ContractTask ContractService} (hloaded : Loaded c₀)
    (hrun : contractMembers.Run c₀ c) {i : ι} {answer : Answer} {task' : ContractTask}
    {service' : ContractService} (hover : ¬ Prompt c.store (c.tasks i) answer)
    (hresume : resume c.store (c.tasks i) answer = some (task', service')) :
    ¬ service'.AnswersCurrent := by
  obtain ⟨-, route, prefs, hload⟩ := hloaded
  have hstart : c₀.Holds KeepsEntries (fun _ _ => True) := by
    refine ⟨?_, fun _ => trivial⟩
    rw [hload]
    exact keepsEntries_load route prefs
  have hkeeps := (contractMembers_keepsEntries.reachable hstart hrun).1
  exact not_answersCurrent_of_resume hkeeps hover hresume

/-! ## A fetch with Configure in the middle -/

/-- The call for a catalog that is not cached goes up to the fetch lock. -/
theorem begin_github (service : ContractService) (hmiss : service.catalog "github" = none) :
    resume service (.called (.toolkitContracts "github")) .turn =
      some (.awaitLock .whole "github", service) :=
  resume_called (by decide +kernel) (by decide) hmiss

/-- The service after the module was loaded with a route. -/
def proxyService : ContractService := .load (some "proxy") (.ofRows [])

/-- The fetch has begun, and the user signs out. -/
def signedOut : ContractService := ((proxyService.hold "github").configure .none).2

/-- The answer that `Configure` has overtaken. -/
theorem listing_github : resume signedOut (.awaitListing .whole "github" ⟨"proxy", 0⟩)
    (.listing (.ok ⟨[]⟩)) = some (.returned (.catalog (.ok ("github", []))),
      (signedOut.rememberCatalog ⟨"proxy", 0⟩ "github" []).release "github") := rfl

theorem signedOut_run : contractMembers.Run (ι := Unit)
    ⟨fun _ => .called (.toolkitContracts "github"), proxyService⟩
    ⟨fun _ => .awaitListing .whole "github" ⟨"proxy", 0⟩, signedOut⟩ := by
  have hbegin := begin_github proxyService rfl
  have hlock : resume proxyService (.awaitLock .whole "github") .turn =
      some (.awaitListing .whole "github" ⟨"proxy", 0⟩, proxyService.hold "github") :=
    resume_lock (Finset.notMem_empty _) rfl rfl .whole
  have hsignOut : Between (proxyService.hold "github") signedOut := .inl ⟨.none, rfl⟩
  exact .tail (.tail (.tail .refl (.single ⟨.turn, hbegin⟩)) (.single ⟨.turn, hlock⟩))
    (.env hsignOut)

/-- The caches do answer for a route that has been replaced. -/
theorem not_answersCurrent : ¬ ∀ c₀ c : Config Unit ContractTask ContractService,
    Loaded c₀ → contractMembers.Run c₀ c → c.store.AnswersCurrent := by
  intro h
  have hloaded : Loaded (ι := Unit) ⟨fun _ => .called (.toolkitContracts "github"), proxyService⟩ :=
    ⟨fun _ => ⟨_, rfl⟩, _, _, rfl⟩
  have hcurrent := h _ _ hloaded (signedOut_run.tail (.single ⟨_, listing_github⟩))
  have hkeeps : signedOut.KeepsEntries := ⟨by decide, by decide⟩
  refine not_answersCurrent_of_resume hkeeps ?_ listing_github hcurrent
  intro hprompt
  have hle : 1 ≤ 0 := hprompt ⟨"proxy", 0⟩ rfl
  omega

/-- The service after `Configure` has installed another route, before any fetch. -/
def signedIn : ContractService := (proxyService.configure (.route (.ok "direct"))).2

/-- A fetch that begins after that stores what the caches may answer with. -/
theorem answers_current_of_prompt_direct :
    ((signedIn.rememberCatalog ⟨"direct", 1⟩ "github" []).release "github").AnswersCurrent := by
  have hloaded : Loaded (ι := Unit) ⟨fun _ => .called (.toolkitContracts "github"), proxyService⟩ :=
    ⟨fun _ => ⟨_, rfl⟩, _, _, rfl⟩
  have hbegin := begin_github signedIn rfl
  have hlock : resume signedIn (.awaitLock .whole "github") .turn =
      some (.awaitListing .whole "github" ⟨"direct", 1⟩, signedIn.hold "github") :=
    resume_lock (Finset.notMem_empty _) rfl rfl .whole
  have hlisting : resume (signedIn.hold "github") (.awaitListing .whole "github" ⟨"direct", 1⟩)
      (.listing (.ok ⟨[]⟩)) = some (.returned (.catalog (.ok ("github", []))),
        (signedIn.rememberCatalog ⟨"direct", 1⟩ "github" []).release "github") := rfl
  have hpromptBegin : Prompt signedIn (.called (.toolkitContracts "github")) .turn := by
    intro client hclient
    cases hclient
  have hpromptLock : Prompt signedIn (.awaitLock .whole "github") .turn := by
    intro client hclient
    cases hclient
  have hpromptListing : Prompt (signedIn.hold "github")
      (.awaitListing .whole "github" ⟨"direct", 1⟩) (.listing (.ok ⟨[]⟩)) := by
    rintro client ⟨⟩
    exact le_rfl
  have hrun : promptMembers.Run (ι := Unit)
      ⟨fun _ => .called (.toolkitContracts "github"), proxyService⟩
      ⟨fun _ => .returned (.catalog (.ok ("github", []))),
        (signedIn.rememberCatalog ⟨"direct", 1⟩ "github" []).release "github"⟩ :=
    .tail (.tail (.tail (.tail .refl (.env (.inl ⟨.route (.ok "direct"), rfl⟩)))
      (.single ⟨.turn, hpromptBegin, hbegin⟩)) (.single ⟨.turn, hpromptLock, hlock⟩))
      (.single ⟨_, hpromptListing, hlisting⟩)
  exact answers_current_of_prompt hloaded hrun
