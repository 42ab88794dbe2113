/-
# Concurrent misses share one fetch

Any number of contract calls, interleaved in any way, while no `Configure` takes
effect and no cached catalog expires.  Every statement is about one toolkit key.
The lock of the key is held by whoever fetches for it, a success is cached before
the lock is released, and whoever gets the lock looks at the cache first: so
fetches for the key follow each other and the first that succeeds is the last.
-/
import TinyConnectors.Await
import TinyConnectors.Contracts.Service

open Await RustStr

/-! ## Fetches as history -/

/-- A call, with the answers its own listing has had. -/
structure FetchingCall where
  task : ContractTask
  fetched : List (Except String ComposioToolsResponse)

/-- The service, with the listings the backend has answered and for which key. -/
structure FetchLog where
  service : ContractService
  listings : List (String × ComposioToolsResponse)

/-- The successful listings for one key. -/
def FetchLog.listingsOf (log : FetchLog) (key : String) : List (String × ComposioToolsResponse) :=
  log.listings.filter fun listed => listed.1 = key

/-- The listing a call learns of. -/
def Answer.own : Answer → List (Except String ComposioToolsResponse)
  | .listing reply => [reply]
  | _ => []

namespace ContractTask

/-- The successful listing that a resumption makes. -/
def listed : ContractTask → Answer → List (String × ComposioToolsResponse)
  | .awaitListing _ key _, .listing (.ok listing) => [(key, listing)]
  | _, _ => []

end ContractTask

open ContractTask

/-- What happens between two resumptions: preferences change, and time passes
without a cached catalog expiring. -/
def Quiet (service service' : ContractService) : Prop :=
  (∃ prefs seconds, service' = { service with prefs := prefs, now := service.now + seconds }) ∧
    ∀ key, service'.catalog key = service.catalog key

/-- The contract members of one service while it is not configured again. -/
def quietMembers : System FetchingCall FetchLog where
  task m log m' log' := ∃ answer task' service',
    resume log.service m.task answer = some (task', service') ∧
      m' = ⟨task', answer.own ++ m.fetched⟩ ∧
      log' = ⟨service', listed m.task answer ++ log.listings⟩
  env log log' := Quiet log.service log'.service ∧ log'.listings = log.listings

/-! ## One resumption, seen from one key -/

section Step

variable {service service' : ContractService} {key : String}

theorem catalog_rememberCatalog_of_ne {other : String} (hne : key ≠ other) (client : RouteClient)
    (contracts : List ComposioToolContract) :
    (service.rememberCatalog client other contracts).catalog key = service.catalog key := by
  show ((service.caches.catalogs.entries.insert other _).lookup key).bind _ = _
  rw [AList.lookup_insert_ne hne]
  rfl

/-- What a resumption leaves as it was for `key`. -/
structure Spares (key : String) (service service' : ContractService) : Prop where
  catalog : service'.catalog key = service.catalog key
  held : key ∈ service'.held ↔ key ∈ service.held
  client : service'.client = service.client
  ttl : service'.caches.catalogs.ttl = service.caches.catalogs.ttl

theorem Spares.refl (service : ContractService) : Spares key service service :=
  ⟨rfl, Iff.rfl, rfl, rfl⟩

theorem spares_hold {other : String} (hne : key ≠ other) :
    Spares key service (service.hold other) :=
  ⟨rfl, by simp [ContractService.hold, hne], rfl, rfl⟩

theorem spares_release {other : String} (hne : key ≠ other) :
    Spares key service (service.release other) :=
  ⟨rfl, by simp [ContractService.release, hne], rfl, rfl⟩

theorem spares_rememberCatalog {other : String} (hne : key ≠ other) (client : RouteClient)
    (contracts : List ComposioToolContract) :
    Spares key service ((service.rememberCatalog client other contracts).release other) :=
  ⟨catalog_rememberCatalog_of_ne hne client contracts,
    by simp [ContractService.release, ContractService.rememberCatalog, hne], rfl, rfl⟩

theorem spares_rememberProbe (client : RouteClient) (slug : String)
    (sample : ComposioProbedOutputSample) :
    Spares key service (service.rememberProbe client slug sample) := ⟨rfl, Iff.rfl, rfl, rfl⟩

/-- The task is a fetch for `key`. -/
def Fetches (key : String) : ContractTask → Prop
  | .awaitListing _ other _ => other = key
  | _ => False

/-- What a resumption does to `key`: nothing, or one of the three steps of a fetch. -/
inductive KeyStep (key : String) (service : ContractService) :
    ContractTask → Answer → ContractTask → ContractService → Prop where
  | other {task answer task' service'} (hspares : Spares key service service')
      (hbefore : ¬ Fetches key task) (hafter : ¬ Fetches key task') :
      KeyStep key service task answer task' service'
  | lock {use client} (hfree : key ∉ service.held) (hmiss : service.catalog key = none)
      (hclient : service.client = some client) :
      KeyStep key service (.awaitLock use key) .turn (.awaitListing use key client)
        (service.hold key)
  | fail {use client message} :
      KeyStep key service (.awaitListing use key client) (.listing (.error message))
        (finish service use (.error (.upstream message))) (service.release key)
  | succeed {use client listing service'}
      (h : service' = (service.rememberCatalog client key
        (contractsFromListing key listing)).release key) :
      KeyStep key service (.awaitListing use key client) (.listing (.ok listing))
        (finish service' use (.ok (key, contractsFromListing key listing))) service'

theorem not_fetches_finish (use : CatalogUse)
    (result : Except ContractError (String × List ComposioToolContract)) :
    ¬ Fetches key (finish service use result) := by
  intro h
  cases use <;> exact h

theorem not_fetches_toolkitContracts (use : CatalogUse) (toolkit : String) :
    ¬ Fetches key (toolkitContracts service use toolkit) := by
  simp only [toolkitContracts]
  split_ifs with hempty
  · exact not_fetches_finish use _
  · split
    · exact not_fetches_finish use _
    · exact id

theorem not_fetches_execute (slug : String) (arguments : Option Json) :
    ¬ Fetches key (execute service slug arguments) := by
  unfold execute
  split <;> exact id

theorem not_fetches_judge (slug : String) (arguments : Option Json) (pref : UserScopePref) :
    ¬ Fetches key (judge service slug arguments pref) := by
  unfold judge
  split
  · exact not_fetches_execute slug arguments
  · split_ifs
    · exact not_fetches_execute slug arguments
    · exact id

theorem not_fetches_nextPref (slug : String) (arguments : Option Json) (toolkits : List String) :
    ¬ Fetches key (nextPref service slug arguments toolkits) := by
  cases toolkits with
  | nil => exact not_fetches_judge slug arguments _
  | cons toolkit rest => exact id

theorem not_fetches_refuse (message : String) : ¬ Fetches key (refuse message) := id

theorem not_fetches_probeOutput (slug : String) (args : Json) :
    ¬ Fetches key (probeOutput service slug args) := by
  simp only [probeOutput]
  generalize trim slug = slug
  by_cases hempty : slug = ""
  · rw [if_pos hempty]
    exact not_fetches_refuse _
  rw [if_neg hempty]
  rcases resolveActionScope slug with _ | scope
  · exact not_fetches_refuse _
  cases scope with
  | read =>
    rcases toolkitOf slug with _ | toolkit
    · exact not_fetches_refuse _
    · rcases service.client with _ | client
      · exact id
      · exact id
  | write => exact not_fetches_refuse _
  | admin => exact not_fetches_refuse _

theorem not_fetches_begin (call : ContractCall) : ¬ Fetches key (begin service call) := by
  cases call with
  | toolkitContracts toolkit =>
    rw [begin]
    exact not_fetches_toolkitContracts .whole toolkit
  | contractWithProbe slug =>
    simp only [begin, contractWithProbe]
    generalize trim slug = slug
    rcases toolkitOf slug with _ | toolkit
    · exact id
    · exact not_fetches_toolkitContracts (.action slug) toolkit
  | probeOutput slug args =>
    rw [begin]
    exact not_fetches_probeOutput slug args

theorem not_fetches_afterConnections (slug toolkit : String) (args : Json)
    (reply : Except String (List ComposioConnection)) :
    ¬ Fetches key (afterConnections service slug toolkit args reply) := by
  cases reply with
  | error message => exact id
  | ok connections =>
    simp only [afterConnections]
    by_cases hactive : toolkit ∉ activeToolkits connections
    · rw [if_pos hactive]
      exact not_fetches_refuse _
    · rw [if_neg hactive]
      rcases Sync.toolkitFromSlug slug with _ | named
      · exact not_fetches_execute slug _
      · exact not_fetches_nextPref slug _ _

theorem not_fetches_afterPref (slug : String) (arguments : Option Json) (toolkit : String)
    (rest : List String) : ¬ Fetches key (afterPref service slug arguments toolkit rest) := by
  unfold afterPref
  split
  · exact id
  · exact not_fetches_nextPref slug arguments rest
  · exact id

theorem not_fetches_afterLoad (slug : String) (arguments : Option Json) (toolkit : String) :
    ¬ Fetches key (afterLoad service slug arguments toolkit) := by
  unfold afterLoad
  split
  · exact id
  · exact not_fetches_judge slug arguments _

theorem keyStep_afterLock {task' : ContractTask} {use : CatalogUse} {other : String}
    (hheld : other ∉ service.held) (h : afterLock service use other = (task', service')) :
    KeyStep key service (.awaitLock use other) .turn task' service' := by
  unfold afterLock at h
  -- the cache is read again: another call may have filled it meanwhile
  cases hcache : service.catalog other with
  | some cached =>
    rw [hcache] at h
    cases h
    exact .other (.refl service) id (not_fetches_finish use _)
  | none =>
    cases hclient : service.client with
    | none =>
      rw [hcache, hclient] at h
      cases h
      exact .other (.refl service) id (not_fetches_finish use _)
    | some client =>
      rw [hcache, hclient] at h
      cases h
      by_cases hkey : key = other
      · subst hkey
        exact .lock hheld hcache hclient
      · exact .other (spares_hold hkey) id (fun h => hkey h.symm)

/-- A fetch for another key does nothing to this one. -/
theorem keyStep_afterListing {task' : ContractTask} {use : CatalogUse} {other : String}
    {client : RouteClient} {reply : Except String ComposioToolsResponse}
    (h : afterListing service use other client reply = (task', service')) :
    KeyStep key service (.awaitListing use other client) (.listing reply) task' service' := by
  cases reply with
  | error message =>
    cases h
    by_cases hkey : key = other
    · subst hkey
      exact .fail
    · exact .other (spares_release hkey) (fun h => hkey h.symm) (not_fetches_finish use _)
  | ok listing =>
    cases h
    by_cases hkey : key = other
    · subst hkey
      exact .succeed rfl
    · exact .other (spares_rememberCatalog hkey client _) (fun h => hkey h.symm)
        (not_fetches_finish use _)

theorem keyStep_afterExecute {task' : ContractTask} {slug : String} {arguments : Option Json}
    {client : RouteClient} {reply : Except String ComposioExecuteResponse}
    (h : afterExecute service slug client reply = (task', service')) :
    KeyStep key service (.awaitExecute slug arguments client) (.executed reply) task' service' := by
  cases reply with
  | error message =>
    cases h
    exact .other (.refl service) id id
  | ok response =>
    simp only [afterExecute] at h
    split_ifs at h with hsuccessful
    · cases h
      exact .other (spares_rememberProbe client slug _) id id
    · cases h
      exact .other (.refl service) id (not_fetches_refuse _)

theorem keyStep_of_resume {task task' : ContractTask} {answer : Answer}
    (h : resume service task answer = some (task', service')) :
    KeyStep key service task answer task' service' := by
  cases task with
  | called call =>
    cases answer <;> cases h
    exact .other (.refl service) id (not_fetches_begin call)
  | awaitLock use other =>
    cases answer with
    | turn =>
      simp only [resume] at h
      split_ifs at h with hheld
      exact keyStep_afterLock hheld (Option.some_inj.mp h)
    | _ => cases h
  | awaitListing use other client =>
    cases answer with
    | listing reply => exact keyStep_afterListing (Option.some_inj.mp h)
    | _ => cases h
  | awaitConnections slug toolkit args client =>
    cases answer <;> cases h
    exact .other (.refl service) id (not_fetches_afterConnections slug toolkit args _)
  | awaitPref slug arguments toolkit rest =>
    cases answer <;> cases h
    exact .other (.refl service) id (not_fetches_afterPref slug arguments toolkit rest)
  | awaitLoad slug arguments toolkit =>
    cases answer <;> cases h
    exact .other (.refl service) id (not_fetches_afterLoad slug arguments toolkit)
  | awaitExecute slug arguments client =>
    cases answer with
    | executed reply => exact keyStep_afterExecute (Option.some_inj.mp h)
    | _ => cases h
  | returned reply => cases answer <;> cases h

end Step

/-! ## Fetches for one key follow each other -/

theorem listed_of_not_fetches {key : String} {task : ContractTask} (h : ¬ Fetches key task)
    (answer : Answer) : (listed task answer).filter (fun listing => listing.1 = key) = [] := by
  rw [List.filter_eq_nil_iff]
  intro found hfound
  unfold listed at hfound
  split at hfound
  · rw [List.mem_singleton] at hfound
    subst hfound
    rw [decide_eq_true_iff]
    exact h
  · simp at hfound

/-- Either no listing for `key` has succeeded and none is cached, or one has and is. -/
def Cached (key : String) (log : FetchLog) : Prop :=
  (log.listingsOf key = [] ∧ log.service.catalog key = none) ∨
    ∃ listing, log.listingsOf key = [(key, listing)] ∧
      log.service.catalog key = some (contractsFromListing key listing)

/-- What is cached is the one listing. -/
theorem Cached.eq_of_hit {key : String} {log : FetchLog} (h : Cached key log)
    {contracts : List ComposioToolContract} (hhit : log.service.catalog key = some contracts) :
    ∃ listing, (key, listing) ∈ log.listings ∧ contracts = contractsFromListing key listing := by
  rcases h with ⟨_, hmiss⟩ | ⟨listing, hlisting, hcatalog⟩
  · rw [hmiss] at hhit
    cases hhit
  · rw [hcatalog, Option.some_inj] at hhit
    have hmem : (key, listing) ∈ log.listingsOf key := by simp [hlisting]
    exact ⟨listing, List.mem_of_mem_filter hmem, hhit.symm⟩

section Invariant

variable {ι : Type} {key : String} {installed : Option RouteClient}

/-- The lock of `key` is held by the only fetch for it, which is yet to succeed. -/
structure Following (key : String) (installed : Option RouteClient)
    (c : Config ι FetchingCall FetchLog) : Prop where
  ttl : 0 < c.store.service.caches.catalogs.ttl
  client : c.store.service.client = installed
  cached : Cached key c.store
  fetching : ∀ i, Fetches key (c.tasks i).task →
    key ∈ c.store.service.held ∧ c.store.service.catalog key = none
  route : ∀ i use route, (c.tasks i).task = .awaitListing use key route → installed = some route
  alone : ∀ i j, Fetches key (c.tasks i).task → Fetches key (c.tasks j).task → i = j

variable {c : Config ι FetchingCall FetchLog}

/-- Nobody fetches while the lock is free. -/
theorem Following.not_fetches_of_free (h : Following key installed c)
    (hfree : key ∉ c.store.service.held) (j : ι) : ¬ Fetches key (c.tasks j).task :=
  fun hj => hfree (h.fetching j hj).1

variable [DecidableEq ι]

/-- After a step of `i` the others are where they were. -/
theorem update_cases (tasks : ι → FetchingCall) (i : ι) (m' : FetchingCall) (j : ι) :
    (j = i ∧ Function.update tasks i m' j = m') ∨
      (j ≠ i ∧ Function.update tasks i m' j = tasks j) := by
  by_cases hj : j = i
  · subst hj
    exact Or.inl ⟨rfl, Function.update_self j m' tasks⟩
  · exact Or.inr ⟨hj, Function.update_of_ne hj m' tasks⟩

theorem Following.other (h : Following key installed c) (i : ι) {m' : FetchingCall}
    {service' : ContractService} {more : List (String × ComposioToolsResponse)}
    (hspares : Spares key c.store.service service') (hafter : ¬ Fetches key m'.task)
    (hmore : more.filter (fun listing => listing.1 = key) = []) :
    Following key installed ⟨Function.update c.tasks i m', service', more ++ c.store.listings⟩ where
  ttl := by
    rw [hspares.ttl]
    exact h.ttl
  client := by rw [← h.client, ← hspares.client]
  cached := by
    have hlistings : FetchLog.listingsOf ⟨service', more ++ c.store.listings⟩ key =
        c.store.listingsOf key := by
      rw [FetchLog.listingsOf, List.filter_append, hmore, List.nil_append, FetchLog.listingsOf]
    rw [Cached, hlistings, hspares.catalog]
    exact h.cached
  fetching j hj := by
    simp only at hj
    rcases update_cases c.tasks i m' j with ⟨_, heq⟩ | ⟨_, heq⟩
    · rw [heq] at hj
      exact absurd hj hafter
    · rw [heq] at hj
      rw [hspares.held, hspares.catalog]
      exact h.fetching j hj
  route j use route hj := by
    simp only at hj
    rcases update_cases c.tasks i m' j with ⟨_, heq⟩ | ⟨_, heq⟩
    · rw [heq] at hj
      rw [hj] at hafter
      exact absurd rfl hafter
    · rw [heq] at hj
      exact h.route j use route hj
  alone j k hj hk := by
    simp only at hj hk
    rcases update_cases c.tasks i m' j with ⟨_, heq⟩ | ⟨_, heq⟩
    · rw [heq] at hj
      exact absurd hj hafter
    rcases update_cases c.tasks i m' k with ⟨_, heq'⟩ | ⟨_, heq'⟩
    · rw [heq'] at hk
      exact absurd hk hafter
    rw [heq] at hj
    rw [heq'] at hk
    exact h.alone j k hj hk

theorem Following.lock (h : Following key installed c) (i : ι) {use : CatalogUse}
    {route : RouteClient} {fetched : List (Except String ComposioToolsResponse)}
    (hfree : key ∉ c.store.service.held) (hmiss : c.store.service.catalog key = none)
    (hclient : c.store.service.client = some route) :
    Following key installed ⟨Function.update c.tasks i ⟨.awaitListing use key route, fetched⟩,
      c.store.service.hold key, c.store.listings⟩ where
  ttl := h.ttl
  client := h.client
  cached := h.cached
  fetching j hj := ⟨Finset.mem_insert_self key _, hmiss⟩
  route j use' route' hj := by
    simp only at hj
    rcases update_cases c.tasks i ⟨.awaitListing use key route, fetched⟩ j with ⟨_, heq⟩ | ⟨_, heq⟩
    · rw [heq] at hj
      cases hj
      rw [← h.client, hclient]
    · rw [heq] at hj
      exact h.route j use' route' hj
  alone j k hj hk := by
    simp only at hj hk
    rcases update_cases c.tasks i ⟨.awaitListing use key route, fetched⟩ j with ⟨hji, _⟩ | ⟨_, heq⟩
    · rcases update_cases c.tasks i ⟨.awaitListing use key route, fetched⟩ k
        with ⟨hki, _⟩ | ⟨_, heq⟩
      · rw [hji, hki]
      · rw [heq] at hk
        exact absurd hk (h.not_fetches_of_free hfree k)
    · rw [heq] at hj
      exact absurd hj (h.not_fetches_of_free hfree j)

/-- When the only fetch for `key` ends, there is none. -/
theorem Following.not_fetches_of_end (h : Following key installed c) {i : ι}
    (hi : Fetches key (c.tasks i).task) {m' : FetchingCall}
    (hafter : ¬ Fetches key m'.task) (j : ι) :
    ¬ Fetches key (Function.update c.tasks i m' j).task := by
  intro hj
  rcases update_cases c.tasks i m' j with ⟨_, heq⟩ | ⟨hne, heq⟩
  · rw [heq] at hj
    exact hafter hj
  · rw [heq] at hj
    exact hne (h.alone j i hj hi)

/-- A fetch has ended and `cached` says what it leaves. -/
theorem Following.ended (h : Following key installed c) {i : ι} (hi : Fetches key (c.tasks i).task)
    {m' : FetchingCall} (hafter : ¬ Fetches key m'.task) {log' : FetchLog}
    (httl : log'.service.caches.catalogs.ttl = c.store.service.caches.catalogs.ttl)
    (hclient : log'.service.client = c.store.service.client) (hcached : Cached key log') :
    Following key installed ⟨Function.update c.tasks i m', log'⟩ where
  ttl := by
    rw [httl]
    exact h.ttl
  client := by rw [← h.client, ← hclient]
  cached := hcached
  fetching j hj := absurd hj (h.not_fetches_of_end hi hafter j)
  route j use route hj := by
    simp only at hj
    have hfetch : Fetches key (Function.update c.tasks i m' j).task := by
      rw [hj]
      exact rfl
    exact absurd hfetch (h.not_fetches_of_end hi hafter j)
  alone j _ hj _ := absurd hj (h.not_fetches_of_end hi hafter j)

theorem Following.step {c' : Config ι FetchingCall FetchLog} (h : Following key installed c)
    (hstep : quietMembers.Step c c') : Following key installed c' := by
  cases hstep with
  | env henv =>
    rename_i log'
    -- neither the lock nor the entry of the key is touched from outside
    obtain ⟨⟨⟨prefs, seconds, hservice⟩, hcatalog⟩, hlistings⟩ := henv
    refine ⟨?_, ?_, ?_, ?_, h.route, h.alone⟩
    · rw [hservice]
      exact h.ttl
    · rw [hservice]
      exact h.client
    · rw [Cached, FetchLog.listingsOf, hlistings, hcatalog]
      exact h.cached
    · intro i hi
      rw [hcatalog]
      refine ⟨?_, (h.fetching i hi).2⟩
      rw [hservice]
      exact (h.fetching i hi).1
  | task i htask =>
    obtain ⟨answer, task', service', hresume, rfl, rfl⟩ := htask
    have hkey : KeyStep key _ _ _ _ _ := keyStep_of_resume hresume
    generalize htask : (c.tasks i).task = task at hkey
    cases hkey with
    | other hspares hbefore hafter =>
        exact h.other i hspares hafter (listed_of_not_fetches hbefore _)
    | lock hfree hmiss hclient => exact h.lock i hfree hmiss hclient
    | fail =>
      have hi : Fetches key (c.tasks i).task := by
        rw [htask]
        exact rfl
      exact h.ended hi (not_fetches_finish _ _) rfl rfl h.cached
    | @succeed use route listing _ hservice =>
      have hi : Fetches key (c.tasks i).task := by
        rw [htask]
        exact rfl
      subst hservice
      refine h.ended hi (not_fetches_finish _ _) rfl rfl (Or.inr ⟨listing, ?_, ?_⟩)
      -- the key was free of an entry while it was fetched, so this listing is the first
      · rcases h.cached with ⟨hnone, _⟩ | ⟨listing, _, hhit⟩
        · rw [FetchLog.listingsOf] at hnone
          simp [FetchLog.listingsOf, listed, hnone]
        · rw [(h.fetching i hi).2] at hhit
          cases hhit
      · exact ContractCaches.catalog_rememberCatalog h.ttl _ _ _

end Invariant

/-! ## One call for the key -/

/-- Where a call of `toolkit_contracts` for `key` can be, with what its own
listing has answered. -/
inductive FetchProgress (key : String) (log : FetchLog) :
    ContractTask → List (Except String ComposioToolsResponse) → Prop where
  | called {toolkit : String} (h : toolkitKey toolkit = key) :
      FetchProgress key log (.called (.toolkitContracts toolkit)) []
  | waiting : FetchProgress key log (.awaitLock .whole key) []
  | fetching (client : RouteClient) : FetchProgress key log (.awaitListing .whole key client) []
  /-- Without a listing of its own a call fails with a text of the module's own. -/
  | refused (message : String) :
      FetchProgress key log (.returned (.catalog (.error (.failed message)))) []
  | failed (message : String) :
      FetchProgress key log (.returned (.catalog (.error (.upstream message)))) [.error message]
  | fetched {listing : ComposioToolsResponse} (h : (key, listing) ∈ log.listings) :
      FetchProgress key log (.returned (.catalog (.ok (key, contractsFromListing key listing))))
        [.ok listing]
  | shared {listing : ComposioToolsResponse} (h : (key, listing) ∈ log.listings) :
      FetchProgress key log (.returned (.catalog (.ok (key, contractsFromListing key listing)))) []

namespace FetchProgress

variable {key : String} {log log' : FetchLog} {task task' : ContractTask}
  {fetched : List (Except String ComposioToolsResponse)}

/-- Listings are never forgotten. -/
theorem mono (h : FetchProgress key log task fetched)
    (hlistings : ∀ listed ∈ log.listings, listed ∈ log'.listings) :
    FetchProgress key log' task fetched := by
  cases h with
  | called hkey => exact .called hkey
  | waiting => exact .waiting
  | fetching client => exact .fetching client
  | refused message => exact .refused message
  | failed message => exact .failed message
  | fetched hmem => exact .fetched (hlistings _ hmem)
  | shared hmem => exact .shared (hlistings _ hmem)

theorem of_hit (hcached : Cached key log) {contracts : List ComposioToolContract}
    (hhit : log.service.catalog key = some contracts) :
    FetchProgress key log (finish log.service .whole (.ok (key, contracts))) [] := by
  obtain ⟨listing, hmem, rfl⟩ := hcached.eq_of_hit hhit
  exact .shared hmem

/-- Up to the lock. -/
theorem of_begin (hcached : Cached key log) {toolkit : String} (hkey : toolkitKey toolkit = key) :
    FetchProgress key log (toolkitContracts log.service .whole toolkit) [] := by
  unfold toolkitKey at hkey
  simp only [toolkitContracts, hkey]
  by_cases hempty : key = ""
  · rw [if_pos hempty]
    exact .refused _
  · rw [if_neg hempty]
    rcases hhit : log.service.catalog key with _ | contracts
    · exact .waiting
    · exact of_hit hcached hhit

/-- With the lock. -/
theorem of_lock (hcached : Cached key log) :
    FetchProgress key ⟨(afterLock log.service .whole key).2, log.listings⟩
      (afterLock log.service .whole key).1 [] := by
  unfold afterLock
  rcases hhit : log.service.catalog key with _ | contracts
  · rcases log.service.client with _ | client
    · exact .refused _
    · exact .fetching client
  · exact (of_hit hcached hhit).mono fun _ hmem => hmem

/-- A call for the key stays one, whatever it is resumed with. -/
theorem step (h : FetchProgress key log task fetched) (hcached : Cached key log) {answer : Answer}
    {service' : ContractService}
    (hresume : resume log.service task answer = some (task', service')) :
    FetchProgress key ⟨service', listed task answer ++ log.listings⟩ task'
      (answer.own ++ fetched) := by
  cases h with
  | @called toolkit hkey =>
    have hbegin := of_begin hcached hkey
    -- the rest of the argument does not depend on what the call goes on with
    rw [show toolkitContracts log.service .whole toolkit =
      begin log.service (.toolkitContracts toolkit) from by rw [begin]] at hbegin
    generalize ContractCall.toolkitContracts toolkit = call at hresume hbegin ⊢
    cases answer <;> cases hresume
    exact hbegin.mono fun _ hmem => hmem
  | waiting =>
    cases answer with
    | turn =>
      have hlock := of_lock hcached
      simp only [resume] at hresume
      split_ifs at hresume with hheld
      rw [Option.some_inj] at hresume
      rw [hresume] at hlock
      exact hlock
    | listing reply => cases hresume
    | connections reply => cases hresume
    | executed reply => cases hresume
  | fetching client =>
    cases answer with
    | listing reply =>
      cases reply with
      | error message =>
        cases hresume
        exact .failed message
      | ok listing =>
        cases hresume
        exact .fetched List.mem_cons_self
    | turn => cases hresume
    | connections reply => cases hresume
    | executed reply => cases hresume
  | refused message => cases answer <;> cases hresume
  | failed message => cases answer <;> cases hresume
  | fetched hmem => cases answer <;> cases hresume
  | shared hmem => cases answer <;> cases hresume

end FetchProgress

/-! ## Whole runs -/

section Run

variable {ι : Type} (key : String)

/-- Calls have been made and none has run yet; the lock of `key` is free. -/
structure Began (c : Config ι FetchingCall FetchLog) : Prop where
  tasks : ∀ i, ∃ call, c.tasks i = ⟨.called call, []⟩
  free : key ∉ c.store.service.held
  cached : Cached key c.store
  ttl : 0 < c.store.service.caches.catalogs.ttl

/-- The calls of `toolkit_contracts` whose toolkit has this key. -/
def Callers (c : Config ι FetchingCall FetchLog) : Set ι :=
  {i | ∃ toolkit, (c.tasks i).task = .called (.toolkitContracts toolkit) ∧ toolkitKey toolkit = key}

/-- What calls for one key share. -/
structure SharesFetch (callers : Set ι) (c : Config ι FetchingCall FetchLog) : Prop where
  /-- At most one listing for the key has succeeded. -/
  once : (c.store.listingsOf key).length ≤ 1
  /-- Whoever has contracts has those of that listing, and of no other key. -/
  ok : ∀ i ∈ callers, ∀ found contracts,
    (c.tasks i).task = .returned (.catalog (.ok (found, contracts))) →
      found = key ∧ ∃ listing, c.store.listingsOf key = [(key, listing)] ∧
        contracts = contractsFromListing key listing
  /-- A failed listing is reported by the call that made it, and by no other. -/
  failed : ∀ i ∈ callers, ∀ message,
    (c.tasks i).task = .returned (.catalog (.error (.upstream message))) ↔
      (c.tasks i).fetched = [.error message]
  /-- After a failed listing the next to get the lock lists again. -/
  retry : ∀ i use client, (c.tasks i).task = .awaitListing use key client → ∀ message,
    ∃ task' service', resume c.store.service (c.tasks i).task (.listing (.error message)) =
        some (task', service') ∧
      ∀ next, resume service' (.awaitLock next key) .turn =
        some (.awaitListing next key client, service'.hold key)

variable {key}

theorem Began.following {c : Config ι FetchingCall FetchLog} (h : Began key c) :
    Following key c.store.service.client c := by
  have hidle : ∀ i, ¬ Fetches key (c.tasks i).task := by
    intro i hi
    obtain ⟨call, hcall⟩ := h.tasks i
    rw [hcall] at hi
    exact hi
  refine ⟨h.ttl, rfl, h.cached, fun i hi => absurd hi (hidle i), ?_,
    fun i _ hi => absurd hi (hidle i)⟩
  intro i use route hi
  obtain ⟨call, hcall⟩ := h.tasks i
  rw [hcall] at hi
  cases hi

variable [DecidableEq ι] {c₀ c c' : Config ι FetchingCall FetchLog}

theorem progress_step {i : ι} (hcached : Cached key c.store)
    (h : FetchProgress key c.store (c.tasks i).task (c.tasks i).fetched)
    (hstep : quietMembers.Step c c') :
    FetchProgress key c'.store (c'.tasks i).task (c'.tasks i).fetched := by
  cases hstep with
  | env henv =>
    refine h.mono fun listed hmem => ?_
    rw [henv.2]
    exact hmem
  | task j htask =>
    obtain ⟨answer, task', service', hresume, rfl, rfl⟩ := htask
    simp only
    rcases update_cases c.tasks j ⟨task', answer.own ++ (c.tasks j).fetched⟩ i
      with ⟨hij, heq⟩ | ⟨_, heq⟩
    · rw [heq]
      subst hij
      exact h.step hcached hresume
    · rw [heq]
      exact h.mono fun listed hmem => List.mem_append_right _ hmem

theorem following_of_run (hbegan : Began key c₀) (hrun : quietMembers.Run c₀ c) :
    Following key c₀.store.service.client c ∧
      ∀ i ∈ Callers key c₀, FetchProgress key c.store (c.tasks i).task (c.tasks i).fetched := by
  induction hrun with
  | refl =>
    refine ⟨hbegan.following, ?_⟩
    rintro i ⟨toolkit, htask, hkey⟩
    obtain ⟨call, hcall⟩ := hbegan.tasks i
    rw [htask, hcall]
    exact .called hkey
  | tail _ hstep ih =>
    obtain ⟨hfollowing, hprogress⟩ := ih
    exact ⟨hfollowing.step hstep,
      fun i hi => progress_step hfollowing.cached (hprogress i hi) hstep⟩

/-- The listing a caller has learned of is the only one. -/
theorem Cached.listingsOf_eq {log : FetchLog} (h : Cached key log) {listing : ComposioToolsResponse}
    (hmem : (key, listing) ∈ log.listings) : log.listingsOf key = [(key, listing)] := by
  have hfound : (key, listing) ∈ log.listingsOf key := List.mem_filter.mpr ⟨hmem, by simp⟩
  rcases h with ⟨hnone, _⟩ | ⟨one, hone, _⟩
  · rw [hnone] at hfound
    simp at hfound
  · rw [hone, List.mem_singleton] at hfound
    rw [hone, hfound]

/-- Concurrent misses share one fetch. -/
theorem sharesFetch_of_run (hbegan : Began key c₀) (hrun : quietMembers.Run c₀ c) :
    SharesFetch key (Callers key c₀) c := by
  obtain ⟨hfollowing, hprogress⟩ := following_of_run hbegan hrun
  refine ⟨?_, ?_, ?_, ?_⟩
  · rcases hfollowing.cached with ⟨hnone, _⟩ | ⟨listing, hone, _⟩
    · simp [hnone]
    · simp [hone]
  · intro i hi found contracts htask
    have hi := hprogress i hi
    rw [htask] at hi
    generalize (c.tasks i).fetched = fetched at hi
    cases hi with
    | fetched hmem => exact ⟨rfl, _, hfollowing.cached.listingsOf_eq hmem, rfl⟩
    | shared hmem => exact ⟨rfl, _, hfollowing.cached.listingsOf_eq hmem, rfl⟩
  · intro i hi message
    have hi := hprogress i hi
    generalize (c.tasks i).fetched = fetched at hi
    generalize (c.tasks i).task = task at hi
    cases hi <;> simp
  · intro i use client htask message
    refine ⟨finish c.store.service use (.error (.upstream message)), c.store.service.release key,
      ?_, ?_⟩
    · rw [htask]
      rfl
    · intro next
      have hfetch : Fetches key (c.tasks i).task := by
        rw [htask]
        exact rfl
      have hmiss : (c.store.service.release key).catalog key = none :=
        (hfollowing.fetching i hfetch).2
      have hclient : (c.store.service.release key).client = some client := by
        rw [← hfollowing.route i use client htask]
        exact hfollowing.client
      exact resume_lock (Finset.notMem_erase key _) hmiss hclient next

end Run

/-! ## A failed fetch while another call waits -/

/-- Two calls for one toolkit, spelt differently. -/
def twoCalls : Config Bool FetchingCall FetchLog :=
  ⟨fun first => ⟨.called (.toolkitContracts (if first then "github" else " GitHub ")), []⟩,
    ⟨.load (some "proxy") (.ofRows []), []⟩⟩

theorem began_twoCalls : Began "github" twoCalls where
  tasks _ := ⟨_, rfl⟩
  free := Finset.notMem_empty _
  cached := Or.inl ⟨rfl, rfl⟩
  ttl := by decide

theorem step_of_resume {ι : Type} [DecidableEq ι] {c : Config ι FetchingCall FetchLog} (i : ι)
    (answer : Answer) {m : FetchingCall} {task' : ContractTask} {service' : ContractService}
    (hm : c.tasks i = m) (h : resume c.store.service m.task answer = some (task', service')) :
    quietMembers.Step c ⟨Function.update c.tasks i ⟨task', answer.own ++ m.fetched⟩,
      ⟨service', listed m.task answer ++ c.store.listings⟩⟩ := by
  subst hm
  exact .task i ⟨answer, task', service', h, rfl, rfl⟩

/-- The first call fails, and the second, which has waited, lists again. -/
theorem sharesFetch_of_run_twoCalls : ∃ c : Config Bool FetchingCall FetchLog,
    (c.tasks true).task = .returned (.catalog (.error (.upstream "offline"))) ∧
      (c.tasks false).task = .returned (.catalog (.ok ("github", []))) ∧
        SharesFetch "github" (Callers "github" twoCalls) c := by
  have hfirst : toolkitKey "github" = "github" := by decide +kernel
  have hsecond : toolkitKey " GitHub " = "github" := by decide +kernel
  have hne : "github" ≠ "" := by decide
  have hrun : quietMembers.Run twoCalls twoCalls := .refl
  -- both miss, the first gets the lock, fails and gives it back
  have hrun := hrun.tail (step_of_resume true .turn rfl (resume_called hfirst hne rfl))
  have hrun := hrun.tail (step_of_resume true .turn rfl
    (resume_lock (Finset.notMem_empty _) rfl rfl .whole))
  have hrun := hrun.tail (step_of_resume false .turn rfl (resume_called hsecond hne rfl))
  have hrun := hrun.tail (step_of_resume true (.listing (.error "offline")) rfl rfl)
  have hrun := hrun.tail (step_of_resume false .turn rfl
    (resume_lock (Finset.notMem_erase _ _) rfl rfl .whole))
  have hrun := hrun.tail (step_of_resume false (.listing (.ok ⟨[]⟩)) rfl rfl)
  exact ⟨_, rfl, rfl, sharesFetch_of_run began_twoCalls hrun⟩
