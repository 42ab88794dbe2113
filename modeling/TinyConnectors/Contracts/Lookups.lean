/-
# The two contract lookups

`ListToolContracts` is given the toolkit, `GetToolContract` reads it off the
action's slug.  Both then list, cache and search the same way, so they agree on an
action exactly when the toolkit read off its slug is the one it is published
under (`lookupsAgree_iff`).
-/
import TinyConnectors.Catalog.Slugs
import TinyConnectors.Contracts.Service

open Relation RustStr ContractTask

/-! ## One call at a time -/

section Alone

variable (backend : String → Except String ComposioToolsResponse)

/-- What a call of the two lookups is resumed with when nothing else goes on. -/
def Backend.answer : ContractTask → Answer
  | .awaitListing _ key _ => .listing (backend key)
  | _ => .turn

/-- One resumption of a call that is alone. -/
def Backend.Resumes (p q : ContractTask × ContractService) : Prop :=
  resume p.2 p.1 (Backend.answer backend p.1) = some q

/-- From `p` the call returns `reply` and leaves `service'`. -/
def Backend.Returns (p : ContractTask × ContractService) (reply : ContractReply)
    (service' : ContractService) : Prop :=
  ReflTransGen (Backend.Resumes backend) p (.returned reply, service')

/-- Every cached catalog is what the backend lists. -/
def Faithful (service : ContractService) : Prop :=
  ∀ key contracts, service.catalog key = some contracts →
    ∃ listing, backend key = .ok listing ∧ contracts = contractsFromListing key listing

variable {backend}

/-- A call has one next step. -/
theorem Backend.Returns.next {p q : ContractTask × ContractService} {reply : ContractReply}
    {service' : ContractService} (h : Backend.Returns backend p reply service')
    (hnext : Backend.Resumes backend p q) : Backend.Returns backend q reply service' := by
  rcases ReflTransGen.cases_head h with heq | ⟨r, hr, hrest⟩
  · rw [heq, Backend.Resumes] at hnext
    cases hnext
  · rw [Backend.Resumes] at hr hnext
    rw [hnext, Option.some_inj] at hr
    rw [hr]
    exact hrest

/-- A returned call goes no further. -/
theorem Backend.Returns.eq_of_finish {use : CatalogUse}
    {result : Except ContractError (String × List ComposioToolContract)} {reply : ContractReply}
    {service service' : ContractService}
    (h : Backend.Returns backend (finish service use result, service) reply service') :
    finish service' use result = .returned reply ∧ service' = service := by
  rcases ReflTransGen.cases_head h with heq | ⟨r, hr, _⟩
  · rw [Prod.mk.injEq] at heq
    obtain ⟨htask, rfl⟩ := heq
    exact ⟨htask, rfl⟩
  · cases use <;> cases hr

/-- An error is returned as it is, whatever the caches answer. -/
theorem finish_error (service service' : ContractService) (use : CatalogUse)
    (error : ContractError) :
    finish service use (.error error) = finish service' use (.error error) := by
  cases use <;> rfl

/-! ## What a listing of a toolkit gives -/

/-- The catalog comes from the backend, from a cache or at once. -/
structure Listed (backend : String → Except String ComposioToolsResponse) (key : String)
    (service service' : ContractService) (found : String × List ComposioToolContract) : Prop where
  nonempty : key ≠ ""
  listing : ∃ listing, backend key = .ok listing ∧ found = (key, contractsFromListing key listing)
  probes : ∀ slug, service'.probe slug = service.probe slug

theorem Faithful.listed {service : ContractService} (hfaithful : Faithful backend service)
    {key : String} (hne : key ≠ "") {cached : List ComposioToolContract}
    (hhit : service.catalog key = some cached) :
    Listed backend key service service (key, cached) := by
  obtain ⟨listing, hlisting, rfl⟩ := hfaithful key cached hhit
  exact ⟨hne, ⟨listing, hlisting, rfl⟩, fun _ => rfl⟩

/-- What a call of `toolkit_contracts` comes to. -/
theorem returns_toolkitContracts {service service' : ContractService} {use : CatalogUse}
    {toolkit : String} {reply : ContractReply} (hfaithful : Faithful backend service)
    (h : Backend.Returns backend (toolkitContracts service use toolkit, service) reply service') :
    ∃ result, finish service' use result = .returned reply ∧
      ∀ found, result = .ok found → Listed backend (toolkitKey toolkit) service service' found := by
  have hkey : toAsciiLowercase (trim toolkit) = toolkitKey toolkit := by rw [toolkitKey]
  simp only [toolkitContracts, hkey] at h
  generalize toolkitKey toolkit = key at h
  by_cases hempty : key = ""
  · rw [if_pos hempty] at h
    obtain ⟨hreply, _⟩ := h.eq_of_finish
    exact ⟨_, hreply, fun found hfound => by cases hfound⟩
  rw [if_neg hempty] at h
  rcases hhit : service.catalog key with _ | cached
  · rw [hhit] at h
    -- the lock, which is free, for otherwise the call does not return
    rcases ReflTransGen.cases_head h with heq | ⟨q, hq, hrest⟩
    · cases heq
    rw [Backend.Resumes] at hq
    simp only [Backend.answer, resume] at hq
    split_ifs at hq with hheld
    rw [Option.some_inj] at hq
    subst hq
    unfold afterLock at hrest
    rw [hhit] at hrest
    rcases hclient : service.client with _ | client
    · rw [hclient] at hrest
      obtain ⟨hreply, _⟩ := Backend.Returns.eq_of_finish hrest
      exact ⟨_, hreply, fun found hfound => by cases hfound⟩
    rw [hclient] at hrest
    rcases ReflTransGen.cases_head hrest with heq | ⟨q, hq, hrest⟩
    · cases heq
    rw [Backend.Resumes] at hq
    simp only [Backend.answer, resume, Option.some_inj] at hq
    subst hq
    rcases hbackend : backend key with message | listing
    · rw [hbackend, afterListing, finish_error _ ((service.hold key).release key)] at hrest
      obtain ⟨hreply, _⟩ := Backend.Returns.eq_of_finish hrest
      exact ⟨_, hreply, fun found hfound => by cases hfound⟩
    · rw [hbackend] at hrest
      obtain ⟨hreply, rfl⟩ := Backend.Returns.eq_of_finish hrest
      refine ⟨_, hreply, fun found hfound => ?_⟩
      cases hfound
      exact ⟨hempty, ⟨listing, hbackend, rfl⟩, fun _ => rfl⟩
  · rw [hhit] at h
    obtain ⟨hreply, rfl⟩ := h.eq_of_finish
    refine ⟨_, hreply, fun found hfound => ?_⟩
    cases hfound
    exact hfaithful.listed hempty hhit

/-- The catalog of `key` is cached, or can be fetched. -/
def CanList (service : ContractService) (key : String) : Prop :=
  service.catalog key ≠ none ∨ (∃ client, service.client = some client) ∧ key ∉ service.held

/-- Where the backend lists the toolkit, the call does return its contracts. -/
theorem exists_returns_toolkitContracts {service : ContractService} {toolkit : String}
    (hfaithful : Faithful backend service) (hne : toolkitKey toolkit ≠ "")
    (hserves : CanList service (toolkitKey toolkit)) {listing : ComposioToolsResponse}
    (hlisting : backend (toolkitKey toolkit) = .ok listing) (use : CatalogUse) :
    ∃ service', (∀ slug, service'.probe slug = service.probe slug) ∧
      ReflTransGen (Backend.Resumes backend) (toolkitContracts service use toolkit, service)
        (finish service' use (.ok (toolkitKey toolkit,
          contractsFromListing (toolkitKey toolkit) listing)), service') := by
  have hkey : toAsciiLowercase (trim toolkit) = toolkitKey toolkit := by rw [toolkitKey]
  simp only [toolkitContracts, hkey]
  generalize toolkitKey toolkit = key at *
  rw [if_neg hne]
  rcases hhit : service.catalog key with _ | cached
  · obtain ⟨⟨client, hclient⟩, hfree⟩ := hserves.resolve_left (fun hnone => hnone hhit)
    have hlock : Backend.Resumes backend (.awaitLock use key, service)
        (.awaitListing use key client, service.hold key) := resume_lock hfree hhit hclient use
    have hlisted : Backend.Resumes backend (.awaitListing use key client, service.hold key)
        (afterListing (service.hold key) use key client (.ok listing)) := by
      rw [Backend.Resumes]
      simp only [Backend.answer, hlisting, resume]
    exact ⟨((service.hold key).rememberCatalog client key
      (contractsFromListing key listing)).release key, fun _ => rfl,
      ReflTransGen.head hlock (ReflTransGen.single hlisted)⟩
  · obtain ⟨found, hfound, rfl⟩ := hfaithful key cached hhit
    rw [hlisting, Except.ok.injEq] at hfound
    subst hfound
    exact ⟨service, fun _ => rfl, .refl⟩

end Alone

/-! ## Agreement -/

/-- The service that answers the second lookup: what it has cached is what the
backend lists, its probes are those of the first, and it can list `key`. -/
structure Answers (backend : String → Except String ComposioToolsResponse) (key : String)
    (service service₂ : ContractService) : Prop where
  faithful : Faithful backend service₂
  probes : ∀ slug, service₂.probe slug = service.probe slug
  serves : CanList service₂ key

/-- Whatever contract `ListToolContracts` returns for `slug`, `GetToolContract`
returns the same, the probe laid over both. -/
def LookupsAgree (backend : String → Except String ComposioToolsResponse) (toolkit slug : String) :
    Prop :=
  ∀ service found contracts service', Faithful backend service →
    Backend.Returns backend (.called (.toolkitContracts toolkit), service)
      (.catalog (.ok (found, contracts))) service' →
    ∀ contract ∈ contracts.map service'.applyProbe, contract.slug = slug →
      ∀ service₂, Answers backend (toolkitKey toolkit) service' service₂ →
        ∃ service₂', Backend.Returns backend (.called (.contractWithProbe slug), service₂)
          (.contract (.ok (some contract))) service₂'

/-- No two actions of the listing have the same slug up to case. -/
def DistinctNames (listing : ComposioToolsResponse) : Prop :=
  listing.tools.Pairwise fun tool other =>
    eqIgnoreAsciiCase tool.function.name other.function.name = false

/-- The slug has no outer white space, and the parser reads the toolkit off it:
it falls under a tabled prefix of that toolkit, or under none and the toolkit is
one word. -/
structure NamesToolkit (toolkit rest : String) : Prop where
  trimmed : trim (publishedSlug toolkit rest) = publishedSlug toolkit rest
  tabled : ∀ entry ∈ busTable,
    startsWith (toAsciiUppercase (publishedSlug toolkit rest)) entry.1 = true →
      entry.2 = toolkitKey toolkit
  oneWord : (∀ entry ∈ busTable,
    startsWith (toAsciiUppercase (publishedSlug toolkit rest)) entry.1 = false) →
      '_' ∉ toolkit.toList

/-! ## The toolkit read off a slug -/

theorem underscore_mem_toolkitKey {toolkit : String} :
    '_' ∈ (toolkitKey toolkit).toList ↔ '_' ∈ toolkit.toList := by
  rw [toolkitKey, toList_toAsciiLowercase, toList_trim, List.mem_map,
    ← mem_trimChars (show isWhitespace '_' = false by decide)]
  constructor
  · rintro ⟨c, hc, hlower⟩
    rw [toLower_eq_iff (by decide)] at hlower
    rw [← hlower]
    exact hc
  · intro h
    exact ⟨'_', h, by decide⟩

/-- The key of a name does not see its case. -/
theorem toolkitKey_toAsciiLowercase (toolkit : String) :
    toolkitKey (toAsciiLowercase toolkit) = toolkitKey toolkit := by
  rw [toolkitKey, ← toAsciiLowercase_trim, toAsciiLowercase_toAsciiLowercase, toolkitKey]

/-- The names of the table are keys. -/
theorem toolkitKey_tabled : ∀ entry ∈ busTable, toolkitKey entry.2 = entry.2 := by
  decide +kernel

theorem findPrefix_eq_none {table : List (String × String)} {upper : String}
    (h : ∀ entry ∈ table, startsWith upper entry.1 = false) : findPrefix table upper = none := by
  rw [findPrefix, Option.map_eq_none_iff, List.find?_eq_none]
  intro entry hmem
  rw [h entry hmem]
  exact Bool.false_ne_true

/-- The parser reads the toolkit off a slug without outer white space exactly
when the table and the words say so. -/
theorem namesToolkit_iff {toolkit rest : String} (hne : toolkitKey toolkit ≠ "")
    (htrim : trim (publishedSlug toolkit rest) = publishedSlug toolkit rest) :
    (∃ guess, toolkitOf (publishedSlug toolkit rest) = some guess ∧
      toolkitKey guess = toolkitKey toolkit) ↔ NamesToolkit toolkit rest := by
  have hnonempty := trim_publishedSlug_ne toolkit rest
  rw [toolkitOf, Bus.toolkitFromSlug_eq, tableToolkit, if_neg hnonempty, htrim]
  by_cases huntabled : ∀ entry ∈ busTable,
      startsWith (toAsciiUppercase (publishedSlug toolkit rest)) entry.1 = false
  · rw [findPrefix_eq_none huntabled]
    constructor
    · rintro ⟨guess, hguess, hkey⟩
      refine ⟨htrim, ?_, fun _ hunder => ?_⟩
      · intro entry hmem hstarts
        rw [huntabled entry hmem] at hstarts
        cases hstarts
      · -- the first word has no underscore, so neither has its key
        rw [← underscore_mem_toolkitKey, ← hkey, underscore_mem_toolkitKey] at hunder
        simp only [firstSegmentToolkit, Option.ite_none_left_eq_some, Option.some_inj] at hguess
        rw [← hguess.2, toList_toAsciiLowercase, splitFirst, String.toList_ofList,
          List.mem_map] at hunder
        obtain ⟨c, hc, hlower⟩ := hunder
        rw [toLower_eq_iff (by decide)] at hlower
        have hword := List.mem_takeWhile_imp hc
        rw [hlower] at hword
        exact absurd hword (by decide)
    · intro hnames
      have hword := splitFirst_of_carries (hnames.oneWord huntabled)
        (carries_publishedSlug toolkit rest)
      have hupper : toAsciiUppercase toolkit ≠ "" := by
        intro hempty
        have hlower := toAsciiLowercase_toAsciiUppercase toolkit
        rw [hempty] at hlower
        rw [← toolkitKey_toAsciiLowercase, ← hlower] at hne
        exact hne (by decide +kernel)
      refine ⟨toAsciiLowercase toolkit, ?_, toolkitKey_toAsciiLowercase toolkit⟩
      simp only [firstSegmentToolkit, hword, if_neg hupper, toAsciiLowercase_toAsciiUppercase]
  · simp only [not_forall, Bool.not_eq_false] at huntabled
    obtain ⟨entry, hmem, hstarts⟩ := huntabled
    rw [findPrefix_of_mem prefixFree_bus hmem hstarts]
    constructor
    · rintro ⟨guess, hguess, hkey⟩
      refine ⟨htrim, ?_, ?_⟩
      · intro other hother hotherStarts
        have hsame := findPrefix_of_mem prefixFree_bus hother hotherStarts
        rw [findPrefix_of_mem prefixFree_bus hmem hstarts, Option.some_inj] at hsame
        rw [Option.some_inj] at hguess
        rw [← hsame, ← hkey, ← hguess, toolkitKey_tabled entry hmem]
      · intro hnone
        rw [hnone entry hmem] at hstarts
        cases hstarts
    · intro hnames
      refine ⟨entry.2, rfl, ?_⟩
      rw [toolkitKey_tabled entry hmem, hnames.tabled entry hmem hstarts]

/-! ## Contracts of a listing -/

theorem applyProbe_slug (service : ContractService) (contract : ComposioToolContract) :
    (service.applyProbe contract).slug = contract.slug := by
  unfold ContractService.applyProbe ContractCaches.applyProbe
  split <;> rfl

theorem applyProbe_toolkit (service : ContractService) (contract : ComposioToolContract) :
    (service.applyProbe contract).toolkit = contract.toolkit := by
  unfold ContractService.applyProbe ContractCaches.applyProbe
  split <;> rfl

/-- The overlay depends on the probes alone. -/
theorem applyProbe_congr {service service' : ContractService}
    (h : ∀ slug, service'.probe slug = service.probe slug) (contract : ComposioToolContract) :
    service'.applyProbe contract = service.applyProbe contract := by
  have hslug := h contract.slug
  simp only [ContractService.probe] at hslug
  simp only [ContractService.applyProbe, ContractCaches.applyProbe, hslug]

theorem mem_contractsFromListing {key : String} {listing : ComposioToolsResponse}
    {contract : ComposioToolContract} (h : contract ∈ contractsFromListing key listing) :
    contract.toolkit = key := by
  obtain ⟨tool, _, rfl⟩ := List.mem_map.mp h
  rfl

/-- Where slugs are distinct up to case, the action of a listing is found under its slug. -/
theorem find_contract {key : String} {listing : ComposioToolsResponse}
    (hdistinct : DistinctNames listing) {contract : ComposioToolContract}
    (hmem : contract ∈ contractsFromListing key listing) :
    (contractsFromListing key listing).find? (fun other =>
      eqIgnoreAsciiCase other.slug contract.slug) = some contract := by
  have hself : eqIgnoreAsciiCase contract.slug contract.slug = true := by
    rw [eqIgnoreAsciiCase_iff]
  have hpairwise : (contractsFromListing key listing).Pairwise fun one other =>
      eqIgnoreAsciiCase one.slug other.slug = false :=
    List.pairwise_map.mpr hdistinct
  generalize contractsFromListing key listing = contracts at hmem hpairwise
  obtain ⟨before, after, rfl⟩ := List.append_of_mem hmem
  have hbefore : before.find? (fun other => eqIgnoreAsciiCase other.slug contract.slug) = none := by
    rw [List.find?_eq_none]
    intro other hother
    rw [List.pairwise_append] at hpairwise
    rw [hpairwise.2.2 other hother contract List.mem_cons_self]
    exact Bool.false_ne_true
  rw [List.find?_append, hbefore, Option.none_or, List.find?_cons, hself]

section Agreement

variable {backend : String → Except String ComposioToolsResponse} {toolkit rest : String}
  {listing : ComposioToolsResponse}

/-- What `ListToolContracts` returns is what the backend lists. -/
theorem listed_of_returns {service service' : ContractService} {found : String}
    {contracts : List ComposioToolContract} (hfaithful : Faithful backend service)
    (h : Backend.Returns backend (.called (.toolkitContracts toolkit), service)
      (.catalog (.ok (found, contracts))) service') :
    Listed backend (toolkitKey toolkit) service service' (found, contracts) := by
  have hnext : Backend.Resumes backend (.called (.toolkitContracts toolkit), service)
      (toolkitContracts service .whole toolkit, service) := by
    rw [Backend.Resumes]
    simp only [Backend.answer, resume, begin]
  obtain ⟨result, hfinish, hlisted⟩ := returns_toolkitContracts hfaithful (h.next hnext)
  simp only [finish, ContractTask.returned.injEq, ContractReply.catalog.injEq] at hfinish
  exact hlisted _ hfinish

/-- Where the slug reads back, `GetToolContract` lists the same toolkit. -/
theorem lookupsAgree_of_namesToolkit (hlisting : backend (toolkitKey toolkit) = .ok listing)
    (hdistinct : DistinctNames listing) (hnames : NamesToolkit toolkit rest) :
    LookupsAgree backend toolkit (publishedSlug toolkit rest) := by
  intro service found contracts service' hfaithful hreturns contract hmem hslug service₂ hanswers
  obtain ⟨hne, ⟨listed, hlisted, hfound⟩, hprobes⟩ := listed_of_returns hfaithful hreturns
  rw [hlisting, Except.ok.injEq] at hlisted
  subst hlisted
  rw [Prod.mk.injEq] at hfound
  obtain ⟨_, rfl⟩ := hfound
  obtain ⟨bare, hbare, rfl⟩ := List.mem_map.mp hmem
  rw [applyProbe_slug] at hslug
  obtain ⟨guess, hguess, hkey⟩ := (namesToolkit_iff hne hnames.trimmed).mpr hnames
  have hnext : Backend.Resumes backend
      (.called (.contractWithProbe (publishedSlug toolkit rest)), service₂)
      (toolkitContracts service₂ (.action (publishedSlug toolkit rest)) guess, service₂) := by
    rw [Backend.Resumes]
    simp only [Backend.answer, resume, begin, contractWithProbe, hnames.trimmed, hguess]
  have hserves := hanswers.serves
  rw [← hkey] at hne hlisting hserves hbare
  obtain ⟨service₂', hprobes₂, hreach⟩ := exists_returns_toolkitContracts hanswers.faithful hne
    hserves hlisting (.action (publishedSlug toolkit rest))
  refine ⟨service₂', ReflTransGen.head hnext ?_⟩
  have hfind := find_contract hdistinct hbare
  rw [hslug] at hfind
  have hsame : service₂'.applyProbe bare = service'.applyProbe bare := by
    refine applyProbe_congr (fun slug => ?_) bare
    rw [hprobes₂, hanswers.probes]
  rw [finish, Except.map, hfind, Option.map_some, hsame] at hreach
  exact hreach

theorem faithful_load (client : Option String) (prefs : PrefsStore) :
    Faithful backend (.load client prefs) := by
  intro key contracts hhit
  cases hhit

theorem canList_load (name : String) (prefs : PrefsStore) (key : String) :
    CanList (.load (some name) prefs) key :=
  Or.inr ⟨⟨_, rfl⟩, Finset.notMem_empty key⟩

/-- The contract that is returned is one of the catalog. -/
theorem contract_of_finish {service : ContractService} {slug : String}
    {result : Except ContractError (String × List ComposioToolContract)}
    {contract : ComposioToolContract}
    (h : finish service (.action slug) result = .returned (.contract (.ok (some contract)))) :
    ∃ found, result = .ok found ∧ ∃ bare ∈ found.2,
      eqIgnoreAsciiCase bare.slug slug = true ∧ contract = service.applyProbe bare := by
  rcases result with error | found
  · cases h
  · rw [finish, ContractTask.returned.injEq, ContractReply.contract.injEq, Except.map,
      Except.ok.injEq, Option.map_eq_some_iff] at h
    obtain ⟨bare, hfind, heq⟩ := h
    have hsame := List.find?_some hfind
    exact ⟨found, rfl, bare, List.mem_of_find?_eq_some hfind, hsame, heq.symm⟩

/-- A contract that `GetToolContract` returns is listed under the toolkit read off the slug. -/
theorem toolkit_of_returns {service service' : ContractService} {slug : String}
    {contract : ComposioToolContract} (hfaithful : Faithful backend service)
    (h : Backend.Returns backend (.called (.contractWithProbe slug), service)
      (.contract (.ok (some contract))) service') :
    eqIgnoreAsciiCase contract.slug (trim slug) = true ∧
      ∃ guess, toolkitOf (trim slug) = some guess ∧ contract.toolkit = toolkitKey guess := by
  have hnext : Backend.Resumes backend (.called (.contractWithProbe slug), service)
      (contractWithProbe service slug, service) := by
    rw [Backend.Resumes]
    simp only [Backend.answer, resume, begin]
  have hrest := h.next hnext
  clear h hnext
  simp only [contractWithProbe] at hrest
  generalize trim slug = trimmed at hrest ⊢
  rcases hguess : toolkitOf trimmed with _ | guess
  · rw [hguess] at hrest
    rcases ReflTransGen.cases_head hrest with heq | ⟨q, hq, _⟩
    · cases heq
    · cases hq
  rw [hguess] at hrest
  obtain ⟨result, hfinish, hlisted⟩ := returns_toolkitContracts hfaithful hrest
  obtain ⟨found, hresult, bare, hbare, hsame, rfl⟩ := contract_of_finish hfinish
  obtain ⟨_, ⟨listed, _, hfound⟩, _⟩ := hlisted found hresult
  rw [hfound] at hbare
  rw [applyProbe_slug, applyProbe_toolkit, mem_contractsFromListing hbare]
  exact ⟨hsame, guess, rfl, rfl⟩

/-- Where the lookups agree on a listed action, its slug reads back. -/
theorem namesToolkit_of_lookupsAgree (hlisting : backend (toolkitKey toolkit) = .ok listing)
    (hlisted : ∃ tool ∈ listing.tools, tool.function.name = publishedSlug toolkit rest)
    (hne : toolkitKey toolkit ≠ "")
    (hagree : LookupsAgree backend toolkit (publishedSlug toolkit rest)) :
    NamesToolkit toolkit rest := by
  -- ask for both with nothing cached
  have hfaithful : Faithful backend (.load (some "proxy") (.ofRows [])) := faithful_load _ _
  have hserves : CanList (.load (some "proxy") (.ofRows [])) (toolkitKey toolkit) :=
    canList_load _ _ _
  obtain ⟨service', hprobes, hreach⟩ :=
    exists_returns_toolkitContracts hfaithful hne hserves hlisting .whole
  have hnext : Backend.Resumes backend
      (.called (.toolkitContracts toolkit), .load (some "proxy") (.ofRows []))
      (toolkitContracts (.load (some "proxy") (.ofRows [])) .whole toolkit,
        .load (some "proxy") (.ofRows [])) := by
    rw [Backend.Resumes]
    simp only [Backend.answer, resume, begin]
  obtain ⟨tool, htool, hname⟩ := hlisted
  obtain ⟨bare, hbare, hslug⟩ : ∃ bare ∈ contractsFromListing (toolkitKey toolkit) listing,
      bare.slug = publishedSlug toolkit rest := ⟨_, List.mem_map_of_mem htool, hname⟩
  obtain ⟨service₂', hget⟩ := hagree _ _ _ service' hfaithful (ReflTransGen.head hnext hreach)
    (service'.applyProbe bare) (List.mem_map_of_mem hbare) (by rw [applyProbe_slug, hslug])
    _ ⟨hfaithful, fun slug => (hprobes slug).symm, hserves⟩
  obtain ⟨heq, guess, hguess, hkey⟩ := toolkit_of_returns hfaithful hget
  rw [applyProbe_slug, hslug] at heq
  rw [applyProbe_toolkit, mem_contractsFromListing hbare] at hkey
  have htrim : trim (publishedSlug toolkit rest) = publishedSlug toolkit rest := by
    have hback : eqIgnoreAsciiCase (trim (publishedSlug toolkit rest))
        (publishedSlug toolkit rest) = true := by
      rw [eqIgnoreAsciiCase_iff] at heq ⊢
      rw [heq]
    exact trim_eq_of_eqIgnoreAsciiCase hback (trim_trim _)
  rw [htrim] at hguess
  exact (namesToolkit_iff hne htrim).mp ⟨guess, hguess, hkey.symm⟩

/-- The two lookups agree on a listed action exactly when the parser reads the
toolkit off its slug. -/
theorem lookupsAgree_iff (hlisting : backend (toolkitKey toolkit) = .ok listing)
    (hdistinct : DistinctNames listing)
    (hlisted : ∃ tool ∈ listing.tools, tool.function.name = publishedSlug toolkit rest) :
    LookupsAgree backend toolkit (publishedSlug toolkit rest) ↔
      toolkitKey toolkit = "" ∨ NamesToolkit toolkit rest := by
  constructor
  · intro hagree
    by_cases hempty : toolkitKey toolkit = ""
    · exact Or.inl hempty
    · exact Or.inr (namesToolkit_of_lookupsAgree hlisting hlisted hempty hagree)
  · rintro (hempty | hnames)
    · intro service found contracts service' hfaithful hreturns
      exact absurd hempty (listed_of_returns hfaithful hreturns).nonempty
    · exact lookupsAgree_of_namesToolkit hlisting hdistinct hnames

end Agreement

/-! ## A toolkit of two words -/

/-- A backend that lists one action, under one toolkit. -/
def oneAction (toolkit rest : String) (key : String) : Except String ComposioToolsResponse :=
  if key = toolkit then .ok ⟨[⟨⟨publishedSlug toolkit rest, none, none, none⟩⟩]⟩ else .ok ⟨[]⟩

/-- `GMAIL_SEND_EMAIL` is listed under `gmail` and looked up there. -/
theorem lookupsAgree_gmail : LookupsAgree (oneAction "gmail" "SEND_EMAIL") "gmail"
    (publishedSlug "gmail" "SEND_EMAIL") := by
  have hkey : toolkitKey "gmail" = "gmail" := by decide +kernel
  have hlisting : oneAction "gmail" "SEND_EMAIL" (toolkitKey "gmail") =
      .ok ⟨[⟨⟨publishedSlug "gmail" "SEND_EMAIL", none, none, none⟩⟩]⟩ := by
    rw [hkey, oneAction, if_pos rfl]
  refine (lookupsAgree_iff hlisting (List.pairwise_singleton _ _)
    ⟨_, List.mem_singleton_self _, rfl⟩).mpr (Or.inr ⟨by decide +kernel, ?_, fun _ => by decide⟩)
  decide +kernel

/-- `ZOHO_BOOKS_LIST_INVOICES` is listed under `zoho_books` and looked up under `zoho`. -/
theorem not_lookupsAgree_zoho_books : ¬ LookupsAgree (oneAction "zoho_books" "LIST_INVOICES")
    "zoho_books" (publishedSlug "zoho_books" "LIST_INVOICES") := by
  have hkey : toolkitKey "zoho_books" = "zoho_books" := by decide +kernel
  have hlisting : oneAction "zoho_books" "LIST_INVOICES" (toolkitKey "zoho_books") =
      .ok ⟨[⟨⟨publishedSlug "zoho_books" "LIST_INVOICES", none, none, none⟩⟩]⟩ := by
    rw [hkey, oneAction, if_pos rfl]
  intro hagree
  have hnames := namesToolkit_of_lookupsAgree hlisting ⟨_, List.mem_singleton_self _, rfl⟩
    (by rw [hkey]; decide) hagree
  exact hnames.oneWord (by decide +kernel) (by decide)
