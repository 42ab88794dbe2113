/-
# Tool contracts and their caches

`contracts/mod.rs`: a backend tool listing shaped into contracts, the observed
shape of a probe, the scope a probe may run at, and the two caches, whose
entries expire a fixed time after they were stored.
-/
import Mathlib.Data.List.AList
import TinyConnectors.Catalog.Lookup
import TinyConnectors.Contracts.SchemaWalk
import TinyConnectors.Payloads

open RustStr SchemaWalk

/-! ## Payloads -/

/-- The live contract of one action. -/
structure ComposioToolContract where
  slug : String
  toolkit : String
  description : Option String
  requiredArgs : List String
  inputSchema : Option Json
  outputFields : List String
  outputSchema : Option Json
  primaryArrayPath : Option String
  isCurated : Bool

/-- The observed output shape of one real action call. -/
structure ComposioProbedOutputSample where
  primaryArrayPath : Option String
  outputFields : List String
  sample : Json

/-! ## Shaping -/

def ENVELOPE_META_KEYS_AT_ROOT : List String :=
  ["successful", "error", "costUsd", "markdownFormatted"]

/-- The path to the first list in a real tool result, below the execute envelope. -/
def computeComposioArrayPath (schema : Option Json) : Option String :=
  (computePrimaryArrayPath schema).map fun path => "data." ++ path

/-- The required argument names an input schema declares. -/
def requiredArgs (parameters : Option Json) : List String :=
  match parameters.bind (SchemaWalk.get "required") with
  | some (.arr names) => names.filterMap Json.asStr
  | _ => []

/-- Maps a backend tool listing for `toolkit` into contracts. -/
def contractsFromListing (toolkit : String) (listing : ComposioToolsResponse) :
    List ComposioToolContract :=
  listing.tools.map fun tool => {
    slug := tool.function.name
    toolkit
    description := tool.function.description
    requiredArgs := requiredArgs tool.function.parameters
    inputSchema := tool.function.parameters
    outputFields := responseFieldsFromSchema tool.function.outputParameters
    outputSchema := tool.function.outputParameters
    primaryArrayPath := computeComposioArrayPath tool.function.outputParameters
    isCurated := ((catalogForToolkit toolkit).bind fun catalog =>
      findCurated catalog tool.function.name).isSome }

/-- The shape a probe observes in a response, with the response itself. -/
def probedSample (response : ComposioExecuteResponse) : ComposioProbedOutputSample where
  primaryArrayPath := computePrimaryArrayPathFromValue response.toValue ENVELOPE_META_KEYS_AT_ROOT
  outputFields := ((asObject response.data).getD []).map Prod.fst
  sample := response.toValue

/-- Whether `slug` is a confirmed read action: the scope it is confirmed at. -/
def resolveActionScope (slug : String) : Option ToolScope :=
  (Bus.toolkitFromSlug slug).bind fun toolkit =>
    match catalogForToolkit toolkit with
    | some catalog => (findCurated catalog slug).map CuratedTool.scope
    | none => some (Bus.classifyUnknown slug)

/-- The toolkit a slug belongs to. -/
def toolkitOf (slug : String) : Option String := Bus.toolkitFromSlug slug

/-! ## Caches -/

/-- A map whose entries expire after a fixed time. -/
structure TtlCache (V : Type) where
  ttl : ℕ
  /-- Under each key, when it was stored and what. -/
  entries : AList fun _ : String => ℕ × V

namespace TtlCache

variable {V : Type}

def new (ttl : ℕ) : TtlCache V := ⟨ttl, ∅⟩

/-- The value stored under `key`, unless it has expired. -/
def get (cache : TtlCache V) (now : ℕ) (key : String) : Option V :=
  (cache.entries.lookup key).bind fun entry =>
    if now - entry.1 < cache.ttl then some entry.2 else none

/-- Stores `value` under `key`, replacing any earlier entry. -/
def insert (cache : TtlCache V) (now : ℕ) (key : String) (value : V) : TtlCache V :=
  ⟨cache.ttl, cache.entries.insert key (now, value)⟩

def clear (cache : TtlCache V) : TtlCache V := ⟨cache.ttl, ∅⟩

/-- A cache answers only under the keys it has entries for. -/
theorem mem_of_get {cache : TtlCache V} {now : ℕ} {key : String} {value : V}
    (h : cache.get now key = some value) : key ∈ cache.entries := by
  obtain ⟨entry, hentry, -⟩ := Option.bind_eq_some_iff.mp h
  exact AList.lookup_isSome.mp (by rw [hentry]; rfl)

theorem mem_insert {cache : TtlCache V} {now : ℕ} {key other : String} {value : V} :
    other ∈ (cache.insert now key value).entries ↔ other = key ∨ other ∈ cache.entries :=
  AList.mem_insert _

theorem not_mem_clear (cache : TtlCache V) (key : String) : key ∉ cache.clear.entries :=
  AList.notMem_empty key

/-- What has just been stored is answered. -/
theorem get_insert {cache : TtlCache V} {now : ℕ} {key : String} {value : V}
    (httl : 0 < cache.ttl) :
    (cache.insert now key value).get now key = some value := by
  simp [get, insert, httl]

end TtlCache

/-- How long a fetched catalog or a probe result is served from memory, in seconds. -/
def CATALOG_CACHE_TTL : ℕ := 30 * 60

/-- What the contract members remember between calls, their locks apart. -/
structure ContractCaches where
  /-- Lowercase toolkit slug to every contract published for it. -/
  catalogs : TtlCache (List ComposioToolContract)
  /-- Uppercase action slug to its observed output shape. -/
  probes : TtlCache ComposioProbedOutputSample

namespace ContractCaches

def withTtl (ttl : ℕ) : ContractCaches := ⟨.new ttl, .new ttl⟩

def default : ContractCaches := withTtl CATALOG_CACHE_TTL

/-- Forgets every cached catalog and probe. -/
def clear (caches : ContractCaches) : ContractCaches := ⟨caches.catalogs.clear, caches.probes.clear⟩

def catalog (caches : ContractCaches) (now : ℕ) (toolkit : String) :
    Option (List ComposioToolContract) :=
  caches.catalogs.get now toolkit

def rememberCatalog (caches : ContractCaches) (now : ℕ) (toolkit : String)
    (contracts : List ComposioToolContract) : ContractCaches :=
  ⟨caches.catalogs.insert now toolkit contracts, caches.probes⟩

theorem catalog_rememberCatalog {caches : ContractCaches} (httl : 0 < caches.catalogs.ttl) (now : ℕ)
    (toolkit : String) (contracts : List ComposioToolContract) :
    (caches.rememberCatalog now toolkit contracts).catalog now toolkit = some contracts :=
  TtlCache.get_insert httl

/-- The key of a probe. -/
def probeKey (slug : String) : String := toAsciiUppercase (trim slug)

/-- Stores the derived shape of a real probe, never the raw sample. -/
def rememberProbe (caches : ContractCaches) (now : ℕ) (slug : String)
    (sample : ComposioProbedOutputSample) : ContractCaches :=
  ⟨caches.catalogs, caches.probes.insert now (probeKey slug) { sample with sample := .null }⟩

def probe (caches : ContractCaches) (now : ℕ) (slug : String) : Option ComposioProbedOutputSample :=
  caches.probes.get now (probeKey slug)

/-- What has just been remembered of a probe is its shape. -/
theorem probe_rememberProbe {caches : ContractCaches} (httl : 0 < caches.probes.ttl) (now : ℕ)
    (slug : String) (sample : ComposioProbedOutputSample) :
    (caches.rememberProbe now slug sample).probe now slug =
      some { sample with sample := .null } := by
  rw [rememberProbe, probe]
  exact TtlCache.get_insert httl

/-- Lays a cached probe over a schema-derived contract. -/
def applyProbe (caches : ContractCaches) (now : ℕ) (contract : ComposioToolContract) :
    ComposioToolContract :=
  match caches.probe now contract.slug with
  | none => contract
  | some probe =>
    { contract with
      primaryArrayPath := probe.primaryArrayPath
      outputFields :=
        if probe.outputFields.isEmpty then contract.outputFields else probe.outputFields }

end ContractCaches
