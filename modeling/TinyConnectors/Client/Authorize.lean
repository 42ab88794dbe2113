/-
# What an authorize asks for

`client/composio.rs`: the body of an authorize is the toolkit, the caller's own
parameters and the scopes the toolkit needs.  A caller's scopes may come in any shape;
the ones that survive the merge are those of a list.
-/
import TinyConnectors.Direct.Url
import TinyConnectors.Execute.FilterResponse

namespace Client

open RustStr

/-- The crate's errors an authorize can end in. -/
inductive Error where
  | authorize (toolkit message : String)
  | route (error : Direct.Error)

/-- The text each error is rendered with. -/
def Error.text : Error → String
  | authorize toolkit message => s!"authorize failed for {toolkit}: {message}"
  | route error => error.text

def RESERVED_AUTHORIZE_KEYS : List String := ["toolkit", "toolkit_version", "auth", "client_id"]

def GMAIL_REQUIRED_OAUTH_SCOPES : List String := ["https://www.googleapis.com/auth/gmail.readonly"]

def OAUTH_SCOPES_FIELD : String := "oauth_scopes"

/-- The scopes a toolkit needs beyond Composio's defaults. -/
def requiredOauthScopesForToolkit (toolkit : String) : List String :=
  if toAsciiLowercase (trim toolkit) = "gmail" then GMAIL_REQUIRED_OAUTH_SCOPES else []

/-- One required scope, unless it is there already. -/
def pushScope (scopes : List Json) (scope : String) : List Json :=
  if (scopes.filterMap Json.asStr).any (· = scope) then scopes else scopes ++ [.str scope]

/-- The scopes a body lists. -/
def listedScopes (body : List (String × Json)) : List Json :=
  ((Json.field OAUTH_SCOPES_FIELD body).bind Execute.asArray).getD []

/-- Add any missing required scopes to the authorize body. -/
def mergeRequiredOauthScopes (body : List (String × Json)) (toolkit : String) :
    List (String × Json) :=
  let required := requiredOauthScopesForToolkit toolkit
  if required.isEmpty then body
  else Json.insert OAUTH_SCOPES_FIELD (.arr (required.foldl pushScope (listedScopes body))) body

/-- The caller's parameters, a key at a time. -/
def insertExtra (toolkit : String) :
    List (String × Json) → List (String × Json) → Except Error (List (String × Json))
  | [], body => .ok body
  | (key, value) :: rest, body =>
    if key ∈ RESERVED_AUTHORIZE_KEYS then
      .error (.authorize toolkit s!"extra_params cannot override reserved key '{key}'")
    else insertExtra toolkit rest (Json.insert key value body)

/-- The body of an authorize. -/
def authorizeBody (toolkit : String) (extraParams : Option Json) :
    Except Error (List (String × Json)) := do
  let toolkit := trim toolkit
  if toolkit = "" then throw (.authorize "" "toolkit must not be empty")
  let body := [("toolkit", .str toolkit)]
  let body ← match extraParams with
    | none => pure body
    | some (.obj extra) => insertExtra toolkit extra body
    | some _ => throw (.authorize toolkit "extra_params must be a JSON object")
  return mergeRequiredOauthScopes body toolkit

/-! ## The parameters -/

/-- Parameters that are accepted: an object without a reserved key, for a toolkit with a name. -/
structure Accepted (toolkit : String) (extra : List (String × Json)) : Prop where
  named : trim toolkit ≠ ""
  ordered : Json.Ordered extra
  free : ∀ key ∈ RESERVED_AUTHORIZE_KEYS, key ∉ extra.map Prod.fst

section Extra

variable {toolkit : String} {extra body : List (String × Json)}

/-- Without a reserved key the parameters go into the body one by one. -/
theorem insertExtra_eq (hfree : ∀ key ∈ RESERVED_AUTHORIZE_KEYS, key ∉ extra.map Prod.fst) :
    insertExtra toolkit extra body =
      .ok (extra.foldl (fun body entry => Json.insert entry.1 entry.2 body) body) := by
  induction extra generalizing body with
  | nil => rfl
  | cons entry rest ih =>
    obtain ⟨key, value⟩ := entry
    have hkey : key ∉ RESERVED_AUTHORIZE_KEYS := fun hmem => hfree key hmem List.mem_cons_self
    rw [insertExtra, if_neg hkey, List.foldl_cons]
    exact ih fun other hother hmem => hfree other hother (List.mem_cons_of_mem key hmem)

/-- A key is looked up among the parameters first. -/
theorem field_foldl_insert (hordered : Json.Ordered extra) (key : String) :
    Json.field key (extra.foldl (fun body entry => Json.insert entry.1 entry.2 body) body) =
      (Json.field key extra).or (Json.field key body) := by
  induction extra generalizing body with
  | nil => rfl
  | cons entry rest ih =>
    obtain ⟨k, v⟩ := entry
    obtain ⟨hhead, hrest⟩ := List.pairwise_cons.mp hordered
    rw [List.foldl_cons, ih hrest]
    by_cases hk : key = k
    · rw [hk, Json.field_cons_self, Json.field_eq_none_of_lt hhead, Json.field_insert_self]
      rfl
    · rw [Json.field_cons_of_ne hk, Json.field_insert_of_ne hk]

/-- The body before the scopes are merged. -/
def plainBody (toolkit : String) (extra : List (String × Json)) : List (String × Json) :=
  extra.foldl (fun body entry => Json.insert entry.1 entry.2 body) [("toolkit", .str toolkit)]

theorem authorizeBody_eq (h : Accepted toolkit extra) : authorizeBody toolkit (some (.obj extra)) =
    .ok (mergeRequiredOauthScopes (plainBody (trim toolkit) extra) (trim toolkit)) := by
  simp only [authorizeBody, h.named, if_false, insertExtra_eq h.free]
  rfl

theorem field_plainBody (h : Accepted toolkit extra) (key : String) :
    Json.field key (plainBody (trim toolkit) extra) =
      if key = "toolkit" then some (.str (trim toolkit)) else Json.field key extra := by
  rw [plainBody, field_foldl_insert h.ordered]
  split_ifs with hkey
  · have hnone : Json.field "toolkit" extra = none := by
      rw [Json.field, List.lookup_eq_none_iff]
      intro entry hentry
      rw [bne_iff_ne]
      rintro heq
      exact h.free "toolkit" (by decide) (heq ▸ List.mem_map_of_mem hentry)
    rw [hkey, hnone, Json.field_cons_self]
    rfl
  · rw [Json.field_cons_of_ne hkey, Json.field_nil, Option.or_none]

end Extra

/-! ## The scopes -/

/-- The scope is one of the strings of a value. -/
inductive Names (scope : String) : Json → Prop
  | str : Names scope (.str scope)
  | arr {item : Json} {items : List Json} (hmem : item ∈ items) (h : Names scope item) :
      Names scope (.arr items)
  | obj {entry : String × Json} {fields : List (String × Json)} (hmem : entry ∈ fields)
      (h : Names scope entry.2) : Names scope (.obj fields)

theorem mem_filterMap_asStr {scopes : List Json} {scope : String} :
    (scopes.filterMap Json.asStr).any (· = scope) = true ↔ .str scope ∈ scopes := by
  rw [List.any_eq_true]
  constructor
  · rintro ⟨s, hs, heq⟩
    obtain ⟨value, hvalue, hstr⟩ := List.mem_filterMap.mp hs
    rw [decide_eq_true_eq] at heq
    cases value with
    | str t =>
      rw [Json.asStr, Option.some_inj] at hstr
      rw [← heq, ← hstr]
      exact hvalue
    | _ => cases hstr
  · exact fun hmem => ⟨scope, List.mem_filterMap.mpr ⟨.str scope, hmem, rfl⟩, decide_eq_true rfl⟩

/-- `result` is `existing` and behind it the required scopes it lacked, each of them once. -/
def AddsMissing (required : List String) (existing result : List Json) : Prop :=
  (∃ added : List String, result = existing ++ added.map Json.str ∧ added.Nodup ∧
    ∀ scope ∈ added, scope ∈ required ∧ Json.str scope ∉ existing) ∧
  ∀ scope ∈ required, Json.str scope ∈ result

/-- The loop over the required scopes. -/
theorem addsMissing_foldl (required : List String) (existing : List Json) :
    AddsMissing required existing (required.foldl pushScope existing) := by
  induction required generalizing existing with
  | nil => exact ⟨⟨[], by rw [List.map_nil, List.append_nil]; rfl, .nil, nofun⟩, nofun⟩
  | cons scope required ih =>
    obtain ⟨⟨added, hresult, hnodup, hadded⟩, hall⟩ := ih (pushScope existing scope)
    rw [List.foldl_cons]
    by_cases hpresent : Json.str scope ∈ existing
    · have hsame : pushScope existing scope = existing :=
        if_pos (mem_filterMap_asStr.mpr hpresent)
      rw [hsame] at hresult hadded hall ⊢
      refine ⟨⟨added, hresult, hnodup, fun other hother =>
        (hadded other hother).imp_left (List.mem_cons_of_mem scope)⟩, fun other hother => ?_⟩
      rcases List.mem_cons.mp hother with rfl | hother
      · rw [hresult]
        exact List.mem_append_left _ hpresent
      · exact hall other hother
    · have hpushed : pushScope existing scope = existing ++ [.str scope] :=
        if_neg fun hmem => hpresent (mem_filterMap_asStr.mp hmem)
      rw [hpushed] at hresult hadded hall ⊢
      have hfirst : Json.str scope ∈ existing ++ [.str scope] :=
        List.mem_append_right _ List.mem_cons_self
      refine ⟨⟨scope :: added, ?_, ?_, ?_⟩, ?_⟩
      · rw [hresult, List.map_cons, List.append_assoc, List.singleton_append]
      · exact List.nodup_cons.mpr ⟨fun hmem => (hadded scope hmem).2 hfirst, hnodup⟩
      · intro other hother
        rcases List.mem_cons.mp hother with rfl | hother
        · exact ⟨List.mem_cons_self, hpresent⟩
        · exact ⟨List.mem_cons_of_mem scope (hadded other hother).1, fun hmem =>
            (hadded other hother).2 (List.mem_append_left _ hmem)⟩
      · intro other hother
        rcases List.mem_cons.mp hother with rfl | hother
        · rw [hresult]
          exact List.mem_append_left _ hfirst
        · exact hall other hother

/-- A scope that is added is added once. -/
theorem AddsMissing.count_le {required : List String} {existing result : List Json}
    (h : AddsMissing required existing result) (scope : String) :
    result.count (.str scope) ≤ max 1 (existing.count (.str scope)) := by
  obtain ⟨⟨added, rfl, hnodup, hadded⟩, -⟩ := h
  have hinj : Function.Injective Json.str := fun _ _ heq => Json.str.inj heq
  have hcount : (added.map Json.str).count (.str scope) = added.count scope :=
    List.count_map_of_injective added Json.str hinj scope
  rw [List.count_append, hcount]
  by_cases hmem : scope ∈ added
  · rw [List.count_eq_zero_of_not_mem (hadded scope hmem).2, Nat.zero_add]
    exact le_max_of_le_left (List.nodup_iff_count_le_one.mp hnodup scope)
  · rw [List.count_eq_zero_of_not_mem hmem, Nat.add_zero]
    exact le_max_right _ _

/-- What the body of an authorize owes the caller and the toolkit. -/
structure KeepsRequest (toolkit : String) (extra body : List (String × Json)) : Prop where
  named : Json.field "toolkit" body = some (.str (trim toolkit))
  params : ∀ key, key ≠ "toolkit" → key ≠ OAUTH_SCOPES_FIELD →
    Json.field key body = Json.field key extra
  /-- Whatever scopes the caller names are still asked for. -/
  scopes : ∀ value scope, Json.field OAUTH_SCOPES_FIELD extra = some value → Names scope value →
    ∃ asked, Json.field OAUTH_SCOPES_FIELD body = some asked ∧ Names scope asked
  /-- A list of scopes is extended at its end. -/
  extended : ∀ listed, Json.field OAUTH_SCOPES_FIELD extra = some (.arr listed) →
    ∃ items, Json.field OAUTH_SCOPES_FIELD body = some (.arr items) ∧ listed <+: items
  /-- A required scope is there, and has not been added twice. -/
  required : ∀ scope ∈ requiredOauthScopesForToolkit toolkit, ∃ items,
    Json.field OAUTH_SCOPES_FIELD body = some (.arr items) ∧ .str scope ∈ items ∧
      items.count (.str scope) ≤ max 1 ((listedScopes extra).count (.str scope))
  /-- A toolkit that needs no scope gets none. -/
  elsewhere : requiredOauthScopesForToolkit toolkit = [] →
    Json.field OAUTH_SCOPES_FIELD body = Json.field OAUTH_SCOPES_FIELD extra

/-- The caller names a scope of their own for a toolkit that needs scopes, and not in a list. -/
def Dropped (toolkit : String) (extra : List (String × Json)) : Prop :=
  requiredOauthScopesForToolkit toolkit ≠ [] ∧ ∃ value scope,
    Json.field OAUTH_SCOPES_FIELD extra = some value ∧ Execute.asArray value = none ∧
      Names scope value ∧ scope ∉ requiredOauthScopesForToolkit toolkit

/-- An accepted authorize hands the route a body that keeps what was asked for. -/
def AsksForAll (toolkit : String) (extra : List (String × Json)) : Prop :=
  ∃ body, authorizeBody toolkit (some (.obj extra)) = .ok body ∧ KeepsRequest toolkit extra body

theorem required_trim (toolkit : String) :
    requiredOauthScopesForToolkit (trim toolkit) = requiredOauthScopesForToolkit toolkit := by
  rw [requiredOauthScopesForToolkit, trim_trim]
  rfl

section Merge

variable {toolkit : String} {extra : List (String × Json)} (h : Accepted toolkit extra)
include h

theorem listedScopes_plainBody :
    listedScopes (plainBody (trim toolkit) extra) = listedScopes extra := by
  rw [listedScopes, field_plainBody h, if_neg (by decide)]
  rfl

/-- The scopes the body of an authorize asks for. -/
theorem exists_body : ∃ body, authorizeBody toolkit (some (.obj extra)) = .ok body ∧
    (∀ key, key ≠ OAUTH_SCOPES_FIELD → Json.field key body =
      if key = "toolkit" then some (.str (trim toolkit)) else Json.field key extra) ∧
    (requiredOauthScopesForToolkit toolkit = [] →
      Json.field OAUTH_SCOPES_FIELD body = Json.field OAUTH_SCOPES_FIELD extra) ∧
    (requiredOauthScopesForToolkit toolkit ≠ [] → ∃ items,
      Json.field OAUTH_SCOPES_FIELD body = some (.arr items) ∧
        AddsMissing (requiredOauthScopesForToolkit toolkit) (listedScopes extra) items) := by
  refine ⟨_, authorizeBody_eq h, ?_, ?_, ?_⟩
  · intro key hkey
    rw [mergeRequiredOauthScopes]
    split_ifs with hnone
    · rw [field_plainBody h, if_pos ‹_›]
    · rw [field_plainBody h, if_neg ‹_›]
    · rw [Json.field_insert_of_ne hkey, field_plainBody h, if_pos ‹_›]
    · rw [Json.field_insert_of_ne hkey, field_plainBody h, if_neg ‹_›]
  · intro hrequired
    rw [mergeRequiredOauthScopes, required_trim, hrequired, if_pos List.isEmpty_nil,
      field_plainBody h, if_neg (by decide)]
  · intro hrequired
    refine ⟨_, ?_, addsMissing_foldl _ _⟩
    rw [mergeRequiredOauthScopes, required_trim, if_neg (by rwa [List.isEmpty_iff]),
      Json.field_insert_self, listedScopes_plainBody h]

/-- Everything but the caller's scopes is always kept. -/
theorem exists_keepsRequest_of_scopes
    (hscopes : requiredOauthScopesForToolkit toolkit ≠ [] → ∀ value scope items,
      Json.field OAUTH_SCOPES_FIELD extra = some value → Names scope value →
        AddsMissing (requiredOauthScopesForToolkit toolkit) (listedScopes extra) items →
          Names scope (.arr items)) :
    AsksForAll toolkit extra := by
  obtain ⟨body, hbody, hfields, hnone, hsome⟩ := exists_body h
  refine ⟨body, hbody, ?_⟩
  have hlisted : ∀ listed, Json.field OAUTH_SCOPES_FIELD extra = some (.arr listed) →
      listedScopes extra = listed := by
    intro listed hfield
    rw [listedScopes, hfield]
    rfl
  constructor
  · exact (hfields "toolkit" (by decide)).trans (if_pos rfl)
  · intro key hkey hoauth
    rw [hfields key hoauth, if_neg hkey]
  · intro value scope hvalue hnames
    by_cases hrequired : requiredOauthScopesForToolkit toolkit = []
    · exact ⟨value, (hnone hrequired).trans hvalue, hnames⟩
    · obtain ⟨items, hitems, hadds⟩ := hsome hrequired
      exact ⟨.arr items, hitems, hscopes hrequired value scope items hvalue hnames hadds⟩
  · intro listed hfield
    by_cases hrequired : requiredOauthScopesForToolkit toolkit = []
    · exact ⟨listed, (hnone hrequired).trans hfield, List.prefix_refl listed⟩
    · obtain ⟨items, hitems, ⟨added, hadded, -⟩, -⟩ := hsome hrequired
      refine ⟨items, hitems, ?_⟩
      rw [hadded, hlisted listed hfield]
      exact List.prefix_append listed _
  · intro scope hscope
    obtain ⟨items, hitems, hadds⟩ := hsome (List.ne_nil_of_mem hscope)
    exact ⟨items, hitems, hadds.2 scope hscope, hadds.count_le scope⟩
  · exact hnone

/-- A scope of the caller's that is no list's is not asked for. -/
theorem not_asksForAll_of_dropped (hdropped : Dropped toolkit extra) :
    ¬ AsksForAll toolkit extra := by
  rintro ⟨body, hbody, hkeeps⟩
  obtain ⟨hrequired, value, scope, hvalue, hlist, hnames, hother⟩ := hdropped
  obtain ⟨body', hbody', -, -, hsome⟩ := exists_body h
  cases hbody.symm.trans hbody'
  obtain ⟨items, hitems, ⟨added, hadded, -, hmissing⟩, -⟩ := hsome hrequired
  have hnone : listedScopes extra = [] := by
    rw [listedScopes, hvalue, Option.bind_some, hlist]
    rfl
  rw [hnone, List.nil_append] at hadded
  obtain ⟨asked, hasked, hstill⟩ := hkeeps.scopes value scope hvalue hnames
  cases hasked.symm.trans hitems
  cases hstill with
  | arr hmem hitem =>
    rw [hadded] at hmem
    obtain ⟨s, hs, rfl⟩ := List.mem_map.mp hmem
    cases hitem
    exact hother (hmissing scope hs).1

/-- Everything is asked for, unless a scope is dropped. -/
theorem asksForAll_iff : AsksForAll toolkit extra ↔ ¬ Dropped toolkit extra := by
  constructor
  · exact fun hasks hdropped => not_asksForAll_of_dropped h hdropped hasks
  · intro hkept
    apply exists_keepsRequest_of_scopes h
    intro hrequired value scope items hvalue hnames hadds
    cases hlist : Execute.asArray value with
    | some listed =>
      cases value with
      | arr found =>
        cases hnames with
        | arr hmem hitem =>
          obtain ⟨⟨added, hadded, -⟩, -⟩ := hadds
          refine .arr ?_ hitem
          rw [hadded, listedScopes, hvalue]
          exact List.mem_append_left _ hmem
      | _ => cases hlist
    | none =>
      by_cases hscope : scope ∈ requiredOauthScopesForToolkit toolkit
      · exact .arr (hadds.2 scope hscope) .str
      · exact absurd ⟨hrequired, value, scope, hvalue, hlist, hnames, hscope⟩ hkept

end Merge

theorem accepted_gmail (value : Json) : Accepted " Gmail" [(OAUTH_SCOPES_FIELD, value)] where
  named := by decide +kernel
  ordered := List.pairwise_singleton _ _
  free := by
    have hscopes : OAUTH_SCOPES_FIELD ∉ RESERVED_AUTHORIZE_KEYS := by decide
    intro key hkey hmem
    rw [List.map_singleton, List.mem_singleton] at hmem
    rw [hmem] at hkey
    exact hscopes hkey

/-- A list of scopes is kept. -/
theorem asksForAll_list :
    AsksForAll " Gmail" [(OAUTH_SCOPES_FIELD, .arr [.str "https://mail.google.com/"])] ↔
      ¬ Dropped " Gmail" [(OAUTH_SCOPES_FIELD, .arr [.str "https://mail.google.com/"])] :=
  asksForAll_iff (accepted_gmail _)

/-- A single scope is not. -/
theorem not_asksForAll_string :
    ¬ AsksForAll " Gmail" [(OAUTH_SCOPES_FIELD, .str "https://mail.google.com/")] := by
  apply not_asksForAll_of_dropped (accepted_gmail _)
  exact ⟨by decide +kernel, .str "https://mail.google.com/", _, rfl, rfl, .str, by decide +kernel⟩

end Client
