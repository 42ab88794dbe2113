/-
# Whether the overview is well formed

An overview joins five listings by name: the allowlist, the connections, the
tools, and under the same slugs the descriptions and the preferences.  What it
says of connections and statuses holds whatever the listings are.  Actions are
joined by prefix, and the upper-cased name of one toolkit may begin another's.
-/
import Mathlib.Order.Basic
import TinyConnectors.Listing.Overview

open RustStr

/-! ## What is to be shown -/

/-- A row belongs to the toolkit it names; one that names none belongs to none. -/
def ComposioConnection.belongsTo (connection : ComposioConnection) (toolkit : String) : Bool :=
  decide (toolkit ≠ "") && decide (connection.normalizedToolkit = toolkit)

namespace Listings

/-- The active connections of a toolkit, in the order of the listing. -/
def activeRows (listings : Listings) (toolkit : String) : List ComposioConnection :=
  listings.connections.filter fun connection =>
    connection.isActive && connection.belongsTo toolkit

/-- Its other rows. -/
def nonActiveRows (listings : Listings) (toolkit : String) : List ComposioConnection :=
  listings.connections.filter fun connection =>
    !connection.isActive && connection.belongsTo toolkit

/-- The preference of a connected toolkit. -/
def preferenceOf (listings : Listings) (toolkit : String) : UserScopePref :=
  (listings.preferences.lookup toolkit).getD UserScopePref.default

/-- An action that carries a toolkit's name and that its preference shows, or the
catalog knows to be gated. -/
structure Carried (upper : Uppercase) (listings : Listings) (toolkit name : String) : Prop where
  pfx : startsWith name (upper.toUppercase toolkit ++ "_") = true
  shown : isActionVisibleWithPref name (listings.preferenceOf toolkit) = true ∨
    (curatedScopeFor name).isSome = true

end Listings

/-- How actionable a row is. -/
def rowPriority (row : ComposioConnection) : ℕ := statusPriority row.status

/-- The first of the rows with the greatest priority. -/
def FirstMost {α : Type} (priority : α → ℕ) (rows : List α) (row : α) : Prop :=
  ∃ before after, rows = before ++ row :: after ∧
    (∀ other ∈ before, priority other < priority row) ∧
      ∀ other ∈ after, priority other ≤ priority row

namespace ComposioConnectedIntegration

/-- An action stands in one of the two lists. -/
def Shows (integration : ComposioConnectedIntegration) (name : String) : Prop :=
  name ∈ integration.tools.map ComposioConnectedIntegrationTool.name ∨
    name ∈ integration.gatedTools.map ComposioGatedIntegrationTool.name

/-- Each active connection once, in order of creation, the first the default. -/
structure ListsConnections (listings : Listings) (integration : ComposioConnectedIntegration) :
    Prop where
  rows : ∃ rows : List ComposioConnection, rows.Perm (listings.activeRows integration.toolkit) ∧
    rows.Pairwise (fun a b => leCreated a.createdAt b.createdAt = true) ∧
      integration.connections.map (fun connection => (connection.connectionId, connection.label)) =
        rows.map fun row => (row.id, connectionLabel row)
  default : ∀ index connection, integration.connections[index]? = some connection →
    (connection.isDefault = true ↔ index = 0)

end ComposioConnectedIntegration

/-- The overview of some listings is well formed. -/
structure WellFormed (upper : Uppercase) (listings : Listings) : Prop where
  increasing : (assemble upper listings).Pairwise fun a b => a.toolkit < b.toolkit
  connected : ∀ integration ∈ assemble upper listings,
    integration.connected = true ↔ listings.activeRows integration.toolkit ≠ []
  bare : ∀ integration ∈ assemble upper listings, integration.connected = false →
    integration.tools = [] ∧ integration.gatedTools = [] ∧ integration.connections = []
  connections : ∀ integration ∈ assemble upper listings, integration.connected = true →
    integration.ListsConnections listings
  status : ∀ integration ∈ assemble upper listings, integration.connected = false →
    ∀ status, integration.nonActiveStatus = some status ↔
      ∃ row, FirstMost rowPriority (listings.nonActiveRows integration.toolkit) row ∧
        row.status = status
  /-- An action appears under one toolkit. -/
  oneToolkit : ∀ tool ∈ listings.tools, ∀ a ∈ assemble upper listings,
    ∀ b ∈ assemble upper listings, a.Shows tool.function.name → b.Shows tool.function.name →
      a.toolkit = b.toolkit
  /-- And there in one list. -/
  oneList : ∀ integration ∈ assemble upper listings, ∀ name,
    name ∈ integration.tools.map ComposioConnectedIntegrationTool.name →
      name ∉ integration.gatedTools.map ComposioGatedIntegrationTool.name

/-- No action is carried by two connected toolkits. -/
def NoneSharedBy (upper : Uppercase) (listings : Listings) : Prop :=
  ∀ s ∈ listings.allowlist, ∀ t ∈ listings.allowlist, s ∈ activeToolkits listings.connections →
    t ∈ activeToolkits listings.connections → ∀ tool ∈ listings.tools,
      listings.Carried upper s tool.function.name → listings.Carried upper t tool.function.name →
        s = t

/-! ## Order -/

theorem le_of_mergeSort {α : Type} (key : α → String) (items : List α) :
    (items.mergeSort fun a b => decide (key a ≤ key b)).Pairwise fun a b => key a ≤ key b := by
  have hsorted : (items.mergeSort fun a b => decide (key a ≤ key b)).Pairwise
      fun a b => decide (key a ≤ key b) = true := by
    apply List.pairwise_mergeSort
    · intro a b c hab hbc
      rw [decide_eq_true_eq] at hab hbc ⊢
      exact hab.trans hbc
    · intro a b
      rw [Bool.or_eq_true, decide_eq_true_eq, decide_eq_true_eq]
      exact le_total (key a) (key b)
  exact hsorted.imp fun h => decide_eq_true_eq.mp h

/-- The entries stand in order, each toolkit once. -/
theorem increasing_assemble (upper : Uppercase) (listings : Listings) :
    (assemble upper listings).Pairwise fun a b => a.toolkit < b.toolkit := by
  have hordered := le_of_mergeSort ComposioConnectedIntegration.toolkit
    (((listings.allowlist.mergeSort fun a b => decide (a ≤ b)).dedup).map
      (integrationOf upper listings))
  have hnodup : ((assemble upper listings).map ComposioConnectedIntegration.toolkit).Nodup := by
    have hperm := (List.mergeSort_perm
      (((listings.allowlist.mergeSort fun a b => decide (a ≤ b)).dedup).map
        (integrationOf upper listings)) fun a b => decide (a.toolkit ≤ b.toolkit)).map
          ComposioConnectedIntegration.toolkit
    rw [assemble, hperm.nodup_iff, List.map_map]
    have hid : ComposioConnectedIntegration.toolkit ∘ integrationOf upper listings = id := by
      funext slug
      rfl
    rw [hid, List.map_id]
    exact List.nodup_dedup _
  have hne := List.pairwise_map.mp hnodup
  exact (hordered.and hne).imp fun h => lt_of_le_of_ne h.1 h.2

/-! ## Connections -/

section Rows

variable {upper : Uppercase} {listings : Listings} {slug : String}

theorem mem_activeToolkits_iff :
    slug ∈ activeToolkits listings.connections ↔ listings.activeRows slug ≠ [] := by
  rw [Listings.activeRows, Ne, List.filter_eq_nil_iff, not_forall]
  simp only [mem_activeToolkits, ComposioConnection.belongsTo, decide_eq_true_eq,
    Bool.and_eq_true, not_forall, not_not, exists_prop]
  constructor
  · rintro ⟨hne, connection, hmem, hactive, rfl⟩
    exact ⟨connection, hmem, hactive, hne, rfl⟩
  · rintro ⟨connection, hmem, hactive, hne, rfl⟩
    exact ⟨hne, connection, hmem, hactive, rfl⟩

theorem connected_iff (slug : String) : (integrationOf upper listings slug).connected = true ↔
    listings.activeRows slug ≠ [] := by
  rw [← mem_activeToolkits_iff]
  exact decide_eq_true_iff

theorem leCreated_trans (a b c : Option String) (hab : leCreated a b = true)
    (hbc : leCreated b c = true) : leCreated a c = true := by
  cases a with
  | none => rfl
  | some a =>
    cases b with
    | none => cases hab
    | some b =>
      cases c with
      | none => cases hbc
      | some c =>
        simp only [leCreated, decide_eq_true_eq] at hab hbc ⊢
        exact hab.trans hbc

theorem leCreated_total (a b : Option String) : (leCreated a b || leCreated b a) = true := by
  cases a with
  | none => rfl
  | some a =>
    cases b with
    | none => rfl
    | some b =>
      rw [Bool.or_eq_true, leCreated, leCreated, decide_eq_true_eq, decide_eq_true_eq]
      exact le_total a b

/-- The rows of a connected toolkit are those that are active under its name. -/
theorem activeRows_eq (hslug : slug ≠ "") : listings.activeRows slug =
    listings.connections.filter fun connection =>
      connection.isActive && decide (connection.normalizedToolkit = slug) := by
  apply List.filter_congr
  intro connection _
  rw [ComposioConnection.belongsTo, decide_eq_true hslug, Bool.true_and]

theorem listsConnections (hconnected : slug ∈ activeToolkits listings.connections) :
    (integrationOf upper listings slug).ListsConnections listings := by
  have hslug : slug ≠ "" := by
    rintro rfl
    rw [mem_activeToolkits_iff, Listings.activeRows] at hconnected
    simp [ComposioConnection.belongsTo] at hconnected
  have hconnections : (integrationOf upper listings slug).connections =
      activeConnections slug listings.connections := by
    simp only [integrationOf, decide_eq_true hconnected, if_true]
  constructor
  · refine ⟨(listings.activeRows slug).mergeSort fun a b => leCreated a.createdAt b.createdAt,
      List.mergeSort_perm _ _, ?_, ?_⟩
    · apply List.pairwise_mergeSort
      · exact fun a b c => leCreated_trans a.createdAt b.createdAt c.createdAt
      · exact fun a b => leCreated_total a.createdAt b.createdAt
    · rw [hconnections, activeConnections, ← activeRows_eq hslug]
      apply List.ext_getElem?
      intro index
      simp only [List.getElem?_map, List.getElem?_mapIdx, Option.map_map, Function.comp_def]
  · intro index connection hget
    rw [hconnections, activeConnections, List.getElem?_mapIdx] at hget
    obtain ⟨row, -, rfl⟩ := Option.map_eq_some_iff.mp hget
    exact decide_eq_true_iff

/-! ## Statuses -/

/-- One more row is the first of the greatest when it is greater than all before. -/
theorem FirstMost.snoc {α : Type} {priority : α → ℕ} {rows : List α} {row : α}
    (h : FirstMost priority rows row) (next : α) :
    FirstMost priority (rows ++ [next]) (if priority row < priority next then next else row) := by
  obtain ⟨before, after, rfl, hbefore, hafter⟩ := h
  split_ifs with hlt
  · refine ⟨before ++ row :: after, [], rfl, fun other hother => ?_, by simp⟩
    rcases List.mem_append.mp hother with hother | hother
    · exact (hbefore other hother).trans hlt
    · rcases List.mem_cons.mp hother with rfl | hother
      · exact hlt
      · exact (hafter other hother).trans_lt hlt
  · refine ⟨before, after ++ [next], by simp, hbefore, fun other hother => ?_⟩
    rcases List.mem_append.mp hother with hother | hother
    · exact hafter other hother
    · rw [List.mem_singleton.mp hother]
      exact not_lt.mp hlt

/-- Of two such rows neither stands before the other. -/
theorem not_firstMost_before {α : Type} {priority : α → ℕ} {before before' after after' : List α}
    {row row' : α} {between : List α} (hbefore' : ∀ other ∈ before', priority other < priority row')
    (hafter : ∀ other ∈ after, priority other ≤ priority row)
    (hcut : before' = before ++ row :: between) (hrest : after = between ++ row' :: after') :
    False := by
  have hlt := hbefore' row (hcut ▸ List.mem_append_right before List.mem_cons_self)
  have hle := hafter row' (hrest ▸ List.mem_append_right between List.mem_cons_self)
  exact absurd hlt (not_lt.mpr hle)

theorem FirstMost.unique {α : Type} {priority : α → ℕ} {rows : List α} {row row' : α}
    (h : FirstMost priority rows row) (h' : FirstMost priority rows row') : row = row' := by
  obtain ⟨before, after, rfl, hbefore, hafter⟩ := h
  obtain ⟨before', after', hrows, hbefore', hafter'⟩ := h'
  rcases List.append_eq_append_iff.mp hrows with ⟨between, hcut, hrest⟩ | ⟨between, hcut, hrest⟩
  · cases between with
    | nil => exact (List.cons.inj hrest).1
    | cons first between =>
      obtain ⟨hfirst, hrest⟩ := List.cons.inj hrest
      rw [← hfirst] at hcut
      exact (not_firstMost_before hbefore' hafter hcut hrest).elim
  · cases between with
    | nil => exact (List.cons.inj hrest).1.symm
    | cons first between =>
      obtain ⟨hfirst, hrest⟩ := List.cons.inj hrest
      rw [← hfirst] at hcut
      exact (not_firstMost_before hbefore hafter' hcut hrest).elim

/-- What is kept for a toolkit whose rows have been seen. -/
inductive KeepsFirstMost (rows : List ComposioConnection) : Option (ℕ × String) → Prop where
  | unseen (h : rows = []) : KeepsFirstMost rows none
  | kept {row : ComposioConnection} (h : FirstMost rowPriority rows row) :
      KeepsFirstMost rows (some (rowPriority row, row.status))

theorem KeepsFirstMost.status_iff {rows : List ComposioConnection} {best : Option (ℕ × String)}
    (h : KeepsFirstMost rows best) (status : String) : best.map Prod.snd = some status ↔
      ∃ row, FirstMost rowPriority rows row ∧ row.status = status := by
  cases h with
  | unseen hempty =>
    constructor
    · intro hnone
      cases hnone
    · rintro ⟨row, ⟨before, after, hcut, -⟩, -⟩
      rw [hempty] at hcut
      exact absurd hcut (by simp)
  | @kept row hfirst =>
    constructor
    · intro hsome
      exact ⟨row, hfirst, Option.some_inj.mp hsome⟩
    · rintro ⟨other, hother, rfl⟩
      rw [hother.unique hfirst]
      rfl

/-- A row that is not the toolkit's leaves its entry alone. -/
theorem lookup_keepStatus_other {connected : List String} {connection : ComposioConnection}
    (hother : connection.belongsTo slug = false) (best : AList fun _ : String => ℕ × String) :
    (keepStatus connected best connection).lookup slug = best.lookup slug := by
  simp only [keepStatus]
  generalize statusPriority connection.status = priority
  split_ifs with hskip
  · rfl
  · have hne : slug ≠ connection.normalizedToolkit := by
      rintro rfl
      simp only [ComposioConnection.belongsTo, decide_true, Bool.and_true, decide_eq_false_iff_not,
        not_not] at hother
      exact hskip (.inl hother)
    split
    · split_ifs
      · exact AList.lookup_insert_ne hne
      · rfl
    · exact AList.lookup_insert_ne hne

/-- A row of the toolkit's own is kept when it is more actionable. -/
theorem lookup_keepStatus_own {connected : List String} (hconnected : slug ∉ connected)
    {connection : ComposioConnection} (hown : connection.normalizedToolkit = slug)
    (hslug : slug ≠ "") (best : AList fun _ : String => ℕ × String) :
    (keepStatus connected best connection).lookup slug =
      match best.lookup slug with
      | none => some (rowPriority connection, connection.status)
      | some current =>
        if current.1 < rowPriority connection then some (rowPriority connection, connection.status)
        else some current := by
  obtain ⟨priority, hpriority⟩ : ∃ priority, priority = rowPriority connection := ⟨_, rfl⟩
  have hstatus : statusPriority connection.status = priority := hpriority.symm
  simp only [keepStatus, ← hpriority, hstatus, hown, hslug, hconnected, or_self, if_false]
  rw [hown]
  cases hbest : best.lookup slug with
  | none => exact AList.lookup_insert best
  | some current =>
    by_cases hlt : current.1 < priority
    · simp only [hlt, if_true]
      exact AList.lookup_insert best
    · simp only [hlt, if_false]
      exact hbest

theorem keepsFirstMost_foldl {connected : List String} (hconnected : slug ∉ connected)
    (rows : List ComposioConnection) :
    KeepsFirstMost (rows.filter fun row => row.belongsTo slug)
      ((rows.foldl (keepStatus connected) ∅).lookup slug) := by
  induction rows using List.reverseRecOn with
  | nil => exact .unseen rfl
  | append_singleton rows connection ih =>
    rw [List.foldl_append, List.filter_append, List.foldl_cons, List.foldl_nil]
    cases hbelongs : connection.belongsTo slug with
    | true =>
      obtain ⟨hslug, hown⟩ : slug ≠ "" ∧ connection.normalizedToolkit = slug := by
        simpa [ComposioConnection.belongsTo] using hbelongs
      rw [List.filter_singleton, hbelongs, cond_true, lookup_keepStatus_own hconnected hown hslug]
      generalize (rows.foldl (keepStatus connected) ∅).lookup slug = best at ih
      cases ih with
      | unseen hempty =>
        rw [hempty]
        exact .kept ⟨[], [], rfl, by simp, by simp⟩
      | @kept row hfirst =>
        have hsnoc := hfirst.snoc connection
        -- only a row of higher priority takes the place of the one kept
        by_cases hlt : rowPriority row < rowPriority connection
        · rw [if_pos hlt] at hsnoc
          simp only [hlt, if_true]
          exact .kept hsnoc
        · rw [if_neg hlt] at hsnoc
          simp only [hlt, if_false]
          exact .kept hsnoc
    | false =>
      rw [List.filter_singleton, hbelongs, cond_false, List.append_nil,
        lookup_keepStatus_other hbelongs]
      exact ih

/-- The status of a toolkit that is not connected. -/
theorem nonActiveStatus_iff (hconnected : slug ∉ activeToolkits listings.connections)
    (status : String) : (integrationOf upper listings slug).nonActiveStatus = some status ↔
      ∃ row, FirstMost rowPriority (listings.nonActiveRows slug) row ∧ row.status = status := by
  have hstatus : (integrationOf upper listings slug).nonActiveStatus =
      nonActiveStatusByToolkit listings.connections (activeToolkits listings.connections) slug := by
    simp only [integrationOf, decide_eq_false hconnected, Bool.false_eq_true, if_false]
  have hrows : listings.nonActiveRows slug =
      (listings.connections.filter fun connection => !connection.isActive).filter
        fun row => row.belongsTo slug := by
    rw [Listings.nonActiveRows, List.filter_filter]
    exact List.filter_congr fun connection _ => Bool.and_comm _ _
  rw [hstatus, hrows]
  exact (keepsFirstMost_foldl hconnected _).status_iff status

/-! ## Actions -/

/-- A toolkit that is not connected shows nothing. -/
theorem integrationOf_bare (upper : Uppercase)
    (hconnected : slug ∉ activeToolkits listings.connections) :
    (integrationOf upper listings slug).tools = [] ∧
      (integrationOf upper listings slug).gatedTools = [] ∧
        (integrationOf upper listings slug).connections = [] := by
  simp only [integrationOf, decide_eq_false hconnected, Bool.false_eq_true, if_false, and_self]

/-- A listed action that carries the toolkit's name. -/
def Own (upper : Uppercase) (listings : Listings) (slug name : String) : Prop :=
  ∃ tool ∈ listings.tools, tool.function.name = name ∧
    startsWith name (upper.toUppercase slug ++ "_") = true

theorem exists_ownTools {name : String} :
    (∃ tool ∈ ownTools upper slug listings.tools, tool.function.name = name) ↔
      Own upper listings slug name := by
  simp only [ownTools, List.mem_filter, Own]
  constructor
  · rintro ⟨tool, ⟨hmem, hpfx⟩, rfl⟩
    exact ⟨tool, hmem, rfl, hpfx⟩
  · rintro ⟨tool, hmem, rfl, hpfx⟩
    exact ⟨tool, ⟨hmem, hpfx⟩, rfl⟩

theorem mem_tools_iff (hconnected : slug ∈ activeToolkits listings.connections) {name : String} :
    name ∈ (integrationOf upper listings slug).tools.map ComposioConnectedIntegrationTool.name ↔
      Own upper listings slug name ∧
        isActionVisibleWithPref name (listings.preferenceOf slug) = true := by
  rw [List.mem_map, exists_tool_integrationOf upper hconnected name, exists_ownTools]
  exact Iff.rfl

theorem mem_gatedTools_iff (hconnected : slug ∈ activeToolkits listings.connections)
    {name : String} :
    name ∈ (integrationOf upper listings slug).gatedTools.map ComposioGatedIntegrationTool.name ↔
      Own upper listings slug name ∧
        isActionVisibleWithPref name (listings.preferenceOf slug) = false ∧
          (curatedScopeFor name).isSome = true := by
  have hgated : (integrationOf upper listings slug).gatedTools =
      (splitTools upper slug listings).2 := by
    simp only [integrationOf, decide_eq_true hconnected, if_true]
  rw [hgated, ← exists_ownTools, List.mem_map]
  simp only [splitTools, List.mem_filterMap]
  constructor
  · rintro ⟨gated, ⟨tool, htool, hshown⟩, rfl⟩
    split_ifs at hshown with hvisible
    obtain ⟨scope, hscope, rfl⟩ := Option.map_eq_some_iff.mp hshown
    exact ⟨⟨tool, htool, rfl⟩, Bool.eq_false_iff.mpr hvisible, Option.isSome_of_eq_some hscope⟩
  · rintro ⟨⟨tool, htool, rfl⟩, hhidden, hcurated⟩
    obtain ⟨scope, hscope⟩ := Option.isSome_iff_exists.mp hcurated
    have hhidden : isActionVisibleWithPref tool.function.name
        ((listings.preferences.lookup slug).getD UserScopePref.default) = false := hhidden
    refine ⟨⟨tool.function.name, tool.function.description.getD "", scope⟩, ⟨tool, htool, ?_⟩, rfl⟩
    rw [hhidden, hscope]
    rfl

/-- A preference shows an action or hides it. -/
theorem callable_not_gated {name : String}
    (hcallable : name ∈
      (integrationOf upper listings slug).tools.map ComposioConnectedIntegrationTool.name) :
    name ∉ (integrationOf upper listings slug).gatedTools.map
      ComposioGatedIntegrationTool.name := by
  by_cases hconnected : slug ∈ activeToolkits listings.connections
  · intro hgated
    have hvisible := ((mem_tools_iff hconnected).mp hcallable).2
    have hhidden := ((mem_gatedTools_iff hconnected).mp hgated).2.1
    exact absurd (hvisible.symm.trans hhidden) (by decide)
  · rw [(integrationOf_bare upper hconnected).2.1]
    exact List.not_mem_nil

/-- What a connected toolkit shows. -/
theorem shows_iff (name : String) : (integrationOf upper listings slug).Shows name ↔
    slug ∈ activeToolkits listings.connections ∧
      ∃ tool ∈ listings.tools, tool.function.name = name ∧ listings.Carried upper slug name := by
  by_cases hconnected : slug ∈ activeToolkits listings.connections
  · rw [ComposioConnectedIntegration.Shows, mem_tools_iff hconnected, mem_gatedTools_iff hconnected]
    constructor
    · rintro (⟨⟨tool, htool, hname, hpfx⟩, hvisible⟩ | ⟨⟨tool, htool, hname, hpfx⟩, -, hcurated⟩)
      · exact ⟨hconnected, tool, htool, hname, hpfx, .inl hvisible⟩
      · exact ⟨hconnected, tool, htool, hname, hpfx, .inr hcurated⟩
    · rintro ⟨-, tool, htool, hname, hpfx, hshown⟩
      have hown : Own upper listings slug name := ⟨tool, htool, hname, hpfx⟩
      cases hvisible : isActionVisibleWithPref name (listings.preferenceOf slug) with
      | true => exact .inl ⟨hown, rfl⟩
      | false =>
        rw [hvisible] at hshown
        exact .inr ⟨hown, rfl, hshown.resolve_left (by decide)⟩
  · have hbare := integrationOf_bare upper hconnected
    rw [ComposioConnectedIntegration.Shows, hbare.1, hbare.2.1]
    simp [hconnected]

end Rows

/-! ## When an overview is well formed -/

/-- The overview is well formed unless an action carries the names of two
connected toolkits, and both of them show it. -/
theorem wellFormed_iff (upper : Uppercase) (listings : Listings) :
    WellFormed upper listings ↔ NoneSharedBy upper listings := by
  constructor
  · intro hwell s hs t ht hsConnected htConnected tool htool hsCarried htCarried
    exact hwell.oneToolkit tool htool _ (mem_assemble.mpr ⟨s, hs, rfl⟩) _
      (mem_assemble.mpr ⟨t, ht, rfl⟩) ((shows_iff _).mpr ⟨hsConnected, tool, htool, rfl, hsCarried⟩)
      ((shows_iff _).mpr ⟨htConnected, tool, htool, rfl, htCarried⟩)
  · intro hnone
    refine ⟨increasing_assemble upper listings, ?_, ?_, ?_, ?_, ?_, ?_⟩
    · rintro _ hmem
      obtain ⟨slug, -, rfl⟩ := mem_assemble.mp hmem
      exact connected_iff slug
    · rintro _ hmem hconnected
      obtain ⟨slug, -, rfl⟩ := mem_assemble.mp hmem
      exact integrationOf_bare upper (decide_eq_false_iff_not.mp hconnected)
    · rintro _ hmem hconnected
      obtain ⟨slug, -, rfl⟩ := mem_assemble.mp hmem
      exact listsConnections (decide_eq_true_iff.mp hconnected)
    · rintro _ hmem hconnected
      obtain ⟨slug, -, rfl⟩ := mem_assemble.mp hmem
      exact nonActiveStatus_iff (decide_eq_false_iff_not.mp hconnected)
    · rintro tool htool _ ha _ hb haShows hbShows
      obtain ⟨s, hs, rfl⟩ := mem_assemble.mp ha
      obtain ⟨t, ht, rfl⟩ := mem_assemble.mp hb
      obtain ⟨hsConnected, -, -, -, hsCarried⟩ := (shows_iff _).mp haShows
      obtain ⟨htConnected, -, -, -, htCarried⟩ := (shows_iff _).mp hbShows
      exact hnone s hs t ht hsConnected htConnected tool htool hsCarried htCarried
    · rintro _ hmem name hcallable hgated
      obtain ⟨slug, -, rfl⟩ := mem_assemble.mp hmem
      exact callable_not_gated hcallable hgated

/-- Upper-casing of ASCII alone. -/
def asciiUppercase : Uppercase := ⟨toAsciiUppercase, fun _ _ => rfl⟩

/-- An active account of a toolkit. -/
def activeAccount (toolkit : String) : ComposioConnection :=
  ⟨"ca_" ++ toolkit, toolkit, "ACTIVE", none, none, none, none⟩

/-- Microsoft and Microsoft Teams are both connected. -/
def teamsListings : Listings where
  allowlist := ["microsoft", "microsoft_teams"]
  connections := [activeAccount "microsoft", activeAccount "microsoft_teams"]
  tools := [⟨⟨"MICROSOFT_TEAMS_GET_CHAT", none, none, none⟩⟩]
  descriptions := ∅
  preferences := []

/-- An action of Teams is listed under both. -/
theorem not_wellFormed_teams : ¬ WellFormed asciiUppercase teamsListings := by
  intro hwell
  have hshows : ∀ slug ∈ teamsListings.allowlist,
      (integrationOf asciiUppercase teamsListings slug).Shows
      "MICROSOFT_TEAMS_GET_CHAT" := by
    intro slug hslug
    have hvisible : isActionVisibleWithPref "MICROSOFT_TEAMS_GET_CHAT" UserScopePref.default =
        true := by
      decide +kernel
    have hpfx : startsWith "MICROSOFT_TEAMS_GET_CHAT"
        (asciiUppercase.toUppercase slug ++ "_") = true := by
      rcases List.mem_pair.mp hslug with rfl | rfl <;> decide +kernel
    have hrows : (teamsListings.activeRows slug).isEmpty = false := by
      rcases List.mem_pair.mp hslug with rfl | rfl <;> decide +kernel
    refine (shows_iff _).mpr ⟨mem_activeToolkits_iff.mpr ?_, _, List.mem_singleton_self _,
      rfl, hpfx, .inl hvisible⟩
    exact fun hempty => absurd (List.isEmpty_iff.mpr hempty) (Bool.eq_false_iff.mp hrows)
  have hsame := hwell.oneToolkit _ (List.mem_singleton_self _) _
    (mem_assemble.mpr ⟨"microsoft", List.mem_cons_self, rfl⟩) _
    (mem_assemble.mpr ⟨"microsoft_teams", List.mem_cons_of_mem _ List.mem_cons_self, rfl⟩)
    (hshows _ List.mem_cons_self) (hshows _ (List.mem_cons_of_mem _ List.mem_cons_self))
  exact absurd (show "microsoft" = "microsoft_teams" from hsame) (by decide)
