/-
# Listing triggers with and without a toolkit

`list_triggers` with a toolkit keeps a row by the toolkit it names or, where it
names none, by the prefix of its slug; without one it labels such a row with the
toolkit of its connection, or with the first word of its slug.  So the two agree
on a toolkit exactly when these readings do (`filtersAgree_iff`).
-/
import TinyConnectors.Direct.Route

open Prog RustStr

namespace Direct

/-! ## Counting along a list -/

/-- Two predicates that hold equally often, one implying the other, are the same. -/
theorem imp_of_countP_eq {α : Type} {p q : α → Bool} {l : List α}
    (himp : ∀ a ∈ l, p a = true → q a = true) (h : l.countP p = l.countP q) :
    ∀ a ∈ l, q a = true → p a = true := by
  induction l with
  | nil =>
    intro a ha
    cases ha
  | cons b l ih =>
    have hle : l.countP p ≤ l.countP q :=
      List.countP_mono_left fun a ha => himp a (List.mem_cons_of_mem b ha)
    rw [List.countP_cons, List.countP_cons] at h
    have hhead : p b = q b ∧ l.countP p = l.countP q := by
      have hb := himp b List.mem_cons_self
      cases hp : p b <;> cases hq : q b <;> simp_all
    intro a ha hqa
    rcases List.mem_cons.mp ha with rfl | hmem
    · rw [hhead.1]
      exact hqa
    · exact ih (fun a ha => himp a (List.mem_cons_of_mem b ha)) hhead.2 a hmem hqa

/-! ## Two readings of a row's toolkit -/

/-- The slug a row is read with. -/
def slugOf (row : Json) : String := (slugField row ["trigger_name", "triggerName", "slug"]).getD ""

/-- The toolkit of a row's connection, or the first word of its slug. -/
def toolkitOfConnection (accounts : List Json) (row : Json) : String :=
  (((field row CONNECTION_KEYS).bind (connectionToolkits accounts)).filter fun toolkit =>
    toolkit ≠ "").getD (toolkitOfSlug (slugOf row))

/-- A trigger with its toolkit in lower case. -/
def folded (trigger : ComposioActiveTrigger) : ComposioActiveTrigger :=
  { trigger with toolkit := toAsciiLowercase trigger.toolkit }

/-- Listing with the toolkit gives what listing without one labels with it. -/
def FiltersAgree (route : Route) (reply : Request → Answer) (toolkit : String) : Prop :=
  ∀ filtered all, (listTriggers route (some toolkit)).run.under reply = .ok filtered →
    (listTriggers route none).run.under reply = .ok all →
    filtered.map folded =
      (all.filter fun trigger => eqIgnoreAsciiCase trigger.toolkit (trim toolkit)).map folded

/-! ## One row -/

/-- A row as a trigger with this id and toolkit. -/
def triggerOf (row : Json) (id toolkit : String) : ComposioActiveTrigger :=
  let disabled := ((SchemaWalk.get "disabled_at" row).or (SchemaWalk.get "disabledAt" row)).any
    fun time => time ≠ .null
  { id := id
    slug := slugOf row
    toolkit := toolkit
    connectionId := (field row CONNECTION_KEYS).getD ""
    triggerConfig := ((SchemaWalk.get "trigger_config" row).or
      (SchemaWalk.get "triggerConfig" row)).filter fun config => config ≠ .null
    state := some (if disabled then "disabled" else "active") }

/-- What both listings make of a row they keep. -/
def translated (wanted : String) (row : Json) : Option ComposioActiveTrigger :=
  (slugField row triggerIdKeys).map fun id => triggerOf row id (toAsciiLowercase wanted)

theorem activeTriggerFromV3_eq (row : Json) (toolkit : Option String)
    (lookup : String → Option String) :
    activeTriggerFromV3 row toolkit lookup = (slugField row triggerIdKeys).bind fun id =>
      (labelOf row (slugOf row) toolkit lookup).map (triggerOf row id) := by
  rw [activeTriggerFromV3]
  cases slugField row triggerIdKeys <;> rfl

/-- Whether a listing with the toolkit keeps a row. -/
def keptBySlug (wanted : String) (row : Json) : Bool :=
  match slugField row toolkitKeys with
  | some explicit => eqIgnoreAsciiCase explicit wanted
  | none => slugInToolkit (slugOf row) wanted

/-- Whether a listing without one labels a row with it. -/
def keptByLabel (accounts : List Json) (wanted : String) (row : Json) : Bool :=
  match slugField row toolkitKeys with
  | some explicit => eqIgnoreAsciiCase explicit wanted
  | none => eqIgnoreAsciiCase (toolkitOfConnection accounts row) wanted

/-- A row that is kept with a label is the translation with the label folded. -/
theorem folded_of_label {row : Json} {toolkit : Option String} {lookup : String → Option String}
    {label wanted : String} (hlabel : labelOf row (slugOf row) toolkit lookup = some label)
    (hsame : toAsciiLowercase label = toAsciiLowercase wanted) :
    (activeTriggerFromV3 row toolkit lookup).map folded = translated wanted row := by
  rw [activeTriggerFromV3_eq, hlabel, translated, ← hsame]
  cases slugField row triggerIdKeys <;> rfl

theorem folded_filtered {toolkit : String} (hne : trim toolkit ≠ "")
    (lookup : String → Option String) (row : Json) :
    (activeTriggerFromV3 row (some toolkit) lookup).map folded =
      if keptBySlug (trim toolkit) row then translated (trim toolkit) row else none := by
  have hwanted : (some toolkit).bind nonBlank = some (trim toolkit) := if_neg hne
  generalize trim toolkit = wanted at hwanted ⊢
  have hlabel : labelOf row (slugOf row) (some toolkit) lookup =
      if keptBySlug wanted row then some ((slugField row toolkitKeys).getD wanted) else none := by
    rw [labelOf, hwanted]
    rfl
  by_cases hkept : keptBySlug wanted row = true
  · rw [if_pos hkept] at hlabel ⊢
    refine folded_of_label hlabel ?_
    rw [keptBySlug] at hkept
    cases hexplicit : slugField row toolkitKeys with
    | none => rw [Option.getD_none]
    | some explicit =>
      rw [hexplicit] at hkept
      exact eqIgnoreAsciiCase_iff.mp hkept
  · rw [if_neg hkept] at hlabel ⊢
    rw [activeTriggerFromV3_eq, hlabel]
    cases slugField row triggerIdKeys <;> rfl

theorem labelOf_none (accounts : List Json) (row : Json) :
    labelOf row (slugOf row) none (connectionToolkits accounts) =
      some ((slugField row toolkitKeys).getD (toolkitOfConnection accounts row)) := by
  rw [labelOf, Option.bind_none, toolkitOfConnection]
  generalize Option.filter _ _ = ofConnection
  generalize toolkitOfSlug (slugOf row) = word
  cases slugField row toolkitKeys <;> rfl

theorem keptByLabel_eq (accounts : List Json) (wanted : String) (row : Json) :
    keptByLabel accounts wanted row =
      eqIgnoreAsciiCase ((slugField row toolkitKeys).getD (toolkitOfConnection accounts row))
        wanted := by
  rw [keptByLabel]
  cases slugField row toolkitKeys with
  | none => rw [Option.getD_none]
  | some explicit => rw [Option.getD_some]

theorem folded_labelled (accounts : List Json) (wanted : String) (row : Json) :
    ((activeTriggerFromV3 row none (connectionToolkits accounts)).filter fun trigger =>
      eqIgnoreAsciiCase trigger.toolkit wanted).map folded =
      if keptByLabel accounts wanted row then translated wanted row else none := by
  have hlabel := labelOf_none accounts row
  rw [keptByLabel_eq]
  generalize (slugField row toolkitKeys).getD (toolkitOfConnection accounts row) = label at hlabel ⊢
  rw [activeTriggerFromV3_eq, hlabel, translated]
  cases slugField row triggerIdKeys with
  | none => rw [Option.bind_none, Option.map_none, Option.filter_none, Option.map_none, ite_self]
  | some id =>
    rw [Option.bind_some, Option.map_some, Option.map_some]
    by_cases hsame : eqIgnoreAsciiCase label wanted = true
    · rw [if_pos hsame, Option.filter_some, if_pos (by exact hsame), Option.map_some,
        ← eqIgnoreAsciiCase_iff.mp hsame]
      rfl
    · rw [if_neg hsame, Option.filter_some, if_neg (by exact hsame), Option.map_none]

/-! ## The listings -/

section

variable {route : Route} {reply : Request → Answer} {listed accounts : List Json}

theorem under_requireWebhooks {α : Type} (hwebhooks : route.webhooks = true) (member : String)
    (rest : Unit → Calls α) :
    (liftM (requireWebhooks route member) >>= rest : Calls α).run.under reply =
      (rest ()).run.under reply := by
  rw [requireWebhooks, hwebhooks]
  rfl

/-- What listing with a toolkit returns. -/
theorem listTriggers_some (hwebhooks : route.webhooks = true)
    (hlisted : (listPages (activePath route)).run.under reply = .ok listed) {toolkit : String}
    (hne : trim toolkit ≠ "") :
    (listTriggers route (some toolkit)).run.under reply =
      .ok ((listed.filter fun row => ownedBy row route.entityId).filterMap fun row =>
        activeTriggerFromV3 row (some toolkit) (connectionToolkits [])) := by
  rw [listTriggers, under_requireWebhooks hwebhooks, under_bind_ok hlisted]
  have hwants : (Option.all (fun t => decide (trim t = "")) (some toolkit)) = false := by
    rw [Option.all_some]
    exact decide_eq_false hne
  rw [hwants]
  rfl

/-- What listing without one returns. -/
theorem listTriggers_none (hwebhooks : route.webhooks = true)
    (hlisted : (listPages (activePath route)).run.under reply = .ok listed)
    (haccounts : (listPages "/connected_accounts?limit=200").run.under reply = .ok accounts) :
    (listTriggers route none).run.under reply =
      .ok ((listed.filter fun row => ownedBy row route.entityId).filterMap fun row =>
        activeTriggerFromV3 row none (connectionToolkits accounts)) := by
  rw [listTriggers, under_requireWebhooks hwebhooks, under_bind_ok hlisted]
  dsimp only
  cases hunnamed : (listed.filter fun row => ownedBy row route.entityId).any namesNoToolkit with
  | true =>
    have hlookup : (lookupAccounts true).run.under reply = .ok accounts := by
      have hattempt :=
        under_attempt (ε := Error) reply (listPages "/connected_accounts?limit=200").run
      rw [lookupAccounts, under_bind_ok hattempt, haccounts]
      rfl
    rw [Option.all_none, Bool.true_and, under_bind_ok hlookup]
    rfl
  | false =>
    rw [Option.all_none, Bool.true_and]
    show Except.ok _ = Except.ok _
    congr 1
    apply List.filterMap_congr
    intro row hrow
    -- a row that names its toolkit is not looked up
    have hnamed : namesNoToolkit row = false := by
      rw [List.any_eq_false] at hunnamed
      exact eq_false_of_ne_true (hunnamed row hrow)
    rw [activeTriggerFromV3_eq, activeTriggerFromV3_eq, labelOf_none, labelOf_none]
    rw [namesNoToolkit] at hnamed
    cases hexplicit : slugField row toolkitKeys with
    | none =>
      rw [hexplicit] at hnamed
      cases hnamed
    | some explicit => rfl

/-- How many of the triggers kept have a slug. -/
theorem countP_kept (kept : Json → Bool) (wanted slug : String) (rows : List Json) :
    (rows.filterMap fun row => if kept row then translated wanted row else none).countP
        (fun trigger => trigger.slug = slug) =
      rows.countP fun row =>
        kept row && (slugField row triggerIdKeys).isSome && decide (slugOf row = slug) := by
  rw [List.countP_filterMap]
  apply List.countP_congr
  intro row _
  cases hkept : kept row with
  | false => simp
  | true =>
    cases hid : slugField row triggerIdKeys with
    | none => simp [translated, hid]
    | some id => simp [translated, hid, triggerOf]

theorem keptBySlug_of_none {wanted : String} {row : Json} (h : slugField row toolkitKeys = none) :
    keptBySlug wanted row = slugInToolkit (slugOf row) wanted := by
  rw [keptBySlug, h]

theorem keptByLabel_of_none {wanted : String} {row : Json} (h : slugField row toolkitKeys = none) :
    keptByLabel accounts wanted row =
      eqIgnoreAsciiCase (toolkitOfConnection accounts row) wanted := by
  rw [keptByLabel, h]

theorem kept_of_some {wanted explicit : String} {row : Json}
    (h : slugField row toolkitKeys = some explicit) :
    keptBySlug wanted row = keptByLabel accounts wanted row := by
  rw [keptBySlug, keptByLabel, h]

/-- Where two ways to keep rows list the same triggers, and on the rows of one slug the
first keeps no more than the second, they keep the same rows of the slug. -/
theorem kept_of_filterMap_eq {kept kept' : Json → Bool} {wanted slug : String} {rows : List Json}
    (h : (rows.filterMap fun row => if kept row then translated wanted row else none) =
      rows.filterMap fun row => if kept' row then translated wanted row else none)
    (himp : ∀ row, slugOf row = slug → kept row = true → kept' row = true) {row : Json}
    (hrow : row ∈ rows) (hid : (slugField row triggerIdKeys).isSome = true)
    (hslug : slugOf row = slug) (hkept : kept' row = true) : kept row = true := by
  have hcount := congrArg (List.countP fun trigger => decide (trigger.slug = slug)) h
  rw [countP_kept, countP_kept] at hcount
  have hsame := imp_of_countP_eq ?_ hcount row hrow ?_
  · simp only [Bool.and_eq_true] at hsame
    exact hsame.1.1
  · intro other _ hother
    simp only [Bool.and_eq_true, decide_eq_true_eq] at hother ⊢
    exact ⟨⟨himp other hother.2 hother.1.1, hother.1.2⟩, hother.2⟩
  · simp only [Bool.and_eq_true, decide_eq_true_eq]
    exact ⟨⟨hkept, hid⟩, hslug⟩

/-- The listings agree when the prefix of the slug is read like the connection. -/
theorem filterMap_kept_iff {wanted : String} {rows : List Json} :
    (rows.filterMap fun row => if keptBySlug wanted row then translated wanted row else none) =
        (rows.filterMap fun row =>
          if keptByLabel accounts wanted row then translated wanted row else none) ↔
      ∀ row ∈ rows, (slugField row triggerIdKeys).isSome = true → slugField row toolkitKeys = none →
        (slugInToolkit (slugOf row) wanted = true ↔
          eqIgnoreAsciiCase (toolkitOfConnection accounts row) wanted = true) := by
  constructor
  · intro h row hrow hid hunnamed
    rw [← keptBySlug_of_none hunnamed, ← keptByLabel_of_none hunnamed]
    -- all rows of one slug have, or have not, the prefix
    constructor
    · intro hprefix
      refine kept_of_filterMap_eq h.symm ?_ hrow hid rfl hprefix
      intro other hslug hother
      cases hexplicit : slugField other toolkitKeys with
      | some explicit =>
        rw [kept_of_some hexplicit]
        exact hother
      | none =>
        rw [keptBySlug_of_none hexplicit, hslug, ← keptBySlug_of_none hunnamed]
        exact hprefix
    · intro hlabel
      by_contra hprefix
      refine hprefix (kept_of_filterMap_eq h ?_ hrow hid rfl hlabel)
      intro other hslug hother
      cases hexplicit : slugField other toolkitKeys with
      | some explicit =>
        rw [← kept_of_some hexplicit]
        exact hother
      | none =>
        rw [keptBySlug_of_none hexplicit, hslug, ← keptBySlug_of_none hunnamed] at hother
        exact absurd hother hprefix
  · intro h
    apply List.filterMap_congr
    intro row hrow
    cases hexplicit : slugField row toolkitKeys with
    | some explicit => rw [kept_of_some hexplicit]
    | none =>
      cases hid : slugField row triggerIdKeys with
      | none => rw [translated, hid, Option.map_none, ite_self, ite_self]
      | some id =>
        have hsame := h row hrow (by rw [hid]; rfl) hexplicit
        rw [← keptBySlug_of_none hexplicit, ← keptByLabel_of_none hexplicit] at hsame
        rw [Bool.eq_iff_iff.mpr hsame]

/-- The two listings, as two ways to keep rows. -/
theorem filtersAgree_iff_filterMap (hwebhooks : route.webhooks = true)
    (hlisted : (listPages (activePath route)).run.under reply = .ok listed)
    (haccounts : (listPages "/connected_accounts?limit=200").run.under reply = .ok accounts)
    {toolkit : String} (hne : trim toolkit ≠ "") :
    FiltersAgree route reply toolkit ↔
      ((listed.filter fun row => ownedBy row route.entityId).filterMap fun row =>
        if keptBySlug (trim toolkit) row then translated (trim toolkit) row else none) =
      ((listed.filter fun row => ownedBy row route.entityId).filterMap fun row =>
        if keptByLabel accounts (trim toolkit) row then translated (trim toolkit) row
        else none) := by
  have hsome := listTriggers_some hwebhooks hlisted hne
  have hnone := listTriggers_none hwebhooks hlisted haccounts
  -- both listings are filters of the same owned rows
  have hfiltered : ∀ rows : List Json, (rows.filterMap fun row =>
      activeTriggerFromV3 row (some toolkit) (connectionToolkits [])).map folded =
      rows.filterMap fun row =>
        if keptBySlug (trim toolkit) row then translated (trim toolkit) row else none := by
    intro rows
    rw [List.map_filterMap]
    exact List.filterMap_congr fun row _ => folded_filtered hne _ row
  have hall : ∀ rows : List Json, ((rows.filterMap fun row =>
      activeTriggerFromV3 row none (connectionToolkits accounts)).filter fun trigger =>
        eqIgnoreAsciiCase trigger.toolkit (trim toolkit)).map folded =
      rows.filterMap fun row =>
        if keptByLabel accounts (trim toolkit) row then translated (trim toolkit) row
        else none := by
    intro rows
    rw [List.filter_filterMap, List.map_filterMap]
    exact List.filterMap_congr fun row _ => folded_labelled accounts (trim toolkit) row
  rw [← hfiltered, ← hall]
  constructor
  · intro h
    exact h _ _ hsome hnone
  · intro h filtered all hfilteredRun hallRun
    rw [hsome, Except.ok.injEq] at hfilteredRun
    rw [hnone, Except.ok.injEq] at hallRun
    rw [← hfilteredRun, ← hallRun]
    exact h

/-- Listing with a toolkit agrees with listing without one exactly when each of the
entity's rows that names no toolkit has its prefix on the slug if and only if its
connection, or else the first word of the slug, says so. -/
theorem filtersAgree_iff (hwebhooks : route.webhooks = true)
    (hlisted : (listPages (activePath route)).run.under reply = .ok listed)
    (haccounts : (listPages "/connected_accounts?limit=200").run.under reply = .ok accounts)
    {toolkit : String} (hne : trim toolkit ≠ "") :
    FiltersAgree route reply toolkit ↔
      ∀ row ∈ listed, ownedBy row route.entityId = true →
        (slugField row triggerIdKeys).isSome = true → slugField row toolkitKeys = none →
        (slugInToolkit (slugOf row) (trim toolkit) = true ↔
          eqIgnoreAsciiCase (toolkitOfConnection accounts row) (trim toolkit) = true) := by
  rw [filtersAgree_iff_filterMap hwebhooks hlisted haccounts hne, filterMap_kept_iff]
  constructor
  · intro h row hrow howned
    exact h row (List.mem_filter.mpr ⟨hrow, howned⟩)
  · intro h row hrow
    obtain ⟨hmem, howned⟩ := List.mem_filter.mp hrow
    exact h row hmem howned

end

/-! ## A few subscriptions -/

/-- A page of rows. -/
def onePage (rows : List Json) : Json := .obj [("items", .arr rows)]

theorem listPages_onePage {reply : Request → Answer} {path : String} {rows : List Json}
    (h : reply (.get path) = .replied (.ok (onePage rows))) :
    (listPages path).run.under reply = .ok rows := by
  have hcall : (call (.get (pagePath path none))).run.under reply = .ok (onePage rows) := by
    show (reply (.get path)).outcome = _
    rw [h]
    rfl
  have hnext : nextCursor (onePage rows) = none := by
    simp [nextCursor, slugField, readField, onePage, SchemaWalk.get, Json.field, List.lookup]
  have hrows : rowsOf (onePage rows) = rows := by
    simp [rowsOf, rowsUnder, onePage, SchemaWalk.get, Json.field, List.lookup]
  rw [listPages, MAX_PAGES, listPagesFrom, under_bind_ok hcall]
  dsimp only
  rw [hnext, hrows]
  rfl

def webhookRoute : Route := { entityId := "entity-1", webhooks := true }

/-- A tenant with these subscriptions and these connections. -/
def tenant (rows accounts : List Json) : Request → Answer
  | .get path =>
    if path = activePath webhookRoute then .replied (.ok (onePage rows))
    else .replied (.ok (onePage accounts))
  | _ => .gated

theorem listed_tenant (rows accounts : List Json) :
    (listPages (activePath webhookRoute)).run.under (tenant rows accounts) = .ok rows :=
  listPages_onePage (by rw [tenant, if_pos rfl])

theorem accounts_tenant (rows accounts : List Json) :
    (listPages "/connected_accounts?limit=200").run.under (tenant rows accounts) = .ok accounts :=
  listPages_onePage (by rw [tenant, if_neg (by decide +kernel)])

/-- A subscription that names no toolkit. -/
def subscription (id slug connectionId owner : String) : Json :=
  .obj [("connected_account_id", .str connectionId), ("id", .str id), ("trigger_name", .str slug),
    ("user_id", .str owner)]

/-- One subscription of the entity, that names no toolkit, and no connections. -/
def oneSubscription (slug : String) : Request → Answer :=
  tenant [subscription "ti_1" slug "c1" "entity-1"] []

/-- Subscriptions to a mailbox, to a workspace, to a mailbox that is named, and of another
entity. -/
def fourSubscriptions : List Json :=
  [subscription "ti_1" "GMAIL_NEW_GMAIL_MESSAGE" "c1" "entity-1",
    subscription "ti_2" "SLACK_RECEIVE_MESSAGE" "c2" "entity-1",
    .obj [("id", .str "ti_3"), ("toolkit", .obj [("slug", .str "GMAIL")]),
      ("trigger_name", .str "NEW_MESSAGE"), ("user_id", .str "entity-1")],
    subscription "ti_4" "SLACK_RECEIVE_MESSAGE" "c1" "entity-2"]

/-- The connections they are on. -/
def twoConnections : List Json :=
  [.obj [("id", .str "c1"), ("status", .str "ACTIVE"), ("toolkit", .obj [("slug", .str "gmail")])],
    .obj [("id", .str "c2"), ("status", .str "ACTIVE"), ("toolkit", .obj [("slug", .str "slack")])]]

/-- The mailboxes are listed, however they are named. -/
theorem filtersAgree_gmail :
    FiltersAgree webhookRoute (tenant fourSubscriptions twoConnections) " Gmail " := by
  refine (filtersAgree_iff rfl (listed_tenant _ _) (accounts_tenant _ _) (by decide +kernel)).mpr ?_
  intro row hrow howned _ hunnamed
  simp only [fourSubscriptions, List.mem_cons, List.not_mem_nil, or_false] at hrow
  rcases hrow with rfl | rfl | rfl | rfl
  · decide +kernel
  · decide +kernel
  · exact absurd hunnamed (by decide +kernel)
  · exact absurd howned (by decide +kernel)

/-- The filter names the toolkit better than the slug's first word. -/
theorem not_filtersAgree_teams :
    ¬ FiltersAgree webhookRoute (oneSubscription "MICROSOFT_TEAMS_NEW_MESSAGE")
      "microsoft_teams" := by
  rw [oneSubscription, filtersAgree_iff_filterMap rfl (listed_tenant _ _) (accounts_tenant _ _)
    (by decide +kernel), filterMap_kept_iff]
  intro h
  have hprefix := (h _ (List.mem_filter.mpr ⟨List.mem_singleton_self _, by decide +kernel⟩)
    (by decide +kernel) (by decide +kernel)).mp (by decide +kernel)
  revert hprefix
  decide +kernel

end Direct
