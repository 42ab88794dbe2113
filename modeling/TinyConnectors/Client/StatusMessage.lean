/-
# The text of a failed request

`client/http.rs`: a reply that is no success becomes `HTTP <status>`, with the
provider's message and its suggested fix where the body carries them.  Both are scrubbed
of identifiers and cut to a budget.  What panics in the source, a slice inside a
character or a subtraction below zero, is `none` here.
-/
import TinyConnectors.Contracts.SchemaWalk
import TinyConnectors.Execute.Classify
import TinyConnectors.StrSlices
import TinyConnectors.Substrings

namespace Http

open RustStr

/-- Longest provider message kept in a failure. -/
def ERROR_MESSAGE_MAX_CHARS : ℕ := 240

/-- Length of the `...` that `truncate` appends. -/
def ELLIPSIS_CHARS : ℕ := 3

/-- Joins the provider's message to its `suggested_fix`. -/
def FIX_LABEL : String := " Suggested fix: "

/-- Field names a provider message may echo that identify the user's data. -/
def REDACTED_MARKERS : List String :=
  ["connected_account_id", "connectedAccountId", "entity_id", "entityId", "user_id", "userId"]

/-- `str::trim_end`. -/
def trimEnd (s : String) : String := String.ofList (s.toList.rdropWhile isWhitespace)

def truncate (text : String) (maxChars : ℕ) : Option String :=
  match (charIndices text)[maxChars]? with
  | some (index, _) => (slice text 0 index).map fun kept => trimEnd kept ++ "..."
  | none => some text

/-- One marker replaced. -/
def redact (text marker : String) : String :=
  String.ofList (replaceAll marker.toList "[redacted]".toList text.toList)

/-- A text on one line, without the markers. -/
def scrub (text : String) : String :=
  REDACTED_MARKERS.foldl redact
    (String.ofList (text.toList.map fun c => if c = '\n' then ' ' else c))

def sanitize (text : String) (maxChars : ℕ) : Option String := truncate (scrub text) maxChars

/-- A candidate for the fix, validated on its own. -/
def usable (value : Option Json) : Option String :=
  ((value.bind Json.asStr).map trim).filter fun fix => fix ≠ ""

section Bodies

-- `serde_json::from_str`
variable (parse : String → Option Json)

/-- The fix a body carries, nested or at the top. -/
def suggestedFix (parsed : Json) : Option String :=
  (usable ((SchemaWalk.get "error" parsed).bind (SchemaWalk.get "suggested_fix"))).or
    (usable (SchemaWalk.get "suggested_fix" parsed))

/-- The message a body carries, nested or at the top. -/
def errorMessage (parsed : Json) : Option String :=
  (((SchemaWalk.get "error" parsed).bind (SchemaWalk.get "message")).bind Json.asStr).or
    ((SchemaWalk.get "message" parsed).bind Json.asStr)

def apiErrorMessage (body : String) : Option (String × Option String) := do
  let parsed ← parse body
  let message ← errorMessage parsed
  return (message, suggestedFix parsed)

/-- `usize` subtraction. -/
def checkedSub (m n : ℕ) : Option ℕ := if n ≤ m then some (m - n) else none

/-- What a message leaves of the budget; the subtraction saturates. -/
def fixBudget (message : String) : ℕ :=
  ERROR_MESSAGE_MAX_CHARS - (message.length + FIX_LABEL.length + ELLIPSIS_CHARS)

def statusMessage (status : UInt16) (body : String) : Option String :=
  match apiErrorMessage parse body with
  | none => some s!"HTTP {status}"
  | some (message, none) => do
    let message ← sanitize message ERROR_MESSAGE_MAX_CHARS
    return s!"HTTP {status}: {message}"
  | some (message, some fix) => do
    let messageBudget ← checkedSub (ERROR_MESSAGE_MAX_CHARS / 2) ELLIPSIS_CHARS
    let message ← sanitize message messageBudget
    let fix ← sanitize fix (fixBudget message)
    return s!"HTTP {status}: {message}{FIX_LABEL}{fix}"

end Bodies

/-! ## Truncation -/

/-- A text longer than its budget is cut after that many characters, whatever their size in
bytes. -/
theorem truncate_eq (text : String) (n : ℕ) :
    truncate text n = some (if text.length ≤ n then text else
      trimEnd (String.ofList (text.toList.take n)) ++ "...") := by
  rw [truncate, charIndices, getElem?_charIndicesFrom]
  cases hlast : text.toList[n]? with
  | none =>
    have hshort : text.length ≤ n := by
      rw [← String.length_toList]
      exact List.getElem?_eq_none_iff.mp hlast
    rw [if_pos hshort]
    rfl
  | some c =>
    have hlong : ¬ text.length ≤ n := by
      rw [← String.length_toList, not_le]
      exact (List.getElem?_eq_some_iff.mp hlast).1
    have hslice : slice text 0 (bytesOf (text.toList.take n)) =
        some (String.ofList (text.toList.take n)) := by
      have h :=
        slice_between (s := text) (l := []) (m := text.toList.take n) (r := text.toList.drop n)
        (by rw [List.nil_append, List.take_append_drop])
      rwa [bytesOf_nil, Nat.zero_add] at h
    rw [if_neg hlong, Option.map_some]
    show (slice text 0 (0 + bytesOf (text.toList.take n))).map _ = _
    rw [Nat.zero_add, hslice, Option.map_some]

theorem length_trimEnd_le (s : String) : (trimEnd s).length ≤ s.length := by
  rw [trimEnd, String.length_ofList, ← String.length_toList]
  exact (List.rdropWhile_prefix isWhitespace s.toList).length_le

/-- The budget, and the ellipsis. -/
theorem length_truncate_le {text cut : String} {n : ℕ} (h : truncate text n = some cut) :
    cut.length ≤ n + ELLIPSIS_CHARS := by
  rw [truncate_eq, Option.some_inj] at h
  rw [← h]
  split_ifs with hshort
  · exact hshort.trans (Nat.le_add_right n _)
  · have htrim := length_trimEnd_le (String.ofList (text.toList.take n))
    rw [String.length_ofList, List.length_take] at htrim
    have hdots : ("..." : String).length = ELLIPSIS_CHARS := rfl
    rw [String.length_append, hdots]
    omega

/-! ## Scrubbed texts -/

/-- What no surfaced text may hold. -/
def FORBIDDEN : List (List Char) := ['\n'] :: REDACTED_MARKERS.map String.toList

def Scrubbed (l : List Char) : Prop := ∀ v ∈ FORBIDDEN, ¬ v <:+: l

/-- Space, dot, colon and brackets are walls for every forbidden text. -/
theorem wall_forbidden {v : List Char} (hv : v ∈ FORBIDDEN) :
    ' ' ∉ v ∧ '.' ∉ v ∧ ':' ∉ v ∧ '[' ∉ v ∧ ']' ∉ v := by
  have hall : FORBIDDEN.all fun v => [' ', '.', ':', '[', ']'].all fun x => !v.elem x := by
    decide +kernel
  have h := fun x hx => List.all_eq_true.mp (List.all_eq_true.mp hall v hv) x hx
  simp only [Bool.not_eq_true', List.elem_eq_mem, decide_eq_false_iff_not] at h
  exact ⟨h ' ' (by decide), h '.' (by decide), h ':' (by decide), h '[' (by decide),
    h ']' (by decide)⟩

/-- The module's own words hold nothing forbidden. -/
theorem words_scrubbed {word : List Char}
    (hword : word ∈ ["redacted".toList, "Suggested fix:".toList, "HTTP".toList, []]) :
    Scrubbed word := by
  have hall : ["redacted".toList, "Suggested fix:".toList, "HTTP".toList, []].all fun word =>
      FORBIDDEN.all fun v => !containsChars v word := by decide +kernel
  intro v hv hin
  have h := List.all_eq_true.mp (List.all_eq_true.mp hall word hword) v hv
  rw [containsChars_iff.mpr hin] at h
  cases h

section Parts

variable {a b l : List Char}

theorem Scrubbed.part (h : Scrubbed l) (hpart : a <:+: l) : Scrubbed a :=
  fun v hv hin => h v hv (hin.trans hpart)

/-- Two scrubbed texts around a wall. -/
theorem Scrubbed.wall {x : Char} (hx : x = ' ' ∨ x = '.' ∨ x = ':') (ha : Scrubbed a)
    (hb : Scrubbed b) :
    Scrubbed (a ++ x :: b) := by
  intro v hv hin
  obtain ⟨hspace, hdot, hcolon, -, -⟩ := wall_forbidden hv
  have hmem : x ∉ v := by
    rcases hx with rfl | rfl | rfl
    · exact hspace
    · exact hdot
    · exact hcolon
  exact ((infix_wall hmem a b).mp hin).elim (ha v hv) (hb v hv)

theorem Scrubbed.dots (h : Scrubbed l) : Scrubbed (l ++ "...".toList) := by
  have hnil : Scrubbed [] := words_scrubbed (by decide)
  have htwo : Scrubbed ['.', '.'] := hnil.wall (.inr (.inl rfl)) (hnil.wall (.inr (.inl rfl)) hnil)
  exact h.wall (.inr (.inl rfl)) htwo

/-- Cutting a text forbids nothing it did not forbid. -/
theorem Scrubbed.truncate {text cut : String} {n : ℕ} (h : Scrubbed text.toList)
    (hcut : Http.truncate text n = some cut) : Scrubbed cut.toList := by
  rw [truncate_eq, Option.some_inj] at hcut
  rw [← hcut]
  split_ifs
  · exact h
  · rw [String.toList_append, trimEnd, String.toList_ofList, String.toList_ofList]
    have hprefix := (List.rdropWhile_prefix isWhitespace (text.toList.take n)).trans
      (List.take_prefix n text.toList)
    exact (h.part hprefix.isInfix).dots

end Parts

section Redaction

variable {v : List Char} {marker text : String}

theorem marker_mem (h : marker ∈ REDACTED_MARKERS) : marker.toList ∈ FORBIDDEN :=
  List.mem_cons_of_mem _ (List.mem_map_of_mem h)

theorem marker_ne_nil (h : marker ∈ REDACTED_MARKERS) : marker.toList ≠ [] := by
  have hall : REDACTED_MARKERS.all fun marker => !marker.toList.isEmpty := by decide +kernel
  intro hnil
  have hmarker := List.all_eq_true.mp hall marker h
  rw [hnil] at hmarker
  cases hmarker

theorem toList_redact (text marker : String) : (redact text marker).toList =
    replaceAll marker.toList ('[' :: "redacted".toList ++ [']']) text.toList := by
  rw [redact, String.toList_ofList]
  rfl

/-- A replacement brings nothing forbidden back. -/
theorem not_infix_redact (hv : v ∈ FORBIDDEN) (hmarker : marker ∈ REDACTED_MARKERS)
    (h : ¬ v <:+: text.toList) : ¬ v <:+: (redact text marker).toList := by
  obtain ⟨-, -, -, hopen, hclose⟩ := wall_forbidden hv
  rw [toList_redact]
  intro hin
  exact h (infix_of_infix_replaceAll (marker_ne_nil hmarker) hopen hclose
    (words_scrubbed (by decide) v hv) hin)

theorem not_infix_redact_self (hmarker : marker ∈ REDACTED_MARKERS) :
    ¬ marker.toList <:+: (redact text marker).toList := by
  obtain ⟨-, -, -, hopen, hclose⟩ := wall_forbidden (marker_mem hmarker)
  rw [toList_redact]
  exact not_infix_replaceAll (marker_ne_nil hmarker) hopen hclose
    (words_scrubbed (by decide) _ (marker_mem hmarker)) _

/-- The loop over the markers: what was away stays away, and each marker visited goes. -/
theorem not_infix_foldl_redact {markers : List String}
    (hmarkers : ∀ m ∈ markers, m ∈ REDACTED_MARKERS) (hv : v ∈ FORBIDDEN)
    (h : ¬ v <:+: text.toList ∨ v ∈ markers.map String.toList) :
    ¬ v <:+: (markers.foldl redact text).toList := by
  induction markers generalizing text with
  | nil => exact h.resolve_right List.not_mem_nil
  | cons marker markers ih =>
    have hmarker := hmarkers marker List.mem_cons_self
    rw [List.foldl_cons]
    refine ih (fun m hm => hmarkers m (List.mem_cons_of_mem marker hm)) ?_
    rcases h with h | h
    · exact .inl (not_infix_redact hv hmarker h)
    · rcases List.mem_cons.mp h with rfl | h
      · exact .inl (not_infix_redact_self hmarker)
      · exact .inr h

theorem scrubbed_scrub (text : String) : Scrubbed (scrub text).toList := by
  intro v hv
  refine not_infix_foldl_redact (fun m hm => hm) hv ?_
  rcases List.mem_cons.mp hv with rfl | hv
  · left
    rw [String.toList_ofList, List.singleton_infix_iff, List.mem_map]
    rintro ⟨c, -, hc⟩
    split_ifs at hc with hline
    · exact absurd hc (by decide)
    · exact hline hc
  · exact .inr hv

end Redaction

/-! ## The fix that is shown -/

/-- A text that starts with something to see. -/
def Visible (l : List Char) : Prop := ∃ c rest, l = c :: rest ∧ isWhitespace c = false

theorem Visible.redact {text marker : String} (hmarker : marker ∈ REDACTED_MARKERS)
    (h : Visible text.toList) : Visible (redact text marker).toList := by
  obtain ⟨c, rest, htext, hc⟩ := h
  rw [toList_redact, htext]
  by_cases hfront : marker.toList <+: c :: rest
  · obtain ⟨rest', hrest⟩ := hfront
    rw [← hrest, replaceAll_append (marker_ne_nil hmarker)]
    exact ⟨'[', _, rfl, by decide⟩
  · rw [replaceAll_cons hfront]
    exact ⟨c, _, rfl, hc⟩

theorem Visible.scrub {text : String} (h : Visible text.toList) : Visible (scrub text).toList := by
  obtain ⟨c, rest, htext, hc⟩ := h
  have hmap :
      Visible (String.ofList (text.toList.map fun c => if c = '\n' then ' ' else c)).toList := by
    have hline : c ≠ '\n' := by
      rintro rfl
      exact absurd hc (by decide)
    rw [String.toList_ofList, htext, List.map_cons, if_neg hline]
    exact ⟨c, _, rfl, hc⟩
  rw [Http.scrub]
  -- each marker keeps the front visible
  suffices hloop : ∀ markers : List String, (∀ m ∈ markers, m ∈ REDACTED_MARKERS) → ∀ text : String,
      Visible text.toList → Visible (markers.foldl Http.redact text).toList from
    hloop _ (fun m hm => hm) _ hmap
  intro markers
  induction markers with
  | nil => exact fun _ text h => h
  | cons marker markers ih =>
    intro hmarkers text h
    exact ih (fun m hm => hmarkers m (List.mem_cons_of_mem marker hm)) _
      (h.redact (hmarkers marker List.mem_cons_self))

theorem visible_of_usable {value : Option Json} {fix : String} (h : usable value = some fix) :
    Visible fix.toList := by
  obtain ⟨hsome, hne⟩ := Option.filter_eq_some_iff.mp h
  obtain ⟨s, -, hs⟩ := Option.map_eq_some_iff.mp hsome
  have hlist : fix.toList ≠ [] := by
    intro hnil
    rw [decide_eq_true_eq] at hne
    exact hne (String.toList_eq_nil_iff.mp hnil)
  obtain ⟨c, rest, hfix⟩ := List.exists_cons_of_ne_nil hlist
  refine ⟨c, rest, hfix, ?_⟩
  have hunpadded := (unpadded_trimChars s.toList).1
  rw [← toList_trim, hs, hfix] at hunpadded
  exact hunpadded (List.cons_ne_nil c rest)

/-- `shown` is the scrubbed fix, or the ellipsis after a front of it that is not empty. -/
def Shows (shown fix : String) : Prop :=
  ∃ kept, kept ≠ "" ∧ startsWith (scrub fix) kept = true ∧
    (shown = kept ∧ kept = scrub fix ∨ shown = kept ++ "...")

/-- A fix with something to see is shown within any budget. -/
theorem shows_of_sanitize {fix shown : String} {n : ℕ} (hfix : Visible fix.toList)
    (h : sanitize fix (n + 1) = some shown) : Shows shown fix := by
  obtain ⟨c, rest, hscrub, hc⟩ := hfix.scrub
  rw [sanitize, truncate_eq, Option.some_inj] at h
  split_ifs at h with hshort
  · refine ⟨scrub fix, ?_, startsWith_iff.mpr ⟨[], by rw [List.append_nil]⟩, .inl ⟨h.symm, rfl⟩⟩
    intro hempty
    rw [hempty] at hscrub
    cases hscrub
  · refine ⟨_, ?_, startsWith_iff.mpr ?_, .inr h.symm⟩
    · intro hempty
      have hnil : (trimEnd (String.ofList ((scrub fix).toList.take (n + 1)))).toList = [] := by
        rw [hempty]
        rfl
      rw [trimEnd, String.toList_ofList, String.toList_ofList, hscrub, List.take_succ_cons,
        List.rdropWhile_eq_nil_iff] at hnil
      rw [hnil c List.mem_cons_self] at hc
      cases hc
    · rw [trimEnd, String.toList_ofList, String.toList_ofList]
      obtain ⟨tail, htail⟩ := (List.rdropWhile_prefix isWhitespace _).trans
        (List.take_prefix (n + 1) (scrub fix).toList)
      exact ⟨tail, htail.symm⟩

/-! ## What is surfaced -/

section Status

variable (status : UInt16)

theorem toList_status : (s!"HTTP {status}").toList =
    "HTTP".toList ++ ' ' :: (toString status).toList := by
  rw [String.toList_append]
  rfl

/-- A status is digits, and no forbidden text is. -/
theorem scrubbed_status : Scrubbed (s!"HTTP {status}").toList := by
  have hall : FORBIDDEN.all fun v => v.any fun c => !c.isDigit := by decide +kernel
  have hdigits : ∀ c ∈ (toString status).toList, c.isDigit = true := by
    intro c hc
    have hrepr : (toString status).toList = Nat.toDigits 10 status.toNat := Nat.toList_repr
    exact Nat.isDigit_of_mem_toDigits (by decide) (by decide) (hrepr ▸ hc)
  have hstatus : Scrubbed (toString status).toList := by
    intro v hv hin
    obtain ⟨c, hc, hletter⟩ := List.any_eq_true.mp (List.all_eq_true.mp hall v hv)
    rw [hdigits c (hin.mem hc)] at hletter
    cases hletter
  rw [toList_status]
  exact (words_scrubbed (by decide)).wall (.inl rfl) hstatus

/-- A scrubbed detail after the status. -/
theorem scrubbed_detail {detail : String} (h : Scrubbed detail.toList) :
    Scrubbed (s!"HTTP {status}: {detail}").toList := by
  have hnil : Scrubbed [] := words_scrubbed (by decide)
  have htext : (s!"HTTP {status}: {detail}").toList =
      (s!"HTTP {status}").toList ++ ':' :: ([] ++ ' ' :: detail.toList) := by
    simp only [String.toList_append, List.append_assoc]
    rfl
  rw [htext]
  exact (scrubbed_status status).wall (.inr (.inr rfl)) (hnil.wall (.inl rfl) h)

end Status

/-- The two parts of a detail, joined by the label. -/
theorem scrubbed_joined {message fix : String} (hmessage : Scrubbed message.toList)
    (hfix : Scrubbed fix.toList) : Scrubbed (s!"{message}{FIX_LABEL}{fix}").toList := by
  have htext : (s!"{message}{FIX_LABEL}{fix}").toList =
      message.toList ++ ' ' :: ("Suggested fix:".toList ++ ' ' :: fix.toList) := by
    simp only [String.toList_append, List.append_assoc]
    rfl
  rw [htext]
  exact hmessage.wall (.inl rfl) ((words_scrubbed (by decide)).wall (.inl rfl) hfix)

theorem exists_sanitize (text : String) (n : ℕ) : ∃ cut, sanitize text n = some cut ∧
    Scrubbed cut.toList ∧ cut.length ≤ n + ELLIPSIS_CHARS := by
  obtain ⟨cut, hcut⟩ : ∃ cut, sanitize text n = some cut := ⟨_, truncate_eq (scrub text) n⟩
  exact ⟨cut, hcut, (scrubbed_scrub text).truncate hcut, length_truncate_le hcut⟩

section Bodies

variable (parse : String → Option Json) (status : UInt16) (body : String)

/-- The fix that goes into the text: the one that comes along with a message. -/
def includedFix : Option String := (apiErrorMessage parse body).bind Prod.snd

/-- The fix the body carries. -/
def carriedFix : Option String := (parse body).bind suggestedFix

/-- The fix is represented in the text. -/
def Represented (text fix : String) : Prop :=
  ∃ before shown, text = before ++ FIX_LABEL ++ shown ∧ Shows shown fix

/-- Bounded and scrubbed: a text is built without a panic, nothing forbidden is in it, its detail is
within the budget and so is what is subtracted from the budget on the way. -/
structure Bounded (text : String) : Prop where
  built : statusMessage parse status body = some text
  scrubbed : Scrubbed text.toList
  detail : ∀ rest : String, text = s!"HTTP {status}: {rest}" → rest.length ≤
    if (includedFix parse body).isSome then ERROR_MESSAGE_MAX_CHARS
    else ERROR_MESSAGE_MAX_CHARS + ELLIPSIS_CHARS
  budget : ∀ message fix cut, apiErrorMessage parse body = some (message, some fix) →
    sanitize message (ERROR_MESSAGE_MAX_CHARS / 2 - ELLIPSIS_CHARS) = some cut →
      cut.length + FIX_LABEL.length + ELLIPSIS_CHARS ≤ ERROR_MESSAGE_MAX_CHARS

variable {parse status body}

theorem detail_inj {detail other : String}
    (h : s!"HTTP {status}: {detail}" = s!"HTTP {status}: {other}") :
    detail = other := String.append_right_inj _ |>.mp h

/-- Half the budget leaves room for the label and a fix. -/
theorem budget_of_message {message cut : String}
    (h : sanitize message (ERROR_MESSAGE_MAX_CHARS / 2 - ELLIPSIS_CHARS) = some cut) :
    cut.length + FIX_LABEL.length + ELLIPSIS_CHARS ≤ ERROR_MESSAGE_MAX_CHARS ∧
    101 ≤ fixBudget cut := by
  have hcut := length_truncate_le h
  have hlabel : FIX_LABEL.length = 16 := rfl
  simp only [fixBudget, hlabel, ERROR_MESSAGE_MAX_CHARS, ELLIPSIS_CHARS] at hcut ⊢
  omega

section Cases

variable {message fix : String}

/-- Without a message there is the status alone. -/
theorem statusMessage_none (h : apiErrorMessage parse body = none) :
    statusMessage parse status body = some s!"HTTP {status}" := by
  rw [statusMessage, h]

theorem statusMessage_message (h : apiErrorMessage parse body = some (message, none)) :
    statusMessage parse status body =
      (sanitize message ERROR_MESSAGE_MAX_CHARS).map fun cut => s!"HTTP {status}: {cut}" := by
  rw [statusMessage, h]
  show Option.bind (sanitize message ERROR_MESSAGE_MAX_CHARS) _ = _
  cases sanitize message ERROR_MESSAGE_MAX_CHARS with
  | none => rfl
  | some cut => rfl

theorem statusMessage_fix (h : apiErrorMessage parse body = some (message, some fix))
    {cut shown : String}
    (hcut : sanitize message (ERROR_MESSAGE_MAX_CHARS / 2 - ELLIPSIS_CHARS) = some cut)
    (hshown : sanitize fix (fixBudget cut) = some shown) :
    statusMessage parse status body = some s!"HTTP {status}: {cut}{FIX_LABEL}{shown}" := by
  have hbudget : checkedSub (ERROR_MESSAGE_MAX_CHARS / 2) ELLIPSIS_CHARS =
      some (ERROR_MESSAGE_MAX_CHARS / 2 - ELLIPSIS_CHARS) := rfl
  rw [statusMessage, h]
  simp only [hbudget, hcut, hshown, Option.bind_eq_bind, Option.bind_some, Option.pure_def]

theorem bounded_none (h : apiErrorMessage parse body = none) :
    Bounded parse status body s!"HTTP {status}" where
  built := statusMessage_none h
  scrubbed := scrubbed_status status
  detail := by
    intro rest heq
    have hlen := congrArg String.length heq
    have hcolon : (toString ": ").length = 2 := rfl
    rw [String.length_append (s!"HTTP {status}: "), String.length_append (s!"HTTP {status}"),
      hcolon] at hlen
    omega
  budget := by
    intro message fix cut hsome
    cases h.symm.trans hsome

theorem bounded_message (h : apiErrorMessage parse body = some (message, none)) :
    ∃ text, Bounded parse status body text := by
  obtain ⟨cut, hcut, hscrubbed, hlen⟩ := exists_sanitize message ERROR_MESSAGE_MAX_CHARS
  refine ⟨s!"HTTP {status}: {cut}", ?_, scrubbed_detail status hscrubbed, ?_, ?_⟩
  · rw [statusMessage_message h, hcut, Option.map_some]
  · intro rest heq
    rw [includedFix, h]
    rw [← detail_inj heq]
    exact hlen
  · intro message' fix cut' hsome
    cases h.symm.trans hsome

/-- With a fix, both parts stay within the budget, and the fix is in the text. -/
theorem bounded_fix (h : apiErrorMessage parse body = some (message, some fix))
    (hfix : Visible fix.toList) :
    ∃ text, Bounded parse status body text ∧ Represented text fix := by
  obtain ⟨cut, hcut, hscrubbed, -⟩ :=
    exists_sanitize message (ERROR_MESSAGE_MAX_CHARS / 2 - ELLIPSIS_CHARS)
  obtain ⟨shown, hshown, hclean, hlen⟩ := exists_sanitize fix (fixBudget cut)
  obtain ⟨hbudget, hroom⟩ := budget_of_message hcut
  obtain ⟨joined, hjoined⟩ : ∃ joined, joined = s!"{cut}{FIX_LABEL}{shown}" := ⟨_, rfl⟩
  have htext : s!"HTTP {status}: {cut}{FIX_LABEL}{shown}" = s!"HTTP {status}: {joined}" := by
    simp only [hjoined, toString, String.append_assoc]
  refine ⟨s!"HTTP {status}: {cut}{FIX_LABEL}{shown}", ⟨statusMessage_fix h hcut hshown, ?_, ?_, ?_⟩,
    s!"HTTP {status}: {cut}", shown, rfl, ?_⟩
  · rw [htext]
    exact scrubbed_detail status (hjoined ▸ scrubbed_joined hscrubbed hclean)
  · intro rest heq
    rw [htext] at heq
    rw [includedFix, h, ← detail_inj heq, hjoined]
    show (cut ++ FIX_LABEL ++ shown).length ≤ ERROR_MESSAGE_MAX_CHARS
    rw [String.length_append, String.length_append]
    rw [fixBudget] at hlen
    omega
  · intro message' fix' cut' hsome hcut'
    cases h.symm.trans hsome
    cases hcut.symm.trans hcut'
    exact hbudget
  · obtain ⟨n, hn⟩ : ∃ n, fixBudget cut = n + 1 := ⟨fixBudget cut - 1, by omega⟩
    exact shows_of_sanitize hfix (hn ▸ hshown)

end Cases

theorem apiErrorMessage_eq (parse : String → Option Json) (body : String) :
    apiErrorMessage parse body = (parse body).bind fun parsed =>
      (errorMessage parsed).map fun message => (message, suggestedFix parsed) := by
  simp only [apiErrorMessage, Option.bind_eq_bind, Option.pure_def, Option.map_eq_bind]
  rfl

/-- The fix that comes along with a message is the body's. -/
theorem carriedFix_of_message {message : String} {fix : Option String}
    (h : apiErrorMessage parse body = some (message, fix)) : carriedFix parse body = fix := by
  rw [apiErrorMessage_eq] at h
  obtain ⟨parsed, hparsed, h⟩ := Option.bind_eq_some_iff.mp h
  obtain ⟨found, -, heq⟩ := Option.map_eq_some_iff.mp h
  rw [carriedFix, hparsed, Option.bind_some]
  exact (Prod.mk.inj heq).2

theorem visible_carriedFix {fix : String} (h : carriedFix parse body = some fix) :
    Visible fix.toList := by
  obtain ⟨parsed, -, h⟩ := Option.bind_eq_some_iff.mp h
  rcases Option.or_eq_some_iff.mp h with h | ⟨-, h⟩
  · exact visible_of_usable h
  · exact visible_of_usable h

variable (parse status body)

/-- The text is bounded and scrubbed, and represents whatever fix the body carries. -/
def SurfacesFix : Prop :=
  ∃ text, Bounded parse status body text ∧ ∀ fix, carriedFix parse body = some fix →
    Represented text fix

/-- Every body makes a bounded and scrubbed text, which represents the body's fix where the body
carries a message, and is the status alone where it carries none. -/
theorem surfaces : ∃ text, Bounded parse status body text ∧
    (apiErrorMessage parse body = none → text = s!"HTTP {status}") ∧
      ∀ fix, carriedFix parse body = some fix → apiErrorMessage parse body ≠ none →
        Represented text fix := by
  cases h : apiErrorMessage parse body with
  | none => exact ⟨_, bounded_none h, fun _ => rfl, fun _ _ hsome => absurd rfl hsome⟩
  | some found =>
    obtain ⟨message, fix⟩ := found
    have hcarried := carriedFix_of_message h
    cases fix with
    | none =>
      obtain ⟨text, htext⟩ : ∃ text, Bounded parse status body text := bounded_message h
      refine ⟨text, htext, nofun, fun fix hfix => ?_⟩
      cases hcarried.symm.trans hfix
    | some fix =>
      obtain ⟨text, htext, hshown⟩ :
          ∃ text, Bounded parse status body text ∧ Represented text fix :=
        bounded_fix h (visible_carriedFix hcarried)
      refine ⟨text, htext, nofun, fun fix' hfix' _ => ?_⟩
      cases hcarried.symm.trans hfix'
      exact hshown

/-- A fix without a message is dropped with the rest of the body. -/
theorem not_surfacesFix_alone :
    ¬ SurfacesFix (fun _ => some (.obj [("suggested_fix", .str "reconnect")])) 400
      "\x7b\"suggested_fix\": \"reconnect\"\x7d" := by
  rintro ⟨text, hbounded, hfix⟩
  obtain ⟨before, shown, htext, -⟩ := hfix "reconnect" (by decide +kernel)
  have hbare := hbounded.built
  rw [statusMessage_none (by decide +kernel), Option.some_inj] at hbare
  have hshort : (s!"HTTP {(400 : UInt16)}").length = 8 := by decide +kernel
  have hlabel : FIX_LABEL.length = 16 := rfl
  rw [← hbare] at htext
  have hlen := congrArg String.length htext
  rw [hshort, String.length_append, String.length_append, hlabel] at hlen
  omega

end Bodies

/-! ## Gateway statuses -/

section Gateways

variable (parse : String → Option Json) (tool : String) (status : UInt16) (body : String)

/-- The text the transport builds for a status is classified as trouble of the gateway, and so as
transient. -/
def Recognised : Prop :=
  ∃ text, statusMessage parse status body = some text ∧
    Execute.classifyComposioError tool text = .Gateway ∧
      (Execute.classifyComposioError tool text).isTransient = true

/-- The body is not JSON or carries no error message. -/
def NoMessage : Prop := ∀ parsed, parse body = some parsed → errorMessage parsed = none

variable {parse tool status body}

theorem apiErrorMessage_of_noMessage (h : NoMessage parse body) :
    apiErrorMessage parse body = none := by
  rw [apiErrorMessage_eq, Option.bind_eq_none_iff]
  intro parsed hparsed
  rw [h parsed hparsed, Option.map_none]

/-- No pattern of a gateway's text is in `HTTP 502`, `HTTP 503` or `HTTP 504`. -/
theorem classify_status (hstatus : status ∈ [502, 503, 504]) :
    Execute.classifyComposioError tool s!"HTTP {status}" ≠ .Gateway := by
  have hpattern : Execute.isGateway (toAsciiLowercase s!"HTTP {status}") = false := by
    simp only [List.mem_cons, List.not_mem_nil, or_false] at hstatus
    rcases hstatus with rfl | rfl | rfl <;> decide +kernel
  simp only [Execute.classifyComposioError, hpattern, Bool.false_and, Bool.false_eq_true, if_false]
  split_ifs <;> decide

theorem not_recognised_of_status (hstatus : status ∈ [502, 503, 504])
    (hbody : NoMessage parse body) :
    ¬ ∃ text, statusMessage parse status body = some text ∧
      Execute.classifyComposioError tool text = .Gateway := by
  rintro ⟨text, htext, hgateway⟩
  rw [statusMessage_none (apiErrorMessage_of_noMessage hbody), Option.some_inj] at htext
  rw [← htext] at hgateway
  exact classify_status hstatus hgateway

/-- A gateway status is never recognised without a message. -/
theorem not_recognised (hstatus : status ∈ [502, 503, 504]) (hbody : NoMessage parse body) :
    ¬ Recognised parse tool status body := by
  rintro ⟨text, htext, hgateway, -⟩
  exact not_recognised_of_status hstatus hbody ⟨text, htext, hgateway⟩

/-- A reply with an empty body, which is not JSON. -/
theorem not_recognised_empty : ¬ Recognised (fun _ => none) "GMAIL_FETCH_EMAILS" 503 "" :=
  not_recognised (by decide) fun _ hparsed => (Option.some_ne_none _ hparsed.symm).elim

/-- The message of a bad gateway. -/
theorem not_recognised_502 : ¬ Recognised (fun _ => none) "GMAIL_FETCH_EMAILS" 502 "" := by
  rintro ⟨text, htext, hgateway, -⟩
  refine not_recognised_of_status (by decide) ?_ ⟨text, htext, hgateway⟩
  intro parsed hparsed
  cases hparsed

end Gateways

end Http
