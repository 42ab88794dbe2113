/-
# The class that is reported

`tinybus_module/mod.rs`: a failed execute reaches the bus as its rendered error,
classified.  The rendering puts the route's path around the transport's own message, so
the classifier reads a text the module has added to.  Which of its words can come from
that text, and when they change the class, is settled here.
-/
import TinyConnectors.Direct.UrlValues
import TinyConnectors.Execute.Classify
import TinyConnectors.Substrings

namespace Execute

open RustStr

/-! ## The failure of an execute -/

/-- What `execute_checked` makes of a failed call. -/
def executeFailure (tool : String) (error : Direct.Error) : String :=
  formatProviderError tool error.text

/-- The path either route sends an execute of `tool` to. -/
def ExecutePath (tool path : String) : Prop :=
  path = "/agent-integrations/composio/execute" ∨
    ∃ named, Direct.segment (trim tool) (trim tool) = .ok named ∧ path = "/tools/execute/" ++ named

/-! ## The wrapper -/

/-- A text in lower case, character by character. -/
def lowered (s : String) : List Char := (toAsciiLowercase s).toList

theorem lowered_append (s t : String) : lowered (s ++ t) = lowered s ++ lowered t := by
  simp only [lowered, toList_toAsciiLowercase, String.toList_append, List.map_append]

/-- The words of a failed request, with the blanks between them. -/
theorem lowered_transport (path message : String) :
    lowered (Direct.Error.transport path message).text =
      "request".toList ++ ' ' :: ("to".toList ++ ' ' :: (lowered path ++ ' ' ::
        ("failed:".toList ++ ' ' :: lowered message))) := by
  show lowered ("request to " ++ path ++ " failed: " ++ message) = _
  rw [lowered_append, lowered_append, lowered_append]
  have hfront : lowered "request to " = "request to ".toList := by decide +kernel
  have hback : lowered " failed: " = " failed: ".toList := by decide +kernel
  rw [hfront, hback]
  simp only [List.append_assoc]
  rfl

/-- What every execute path is made of, in lower case: no blank and no bracket, and the first
letter is that of `agent-integrations` or of `tools`. -/
structure PathText (l : List Char) : Prop where
  blank : ' ' ∉ l
  bracket : '(' ∉ l
  start : ∃ c rest, l = '/' :: c :: rest ∧ (c = 'a' ∨ c = 't')

theorem mem_lowered {s : String} {c : Char} (hc : c.isAlpha = false) :
    c ∈ lowered s ↔ c ∈ s.toList := by
  rw [lowered, toList_toAsciiLowercase, List.mem_map]
  constructor
  · rintro ⟨x, hx, heq⟩
    rwa [(toLower_eq_iff hc).mp heq] at hx
  · exact fun hmem => ⟨c, hmem, (toLower_eq_iff hc).mpr rfl⟩

/-- Neither a blank nor a bracket is left in an encoded value. -/
theorem not_mem_encode (value : String) : ' ' ∉ (Direct.encode value).toList ∧
    '(' ∉ (Direct.encode value).toList := by
  have hescaped := (Direct.standsFor_encode value).escaped
  constructor
  · intro hmem
    rcases hescaped.mem hmem with h | h | h <;> exact absurd h (by decide)
  · intro hmem
    rcases hescaped.mem hmem with h | h | h <;> exact absurd h (by decide)

theorem ExecutePath.pathText {tool path : String} (h : ExecutePath tool path) :
    PathText (lowered path) := by
  rcases h with rfl | ⟨named, hnamed, rfl⟩
  · have htext : lowered "/agent-integrations/composio/execute" =
        "/agent-integrations/composio/execute".toList := by decide +kernel
    rw [htext]
    exact ⟨by decide, by decide, 'a', _, rfl, .inl rfl⟩
  · rw [Direct.eq_encode_of_segment hnamed]
    obtain ⟨hblank, hbracket⟩ := not_mem_encode (trim tool)
    have htext : lowered "/tools/execute/" = "/tools/execute/".toList := by decide +kernel
    refine ⟨?_, ?_, 't', _, by rw [lowered_append, htext]; rfl, .inr rfl⟩
    · rw [mem_lowered (by decide), String.toList_append, List.mem_append, not_or]
      exact ⟨by decide, hblank⟩
    · rw [mem_lowered (by decide), String.toList_append, List.mem_append, not_or]
      exact ⟨by decide, hbracket⟩

/-! ## Which words the wrapper can make -/

/-- The classifier's patterns of one word. -/
def WORDS : List String :=
  ["timemax", "timemin", "403", "scope", "forbidden", "trigger", "rate_limit", "ratelimited", "429",
    "composio", "google", "slack", "notion", "gmail", "fetch_type"]

/-- The classifier's patterns with a blank in them. -/
def PHRASES : List String :=
  ["invalid arguments", "missing required", "must not be empty", "required field", "bad request",
    "invalid date", "rfc 3339", "insufficient authentication scopes", "insufficient scope",
    "insufficient permissions", "invalid oauth scope", "do not have permission",
    "not have permission", "permission denied", "not permitted", "not allowed", "rate limit",
    "too many requests", "http 404", "http 410", "connection error, try to authenticate",
    "not enabled", "not connected", "token revoked", "backend returned 502", "(502 ",
    "backend returned 503", "(503 ", "backend returned 504", "(504 ", "502 bad gateway"]

/-- The two letters that follow a blank in `request to /path failed`. -/
def STEPS : List (Char × Char) := [('t', 'o'), ('/', 'a'), ('/', 't'), ('f', 'a')]

/-- The text starts with a blank that leads somewhere else. -/
def strays : List Char → Bool
  | ' ' :: x :: y :: _ => !STEPS.elem (x, y)
  | _ => false

theorem exists_of_strays {t : List Char} (h : strays t = true) :
    ∃ x y rest, t = ' ' :: x :: y :: rest ∧ (x, y) ∉ STEPS := by
  unfold strays at h
  split at h
  · next x y rest =>
    rw [Bool.not_eq_true', ← Bool.not_eq_true, List.elem_iff] at h
    exact ⟨x, y, rest, rfl, h⟩
  · cases h

theorem word_check {w : String} (hw : w ∈ WORDS) :
    ' ' ∉ w.toList ∧ ¬ w.toList <:+: "request".toList ∧
    ¬ w.toList <:+: "to".toList ∧ ¬ w.toList <:+: "failed:".toList := by
  have hall : WORDS.all fun w => !w.toList.elem ' ' && !containsChars w.toList "request".toList &&
      !containsChars w.toList "to".toList &&
        !containsChars w.toList "failed:".toList := by decide +kernel
  have h := List.all_eq_true.mp hall w hw
  simp only [Bool.and_eq_true, Bool.not_eq_true', ← Bool.not_eq_true, containsChars_iff,
    List.elem_iff] at h
  exact ⟨h.1.1.1, h.1.1.2, h.1.2, h.2⟩

theorem phrase_check {w : String} (hw : w ∈ PHRASES) : ':' ∉ w.toList ∧ w.toList.head? ≠ some ' ' ∧
    ('(' ∈ w.toList ∨ ∃ t ∈ w.toList.tails, strays t = true) := by
  have hall : PHRASES.all fun w => !w.toList.elem ':' && w.toList.head? != some ' ' &&
      (w.toList.elem '(' || w.toList.tails.any strays) := by decide +kernel
  have h := List.all_eq_true.mp hall w hw
  simp only [Bool.and_eq_true, Bool.or_eq_true, Bool.not_eq_true', ← Bool.not_eq_true,
    List.elem_iff, bne_iff_ne, List.any_eq_true] at h
  exact ⟨h.1.1, h.1.2, h.2⟩

/-- After a blank the next text goes on. -/
theorem step_join {x y : Char} {l r : List Char} (hl : ' ' ∉ l)
    (h : [' ', x, y] <:+: l ++ ' ' :: r) :
    [x, y] <+: r ∨ [' ', x, y] <:+: r := by
  induction l with
  | nil =>
    rw [List.nil_append, List.infix_cons_iff, List.cons_prefix_cons] at h
    exact h.imp_left And.right
  | cons c l ih =>
    rw [List.mem_cons, not_or] at hl
    rw [List.cons_append, List.infix_cons_iff, List.cons_prefix_cons] at h
    exact ih hl.2 (h.resolve_left fun hfront => hl.1 hfront.1)

theorem prefix_pair {x y a b : Char} {rest : List Char} (h : [x, y] <+: a :: b :: rest) :
    (x, y) = (a, b) := by
  rw [List.cons_prefix_cons, List.cons_prefix_cons] at h
  rw [h.1, h.2.1]

section Wrapped

variable {l m : List Char} (hl : PathText l)
include hl

/-- Every blank before the colon leads to `to`, to the path or to `failed`. -/
theorem step_front {x y : Char}
    (h : [' ', x, y] <:+: "request".toList ++ ' ' :: ("to".toList ++ ' ' ::
    (l ++ ' ' :: "failed".toList))) : (x, y) ∈ STEPS := by
  rcases step_join (by decide) h with h | h
  · rw [prefix_pair h]
    decide
  rcases step_join (by decide) h with h | h
  · obtain ⟨c, rest, hstart, hc⟩ := hl.start
    rw [hstart, List.cons_append, List.cons_append] at h
    rw [prefix_pair h]
    rcases hc with rfl | rfl <;> decide
  rcases step_join hl.blank h with h | h
  · rw [prefix_pair h]
    decide
  · have hblank : ' ' ∈ "failed".toList := h.mem List.mem_cons_self
    exact absurd hblank (by decide)

/-- A phrase comes from the message alone. -/
theorem phrase_wrapped {w : String} (hw : w ∈ PHRASES) :
    w.toList <:+: "request".toList ++ ' ' :: ("to".toList ++ ' ' :: (l ++ ' ' ::
      ("failed:".toList ++ ' ' :: m))) ↔ w.toList <:+: m := by
  obtain ⟨hcolon, hhead, hstray⟩ := phrase_check hw
  have hsplit : "request".toList ++ ' ' :: ("to".toList ++ ' ' :: (l ++ ' ' ::
      ("failed:".toList ++ ' ' :: m))) = ("request".toList ++ ' ' :: ("to".toList ++ ' ' ::
        (l ++ ' ' :: "failed".toList))) ++ ':' :: ' ' :: m := by
    simp only [List.append_assoc, List.cons_append]
    rfl
  have hfront : ¬ w.toList <:+: "request".toList ++ ' ' :: ("to".toList ++ ' ' ::
      (l ++ ' ' :: "failed".toList)) := by
    intro h
    rcases hstray with hbracket | ⟨t, ht, hstray⟩
    · have hmem := h.mem hbracket
      simp only [List.mem_append, List.mem_cons, hl.bracket, false_or] at hmem
      exact absurd hmem (by decide)
    · -- the blank of the phrase is one of the front's, and leads elsewhere
      obtain ⟨x, y, rest, rfl, hstep⟩ := exists_of_strays hstray
      have hsuffix : ' ' :: x :: y :: rest <:+: w.toList := ((List.mem_tails _ _).mp ht).isInfix
      have hpair : [' ', x, y] <:+: ' ' :: x :: y :: rest := ⟨[], rest, rfl⟩
      exact hstep (step_front hl ((hpair.trans hsuffix).trans h))
  rw [hsplit, infix_wall hcolon, List.infix_cons_iff]
  constructor
  · rintro (h | h | h)
    · exact absurd h hfront
    · cases hw' : w.toList with
      | nil => exact List.nil_infix
      | cons c rest =>
        rw [hw', List.cons_prefix_cons] at h
        rw [hw', h.1] at hhead
        exact absurd rfl hhead
    · exact h
  · exact fun h => .inr (.inr h)

omit hl in
/-- A word comes from the path or from the message. -/
theorem word_wrapped {w : String} (hw : w ∈ WORDS) :
    w.toList <:+: "request".toList ++ ' ' :: ("to".toList ++ ' ' :: (l ++ ' ' ::
      ("failed:".toList ++ ' ' :: m))) ↔ w.toList <:+: l ∨ w.toList <:+: m := by
  obtain ⟨hblank, hrequest, hto, hfailed⟩ := word_check hw
  rw [infix_wall hblank, infix_wall hblank, infix_wall hblank, infix_wall hblank]
  simp only [hrequest, hto, hfailed, false_or]

end Wrapped

/-! ## The arms on a wrapped message -/

/-- The providers a gateway's text may name. -/
def PROVIDER_NAMES : List String := ["composio", "google", "slack", "notion", "gmail", "fetch_type"]

section Arms

variable {tool path message : String} (hpath : ExecutePath tool path)

/-- The rendered failure, in lower case. -/
def wrapped (path message : String) : String :=
  toAsciiLowercase (Direct.Error.transport path message).text

theorem toList_wrapped (path message : String) : (wrapped path message).toList =
    "request".toList ++ ' ' :: ("to".toList ++ ' ' :: (lowered path ++ ' ' ::
      ("failed:".toList ++ ' ' :: lowered message))) := lowered_transport path message

theorem contains_word {w : String} (hw : w ∈ WORDS) : contains (wrapped path message) w =
    (contains (toAsciiLowercase path) w || contains (toAsciiLowercase message) w) := by
  rw [Bool.eq_iff_iff, Bool.or_eq_true, contains_iff, contains_iff, contains_iff, toList_wrapped]
  exact word_wrapped hw

theorem containsAny_words {ws : List String} (hws : ∀ w ∈ ws, w ∈ WORDS) :
    containsAny (wrapped path message) ws =
      (containsAny (toAsciiLowercase path) ws || containsAny (toAsciiLowercase message) ws) := by
  induction ws with
  | nil => rfl
  | cons w ws ih =>
    have ih := ih fun x hx => hws x (List.mem_cons_of_mem w hx)
    simp only [containsAny, List.any_cons] at ih ⊢
    rw [contains_word (hws w List.mem_cons_self), ih]
    simp only [Bool.or_assoc, Bool.or_left_comm]

include hpath

theorem contains_phrase {w : String} (hw : w ∈ PHRASES) :
    contains (wrapped path message) w = contains (toAsciiLowercase message) w := by
  rw [Bool.eq_iff_iff, contains_iff, contains_iff, toList_wrapped]
  exact phrase_wrapped hpath.pathText hw

theorem containsAny_phrases {ws : List String} (hws : ∀ w ∈ ws, w ∈ PHRASES) :
    containsAny (wrapped path message) ws = containsAny (toAsciiLowercase message) ws := by
  induction ws with
  | nil => rw [containsAny, containsAny, List.any_nil, List.any_nil]
  | cons w ws ih =>
    have ih := ih fun x hx => hws x (List.mem_cons_of_mem w hx)
    simp only [containsAny, List.any_cons] at ih ⊢
    rw [contains_phrase hpath (hws w List.mem_cons_self), ih]

theorem isActionNotFound_wrapped :
    isActionNotFound (wrapped path message) = isActionNotFound (toAsciiLowercase message) :=
  containsAny_phrases hpath (by decide)

theorem isComposioPlatform_wrapped :
    isComposioPlatform (wrapped path message) = isComposioPlatform (toAsciiLowercase message) :=
  containsAny_phrases hpath (by decide)

theorem isGateway_wrapped :
    isGateway (wrapped path message) = isGateway (toAsciiLowercase message) := by
  have hcodes : ∀ lower, isGateway lower = containsAny lower ["backend returned 502", "(502 ",
      "backend returned 503", "(503 ", "backend returned 504", "(504 ", "502 bad gateway"] := by
    intro lower
    simp only [isGateway, containsAny, List.any_cons, List.any_nil, String.reduceAppend,
      Bool.or_false, Bool.or_assoc]
  rw [hcodes, hcodes]
  exact containsAny_phrases hpath (by decide)

theorem isValidation_wrapped : isValidation (wrapped path message) =
    (isValidation (toAsciiLowercase message) ||
      containsAny (toAsciiLowercase path) ["timemax", "timemin"]) := by
  have hsplit : ∀ lower, isValidation lower =
      (containsAny lower ["invalid arguments", "missing required", "must not be empty",
        "required field", "bad request", "invalid date", "rfc 3339"] ||
          containsAny lower ["timemax", "timemin"]) := by
    intro lower
    simp only [isValidation, containsAny, List.any_cons, List.any_nil, Bool.or_false, Bool.or_assoc]
  rw [hsplit, hsplit, containsAny_phrases hpath (by decide), containsAny_words (by decide),
    Bool.or_assoc, Bool.or_comm (containsAny (toAsciiLowercase path) _)]

theorem isRateLimited_wrapped : isRateLimited (wrapped path message) =
    (isRateLimited (toAsciiLowercase message) ||
      containsAny (toAsciiLowercase path) ["rate_limit", "ratelimited", "429"]) := by
  have hsplit : ∀ lower, isRateLimited lower =
      (containsAny lower ["rate limit", "too many requests"] ||
        containsAny lower ["rate_limit", "ratelimited", "429"]) := by
    intro lower
    simp only [isRateLimited, containsAny, List.any_cons, List.any_nil, Bool.or_false]
    ac_rfl
  rw [hsplit, hsplit, containsAny_phrases hpath (by decide), containsAny_words (by decide),
    Bool.or_assoc, Bool.or_comm (containsAny (toAsciiLowercase path) _)]

end Arms

/-- `403` and `scope`, put together from the path and the message. -/
def mixedScope (p m : String) : Bool :=
  (contains p "403" || contains m "403") && (contains p "scope" || contains m "scope")

/-- The three signals of a refused trigger, put together from the path and the message. -/
def mixedTrigger (p m : String) : Bool :=
  (containsAny p ["403", "forbidden"] || containsAny m ["403", "forbidden"]) &&
    containsAny m ["do not have permission", "not have permission", "permission denied",
      "not permitted", "not allowed"] &&
    (contains p "trigger" || contains m "trigger")

section Mixed

variable {tool path message : String} (hpath : ExecutePath tool path)
include hpath

theorem isInsufficientScope_wrapped : isInsufficientScope (wrapped path message) =
    (isInsufficientScope (toAsciiLowercase message) ||
      mixedScope (toAsciiLowercase path) (toAsciiLowercase message)) := by
  rw [isInsufficientScope, containsAny_phrases hpath (by decide), contains_word (by decide),
    contains_word (by decide), isInsufficientScope, mixedScope]
  generalize containsAny (toAsciiLowercase message) _ = said
  cases contains (toAsciiLowercase message) "403" <;>
    cases contains (toAsciiLowercase message) "scope" <;> simp

theorem isTriggerPermission_wrapped : isTriggerPermission (wrapped path message) =
    (isTriggerPermission (toAsciiLowercase message) ||
      mixedTrigger (toAsciiLowercase path) (toAsciiLowercase message)) := by
  rw [isTriggerPermission, containsAny_words (by decide), containsAny_phrases hpath (by decide),
    contains_word (by decide), isTriggerPermission, mixedTrigger]
  generalize containsAny (toAsciiLowercase message) ["403", "forbidden"] = forbidden
  generalize containsAny (toAsciiLowercase message) _ = denied
  cases forbidden <;> cases contains (toAsciiLowercase message) "trigger" <;> simp

end Mixed

/-! ## When the path drowns the message -/

/-- The arms, one after the other, on what they found. -/
def firstArm (notFound validation scope trigger rate gateway platform known : Bool) : ErrorClass :=
  if notFound then .ActionNotFound
  else if validation then .Validation
  else if scope then .InsufficientScope
  else if trigger then .TriggerPermission
  else if rate then .RateLimited
  else if gateway then .Gateway
  else if platform then .ComposioPlatform
  else if known then .UpstreamProvider
  else .Other

theorem classifyComposioError_eq (tool message : String) :
    classifyComposioError tool message =
      firstArm (isActionNotFound (toAsciiLowercase message))
        (isValidation (toAsciiLowercase message))
        (isInsufficientScope (toAsciiLowercase message))
        (isTriggerPermission (toAsciiLowercase message))
        (isRateLimited (toAsciiLowercase message))
        (isGateway (toAsciiLowercase message) &&
          !isEmbeddedProviderFailure (toAsciiLowercase message))
        (isComposioPlatform (toAsciiLowercase message)) (isKnownToolkitAction tool) := rfl

/-- A word of the path decides an arm before the message does: the message matches no arm up to one
that the path matches, alone or together with the message, or it is a gateway's and the path names
a provider. -/
def drowned (path message : String) : Bool :=
  let p := toAsciiLowercase path
  let m := toAsciiLowercase message
  !isActionNotFound m && !isValidation m && (containsAny p ["timemax", "timemin"] ||
    !isInsufficientScope m && (mixedScope p m ||
      !isTriggerPermission m && (mixedTrigger p m ||
        !isRateLimited m && (containsAny p ["rate_limit", "ratelimited", "429"] ||
          isGateway m && !isEmbeddedProviderFailure m && containsAny p PROVIDER_NAMES))))

section Arms

variable {n v v' s s' t t' r r' g e x c k : Bool}

theorem firstArm_validation : firstArm false false s t r g c k ≠ .Validation := by
  simp only [firstArm, Bool.false_eq_true, if_false]
  split_ifs <;> nofun

theorem firstArm_scope : firstArm false false false t r g c k ≠ .InsufficientScope := by
  simp only [firstArm, Bool.false_eq_true, if_false]
  split_ifs <;> nofun

theorem firstArm_trigger : firstArm false false false false r g c k ≠ .TriggerPermission := by
  simp only [firstArm, Bool.false_eq_true, if_false]
  split_ifs <;> nofun

theorem firstArm_rate : firstArm false false false false false g c k ≠ .RateLimited := by
  simp only [firstArm, Bool.false_eq_true, if_false]
  split_ifs <;> nofun

theorem firstArm_gateway : firstArm false false false false false false c k ≠ .Gateway := by
  simp only [firstArm, Bool.false_eq_true, if_false]
  split_ifs <;> nofun

/-- What an arm finds in addition changes the outcome exactly when no arm up to it has matched. -/
theorem firstArm_eq_iff :
    firstArm n (v || v') (s || s') (t || t') (r || r')
    (g && !(e || v' || s' || t' || r' || x)) c k =
        firstArm n v s t r (g && !e) c k ↔
      (!n && !v && (v' || !s && (s' || !t && (t' || !r && (r' || g && !e && x))))) = false := by
  cases n with
  | true => simp [firstArm]
  | false =>
  cases v with
  | true => simp [firstArm]
  | false =>
  cases v' with
  | true => exact ⟨fun h => absurd h.symm firstArm_validation, fun h => by simp at h⟩
  | false =>
  cases s with
  | true => simp [firstArm]
  | false =>
  cases s' with
  | true => exact ⟨fun h => absurd h.symm firstArm_scope, fun h => by simp at h⟩
  | false =>
  cases t with
  | true => simp [firstArm]
  | false =>
  cases t' with
  | true => exact ⟨fun h => absurd h.symm firstArm_trigger, fun h => by simp at h⟩
  | false =>
  cases r with
  | true => simp [firstArm]
  | false =>
  cases r' with
  | true => exact ⟨fun h => absurd h.symm firstArm_rate, fun h => by simp at h⟩
  | false =>
  -- no arm up to the gateway's has matched
  cases g with
  | false => simp
  | true =>
  cases e with
  | true => simp
  | false =>
  cases x with
  | false => simp
  | true => simpa [firstArm] using firstArm_gateway

end Arms

section Reports

variable {tool path message : String}

/-- A provider named by the path counts as one named by the message. -/
theorem isEmbeddedProviderFailure_wrapped (hpath : ExecutePath tool path) :
    isEmbeddedProviderFailure (wrapped path message) =
      (isEmbeddedProviderFailure (toAsciiLowercase message) ||
        containsAny (toAsciiLowercase path) ["timemax", "timemin"] ||
        mixedScope (toAsciiLowercase path) (toAsciiLowercase message) ||
        mixedTrigger (toAsciiLowercase path) (toAsciiLowercase message) ||
        containsAny (toAsciiLowercase path) ["rate_limit", "ratelimited", "429"] ||
        containsAny (toAsciiLowercase path) PROVIDER_NAMES) := by
  rw [isEmbeddedProviderFailure, isValidation_wrapped hpath, isInsufficientScope_wrapped hpath,
    isTriggerPermission_wrapped hpath, isRateLimited_wrapped hpath, isActionNotFound_wrapped hpath,
    isComposioPlatform_wrapped hpath, containsAny_words (by decide), isEmbeddedProviderFailure,
    PROVIDER_NAMES]
  simp only [Bool.or_assoc, Bool.or_comm, Bool.or_left_comm]

/-- The rendered failure has the class of its message, unless the path drowns it. -/
theorem classify_wrapped_iff (hpath : ExecutePath tool path) :
    classifyComposioError tool (Direct.Error.transport path message).text =
      classifyComposioError tool message ↔ drowned path message = false := by
  rw [classifyComposioError_eq, classifyComposioError_eq]
  have hlower : toAsciiLowercase (Direct.Error.transport path message).text =
    wrapped path message := rfl
  rw [hlower, isActionNotFound_wrapped hpath, isValidation_wrapped hpath,
    isInsufficientScope_wrapped hpath, isTriggerPermission_wrapped hpath,
    isRateLimited_wrapped hpath, isGateway_wrapped hpath, isEmbeddedProviderFailure_wrapped hpath,
    isComposioPlatform_wrapped hpath]
  exact firstArm_eq_iff

/-- The class a message on the bus starts with. -/
def ReportedAs (text : String) (errorClass : ErrorClass) : Prop :=
  startsWith text s!"[composio:error:{errorClass.asStr}]" = true

/-- The class that is reported is the message's own. -/
def ReportsClass (tool path message : String) : Prop :=
  ReportedAs (executeFailure tool (.transport path message)) (classifyComposioError tool message)

/-- No name of a class holds the bracket that ends it. -/
theorem asStr_inj {a b : ErrorClass} {rest rest' : List Char}
    (h : a.asStr.toList ++ ']' :: rest = b.asStr.toList ++ ']' :: rest') : a = b := by
  have hfree : ∀ c : ErrorClass, ∀ rest, (c.asStr.toList ++ ']' :: rest).takeWhile (· != ']') =
      c.asStr.toList := by
    intro c rest
    cases c <;> rfl
  have hname : a.asStr = b.asStr := by
    apply String.toList_injective
    rw [← hfree a rest, ← hfree b rest', h]
  cases a <;> cases b <;> first | rfl | exact absurd hname (by decide)

/-- A formatted failure starts with its class. -/
theorem exists_rest_formatProviderError (tool raw : String) :
    ∃ rest, (formatProviderError tool raw).toList = "[composio:error:".toList ++
      ((classifyComposioError tool raw).asStr.toList ++ ']' :: rest) := by
  unfold formatProviderError
  generalize classifyComposioError tool raw = errorClass
  have hbracket : ("] " : String).toList = ']' :: [' '] := rfl
  refine ⟨' ' :: (classMessage tool (trim raw) errorClass).toList, ?_⟩
  simp only [toString, String.toList_append, List.append_assoc, hbracket, List.cons_append,
    List.nil_append]

/-- A failure is reported as one class, the one it is classified as. -/
theorem reportedAs_executeFailure {error : Direct.Error} {errorClass : ErrorClass} :
    ReportedAs (executeFailure tool error) errorClass ↔
      classifyComposioError tool error.text = errorClass := by
  have htext : ∀ errorClass : ErrorClass, (s!"[composio:error:{errorClass.asStr}]").toList =
      "[composio:error:".toList ++ (errorClass.asStr.toList ++ [']']) := by
    intro errorClass
    simp only [String.toList_append, List.append_assoc]
    rfl
  obtain ⟨rest, hrest⟩ := exists_rest_formatProviderError tool error.text
  rw [ReportedAs, executeFailure, startsWith_iff, hrest, htext]
  constructor
  · rintro ⟨tail, htail⟩
    rw [List.append_assoc, List.append_cancel_left_eq, List.append_assoc,
      List.singleton_append] at htail
    exact asStr_inj htail
  · rintro rfl
    exact ⟨rest, by rw [List.append_assoc, List.append_assoc, List.singleton_append]⟩

theorem reportsClass_iff_drowned (hpath : ExecutePath tool path) :
    ReportsClass tool path message ↔ drowned path message = false :=
  reportedAs_executeFailure.trans (classify_wrapped_iff hpath)

/-- On either route the class of a failed request is its message's, unless the path drowns it. -/
theorem reportsClass_iff (hpath : ExecutePath tool path) :
    ReportsClass tool path message ↔ ¬ drowned path message = true := by
  rw [reportsClass_iff_drowned hpath, Bool.not_eq_true]

/-- The path of the direct route for one action. -/
theorem executePath_github : ExecutePath "GITHUB_LIST_REPOS" "/tools/execute/GITHUB_LIST_REPOS" :=
  .inr ⟨"GITHUB_LIST_REPOS", by decide +kernel, by decide +kernel⟩

/-- A bad gateway on the direct route. -/
theorem reportsClass_github :
    ReportsClass "GITHUB_LIST_REPOS" "/tools/execute/GITHUB_LIST_REPOS" "Backend returned 502" ↔
      ¬ drowned "/tools/execute/GITHUB_LIST_REPOS" "Backend returned 502" = true :=
  reportsClass_iff executePath_github

/-- On the proxy route a bad gateway is none: the path names a provider. -/
theorem not_reportsClass_proxy : ¬ ReportsClass "GITHUB_LIST_REPOS"
    "/agent-integrations/composio/execute" "Backend returned 502" := by
  rw [reportsClass_iff_drowned (.inl rfl)]
  decide +kernel

end Reports

end Execute
