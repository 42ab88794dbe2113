/-
# What a webhook check accepts, and how it refuses

A host reads the outcome of the check in two ways: whether to act on the body,
and which error to answer with.  The first depends on the signature header only
through the entries a digest can be read from, so that a sender may rotate its
secret and add schemes without a delivery being dropped.  The second is the
error of the first check to fail, in a fixed order.
-/
import TinyConnectors.Base64
import TinyConnectors.Webhook.Verify

namespace Webhook

open RustStr

/-- `e` is the refusal of the first check in the list that fails. -/
inductive FirstFailing {ε : Type} : List (ε → Prop) → ε → Prop
  | here {check : ε → Prop} {rest : List (ε → Prop)} {e : ε} (h : check e) :
    FirstFailing (check :: rest) e
  | later {check : ε → Prop} {rest : List (ε → Prop)} {e : ε} (hpassed : ∀ e', ¬ check e')
    (h : FirstFailing rest e) : FirstFailing (check :: rest) e

section FirstFailing

variable {ε : Type} {check : ε → Prop} {rest : List (ε → Prop)} {e : ε}

theorem not_firstFailing_nil : ¬ FirstFailing ([] : List (ε → Prop)) e := by
  intro h
  cases h

theorem firstFailing_cons :
    FirstFailing (check :: rest) e ↔ check e ∨ (∀ e', ¬ check e') ∧ FirstFailing rest e := by
  constructor
  · intro h
    cases h with
    | here h => exact Or.inl h
    | later hpassed h => exact Or.inr ⟨hpassed, h⟩
  · rintro (h | ⟨hpassed, h⟩)
    · exact .here h
    · exact .later hpassed h

section Condition

variable {P : Prop} {x : ε}

/-- A check whose condition holds decides the error. -/
theorem firstFailing_of_fails (hP : P) :
    FirstFailing ((fun e => P ∧ e = x) :: rest) e ↔ x = e := by
  rw [firstFailing_cons]
  constructor
  · rintro (⟨_, rfl⟩ | ⟨hpassed, _⟩)
    · rfl
    · exact absurd ⟨hP, rfl⟩ (hpassed x)
  · rintro rfl
    exact Or.inl ⟨hP, rfl⟩

/-- A check whose condition does not hold leaves the error to the next ones. -/
theorem firstFailing_of_passes (hP : ¬ P) :
    FirstFailing ((fun e => P ∧ e = x) :: rest) e ↔ FirstFailing rest e := by
  rw [firstFailing_cons]
  constructor
  · rintro (⟨h, _⟩ | ⟨_, h⟩)
    · exact absurd h hP
    · exact h
  · intro h
    exact Or.inr ⟨fun _ hfails => hP hfails.1, h⟩

end Condition

end FirstFailing

/-! ## The entries of the signature header -/

/-- The entries of a signature header. -/
def entries (signature : String) : List String := splitWhitespace (trim signature)

/-- An entry is bare, or it stands under `v1`. -/
def InScheme (entry encoded : String) : Prop :=
  (',' ∉ entry.toList ∧ entry = encoded) ∨ entry = "v1," ++ encoded

section Entries

variable (decodeBase64 : String → Option (List UInt8))

/-- The digest an entry decodes to. -/
def Offers (entry : String) (digest : List UInt8) : Prop :=
  ∃ encoded, InScheme entry encoded ∧ decodeBase64 encoded = some digest

/-- An entry of the scheme that is not base64. -/
def Undecodable (entry : String) : Prop :=
  ∃ encoded, InScheme entry encoded ∧ decodeBase64 encoded = none

variable {decodeBase64}

theorem encodedOf_eq_some {entry encoded : String} :
    encodedOf entry = some encoded ↔ InScheme entry encoded := by
  unfold encodedOf InScheme splitOnce
  rcases hsplit : splitOnceChars ',' entry.toList with _ | ⟨scheme, rest⟩
  · have hbare : ',' ∉ entry.toList := splitOnceChars_eq_none.mp hsplit
    have hplain : entry ≠ "v1," ++ encoded := by
      intro h
      rw [h] at hbare
      simp at hbare
    simp [hbare, hplain]
  · obtain ⟨hentry, hscheme⟩ := splitOnceChars_eq_some.mp hsplit
    have hcomma : ',' ∈ entry.toList := by simp [hentry]
    simp only [Option.map_some, hcomma, not_true_eq_false, false_and, false_or]
    constructor
    · intro h
      split at h
      · rename_i hv1
        rw [Option.some.injEq] at h
        have hscheme : scheme = ['v', '1'] := by
          rw [← String.toList_ofList (l := scheme), hv1]
          rfl
        rw [← String.toList_inj, hentry, hscheme, ← h]
        simp
      · exact absurd h (by simp)
    · intro h
      have hv1 : splitOnceChars ',' entry.toList = some (['v', '1'], encoded.toList) := by
        rw [splitOnceChars_eq_some, h, String.toList_append]
        exact ⟨rfl, by decide⟩
      rw [hsplit, Option.some.injEq, Prod.mk.injEq] at hv1
      rw [hv1.1, hv1.2, String.ofList_toList]
      rfl

theorem mem_candidates {signature : String} {digest : List UInt8} :
    digest ∈ candidates decodeBase64 (trim signature) ↔
    ∃ entry ∈ entries signature, Offers decodeBase64 entry digest := by
  simp only [candidates, decodedEntries, List.mem_filterMap, List.mem_map, id_eq,
    encodedOf_eq_some, entries, Offers]
  constructor
  · rintro ⟨_, ⟨encoded, ⟨entry, hentry, hscheme⟩, rfl⟩, hdecode⟩
    exact ⟨entry, hentry, encoded, hscheme, hdecode⟩
  · rintro ⟨entry, hentry, encoded, hscheme, hdecode⟩
    exact ⟨some digest, ⟨encoded, ⟨entry, hentry, hscheme⟩, hdecode⟩, rfl⟩

theorem none_mem_decodedEntries {signature : String} :
    none ∈ decodedEntries decodeBase64 (trim signature) ↔
    ∃ entry ∈ entries signature, Undecodable decodeBase64 entry := by
  simp only [decodedEntries, List.mem_filterMap, List.mem_map, encodedOf_eq_some, entries,
    Undecodable]
  constructor
  · rintro ⟨encoded, ⟨entry, hentry, hscheme⟩, hdecode⟩
    exact ⟨entry, hentry, encoded, hscheme, hdecode⟩
  · rintro ⟨entry, hentry, encoded, hscheme, hdecode⟩
    exact ⟨encoded, ⟨entry, hentry, hscheme⟩, hdecode⟩

theorem candidates_eq_nil {signature : String} :
    candidates decodeBase64 (trim signature) = [] ↔
      ∀ entry ∈ entries signature, ∀ digest, ¬ Offers decodeBase64 entry digest := by
  rw [List.eq_nil_iff_forall_not_mem]
  constructor
  · intro h entry hentry digest hoffers
    exact h digest (mem_candidates.mpr ⟨entry, hentry, hoffers⟩)
  · intro h digest hmem
    obtain ⟨entry, hentry, hoffers⟩ := mem_candidates.mp hmem
    exact h entry hentry digest hoffers

end Entries

/-! ## Acceptance and refusal -/

/-- The distance of two times. -/
theorem absDiff_eq (a b : ℕ) : (absDiff a b : ℤ) = |(a : ℤ) - b| := by
  unfold absDiff
  split
  · rw [abs_of_nonpos (by omega)]
    omega
  · rw [abs_of_nonneg (by omega)]
    omega

/-- The distance is no larger than the times, so it overflows no width they fit. -/
theorem absDiff_le_max (a b : ℕ) : absDiff a b ≤ max a b := by
  unfold absDiff
  split
  · omega
  · omega

section Verify

variable (decodeBase64 : String → Option (List UInt8)) (mac : List UInt8 → List UInt8 → List UInt8)
  (secret : String) (headers : WebhookHeaders)
  (body : List UInt8) (now tolerance : ℕ)

/-- The digest the sender of this delivery would have computed. -/
def expected : List UInt8 :=
  mac (asBytes secret) (signedContent (trim headers.id) (trim headers.timestamp) body)

/-- A delivery that is complete, in time and signed. -/
structure Genuine : Prop where
  named : trim headers.id ≠ ""
  timed : trim headers.timestamp ≠ ""
  sealed : trim headers.signature ≠ ""
  keyed : trim secret ≠ ""
  timely : ∃ sent_at, parseU64 (trim headers.timestamp) = some sent_at ∧
    |(now : ℤ) - sent_at| ≤ tolerance
  signed : ∃ entry ∈ entries headers.signature,
    Offers decodeBase64 entry (expected mac secret headers body)

/-- The checks in their order, each with the error it refuses with. -/
def checks : List (WebhookError → Prop) :=
  [fun e => trim headers.id = "" ∧ e = .MissingHeader headerId,
    fun e => trim headers.timestamp = "" ∧ e = .MissingHeader headerTimestamp,
    fun e => trim headers.signature = "" ∧ e = .MissingHeader headerSignature,
    fun e => trim secret = "" ∧ e = .EmptySecret,
    fun e => parseU64 (trim headers.timestamp) = none ∧ e = .MalformedHeader headerTimestamp,
    fun e => ∃ sent_at skew_secs : ℕ, parseU64 (trim headers.timestamp) = some sent_at ∧
      (skew_secs : ℤ) = |(now : ℤ) - sent_at| ∧ tolerance < skew_secs ∧
      e = .StaleTimestamp skew_secs tolerance,
    fun e => ((∀ entry ∈ entries headers.signature, ∀ digest, ¬ Offers decodeBase64 entry digest) ∧
      ∃ entry ∈ entries headers.signature,
      Undecodable decodeBase64 entry) ∧ e = .MalformedHeader headerSignature,
    fun e => (¬ ∃ entry ∈ entries headers.signature,
      Offers decodeBase64 entry (expected mac secret headers body)) ∧ e = .SignatureMismatch]

variable {decodeBase64 mac secret headers body now tolerance}

theorem verify_eq_ok_iff_genuine :
    verify decodeBase64 mac secret headers body now tolerance = .ok () ↔
      Genuine decodeBase64 mac secret headers body now tolerance := by
  rw [verify_eq_ok_iff, mem_candidates]
  have htimely : Timely now tolerance (trim headers.timestamp) ↔
      ∃ sent_at, parseU64 (trim headers.timestamp) = some sent_at ∧
        |(now : ℤ) - sent_at| ≤ tolerance := by
    unfold Timely
    refine exists_congr fun sent_at => and_congr_right fun _ => ?_
    rw [← absDiff_eq, Int.ofNat_le]
  rw [htimely]
  constructor
  · rintro ⟨hid, htimestamp, hsignature, hsecret, hsent, hsigned⟩
    exact ⟨hid, htimestamp, hsignature, hsecret, hsent, hsigned⟩
  · rintro ⟨hid, htimestamp, hsignature, hsecret, hsent, hsigned⟩
    exact ⟨hid, htimestamp, hsignature, hsecret, hsent, hsigned⟩

section Present

variable {α : Type} {value header : String} {f : String → Except WebhookError α}

/-- A header that is there is handed on. -/
theorem present_bind_of_ne (h : trim value ≠ "") :
    (present value header >>= f) = f (trim value) := by
  rw [present_of_ne h]
  rfl

/-- A blank header ends the check. -/
theorem present_bind_of_blank (h : trim value = "") :
    (present value header >>= f) = .error (.MissingHeader header) := by
  rw [present_of_blank h]
  rfl

end Present

/-- The skew check, on a timestamp that was read. -/
theorem stale_iff {sent_at : ℕ} {e : WebhookError} :
    (∃ sent skew_secs : ℕ, some sent_at = some sent ∧ (skew_secs : ℤ) = |(now : ℤ) - sent| ∧
      tolerance < skew_secs ∧ e = .StaleTimestamp skew_secs tolerance) ↔
    tolerance < absDiff now sent_at ∧ e = .StaleTimestamp (absDiff now sent_at) tolerance := by
  constructor
  · rintro ⟨sent, skew_secs, hsent, hskew, hstale, rfl⟩
    obtain rfl : sent_at = sent := Option.some.inj hsent
    rw [← absDiff_eq, Int.ofNat_inj] at hskew
    subst hskew
    exact ⟨hstale, rfl⟩
  · rintro ⟨hstale, rfl⟩
    exact ⟨sent_at, absDiff now sent_at, rfl, absDiff_eq now sent_at, hstale, rfl⟩

theorem verify_eq_error_iff {e : WebhookError} :
    verify decodeBase64 mac secret headers body now tolerance = .error e ↔
      FirstFailing (checks decodeBase64 mac secret headers body now tolerance) e := by
  unfold verify checks
  -- each check of the code refuses, or leaves the ones after it
  by_cases hid : trim headers.id = ""
  · rw [firstFailing_of_fails hid, present_bind_of_blank hid, Except.error.injEq]
  rw [firstFailing_of_passes hid, present_bind_of_ne hid]
  by_cases htimestamp : trim headers.timestamp = ""
  · rw [firstFailing_of_fails htimestamp, present_bind_of_blank htimestamp, Except.error.injEq]
  rw [firstFailing_of_passes htimestamp, present_bind_of_ne htimestamp]
  by_cases hsignature : trim headers.signature = ""
  · rw [firstFailing_of_fails hsignature, present_bind_of_blank hsignature, Except.error.injEq]
  rw [firstFailing_of_passes hsignature, present_bind_of_ne hsignature]
  by_cases hsecret : trim secret = ""
  · rw [firstFailing_of_fails hsecret, if_pos (by simpa using hsecret), Except.error.injEq]
  rw [firstFailing_of_passes hsecret, if_neg (by simpa using hsecret)]
  rcases hparse : parseU64 (trim headers.timestamp) with _ | sent_at
  · rw [firstFailing_of_fails rfl, Except.error.injEq]
  rw [firstFailing_of_passes (by simp), firstFailing_cons]
  simp only [stale_iff]
  by_cases hstale : tolerance < absDiff now sent_at
  · rw [if_pos hstale, Except.error.injEq]
    constructor
    · rintro rfl
      exact Or.inl ⟨hstale, rfl⟩
    · rintro (⟨_, rfl⟩ | ⟨hpassed, _⟩)
      · rfl
      · exact absurd ⟨hstale, rfl⟩ (hpassed _)
  rw [if_neg hstale]
  simp only [hstale, false_and, false_or, not_false_eq_true, implies_true, true_and]
  rw [← candidates_eq_nil, ← none_mem_decodedEntries, ← mem_candidates]
  by_cases hbare : candidates decodeBase64 (trim headers.signature) = [] ∧
      none ∈ decodedEntries decodeBase64 (trim headers.signature)
  · rw [firstFailing_of_fails hbare, if_pos (by simpa using hbare), Except.error.injEq]
  rw [firstFailing_of_passes hbare, if_neg (by simpa using hbare)]
  by_cases hsigned : expected mac secret headers body ∈ candidates decodeBase64
    (trim headers.signature)
  · rw [firstFailing_of_passes (not_not_intro hsigned), if_pos (by simpa [expected] using hsigned)]
    exact iff_of_false (by simp) not_firstFailing_nil
  · rw [firstFailing_of_fails hsigned, if_neg (by simpa [expected] using hsigned),
      Except.error.injEq]

/-- Acceptance reads the signature header through the entries that offer a
digest, and asks of each only whether it is there. -/
theorem Genuine.of_entries {id timestamp signature signature' : String}
    (h : Genuine decodeBase64 mac secret ⟨id, timestamp, signature⟩ body now tolerance)
    (hsame : ∀ entry, (∃ digest, Offers decodeBase64 entry digest) → entry ∈ entries signature →
      entry ∈ entries signature') :
    Genuine decodeBase64 mac secret ⟨id, timestamp, signature'⟩ body now tolerance := by
  obtain ⟨entry, hentry, hoffers⟩ := h.signed
  have hmem : entry ∈ entries signature' := hsame entry ⟨_, hoffers⟩ hentry
  -- a header with an entry is not blank
  have hsealed : trim signature' ≠ "" := by
    intro hblank
    have hnone : splitWhitespace "" = [] := by decide
    rw [entries, hblank, hnone] at hmem
    exact absurd hmem List.not_mem_nil
  have hexpected : expected mac secret ⟨id, timestamp, signature'⟩ body =
    expected mac secret ⟨id, timestamp, signature⟩ body := rfl
  refine ⟨h.named, h.timed, hsealed, h.keyed, h.timely, entry, hmem, ?_⟩
  rw [hexpected]
  exact hoffers

variable (decodeBase64 mac secret headers body now tolerance) in
/-- The check accepts the genuine deliveries, whatever else stands in the
signature header, and refuses every other with the error of the first check it
fails. -/
theorem verifiesGenuine :
    (verify decodeBase64 mac secret headers body now tolerance = .ok () ↔
      Genuine decodeBase64 mac secret headers body now tolerance) ∧
    (∀ signature, (∀ entry, (∃ digest, Offers decodeBase64 entry digest) →
        (entry ∈ entries headers.signature ↔ entry ∈ entries signature)) →
      (verify decodeBase64 mac secret headers body now tolerance = .ok () ↔
        verify decodeBase64 mac secret ⟨headers.id, headers.timestamp,
        signature⟩ body now tolerance = .ok ())) ∧
    (∀ e, verify decodeBase64 mac secret headers body now tolerance = .error e ↔
      FirstFailing (checks decodeBase64 mac secret headers body now tolerance) e) ∧
    ∀ sent_at, absDiff now sent_at ≤ max now sent_at := by
  refine ⟨verify_eq_ok_iff_genuine, ?_, fun _ => verify_eq_error_iff, absDiff_le_max now⟩
  intro signature hsame
  rcases headers with ⟨id, timestamp, own⟩
  rw [verify_eq_ok_iff_genuine, verify_eq_ok_iff_genuine]
  constructor
  · intro h
    exact h.of_entries fun entry hoffers hentry => (hsame entry hoffers).mp hentry
  · intro h
    exact h.of_entries fun entry hoffers hentry => (hsame entry hoffers).mpr hentry

/-- A rotated secret: the header has the entry of each secret, and one of a
newer scheme. -/
example : verify (fun encoded => Base64.decode encoded.toList)
    (fun key message => key ++ message) "ab"
    ⟨"i", "7", "v1,AAAA v2,AAAA v1,YWJpLjcu"⟩ [] 9 5 = .ok () := by decide +kernel

end Verify

end Webhook
