/-
# Verifying a webhook delivery

The check a host runs on a delivery before it reads the body: three headers, a
timestamp within tolerance of the host's clock, and a `v1` signature over
`id.timestamp.body` keyed with the secret's own bytes.

The message authentication code is a parameter, `mac key message`, and so is the
decoding of base64.  HMAC takes a key of any length, so building it never fails,
and comparing a tag with it accepts the full tag and nothing else.
-/
import TinyConnectors.RustStr

namespace Webhook

open RustStr

/-- `HEADER_ID`, `HEADER_TIMESTAMP` and `HEADER_SIGNATURE`. -/
def headerId : String := "webhook-id"
@[inherit_doc headerId] def headerTimestamp : String := "webhook-timestamp"
@[inherit_doc headerId] def headerSignature : String := "webhook-signature"

structure WebhookHeaders where
  id : String
  timestamp : String
  signature : String
  deriving DecidableEq

inductive WebhookError where
  | MissingHeader (header : String)
  | MalformedHeader (header : String)
  | EmptySecret
  | StaleTimestamp (skew_secs tolerance_secs : ℕ)
  | SignatureMismatch
  | UndecodableBody (reason : String)
  deriving DecidableEq

/-- A header's trimmed value, or the error naming it when blank. -/
def present (value header : String) : Except WebhookError String :=
  if (trim value).isEmpty then .error (.MissingHeader header) else .ok (trim value)

/-- `u64::abs_diff`. -/
def absDiff (a b : ℕ) : ℕ := if a ≤ b then b - a else a - b

/-- What an entry of the signature header has for `v1`; `none` under another scheme. -/
def encodedOf (entry : String) : Option String :=
  match splitOnce entry ',' with
  | some (scheme, encoded) => if scheme = "v1" then some encoded else none
  | none => some entry

variable (decodeBase64 : String → Option (List UInt8))

/-- The decoding of each `v1` entry, `none` where it is not base64. -/
def decodedEntries (signature : String) : List (Option (List UInt8)) :=
  ((splitWhitespace signature).filterMap encodedOf).map decodeBase64

/-- The digests the signature header offers. -/
def candidates (signature : String) : List (List UInt8) :=
  (decodedEntries decodeBase64 signature).filterMap id

/-- The `.` between the parts of the signed content. -/
def dot : UInt8 := 46

/-- The signed content: `id.timestamp.body`. -/
def signedContent (id timestamp : String) (body : List UInt8) : List UInt8 :=
  asBytes id ++ dot :: (asBytes timestamp ++ dot :: body)

variable (mac : List UInt8 → List UInt8 → List UInt8)

/-- Check that a delivery was signed with `secret` and sent recently. -/
def verify (secret : String) (headers : WebhookHeaders) (body : List UInt8)
    (now_unix_secs tolerance_secs : ℕ) : Except WebhookError Unit := do
  let id ← present headers.id headerId
  let timestamp ← present headers.timestamp headerTimestamp
  let signature ← present headers.signature headerSignature
  if (trim secret).isEmpty then .error .EmptySecret
  else
    match parseU64 timestamp with
    | none => .error (.MalformedHeader headerTimestamp)
    | some sent_at =>
      let skew_secs := absDiff now_unix_secs sent_at
      if skew_secs > tolerance_secs then .error (.StaleTimestamp skew_secs tolerance_secs)
      -- an entry that is not base64 matters only where no other can be read
      else if (candidates decodeBase64 signature).isEmpty ∧
          none ∈ decodedEntries decodeBase64 signature then
        .error (.MalformedHeader headerSignature)
      else if (candidates decodeBase64 signature).any
          (· = mac (asBytes secret) (signedContent id timestamp body)) then .ok ()
      else .error .SignatureMismatch

/-! ## When a delivery is accepted -/

theorem present_of_ne {value header : String} (h : trim value ≠ "") :
    present value header = .ok (trim value) := by
  rw [present, if_neg]
  simpa using h

theorem present_of_blank {value header : String} (h : trim value = "") :
    present value header = .error (.MissingHeader header) := by
  rw [present, if_pos]
  simpa using h

/-- The timestamp text is a number of seconds within tolerance of the clock. -/
def Timely (now_unix_secs tolerance_secs : ℕ) (timestamp : String) : Prop :=
  ∃ sent_at, parseU64 timestamp = some sent_at ∧ absDiff now_unix_secs sent_at ≤ tolerance_secs

variable {decodeBase64 mac}

/-- A delivery is accepted exactly when no header is blank, the secret is not
blank, the timestamp is timely and one of the digests is that of the content. -/
theorem verify_eq_ok_iff {secret : String} {headers : WebhookHeaders} {body : List UInt8}
    {now tolerance : ℕ} :
    verify decodeBase64 mac secret headers body now tolerance = .ok () ↔
      trim headers.id ≠ "" ∧ trim headers.timestamp ≠ "" ∧ trim headers.signature ≠ "" ∧
        trim secret ≠ "" ∧ Timely now tolerance (trim headers.timestamp) ∧
        mac (asBytes secret) (signedContent (trim headers.id) (trim headers.timestamp) body)
          ∈ candidates decodeBase64 (trim headers.signature) := by
  by_cases hid : trim headers.id = ""
  · simp [verify, present_of_blank hid, hid, bind, Except.bind]
  by_cases htimestamp : trim headers.timestamp = ""
  · simp [verify, present_of_ne hid, present_of_blank htimestamp, htimestamp, bind, Except.bind]
  by_cases hsignature : trim headers.signature = ""
  · simp [verify, present_of_ne hid, present_of_ne htimestamp, present_of_blank hsignature,
      hsignature, bind, Except.bind]
  rw [verify, present_of_ne hid, present_of_ne htimestamp, present_of_ne hsignature]
  by_cases hsecret : trim secret = ""
  · simp [hsecret, bind, Except.bind]
  rcases hparse : parseU64 (trim headers.timestamp) with _ | sent_at
  · simp [hsecret, hparse, Timely, bind, Except.bind]
  by_cases hstale : absDiff now sent_at > tolerance
  · have hlate : ¬ absDiff now sent_at ≤ tolerance := by omega
    simp [hsecret, hparse, Timely, hstale, hlate, bind, Except.bind]
  have htimely : absDiff now sent_at ≤ tolerance := by omega
  by_cases hmatch : mac (asBytes secret)
      (signedContent (trim headers.id) (trim headers.timestamp) body)
        ∈ candidates decodeBase64 (trim headers.signature)
  · -- a digest that matches is a digest, so the header is not malformed
    have hne : candidates decodeBase64 (trim headers.signature) ≠ [] := List.ne_nil_of_mem hmatch
    simp [hid, htimestamp, hsignature, hsecret, hparse, Timely, htimely, hmatch, hne, bind,
      Except.bind]
  · have hfresh : ¬ tolerance < absDiff now sent_at := by omega
    simp only [hsecret, hparse, hfresh, hmatch, bind, Except.bind,
      String.isEmpty_iff, List.any_eq_true, decide_eq_true_iff, exists_eq_right, if_false,
      and_false, iff_false]
    split
    · simp
    · simp

end Webhook
