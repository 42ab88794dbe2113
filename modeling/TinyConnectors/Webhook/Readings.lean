/-
# What a webhook signature covers

The signed content joins the id, the timestamp and the body with `.`, and
neither the id nor the body is free of that character.  So one content can be
cut in several ways, and a signature covers every delivery whose parts join to
the content it was made for.  `coversOne_iff` says when that is one delivery
only: no other cut of the content has a clean text before a timely timestamp.
-/
import TinyConnectors.Base64
import TinyConnectors.Webhook.Verify

namespace Webhook

open RustStr

/-- A delivery as the sender signed it. -/
structure Delivery where
  id : String
  timestamp : String
  body : List UInt8
  deriving DecidableEq

def Delivery.content (d : Delivery) : List UInt8 := signedContent d.id d.timestamp d.body

/-- Under one key no two messages have the same code. -/
def CollisionFree (mac : List UInt8 → List UInt8 → List UInt8) : Prop :=
  ∀ key, Function.Injective (mac key)

/-- What is written as base64 is read back, and holds no white space. -/
structure Codec (encodeBase64 : List UInt8 → String) (decodeBase64 : String → Option (List UInt8)) :
    Prop where
  decode_encode : ∀ digest, decodeBase64 (encodeBase64 digest) = some digest
  solid : ∀ digest, ∀ c ∈ (encodeBase64 digest).toList, isWhitespace c = false

section Covers

variable (decodeBase64 : String → Option (List UInt8)) (mac : List UInt8 → List UInt8 → List UInt8)
  (secret : String)

/-- The digest that stands for the presented delivery is the one the sender
computed for `sent`. -/
def SignedAs (sent : Delivery) (headers : WebhookHeaders) (body : List UInt8) : Prop :=
  ∃ digest ∈ candidates decodeBase64 (trim headers.signature),
    digest = mac (asBytes secret) (signedContent (trim headers.id) (trim headers.timestamp) body) ∧
      digest = mac (asBytes secret) sent.content

/-- The signature of `sent` is taken for `sent` alone, and within tolerance of
its own timestamp. -/
def CoversOne (now tolerance : ℕ) (sent : Delivery) : Prop :=
  ∀ headers body, verify decodeBase64 mac secret headers body now tolerance = .ok () →
    SignedAs decodeBase64 mac secret sent headers body →
      trim headers.id = sent.id ∧ trim headers.timestamp = sent.timestamp ∧ body = sent.body ∧
        Timely now tolerance sent.timestamp

end Covers

/-- Where two dots of the content enclose a timely timestamp and a clean text
stands before them, they are the two the sender put there. -/
def OneReading (now tolerance : ℕ) (sent : Delivery) : Prop :=
  ∀ before between after, asBytes before ++ dot :: (asBytes between ++ dot :: after) =
    sent.content →
    trim before = before → before ≠ "" → Timely now tolerance between →
      before = sent.id ∧ between = sent.timestamp ∧ after = sent.body

/-! ## The header with one `v1` entry -/

section Entry

variable (encodeBase64 : List UInt8 → String) {decodeBase64 : String → Option (List UInt8)}

/-- The signature header as a sender writes it. -/
def v1Entry (digest : List UInt8) : String := "v1," ++ encodeBase64 digest

variable {encodeBase64}

theorem isWhitespace_of_mem_v1Entry (hcodec : Codec encodeBase64 decodeBase64) {digest : List UInt8}
    {c : Char} (hc : c ∈ (v1Entry encodeBase64 digest).toList) : isWhitespace c = false := by
  rw [v1Entry, String.toList_append, List.mem_append] at hc
  rcases hc with hscheme | hencoded
  · rw [show "v1,".toList = ['v', '1', ','] from rfl] at hscheme
    simp only [List.mem_cons, List.not_mem_nil, or_false] at hscheme
    rcases hscheme with rfl | rfl | rfl
    · decide
    · decide
    · decide
  · exact hcodec.solid digest c hencoded

theorem v1Entry_ne_nil (digest : List UInt8) : (v1Entry encodeBase64 digest).toList ≠ [] := by
  simp [v1Entry]

theorem trim_v1Entry (hcodec : Codec encodeBase64 decodeBase64) (digest : List UInt8) :
    trim (v1Entry encodeBase64 digest) = v1Entry encodeBase64 digest := by
  rw [← String.toList_inj, toList_trim]
  apply trimChars_eq_self
  apply unpadded_of_forall
  intro c hc
  exact isWhitespace_of_mem_v1Entry hcodec hc

theorem encodedOf_v1Entry (digest : List UInt8) :
    encodedOf (v1Entry encodeBase64 digest) = some (encodeBase64 digest) := by
  simp [encodedOf, v1Entry, splitOnce, splitOnceChars]

theorem candidates_v1Entry (hcodec : Codec encodeBase64 decodeBase64) (digest : List UInt8) :
    candidates decodeBase64 (v1Entry encodeBase64 digest) = [digest] := by
  have hsplit : splitWhitespace (v1Entry encodeBase64 digest) = [v1Entry encodeBase64 digest] :=
    splitWhitespace_of_word (v1Entry_ne_nil digest) fun _ hc =>
      isWhitespace_of_mem_v1Entry hcodec hc
  simp [candidates, decodedEntries, hsplit, encodedOf_v1Entry, hcodec.decode_encode]

end Entry

/-! ## One reading, one delivery -/

section Readings

variable {encodeBase64 : List UInt8 → String} {decodeBase64 : String → Option (List UInt8)}
  {mac : List UInt8 → List UInt8 → List UInt8} {secret : String} {now tolerance : ℕ}
    {sent : Delivery}

/-- Whoever holds the signature of a content gets every clean, timely cut of it accepted. -/
theorem verify_of_reading (hcodec : Codec encodeBase64 decodeBase64) (hsecret : trim secret ≠ "")
    {before between : String} {after : List UInt8} (hclean : trim before = before)
    (hne : before ≠ "") (htimely : Timely now tolerance between) :
    verify decodeBase64 mac secret ⟨before, between, v1Entry encodeBase64 (mac (asBytes secret)
      (signedContent before between after))⟩ after now tolerance = .ok () := by
  obtain ⟨sent_at, hparse, hnear⟩ := htimely
  have htrim : trim between = between := trim_of_parseU64 hparse
  rw [verify_eq_ok_iff]
  simp only [hclean, htrim, trim_v1Entry hcodec, candidates_v1Entry hcodec,
    List.mem_singleton, and_true]
  refine ⟨hne, ?_, ?_, hsecret, sent_at, hparse, hnear⟩
  · intro hempty
    exact ne_nil_of_parseU64 hparse (by simp [hempty])
  · intro hempty
    exact v1Entry_ne_nil _ (String.toList_eq_nil_iff.mpr hempty)

theorem oneReading_of_coversOne (hcodec : Codec encodeBase64 decodeBase64)
    (hsecret : trim secret ≠ "") (h : CoversOne decodeBase64 mac secret now tolerance sent) :
    OneReading now tolerance sent := by
  intro before between after hcut hclean hne htimely
  obtain ⟨sent_at, hparse, hnear⟩ := htimely
  have htrim : trim between = between := trim_of_parseU64 hparse
  have hcontent : signedContent before between after = sent.content := hcut
  have hok : verify decodeBase64 mac secret ⟨before, between,
      v1Entry encodeBase64 (mac (asBytes secret)
      (signedContent before between after))⟩ after now tolerance = .ok () :=
    verify_of_reading hcodec hsecret hclean hne ⟨sent_at, hparse, hnear⟩
  obtain ⟨hid, htimestamp, hbody, _⟩ := h _ _ hok (by
    refine ⟨mac (asBytes secret) (signedContent before between after), ?_, ?_, ?_⟩
    · simp only [trim_v1Entry hcodec, candidates_v1Entry hcodec, List.mem_singleton]
    · simp only [hclean, htrim]
    · rw [hcontent])
  exact ⟨by rw [← hid, hclean], by rw [← htimestamp, htrim], hbody⟩

theorem coversOne_of_oneReading (hmac : CollisionFree mac) (h : OneReading now tolerance sent) :
    CoversOne decodeBase64 mac secret now tolerance sent := by
  intro headers body hok hsigned
  obtain ⟨hid, _, _, _, htimely, _⟩ := verify_eq_ok_iff.mp hok
  obtain ⟨digest, _, hpresented, hsent⟩ := hsigned
  have hcontent : signedContent (trim headers.id) (trim headers.timestamp) body = sent.content :=
    hmac (asBytes secret) (hpresented.symm.trans hsent)
  obtain ⟨hsame, hwhen, hbody⟩ :=
    h (trim headers.id) (trim headers.timestamp) body hcontent (trim_trim _) hid htimely
  exact ⟨hsame, hwhen, hbody, by rw [← hwhen]; exact htimely⟩

theorem coversOne_of_blank (hsecret : trim secret = "") :
    CoversOne decodeBase64 mac secret now tolerance sent := by
  intro headers body hok _
  exact absurd hsecret (verify_eq_ok_iff.mp hok).2.2.2.1

/-- A signature covers exactly one delivery if and only if its content has one reading. -/
theorem coversOne_iff (hcodec : Codec encodeBase64 decodeBase64) (hmac : CollisionFree mac) :
    CoversOne decodeBase64 mac secret now tolerance sent ↔
    trim secret = "" ∨ OneReading now tolerance sent := by
  constructor
  · intro h
    by_cases hsecret : trim secret = ""
    · exact Or.inl hsecret
    · exact Or.inr (oneReading_of_coversOne hcodec hsecret h)
  · rintro (hsecret | hreading)
    · exact coversOne_of_blank hsecret
    · exact coversOne_of_oneReading hmac hreading

end Readings

/-! ## Deliveries with one reading, and one with two -/

/-- The first occurrence of `x` cuts a list in one way. -/
theorem first_cut_unique {α : Type} {x : α} {a b c d : List α} (ha : x ∉ a) (hc : x ∉ c)
    (h : a ++ x :: b = c ++ x :: d) : a = c ∧ b = d := by
  induction a generalizing c with
  | nil =>
    rcases c with _ | ⟨z, c⟩
    · exact ⟨rfl, List.tail_eq_of_cons_eq h⟩
    · exact absurd (List.head_eq_of_cons_eq h) (fun hz => hc (hz ▸ List.mem_cons_self))
  | cons y a ih =>
    rcases c with _ | ⟨z, c⟩
    · exact absurd (List.head_eq_of_cons_eq h) (fun hy => ha (hy ▸ List.mem_cons_self))
    · obtain ⟨hac, hbd⟩ := ih (List.not_mem_of_not_mem_cons ha) (List.not_mem_of_not_mem_cons hc)
        (List.tail_eq_of_cons_eq h)
      exact ⟨by rw [List.head_eq_of_cons_eq h, hac], hbd⟩

/-- Where no part holds a dot, the two dots of the content are the sender's. -/
theorem oneReading_of_dotFree {now tolerance : ℕ} {sent : Delivery}
    (hid : dot ∉ asBytes sent.id) (htimestamp : dot ∉ asBytes sent.timestamp)
    (hbody : dot ∉ sent.body) : OneReading now tolerance sent := by
  intro before between after hcut _ _ _
  have hcount := congrArg (List.count dot) hcut
  rw [Delivery.content, signedContent] at hcount
  simp only [List.count_append, List.count_cons_self, List.count_eq_zero_of_not_mem hid,
    List.count_eq_zero_of_not_mem htimestamp, List.count_eq_zero_of_not_mem hbody] at hcount
  have hbefore : dot ∉ asBytes before := List.count_eq_zero.mp (by omega)
  have hbetween : dot ∉ asBytes between := List.count_eq_zero.mp (by omega)
  rw [Delivery.content, signedContent] at hcut
  obtain ⟨hfirst, hrest⟩ := first_cut_unique hbefore hid hcut
  obtain ⟨hsecond, hthird⟩ := first_cut_unique hbetween htimestamp hrest
  exact ⟨asBytes_inj hfirst, asBytes_inj hsecond, hthird⟩

/-- An ideal code, for the witnesses: the key and the message themselves. -/
def plainMac (key message : List UInt8) : List UInt8 := key ++ message

theorem collisionFree_plainMac : CollisionFree plainMac := by
  intro key m m' h
  exact List.append_cancel_left h

/-- The standard alphabet with padding. -/
def standardEncode (digest : List UInt8) : String := String.ofList (Base64.encode digest)

@[inherit_doc standardEncode] def standardDecode (encoded : String) : Option (List UInt8) :=
  Base64.decode encoded.toList

theorem codec_standard : Codec standardEncode standardDecode := by
  constructor
  · intro digest
    rw [standardDecode, standardEncode, String.toList_ofList, Base64.decode_encode]
  · intro digest c hc
    have hsymbols : ∀ n < 64, isWhitespace (Base64.symbol n) = false := by decide
    rw [standardEncode, String.toList_ofList] at hc
    rcases Base64.mem_encode hc with ⟨n, hn, rfl⟩ | rfl
    · exact hsymbols n hn
    · decide

/-- A delivery without another dot. -/
theorem coversOne_plain :
    CoversOne standardDecode plainMac "whsec_dGVzdA==" 1760000042 300
      ⟨"msg_2Lh9", "1760000000", asBytes "\x7b\x7d"⟩ :=
  (coversOne_iff codec_standard collisionFree_plainMac).mpr
    (Or.inr (oneReading_of_dotFree (by decide +kernel) (by decide +kernel) (by decide +kernel)))

/-- An id that ends in a timestamp gives its delivery away: under a shorter id,
with the end of the id for its timestamp and the timestamp before the body, the
same signature is accepted. -/
theorem not_coversOne_dotted :
    ¬ ∀ encodeBase64 decodeBase64 mac, Codec encodeBase64 decodeBase64 → CollisionFree mac →
      CoversOne decodeBase64 mac "whsec_dGVzdA==" 1760000042 300
        ⟨"msg_2Lh9.1760000010", "1760000000", asBytes "\x7b\x7d"⟩ := by
  intro hall
  have hreading := oneReading_of_coversOne codec_standard (by decide +kernel)
    (hall _ _ plainMac codec_standard collisionFree_plainMac)
  obtain ⟨hid, _⟩ := hreading "msg_2Lh9" "1760000010" (asBytes "1760000000.\x7b\x7d")
    (by decide +kernel) (by decide +kernel) (by decide +kernel)
    ⟨1760000010, by decide +kernel, by decide⟩
  exact absurd hid (by decide)

end Webhook
