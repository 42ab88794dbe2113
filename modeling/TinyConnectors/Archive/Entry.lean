/-
# Archived deliveries and their keys

One entry of the trigger archive (`triggers/archive.rs`), as it is stored and
read back, and the key by which a history read tells deliveries apart: the
backend's id and uuid joined by a colon, or the serialised entry where it has
no uuid.  The identifiers are the provider's, and a colon in them makes two
deliveries look like one; `mergesOnlySame_iff` says exactly when.
-/
import TinyConnectors.JsonText
import TinyConnectors.RustStr

namespace Archive

open Json (FloatFormat)

/-- `ComposioTriggerHistoryEntry`. -/
structure Entry where
  received_at_ms : ℕ
  toolkit : String
  trigger : String
  metadata_id : String
  metadata_uuid : String
  payload : Json
  deriving DecidableEq

/-! ## Storing and reading back -/

/-- `serde_json::to_value`: the fields in key order. -/
def Entry.toValue (entry : Entry) : Json :=
  .obj [("metadata_id", .str entry.metadata_id), ("metadata_uuid", .str entry.metadata_uuid),
    ("payload", entry.payload), ("received_at_ms", .num (.posInt entry.received_at_ms)),
    ("toolkit", .str entry.toolkit), ("trigger", .str entry.trigger)]

/-- A `u64` field. -/
def asU64 : Json → Option ℕ
  | .num (.posInt n) => some n
  | _ => none

/-- An entry from the values of its fields, in declaration order. -/
def Entry.ofFields (received_at_ms toolkit trigger metadata_id metadata_uuid payload : Json) :
    Option Entry := do
  let received_at_ms ← asU64 received_at_ms
  let toolkit ← toolkit.asStr
  let trigger ← trigger.asStr
  let metadata_id ← metadata_id.asStr
  let metadata_uuid ← metadata_uuid.asStr
  some ⟨received_at_ms, toolkit, trigger, metadata_id, metadata_uuid, payload⟩

/-- `serde_json::from_value`: an object with the fields, others ignored, or an
array of exactly their values. -/
def Entry.fromValue : Json → Option Entry
  | .obj fields => do
    Entry.ofFields (← Json.field "received_at_ms" fields) (← Json.field "toolkit" fields)
      (← Json.field "trigger" fields) (← Json.field "metadata_id" fields)
      (← Json.field "metadata_uuid" fields) (← Json.field "payload" fields)
  | .arr [received_at_ms, toolkit, trigger, metadata_id, metadata_uuid, payload] =>
    Entry.ofFields received_at_ms toolkit trigger metadata_id metadata_uuid payload
  | _ => none

/-- A stored entry is read back as it was. -/
theorem fromValue_toValue (entry : Entry) : Entry.fromValue entry.toValue = some entry := by
  rfl

/-! ## The key -/

/-- The fields in declaration order, which is how an entry is serialised. -/
def Entry.fields (entry : Entry) : List (String × Json) :=
  [("received_at_ms", .num (.posInt entry.received_at_ms)), ("toolkit", .str entry.toolkit),
    ("trigger", .str entry.trigger), ("metadata_id", .str entry.metadata_id),
    ("metadata_uuid", .str entry.metadata_uuid), ("payload", entry.payload)]

variable (fmt : FloatFormat)

/-- `serde_json::to_string`. -/
def Entry.serialized (entry : Entry) : String := String.ofList (Json.print fmt (.obj entry.fields))

/-- `archive_entry_key`. -/
def archiveEntryKey (entry : Entry) : String :=
  if entry.metadata_uuid.isEmpty then entry.serialized fmt
  else s!"{entry.metadata_id}:{entry.metadata_uuid}"

variable {fmt}

theorem serialized_injective : Function.Injective (Entry.serialized fmt) := by
  intro a b h
  have hprint := Json.print_injective (String.ofList_injective h)
  rw [Json.obj.injEq, Entry.fields, Entry.fields] at hprint
  simp only [List.cons.injEq, Prod.mk.injEq, Json.num.injEq, Json.str.injEq, true_and, and_true,
    JsonNumber.posInt.injEq] at hprint
  obtain ⟨hms, htoolkit, htrigger, hid, huuid, hpayload⟩ := hprint
  cases a
  cases b
  simp_all

theorem archiveEntryKey_of_empty {entry : Entry} (h : entry.metadata_uuid = "") :
    archiveEntryKey fmt entry = entry.serialized fmt := by
  rw [archiveEntryKey, if_pos (by simp [h])]

theorem archiveEntryKey_of_uuid {entry : Entry} (h : entry.metadata_uuid ≠ "") :
    archiveEntryKey fmt entry = entry.metadata_id ++ ":" ++ entry.metadata_uuid := by
  rw [archiveEntryKey, if_neg (by simpa using h)]
  rfl

/-! ## When one key is one delivery -/

/-- The same id and uuid, or the same entry. -/
def SameDelivery (a b : Entry) : Prop :=
  (a.metadata_id = b.metadata_id ∧ a.metadata_uuid = b.metadata_uuid ∧ a.metadata_uuid ≠ "") ∨ a = b

variable (fmt) in
/-- One key stands for one delivery. -/
def MergesOnlySame (a b : Entry) : Prop :=
  archiveEntryKey fmt a = archiveEntryKey fmt b → SameDelivery a b

/-- The id of `b` goes on, after that of `a` and a colon, with the start of the
uuid of `a`, and what is left there is the uuid of `b`. -/
def Recut (a b : Entry) : Prop :=
  ∃ part, b.metadata_id = a.metadata_id ++ ":" ++ part ∧
    a.metadata_uuid = part ++ ":" ++ b.metadata_uuid

variable (fmt) in
/-- The id and uuid of `a`, around a colon, spell the entry `b`, which has no uuid. -/
def Spells (a b : Entry) : Prop :=
  a.metadata_uuid ≠ "" ∧ b.metadata_uuid = "" ∧
    a.metadata_id ++ ":" ++ a.metadata_uuid = b.serialized fmt

/-- Two texts joined by a colon are the same where they are cut alike, or one
cut is further on. -/
theorem append_colon_eq_iff {a b c d : String} :
    a ++ ":" ++ b = c ++ ":" ++ d ↔ (a = c ∧ b = d) ∨
      (∃ part, c = a ++ ":" ++ part ∧ b = part ++ ":" ++ d) ∨
      ∃ part, a = c ++ ":" ++ part ∧ d = part ++ ":" ++ b := by
  constructor
  · intro h
    have hlist : a.toList ++ (':' :: b.toList) = c.toList ++ (':' :: d.toList) := by
      simpa using congrArg String.toList h
    rcases List.append_eq_append_iff.mp hlist with ⟨t, hc, hb⟩ | ⟨t, ha, hd⟩
    · rcases t with _ | ⟨x, part⟩
      · refine Or.inl ⟨String.toList_inj.mp (by simpa using hc.symm), ?_⟩
        exact String.toList_inj.mp (List.tail_eq_of_cons_eq hb)
      · obtain rfl : ':' = x := List.head_eq_of_cons_eq hb
        refine Or.inr (Or.inl ⟨String.ofList part, ?_, ?_⟩)
        · exact String.toList_inj.mp (by simpa using hc)
        · exact String.toList_inj.mp (by simpa using List.tail_eq_of_cons_eq hb)
    · rcases t with _ | ⟨x, part⟩
      · refine Or.inl ⟨String.toList_inj.mp (by simpa using ha), ?_⟩
        exact String.toList_inj.mp (List.tail_eq_of_cons_eq hd).symm
      · obtain rfl : ':' = x := List.head_eq_of_cons_eq hd
        refine Or.inr (Or.inr ⟨String.ofList part, ?_, ?_⟩)
        · exact String.toList_inj.mp (by simpa using ha)
        · exact String.toList_inj.mp (by simpa using List.tail_eq_of_cons_eq hd)
  · rintro (⟨rfl, rfl⟩ | ⟨part, rfl, rfl⟩ | ⟨part, rfl, rfl⟩)
    · rfl
    · simp only [String.append_assoc]
    · simp only [String.append_assoc]

/-- A recut pair is not one delivery. -/
theorem not_sameDelivery_of_recut {a b : Entry} (h : Recut a b) : ¬ SameDelivery a b := by
  obtain ⟨part, hid, _⟩ := h
  have hne : a.metadata_id ≠ b.metadata_id := by
    intro heq
    have hlen := congrArg (fun s => s.toList.length) (heq.trans hid)
    simp at hlen
  rintro (⟨heq, _⟩ | rfl)
  · exact hne heq
  · exact hne rfl

theorem not_sameDelivery_of_uuid {a b : Entry} (h : a.metadata_uuid ≠ b.metadata_uuid) :
    ¬ SameDelivery a b := by
  rintro (⟨_, heq, _⟩ | rfl)
  · exact h heq
  · exact h rfl

theorem SameDelivery.symm {a b : Entry} (h : SameDelivery a b) : SameDelivery b a := by
  rcases h with ⟨hid, huuid, hne⟩ | rfl
  · exact Or.inl ⟨hid.symm, huuid.symm, huuid ▸ hne⟩
  · exact Or.inr rfl

theorem archiveEntryKey_eq_of_uuid {a b : Entry} (ha : a.metadata_uuid ≠ "")
    (hb : b.metadata_uuid ≠ "") : archiveEntryKey fmt a = archiveEntryKey fmt b ↔
      (a.metadata_id = b.metadata_id ∧ a.metadata_uuid = b.metadata_uuid) ∨ Recut a b ∨
        Recut b a := by
  rw [archiveEntryKey_of_uuid ha, archiveEntryKey_of_uuid hb, append_colon_eq_iff]
  rfl

/-- Two entries are merged only where they are one delivery, exactly unless one
is a recut of the other or spells it. -/
theorem mergesOnlySame_iff_pair {a b : Entry} :
    MergesOnlySame fmt a b ↔
      ¬ (a.metadata_uuid ≠ "" ∧ b.metadata_uuid ≠ "" ∧ (Recut a b ∨ Recut b a)) ∧
        ¬ Spells fmt a b ∧ ¬ Spells fmt b a := by
  unfold MergesOnlySame Spells
  by_cases ha : a.metadata_uuid = ""
  · by_cases hb : b.metadata_uuid = ""
    · rw [archiveEntryKey_of_empty ha, archiveEntryKey_of_empty hb]
      simp only [ha, hb, ne_eq, not_true_eq_false, false_and, not_false_eq_true, and_self, iff_true]
      intro h
      exact Or.inr (serialized_injective h)
    · rw [archiveEntryKey_of_empty ha, archiveEntryKey_of_uuid hb]
      have hnot : ¬ SameDelivery a b := not_sameDelivery_of_uuid (by rw [ha]; exact Ne.symm hb)
      simp [ha, hb, hnot, eq_comm]
  · by_cases hb : b.metadata_uuid = ""
    · rw [archiveEntryKey_of_uuid ha, archiveEntryKey_of_empty hb]
      have hnot : ¬ SameDelivery a b := not_sameDelivery_of_uuid (by rw [hb]; exact ha)
      simp [ha, hb, hnot]
    · rw [archiveEntryKey_eq_of_uuid ha hb]
      simp only [ha, hb, ne_eq, not_false_eq_true, true_and, false_and, and_true]
      constructor
      · rintro h (hrecut | hrecut)
        · exact not_sameDelivery_of_recut hrecut (h (Or.inr (Or.inl hrecut)))
        · exact not_sameDelivery_of_recut hrecut (h (Or.inr (Or.inr hrecut))).symm
      · rintro hnone (⟨hid, huuid⟩ | hrecut)
        · exact Or.inl ⟨hid, huuid, ha⟩
        · exact absurd hrecut hnone

/-! ## Deliveries no other is taken for -/

theorem mem_dropLast_iff {c : Char} {l : List Char} :
    c ∈ l.dropLast ↔ ∃ x y, l = x ++ c :: y ∧ y ≠ [] := by
  constructor
  · intro hc
    have hne : l ≠ [] := by
      rintro rfl
      exact List.not_mem_nil hc
    obtain ⟨x, y, hxy⟩ := List.append_of_mem hc
    refine ⟨x, y ++ [l.getLast hne], ?_, by simp⟩
    rw [← List.cons_append, ← List.append_assoc, ← hxy, List.dropLast_append_getLast hne]
  · rintro ⟨x, y, rfl, hy⟩
    rw [List.dropLast_append_of_ne_nil (List.cons_ne_nil c y), List.dropLast_cons_of_ne_nil hy]
    simp

/-- What stands before the first colon of every serialised entry. -/
def firstName : List Char := '\x7b' :: Json.quote "received_at_ms"

variable (fmt) in
/-- A serialised entry has a colon after its first name, and another one, which
is not at the end, after that. -/
theorem serialized_cut (entry : Entry) : ∃ value, ':' ∈ value.toList.dropLast ∧
    entry.serialized fmt = String.ofList firstName ++ ":" ++ value := by
  rcases entry with ⟨ms, toolkit, trigger, id, uuid, payload⟩
  refine ⟨String.ofList (Json.digits ms ++ Json.printFields fmt false
    (Entry.fields ⟨ms, toolkit, trigger, id, uuid, payload⟩).tail), ?_, ?_⟩
  · rw [String.toList_ofList, mem_dropLast_iff]
    refine ⟨Json.digits ms ++ ',' :: Json.quote "toolkit", Json.quote toolkit ++
      Json.printFields fmt false (Entry.fields ⟨ms, toolkit, trigger, id, uuid, payload⟩).tail.tail,
      ?_, ?_⟩
    · simp [Entry.fields, Json.printFields, Json.print]
    · simp [Json.quote]
  · rw [← String.toList_inj]
    simp [Entry.serialized, Entry.fields, Json.print, Json.printFields, Json.numberText, firstName]

/-- No other delivery is taken for `a`, exactly where `a` has a uuid and no
colon but at the end of it. -/
theorem mergesOnlySame_iff_entry {a : Entry} :
    (∀ b, MergesOnlySame fmt a b) ↔ a.metadata_uuid ≠ "" ∧ ':' ∉ a.metadata_id.toList ∧
      ':' ∉ a.metadata_uuid.toList.dropLast := by
  constructor
  · intro h
    have huuid : a.metadata_uuid ≠ "" := by
      -- the serialised entry is the id and the uuid of another, cut at its first colon
      intro hempty
      obtain ⟨value, hcolon, hcut⟩ := serialized_cut fmt a
      refine (mergesOnlySame_iff_pair.mp
        (h { a with metadata_id := String.ofList firstName, metadata_uuid := value })).2.2
          ⟨?_, hempty, hcut.symm⟩
      intro hvalue
      have hvalue : value = "" := hvalue
      simp [hvalue] at hcolon
    refine ⟨huuid, ?_, ?_⟩
    · intro hcolon
      obtain ⟨x, y, hid⟩ := List.append_of_mem hcolon
      have hrecut : Recut { a with
          metadata_id := String.ofList x
          metadata_uuid := String.ofList y ++ ":" ++ a.metadata_uuid } a := by
        refine ⟨String.ofList y, ?_, rfl⟩
        rw [← String.toList_inj]
        simpa using hid
      refine (mergesOnlySame_iff_pair.mp (h _)).1 ⟨huuid, ?_, Or.inr hrecut⟩
      intro hempty
      have hlist := congrArg String.toList hempty
      simp at hlist
    · intro hcolon
      obtain ⟨x, y, huuid', hy⟩ := mem_dropLast_iff.mp hcolon
      have hrecut : Recut a { a with
          metadata_id := a.metadata_id ++ ":" ++ String.ofList x
          metadata_uuid := String.ofList y } := by
        refine ⟨String.ofList x, rfl, ?_⟩
        rw [← String.toList_inj]
        simpa using huuid'
      refine (mergesOnlySame_iff_pair.mp (h _)).1 ⟨huuid, ?_, Or.inl hrecut⟩
      intro hempty
      have hlist := congrArg String.toList hempty
      simp [hy] at hlist
  · rintro ⟨huuid, hid, hend⟩ b
    rw [mergesOnlySame_iff_pair]
    refine ⟨?_, ?_, fun h => huuid h.2.1⟩
    · rintro ⟨_, hb, ⟨part, _, hcut⟩ | ⟨part, hcut, _⟩⟩
      · refine hend (mem_dropLast_iff.mpr ⟨part.toList, b.metadata_uuid.toList, ?_, ?_⟩)
        · simp [hcut]
        · simpa using hb
      · refine hid ?_
        rw [hcut]
        simp
    · rintro ⟨_, _, hspells⟩
      obtain ⟨value, hcolon, hcut⟩ := serialized_cut fmt b
      rw [hcut, append_colon_eq_iff] at hspells
      rcases hspells with ⟨_, hvalue⟩ | ⟨part, hfirst, _⟩ | ⟨part, hfirst, _⟩
      · exact hend (hvalue ▸ hcolon)
      · -- the first name holds no colon
        have hmem : ':' ∈ firstName := by
          rw [← String.toList_ofList (l := firstName), hfirst]
          simp
        exact absurd hmem (by decide +kernel)
      · refine hid ?_
        rw [hfirst]
        simp

variable (fmt) in
/-- Which entries the key merges wrongly: a pair where one is cut from the other
or spells it; and of those that some other entry may be taken for, each that has
no uuid, or a colon before the last character of its id and uuid. -/
theorem mergesOnlySame_iff (a : Entry) :
    (∀ b, MergesOnlySame fmt a b ↔
      ¬ (a.metadata_uuid ≠ "" ∧ b.metadata_uuid ≠ "" ∧ (Recut a b ∨ Recut b a)) ∧
        ¬ Spells fmt a b ∧ ¬ Spells fmt b a) ∧
    ((∀ b, MergesOnlySame fmt a b) ↔ a.metadata_uuid ≠ "" ∧ ':' ∉ a.metadata_id.toList ∧
      ':' ∉ a.metadata_uuid.toList.dropLast) :=
  ⟨fun _ => mergesOnlySame_iff_pair, mergesOnlySame_iff_entry⟩

/-- An id of two parts, and the first part alone with the second before the uuid. -/
theorem not_mergesOnlySame_parts :
    ¬ MergesOnlySame Json.fractionFormat
      ⟨1760000000000, "gmail", "GMAIL_NEW_GMAIL_MESSAGE", "evt:7", "a1", .obj []⟩
      ⟨1760000000000, "slack", "SLACK_RECEIVE_MESSAGE", "evt", "7:a1", .obj []⟩ := by
  rw [mergesOnlySame_iff_pair]
  rintro ⟨hnone, _⟩
  exact hnone ⟨by decide, by decide, Or.inr ⟨"7", by decide, by decide⟩⟩

end Archive
