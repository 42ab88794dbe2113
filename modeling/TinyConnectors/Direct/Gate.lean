/-
# The invalid-key gate

`check_gate`, `record` and `call` of `client/route/direct.rs`, for any number of
calls at once.  A call is checked, sent, answered and recorded; between two of
these steps any other call may take its own.  The map of failures is read and
written under the route's own key alone, so it is that key's entry here.
-/
import TinyConnectors.Direct.Route
import Mathlib.Logic.Relation

open Relation RustStr

namespace Direct

/-- Consecutive rejections of the same key before the gate closes. -/
def INVALID_API_KEY_THRESHOLD : ℕ := 3

/-! ## Calls under way -/

/-- How far a call has come. -/
inductive CallPhase where
  /-- Its check passed. -/
  | cleared
  /-- The transport has its request. -/
  | sent
  /-- The transport has answered. -/
  | answered (outcome : Except Error Json)
  /-- The answer is recorded and returned. -/
  | recorded (outcome : Except Error Json)
  /-- The caller dropped it while it was awaited. -/
  | dropped

/-- Whether the call does nothing any more. -/
def CallPhase.over : CallPhase → Bool
  | .recorded _ | .dropped => true
  | _ => false

/-- What happened to the call of a number. -/
inductive GateEvent where
  | passed (n : ℕ)
  | sent (n : ℕ)
  | answered (n : ℕ) (outcome : Except Error Json)
  | recorded (n : ℕ) (outcome : Except Error Json)
  | dropped (n : ℕ)

/-- The entry of the failures map, the calls in the order of their checks, and what
has happened to them so far. -/
structure Gate where
  failures : Option ℕ
  calls : List (Request × CallPhase)
  log : List GateEvent

namespace Gate

/-- A route that was never called. -/
def init : Gate := { failures := none, calls := [], log := [] }

/-- The stored count. -/
def count (gate : Gate) : ℕ := gate.failures.getD 0

/-- `DirectRoute::record`. -/
def record (failures : Option ℕ) : Except Error Json → Option ℕ
  | .ok _ => none
  | .error error =>
    -- not an authentication failure: leave the count alone
    if isInvalidApiKey error then some (failures.getD 0 + 1) else failures

/-- The call `n` comes to `phase`. -/
def advance (gate : Gate) (n : ℕ) (request : Request) (phase : CallPhase) (event : GateEvent) :
    Gate :=
  { gate with calls := gate.calls.set n (request, phase), log := gate.log ++ [event] }

/-- The check passes, for a call that gets the next number. -/
def pass (gate : Gate) (request : Request) : Gate :=
  { gate with calls := gate.calls ++ [(request, .cleared)], log := gate.log ++
    [.passed gate.calls.length] }

/-- What a call under way does next. -/
inductive Works (gate : Gate) : Gate → Prop where
  | send {n request} (h : gate.calls[n]? = some (request, .cleared)) :
      Works gate (gate.advance n request .sent (.sent n))
  | answer {n request} (outcome : Except Error Json) (h : gate.calls[n]? = some (request, .sent)) :
      Works gate (gate.advance n request (.answered outcome) (.answered n outcome))
  | record {n request outcome} (h : gate.calls[n]? = some (request, .answered outcome)) :
      Works gate { gate.advance n request (.recorded outcome) (.recorded n outcome) with
        failures := record gate.failures outcome }
  | drop {n request} (h : gate.calls[n]? = some (request, .sent)) :
      Works gate (gate.advance n request .dropped (.dropped n))

/-- One step of the route's calls. -/
inductive Step (gate : Gate) : Gate → Prop where
  | pass (request : Request) (h : gate.count < INVALID_API_KEY_THRESHOLD) :
      Step gate (gate.pass request)
  | works {gate'} (h : Works gate gate') : Step gate gate'

end Gate

/-! ## Rejections since the last success -/

/-- A failure that says Composio refused the key. -/
def rejects : Except Error Json → Bool
  | .ok _ => false
  | .error error => isInvalidApiKey error

def fails : Except Error Json → Bool
  | .ok _ => false
  | .error _ => true

/-- The rejections after the last success. -/
def rejectionsSinceSuccess (outcomes : List (Except Error Json)) : ℕ :=
  (outcomes.reverse.takeWhile fails).countP rejects

theorem rejectionsSinceSuccess_ok (outcomes : List (Except Error Json)) (value : Json) :
    rejectionsSinceSuccess (outcomes ++ [.ok value]) = 0 := by
  simp [rejectionsSinceSuccess, fails]

theorem rejectionsSinceSuccess_error (outcomes : List (Except Error Json)) (error : Error) :
    rejectionsSinceSuccess (outcomes ++ [.error error]) =
      rejectionsSinceSuccess outcomes + if isInvalidApiKey error then 1 else 0 := by
  have hfails : fails (.error error) = true := rfl
  rw [rejectionsSinceSuccess, List.reverse_append, List.reverse_singleton, List.singleton_append,
    List.takeWhile_cons_of_pos hfails, List.countP_cons]
  rfl

/-- What was recorded, in order. -/
def recordedOf (log : List GateEvent) : List (Except Error Json) :=
  log.filterMap fun event => match event with
    | .recorded _ outcome => some outcome
    | _ => none

/-- What the transport answered, in order. -/
def answeredOf (log : List GateEvent) : List (Except Error Json) :=
  log.filterMap fun event => match event with
    | .answered _ outcome => some outcome
    | _ => none

/-- Recording an outcome is counting it. -/
theorem getD_record {failures : Option ℕ} {outcomes : List (Except Error Json)}
    (h : failures.getD 0 = rejectionsSinceSuccess outcomes) (outcome : Except Error Json) :
    (Gate.record failures outcome).getD 0 = rejectionsSinceSuccess (outcomes ++ [outcome]) := by
  cases outcome with
  | ok value =>
    rw [rejectionsSinceSuccess_ok]
    rfl
  | error error =>
    rw [rejectionsSinceSuccess_error, Gate.record]
    split_ifs
    · rw [← h]
      rfl
    · exact h

/-! ## Histories -/

/-- Each event of a history is one that the events before it warrant. -/
def Warranted {ε : Type} (warrants : List ε → ε → Prop) (history : List ε) : Prop :=
  ∀ before event later, history = before ++ event :: later → warrants before event

theorem Warranted.nil {ε : Type} (warrants : List ε → ε → Prop) : Warranted warrants [] := by
  intro before event later h
  simp at h

theorem Warranted.snoc {ε : Type} {warrants : List ε → ε → Prop} {history : List ε} {event : ε}
    (h : Warranted warrants history) (hevent : warrants history event) :
    Warranted warrants (history ++ [event]) := by
  intro before event' later hsplit
  rcases List.eq_nil_or_concat later with rfl | ⟨later', last, rfl⟩
  · obtain ⟨rfl, hlast⟩ := List.append_inj' hsplit rfl
    rw [List.cons.injEq] at hlast
    rw [← hlast.1]
    exact hevent
  · rw [List.concat_eq_append, ← List.cons_append, ← List.append_assoc] at hsplit
    obtain ⟨rfl, _⟩ := List.append_inj' hsplit rfl
    exact h before event' later' rfl

/-- The checks that passed. -/
def passes (log : List GateEvent) : ℕ :=
  log.countP fun event => match event with
    | .passed _ => true
    | _ => false

/-- The check of the call `n`, the `n`th to pass, is in the history, and fewer
rejections than the threshold were recorded before it. -/
def CheckedLow (n : ℕ) (log : List GateEvent) : Prop :=
  ∃ earlier middle, log = earlier ++ .passed n :: middle ∧ passes earlier = n ∧
    rejectionsSinceSuccess (recordedOf earlier) < INVALID_API_KEY_THRESHOLD

/-- A request is sent after its check. -/
def sentChecked (log : List GateEvent) : GateEvent → Prop
  | .sent n => CheckedLow n log
  | _ => True

theorem CheckedLow.append {n : ℕ} {log : List GateEvent} (h : CheckedLow n log)
    (more : List GateEvent) :
    CheckedLow n (log ++ more) := by
  obtain ⟨earlier, middle, rfl, hnumber, hlow⟩ := h
  exact ⟨earlier, middle ++ more, by simp, hnumber, hlow⟩

/-! ## Every interleaving -/

namespace Gate

/-- What holds of the calls whatever their order of steps. -/
structure Counts (gate : Gate) : Prop where
  count : gate.count = rejectionsSinceSuccess (recordedOf gate.log)
  numbered : passes gate.log = gate.calls.length
  checked : ∀ n < gate.calls.length, CheckedLow n gate.log
  sent : Warranted sentChecked gate.log

theorem counts_init : Counts init where
  count := rfl
  numbered := rfl
  checked n hn := by cases hn
  sent := Warranted.nil _

theorem Counts.pass {gate : Gate} (h : Counts gate) (request : Request)
    (hlow : gate.count < INVALID_API_KEY_THRESHOLD) : Counts (gate.pass request) where
  count := by
    rw [show (gate.pass request).count = gate.count from rfl, h.count]
    simp [Gate.pass, recordedOf]
  numbered := by
    have := h.numbered
    simp only [passes] at this
    simp [Gate.pass, passes, this]
  checked n hn := by
    rw [Gate.pass, List.length_append, List.length_singleton] at hn
    rcases Nat.lt_succ_iff_lt_or_eq.mp hn with hold | rfl
    · exact (h.checked n hold).append _
    · refine ⟨gate.log, [], rfl, h.numbered, ?_⟩
      rw [← h.count]
      exact hlow
  sent := h.sent.snoc trivial

/-- A step of a call that is under way, but for what is recorded. -/
theorem Counts.advance {gate : Gate} (h : Counts gate) {n : ℕ} {request : Request}
    (phase : CallPhase) {event : GateEvent} {failures : Option ℕ}
    (hcount : failures.getD 0 = rejectionsSinceSuccess (recordedOf (gate.log ++ [event])))
    (hpasses : passes [event] = 0) (hsent : sentChecked gate.log event) :
    Counts { gate.advance n request phase event with failures := failures } where
  count := hcount
  numbered := by
    have hlog : passes (gate.log ++ [event]) = passes gate.log + passes [event] :=
      List.countP_append
    show passes (gate.log ++ [event]) = (gate.calls.set n (request, phase)).length
    rw [hlog, hpasses, List.length_set, Nat.add_zero, h.numbered]
  checked m hm := by
    rw [show ({ gate.advance n request phase event with failures := failures } : Gate).calls =
      gate.calls.set n (request, phase) from rfl, List.length_set] at hm
    exact (h.checked m hm).append _
  sent := h.sent.snoc hsent

theorem Counts.works {gate gate' : Gate} (h : Counts gate) (hstep : Works gate gate') :
    Counts gate' := by
  have hsame : ∀ event, recordedOf [event] = [] →
      gate.failures.getD 0 = rejectionsSinceSuccess (recordedOf (gate.log ++ [event])) := by
    intro event hevent
    have hlog : recordedOf (gate.log ++ [event]) = recordedOf gate.log ++ recordedOf [event] :=
      List.filterMap_append
    rw [hlog, hevent, List.append_nil]
    exact h.count
  cases hstep with
  | send hcall =>
    have hn := (List.getElem?_eq_some_iff.mp hcall).1
    exact h.advance _ (hsame _ rfl) rfl (h.checked _ hn)
  | answer outcome hcall => exact h.advance _ (hsame _ rfl) rfl trivial
  | @record n request outcome hcall =>
    refine h.advance _ ?_ rfl trivial
    have hlog : recordedOf (gate.log ++ [.recorded n outcome]) = recordedOf gate.log ++ [outcome] :=
      List.filterMap_append
    rw [hlog]
    exact getD_record h.count outcome
  | drop hcall => exact h.advance _ (hsame _ rfl) rfl trivial

theorem Counts.step {gate gate' : Gate} (h : Counts gate) (hstep : Step gate gate') :
    Counts gate' := by
  cases hstep with
  | pass request hlow => exact h.pass request hlow
  | works hworks => exact h.works hworks

/-- Only a recorded success or rejection changes the count. -/
theorem Step.count_eq {gate gate' : Gate} (hstep : Step gate gate') :
    gate'.failures = gate.failures ∨ ∃ n outcome, gate'.log = gate.log ++ [.recorded n outcome] ∧
      (fails outcome = false ∨ rejects outcome = true) := by
  cases hstep with
  | pass request hlow => exact .inl rfl
  | works hworks =>
    cases hworks with
    | send hcall => exact .inl rfl
    | answer outcome hcall => exact .inl rfl
    | drop hcall => exact .inl rfl
    | @record n request outcome hcall =>
      cases outcome with
      | ok value => exact .inr ⟨n, _, rfl, .inl rfl⟩
      | error error =>
        by_cases hrejects : isInvalidApiKey error = true
        · exact .inr ⟨n, _, rfl, .inr hrejects⟩
        · exact .inl (if_neg hrejects)

/-! ## How high the count goes -/

/-- How many calls are under way. -/
def underWay (gate : Gate) : ℕ := gate.calls.countP fun call => !call.2.over

theorem underWay_advance {gate : Gate} {n : ℕ} {request : Request} {phase : CallPhase}
    (hcall : gate.calls[n]? = some (request, phase)) (hover : phase.over = false)
    (phase' : CallPhase) (event : GateEvent) :
    (gate.advance n request phase' event).underWay + 1 =
      gate.underWay + if phase'.over then 0 else 1 := by
  obtain ⟨hn, hget⟩ := List.getElem?_eq_some_iff.mp hcall
  have hpos : 0 < gate.underWay := by
    refine List.countP_pos_iff.mpr ⟨_, List.mem_of_getElem? hcall, ?_⟩
    rw [hover]
    rfl
  rw [underWay, advance, List.countP_set hn, hget, ← underWay]
  dsimp only
  rw [hover]
  cases phase'.over <;> simp <;> omega

theorem count_record_le (failures : Option ℕ) (outcome : Except Error Json) :
    (record failures outcome).getD 0 ≤ failures.getD 0 + 1 := by
  cases outcome with
  | ok value => exact Nat.zero_le _
  | error error =>
    rw [record]
    split_ifs
    · exact Nat.le_refl _
    · omega

/-- With at most `k` calls under way at once the count stays below `k + 3`: the `u32`
of the map has room for it. -/
theorem count_le {k : ℕ} {gate : Gate}
    (hrun : ReflTransGen (fun g g' => Step g g' ∧ g'.underWay ≤ k) init gate) :
    gate.count + gate.underWay ≤ k + 2 := by
  induction hrun with
  | refl => exact Nat.zero_le _
  | @tail gate gate' _ hstep ih =>
    obtain ⟨hstep, hk⟩ := hstep
    cases hstep with
    -- the call that passes has read a count below the threshold
    | pass request hlow =>
      rw [INVALID_API_KEY_THRESHOLD] at hlow
      rw [show (gate.pass request).count = gate.count from rfl]
      omega
    | works hworks =>
      cases hworks with
      | @send n request hcall =>
        have hsame : (gate.advance n request .sent (.sent n)).underWay + 1 = gate.underWay + 1 :=
          underWay_advance hcall rfl .sent _
        show gate.count + _ ≤ k + 2
        omega
      | @answer n request outcome hcall =>
        have hsame :
            (gate.advance n request (.answered outcome) (.answered n outcome)).underWay + 1 =
              gate.underWay + 1 := underWay_advance hcall rfl (.answered outcome) _
        show gate.count + _ ≤ k + 2
        omega
      | @record n request outcome hcall =>
        have hless :
            (gate.advance n request (.recorded outcome) (.recorded n outcome)).underWay + 1 =
              gate.underWay := underWay_advance hcall rfl (.recorded outcome) _
        -- the call leaves as its failure is counted, so the sum does not grow
        have hcount : (record gate.failures outcome).getD 0 ≤ gate.count + 1 :=
          count_record_le gate.failures outcome
        show (record gate.failures outcome).getD 0 +
          (gate.advance n request (.recorded outcome) (.recorded n outcome)).underWay ≤ k + 2
        omega
      | @drop n request hcall =>
        have hless : (gate.advance n request .dropped (.dropped n)).underWay + 1 = gate.underWay :=
          underWay_advance hcall rfl .dropped _
        show gate.count + _ ≤ k + 2
        omega

/-! ## Calls that do not overlap -/

/-- No call is under way. -/
def Idle (gate : Gate) : Prop := ∀ call ∈ gate.calls, call.2.over = true

/-- A call begins only when no other is under way. -/
def Alone (gate gate' : Gate) : Prop := gate.calls.length < gate'.calls.length → gate.Idle

/-- The outcome of a call that is answered and not recorded yet. -/
def pending : CallPhase → List (Except Error Json)
  | .answered outcome => [outcome]
  | _ => []

/-- Between two calls. -/
structure Settled (gate : Gate) : Prop where
  idle : gate.Idle
  answers : answeredOf gate.log = recordedOf gate.log
  bounded : gate.count ≤ INVALID_API_KEY_THRESHOLD

/-- The last call is the only one under way. -/
structure Calling (gate : Gate) (n : ℕ) (request : Request) (phase : CallPhase) : Prop where
  calls : ∃ before, gate.calls = before ++ [(request, phase)] ∧ before.length = n ∧
    ∀ call ∈ before, call.2.over = true
  answers : answeredOf gate.log = recordedOf gate.log ++ pending phase
  low : gate.count < INVALID_API_KEY_THRESHOLD

/-- No two calls overlap. -/
def Serial (gate : Gate) : Prop :=
  Settled gate ∨ ∃ n request phase, phase.over = false ∧ Calling gate n request phase

theorem serial_init : Serial init :=
  .inl ⟨by simp [Idle, init], rfl, Nat.zero_le _⟩

/-- A call that is under way is the last one. -/
theorem Serial.calling {gate : Gate} (h : Serial gate) {n : ℕ} {request : Request}
    {phase : CallPhase} (hcall : gate.calls[n]? = some (request, phase))
    (hover : phase.over = false) :
    Calling gate n request phase := by
  rcases h with hsettled | ⟨m, request', phase', _, hcalling⟩
  · have := hsettled.idle _ (List.mem_of_getElem? hcall)
    rw [show phase.over = true from this] at hover
    cases hover
  · obtain ⟨before, hcalls, hlength, hbefore⟩ := hcalling.calls
    rw [hcalls] at hcall
    rcases Nat.lt_or_ge n before.length with hn | hn
    · rw [List.getElem?_append_left hn] at hcall
      have := hbefore _ (List.mem_of_getElem? hcall)
      rw [show phase.over = true from this] at hover
      cases hover
    · rw [List.getElem?_append_right hn, List.getElem?_singleton] at hcall
      split_ifs at hcall with hzero
      rw [Option.some_inj, Prod.mk.injEq] at hcall
      obtain ⟨rfl, rfl⟩ := hcall
      have hm : m = n := by omega
      rw [← hm]
      exact hcalling

/-- The calls once the last has come further. -/
theorem Calling.advance_calls {gate : Gate} {n : ℕ} {request : Request} {phase : CallPhase}
    (h : Calling gate n request phase) (phase' : CallPhase) :
    ∃ before, gate.calls.set n (request, phase') = before ++ [(request, phase')] ∧
      before.length = n ∧
      ∀ call ∈ before, call.2.over = true := by
  obtain ⟨before, hcalls, hlength, hbefore⟩ := h.calls
  refine ⟨before, ?_, hlength, hbefore⟩
  rw [hcalls, ← hlength, List.set_append_right _ _ (Nat.le_refl _), Nat.sub_self,
    List.set_cons_zero]

theorem Calling.idle_of_over {gate : Gate} {n : ℕ} {request : Request} {phase : CallPhase}
    (h : Calling gate n request phase) {phase' : CallPhase} (hover : phase'.over = true) :
    ∀ call ∈ gate.calls.set n (request, phase'), call.2.over = true := by
  obtain ⟨before, hcalls, _, hbefore⟩ := h.advance_calls phase'
  intro call hcall
  rw [hcalls, List.mem_append, List.mem_singleton] at hcall
  rcases hcall with hold | rfl
  · exact hbefore call hold
  · exact hover

theorem answeredOf_append (log more : List GateEvent) :
    answeredOf (log ++ more) = answeredOf log ++ answeredOf more := List.filterMap_append

theorem recordedOf_append (log more : List GateEvent) :
    recordedOf (log ++ more) = recordedOf log ++ recordedOf more := List.filterMap_append

theorem Serial.works {gate gate' : Gate} (h : Serial gate) (hstep : Works gate gate') :
    Serial gate' := by
  cases hstep with
  | @send n request hcall =>
    have hcalling := h.calling hcall rfl
    refine .inr ⟨n, request, .sent, rfl, hcalling.advance_calls .sent, ?_, hcalling.low⟩
    show answeredOf (gate.log ++ [.sent n]) = recordedOf (gate.log ++ [.sent n]) ++ []
    rw [answeredOf_append, recordedOf_append, hcalling.answers]
    rfl
  | @answer n request outcome hcall =>
    have hcalling := h.calling hcall rfl
    refine .inr ⟨n, request, .answered outcome, rfl, hcalling.advance_calls _, ?_, hcalling.low⟩
    show answeredOf (gate.log ++ [.answered n outcome]) =
      recordedOf (gate.log ++ [.answered n outcome]) ++ [outcome]
    rw [answeredOf_append, recordedOf_append, hcalling.answers]
    show (recordedOf gate.log ++ []) ++ [outcome] = (recordedOf gate.log ++ []) ++ [outcome]
    rfl
  | @record n request outcome hcall =>
    have hcalling := h.calling hcall rfl
    refine .inl ⟨hcalling.idle_of_over rfl, ?_, ?_⟩
    · show answeredOf (gate.log ++ [.recorded n outcome]) =
        recordedOf (gate.log ++ [.recorded n outcome])
      rw [answeredOf_append, recordedOf_append, hcalling.answers]
      show (recordedOf gate.log ++ [outcome]) ++ [] = recordedOf gate.log ++ [outcome]
      rw [List.append_nil]
    · have hlow := hcalling.low
      rw [count] at hlow
      show (record gate.failures outcome).getD 0 ≤ INVALID_API_KEY_THRESHOLD
      have := count_record_le gate.failures outcome
      omega
  | @drop n request hcall =>
    -- a call that is given up has had no answer recorded
    have hcalling := h.calling hcall rfl
    refine .inl ⟨hcalling.idle_of_over rfl, ?_, Nat.le_of_lt hcalling.low⟩
    show answeredOf (gate.log ++ [.dropped n]) = recordedOf (gate.log ++ [.dropped n])
    rw [answeredOf_append, recordedOf_append, hcalling.answers]
    show (recordedOf gate.log ++ []) ++ [] = recordedOf gate.log ++ []
    rw [List.append_nil]

theorem Serial.step {gate gate' : Gate} (h : Serial gate) (hstep : Step gate gate')
    (halone : Alone gate gate') : Serial gate' := by
  cases hstep with
  | works hworks => exact h.works hworks
  | pass request hlow =>
    have hidle : gate.Idle := by
      apply halone
      rw [pass, List.length_append, List.length_singleton]
      omega
    have hanswers : answeredOf gate.log = recordedOf gate.log := by
      rcases h with hsettled | ⟨n, request', phase, hover, hcalling⟩
      · exact hsettled.answers
      · obtain ⟨before, hcalls, _⟩ := hcalling.calls
        have := hidle (request', phase) (by rw [hcalls]; simp)
        rw [show phase.over = true from this] at hover
        cases hover
    refine .inr ⟨gate.calls.length, request, .cleared, rfl, ⟨gate.calls, rfl, rfl, hidle⟩, ?_, hlow⟩
    show answeredOf (gate.log ++ [.passed _]) = recordedOf (gate.log ++ [.passed _]) ++ []
    rw [answeredOf_append, recordedOf_append, hanswers]
    show recordedOf gate.log ++ [] = (recordedOf gate.log ++ []) ++ []
    rw [List.append_nil, List.append_nil]

/-- Where no two calls overlap, no more requests than the threshold were rejected after
the last one that succeeded. -/
theorem Serial.rejected_le {gate : Gate} (h : Serial gate) (hcounts : Counts gate) :
    rejectionsSinceSuccess (answeredOf gate.log) ≤ INVALID_API_KEY_THRESHOLD := by
  rcases h with hsettled | ⟨n, request, phase, hover, hcalling⟩
  · rw [hsettled.answers, ← hcounts.count]
    exact hsettled.bounded
  · have hlow := hcalling.low
    rw [hcounts.count] at hlow
    rw [hcalling.answers]
    cases phase with
    | answered outcome =>
      rw [pending]
      cases outcome with
      | ok value =>
        rw [rejectionsSinceSuccess_ok]
        exact Nat.zero_le _
      | error error =>
        rw [rejectionsSinceSuccess_error]
        split_ifs <;> omega
    | _ =>
      rw [pending, List.append_nil]
      · omega
      · intros
        contradiction

/-- Where no two calls overlap, a closed gate stays as it is. -/
theorem Serial.not_step {gate gate' : Gate} (h : Serial gate)
    (hclosed : INVALID_API_KEY_THRESHOLD ≤ gate.count) : ¬ Step gate gate' := by
  have hsettled : Settled gate := by
    rcases h with hsettled | ⟨n, request, phase, _, hcalling⟩
    · exact hsettled
    · have := hcalling.low
      omega
  have hover : ∀ (n : ℕ) (request : Request) (phase : CallPhase),
      gate.calls[n]? = some (request, phase) → phase.over = false → False := by
    intro n request phase hcall hphase
    have := hsettled.idle _ (List.mem_of_getElem? hcall)
    rw [show phase.over = true from this] at hphase
    cases hphase
  intro hstep
  cases hstep with
  | pass request hlow => omega
  | works hworks =>
    cases hworks with
    | send hcall => exact hover _ _ _ hcall rfl
    | answer outcome hcall => exact hover _ _ _ hcall rfl
    | record hcall => exact hover _ _ _ hcall rfl
    | drop hcall => exact hover _ _ _ hcall rfl

end Gate

end Direct
