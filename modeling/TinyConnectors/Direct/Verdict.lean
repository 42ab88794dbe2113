/-
# The verdict on an action

`execute_response_from_v3` reads off a v3 reply whether the action succeeded: from
`successful`, or from `success` where the first key is missing, or else from there
being no `error`.  `execute_action` returns that verdict for the last reply to an
execute.  A false `success` goes unread where something stands under `successful`.
-/
import TinyConnectors.Direct.Ownership
import TinyConnectors.Execute.Retry

open RustStr SchemaWalk Prog

namespace Direct

/-! ## What a reply says -/

/-- The boolean under a key. -/
def verdictAt (key : String) (raw : Json) : Option Bool := (get key raw).bind asBool

/-- An error that is not null. -/
def CarriesError (raw : Json) : Prop := ∃ error, get "error" raw = some error ∧ error ≠ .null

/-- `successful` is what the reply says. -/
structure Tells (raw : Json) (successful : Bool) : Prop where
  failed : verdictAt "successful" raw = some false ∨ verdictAt "success" raw = some false →
    successful = false
  errored : verdictAt "successful" raw = none → verdictAt "success" raw = none →
    CarriesError raw → successful = false
  done : verdictAt "successful" raw ≠ some false → verdictAt "success" raw ≠ some false →
    ¬ CarriesError raw → successful = true

/-- `success` is false, behind a `successful` that is true, or that is no boolean in
a reply without an error. -/
def Masked (raw : Json) : Prop :=
  verdictAt "success" raw = some false ∧
    (verdictAt "successful" raw = some true ∨
      (verdictAt "successful" raw = none ∧ get "successful" raw ≠ none ∧ ¬ CarriesError raw))

theorem hasError_iff (raw : Json) :
    ((get "error" raw).any fun error => error ≠ .null) = true ↔ CarriesError raw := by
  rw [Option.any_eq_true]
  simp only [decide_eq_true_eq]
  exact Iff.rfl

/-- The verdict that is read. -/
theorem successful_eq (raw : Json) : (executeResponseFromV3 raw).successful =
    (((get "successful" raw).or (get "success" raw)).bind asBool).getD
      !((get "error" raw).any fun error => error ≠ .null) := rfl

/-- A `successful` that is a boolean decides. -/
theorem successful_of_some {raw : Json} {b : Bool} (h : verdictAt "successful" raw = some b) :
    (executeResponseFromV3 raw).successful = b := by
  obtain ⟨value, hvalue, hb⟩ := Option.bind_eq_some_iff.mp h
  rw [successful_eq, hvalue, Option.some_or, Option.bind_some, hb, Option.getD_some]

/-- One that is something else leaves it to the error. -/
theorem successful_of_present {raw : Json} (hpresent : get "successful" raw ≠ none)
    (hnone : verdictAt "successful" raw = none) :
    (executeResponseFromV3 raw).successful = true ↔ ¬ CarriesError raw := by
  obtain ⟨value, hvalue⟩ := Option.ne_none_iff_exists'.mp hpresent
  have hnone : asBool value = none := by
    rw [verdictAt, hvalue] at hnone
    exact hnone
  rw [successful_eq, hvalue, Option.some_or, Option.bind_some, hnone, Option.getD_none,
    ← hasError_iff, Bool.not_eq_true, Bool.not_eq_true']

/-- A missing one leaves it to `success`. -/
theorem successful_of_absent {raw : Json} (habsent : get "successful" raw = none) :
    (executeResponseFromV3 raw).successful =
      (verdictAt "success" raw).getD !((get "error" raw).any fun error => error ≠ .null) := by
  rw [successful_eq, habsent, Option.none_or]
  rfl

theorem tells_of_some {raw : Json} {b : Bool} (hfirst : verdictAt "successful" raw = some b)
    (hmasked : ¬ Masked raw) : Tells raw b := by
  refine ⟨?_, ?_, ?_⟩
  · rintro (hfalse | hfalse)
    · exact Option.some_inj.mp (hfirst.symm.trans hfalse)
    · cases b with
      | false => rfl
      | true => exact absurd ⟨hfalse, .inl hfirst⟩ hmasked
  · intro hnone
    cases hfirst.symm.trans hnone
  · intro hfalse _ _
    cases b with
    | false => exact absurd hfirst hfalse
    | true => rfl

theorem tells_of_present {raw : Json} (hpresent : get "successful" raw ≠ none)
    (hfirst : verdictAt "successful" raw = none) (hmasked : ¬ Masked raw) :
    Tells raw (executeResponseFromV3 raw).successful := by
  have hread := successful_of_present hpresent hfirst
  refine ⟨?_, ?_, ?_⟩
  · rintro (hfalse | hfalse)
    · cases hfirst.symm.trans hfalse
    · rw [← Bool.not_eq_true, hread]
      intro herror
      exact hmasked ⟨hfalse, .inr ⟨hfirst, hpresent, herror⟩⟩
  · intro _ _ herror
    rw [← Bool.not_eq_true, hread]
    exact not_not.mpr herror
  · intro _ _ herror
    exact hread.mpr herror

/-- Without a `successful` nothing is masked. -/
theorem tells_of_absent {raw : Json} (habsent : get "successful" raw = none)
    (hfirst : verdictAt "successful" raw = none) :
    Tells raw (executeResponseFromV3 raw).successful := by
  rw [successful_of_absent habsent]
  cases hsecond : verdictAt "success" raw with
  | some b =>
    rw [Option.getD_some]
    refine ⟨?_, ?_, ?_⟩
    · rintro (hfalse | hfalse)
      · cases hfirst.symm.trans hfalse
      · exact Option.some_inj.mp (hsecond.symm.trans hfalse)
    · intro _ hnone
      cases hsecond.symm.trans hnone
    · intro _ hfalse _
      cases b with
      | false => exact absurd hsecond hfalse
      | true => rfl
  | none =>
    rw [Option.getD_none]
    refine ⟨?_, ?_, ?_⟩
    · rintro (hfalse | hfalse)
      · cases hfirst.symm.trans hfalse
      · cases hsecond.symm.trans hfalse
    · intro _ _ herror
      rw [(hasError_iff raw).mpr herror, Bool.not_true]
    · intro _ _ herror
      rw [Bool.not_eq_true', ← Bool.not_eq_true, hasError_iff]
      exact herror

/-- The verdict that is read is the one the reply gives, unless that is masked. -/
theorem tells_iff (raw : Json) : Tells raw (executeResponseFromV3 raw).successful ↔
    ¬ Masked raw := by
  constructor
  · rintro htells ⟨hfalse, htrue | ⟨hnone, hpresent, herror⟩⟩
    · have hread := htells.failed (.inr hfalse)
      rw [successful_of_some htrue] at hread
      cases hread
    · have hread := htells.failed (.inr hfalse)
      rw [(successful_of_present hpresent hnone).mpr herror] at hread
      cases hread
  · intro hmasked
    cases hfirst : verdictAt "successful" raw with
    | some b =>
      rw [successful_of_some hfirst]
      exact tells_of_some hfirst hmasked
    | none =>
      by_cases hpresent : get "successful" raw = none
      · exact tells_of_absent hpresent hfirst
      · exact tells_of_present hpresent hfirst hmasked

/-! ## Runs over the direct route -/

/-- The route has answered one `execute` with `reply`. -/
def Answered (route : Route) (call : Execute.Call) (answers : List Answer)
    (reply : Execute.Reply Error) : Prop :=
  (execute route call.tool call.arguments call.connectionId).run.result answers = some reply

/-- The last request of that `execute`, which is the execute itself, was replied to with `raw`. -/
def RepliedWith (route : Route) (call : Execute.Call) (answers : List Answer) (raw : Json) : Prop :=
  ∃ before request, (execute route call.tool call.arguments call.connectionId).run.exchanges
    answers =
    before ++ [(request, .replied (.ok raw))]

/-- A value of the route's `execute` is its last reply, reshaped. -/
theorem yields_execute (route : Route) (tool : String) (arguments : Json)
    (connectionId : Option String) :
    Yields (fun _ _ => True) (fun past response => ∃ before request raw,
      past = before ++ [(request, Answer.replied (.ok raw))] ∧ response = executeResponseFromV3 raw)
      [] (execute route tool arguments connectionId) := by
  have hentity : ∀ past : Past,
      Yields (fun _ _ => True) (fun _ _ => True) past (executeEntity route connectionId) := by
    intro past
    cases connectionId with
    | none => exact Yields.pure trivial
    | some id =>
      refine Yields.bind ?_
      refine (yields_accountOwner (fun _ _ => trivial) id).mono ?_
      intro later owner _ _
      exact Yields.pure trivial
  rw [execute]
  refine Yields.bind ?_
  refine Yields.liftExcept ?_
  intro named _ _
  refine Yields.bind ?_
  refine (hentity []).mono ?_
  intro later entityId _ _
  refine Yields.bind ?_
  refine yields_call trivial ?_
  intro raw _
  exact Yields.pure ⟨later, _, raw, rfl, rfl⟩

theorem reshaped_of_answered {route : Route} {call : Execute.Call} {answers : List Answer}
    {raw : Json} {response : ComposioExecuteResponse}
    (hanswered : Answered route call answers (.ok response))
    (hraw : RepliedWith route call answers raw) : response = executeResponseFromV3 raw := by
  obtain ⟨before, request, found, hpast, rfl⟩ :=
    (yields_execute route call.tool call.arguments call.connectionId).good_of_result hanswered
  obtain ⟨before', request', hraw⟩ := hraw
  have hlast := List.append_inj' (hpast.symm.trans hraw) rfl
  cases List.singleton_inj.mp hlast.2
  rfl

/-- Whatever is executed over the route, and however often: where the last execute
was replied to with `raw`, the verdict that is returned is the one `raw` gives. -/
def ReportsVerdict (raw : Json) : Prop :=
  ∀ (route : Route) (tool : String) (arguments : Option Json) (connectionId : Option String)
    (answers : ℕ → List Answer) (replies : ℕ → Execute.Reply Error)
    (before : List (Execute.Call × Execute.Reply Error)) (call : Execute.Call)
    (reply : Execute.Reply Error) (response : ComposioExecuteResponse),
    (Execute.executeAction tool arguments connectionId).transcript replies =
      before ++ [(call, reply)] →
    Answered route call (answers before.length) reply →
    RepliedWith route call (answers before.length) raw →
    (Execute.executeAction tool arguments connectionId).outcome replies = .ok response →
    Tells raw response.successful

/-- Wording a failure does not undo it. -/
@[simp] theorem successful_formatFailure (tool : String) (response : ComposioExecuteResponse) :
    (Execute.formatFailure tool response).successful = response.successful := by
  unfold Execute.formatFailure
  split_ifs
  · rfl
  · rfl

/-- The retries and the wording of a failure leave the last verdict as it is. -/
theorem exists_last_reply {tool : String} {arguments : Option Json} {connectionId : Option String}
    {replies : ℕ → Execute.Reply Error} {before : List (Execute.Call × Execute.Reply Error)}
    {call : Execute.Call} {reply : Execute.Reply Error} {response : ComposioExecuteResponse}
    (htrace : (Execute.executeAction tool arguments connectionId).transcript replies =
      before ++ [(call, reply)])
    (houtcome : (Execute.executeAction tool arguments connectionId).outcome replies =
      .ok response) :
    ∃ last, reply = .ok last ∧ response.successful = last.successful := by
  cases hprepared : prepareExecuteArguments (trim tool) arguments with
  | error fault =>
    simp only [Execute.executeAction, hprepared] at houtcome
    cases houtcome
  | ok prepared =>
    obtain ⟨-, found, ⟨before', call', hlast⟩, hresult⟩ :=
      (Execute.ensures_executeAction connectionId hprepared).transcript replies
    rw [List.nil_append, htrace] at hlast
    cases List.singleton_inj.mp (List.append_inj' hlast rfl).2
    rw [houtcome] at hresult
    cases reply with
    | error e => cases hresult
    | ok last =>
      refine ⟨last, rfl, ?_⟩
      rw [show response = Execute.formatFailure (trim tool) last from Except.ok.inj hresult,
        successful_formatFailure]

/-- An execute without a connection is one request. -/
theorem execute_none (route : Route) {tool named : String} (hnamed : segment tool tool = .ok named)
    (arguments : Json) : ∃ request, (execute route tool arguments none).run =
      .ask request fun answer => .done (answer.outcome.map executeResponseFromV3) := by
  refine ⟨.post ("/tools/execute/" ++ named) (executeBody route.entityId arguments none), ?_⟩
  rw [execute, hnamed]
  show Prog.ask _ _ = Prog.ask _ _
  apply congrArg (Prog.ask _)
  funext answer
  show Prog.bind (.done answer.outcome) _ = _
  cases answer.outcome with
  | error e => rfl
  | ok raw => rfl

/-- An action of which every execute is replied to with a masked verdict is reported
as done. -/
theorem not_reportsVerdict_of_masked {raw : Json} (hmasked : Masked raw) :
    ¬ ReportsVerdict raw := by
  intro hreports
  let replies : ℕ → Execute.Reply Error := fun _ => .ok (executeResponseFromV3 raw)
  have hprepared : prepareExecuteArguments (trim "A") none = .ok (.obj []) := by decide +kernel
  obtain ⟨hmay, reply, ⟨before, call, hlast⟩, hresult⟩ :=
    (Execute.ensures_executeAction none hprepared).transcript replies
  rw [List.nil_append] at hlast
  have hreply : reply = .ok (executeResponseFromV3 raw) := by
    obtain ⟨n, hn⟩ := mem_transcript (hlast ▸ List.mem_append_right before List.mem_cons_self)
    exact hn
  rw [hreply] at hresult
  obtain ⟨htool, -, hconnection⟩ := (hmay before (call, reply) [] hlast).same
  obtain ⟨request, hexecute⟩ := execute_none (Route.new "")
    (show segment call.tool call.tool = .ok "A" by rw [htool]; decide +kernel) call.arguments
  rw [← show call.connectionId = none from hconnection] at hexecute
  have htells :=
    hreports (Route.new "") "A" none none (fun _ => [.replied (.ok raw)]) replies before
    call reply _ hlast ?_ ⟨[], request, ?_⟩ hresult
  · rw [successful_formatFailure] at htells
    exact (tells_iff raw).mp htells hmasked
  · rw [Answered, hexecute, hreply]
    rfl
  · rw [hexecute]
    rfl

/-- A verdict is reported as the reply gives it, unless it is masked. -/
theorem reportsVerdict_iff (raw : Json) : ReportsVerdict raw ↔ ¬ Masked raw := by
  constructor
  · exact fun hreports hmasked => not_reportsVerdict_of_masked hmasked hreports
  · intro hmasked route tool arguments connectionId answers replies before call reply
      response htrace
      hanswered hraw houtcome
    obtain ⟨last, rfl, hsame⟩ := exists_last_reply htrace houtcome
    rw [hsame, reshaped_of_answered hanswered hraw]
    exact (tells_iff raw).mpr hmasked

/-- A null under `successful` hides that `success` is false. -/
theorem not_reportsVerdict_null :
    ¬ ReportsVerdict (.obj [("success", .bool false), ("successful", .null)]) := by
  apply not_reportsVerdict_of_masked
  have hnull : SchemaWalk.get "successful"
      (.obj [("success", .bool false), ("successful", .null)]) = some .null := rfl
  refine ⟨rfl, .inr ⟨rfl, by rw [hnull]; exact Option.some_ne_none _, ?_⟩⟩
  rintro ⟨error, herror, -⟩
  cases herror

end Direct
