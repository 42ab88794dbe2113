/-
# What the proxy route sends

`client/route/proxy.rs`: every member of the proxy route is one request to the backend,
with the values that came over the bus in its path, its query and its body.  A reader that
parts the path at its slashes, takes parameters by their names and decodes what it finds
gets back what the route was asked for; and two calls send the same request only where
they ask for the same thing.
-/
import TinyConnectors.Client.Operations
import TinyConnectors.Direct.UrlValues

open RustStr SchemaWalk Direct Client

namespace Proxy

/-! ## Requests -/

/-- An optional parameter, behind a mark. -/
def withParameter (mark : String) (value : Option String) (path : String) : String :=
  value.elim path fun value => path ++ mark ++ encode value

/-- The path of a tools listing. -/
def toolsPath (toolkits tags : List String) : String :=
  let query := ((commaJoined toolkits).map ("toolkits=" ++ ·)).toList ++
    ((commaJoined tags).map ("tags=" ++ ·)).toList
  if query = [] then "/agent-integrations/composio/tools"
  else "/agent-integrations/composio/tools?" ++ String.intercalate "&" query

/-- The body of an execute. -/
def executeBody (tool : String) (arguments : Json) (connectionId : Option String) : Json :=
  let body := [("arguments", arguments), ("tool", .str tool)]
  .obj (connectionId.elim body fun id => Json.insert "connectionId" (.str id) body)

/-- The configuration of a trigger, at the end of a body. -/
def withConfig (triggerConfig : Option Json) (body : List (String × Json)) : Json :=
  .obj (triggerConfig.elim body fun config => Json.insert "triggerConfig" config body)

/-- The body of a `create_trigger`. -/
def createBody (slug : String) (connectionId : Option String) (triggerConfig : Option Json) :
    Json :=
  let body := [("slug", .str slug)]
  withConfig triggerConfig (connectionId.elim body fun id => Json.insert "connectionId"
    (.str id) body)

/-- The body of an `enable_trigger`. -/
def enableBody (connectionId slug : String) (triggerConfig : Option Json) : Json :=
  withConfig triggerConfig [("connectionId", .str connectionId), ("slug", .str slug)]

/-- What a member of `ProxyRoute` sends. -/
def request : RouteRequest → Except Direct.Error Request
  | .listToolkits => .ok (.get "/agent-integrations/composio/toolkits")
  | .listConnections => .ok (.get "/agent-integrations/composio/connections")
  | .authorize _ body => .ok (.post "/agent-integrations/composio/authorize" body)
  | .listTools toolkits tags => .ok (.get (toolsPath toolkits tags))
  | .execute tool arguments connectionId =>
    .ok (.post "/agent-integrations/composio/execute" (executeBody tool arguments connectionId))
  | .deleteConnection connectionId => do
    let named ← segment connectionId "connection_id"
    return .delete ("/agent-integrations/composio/connections/" ++ named)
  | .listGithubRepos connectionId =>
    .ok (.get (withParameter "?connectionId=" connectionId
      "/agent-integrations/composio/github/repos"))
  | .listAvailableTriggers toolkit connectionId =>
    .ok (.get (withParameter "&connectionId=" connectionId
      ("/agent-integrations/composio/triggers/available?toolkit=" ++ encode toolkit)))
  | .listTriggers toolkit =>
    .ok (.get (withParameter "?toolkit=" toolkit "/agent-integrations/composio/triggers"))
  | .createTrigger slug connectionId triggerConfig =>
    .ok (.post "/agent-integrations/composio/triggers" (createBody slug connectionId triggerConfig))
  | .enableTrigger connectionId slug triggerConfig =>
    .ok (.post "/agent-integrations/composio/triggers" (enableBody connectionId slug triggerConfig))
  | .disableTrigger triggerId => do
    let named ← segment triggerId "trigger_id"
    return .delete ("/agent-integrations/composio/triggers/" ++ named)

/-! ## Reading a request -/

/-- The text of a value in a URL, where its bytes are one. -/
def textOf (value : List Char) : Option String := String.fromUTF8? (percentDecode value).toByteArray

/-- The segments of a path. -/
def resource (url : List Char) : List String := (pathSegments url).map String.ofList

/-- The value of one parameter, if it has this key. -/
def valueOf (key : String) (written : List Char) : Option (List Char) :=
  (splitOnceChars '=' written).bind fun parts => if parts.1 = key.toList then some parts.2 else none

/-- The first parameter of this key. -/
def parameter (key : String) (url : List Char) : Option (List Char) :=
  (queryParameters url).findSome? (valueOf key)

/-- A parameter that may be missing. -/
def optionalText (key : String) (url : List Char) : Option (Option String) :=
  match parameter key url with
  | none => some none
  | some value => (textOf value).map some

/-- A list of values between commas, empty where the parameter is missing. -/
def listedTexts (key : String) (url : List Char) : Option (List String) :=
  match parameter key url with
  | none => some []
  | some value => (value.splitOn ',').mapM textOf

/-- A field that is a string, or is missing. -/
def optionalStr (key : String) (fields : List (String × Json)) : Option (Option String) :=
  match Json.field key fields with
  | none => some none
  | some value => value.asStr.map some

/-- A `GET`, read. -/
def readGet (url : List Char) : Option RouteRequest :=
  match resource url with
  | ["", "agent-integrations", "composio", "toolkits"] => some .listToolkits
  | ["", "agent-integrations", "composio", "connections"] => some .listConnections
  | ["", "agent-integrations", "composio", "tools"] => do
    let toolkits ← listedTexts "toolkits" url
    let tags ← listedTexts "tags" url
    return .listTools toolkits tags
  | ["", "agent-integrations", "composio", "github", "repos"] =>
    (optionalText "connectionId" url).map .listGithubRepos
  | ["", "agent-integrations", "composio", "triggers", "available"] => do
    let toolkit ← (parameter "toolkit" url).bind textOf
    let connectionId ← optionalText "connectionId" url
    return .listAvailableTriggers toolkit connectionId
  | ["", "agent-integrations", "composio", "triggers"] =>
    (optionalText "toolkit" url).map .listTriggers
  | _ => none

/-- A `POST`, read. -/
def readPost (url : List Char) (body : Json) : Option RouteRequest :=
  match resource url with
  -- the body names the toolkit
  | ["", "agent-integrations", "composio", "authorize"] => some (.authorize "" body)
  | ["", "agent-integrations", "composio", "execute"] => do
    let fields ← asObject body
    let tool ← (Json.field "tool" fields).bind Json.asStr
    let arguments ← Json.field "arguments" fields
    let connectionId ← optionalStr "connectionId" fields
    return .execute tool arguments connectionId
  | ["", "agent-integrations", "composio", "triggers"] => do
    let fields ← asObject body
    let slug ← (Json.field "slug" fields).bind Json.asStr
    let connectionId ← optionalStr "connectionId" fields
    return .createTrigger slug connectionId (Json.field "triggerConfig" fields)
  | _ => none

/-- A `DELETE`, read. -/
def readDelete (url : List Char) : Option RouteRequest :=
  match resource url with
  | ["", "agent-integrations", "composio", "connections", id] =>
    (textOf id.toList).map .deleteConnection
  | ["", "agent-integrations", "composio", "triggers", id] => (textOf id.toList).map .disableTrigger
  | _ => none

/-- What a request asks for. -/
def read : Request → Option RouteRequest
  | .get path => readGet path.toList
  | .post path body => readPost path.toList body
  | .delete path => readDelete path.toList

/-- What of a call reaches the backend: values without the white space around them, and an
`enable_trigger` as the `create_trigger` of its connection. -/
def meaning : RouteRequest → RouteRequest
  | .authorize _ body => .authorize "" body
  | .listTools toolkits tags => .listTools (sentValues toolkits) (sentValues tags)
  | .deleteConnection connectionId => .deleteConnection (trim connectionId)
  | .listGithubRepos connectionId => .listGithubRepos (connectionId.map trim)
  | .listAvailableTriggers toolkit connectionId =>
    .listAvailableTriggers (trim toolkit) (connectionId.map trim)
  | .listTriggers toolkit => .listTriggers (toolkit.map trim)
  | .enableTrigger connectionId slug triggerConfig =>
      .createTrigger slug (some connectionId) triggerConfig
  | .disableTrigger triggerId => .disableTrigger (trim triggerId)
  | request => request

/-! ## Targets -/

/-- A text that parts nothing. -/
def Plain (text : String) : Prop := ∀ c ∈ text.toList, c ∉ SEPARATORS

instance : DecidablePred Plain := fun text =>
  decidable_of_iff ((text.toList.all fun c => !SEPARATORS.contains c) = true) (by simp [Plain])

/-- A path of these segments, with these parameters. -/
def target (segments : List String) (parameters : List (String × String)) : List Char :=
  segments.flatMap (fun text => '/' :: text.toList) ++
    if parameters = [] then []
    else '?' :: ['&'].intercalate (parameters.map fun p => p.1.toList ++ '=' :: p.2.toList)

/-- Nothing in a target parts it but what is written between its values. -/
structure Parted (segments : List String) (parameters : List (String × String)) : Prop where
  segments : ∀ text ∈ segments, Plain text
  parameters : ∀ p ∈ parameters, Plain p.1 ∧ Plain p.2

theorem plain_encode (value : String) : Plain (encode value) :=
  fun c hc => ((standsFor_encode value).free c hc).1

/-- Values that are joined have only commas between them. -/
theorem mem_commaJoined {values : List String} {text : String} (h : commaJoined values = some text)
    {c : Char} (hc : c ∈ text.toList) : c = ',' ∨ ∃ value, c ∈ (encode value).toList := by
  rw [commaJoined_eq] at h
  split_ifs at h
  obtain rfl := Option.some_inj.mp h
  rw [String.toList_intercalate] at hc
  rcases mem_intercalate hc with hsep | ⟨written, hwritten, hc⟩
  · exact .inl (List.mem_singleton.mp hsep)
  · rw [List.map_map] at hwritten
    obtain ⟨value, -, rfl⟩ := List.mem_map.mp hwritten
    exact .inr ⟨value, hc⟩

theorem plain_commaJoined {values : List String} {text : String}
    (h : commaJoined values = some text) :
    Plain text := by
  intro c hc
  rcases mem_commaJoined h hc with rfl | ⟨value, hc⟩
  · decide
  · exact plain_encode value c hc

theorem intercalate_cons {α : Type} (sep text : List α) (texts : List (List α)) :
    sep.intercalate (text :: texts) = text ++ texts.flatMap (sep ++ ·) := by
  induction texts generalizing text with
  | nil => simp [List.intercalate]
  | cons next texts ih =>
    rw [List.flatMap_cons, ← List.append_assoc, List.append_assoc, List.append_assoc, ← ih next]
    simp [List.intercalate]

section Targets

variable {segments : List String} {parameters : List (String × String)}
  (h : Parted segments parameters)
include h

theorem mem_segments {c : Char} (hc : c ∈ segments.flatMap fun text => '/' :: text.toList) :
    c = '/' ∨ c ∉ SEPARATORS := by
  obtain ⟨text, htext, hc⟩ := List.mem_flatMap.mp hc
  exact (List.mem_cons.mp hc).imp_right (h.segments text htext c)

/-- The path is read back. -/
theorem resource_target : resource (target segments parameters) = "" :: segments := by
  have hrun : ∀ c ∈ segments.flatMap (fun text => '/' :: text.toList),
      (c ≠ '?' && c ≠ '#') = true := by
    intro c hc
    rcases mem_segments h hc with rfl | hfree
    · rfl
    · simp only [SEPARATORS, List.mem_cons, not_or] at hfree
      simp [hfree.2.1, hfree.2.2.2.2.1]
  have hpath : segments.flatMap (fun text => '/' :: text.toList) =
      ['/'].intercalate ([] :: segments.map String.toList) := by
    rw [intercalate_cons, List.nil_append, List.flatMap_map]
    rfl
  have hslash : ∀ text ∈ [] :: segments.map String.toList, '/' ∉ text := by
    intro text htext
    rcases List.mem_cons.mp htext with rfl | htext
    · exact List.not_mem_nil
    · obtain ⟨named, hnamed, rfl⟩ := List.mem_map.mp htext
      exact fun hmem => h.segments named hnamed '/' hmem (by decide)
  rw [resource, pathSegments, target, List.takeWhile_append_of_pos hrun]
  have hrest : List.takeWhile (fun c => c ≠ '?' && c ≠ '#') (if parameters = [] then []
      else '?' :: ['&'].intercalate (parameters.map fun p => p.1.toList ++ '=' :: p.2.toList)) =
        [] := by
    split_ifs <;> rfl
  rw [hrest, List.append_nil, hpath, List.splitOn_intercalate _ hslash (List.cons_ne_nil _ _),
    List.map_cons, List.map_map]
  simp [Function.comp_def]

/-- The parameters are read back. -/
theorem queryParameters_target : queryParameters (target segments parameters) =
    parameters.map fun p => p.1.toList ++ '=' :: p.2.toList := by
  have hplain : ∀ p ∈ parameters, ∀ c ∈ p.1.toList ++ '=' :: p.2.toList, c ≠ '#' ∧ c ≠ '&' := by
    have hdistinct : ∀ c, c ∉ SEPARATORS → c ≠ '#' ∧ c ≠ '&' := by
      intro c hc
      simp only [SEPARATORS, List.mem_cons, not_or] at hc
      exact ⟨hc.2.2.2.2.1, hc.2.2.1⟩
    intro p hp c hc
    obtain ⟨hkey, hvalue⟩ := h.parameters p hp
    rcases List.mem_append.mp hc with hc | hc
    · exact hdistinct c (hkey c hc)
    · rcases List.mem_cons.mp hc with rfl | hc
      · decide
      · exact hdistinct c (hvalue c hc)
  have hpath : ∀ c ∈ segments.flatMap (fun text => '/' :: text.toList), c ≠ '#' ∧ c ≠ '?' := by
    intro c hc
    rcases mem_segments h hc with rfl | hfree
    · decide
    · simp only [SEPARATORS, List.mem_cons, not_or] at hfree
      exact ⟨hfree.2.2.2.2.1, hfree.2.1⟩
  -- what is written holds no separator, so the first `?` ends the path
  rw [queryParameters, target,
    List.takeWhile_append_of_pos fun c hc => decide_eq_true (hpath c hc).1]
  by_cases hnone : parameters = []
  · rw [if_pos hnone, hnone, List.takeWhile_nil, List.append_nil,
      List.dropWhile_eq_nil_iff.mpr fun c hc => decide_eq_true (hpath c hc).2]
    rfl
  · have hquery : ∀ c ∈ '?' :: ['&'].intercalate
        (parameters.map fun p => p.1.toList ++ '=' :: p.2.toList), decide (c ≠ '#') = true := by
      intro c hc
      apply decide_eq_true
      rcases List.mem_cons.mp hc with rfl | hc
      · decide
      · rcases mem_intercalate hc with hsep | ⟨written, hwritten, hc⟩
        · rw [List.mem_singleton.mp hsep]
          decide
        · obtain ⟨p, hp, rfl⟩ := List.mem_map.mp hwritten
          exact (hplain p hp c hc).1
    rw [if_neg hnone, List.takeWhile_eq_self_iff.mpr hquery,
      List.dropWhile_append_of_pos fun c hc => decide_eq_true (hpath c hc).2]
    show List.splitOn '&' (['&'].intercalate _) = _
    apply List.splitOn_intercalate
    · intro written hwritten hamp
      obtain ⟨p, hp, rfl⟩ := List.mem_map.mp hwritten
      exact (hplain p hp '&' hamp).2 rfl
    · simpa using hnone

/-- A parameter is found under its key. -/
theorem parameter_target (key : String) :
    parameter key (target segments parameters) = (parameters.lookup key).map String.toList := by
  rw [parameter, queryParameters_target h, List.findSome?_map]
  have hkeys := h.parameters
  clear h
  induction parameters with
  | nil => rfl
  | cons p rest ih =>
    obtain ⟨k, v⟩ := p
    have hk : '=' ∉ k.toList := fun hmem => (hkeys _ List.mem_cons_self).1 '=' hmem (by decide)
    have hsplit : splitOnceChars '=' (k.toList ++ '=' :: v.toList) = some (k.toList, v.toList) :=
      splitOnceChars_eq_some.mpr ⟨rfl, hk⟩
    have hvalue : valueOf key (k.toList ++ '=' :: v.toList) =
        if k = key then some v.toList else none := by
      simp only [valueOf, hsplit, Option.bind_some, String.toList_inj]
    rw [List.findSome?_cons, Function.comp_apply, hvalue, List.lookup_cons]
    by_cases hsame : k = key
    · rw [if_pos hsame, hsame, beq_self_eq_true]
      rfl
    · rw [if_neg hsame, beq_eq_false_iff_ne.mpr (Ne.symm hsame)]
      exact ih fun p hp => hkeys p (List.mem_cons_of_mem _ hp)

end Targets

/-! ## Values read back -/

theorem textOf_encode (value : String) : textOf (encode value).toList = some (trim value) := by
  rw [textOf, (standsFor_encode value).decodes, ← toByteArray_eq, String.fromUTF8?,
    dif_pos (trim value).isValidUTF8]
  rfl

theorem mapM_textOf (values : List String) :
    (values.map fun value => (encode value).toList).mapM textOf = some (values.map trim) := by
  induction values with
  | nil => rfl
  | cons value values ih =>
    rw [List.map_cons, List.mapM_cons, textOf_encode, ih]
    rfl

theorem map_trim_sentValues (values : List String) :
    (sentValues values).map trim = sentValues values := by
  have hsame : (sentValues values).map trim = (sentValues values).map id :=
    List.map_congr_left fun value hvalue => (clean_of_mem_sentValues hvalue).1
  rw [hsame, List.map_id]

section Values

variable {segments : List String} {parameters : List (String × String)}
  (h : Parted segments parameters)
include h

theorem optionalText_target {key : String} {value : Option String}
    (hvalue : parameters.lookup key = value.map encode) :
    optionalText key (target segments parameters) = some (value.map trim) := by
  rw [optionalText, parameter_target h, hvalue]
  cases value with
  | none => rfl
  | some value =>
    show (textOf (encode value).toList).map some = _
    rw [textOf_encode]
    rfl

theorem listedTexts_target {key : String} {values : List String}
    (hvalues : parameters.lookup key = commaJoined values) :
    listedTexts key (target segments parameters) = some (sentValues values) := by
  rw [listedTexts, parameter_target h, hvalues, commaJoined_eq]
  by_cases hnone : sentValues values = []
  · rw [if_pos hnone, hnone]
    rfl
  · rw [if_neg hnone]
    show (List.splitOn ',' (String.intercalate "," _).toList).mapM textOf = _
    rw [splitOn_joined hnone, mapM_textOf, map_trim_sentValues]

end Values

/-! ## Requests read back -/

/-- The words the paths are written with. -/
def pathWords : List String :=
  ["agent-integrations", "authorize", "available", "composio", "connectionId", "connections",
    "execute", "github", "repos", "tags", "toolkit", "toolkits", "tools", "triggers"]

theorem plain_pathWords : ∀ text ∈ pathWords, Plain text := by decide +kernel

theorem plain_of_subset {resource : List String} (h : resource ⊆ pathWords) :
    ∀ text ∈ resource, Plain text :=
  fun text htext => plain_pathWords text (h htext)

/-- A target under the prefix of the members. -/
theorem parted {resource : List String} (hresource : ∀ text ∈ resource, Plain text)
    {parameters : List (String × String)} (hparameters : ∀ p ∈ parameters, Plain p.1 ∧ Plain p.2) :
    Parted ("agent-integrations" :: "composio" :: resource) parameters where
  segments := List.forall_mem_cons.mpr ⟨plain_pathWords _ (by simp [pathWords]),
    List.forall_mem_cons.mpr ⟨plain_pathWords _ (by simp [pathWords]), hresource⟩⟩
  parameters := hparameters

/-- A parameter that is left out where there is no value. -/
def optionalParameter (key : String) (value : Option String) : List (String × String) :=
  (value.map fun value => (key, encode value)).toList

theorem plain_optionalParameter {key : String} (hkey : Plain key) (value : Option String) :
    ∀ p ∈ optionalParameter key value, Plain p.1 ∧ Plain p.2 := by
  intro p hp
  obtain ⟨given, -, rfl⟩ := Option.map_eq_some_iff.mp (Option.mem_toList.mp hp)
  exact ⟨hkey, plain_encode given⟩

theorem lookup_optionalParameter (key : String) (value : Option String) :
    (optionalParameter key value).lookup key = value.map encode := by
  cases value with
  | none => rfl
  | some value => exact List.lookup_cons_self

/-- The parameters of a tools listing. -/
def toolsParameters (toolkits tags : List String) : List (String × String) :=
  ((commaJoined toolkits).map fun joined => ("toolkits", joined)).toList ++
    ((commaJoined tags).map fun joined => ("tags", joined)).toList

theorem toList_toolsPath (toolkits tags : List String) :
    (toolsPath toolkits tags).toList =
      target ["agent-integrations", "composio", "tools"] (toolsParameters toolkits tags) := by
  unfold toolsPath toolsParameters
  cases commaJoined toolkits <;> cases commaJoined tags <;> simp [target, String.toList_append]

theorem read_listTools (toolkits tags : List String) :
    readGet (toolsPath toolkits tags).toList =
      some (.listTools (sentValues toolkits) (sentValues tags)) := by
  have hparted : Parted ["agent-integrations", "composio",
      "tools"] (toolsParameters toolkits tags) := by
    refine parted (plain_of_subset (by simp [pathWords])) ?_
    intro p hp
    rcases List.mem_append.mp hp with hp | hp <;>
      obtain ⟨joined, hjoined, rfl⟩ := Option.map_eq_some_iff.mp (Option.mem_toList.mp hp) <;>
      refine ⟨?_, plain_commaJoined hjoined⟩
    · exact plain_pathWords "toolkits" (by simp [pathWords])
    · exact plain_pathWords "tags" (by simp [pathWords])
  have htoolkits : (toolsParameters toolkits tags).lookup "toolkits" = commaJoined toolkits := by
    unfold toolsParameters
    cases commaJoined toolkits <;> cases commaJoined tags <;> rfl
  have htags : (toolsParameters toolkits tags).lookup "tags" = commaJoined tags := by
    unfold toolsParameters
    cases commaJoined toolkits <;> cases commaJoined tags <;> rfl
  rw [toList_toolsPath, readGet, resource_target hparted]
  show (do
    let toolkits ← listedTexts "toolkits" _
    let tags ← listedTexts "tags" _
    return RouteRequest.listTools toolkits tags) = _
  rw [listedTexts_target hparted htoolkits, listedTexts_target hparted htags]
  rfl

theorem read_listGithubRepos (connectionId : Option String) :
    readGet (withParameter "?connectionId=" connectionId
      "/agent-integrations/composio/github/repos").toList =
      some (.listGithubRepos (connectionId.map trim)) := by
  have hpath : (withParameter "?connectionId=" connectionId
      "/agent-integrations/composio/github/repos").toList =
      target ["agent-integrations", "composio", "github", "repos"]
        (optionalParameter "connectionId" connectionId) := by
    cases connectionId <;> simp [withParameter, target, optionalParameter, String.toList_append]
  have hparted : Parted ["agent-integrations", "composio", "github", "repos"]
      (optionalParameter "connectionId" connectionId) :=
    parted (plain_of_subset (by simp [pathWords]))
      (plain_optionalParameter (plain_pathWords _ (by simp [pathWords])) connectionId)
  rw [hpath, readGet, resource_target hparted]
  show (optionalText "connectionId" _).map _ = _
  rw [optionalText_target hparted (lookup_optionalParameter _ connectionId)]
  rfl

theorem read_listTriggers (toolkit : Option String) :
    readGet (withParameter "?toolkit=" toolkit "/agent-integrations/composio/triggers").toList =
      some (.listTriggers (toolkit.map trim)) := by
  have hpath : (withParameter "?toolkit=" toolkit "/agent-integrations/composio/triggers").toList =
      target ["agent-integrations", "composio", "triggers"]
      (optionalParameter "toolkit" toolkit) := by
    cases toolkit <;> simp [withParameter, target, optionalParameter, String.toList_append]
  have hparted : Parted ["agent-integrations", "composio", "triggers"]
      (optionalParameter "toolkit" toolkit) :=
    parted (plain_of_subset (by simp [pathWords]))
      (plain_optionalParameter (plain_pathWords _ (by simp [pathWords])) toolkit)
  rw [hpath, readGet, resource_target hparted]
  show (optionalText "toolkit" _).map _ = _
  rw [optionalText_target hparted (lookup_optionalParameter _ toolkit)]
  rfl

/-- The parameters of a listing of available triggers. -/
def availableParameters (toolkit : String) (connectionId : Option String) :
    List (String × String) :=
  ("toolkit", encode toolkit) :: optionalParameter "connectionId" connectionId

theorem read_listAvailableTriggers (toolkit : String) (connectionId : Option String) :
    readGet (withParameter "&connectionId=" connectionId
        ("/agent-integrations/composio/triggers/available?toolkit=" ++ encode toolkit)).toList =
      some (.listAvailableTriggers (trim toolkit) (connectionId.map trim)) := by
  have hpath : (withParameter "&connectionId=" connectionId
      ("/agent-integrations/composio/triggers/available?toolkit=" ++ encode toolkit)).toList =
      target ["agent-integrations", "composio", "triggers", "available"]
        (availableParameters toolkit connectionId) := by
    cases connectionId <;>
      simp [withParameter, target, availableParameters, optionalParameter, String.toList_append]
  have hparted : Parted ["agent-integrations", "composio", "triggers", "available"]
      (availableParameters toolkit connectionId) := by
    refine parted (plain_of_subset (by simp [pathWords]))
      (List.forall_mem_cons.mpr ⟨⟨?_, plain_encode toolkit⟩, ?_⟩)
    · exact plain_pathWords "toolkit" (by simp [pathWords])
    · exact plain_optionalParameter (plain_pathWords _ (by simp [pathWords])) connectionId
  have htoolkit : (parameter "toolkit" (target
      ["agent-integrations", "composio", "triggers", "available"]
      (availableParameters toolkit connectionId))).bind textOf = some (trim toolkit) := by
    rw [parameter_target hparted, availableParameters, List.lookup_cons_self, Option.map_some,
      Option.bind_some, textOf_encode]
  have hconnection : (availableParameters toolkit connectionId).lookup "connectionId" =
      connectionId.map encode := by
    have hother : ("connectionId" == "toolkit") = false := by decide
    rw [availableParameters, List.lookup_cons, hother]
    exact lookup_optionalParameter "connectionId" connectionId
  rw [hpath, readGet, resource_target hparted]
  show (do
    let toolkit ← (parameter "toolkit" _).bind textOf
    let connectionId ← optionalText "connectionId" _
    return RouteRequest.listAvailableTriggers toolkit connectionId) = _
  rw [htoolkit, optionalText_target hparted hconnection]
  rfl

/-- One item below a collection. -/
theorem resource_item {above collection : String} (hcollection : Plain collection)
    (habove : above.toList = target ["agent-integrations", "composio", collection] [] ++ ['/'])
    (value : String) :
    resource (above ++ encode value).toList =
      ["", "agent-integrations", "composio", collection, encode value] := by
  have hparted : Parted ["agent-integrations", "composio", collection, encode value] [] :=
    parted (List.forall_mem_cons.mpr ⟨hcollection,
      List.forall_mem_singleton.mpr (plain_encode value)⟩)
      (List.forall_mem_nil _)
  have hpath : (above ++ encode value).toList =
      target ["agent-integrations", "composio", collection, encode value] [] := by
    rw [String.toList_append, habove]
    simp [target]
  rw [hpath, resource_target hparted]

theorem read_deleteConnection (connectionId : String) :
    readDelete ("/agent-integrations/composio/connections/" ++ encode connectionId).toList =
      some (.deleteConnection (trim connectionId)) := by
  rw [readDelete, resource_item (plain_pathWords "connections" (by simp [pathWords]))
    (by simp [target])]
  show (textOf (encode connectionId).toList).map _ = _
  rw [textOf_encode]
  rfl

theorem read_disableTrigger (triggerId : String) :
    readDelete ("/agent-integrations/composio/triggers/" ++ encode triggerId).toList =
      some (.disableTrigger (trim triggerId)) := by
  rw [readDelete, resource_item (plain_pathWords "triggers" (by simp [pathWords]))
    (by simp [target])]
  show (textOf (encode triggerId).toList).map _ = _
  rw [textOf_encode]
  rfl

/-- A path without an identifier or a parameter. -/
theorem resource_plain {path : String} {resource : List String} (hresource : resource ⊆ pathWords)
    (hpath : path.toList = target ("agent-integrations" :: "composio" :: resource) []) :
    Proxy.resource path.toList = "" :: "agent-integrations" :: "composio" :: resource := by
  rw [hpath, resource_target (parted (plain_of_subset hresource) (List.forall_mem_nil _))]

/-! ### Bodies -/

theorem read_execute (tool : String) (arguments : Json) (connectionId : Option String) :
    readPost "/agent-integrations/composio/execute".toList
      (executeBody tool arguments connectionId) =
      some (.execute tool arguments connectionId) := by
  rw [readPost, resource_plain (show ["execute"] ⊆ pathWords by simp [pathWords])
    (by simp [target])]
  cases connectionId <;> rfl

theorem read_triggers (slug : String) (connectionId : Option String) (triggerConfig : Option Json)
    {body : List (String × Json)} (hslug : Json.field "slug" body = some (.str slug))
    (hconnection : Json.field "connectionId" body = connectionId.map .str)
    (hconfig : Json.field "triggerConfig" body = none) :
    readPost "/agent-integrations/composio/triggers".toList (withConfig triggerConfig body) =
      some (.createTrigger slug connectionId triggerConfig) := by
  rw [readPost, resource_plain (show ["triggers"] ⊆ pathWords by simp [pathWords])
    (by simp [target])]
  cases triggerConfig with
  | none =>
    show (do
      let slug ← (Json.field "slug" body).bind Json.asStr
      let connectionId ← optionalStr "connectionId" body
      return RouteRequest.createTrigger slug connectionId (Json.field "triggerConfig" body)) = _
    rw [hslug, optionalStr, hconnection, hconfig]
    cases connectionId <;> rfl
  | some config =>
    show (do
      let slug ← (Json.field "slug" (Json.insert "triggerConfig" config body)).bind Json.asStr
      let connectionId ← optionalStr "connectionId" (Json.insert "triggerConfig" config body)
      return RouteRequest.createTrigger slug connectionId
        (Json.field "triggerConfig" (Json.insert "triggerConfig" config body))) = _
    rw [optionalStr, Json.field_insert_of_ne (by decide), Json.field_insert_of_ne (by decide),
      Json.field_insert_self, hslug, hconnection]
    cases connectionId <;> rfl

/-! ## Round trip -/

/-- What is sent is read as what was meant. -/
theorem read_request {asked : RouteRequest} {sent : Request} (h : request asked = .ok sent) :
    read sent = some (meaning asked) := by
  cases asked with
  | listToolkits =>
    obtain rfl := Except.ok.inj h
    rw [read, readGet, resource_plain (show ["toolkits"] ⊆ pathWords by simp [pathWords])
      (by simp [target])]
    rfl
  | listConnections =>
    obtain rfl := Except.ok.inj h
    rw [read, readGet, resource_plain (show ["connections"] ⊆ pathWords by simp [pathWords])
      (by simp [target])]
    rfl
  | authorize toolkit body =>
    obtain rfl := Except.ok.inj h
    rw [read, readPost, resource_plain (show ["authorize"] ⊆ pathWords by simp [pathWords])
      (by simp [target])]
    rfl
  | listTools toolkits tags =>
    obtain rfl := Except.ok.inj h
    exact read_listTools toolkits tags
  | execute tool arguments connectionId =>
    obtain rfl := Except.ok.inj h
    exact read_execute tool arguments connectionId
  | deleteConnection connectionId =>
    obtain ⟨named, hnamed, hdone⟩ := exists_of_bind_ok h
    obtain rfl := Except.ok.inj hdone
    rw [eq_encode_of_segment hnamed]
    exact read_deleteConnection connectionId
  | listGithubRepos connectionId =>
    obtain rfl := Except.ok.inj h
    exact read_listGithubRepos connectionId
  | listAvailableTriggers toolkit connectionId =>
    obtain rfl := Except.ok.inj h
    exact read_listAvailableTriggers toolkit connectionId
  | listTriggers toolkit =>
    obtain rfl := Except.ok.inj h
    exact read_listTriggers toolkit
  | createTrigger slug connectionId triggerConfig =>
    obtain rfl := Except.ok.inj h
    apply read_triggers <;> cases connectionId <;> rfl
  | enableTrigger connectionId slug triggerConfig =>
    obtain rfl := Except.ok.inj h
    apply read_triggers <;> rfl
  | disableTrigger triggerId =>
    obtain ⟨named, hnamed, hdone⟩ := exists_of_bind_ok h
    obtain rfl := Except.ok.inj hdone
    rw [eq_encode_of_segment hnamed]
    exact read_disableTrigger triggerId

theorem commaJoined_sentValues {values : List String} :
    commaJoined (sentValues values) = commaJoined values := by
  have hsame : sentValues (sentValues values) = sentValues values := by
    conv_lhs => rw [sentValues, map_trim_sentValues]
    rw [List.filter_eq_self]
    intro value hvalue
    exact decide_eq_true (clean_of_mem_sentValues hvalue).2
  rw [commaJoined_eq, commaJoined_eq, hsame]

theorem segment_trim (value what : String) :
    Direct.segment (trim value) what = Direct.segment value what := by
  rw [Direct.segment, Direct.segment, trim_trim]

theorem withParameter_trim (mark : String) (value : Option String) (path : String) :
    withParameter mark (value.map trim) path = withParameter mark value path := by
  cases value with
  | none => rfl
  | some value =>
    show path ++ mark ++ encode (trim value) = _
    rw [encode_trim]
    rfl

/-- Nothing but the meaning is sent. -/
theorem request_meaning (asked : RouteRequest) : request (meaning asked) = request asked := by
  cases asked with
  | listTools toolkits tags =>
    show Except.ok (Request.get (toolsPath (sentValues toolkits) (sentValues tags))) = _
    rw [toolsPath, commaJoined_sentValues, commaJoined_sentValues]
    rfl
  | deleteConnection connectionId =>
    show (Direct.segment (trim connectionId) "connection_id" >>= _) = _
    rw [segment_trim]
    rfl
  | listGithubRepos connectionId =>
    rw [meaning, request, withParameter_trim, request]
  | listAvailableTriggers toolkit connectionId =>
    rw [meaning, request, withParameter_trim, encode_trim, request]
  | listTriggers toolkit =>
    rw [meaning, request, withParameter_trim, request]
  | disableTrigger triggerId =>
    show (Direct.segment (trim triggerId) "trigger_id" >>= _) = _
    rw [segment_trim]
    rfl
  | enableTrigger connectionId slug triggerConfig => cases triggerConfig <;> rfl
  | listToolkits | listConnections | authorize _ _ | execute _ _ _ | createTrigger _ _ _ => rfl

/-- A text of dots, or a blank one, cannot be a segment. -/
theorem item_eq_error_iff {value what : String} {f : String → Request} :
    (∃ e, (do let named ← Direct.segment value what; return f named : Except Direct.Error Request) =
      .error e) ↔
      ∀ c ∈ (trim value).toList, c = '.' := by
  have hdots : trim value = "" → ∀ c ∈ (trim value).toList, c = '.' := by
    intro hblank
    rw [hblank]
    exact List.forall_mem_nil _
  have hsegment : (∃ e, Direct.segment value what = .error e) ↔ _ := segment_eq_error_iff
  rw [← or_iff_right_of_imp hdots, ← hsegment]
  cases Direct.segment value what with
  | error e => exact iff_of_true ⟨e, rfl⟩ ⟨e, rfl⟩
  | ok named =>
    apply iff_of_false
    · rintro ⟨e, he⟩
      cases he
    · rintro ⟨e, he⟩
      cases he

/-- The identifier that becomes a segment of its own. -/
def itemOf : RouteRequest → Option String
  | .deleteConnection connectionId => some connectionId
  | .disableTrigger triggerId => some triggerId
  | _ => none

theorem request_eq_error_iff (asked : RouteRequest) :
    (∃ e, request asked = .error e) ↔
    ∃ id, itemOf asked = some id ∧ ∀ c ∈ (trim id).toList, c = '.' := by
  cases asked with
  | deleteConnection connectionId =>
    rw [request, item_eq_error_iff]
    simp [itemOf]
  | disableTrigger triggerId =>
    rw [request, item_eq_error_iff]
    simp [itemOf]
  | _ => simp [request, itemOf]

/-- What is clean stays it. -/
theorem clean_meaning {asked : RouteRequest} (h : ∀ text ∈ asked.identifiers, Clean text) :
    ∀ text ∈ (meaning asked).identifiers, Clean text := by
  have hoption : ∀ value : Option String, (∀ text ∈ value.toList, Clean text) →
      ∀ text ∈ (value.map trim).toList, Clean text := by
    intro value hvalue text htext
    obtain ⟨given, hgiven, rfl⟩ := Option.map_eq_some_iff.mp (Option.mem_toList.mp htext)
    have hclean := hvalue given (Option.mem_toList.mpr hgiven)
    rwa [hclean.1]
  have htrim : ∀ text, Clean text → Clean (trim text) := by
    intro text hclean
    rwa [hclean.1]
  cases asked with
  | deleteConnection id | disableTrigger id =>
    exact List.forall_mem_singleton.mpr (htrim id (List.forall_mem_singleton.mp h))
  | listGithubRepos value | listTriggers value => exact hoption value h
  | listAvailableTriggers toolkit value =>
    obtain ⟨htoolkit, hvalue⟩ := List.forall_mem_cons.mp h
    exact List.forall_mem_cons.mpr ⟨htrim toolkit htoolkit, hoption value hvalue⟩
  | enableTrigger connectionId slug triggerConfig =>
    obtain ⟨hconnection, hslug⟩ := List.forall_mem_cons.mp h
    exact List.forall_mem_cons.mpr ⟨List.forall_mem_singleton.mp hslug,
      List.forall_mem_singleton.mpr hconnection⟩
  | listToolkits | listConnections | authorize _ _ | listTools _ _ | execute _ _ _
  | createTrigger _ _ _ =>
    exact h

/-- What the backend can rely on. -/
structure RoundTrips : Prop where
  /-- Nothing is refused but an item that a URL parser would take for a step of the path. -/
  refused : ∀ asked, (∃ e, request asked = .error e) ↔
    ∃ id, itemOf asked = some id ∧ ∀ c ∈ (trim id).toList, c = '.'
  reads : ∀ asked sent, request asked = .ok sent → read sent = some (meaning asked)
  /-- One request, one meaning. -/
  same : ∀ asked sent other, request asked = .ok sent →
    (request other = .ok sent ↔ meaning other = meaning asked)
  /-- What an operation of the client sends names what it is about. -/
  named : ∀ op asked sent, Operation.asks op = .ok asked → request asked = .ok sent →
    ∃ got, read sent = some got ∧ ∀ text ∈ got.identifiers, Clean text

/-- The requests of the proxy route are read back as what was asked for. -/
theorem roundTrips : RoundTrips where
  refused := request_eq_error_iff
  reads asked sent := read_request
  same asked sent other h := by
    constructor
    · intro hother
      exact Option.some_inj.mp ((read_request hother).symm.trans (read_request h))
    · intro hmeaning
      rw [← request_meaning other, hmeaning, request_meaning, h]
  named op asked sent hop h := ⟨meaning asked, read_request h, clean_meaning (op.clean_of_asks hop)⟩

end Proxy
