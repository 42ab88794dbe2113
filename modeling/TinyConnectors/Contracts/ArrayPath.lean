/-
# The path to the primary array

The two walks of `contracts/schema_walk.rs` against what they are for: the path of a
shallowest array.  A walk knows a node by its path, and takes an empty path for the root.
An empty key leaves the path empty, so what is below it is taken for the root's: its path
loses the key, and the keys skipped at the root are skipped there too.
-/
import TinyConnectors.Contracts.SchemaWalk
import TinyConnectors.LevelOrder

namespace SchemaWalk

open LevelOrder

/-! ## What the walks are for -/

section Purpose

variable (members : Json → List (String × Json)) (isArray : Json → Bool)

/-- A sequence of keys leads from a value to another. -/
def LeadsTo : Json → List String → Json → Prop
  | node, [], target => node = target
  | node, key :: keys, target => ∃ child, (key, child) ∈ members node ∧ LeadsTo child keys target

/-- A sequence of keys that leads to an array, the first of which is not skipped. -/
def Eligible (root : Json) (skip : List String) (keys : List String) : Prop :=
  ∃ key rest target, keys = key :: rest ∧ key ∉ skip ∧ LeadsTo members root keys target ∧
    isArray target = true

/-- An eligible sequence that no other is shorter than. -/
def Shortest (root : Json) (skip : List String) (keys : List String) : Prop :=
  Eligible members isArray root skip keys ∧
    ∀ other, Eligible members isArray root skip other → keys.length ≤ other.length

/-- The keys of a sequence with dots between them. -/
def dotJoin (keys : List String) : String := String.intercalate "." keys

/-- The primary array path: that of a shallowest array, and none where there is no array. -/
structure PathLaw (root : Json) (skip : List String) (result : Option String) : Prop where
  absent : result = none ↔ ∀ keys, ¬ Eligible members isArray root skip keys
  shallowest : ∀ path, result = some path →
    ∃ keys, Shortest members isArray root skip keys ∧ dotJoin keys = path

theorem exists_shortest {root : Json} {skip keys : List String}
    (h : Eligible members isArray root skip keys) :
    ∃ keys, Shortest members isArray root skip keys := by
  classical
  have hsome : ∃ n, ∃ keys, Eligible members isArray root skip keys ∧ keys.length = n :=
    ⟨keys.length, keys, h, rfl⟩
  obtain ⟨shortest, heligible, hlen⟩ := Nat.find_spec hsome
  refine ⟨shortest, heligible, ?_⟩
  intro other hother
  rw [hlen]
  exact Nat.find_min' hsome ⟨other, hother, rfl⟩

variable {members}

/-- A sequence is extended at its end. -/
theorem leadsTo_concat {root target : Json} {keys : List String} {key : String} :
    LeadsTo members root (keys ++ [key]) target ↔
      ∃ node, LeadsTo members root keys node ∧ (key, target) ∈ members node := by
  induction keys generalizing root with
  | nil =>
    constructor
    · rintro ⟨child, hmem, rfl⟩
      exact ⟨root, rfl, hmem⟩
    · rintro ⟨node, rfl, hmem⟩
      exact ⟨target, hmem, rfl⟩
  | cons first keys ih =>
    constructor
    · rintro ⟨child, hchild, hrest⟩
      obtain ⟨node, hnode, hmem⟩ := ih.mp hrest
      exact ⟨node, ⟨child, hchild, hnode⟩, hmem⟩
    · rintro ⟨node, ⟨child, hchild, hnode⟩, hmem⟩
      exact ⟨child, hchild, ih.mpr ⟨node, hnode, hmem⟩⟩

end Purpose

/-! ## The paths of the walk -/

/-- The path the walk knows a node by. -/
def shown (keys : List String) : String := keys.foldl joinPath ""

theorem shown_concat (keys : List String) (key : String) :
    shown (keys ++ [key]) = joinPath (shown keys) key := by
  unfold shown
  rw [List.foldl_append, List.foldl_cons, List.foldl_nil]

theorem joinPath_eq_empty_iff {path key : String} :
    joinPath path key = "" ↔ path = "" ∧ key = "" := by
  unfold joinPath
  by_cases hpath : path = ""
  · rw [if_pos hpath]
    exact ⟨fun h => ⟨hpath, h⟩, fun h => h.2⟩
  · rw [if_neg hpath]
    refine iff_of_false ?_ fun h => hpath h.1
    intro h
    have hlist := congrArg String.toList h
    rw [String.toList_append, String.toList_append] at hlist
    have hempty := (List.append_eq_nil_iff.mp (List.append_eq_nil_iff.mp hlist).1).2
    cases hempty

theorem shown_eq_empty_iff {keys : List String} : shown keys = "" ↔ ∀ key ∈ keys, key = "" := by
  induction keys using List.reverseRecOn with
  | nil => exact ⟨fun _ => nofun, fun _ => rfl⟩
  | append_singleton keys key ih =>
    rw [shown_concat, joinPath_eq_empty_iff, ih]
    constructor
    · rintro ⟨hkeys, hkey⟩ other hother
      rcases List.mem_append.mp hother with hother | hother
      · exact hkeys other hother
      · rw [List.mem_singleton.mp hother]
        exact hkey
    · intro h
      exact ⟨fun other hother => h other (List.mem_append_left _ hother),
        h key (List.mem_append_right _ (List.mem_singleton_self key))⟩

theorem foldl_joinPath {path : String} (hpath : path ≠ "") (keys : List String) :
    keys.foldl joinPath path = dotJoin (path :: keys) := by
  induction keys generalizing path with
  | nil => exact String.intercalate_singleton.symm
  | cons key keys ih =>
    have hjoin : joinPath path key = path ++ "." ++ key := if_neg hpath
    have hne : joinPath path key ≠ "" := fun h => hpath (joinPath_eq_empty_iff.mp h).1
    rw [List.foldl_cons, ih hne, hjoin]
    unfold dotJoin
    cases keys with
    | nil =>
      rw [String.intercalate_singleton, String.intercalate_cons_cons, String.intercalate_singleton]
    | cons next keys =>
      rw [String.intercalate_cons_cons, String.intercalate_cons_cons, String.intercalate_cons_cons]
      simp only [String.append_assoc]

/-- The path of a sequence leaves out the empty keys it begins with. -/
theorem shown_eq (keys : List String) :
    shown keys = dotJoin (keys.dropWhile fun key => decide (key = "")) := by
  induction keys with
  | nil => rfl
  | cons key keys ih =>
    rw [List.dropWhile_cons]
    by_cases hkey : key = ""
    · rw [if_pos (decide_eq_true hkey), ← ih, hkey]
      rfl
    · rw [if_neg (by rw [decide_eq_true_eq]; exact hkey), ← foldl_joinPath hkey]
      rfl

/-! ## The sequences a walk enters -/

/-- No key is skipped, neither the first nor one behind empty keys only. -/
def Unskipped (skip : List String) : List String → Prop
  | [] => True
  | key :: keys => key ∉ skip ∧ (key = "" → Unskipped skip keys)

theorem unskipped_concat {skip keys : List String} {key : String} :
    Unskipped skip (keys ++ [key]) ↔ Unskipped skip keys ∧ (shown keys = "" → key ∉ skip) := by
  rw [shown_eq_empty_iff]
  induction keys with
  | nil =>
    constructor
    · rintro ⟨hkey, -⟩
      exact ⟨trivial, fun _ => hkey⟩
    · rintro ⟨-, hkey⟩
      exact ⟨hkey nofun, fun _ => trivial⟩
  | cons first keys ih =>
    rw [List.cons_append, Unskipped, Unskipped, List.forall_mem_cons]
    constructor
    · rintro ⟨hfirst, hrest⟩
      exact ⟨⟨hfirst, fun hempty => (ih.mp (hrest hempty)).1⟩,
        fun hempty => (ih.mp (hrest hempty.1)).2 hempty.2⟩
    · rintro ⟨⟨hfirst, hrest⟩, hkey⟩
      exact ⟨hfirst, fun hempty => ih.mpr ⟨hrest hempty, fun hall => hkey ⟨hempty, hall⟩⟩⟩

section Walk

variable {entries : String → Json → List (String × Json)} {members : Json → List (String × Json)}
  {isArray : Json → Bool} {skip : List String}

/-- A node of the walk: the keys that lead to it, and its value. -/
abbrev Node := List String × Json

/-- The children of a node, as the walk reads them. -/
def childrenOf (entries : String → Json → List (String × Json)) (node : Node) : List Node :=
  (entries (shown node.1) node.2).map fun entry => (node.1 ++ [entry.1], entry.2)

/-- The node is an array. -/
def hitOf (isArray : Json → Bool) (node : Node) : Bool := isArray node.2

theorem find?_childrenOf (node : Node) : (childrenOf entries node).find? (hitOf isArray) =
    ((entries (shown node.1) node.2).find? fun entry => isArray entry.2).map
      fun entry => (node.1 ++ [entry.1], entry.2) := by
  unfold childrenOf
  rw [List.find?_map]
  rfl

/-- The walk is a search with a queue. -/
theorem queueSearch_walk (hentries : ∀ path node, weight (entries path node) < sizeOf node) :
    QueueSearch (childrenOf entries) (hitOf isArray) (fun node => shown node.1)
      (fun nodes => walk entries hentries isArray
        (nodes.map fun node => (shown node.1, node.2))) := by
  constructor
  · show walk entries hentries isArray [] = none
    rw [walk]
  · -- the code's queue holds the path texts, the search's the key sequences
    rintro ⟨keys, value⟩ queue
    rw [List.map_cons, walk, find?_childrenOf]
    cases hfound : (entries (shown keys) value).find? fun entry => isArray entry.2 with
    | some entry =>
      rw [Option.map_some]
      dsimp only
      rw [shown_concat]
    | none =>
      rw [Option.map_none]
      dsimp only
      apply congrArg
      rw [List.map_append]
      apply congrArg
      unfold childrenOf
      rw [List.map_map]
      apply List.map_congr_left
      intro entry _
      show (joinPath (shown keys) entry.1, entry.2) = (shown (keys ++ [entry.1]), entry.2)
      rw [shown_concat]

/-- What the entries of a node are: its members, except those skipped at an empty path. -/
def SkipsAtEmptyPath (entries : String → Json → List (String × Json))
    (members : Json → List (String × Json)) (skip : List String) : Prop :=
  ∀ path node entry, entry ∈ entries path node ↔
    entry ∈ members node ∧ (path = "" → entry.1 ∉ skip)

/-- A level holds what is reached by as many keys, none of them skipped. -/
theorem mem_level_iff (hskips : SkipsAtEmptyPath entries members skip) {root : Json} {n : ℕ}
    {node : Node} : node ∈ level (childrenOf entries) [([], root)] n ↔
      node.1.length = n ∧ LeadsTo members root node.1 node.2 ∧ Unskipped skip node.1 := by
  induction n generalizing node with
  | zero =>
    obtain ⟨keys, value⟩ := node
    rw [level, List.mem_singleton, List.length_eq_zero_iff]
    constructor
    · intro h
      obtain ⟨hkeys, hvalue⟩ := Prod.mk.inj h
      subst hkeys hvalue
      exact ⟨rfl, rfl, trivial⟩
    · rintro ⟨hkeys, hleads, -⟩
      dsimp only at hkeys hleads
      subst hkeys
      rw [show root = value from hleads]
  | succ n ih =>
    rw [level, below, List.mem_flatMap]
    constructor
    · rintro ⟨parent, hparent, hchild⟩
      obtain ⟨hlen, hleads, hunskipped⟩ := ih.mp hparent
      obtain ⟨entry, hentry, rfl⟩ := List.mem_map.mp hchild
      obtain ⟨hmem, hkey⟩ := (hskips _ _ _).mp hentry
      refine ⟨?_, leadsTo_concat.mpr ⟨parent.2, hleads, hmem⟩,
        unskipped_concat.mpr ⟨hunskipped, hkey⟩⟩
      rw [List.length_append, hlen, List.length_singleton]
    · obtain ⟨keys, value⟩ := node
      rintro ⟨hlen, hleads, hunskipped⟩
      dsimp only at hlen hleads hunskipped
      -- the last key leads from a node of the level above
      obtain ⟨front, key, rfl⟩ : ∃ front key, keys = front ++ [key] := by
        have hne : keys ≠ [] := by
          intro hnil
          rw [hnil] at hlen
          cases hlen
        exact ⟨keys.dropLast, keys.getLast hne, (List.dropLast_append_getLast hne).symm⟩
      obtain ⟨parent, hfront, hmem⟩ := leadsTo_concat.mp hleads
      obtain ⟨hbefore, hkey⟩ := unskipped_concat.mp hunskipped
      refine ⟨(front, parent), ih.mpr ⟨?_, hfront, hbefore⟩, ?_⟩
      · rw [List.length_append, List.length_singleton] at hlen
        show front.length = n
        omega
      · exact List.mem_map.mpr ⟨(key, value), (hskips _ _ _).mpr ⟨hmem, hkey⟩, rfl⟩

/-- The keys of the first array that is entered: first by level, then in order. -/
def FirstArray (entries : String → Json → List (String × Json)) (isArray : Json → Bool)
    (root : Json) (keys : List String) : Prop :=
  ∃ n value, FirstHit (childrenOf entries) (hitOf isArray)
    (below (childrenOf entries) [([], root)]) n (keys, value)

/-- What is entered is eligible, and no entered array is on a higher level. -/
theorem FirstArray.spec (hskips : SkipsAtEmptyPath entries members skip) {root : Json}
    {keys : List String} (h : FirstArray entries isArray root keys) :
    Eligible members isArray root skip keys ∧
      ∀ other target, other ≠ [] → LeadsTo members root other target → Unskipped skip other →
        isArray target = true → keys.length ≤ other.length := by
  obtain ⟨n, value, hfirst⟩ := h
  have hmem := hfirst.mem
  rw [level_below, mem_level_iff hskips] at hmem
  obtain ⟨hlen, hleads, hunskipped⟩ := hmem
  constructor
  · cases keys with
    | nil => cases hlen
    | cons key rest => exact ⟨key, rest, value, rfl, hunskipped.1, hleads, hfirst.hits⟩
  · intro other target hne hother hfree harray
    have hlevel : (other, target) ∈
        level (childrenOf entries) (below (childrenOf entries) [([], root)])
        (other.length - 1) := by
      rw [level_below, mem_level_iff hskips]
      have hpos := List.length_pos_iff.mpr hne
      exact ⟨by dsimp only; omega, hother, hfree⟩
    have hle := hfirst.le hlevel harray
    have hpos := List.length_pos_iff.mpr hne
    dsimp only at hlen
    omega

variable (isArray) in
/-- A walk reports the first array that is entered, and nothing where there is none. -/
theorem walk_root (hskips : SkipsAtEmptyPath entries members skip)
    (hentries : ∀ path node, weight (entries path node) < sizeOf node) (root : Json) :
    (walk entries hentries isArray [("", root)] = none ∧
      ∀ keys target, keys ≠ [] → LeadsTo members root keys target → Unskipped skip keys →
        isArray target = false) ∨
    ∃ keys, FirstArray entries isArray root keys ∧
      walk entries hentries isArray [("", root)] = some (shown keys) := by
  have hsize : ∀ node : Node,
      ((childrenOf entries node).map fun node => sizeOf node.2).sum < sizeOf node.2 := by
    intro node
    have hlt := hentries (shown node.1) node.2
    unfold weight at hlt
    unfold childrenOf
    rw [List.map_map]
    exact hlt
  rcases (queueSearch_walk hentries).visit_eq (fun node => sizeOf node.2) hsize [([], root)] with
    ⟨hnone, hlevels⟩ | ⟨n, ⟨keys, value⟩, hfirst, hsome⟩
  · left
    refine ⟨hnone, ?_⟩
    intro keys target hne hleads hunskipped
    have hpos := List.length_pos_iff.mpr hne
    have hlevel : (keys, target) ∈
        level (childrenOf entries) (below (childrenOf entries) [([], root)]) (keys.length - 1) := by
      rw [level_below, mem_level_iff hskips]
      exact ⟨by dsimp only; omega, hleads, hunskipped⟩
    have hmiss := hlevels (keys.length - 1)
    rw [List.find?_eq_none] at hmiss
    exact Bool.eq_false_iff.mpr (hmiss _ hlevel)
  · right
    exact ⟨keys, ⟨n, value, hfirst⟩, hsome⟩

/-! ## Where the law holds -/

/-- Either no shortest eligible sequence begins with an empty key it does not end with, or
the array that is found reads like a shortest one, without the empty keys in front. -/
def PathCondition (entries : String → Json → List (String × Json))
    (members : Json → List (String × Json)) (isArray : Json → Bool) (root : Json)
    (skip : List String) : Prop :=
  (∀ keys, Shortest members isArray root skip keys → keys.head? = some "" → keys = [""]) ∨
    ∃ first, FirstArray entries isArray root first ∧
      ∃ keys, Shortest members isArray root skip keys ∧
        dotJoin keys = dotJoin (first.dropWhile fun key => decide (key = ""))

theorem unskipped_of_shortest {root : Json} {keys : List String}
    (h : Shortest members isArray root skip keys) (hempty : keys.head? = some "" → keys = [""]) :
    Unskipped skip keys := by
  obtain ⟨⟨key, rest, target, rfl, hkey, -⟩, -⟩ := h
  refine ⟨hkey, ?_⟩
  intro hfirst
  have hsingle := hempty (by rw [List.head?_cons, hfirst])
  rw [(List.cons.inj hsingle).2]
  trivial

/-- The first array is led to by keys that are all entered. -/
theorem FirstArray.entered (hskips : SkipsAtEmptyPath entries members skip) {root : Json}
    {keys : List String} (h : FirstArray entries isArray root keys) :
    ∃ target, keys ≠ [] ∧ LeadsTo members root keys target ∧ Unskipped skip keys ∧
      isArray target = true := by
  obtain ⟨n, value, hfirst⟩ := h
  have hmem := hfirst.mem
  rw [level_below, mem_level_iff hskips] at hmem
  obtain ⟨hlen, hleads, hunskipped⟩ := hmem
  refine ⟨value, ?_, hleads, hunskipped, hfirst.hits⟩
  rintro rfl
  cases hlen

theorem FirstArray.unique {root : Json} {keys keys' : List String}
    (h : FirstArray entries isArray root keys) (h' : FirstArray entries isArray root keys') :
    keys = keys' := by
  obtain ⟨n, value, hfirst⟩ := h
  obtain ⟨m, target, hfirst'⟩ := h'
  exact (Prod.mk.inj (hfirst.unique hfirst')).1

/-- Where no shortest sequence goes on behind an empty key, a shortest one is entered. -/
theorem exists_shortest_entered {root : Json}
    (hempty : ∀ keys, Shortest members isArray root skip keys → keys.head? = some "" → keys = [""])
    {keys : List String} (h : Eligible members isArray root skip keys) :
    ∃ keys target, Shortest members isArray root skip keys ∧ keys ≠ [] ∧
      LeadsTo members root keys target ∧ Unskipped skip keys ∧ isArray target = true := by
  obtain ⟨shortest, hshortest⟩ := exists_shortest members isArray h
  have hunskipped := unskipped_of_shortest hshortest (hempty shortest hshortest)
  obtain ⟨key, rest, target, rfl, -, hleads, harray⟩ := hshortest.1
  exact ⟨_, target, hshortest, List.cons_ne_nil _ _, hleads, hunskipped, harray⟩

/-- Only an empty key in front is left out of a path, and that key alone reads the same. -/
theorem dotJoin_dropWhile {keys : List String} (h : keys.head? = some "" → keys = [""]) :
    dotJoin (keys.dropWhile fun key => decide (key = "")) = dotJoin keys := by
  by_cases hhead : keys.head? = some ""
  · rw [h hhead]
    rfl
  · cases keys with
    | nil => rfl
    | cons key rest =>
      rw [List.dropWhile_cons, if_neg]
      rw [decide_eq_true_eq]
      rintro rfl
      exact hhead rfl

/-- A walk that finds nothing is right unless an array is only behind an empty key. -/
theorem pathLaw_none_iff (hskips : SkipsAtEmptyPath entries members skip) {root : Json}
    (hmiss : ∀ keys target, keys ≠ [] → LeadsTo members root keys target → Unskipped skip keys →
      isArray target = false) :
    PathLaw members isArray root skip none ↔ PathCondition entries members isArray root skip := by
  constructor
  · rintro ⟨habsent, -⟩
    left
    intro keys hkeys
    exact absurd hkeys.1 (habsent.mp rfl keys)
  · -- a shortest sequence that is not entered begins with an empty key
    intro hcondition
    refine ⟨iff_of_true rfl ?_, fun path hpath => (nomatch hpath)⟩
    intro keys hkeys
    rcases hcondition with hempty | ⟨first, hfirst, -⟩
    · obtain ⟨shortest, target, -, hne, hleads, hunskipped, harray⟩ :=
        exists_shortest_entered hempty hkeys
      rw [hmiss shortest target hne hleads hunskipped] at harray
      cases harray
    · obtain ⟨target, hne, hleads, hunskipped, harray⟩ := hfirst.entered hskips
      rw [hmiss first target hne hleads hunskipped] at harray
      cases harray

/-- A walk that finds the first array is right when a shortest sequence reads as it does. -/
theorem pathLaw_some_iff (hskips : SkipsAtEmptyPath entries members skip) {root : Json}
    {first : List String} (hfirst : FirstArray entries isArray root first) :
    PathLaw members isArray root skip (some (shown first)) ↔
      PathCondition entries members isArray root skip := by
  obtain ⟨heligible, hleast⟩ := hfirst.spec hskips
  constructor
  · rintro ⟨-, hshallowest⟩
    right
    obtain ⟨keys, hkeys, hpath⟩ := hshallowest _ rfl
    refine ⟨first, hfirst, keys, hkeys, ?_⟩
    rw [hpath, shown_eq]
  · intro hcondition
    refine ⟨iff_of_false nofun fun hall => hall first heligible, ?_⟩
    rintro path hpath
    rw [← Option.some_inj.mp hpath, shown_eq]
    rcases hcondition with hempty | ⟨other, hother, keys, hkeys, hjoin⟩
    · -- the shortest sequence is entered, so the first array is as short
      obtain ⟨shortest, target, hshortest, hne, hleads, hunskipped, harray⟩ :=
        exists_shortest_entered hempty heligible
      have hle := hleast shortest target hne hleads hunskipped harray
      have hfirstShortest : Shortest members isArray root skip first :=
        ⟨heligible, fun other hother => hle.trans (hshortest.2 other hother)⟩
      refine ⟨first, hfirstShortest, ?_⟩
      rw [dotJoin_dropWhile (hempty first hfirstShortest)]
    · refine ⟨keys, hkeys, ?_⟩
      rw [hjoin, hfirst.unique hother]

theorem pathLaw_iff (hskips : SkipsAtEmptyPath entries members skip)
    (hentries : ∀ path node, weight (entries path node) < sizeOf node) (root : Json) :
    PathLaw members isArray root skip (walk entries hentries isArray [("", root)]) ↔
      PathCondition entries members isArray root skip := by
  rcases walk_root isArray hskips hentries root with ⟨hnone, hmiss⟩ | ⟨first, hfirst, hsome⟩
  · rw [hnone]
    exact pathLaw_none_iff hskips hmiss
  · rw [hsome]
    exact pathLaw_some_iff hskips hfirst

end Walk

/-! ## The two walks -/

/-- The members of a value. -/
def valueMembers (node : Json) : List (String × Json) := (asObject node).getD []

/-- The properties of a schema. -/
def schemaMembers (node : Json) : List (String × Json) := properties "" node

theorem skips_members (skip : List String) :
    SkipsAtEmptyPath (members skip) valueMembers skip := by
  intro path node entry
  unfold members valueMembers
  rw [List.mem_filter]
  apply and_congr_right
  intro _
  simp only [Bool.not_eq_true', Bool.and_eq_false_iff, decide_eq_false_iff_not,
    List.contains_eq_mem]
  exact imp_iff_not_or.symm

theorem skips_properties : SkipsAtEmptyPath properties schemaMembers [] := by
  intro path node entry
  constructor
  · intro h
    exact ⟨h, fun _ => List.not_mem_nil⟩
  · intro h
    exact h.1

/-- Both walks report the path of a shallowest array under the same condition. -/
structure PrimaryArrayPath (value : Json) (skip : List String) (schema : Json) : Prop where
  ofValue : PathLaw valueMembers isArray value skip (computePrimaryArrayPathFromValue value skip) ↔
    PathCondition (members skip) valueMembers isArray value skip
  ofSchema : PathLaw schemaMembers declaresArray schema [] (computePrimaryArrayPath (some schema)) ↔
    PathCondition properties schemaMembers declaresArray schema []
  noSchema : computePrimaryArrayPath none = none

/-- Both walks find a shallowest array for exactly the trees whose levels meet `PathCondition`; a
tool without a schema has no path. -/
theorem primaryArrayPath (value : Json) (skip : List String) (schema : Json) :
    PrimaryArrayPath value skip schema := by
  constructor
  · exact pathLaw_iff (skips_members skip) (weight_members_lt skip) value
  · exact pathLaw_iff skips_properties weight_properties_lt schema
  · rfl

/-- An array below an empty key. -/
def emptyKey : Json := .obj [("", .obj [("items", .arr [])])]

theorem emptyKey_path : computePrimaryArrayPathFromValue emptyKey [] = some "items" := by
  unfold computePrimaryArrayPathFromValue emptyKey
  rw [walk]
  simp [members, asObject, isArray, joinPath, walk]

/-- The path of that array has an empty key in front. -/
theorem dotJoin_of_eligible_emptyKey {keys : List String}
    (h : Eligible valueMembers isArray emptyKey [] keys) : dotJoin keys = ".items" := by
  obtain ⟨key, rest, target, rfl, -, ⟨child, hchild, hrest⟩, harray⟩ := h
  obtain ⟨rfl, rfl⟩ := Prod.mk.inj (List.mem_singleton.mp hchild)
  cases rest with
  | nil =>
    cases hrest
    cases harray
  | cons next rest =>
    obtain ⟨items, hitems, hend⟩ := hrest
    obtain ⟨rfl, rfl⟩ := Prod.mk.inj (List.mem_singleton.mp hitems)
    cases rest with
    | nil => decide
    | cons last rest =>
      obtain ⟨none, hnone, -⟩ := hend
      cases hnone

/-- The array below the empty key is reported as `items`, a path no sequence of keys has. -/
theorem not_pathLaw_emptyKey : ¬ ∀ value skip,
    PathLaw valueMembers isArray value skip (computePrimaryArrayPathFromValue value skip) := by
  intro h
  obtain ⟨keys, hkeys, hpath⟩ := (h emptyKey []).shallowest "items" emptyKey_path
  rw [dotJoin_of_eligible_emptyKey hkeys.1] at hpath
  exact absurd hpath (by decide)

end SchemaWalk
