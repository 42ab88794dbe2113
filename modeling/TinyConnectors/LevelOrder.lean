/-
# Searching level by level

A queue that is served in order and extended at its end visits a forest level by level.
Where the children of a node are tried before any of them is visited, the search ends at
the first hit of the first level that has one.
-/
import Mathlib

namespace LevelOrder

variable {α β : Type} (children : α → List α)

/-! ## Levels -/

/-- The children of some nodes, in order. -/
def below (nodes : List α) : List α := nodes.flatMap children

/-- The nodes `n` levels below some nodes, in order. -/
def level (nodes : List α) : ℕ → List α
  | 0 => nodes
  | n + 1 => below children (level nodes n)

theorem below_cons (node : α) (nodes : List α) :
    below children (node :: nodes) = children node ++ below children nodes := List.flatMap_cons

theorem level_below (nodes : List α) (n : ℕ) :
    level children (below children nodes) n = level children nodes (n + 1) := by
  induction n with
  | zero => rfl
  | succ n ih =>
    rw [level, ih]
    rfl

theorem level_nil (n : ℕ) : level children [] n = [] := by
  induction n with
  | zero => rfl
  | succ n ih =>
    rw [level, ih]
    rfl

variable {children}

/-- The first node of the first level that has one with a property. -/
structure FirstHit (children : α → List α) (hit : α → Bool) (nodes : List α) (n : ℕ) (node : α) :
    Prop where
  found : (level children nodes n).find? hit = some node
  earlier : ∀ m < n, (level children nodes m).find? hit = none

namespace FirstHit

variable {hit : α → Bool} {nodes : List α} {n m : ℕ} {node other : α}

theorem mem (h : FirstHit children hit nodes n node) : node ∈ level children nodes n :=
  List.mem_of_find?_eq_some h.found

theorem hits (h : FirstHit children hit nodes n node) : hit node = true := List.find?_some h.found

/-- No hit is on a higher level. -/
theorem le (h : FirstHit children hit nodes n node) (hmem : other ∈ level children nodes m)
    (hother : hit other = true) : n ≤ m := by
  by_contra hlt
  have hnone := h.earlier m (not_le.mp hlt)
  rw [List.find?_eq_none] at hnone
  exact hnone other hmem hother

/-- There is one first hit at most. -/
theorem unique (h : FirstHit children hit nodes n node) (h' : FirstHit children hit nodes m other) :
    node = other := by
  have hsame : n = m := le_antisymm (h.le h'.mem h'.hits) (h'.le h.mem h.hits)
  subst hsame
  exact Option.some_inj.mp (h.found.symm.trans h'.found)

theorem below (hnone : nodes.find? hit = none)
    (h : FirstHit children hit (below children nodes) n node) :
    FirstHit children hit nodes (n + 1) node := by
  constructor
  · rw [← level_below]
    exact h.found
  · intro m hm
    cases m with
    | zero => exact hnone
    | succ m =>
      rw [← level_below]
      apply h.earlier
      omega

end FirstHit

/-- Where the children of a node weigh less than the node, a level weighs less than the one
above it. -/
theorem sum_below_lt {size : α → ℕ} (hsize : ∀ node, ((children node).map size).sum < size node)
    {nodes : List α} (hne : nodes ≠ []) :
    ((below children nodes).map size).sum < (nodes.map size).sum := by
  induction nodes with
  | nil => exact absurd rfl hne
  | cons node nodes ih =>
    have hnode := hsize node
    rw [below_cons, List.map_append, List.sum_append, List.map_cons, List.sum_cons]
    by_cases hrest : nodes = []
    · rw [hrest]
      show _ + 0 < _ + 0
      omega
    · have hlt := ih hrest
      omega

/-! ## Searching with a queue -/

/-- A search that serves a queue: a hit among the children of the first node ends it, and
otherwise they are queued. -/
structure QueueSearch (children : α → List α) (hit : α → Bool) (report : α → β)
    (visit : List α → Option β) : Prop where
  empty : visit [] = none
  serve : ∀ node queue, visit (node :: queue) =
    match (children node).find? hit with
    | some found => some (report found)
    | none => visit (queue ++ children node)

namespace QueueSearch

variable {hit : α → Bool} {report : α → β} {visit : List α → Option β}

/-- The nodes in front are served before those behind them, and leave their children. -/
theorem visit_append (h : QueueSearch children hit report visit) (front queue : List α) :
    visit (front ++ queue) =
      match (below children front).find? hit with
      | some found => some (report found)
      | none => visit (queue ++ below children front) := by
  induction front generalizing queue with
  | nil =>
    show visit queue = visit (queue ++ [])
    rw [List.append_nil]
  | cons node front ih =>
    rw [List.cons_append, h.serve, below_cons, List.find?_append]
    cases hfound : (children node).find? hit with
    | some found => rfl
    | none =>
      dsimp only
      rw [List.append_assoc, ih, Option.none_or, List.append_assoc]

/-- A search ends at the first hit below the nodes it starts from, or without any. -/
theorem visit_eq (h : QueueSearch children hit report visit) (size : α → ℕ)
    (hsize : ∀ node, ((children node).map size).sum < size node) (nodes : List α) :
    (visit nodes = none ∧ ∀ n, (level children (below children nodes) n).find? hit = none) ∨
      ∃ n node, FirstHit children hit (below children nodes) n node ∧
        visit nodes = some (report node) := by
  induction hweight : (nodes.map size).sum using Nat.strong_induction_on generalizing nodes with
  | _ weight ih =>
    subst hweight
    by_cases hnodes : nodes = []
    · left
      rw [hnodes]
      refine ⟨h.empty, ?_⟩
      intro n
      show (level children [] n).find? hit = none
      rw [level_nil]
      rfl
    · have hvisit := h.visit_append nodes []
      rw [List.append_nil, List.nil_append] at hvisit
      cases hfound : (below children nodes).find? hit with
      | some found =>
        right
        rw [hfound] at hvisit
        exact ⟨0, found, ⟨hfound, fun m hm => absurd hm (Nat.not_lt_zero m)⟩, hvisit⟩
      | none =>
        rw [hfound] at hvisit
        dsimp only at hvisit
        -- no hit on this level: the search goes on one further down, over lighter nodes
        have hlighter := sum_below_lt hsize hnodes
        rcases ih _ hlighter (below children nodes) rfl with ⟨hnone, hlevels⟩
          | ⟨n, node, hfirst, hsome⟩
        · left
          refine ⟨hvisit.trans hnone, ?_⟩
          intro n
          cases n with
          | zero => exact hfound
          | succ n =>
            rw [← level_below]
            exact hlevels n
        · right
          exact ⟨n + 1, node, hfirst.below hfound, hvisit.trans hsome⟩

end QueueSearch

end LevelOrder
