/-
# Paged listings

`list_pages` over a server that answers as it likes.  A run follows the cursor of
each page to the next, so what it asked for is a chain; it returns the rows of the
whole chain when the chain ends (`Chain`) and an error when it is cut off (`Cut`).
-/
import TinyConnectors.Direct.Route

open Prog

namespace Direct

/-! ## Chains of pages -/

/-- From the page of this cursor on, each page was fetched by the cursor of the one
before it, and the last has none. -/
inductive Chain (path : String) : Option String → List (Request × Answer) → List Json → Prop where
  | last {cursor page} (hnext : nextCursor page = none) :
      Chain path cursor [(.get (pagePath path cursor), .replied (.ok page))] [page]
  | more {cursor page next rest pages} (hnext : nextCursor page = some next)
      (hrest : Chain path (some next) rest pages) :
      Chain path cursor ((.get (pagePath path cursor), .replied (.ok page)) :: rest) (page :: pages)

/-- With `pages` to go, the chain from this cursor on is cut off with an error: a
request that fails, a cursor that does not advance, or too many pages. -/
inductive Cut (path : String) : ℕ → Option String → List (Request × Answer) → Error → Prop where
  | failed {pages cursor answer error} (houtcome : answer.outcome = .error error) :
      Cut path (pages + 1) cursor [(.get (pagePath path cursor), answer)] error
  | repeated {pages cursor page} (hnext : nextCursor page = some cursor) :
      Cut path (pages + 1) (some cursor) [(.get (pagePath path (some cursor)), .replied (.ok page))]
        (.listingIncomplete path MAX_PAGES)
  | long {cursor} : Cut path 0 cursor [] (.listingIncomplete path MAX_PAGES)
  | more {pages cursor page next rest error} (hnext : nextCursor page = some next)
      (hadvances : some next ≠ cursor) (hrest : Cut path pages (some next) rest error) :
      Cut path (pages + 1) cursor ((.get (pagePath path cursor), .replied (.ok page)) :: rest) error

/-- A page without a cursor was answered. -/
def ReachesEnd (exchanges : List (Request × Answer)) : Prop :=
  ∃ request page, (request, Answer.replied (.ok page)) ∈ exchanges ∧ nextCursor page = none

section

variable {path : String} {cursor : Option String} {request : Request} {page : Json}
  {answer : Answer} {rest exchanges : List (Request × Answer)} {chain : List Json}

/-- A chain ends at a page without a cursor. -/
theorem Chain.of_last (h : Chain path cursor ((request, .replied (.ok page)) :: rest) chain)
    (hnext : nextCursor page = none) : rest = [] ∧ chain = [page] := by
  cases h with
  | last _ => exact ⟨rfl, rfl⟩
  | more hnext' _ =>
    rw [hnext] at hnext'
    cases hnext'

/-- It goes on at a page with one. -/
theorem Chain.of_more (h : Chain path cursor ((request, .replied (.ok page)) :: rest) chain)
    {next : String} (hnext : nextCursor page = some next) :
    ∃ pages, chain = page :: pages ∧ Chain path (some next) rest pages := by
  cases h with
  | last hnext' =>
    rw [hnext] at hnext'
    cases hnext'
  | more hnext' hrest =>
    rw [hnext, Option.some_inj] at hnext'
    subst hnext'
    exact ⟨_, rfl, hrest⟩

/-- Each of its requests has answered with a page. -/
theorem Chain.outcome_ne (h : Chain path cursor ((request, answer) :: rest) chain) (error : Error) :
    answer.outcome ≠ .error error := by
  intro hfailed
  cases h with
  | last _ => cases hfailed
  | more _ _ => cases hfailed

/-- What fails cuts the chain off with its own error. -/
theorem Cut.of_failed {pages : ℕ} {error failure : Error}
    (h : Cut path pages cursor ((request, answer) :: rest) error)
    (hfailed : answer.outcome = .error failure) : failure = error := by
  cases h with
  | failed houtcome =>
    rw [hfailed, Except.error.injEq] at houtcome
    exact houtcome
  | repeated _ => cases hfailed
  | more _ _ _ => cases hfailed

theorem Cut.of_page {pages : ℕ} {error : Error}
    (h : Cut path (pages + 1) cursor ((request, .replied (.ok page)) :: rest) error) :
    ∃ next, nextCursor page = some next ∧
      ((some next = cursor ∧ error = .listingIncomplete path MAX_PAGES) ∨
        some next ≠ cursor ∧ Cut path pages (some next) rest error) := by
  cases h with
  | failed houtcome => cases houtcome
  | repeated hnext => exact ⟨_, hnext, .inl ⟨rfl, rfl⟩⟩
  | more hnext hadvances hrest => exact ⟨_, hnext, .inr ⟨hadvances, hrest⟩⟩

theorem Chain.ne_nil (h : Chain path cursor exchanges chain) : exchanges ≠ [] := by
  cases h with
  | last _ => exact List.cons_ne_nil _ _
  | more _ _ => exact List.cons_ne_nil _ _

end

/-! ## One page -/

/-- What follows the answer for a page. -/
def afterPage (path : String) (pages : ℕ) (cursor : Option String) (rows : List Json)
    (page : Json) :
    Calls (List Json) :=
  match nextCursor page with
  | none => pure (rows ++ rowsOf page)
  | some next =>
    if some next = cursor then throw (.listingIncomplete path MAX_PAGES)
    else listPagesFrom path pages (some next) (rows ++ rowsOf page)

section

variable {path : String} {pages : ℕ} {cursor : Option String} {rows : List Json}

theorem exchanges_zero (answers : List Answer) :
    (listPagesFrom path 0 cursor rows).run.exchanges answers = [] := by
  cases answers <;> rfl

theorem exchanges_failed {answer : Answer} {error : Error} (h : answer.outcome = .error error)
    (answers : List Answer) :
    (listPagesFrom path (pages + 1) cursor rows).run.exchanges (answer :: answers) =
      [(.get (pagePath path cursor), answer)] := by
  cases answer with
  | gated => cases answers <;> rfl
  | replied outcome =>
    rw [show outcome = .error error from h]
    cases answers <;> rfl

theorem exchanges_ok (page : Json) (answers : List Answer) :
    (listPagesFrom path (pages + 1) cursor rows).run.exchanges (.replied (.ok page) :: answers) =
      (.get (pagePath path cursor), .replied (.ok page)) ::
        (afterPage path pages cursor rows page).run.exchanges answers := rfl

theorem result_ok (page : Json) (answers : List Answer) :
    (listPagesFrom path (pages + 1) cursor rows).run.result (.replied (.ok page) :: answers) =
      (afterPage path pages cursor rows page).run.result answers := rfl

theorem result_failed {answer : Answer} {error : Error} (h : answer.outcome = .error error)
    (answers : List Answer) :
    (listPagesFrom path (pages + 1) cursor rows).run.result (answer :: answers) =
      some (.error error) := by
  cases answer with
  | gated =>
    cases h
    rfl
  | replied outcome =>
    rw [show outcome = .error error from h]
    rfl

/-- The last page is not followed by another. -/
theorem afterPage_last {page : Json} (hnext : nextCursor page = none) :
    afterPage path pages cursor rows page = pure (rows ++ rowsOf page) := by
  rw [afterPage, hnext]

theorem afterPage_repeated {page : Json} {next : String} (hnext : nextCursor page = some next)
    (hrepeats : some next = cursor) :
    afterPage path pages cursor rows page = throw (.listingIncomplete path MAX_PAGES) := by
  rw [afterPage, hnext]
  exact if_pos hrepeats

theorem afterPage_more {page : Json} {next : String} (hnext : nextCursor page = some next)
    (hadvances : some next ≠ cursor) :
    afterPage path pages cursor rows page =
      listPagesFrom path pages (some next) (rows ++ rowsOf page) := by
  rw [afterPage, hnext]
  exact if_neg hadvances

theorem exchanges_pure (rows : List Json) (answers : List Answer) :
    (pure rows : Calls (List Json)).run.exchanges answers = [] := by
  cases answers <;> rfl

theorem exchanges_throw (error : Error) (answers : List Answer) :
    (throw error : Calls (List Json)).run.exchanges answers = [] := by
  cases answers <;> rfl

/-- An answer fails, or carries a page. -/
theorem answer_cases (answer : Answer) :
    (∃ error, answer.outcome = .error error) ∨ ∃ page, answer = .replied (.ok page) := by
  rcases answer with _ | error | page
  · exact .inl ⟨_, rfl⟩
  · exact .inl ⟨error, rfl⟩
  · exact .inr ⟨page, rfl⟩

end

/-! ## Every run of the loop -/

section

variable {path : String}

/-- No more requests than pages to go. -/
theorem length_exchanges_le (pages : ℕ) (cursor : Option String) (rows : List Json)
    (answers : List Answer) :
    ((listPagesFrom path pages cursor rows).run.exchanges answers).length ≤ pages := by
  induction pages generalizing cursor rows answers with
  | zero =>
    rw [exchanges_zero]
    exact Nat.le_refl 0
  | succ pages ih =>
    cases answers with
    | nil => exact Nat.zero_le _
    | cons answer answers =>
      rcases answer_cases answer with ⟨error, hfailed⟩ | ⟨page, rfl⟩
      · rw [exchanges_failed hfailed, List.length_singleton]
        omega
      · rw [exchanges_ok, List.length_cons]
        cases hnext : nextCursor page with
        | none =>
          rw [afterPage_last hnext, exchanges_pure, List.length_nil]
          omega
        | some next =>
          by_cases hrepeats : some next = cursor
          · rw [afterPage_repeated hnext hrepeats, exchanges_throw, List.length_nil]
            omega
          · rw [afterPage_more hnext hrepeats]
            have := ih (some next) (rows ++ rowsOf page) answers
            omega

/-- With an answer for each of them the run has ended. -/
theorem exists_result (pages : ℕ) (cursor : Option String) (rows : List Json)
    {answers : List Answer} (h : pages ≤ answers.length) :
    ∃ outcome, (listPagesFrom path pages cursor rows).run.result answers = some outcome := by
  induction pages generalizing cursor rows answers with
  | zero => exact ⟨_, rfl⟩
  | succ pages ih =>
    cases answers with
    | nil => cases h
    | cons answer answers =>
      rw [List.length_cons] at h
      rcases answer_cases answer with ⟨error, hfailed⟩ | ⟨page, rfl⟩
      · exact ⟨_, result_failed hfailed answers⟩
      · rw [result_ok]
        cases hnext : nextCursor page with
        | none =>
          rw [afterPage_last hnext]
          exact ⟨_, rfl⟩
        | some next =>
          by_cases hrepeats : some next = cursor
          · rw [afterPage_repeated hnext hrepeats]
            exact ⟨_, rfl⟩
          · rw [afterPage_more hnext hrepeats]
            exact ih (some next) (rows ++ rowsOf page) (by omega)

/-- A run returns rows when what it asked for is a whole chain, and then those of all
its pages after the ones it had. -/
theorem result_eq_ok_iff (pages : ℕ) (cursor : Option String) (rows : List Json)
    (answers : List Answer) (listed : List Json) :
    (listPagesFrom path pages cursor rows).run.result answers = some (.ok listed) ↔
      ∃ chain, Chain path cursor
        ((listPagesFrom path pages cursor rows).run.exchanges answers) chain ∧
        listed = rows ++ chain.flatMap rowsOf := by
  induction pages generalizing cursor rows answers with
  | zero =>
    rw [exchanges_zero]
    constructor
    · intro h
      cases h
    · rintro ⟨chain, hchain, _⟩
      exact absurd rfl hchain.ne_nil
  | succ pages ih =>
    cases answers with
    | nil =>
      constructor
      · intro h
        cases h
      · rintro ⟨chain, hchain, _⟩
        exact absurd rfl hchain.ne_nil
    | cons answer answers =>
      rcases answer_cases answer with ⟨error, hfailed⟩ | ⟨page, rfl⟩
      · rw [result_failed hfailed, exchanges_failed hfailed]
        constructor
        · intro h
          cases h
        · rintro ⟨chain, hchain, _⟩
          exact absurd hfailed (hchain.outcome_ne error)
      · rw [result_ok, exchanges_ok]
        cases hnext : nextCursor page with
        | none =>
          rw [afterPage_last hnext, exchanges_pure]
          constructor
          · intro h
            cases h
            exact ⟨[page], .last hnext, by simp⟩
          · rintro ⟨chain, hchain, rfl⟩
            rw [(hchain.of_last hnext).2, List.flatMap_singleton]
            rfl
        | some next =>
          -- no chain goes on from a cursor that comes back
          by_cases hrepeats : some next = cursor
          · rw [afterPage_repeated hnext hrepeats, exchanges_throw]
            constructor
            · intro h
              cases h
            · rintro ⟨chain, hchain, _⟩
              obtain ⟨_, _, hrest⟩ := hchain.of_more hnext
              exact absurd rfl hrest.ne_nil
          · rw [afterPage_more hnext hrepeats, ih]
            constructor
            · rintro ⟨chain, hchain, rfl⟩
              exact ⟨page :: chain, .more hnext hchain, by simp⟩
            · rintro ⟨chain, hchain, rfl⟩
              obtain ⟨pages', rfl, hrest⟩ := hchain.of_more hnext
              exact ⟨pages', hrest, by simp⟩

/-- It fails when the chain is cut off, with what cut it off. -/
theorem result_eq_error_iff (pages : ℕ) (cursor : Option String) (rows : List Json)
    (answers : List Answer) (error : Error) :
    (listPagesFrom path pages cursor rows).run.result answers = some (.error error) ↔
      Cut path pages cursor ((listPagesFrom path pages cursor rows).run.exchanges answers)
        error := by
  induction pages generalizing cursor rows answers with
  | zero =>
    rw [exchanges_zero]
    constructor
    · intro h
      cases h
      exact .long
    · intro h
      cases h
      rfl
  | succ pages ih =>
    cases answers with
    | nil =>
      constructor
      · intro h
        cases h
      · intro h
        cases h
    | cons answer answers =>
      rcases answer_cases answer with ⟨failure, hfailed⟩ | ⟨page, rfl⟩
      · rw [result_failed hfailed, exchanges_failed hfailed]
        constructor
        · intro h
          cases h
          exact .failed hfailed
        · intro h
          rw [h.of_failed hfailed]
      · rw [result_ok, exchanges_ok]
        cases hnext : nextCursor page with
        -- a page without a cursor ends the listing, and nothing is cut off
        | none =>
          rw [afterPage_last hnext]
          constructor
          · intro h
            cases h
          · intro h
            obtain ⟨next, hnext', _⟩ := h.of_page
            rw [hnext] at hnext'
            cases hnext'
        | some next =>
          -- a cursor that comes back would never end
          by_cases hrepeats : some next = cursor
          · rw [afterPage_repeated hnext hrepeats, exchanges_throw]
            constructor
            · intro h
              cases h
              subst hrepeats
              exact .repeated hnext
            · intro h
              obtain ⟨next', hnext', ⟨_, rfl⟩ | ⟨hadvances, _⟩⟩ := h.of_page
              · rfl
              · rw [hnext, Option.some_inj] at hnext'
                subst hnext'
                exact absurd hrepeats hadvances
          · rw [afterPage_more hnext hrepeats, ih]
            constructor
            · intro h
              exact .more hnext hrepeats h
            · intro h
              obtain ⟨next', hnext', hrest⟩ := h.of_page
              rw [hnext, Option.some_inj] at hnext'
              subst hnext'
              rcases hrest with ⟨hrepeats', _⟩ | ⟨_, hrest⟩
              · exact absurd hrepeats' hrepeats
              · exact hrest

/-- A chain that was gone through to its end has a page without a cursor. -/
theorem Chain.reachesEnd {cursor : Option String} {exchanges : List (Request × Answer)}
    {chain : List Json} (h : Chain path cursor exchanges chain) : ReachesEnd exchanges := by
  induction h with
  | last hnext => exact ⟨_, _, List.mem_singleton_self _, hnext⟩
  | more _ _ ih =>
    obtain ⟨request, page, hmem, hnext⟩ := ih
    exact ⟨request, page, List.mem_cons_of_mem _ hmem, hnext⟩

theorem ReachesEnd.of_cons {request : Request} {answer : Answer} {rest : List (Request × Answer)}
    (h : ReachesEnd ((request, answer) :: rest)) :
    (∃ page, answer = .replied (.ok page) ∧ nextCursor page = none) ∨ ReachesEnd rest := by
  obtain ⟨request', page, hmem, hlast⟩ := h
  rcases List.mem_cons.mp hmem with hhere | hrest
  · rw [Prod.mk.injEq] at hhere
    exact .inl ⟨page, hhere.2.symm, hlast⟩
  · exact .inr ⟨request', page, hrest, hlast⟩

theorem not_reachesEnd_nil : ¬ ReachesEnd [] := by
  rintro ⟨_, _, hmem, _⟩
  cases hmem

/-- A run that came to a page without a cursor returned rows. -/
theorem exists_rows_of_reachesEnd (pages : ℕ) (cursor : Option String) (rows : List Json)
    (answers : List Answer)
    (h : ReachesEnd ((listPagesFrom path pages cursor rows).run.exchanges answers)) :
    ∃ listed, (listPagesFrom path pages cursor rows).run.result answers = some (.ok listed) := by
  induction pages generalizing cursor rows answers with
  | zero =>
    rw [exchanges_zero] at h
    exact absurd h not_reachesEnd_nil
  | succ pages ih =>
    cases answers with
    | nil => exact absurd h not_reachesEnd_nil
    | cons answer answers =>
      rcases answer_cases answer with ⟨failure, hfailed⟩ | ⟨page, rfl⟩
      · rw [exchanges_failed hfailed] at h
        rcases h.of_cons with ⟨page, rfl, _⟩ | hrest
        · cases hfailed
        · exact absurd hrest not_reachesEnd_nil
      · rw [exchanges_ok] at h
        rw [result_ok]
        cases hnext : nextCursor page with
        | none =>
          rw [afterPage_last hnext]
          exact ⟨_, rfl⟩
        | some next =>
          -- the page without a cursor is a later one
          have hrest :
              ReachesEnd ((afterPage path pages cursor rows page).run.exchanges answers) := by
            rcases h.of_cons with ⟨page', hpage, hlast⟩ | hrest
            · rw [Answer.replied.injEq, Except.ok.injEq] at hpage
              rw [← hpage, hnext] at hlast
              cases hlast
            · exact hrest
          by_cases hrepeats : some next = cursor
          · rw [afterPage_repeated hnext hrepeats, exchanges_throw] at hrest
            exact absurd hrest not_reachesEnd_nil
          · rw [afterPage_more hnext hrepeats] at hrest ⊢
            exact ih (some next) (rows ++ rowsOf page) answers hrest

end

/-! ## All or nothing -/

/-- What `list_pages` keeps to, whatever is answered. -/
structure AllOrNothing (path : String) : Prop where
  /-- It makes at most `MAX_PAGES` requests. -/
  bounded : ∀ answers, ((listPages path).run.exchanges answers).length ≤ MAX_PAGES
  /-- It ends. -/
  ends : ∀ answers, MAX_PAGES ≤ answers.length →
    ∃ outcome, (listPages path).run.result answers = some outcome
  /-- It returns rows exactly when it reached a page without a cursor. -/
  reaches : ∀ answers, (∃ rows, (listPages path).run.result answers = some (.ok rows)) ↔
    ReachesEnd ((listPages path).run.exchanges answers)
  /-- The rows are those of the pages of a whole chain, which are what it asked for. -/
  whole : ∀ answers rows, (listPages path).run.result answers = some (.ok rows) ↔
    ∃ chain, Chain path none ((listPages path).run.exchanges answers) chain ∧
      rows = chain.flatMap rowsOf
  /-- It fails exactly when the chain is cut off. -/
  fails : ∀ answers error, (listPages path).run.result answers = some (.error error) ↔
    Cut path MAX_PAGES none ((listPages path).run.exchanges answers) error

/-- A listing is returned whole, or not at all. -/
theorem allOrNothing (path : String) : AllOrNothing path where
  bounded answers := length_exchanges_le MAX_PAGES none [] answers
  ends _ h := exists_result MAX_PAGES none [] h
  reaches answers := by
    constructor
    · rintro ⟨rows, hrows⟩
      obtain ⟨chain, hchain, _⟩ := (result_eq_ok_iff MAX_PAGES none [] answers rows).mp hrows
      exact hchain.reachesEnd
    · exact exists_rows_of_reachesEnd MAX_PAGES none [] answers
  whole answers rows := result_eq_ok_iff MAX_PAGES none [] answers rows
  fails answers error := result_eq_error_iff MAX_PAGES none [] answers error

/-- Two pages, under the names that a listing has used. -/
example : (listPages "/tools?limit=1").run.result
    [.replied (.ok (.obj [("items", .arr [.str "a"]), ("next_cursor", .str "c 2")])),
      .replied (.ok (.obj [("data", .arr [.str "b"]), ("nextCursor", .str " ")]))] =
    some (.ok [.str "a", .str "b"]) := by rfl

end Direct
