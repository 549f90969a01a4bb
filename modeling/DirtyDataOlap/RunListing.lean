import Mathlib.Data.Prod.Lex
import Mathlib.Data.String.Basic
import DirtyDataOlap.CommandSubmission
import DirtyDataOlap.SortedCollections

/-!
# Listing runs page by page

`BackendService.list_runs`: a call reads the first ten thousand rows that match the filters, drops
those that the caller may not see, and cuts one page out of the rest.  Following `next_offset`
yields the visible rows among those ten thousand; **it is exact exactly when no visible row lies
behind them** (`run_pages_exact_iff`).
-/
namespace DirtyDataOlap

open List

def RunStatus.value : RunStatus → String
  | .created => "CREATED"
  | .running => "RUNNING"
  | .needsReview => "NEEDS_REVIEW"
  | .blocked => "BLOCKED"
  | .failed => "FAILED"
  | .cancelled => "CANCELLED"
  | .succeeded => "SUCCEEDED"

/-- `RunStatus(value)`. -/
def RunStatus.ofValue (value : String) : Option RunStatus :=
  [.created, .running, .needsReview, .blocked, .failed, .cancelled, .succeeded].find? fun status =>
    status.value = value

/-- The arguments of `list_runs`, but for the offset. -/
structure RunQuery where
  projectId : Option String := none
  status : Option String := none
  pageSize : Nat
  principal : Principal

structure PageResult (α : Type) where
  items : List α
  pageSize : Nat
  offset : Nat
  nextOffset : Option Nat
  orderBy : String

/-- `ORDER BY created_at, run_id`. -/
def runOrder (run : RunRecord) : Instant ×ₗ String := toLex (run.createdAt, run.runId)

/-- Whether a row satisfies the filters of a listing. -/
def RunRecord.matches (run : RunRecord) (projectId status : Option String) : Bool :=
  projectId.all (run.projectId = ·) && status.all (run.status.value = ·)

/-- The rows of a listing, before `LIMIT` and `OFFSET`. -/
def Store.matchingRuns (store : Store) (projectId status : Option String) : List RunRecord :=
  sortedBy runOrder (store.runs.rows.filter fun run => run.matches projectId status)

/-- `list_runs` of the control store. -/
def Store.listRuns (store : Store) (projectId status : Option String) (limit offset : Nat) :
    List RunRecord :=
  ((store.matchingRuns projectId status).drop offset).take limit

/-- Raise a `BackendError` unless a condition holds. -/
def demand (condition : Bool) (code message : String) (status : Nat) : Except SubmissionExc Unit :=
  if condition then .ok () else .error (.backend code message status)

def safeFilter (value : Option String) (name : String) : Except SubmissionExc Unit :=
  demand (value.all fun text => safeShape text && !hasDoubleDot text.toList) "INVALID_FILTER"
    (name ++ " filter has an unsafe or unsupported shape") 400

/-- `_page`, of the items from the offset on. -/
def pageOf {α : Type} (items : List α) (maxPageSize pageSize offset : Nat) (orderBy : String) :
    Except SubmissionExc (PageResult α) := do
  demand (1 ≤ pageSize && pageSize ≤ maxPageSize) "INVALID_PAGE"
    "page_size exceeds the bounded API limit or offset is invalid" 400
  pure
    { items := items.take pageSize
      pageSize := pageSize
      offset := offset
      nextOffset := if pageSize < items.length then some (offset + pageSize) else none
      orderBy := orderBy }

def rowCap : Nat := 10000

/-- The rows of one call that the caller may see. -/
def visibleRuns (store : Store) (query : RunQuery) : List RunRecord :=
  (store.listRuns query.projectId query.status rowCap 0).filter (isAuthorizedRun query.principal)

/-- `list_runs`, with `max_page_size` of the service. -/
def listRuns (maxPageSize : Nat) (store : Store) (query : RunQuery) (offset : Nat) :
    Except SubmissionExc (PageResult RunRecord) := do
  safeFilter query.projectId "project_id"
  demand (safeShape query.principal.subject && query.principal.scopes.contains "runs:read")
    "FORBIDDEN" "caller is not authorized for this operation" 403
  demand (query.principal.source = "LOCAL_TEST_AUTH" ||
      query.projectId.all query.principal.projectIds.contains)
    "PROJECT_NOT_FOUND" "caller is not authorized for this project" 404
  demand (query.status.all fun status => (RunStatus.ofValue status).isSome) "INVALID_RUN_STATUS"
    "status filter is not a supported run status" 400
  demand (1 ≤ query.pageSize && query.pageSize ≤ maxPageSize) "INVALID_PAGE"
    "page_size exceeds the bounded API limit or offset is invalid" 400
  pageOf (((visibleRuns store query).drop offset).take (query.pageSize + 1)) maxPageSize
    query.pageSize offset "created_at,run_id"

/-- What `list_runs` checks of a query. -/
def RunQuery.accepted (query : RunQuery) (maxPageSize : Nat) : Bool :=
  (query.projectId.all fun text => safeShape text && !hasDoubleDot text.toList) &&
    safeShape query.principal.subject && query.principal.scopes.contains "runs:read" &&
    (query.principal.source = "LOCAL_TEST_AUTH" ||
      query.projectId.all query.principal.projectIds.contains) &&
    (query.status.all fun status => (RunStatus.ofValue status).isSome) &&
    1 ≤ query.pageSize && query.pageSize ≤ maxPageSize

/-- The items of all pages from an offset on, following `next_offset` with some fuel. -/
def followPages {α ε : Type} (fetch : Nat → Except ε (PageResult α)) :
    Nat → Nat → Option (Except ε (List α))
  | 0, _ => none
  | fuel + 1, offset =>
    match fetch offset with
    | .error e => some (.error e)
    | .ok page =>
      match page.nextOffset with
      | none => some (.ok page.items)
      | some next => (followPages fetch fuel next).map fun rest => rest.map (page.items ++ ·)

section
variable {α ε : Type} {fetch : Nat → Except ε (PageResult α)} {xs : List α} {size fuel : Nat}

variable (fetch xs size) in
/-- A call answers with one slice of a list. -/
def Slices : Prop :=
  ∀ offset, ∃ page, fetch offset = .ok page ∧ page.items = (xs.drop offset).take size ∧
    page.nextOffset = if size < (xs.drop offset).length then some (offset + size) else none

theorem followPages_eq_some (h : Slices fetch xs size) {offset : Nat} {r : Except ε (List α)}
    (hr : followPages fetch fuel offset = some r) : r = .ok (xs.drop offset) := by
  induction fuel generalizing offset r with
  | zero => cases hr
  | succ fuel ih =>
    obtain ⟨page, hpage, hitems, hnext⟩ := h offset
    simp only [followPages, hpage, hnext] at hr
    by_cases hmore : size < (xs.drop offset).length
    · simp only [if_pos hmore] at hr
      obtain ⟨rest, hrest, rfl⟩ := Option.map_eq_some_iff.1 hr
      rw [ih hrest, hitems, ← drop_drop]
      exact congrArg Except.ok (take_append_drop size (xs.drop offset))
    · simp only [if_neg hmore] at hr
      cases hr
      rw [hitems, take_of_length_le (by omega)]

/-- Following the pages ends, for every page moves on. -/
theorem exists_followPages (h : Slices fetch xs size) (hsize : 1 ≤ size) (offset : Nat)
    (hfuel : xs.length < fuel + offset) (hpos : 0 < fuel) :
    ∃ r, followPages fetch fuel offset = some r := by
  induction fuel generalizing offset with
  | zero => omega
  | succ fuel ih =>
    obtain ⟨page, hpage, hitems, hnext⟩ := h offset
    simp only [followPages, hpage, hnext]
    by_cases hmore : size < (xs.drop offset).length
    · rw [length_drop] at hmore
      obtain ⟨rest, hrest⟩ := ih (offset + size) (by omega) (by omega)
      rw [if_pos (by rw [length_drop]; exact hmore)]
      exact ⟨_, congrArg (Option.map fun rest => rest.map (page.items ++ ·)) hrest⟩
    · rw [if_neg hmore]
      exact ⟨_, rfl⟩

theorem followPages_iff (h : Slices fetch xs size) (hsize : 1 ≤ size) {items : List α} :
    (∃ fuel, followPages fetch fuel 0 = some (.ok items)) ↔ items = xs := by
  constructor
  · rintro ⟨fuel, hfuel⟩
    exact Except.ok.inj (followPages_eq_some h hfuel)
  · rintro rfl
    have hfuel : items.length < items.length + 1 + 0 := by omega
    obtain ⟨r, hr⟩ := exists_followPages h hsize 0 hfuel (Nat.succ_pos _)
    refine ⟨items.length + 1, ?_⟩
    rw [hr, followPages_eq_some h hr, drop_zero]

end

/-! ## The listing -/

variable {store : Store} {query : RunQuery} {maxPageSize : Nat}

variable (h : query.accepted maxPageSize = true)

include h in
theorem slices_listRuns :
    Slices (listRuns maxPageSize store query) (visibleRuns store query) query.pageSize := by
  intro offset
  simp only [RunQuery.accepted, Bool.and_eq_true] at h
  obtain ⟨⟨⟨⟨⟨⟨hfilter, hsubject⟩, hscope⟩, hproject⟩, hstatus⟩, hmin⟩, hmax⟩ := h
  have hlen : query.pageSize < (((visibleRuns store query).drop offset).take
      (query.pageSize + 1)).length ↔ query.pageSize < ((visibleRuns store query).drop offset).length := by
    rw [length_take]
    omega
  have hpage : listRuns maxPageSize store query offset = .ok
      { items := (((visibleRuns store query).drop offset).take (query.pageSize + 1)).take
          query.pageSize
        pageSize := query.pageSize
        offset := offset
        nextOffset := if query.pageSize < (((visibleRuns store query).drop offset).take
          (query.pageSize + 1)).length then some (offset + query.pageSize) else none
        orderBy := "created_at,run_id" } := by
    simp only [listRuns, safeFilter, pageOf, demand, hfilter, hsubject, hscope, hproject, hstatus,
      hmin, hmax, Bool.and_self, if_true]
    rfl
  refine ⟨_, hpage, ?_, if_congr hlen rfl rfl⟩
  rw [take_take, Nat.min_eq_left (Nat.le_succ _)]

/-- Every matching run that the caller may see, once, in order, and no other run. -/
structure ListsExactly (store : Store) (query : RunQuery) (items : List RunRecord) : Prop where
  ordered : items.Pairwise fun a b => runOrder a < runOrder b
  members : ∀ run, run ∈ items ↔ run ∈ store.runs.rows ∧
    run.matches query.projectId query.status = true ∧ isAuthorizedRun query.principal run = true

theorem mem_matchingRuns {projectId status : Option String} {run : RunRecord} :
    run ∈ store.matchingRuns projectId status ↔
      run ∈ store.runs.rows ∧ run.matches projectId status = true := by
  rw [Store.matchingRuns, mem_sortedBy, mem_filter]

theorem matchingRuns_ordered (projectId status : Option String) :
    (store.matchingRuns projectId status).Pairwise fun a b => runOrder a < runOrder b := by
  have hids : ((store.matchingRuns projectId status).map RunRecord.runId).Nodup := by
    rw [Store.matchingRuns, ((sortedBy_perm _ _).map _).nodup_iff]
    exact store.runs.nodup.sublist (filter_sublist.map _)
  refine (List.Pairwise.and (pairwise_sortedBy _ _) (pairwise_map.1 hids)).imp ?_
  intro a b h
  refine lt_of_le_of_ne h.1 fun heq => h.2 ?_
  exact congrArg (fun key : Instant ×ₗ String => (ofLex key).2) heq

/-- The visible runs of one call are exact where no visible run is behind the cap. -/
theorem visibleRuns_exact_iff : ListsExactly store query (visibleRuns store query) ↔
      ∀ run ∈ (store.matchingRuns query.projectId query.status).drop rowCap,
        isAuthorizedRun query.principal run = false := by
  have hrows := @matchingRuns_ordered store query.projectId query.status
  have hvisible : ∀ run, run ∈ visibleRuns store query ↔
      run ∈ (store.matchingRuns query.projectId query.status).take rowCap ∧
        isAuthorizedRun query.principal run = true := fun run => mem_filter
  have hsplit := take_append_drop rowCap (store.matchingRuns query.projectId query.status)
  constructor
  · intro h run hmem
    by_contra hauthorized
    have hrun := mem_matchingRuns.1 (mem_of_mem_drop hmem)
    have hseen := ((hvisible run).1 ((h.members run).2
      ⟨hrun.1, hrun.2, Bool.eq_true_of_not_eq_false hauthorized⟩)).1
    -- a row that is both before and behind the cap would come before itself
    rw [← hsplit] at hrows
    exact lt_irrefl _ ((pairwise_append.1 hrows).2.2 run hseen run hmem)
  · intro h
    constructor
    · exact (hrows.sublist (take_sublist _ _)).filter _
    · intro run
      rw [hvisible, ← and_assoc, ← mem_matchingRuns]
      constructor
      · rintro ⟨hmem, hauthorized⟩
        exact ⟨mem_of_mem_take hmem, hauthorized⟩
      · rintro ⟨hmem, hauthorized⟩
        refine ⟨?_, hauthorized⟩
        rw [← hsplit, mem_append] at hmem
        rcases hmem with hmem | hmem
        · exact hmem
        · rw [h run hmem] at hauthorized
          cases hauthorized

include h in
theorem listed_exactly_iff :
    (∃ fuel items, followPages (listRuns maxPageSize store query) fuel 0 = some (.ok items) ∧
      ListsExactly store query items) ↔ ListsExactly store query (visibleRuns store query) := by
  have hsize : 1 ≤ query.pageSize := by
    simp only [RunQuery.accepted, Bool.and_eq_true, decide_eq_true_eq] at h
    exact h.1.2
  constructor
  · rintro ⟨fuel, items, hitems, hexact⟩
    rwa [(followPages_iff (slices_listRuns h) hsize).1 ⟨fuel, hitems⟩] at hexact
  · intro hexact
    obtain ⟨fuel, hfuel⟩ := (followPages_iff (slices_listRuns h) hsize).2 rfl
    exact ⟨fuel, _, hfuel, hexact⟩

include h in
/-- **When the pages of a listing are exact**: no run behind the first ten thousand matching rows is
one that the caller may see. -/
theorem run_pages_exact_iff :
    (∃ fuel items, followPages (listRuns maxPageSize store query) fuel 0 = some (.ok items) ∧
      ListsExactly store query items) ↔
      ∀ run ∈ (store.matchingRuns query.projectId query.status).drop rowCap,
        isAuthorizedRun query.principal run = false := by
  rw [listed_exactly_iff h, visibleRuns_exact_iff]

def letter (d : Nat) : Char := Char.ofNat (97 + d)

/-- The `i`-th of many runs of one project. -/
def indexedRun (i : Nat) : RunRecord where
  runId := String.ofList [letter (i / 1000), letter (i / 100 % 10), letter (i / 10 % 10),
    letter (i % 10)]
  projectId := "p1"
  createdAt := 0
  configurationFingerprint := "c1"

theorem indexedRun_inj {i j : Nat} (hi : i < 11000) (hj : j < 11000)
    (h : (indexedRun i).runId = (indexedRun j).runId) : i = j := by
  have hletter : ∀ a < 11, ∀ b < 11, letter a = letter b → a = b := by decide
  have hlist := String.ofList_injective h
  simp only [List.cons.injEq, and_true] at hlist
  obtain ⟨h1, h2, h3, h4⟩ := hlist
  have := hletter _ (by omega) _ (by omega) h1
  have := hletter _ (by omega) _ (by omega) h2
  have := hletter _ (by omega) _ (by omega) h3
  have := hletter _ (by omega) _ (by omega) h4
  omega

def storeOfRuns (n : Nat) (h : n ≤ 11000) : Store :=
  { Store.empty with
    runs :=
      { rows := (List.range n).map indexedRun
        nodup := by
          rw [map_map]
          refine List.Nodup.map_on ?_ nodup_range
          intro i hi j hj
          exact indexedRun_inj (Nat.lt_of_lt_of_le (mem_range.1 hi) h)
            (Nat.lt_of_lt_of_le (mem_range.1 hj) h) } }

/-- A caller that lists the runs of its project. -/
def projectQuery : RunQuery where
  pageSize := 100
  principal := { subject := "analyst", scopes := ["runs:read"], projectIds := ["p1"] }

/-- The same caller, who reads two runs at a time. -/
def pairQuery : RunQuery := { projectQuery with pageSize := 2 }

/-- The third run is on the second page. -/
theorem run_pages_exact_two_pages :
    ∃ fuel items, followPages (listRuns 100 (storeOfRuns 3 (by decide)) pairQuery) fuel 0 =
      some (.ok items) ∧ ListsExactly (storeOfRuns 3 (by decide)) pairQuery items := by
  refine (run_pages_exact_iff (by decide)).2 ?_
  have hnone : ((storeOfRuns 3 (by decide)).matchingRuns pairQuery.projectId
      pairQuery.status).drop rowCap = [] := by
    apply drop_eq_nil_of_le
    rw [Store.matchingRuns, (sortedBy_perm _ _).length_eq]
    decide
  rw [hnone]
  exact fun run hmem => absurd hmem not_mem_nil

/-- Of more runs than the cap, some are on no page. -/
theorem not_listsExactly_storeOfRuns {n : Nat} (h : n ≤ 11000) (hmany : rowCap < n) :
    ¬ ListsExactly (storeOfRuns n h) projectQuery (visibleRuns (storeOfRuns n h) projectQuery) := by
  rw [visibleRuns_exact_iff]
  intro hhidden
  have hlen : ((storeOfRuns n h).matchingRuns projectQuery.projectId
      projectQuery.status).length = n := by
    have hall : (storeOfRuns n h).runs.rows.filter (fun run =>
        run.matches projectQuery.projectId projectQuery.status) = (storeOfRuns n h).runs.rows :=
      filter_eq_self.2 fun _ _ => rfl
    rw [Store.matchingRuns, (sortedBy_perm _ _).length_eq, hall]
    show ((List.range n).map indexedRun).length = n
    rw [length_map, length_range]
  obtain ⟨run, hrun⟩ : ∃ run, run ∈ ((storeOfRuns n h).matchingRuns projectQuery.projectId
      projectQuery.status).drop rowCap := by
    apply exists_mem_of_length_pos
    rw [length_drop, hlen]
    omega
  obtain ⟨i, _, rfl⟩ := mem_map.1 (mem_matchingRuns.1 (mem_of_mem_drop hrun)).1
  have hseen : isAuthorizedRun projectQuery.principal (indexedRun i) = true := rfl
  rw [hhidden _ hrun] at hseen
  cases hseen

/-- One of 10,001 runs of a project is on no page. -/
theorem run_pages_lose_last : projectQuery.accepted 100 = true ∧
    ¬ ∃ fuel items, followPages (listRuns 100 (storeOfRuns 10001 (by decide)) projectQuery) fuel 0 =
      some (.ok items) ∧ ListsExactly (storeOfRuns 10001 (by decide)) projectQuery items := by
  refine ⟨by decide, fun h => ?_⟩
  exact not_listsExactly_storeOfRuns _ (by decide) ((listed_exactly_iff (by decide)).1 h)

end DirtyDataOlap
