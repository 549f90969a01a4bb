import DirtyDataOlap.IdempotentRequests

/-!
# The review log

`record_review` and `record_review_with_idempotency` write `review_current`, `review_history` and
`api_idempotency` at once.  After any sequence of calls, whatever the rest of the platform does in
between: **the history is a log**, the revisions of a subject are `1, 2, …, n` and the current
review is the last; and **a call is decided by what it asks for**, or answered from the review that
its key already names.

One exception: the primary key of `review_history` leaves out the run and the subject, so that a
call may *clash* with a decision recorded in another run.
-/
namespace DirtyDataOlap

open List Store

namespace ControlDatabase

def recordReview (record : ReviewRecord) (expectedRevision : Int) : Transaction ReviewRecord :=
  fun d =>
    if expectedRevision < 0 then .error (.concurrencyConflict
      "review revision does not match the expected compare-and-swap revision")
    else onStore (Store.recordReview record expectedRevision.toNat) d

/-- `record_review_with_idempotency`: the review, and whether it is a replay. -/
def recordReviewWithIdempotency (record : ReviewRecord) (expectedRevision : Int)
    (idempotency : IdempotencyRecord) : Transaction (ReviewRecord × Bool) := fun d => do
  ensure (idempotency.state = .completed) (.value "review idempotency must be completed")
  match d.getIdempotency idempotency.scope idempotency.key with
  | some existing =>
    assertIdempotencyMatch existing idempotency
    match existing.responseBody.review with
    | some review => .ok ((review, true), d)
    | none =>
      .error (.platform "review idempotency record does not contain a replayable result")
  | none =>
    let (stored, d) ← recordReview record expectedRevision d
    let (_, d) ← insertIdempotency
      { idempotency with
        responseBody := { review := some stored }
        resourceId := some stored.decision.reviewDecisionId } d
    .ok ((stored, false), d)

/-- `ORDER BY subject_key, revision`. -/
def historyOrder (a b : ReviewRecord) : Prop :=
  a.subjectKey < b.subjectKey ∨ (a.subjectKey = b.subjectKey ∧ a.revision ≤ b.revision)

instance : DecidableRel historyOrder := fun a b => by unfold historyOrder; infer_instance

def listReviewHistory (d : ControlDatabase) (runId : String) (subjectKey : Option String)
    (limit offset : Int) : Except Exc (List ReviewRecord) := do
  ensure (1 ≤ limit && 0 ≤ offset)
    (.value "review history limit must be positive and offset non-negative")
  let rows := (d.store.reviewHistory.rows.map (·.2)).filter fun r =>
    r.runId = runId && subjectKey.all (r.subjectKey = ·)
  .ok (((rows.insertionSort historyOrder).drop offset.toNat).take limit.toNat)

end ControlDatabase

/-! ## The log of a subject -/

def Store.reviewLog (s : Store) (runId subjectKey : String) : List ReviewRecord :=
  (s.reviewHistory.rows.map (·.2)).filter fun r => r.runId = runId ∧ r.subjectKey = subjectKey

/-- **The history is a log**: consecutive revisions from 1 on, the last of which
is the current review. -/
structure FaithfulLog (s : Store) : Prop where
  revisions : ∀ runId subjectKey, (s.reviewLog runId subjectKey).map (·.revision) =
    range' 1 (s.reviewLog runId subjectKey).length
  current : ∀ runId subjectKey,
    s.getCurrentReview runId subjectKey = (s.reviewLog runId subjectKey).getLast?

/-- What a call without a key, or with a fresh one, has to ask for: the successor of the current
revision, in an existing run. -/
structure ValidReview (s : Store) (record : ReviewRecord) (expectedRevision : Int) : Prop where
  run : (s.getRun record.runId).isSome
  subject : record.subjectKey = decisionKey record.decision
  current : ((s.getCurrentReview record.runId record.subjectKey).elim 0 (·.revision) : Nat) =
    expectedRevision
  next : record.revision = expectedRevision + 1

instance (s : Store) (record : ReviewRecord) (expectedRevision : Int) :
    Decidable (ValidReview s record expectedRevision) :=
  decidable_of_iff ((s.getRun record.runId).isSome ∧
      record.subjectKey = decisionKey record.decision ∧
      ((s.getCurrentReview record.runId record.subjectKey).elim 0 (·.revision) : Nat) =
        expectedRevision ∧ (record.revision : Int) = expectedRevision + 1)
    ⟨fun ⟨h1, h2, h3, h4⟩ => ⟨h1, h2, h3, h4⟩, fun ⟨h1, h2, h3, h4⟩ => ⟨h1, h2, h3, h4⟩⟩

namespace FaithfulLog
variable {s s' : Store} {runId subjectKey : String}

theorem getLast?_revision {l : List ReviewRecord} (h : l.map (·.revision) = range' 1 l.length) :
    l.getLast?.elim 0 (·.revision) = l.length := by
  rcases eq_nil_or_concat l with rfl | ⟨l, r, rfl⟩
  · rfl
  · have hlast := congrArg getLast? h
    rw [concat_eq_append] at hlast ⊢
    simp only [map_append, map_cons, map_nil, getLast?_append,
      getLast?_singleton, Option.some_or, length_append, length_cons,
      length_nil, Nat.zero_add, range'_concat] at hlast
    simpa [Nat.add_comm] using hlast

theorem currentRevision (h : FaithfulLog s) (runId subjectKey : String) :
    (s.getCurrentReview runId subjectKey).elim 0 (·.revision) =
      (s.reviewLog runId subjectKey).length := by
  rw [h.current]
  exact getLast?_revision (h.revisions runId subjectKey)

/-- The unique constraint of the history never fires: a revision beyond the
current one has no row. -/
theorem unique_free (h : FaithfulLog s) {record : ReviewRecord}
    (hrev : (s.getCurrentReview record.runId record.subjectKey).elim 0 (·.revision) <
      record.revision) : (s.reviewHistory.rows.any fun r => r.2.runId = record.runId &&
      r.2.subjectKey = record.subjectKey && r.2.revision = record.revision) = false := by
  rw [any_eq_false]
  intro row hrow hmatch
  simp only [Bool.and_eq_true, decide_eq_true_eq] at hmatch
  have hmem : row.2 ∈ s.reviewLog record.runId record.subjectKey := by
    unfold reviewLog
    rw [mem_filter]
    exact ⟨mem_map_of_mem hrow, by simpa using hmatch.1⟩
  have hrange := mem_map_of_mem (f := (·.revision)) hmem
  rw [h.revisions, mem_range'_1] at hrange
  rw [h.currentRevision] at hrev
  omega

theorem congr (h : FaithfulLog s) (hreviews : s'.reviews = s.reviews)
    (hhistory : s'.reviewHistory = s.reviewHistory) : FaithfulLog s' := by
  have hlog : ∀ runId subjectKey, s'.reviewLog runId subjectKey = s.reviewLog runId subjectKey := by
    intro runId subjectKey
    unfold reviewLog
    rw [hhistory]
  refine ⟨fun runId subjectKey => ?_, fun runId subjectKey => ?_⟩
  · rw [hlog]
    exact h.revisions runId subjectKey
  · rw [hlog, ← h.current]
    unfold getCurrentReview
    rw [hreviews]

theorem append (h : FaithfulLog s) {record : ReviewRecord} (hrows : s'.reviewHistory.rows =
      s.reviewHistory.rows ++ [(reviewHistoryId record, record)]) (hrev : record.revision =
      (s.getCurrentReview record.runId record.subjectKey).elim 0 (·.revision) + 1)
    (hcurrent : ∀ runId subjectKey, s'.getCurrentReview runId subjectKey =
      if record.runId = runId ∧ record.subjectKey = subjectKey then some record
      else s.getCurrentReview runId subjectKey) : FaithfulLog s' := by
  have hlog : ∀ runId subjectKey, s'.reviewLog runId subjectKey =
      s.reviewLog runId subjectKey ++
        if record.runId = runId ∧ record.subjectKey = subjectKey then [record] else [] := by
    intro runId subjectKey
    unfold reviewLog
    rw [hrows, map_append, filter_append]
    by_cases hk : record.runId = runId ∧ record.subjectKey = subjectKey <;> simp [hk]
  constructor
  · intro runId subjectKey
    rw [hlog]
    split
    · rename_i hk
      obtain ⟨rfl, rfl⟩ := hk
      rw [h.currentRevision] at hrev
      simp only [map_append, map_cons, map_nil, length_append,
        length_singleton, h.revisions, hrev, range'_concat]
      simp [Nat.add_comm]
    · simpa using h.revisions runId subjectKey
  · intro runId subjectKey
    rw [hlog, hcurrent]
    split
    · simp
    · simpa using h.current runId subjectKey

end FaithfulLog

/-! ## One call -/

theorem ensure_bind {β : Type} {b : Bool} {e : Exc} {f : Unit → Except Exc β} (h : b = true) :
    (ensure b e >>= f) = f () := by
  subst h
  rfl

namespace ControlDatabase
variable {d d' : ControlDatabase} {record : ReviewRecord} {expectedRevision : Int}

/-- The database after `record` has been accepted. -/
structure Recorded (record : ReviewRecord) (d d' : ControlDatabase) : Prop where
  rows : d'.store.reviewHistory.rows =
    d.store.reviewHistory.rows ++ [(reviewHistoryId record, record)]
  current : ∀ runId subjectKey, d'.store.getCurrentReview runId subjectKey =
    if record.runId = runId ∧ record.subjectKey = subjectKey then some record
    else d.store.getCurrentReview runId subjectKey

/-- What an accepted review has passed, and what it has written. -/
theorem recordReview_ok {s s' : Store} {r : ReviewRecord} {n : Nat}
    (h : Store.recordReview record n s = .ok (r, s')) :
    ValidReview s record n ∧ s.reviewHistory.find? (reviewHistoryId record) = none ∧ r = record ∧
      s'.reviewHistory.rows = s.reviewHistory.rows ++ [(reviewHistoryId record, record)] ∧
      ∀ runId subjectKey, s'.getCurrentReview runId subjectKey =
        if record.runId = runId ∧ record.subjectKey = subjectKey then some record
        else s.getCurrentReview runId subjectKey := by
  obtain ⟨_, hnext, h⟩ := bind_eq_ok.mp h
  obtain ⟨_, hsubject, h⟩ := bind_eq_ok.mp h
  obtain ⟨_, hrun, h⟩ := bind_eq_ok.mp h
  obtain ⟨_, hcurrent, h⟩ := bind_eq_ok.mp h
  obtain ⟨_, -, h⟩ := bind_eq_ok.mp h
  simp only [ensure_ok, decide_eq_true_eq] at hnext hsubject hrun hcurrent
  have hvalid : ValidReview s record n := ⟨hrun, hsubject, by rw [hcurrent], by omega⟩
  split at h
  · cases h
  rename_i reviewHistory hhistory
  refine ⟨hvalid, Table.insert?_fresh hhistory, ?_⟩
  have hrows := Table.insert?_rows hhistory
  split at h
  · rename_i old hold
    cases h
    refine ⟨rfl, hrows, fun runId subjectKey => ?_⟩
    unfold getCurrentReview at hold ⊢
    rw [Table.find?_update]
    by_cases hk : record.runId = runId ∧ record.subjectKey = subjectKey
    · obtain ⟨rfl, rfl⟩ := hk
      have hkey := Table.find?_key hold
      simp only [Prod.mk.injEq] at hkey
      simp [hold, hkey.1, hkey.2]
    · rw [if_neg hk]
      cases hfind : s.reviews.find? (runId, subjectKey) with
      | none => rfl
      | some other =>
        have hkey := Table.find?_key hfind
        simp only [Prod.mk.injEq] at hkey
        obtain ⟨rfl, rfl⟩ := hkey
        have hne : ¬ (other.runId = record.runId ∧ other.subjectKey = record.subjectKey) :=
          fun he => hk ⟨he.1.symm, he.2.symm⟩
        simp [hne]
  · rename_i hnone
    split at h
    · cases h
    rename_i reviews hreviews
    cases h
    refine ⟨rfl, hrows, fun runId subjectKey => ?_⟩
    unfold getCurrentReview at hnone ⊢
    rw [Table.find?_insert? hreviews]
    by_cases hk : record.runId = runId ∧ record.subjectKey = subjectKey
    · obtain ⟨rfl, rfl⟩ := hk
      simp [hnone]
    · simp [hk]

/-- A valid review whose history row is not taken is accepted. -/
theorem recordReview_accepts {s : Store} (hlog : FaithfulLog s) {n : Nat}
    (hvalid : ValidReview s record n)
    (hfree : s.reviewHistory.find? (reviewHistoryId record) = none) :
    ∃ s', Store.recordReview record n s = .ok (record, s') := by
  have hcurrent : (s.getCurrentReview record.runId record.subjectKey).elim 0 (·.revision) = n := by
    exact_mod_cast hvalid.current
  have hnext : record.revision = n + 1 := by exact_mod_cast hvalid.next
  have hrev : (s.getCurrentReview record.runId record.subjectKey).elim 0 (·.revision) <
      record.revision := by omega
  have hunique := hlog.unique_free hrev
  obtain ⟨reviewHistory, hhistory⟩ : ∃ t,
      s.reviewHistory.insert? (reviewHistoryId record, record) = some t :=
    Table.exists_insert? hfree
  unfold Store.recordReview
  rw [ensure_bind (by simpa using hnext), ensure_bind (by simpa using hvalid.subject),
    ensure_bind hvalid.run]
  rw [ensure_bind (by simpa using hcurrent), ensure_bind (by rw [hunique]; rfl), hhistory]
  cases hold : s.getCurrentReview record.runId record.subjectKey with
  | some old => exact ⟨_, rfl⟩
  | none =>
    obtain ⟨reviews, hreviews⟩ := Table.exists_insert? (r := record) hold
    rw [hreviews]
    exact ⟨_, rfl⟩

/-- **What `record_review` does to a faithful log**: it accepts a valid review whose history row is
not taken. -/
theorem recordReview_spec (hlog : FaithfulLog d.store) (record : ReviewRecord)
    (expectedRevision : Int) : (ValidReview d.store record expectedRevision ∧
      d.store.reviewHistory.find? (reviewHistoryId record) = none ∧
      ∃ d', recordReview record expectedRevision d = .ok (record, d') ∧
        d'.idempotency = d.idempotency ∧ Recorded record d d') ∨
    (¬ (ValidReview d.store record expectedRevision ∧
        d.store.reviewHistory.find? (reviewHistoryId record) = none) ∧
      ∃ e, recordReview record expectedRevision d = .error e) := by
  by_cases hneg : expectedRevision < 0
  · refine .inr ⟨fun h => ?_, _, if_pos hneg⟩
    have hcurrent := h.1.current
    omega
  obtain ⟨n, rfl⟩ : ∃ n : Nat, expectedRevision = n := ⟨expectedRevision.toNat, by omega⟩
  have heq : recordReview record n d = onStore (Store.recordReview record n) d := if_neg hneg
  rw [heq]
  unfold onStore
  cases hr : Store.recordReview record n d.store with
  | ok reply =>
    obtain ⟨r, store⟩ := reply
    obtain ⟨hvalid, hfree, rfl, hrows, hcurrent⟩ := recordReview_ok hr
    exact .inl ⟨hvalid, hfree, _, rfl, rfl, hrows, hcurrent⟩
  | error e =>
    refine .inr ⟨fun h => ?_, e, rfl⟩
    obtain ⟨s', hok⟩ := recordReview_accepts hlog h.1 h.2
    rw [hr] at hok
    cases hok

end ControlDatabase

/-! ## Sequences of calls -/

/-- A call of one of the two methods. -/
inductive ReviewCall
  | recordReview (record : ReviewRecord) (expectedRevision : Int)
  | recordReviewWithIdempotency (record : ReviewRecord) (expectedRevision : Int)
      (idempotency : IdempotencyRecord)

namespace ReviewCall
open ControlDatabase

/-- The review a call presents. -/
def record : ReviewCall → ReviewRecord
  | recordReview record _ => record
  | recordReviewWithIdempotency record _ _ => record

def expectedRevision : ReviewCall → Int
  | recordReview _ expectedRevision => expectedRevision
  | recordReviewWithIdempotency _ expectedRevision _ => expectedRevision

/-- Perform the call; the flag says whether the answer is a replay. -/
def perform : ReviewCall → Transaction (ReviewRecord × Bool)
  | recordReview record expectedRevision => fun d => do
    let (stored, d) ← ControlDatabase.recordReview record expectedRevision d
    .ok ((stored, false), d)
  | recordReviewWithIdempotency record expectedRevision idempotency =>
    ControlDatabase.recordReviewWithIdempotency record expectedRevision idempotency

variable (d : ControlDatabase)

/-- The call has no key, or one that nothing is stored under. -/
def Fresh : ReviewCall → Prop
  | recordReview .. => True
  | recordReviewWithIdempotency _ _ idempotency =>
    idempotency.state = .completed ∧
      d.getIdempotency idempotency.scope idempotency.key = none

/-- The key of the call names the recorded review `review`, under the fingerprint
of the call. -/
def Names (review : ReviewRecord) : ReviewCall → Prop
  | recordReview .. => False
  | recordReviewWithIdempotency _ _ idempotency =>
    idempotency.state = .completed ∧
      ∃ existing, d.getIdempotency idempotency.scope idempotency.key = some existing ∧
        existing.requestFingerprint = idempotency.requestFingerprint ∧
        existing.responseBody.review = some review

variable (call : ReviewCall)

/-- The call asks for the next revision of its subject. -/
def Valid : Prop :=
  ValidReview d.store call.record call.expectedRevision

instance : Decidable (call.Valid d) :=
  inferInstanceAs (Decidable (ValidReview d.store call.record call.expectedRevision))

/-- The decision has been recorded at this revision before, in another run or for another subject.
-/
def Clashes : Prop :=
  call.Fresh d ∧ call.Valid d ∧
    (d.store.reviewHistory.find? (reviewHistoryId call.record)).isSome

/-- **What is expected of a call**: it succeeds exactly if it is valid, or its key names a recorded
review, which it then returns; if it fails, nothing has changed. -/
structure Honoured : Prop where
  succeeds_iff : (∃ answer d', call.perform d = .ok (answer, d')) ↔
    (∃ review, call.Names d review) ∨ (call.Fresh d ∧ call.Valid d)
  replay : ∀ review, call.Names d review →
    call.perform d = .ok ((review, true), d) ∧
      ∃ row ∈ d.store.reviewHistory.rows, row.2 = review
  failure : ∀ e, call.perform d = .error e → (call.perform.commit d).2 = d

end ReviewCall

namespace ControlDatabase

/-- The rest of the platform never touches the review tables, and stores no review as an answer. -/
structure Elsewhere (d d' : ControlDatabase) : Prop where
  reviews : d'.store.reviews = d.store.reviews
  reviewHistory : d'.store.reviewHistory = d.store.reviewHistory
  idempotency : ∀ row ∈ d'.idempotency.rows, row.responseBody.review.isSome →
    row ∈ d.idempotency.rows

/-- **The databases that sequences of calls lead to**, from one without reviews. -/
inductive Reached : ControlDatabase → Prop
  | start {d : ControlDatabase} : d.store.reviews = .empty → d.store.reviewHistory = .empty →
    (∀ row ∈ d.idempotency.rows, row.responseBody.review = none) → Reached d
  | call {d : ControlDatabase} (call : ReviewCall) : Reached d →
    Reached (call.perform.commit d).2
  | elsewhere {d d' : ControlDatabase} : Reached d → Elsewhere d d' → Reached d'

/-- **The invariant**: the history is a log, and every review that an idempotency
record would replay is in it. -/
structure LogInvariant (d : ControlDatabase) : Prop where
  log : FaithfulLog d.store
  replays : ∀ row ∈ d.idempotency.rows, ∀ review, row.responseBody.review = some review →
    ∃ h ∈ d.store.reviewHistory.rows, h.2 = review

/-- Accepting a review keeps the invariant, whether or not it is also stored as the
answer to its request. -/
theorem LogInvariant.recorded {d d' d'' : ControlDatabase} (hi : LogInvariant d)
    {record : ReviewRecord} {expectedRevision : Int}
    (hvalid : ValidReview d.store record expectedRevision) (hrec : Recorded record d d')
    (hstore : d''.store = d'.store) (hidem : ∀ row ∈ d''.idempotency.rows,
      row ∈ d.idempotency.rows ∨ row.responseBody.review = some record) : LogInvariant d'' := by
  constructor
  · rw [hstore]
    refine hi.log.append hrec.rows ?_ hrec.current
    have hcurrent := hvalid.current
    have hnext := hvalid.next
    omega
  · intro row hrow review hreview
    rw [hstore, hrec.rows]
    rcases hidem row hrow with hold | hnew
    · obtain ⟨h, hh, heq⟩ := hi.replays row hold review hreview
      exact ⟨h, mem_append_left _ hh, heq⟩
    · rw [hnew] at hreview
      cases hreview
      exact ⟨_, mem_append_right _ (mem_singleton_self _), rfl⟩

end ControlDatabase

namespace ReviewCall
open ControlDatabase
variable {d d' : ControlDatabase} {call : ReviewCall}

theorem Names.not_fresh {review : ReviewRecord} (h : call.Names d review) : ¬ call.Fresh d := by
  cases call with
  | recordReview => exact h.elim
  | recordReviewWithIdempotency =>
    obtain ⟨_, existing, hrow, _⟩ := h
    rintro ⟨_, hnone⟩
    rw [hrow] at hnone
    cases hnone

theorem Names.unique {review review' : ReviewRecord} (h : call.Names d review)
    (h' : call.Names d review') : review = review' := by
  cases call with
  | recordReview => exact h.elim
  | recordReviewWithIdempotency =>
    obtain ⟨_, existing, hrow, _, hbody⟩ := h
    obtain ⟨_, existing', hrow', _, hbody'⟩ := h'
    rw [hrow] at hrow'
    cases hrow'
    rw [hbody] at hbody'
    cases hbody'
    rfl

theorem Names.recorded (hi : LogInvariant d) {review : ReviewRecord} (h : call.Names d review) :
    ∃ row ∈ d.store.reviewHistory.rows, row.2 = review := by
  cases call with
  | recordReview => exact h.elim
  | recordReviewWithIdempotency =>
    obtain ⟨_, existing, hrow, _, hbody⟩ := h
    exact hi.replays existing (Table.mem_of_find? hrow) review hbody

/-- The three ways a call can go. -/
inductive Outcome (d : ControlDatabase) (call : ReviewCall) : Prop
  | replayed (review : ReviewRecord) : call.Names d review →
    call.perform d = .ok ((review, true), d) → Outcome d call
  | recorded (d' : ControlDatabase) : call.Fresh d → call.Valid d →
    d.store.reviewHistory.find? (reviewHistoryId call.record) = none →
    call.perform d = .ok ((call.record, false), d') → LogInvariant d' → Outcome d call
  | refused (e : Exc) : (∀ review, ¬ call.Names d review) →
    ¬ (call.Fresh d ∧ call.Valid d ∧
      d.store.reviewHistory.find? (reviewHistoryId call.record) = none) →
    call.perform d = .error e → Outcome d call

/-- **What a call does to a database that keeps the invariant.** -/
theorem outcome (hi : LogInvariant d) (call : ReviewCall) : call.Outcome d := by
  cases call with
  | recordReview record expectedRevision =>
    rcases recordReview_spec hi.log record expectedRevision with
      ⟨hvalid, hfree, d', hok, hidem, hrec⟩ | ⟨hnot, e, herr⟩
    · refine .recorded d' trivial hvalid hfree ?_ (hi.recorded hvalid hrec rfl ?_)
      · simp only [perform, hok]
        rfl
      · intro row hrow
        exact .inl (hidem ▸ hrow)
    · refine .refused e (fun _ h => h) (fun h => hnot h.2) ?_
      simp only [perform, herr]
      rfl
  | recordReviewWithIdempotency record expectedRevision idempotency =>
    by_cases hstate : idempotency.state = .completed
    swap
    · refine .refused (.value "review idempotency must be completed")
        (fun _ h => hstate h.1) (fun h => hstate h.1.1) ?_
      have hens : ensure (idempotency.state = .completed)
          (.value "review idempotency must be completed") =
          .error (.value "review idempotency must be completed") := by simp [ensure, hstate]
      simp only [perform, ControlDatabase.recordReviewWithIdempotency, hens]
      rfl
    have hperform : perform (.recordReviewWithIdempotency record expectedRevision idempotency) d =
        ControlDatabase.recordReviewWithIdempotency record expectedRevision idempotency d := rfl
    unfold ControlDatabase.recordReviewWithIdempotency at hperform
    rw [ensure_bind (by simpa using hstate)] at hperform
    cases hrow : d.getIdempotency idempotency.scope idempotency.key with
    | some existing =>
      have hnotFresh :
          ¬ Fresh d (.recordReviewWithIdempotency record expectedRevision idempotency) := by
        rintro ⟨_, hnone⟩
        rw [hrow] at hnone
        cases hnone
      rw [hrow] at hperform
      dsimp only at hperform
      by_cases hfp : existing.requestFingerprint = idempotency.requestFingerprint
      swap
      · refine .refused (.artifactConflict
          "idempotency key is already bound to a different semantic request") ?_
          (fun h => hnotFresh h.1) ?_
        · rintro review ⟨_, other, hother, hmatch, _⟩
          rw [hrow] at hother
          cases hother
          exact hfp hmatch
        · rw [hperform]
          simp only [assertIdempotencyMatch, ensure, hfp]
          rfl
      have hmatch : assertIdempotencyMatch existing idempotency = .ok () := by
        simp [assertIdempotencyMatch, hfp]
      cases hbody : existing.responseBody.review with
      | some review =>
        refine .replayed review ⟨hstate, existing, hrow, hfp, hbody⟩ ?_
        rw [hperform, hmatch, hbody]
        rfl
      | none =>
        refine .refused (.platform
          "review idempotency record does not contain a replayable result") ?_
          (fun h => hnotFresh h.1) ?_
        · rintro review ⟨_, other, hother, _, hreview⟩
          rw [hrow] at hother
          cases hother
          rw [hbody] at hreview
          cases hreview
        · rw [hperform, hmatch, hbody]
          rfl
    | none =>
      rw [hrow] at hperform
      dsimp only at hperform
      rcases recordReview_spec hi.log record expectedRevision with
        ⟨hvalid, hfree, d', hok, hidem, hrec⟩ | ⟨hnot, e, herr⟩
      · -- the key is free, so that the row of the answer goes in
        have hfreeKey : d'.idempotency.find? idempotency.id = none := hidem ▸ hrow
        obtain ⟨t, ht⟩ : ∃ t, d'.idempotency.insert?
            { idempotency with
              responseBody := { review := some record }
              resourceId := some record.decision.reviewDecisionId } = some t :=
          Table.exists_insert? hfreeKey
        refine .recorded { d' with idempotency := t } ⟨hstate, hrow⟩ hvalid hfree ?_
          (hi.recorded hvalid hrec rfl ?_)
        · rw [hperform, hok]
          simp only [insertIdempotency, bind, Except.bind, ht]
          rfl
        · intro row hmem
          rw [Table.insert?_rows ht, hidem, mem_append, mem_singleton] at hmem
          rcases hmem with hmem | rfl
          · exact .inl hmem
          · exact .inr rfl
      · refine .refused e ?_ (fun h => hnot h.2) ?_
        · rintro review ⟨_, other, hother, _⟩
          rw [hrow] at hother
          cases hother
        · rw [hperform, herr]
          rfl

end ReviewCall

namespace ControlDatabase

/-- **The invariant holds after every sequence of calls.** -/
theorem Reached.logInvariant {d : ControlDatabase} (h : Reached d) : LogInvariant d := by
  induction h with
  | start hreviews hhistory hidem =>
    rename_i d
    have hempty : ∀ runId subjectKey, d.store.reviewLog runId subjectKey = [] := by
      intro runId subjectKey
      unfold reviewLog
      rw [hhistory]
      rfl
    refine ⟨⟨fun runId subjectKey => ?_, fun runId subjectKey => ?_⟩, ?_⟩
    · rw [hempty]
      rfl
    · rw [hempty]
      unfold getCurrentReview
      rw [hreviews]
      rfl
    · intro row hrow review hreview
      rw [hidem row hrow] at hreview
      cases hreview
  | call call _ ih =>
    unfold Transaction.commit
    cases call.outcome ih with
    | replayed review _ hok => rwa [hok]
    | recorded d' _ _ _ hok hi => rwa [hok]
    | refused e _ _ herr => rwa [herr]
  | elsewhere _ helse ih =>
    obtain ⟨hreviews, hhistory, hidem⟩ := helse
    refine ⟨ih.log.congr hreviews hhistory, ?_⟩
    · intro row hrow review hreview
      rw [hhistory]
      exact ih.replays row (hidem row hrow (by rw [hreview]; rfl)) review hreview

end ControlDatabase

open ControlDatabase in
/-- **The review history is a faithful log**: for every run and subject the stored revisions are `1,
…, n` and the current review is the last; and the next call does what is expected of it exactly if
it does not clash. -/
theorem review_history_faithful {d : ControlDatabase} (h : Reached d) :
    FaithfulLog d.store ∧ ∀ call : ReviewCall, call.Honoured d ↔ ¬ call.Clashes d := by
  have hi := h.logInvariant
  refine ⟨hi.log, fun call => ⟨?_, ?_⟩⟩
  · -- a call that clashes is refused
    rintro hhon ⟨hfresh, hvalid, htaken⟩
    obtain ⟨answer, d', hok⟩ := hhon.succeeds_iff.mpr (.inr ⟨hfresh, hvalid⟩)
    cases call.outcome hi with
    | replayed review hnames _ => exact hnames.not_fresh hfresh
    | recorded _ _ _ hfree _ _ =>
      rw [hfree] at htaken
      cases htaken
    | refused e _ _ herr =>
      rw [herr] at hok
      cases hok
  · intro hclash
    have hfailure : ∀ e, call.perform d = .error e → (call.perform.commit d).2 = d := by
      intro e herr
      unfold Transaction.commit
      rw [herr]
    cases call.outcome hi with
    | replayed review hnames hok =>
      refine ⟨⟨fun _ => .inl ⟨review, hnames⟩, fun _ => ⟨_, _, hok⟩⟩, ?_, hfailure⟩
      intro review' hnames'
      obtain rfl := hnames.unique hnames'
      exact ⟨hok, hnames.recorded hi⟩
    | recorded d' hfresh hvalid _ hok _ =>
      refine ⟨⟨fun _ => .inr ⟨hfresh, hvalid⟩, fun _ => ⟨_, _, hok⟩⟩, ?_, hfailure⟩
      intro review hnames
      exact absurd hfresh hnames.not_fresh
    | refused e hnames hnot herr =>
      refine ⟨⟨?_, ?_⟩, fun review h => absurd h (hnames review), hfailure⟩
      · rintro ⟨answer, d', hok⟩
        rw [herr] at hok
        cases hok
      · rintro (⟨review, h⟩ | ⟨hfresh, hvalid⟩)
        · exact absurd h (hnames review)
        · -- valid and fresh, so that only the history row can be in the way
          refine absurd ⟨hfresh, hvalid, ?_⟩ hclash
          rw [Option.isSome_iff_ne_none]
          exact fun hfree => hnot ⟨hfresh, hvalid, hfree⟩

open ControlDatabase in
/-- The listing of a subject's history is a page of its log. -/
theorem listReviewHistory_eq {d : ControlDatabase} (h : Reached d) (runId subjectKey : String)
    {limit offset : Int} (hlimit : 1 ≤ limit) (hoffset : 0 ≤ offset) :
    d.listReviewHistory runId (some subjectKey) limit offset =
      .ok (((d.store.reviewLog runId subjectKey).drop offset.toNat).take limit.toNat) := by
  have hsorted : (d.store.reviewLog runId subjectKey).Pairwise historyOrder := by
    have hrevs := pairwise_le_range' (s := 1) (n := (d.store.reviewLog runId subjectKey).length)
    rw [← h.logInvariant.log.revisions, pairwise_map] at hrevs
    refine hrevs.imp_of_mem fun ha hb hle => .inr ⟨?_, hle⟩
    simp only [reviewLog, mem_filter, decide_eq_true_eq] at ha hb
    rw [ha.2.2, hb.2.2]
  have hrows : ((d.store.reviewHistory.rows.map (·.2)).filter fun r =>
      r.runId = runId && (some subjectKey).all (r.subjectKey = ·)) =
      d.store.reviewLog runId subjectKey := by
    exact filter_congr fun r _ => by simp
  unfold listReviewHistory
  rw [ensure_bind (by simp [hlimit, hoffset]), hrows]
  dsimp only
  rw [hsorted.insertionSort_eq]

/-- A database of two runs, in which nothing has been reviewed. -/
def twoRuns : ControlDatabase where
  store := { empty with
    runs :=
      { rows := [
          { runId := "run-1", projectId := "p", createdAt := 0, configurationFingerprint := "c" },
          { runId := "run-2", projectId := "p", createdAt := 0, configurationFingerprint := "c" }]
        nodup := by decide } }
  idempotency := .empty

/-- The same decision, for one subject or another. -/
def demoDecision : ReviewDecision where
  reviewDecisionId := "rdec-1"
  reviewCheckpointId := .reviewAnalyticalPlan
  subjectStage := "S18"
  subjectArtifactId := "artifact-1"
  subjectContentHash := "hash-1"
  subjectSchemaVersion := "1"
  modelVersion := "1"
  policyVersion := "1"
  subjectSemanticId := "plan"
  applicabilityFingerprint := "fp"
  decision := .accepted

def firstReview (runId : String) : ReviewCall :=
  .recordReview
    { runId, subjectKey := decisionKey demoDecision, decision := demoDecision, revision := 1 }
    0

open ControlDatabase in
theorem twoRuns_reached : Reached twoRuns :=
  .start rfl rfl fun _ h => nomatch h

open ControlDatabase in
/-- The log after one review, and the call that would repeat it. -/
theorem review_history_faithful_one_review :
    FaithfulLog ((firstReview "run-1").perform.commit twoRuns).2.store ∧
      (firstReview "run-1").Honoured ((firstReview "run-1").perform.commit twoRuns).2 := by
  have h := review_history_faithful (.call (firstReview "run-1") twoRuns_reached)
  refine ⟨h.1, (h.2 _).mpr ?_⟩
  -- its expected revision is no longer the current one
  rintro ⟨_, hvalid, _⟩
  exact absurd hvalid.current (by decide +kernel)

/-- The next review of the subject takes the decision back. -/
def secondReview : ReviewCall :=
  .recordReview
    { runId := "run-1"
      subjectKey := decisionKey demoDecision
      decision := { demoDecision with reviewDecisionId := "rdec-2", decision := .rejected }
      revision := 2 }
    1

/-- The database after both reviews. -/
def reviewedTwice : ControlDatabase :=
  (secondReview.perform.commit ((firstReview "run-1").perform.commit twoRuns).2).2

open ControlDatabase in
/-- The second page of a history of two reviews has the second one. -/
theorem listReviewHistory_eq_second_page :
    reviewedTwice.listReviewHistory "run-1" (some (decisionKey demoDecision)) 5 1 =
      .ok (((reviewedTwice.store.reviewLog "run-1" (decisionKey demoDecision)).drop 1).take 5) ∧
    ((reviewedTwice.store.reviewLog "run-1" (decisionKey demoDecision)).drop 1).map
      (·.decision.reviewDecisionId) = ["rdec-2"] :=
  ⟨listReviewHistory_eq (.call secondReview (.call (firstReview "run-1") twoRuns_reached)) _ _
    (by decide) (by decide), by decide +kernel⟩

open ControlDatabase in
/-- Once it has been recorded in one run, the decision is refused in the other. -/
theorem shared_decision_refused :
    ¬ ∀ d, Reached d → FaithfulLog d.store ∧ ∀ call : ReviewCall, call.Honoured d := by
  intro h
  obtain ⟨_, hcalls⟩ := h _ (.call (firstReview "run-1") twoRuns_reached)
  obtain ⟨answer, d', hok⟩ := (hcalls (firstReview "run-2")).succeeds_iff.mpr
    (.inr ⟨trivial, by decide +kernel⟩)
  have herr : ((firstReview "run-2").perform
      ((firstReview "run-1").perform.commit twoRuns).2).isOk = false := by decide +kernel
  rw [hok] at herr
  cases herr

end DirtyDataOlap
