import DirtyDataOlap.Deployment
import DirtyDataOlap.SystemHistory

/-!
# Admission is bounded

How many jobs of a run, or of a source, are at work at a time.  `claim_next_job` counts a set that
moves with the clock; **the set only shrinks with time, and nothing but a claim puts a job into
it**.  `occupied` has the condition on run and source as a parameter, so that the two limits are one
argument.
-/
namespace DirtyDataOlap

open List Store

variable {env : Env} {s s' : Store} {t t' : Instant}

def JobRecord.slot (j : JobRecord) : String × Option String := (j.runId, j.sourceScope)

/-- The jobs of these slots that are running within their leases. -/
def Store.occupied (s : Store) (t : Instant) (q : String × Option String → Bool) : Nat :=
  (s.jobs.rows.filter fun j => q j.slot && active t j).length

theorem Store.active_mono (h : t ≤ t') {j : JobRecord} (hj : active t' j = true) :
    active t j = true := by
  unfold active at hj ⊢
  rw [Bool.and_eq_true] at hj ⊢
  refine ⟨hj.1, ?_⟩
  cases hexpires : j.leaseExpiresAt with
  | none =>
    rw [hexpires] at hj
    exact hj.2
  | some expires =>
    rw [hexpires] at hj
    have hlt : t' < expires := of_decide_eq_true hj.2
    exact decide_eq_true (lt_of_le_of_lt h hlt)

/-- **As time goes by, fewer jobs are at work.** -/
theorem Store.occupied_mono (h : t ≤ t') (s : Store) (q : String × Option String → Bool) :
    s.occupied t' q ≤ s.occupied t q := by
  refine (monotone_filter_right _ fun j hj => ?_).length_le
  rw [Bool.and_eq_true] at hj ⊢
  exact ⟨hj.1, active_mono h hj.2⟩

/-- The jobs at work come from those that were at work before, and from one more at
most. -/
theorem Store.occupied_le {q : String × Option String → Bool} (extra : List String)
    (h : ∀ k row', s'.getJob k = some row' → active t row' = true → q row'.slot = true →
      k ∈ extra ∨ ∃ row, s.getJob k = some row ∧ active t row = true ∧ q row.slot = true) :
    s'.occupied t q ≤ s.occupied t q + extra.length := by
  -- jobs are counted by their identities, which are distinct
  have hnodup : ((s'.jobs.rows.filter fun j => q j.slot && active t j).map (·.jobId)).Nodup :=
    s'.jobs.nodup.sublist (filter_sublist.map _)
  have hsub : (s'.jobs.rows.filter fun j => q j.slot && active t j).map (·.jobId) ⊆
      (s.jobs.rows.filter fun j => q j.slot && active t j).map (·.jobId) ++ extra := by
    intro k hk
    obtain ⟨row', hmem, rfl⟩ := mem_map.mp hk
    obtain ⟨hrow', hcond⟩ := mem_filter.mp hmem
    rw [Bool.and_eq_true] at hcond
    rw [mem_append]
    rcases h row'.jobId row' (mem_jobs_iff.mp hrow') hcond.2 hcond.1 with
      hextra | ⟨row, hrow, hact, hslot⟩
    · exact .inr hextra
    · refine .inl (mem_map.mpr ⟨row, mem_filter.mpr ⟨getJob_mem hrow, ?_⟩,
        getJob_jobId hrow⟩)
      rw [hslot, hact]
      rfl
  have hle := (subperm_of_subset hnodup hsub).length_le
  rw [length_append, length_map, length_map] at hle
  exact hle

/-! ## One call -/

/-- When the call is made, as far as it says. -/
def FencedOp.now : FencedOp → Instant
  | .heartbeat now _ | .ensureAttempt now | .markHandlerDeliveryStarted now
  | .recordResult _ _ now | .finalizeStage _ _ _ now _ _ | .finalizeCommand _ now _ _ _ => now

def Act.now : Act → Option Instant
  | .claim _ now _ _ _ => some now
  | .fenced _ op => some op.now
  | .write (.requestRunCancellation _ now) | .write (.resumeJob _ now) => some now
  | _ => none

theorem heartbeat_active {lease : Lease} {leaseSeconds : Nat} {ω : Input} {r : JobRecord}
    (h : exec env (.fenced lease (.heartbeat t leaseSeconds)) ω s = (.ok r, s')) :
    ∃ row, s.getJob lease.jobId = some row ∧ active t row = true := by
  have hok : heartbeatJob lease.jobId lease.workerId lease.generation t leaseSeconds s =
    .ok (r, s') := exec_fenced_ok h
  unfold heartbeatJob at hok
  split at hok
  · rename_i row hrow
    split at hok
    · rename_i hcond
      rw [Bool.and_eq_true] at hcond
      refine ⟨row, hrow, ?_⟩
      unfold active
      rw [(holds_iff.mp hcond.1).1]
      simpa [unexpired] using hcond.2
    · cases hok
  · cases hok

/-- **No call but a claim puts a job to work.** -/
theorem exec_active {a : Act} {ω : Input} {r : Except Exc a.Reply}
    (hexec : exec env a ω s = (r, s')) (hnow : ∀ now, a.now = some now → now = t)
    (hclaim : ∀ workerId now leaseSeconds maxRun maxSource,
      a ≠ .claim workerId now leaseSeconds maxRun maxSource) {k : String} {row' : JobRecord}
    (hrow' : s'.getJob k = some row') (hact : active t row' = true) :
    ∃ row, s.getJob k = some row ∧ active t row = true ∧ row.slot = row'.slot := by
  rcases exec_getJob hexec hrow' with ⟨row, hrow, hchange⟩ | ⟨_, _, _, _, _, _, _, _, rfl⟩
  swap
  · simp [active, stageJobRow] at hact
  cases hchange with
  | same => exact ⟨row', hrow, hact, rfl⟩
  | claim _ => exact absurd rfl (hclaim _ _ _ _ _)
  | @heartbeat lease now leaseSeconds _ hid hh =>
    cases r with
    | error e =>
      have hsame : s' = s := by
        cases exec_effect hexec
        rfl
      rw [hsame, hrow] at hrow'
      exact ⟨_, by rw [hrow]; exact hrow', hact, rfl⟩
    | ok r =>
      obtain rfl := hnow now rfl
      obtain ⟨row0, hrow0, hact0⟩ := heartbeat_active hexec
      rw [← hid, getJob_jobId hrow, hrow] at hrow0
      cases hrow0
      exact ⟨row, hrow, hact0, rfl⟩
  | ensureAttempt hid hh hnone hfresh => exact ⟨row, hrow, hact, rfl⟩
  | mark hid hh hkind hatt => exact ⟨row, hrow, hact, rfl⟩
  | record hid hh hkind hatt => exact ⟨row, hrow, hact, rfl⟩
  | finalize hid hh hatt hc => simp [active, finalizedJob] at hact
  | finalizeCommand hid hh => simp [active, finalizeCommandRow] at hact
  | @cancel now _ =>
    refine ⟨row, hrow, ?_⟩
    unfold cancelRow at hact ⊢
    cases hst : row.status <;> simp_all [active, JobRecord.slot]
  | resume hst => simp [active, resumedRow] at hact

/-- **A claim puts one job to work**, of a run and a source that have a slot left. -/
theorem claim_occupied {workerId : String} {leaseSeconds maxRun maxSource : Nat} {ω : Input}
    {r : Except Exc (Option JobRecord)}
    (hexec : exec env (.claim workerId t leaseSeconds maxRun maxSource) ω s = (r, s')) :
    s' = s ∨ ∃ row, s.admitted t maxRun maxSource row = true ∧ ∀ q,
      s'.occupied t q ≤ s.occupied t q + if q row.slot then 1 else 0 := by
  change Txn.commit (claimNextJob workerId t leaseSeconds maxRun maxSource) s = _ at hexec
  unfold Txn.commit claimNextJob at hexec
  cases hvalid : ensure (workerId ≠ "" && 1 ≤ leaseSeconds && 1 ≤ maxRun && 1 ≤ maxSource)
      (.value "worker_id and a positive lease are required") with
  | error e =>
    rw [hvalid] at hexec
    cases hexec
    exact .inl rfl
  | ok _ =>
    rw [hvalid] at hexec
    cases hnext : s.nextJob t maxRun maxSource with
    | none =>
      simp only [hnext] at hexec
      cases hexec
      exact .inl rfl
    | some row =>
      simp only [hnext] at hexec
      cases hexec
      obtain ⟨hrow, _, hadm⟩ := nextJob_spec hnext
      refine .inr ⟨row, hadm, fun q => ?_⟩
      have hcases : ∀ k row', (s.updateJob row.jobId
          (claimRow workerId t leaseSeconds)).getJob k = some row' →
          s.getJob k = some row' ∨ (k = row.jobId ∧ row'.slot = row.slot) := by
        intro k row' hrow'
        rcases getJob_updateJob_cases hrow' with hold | ⟨old, hk, hold, rfl⟩
        · exact .inl hold
        · rw [hk, hrow] at hold
          cases hold
          exact .inr ⟨hk, rfl⟩
      by_cases hq : q row.slot = true
      · rw [if_pos hq]
        refine occupied_le [row.jobId] fun k row' hrow' hact hslot => ?_
        rcases hcases k row' hrow' with hold | ⟨hk, _⟩
        · exact .inr ⟨row', hold, hact, hslot⟩
        · exact .inl (by rw [hk]; exact mem_singleton_self _)
      · rw [if_neg hq]
        refine occupied_le [] fun k row' hrow' hact hslot => ?_
        rcases hcases k row' hrow' with hold | ⟨_, hsame⟩
        · exact .inr ⟨row', hold, hact, hslot⟩
        · rw [hsame] at hslot
          exact absurd hslot hq

/-! ## Any sequence of calls -/

/-- A call that changes jobs: of a worker, or the submission of a command. -/
inductive StoreCall
  | act (a : Act) (ω : Input)
  | submit (command : ExecutionCommand)

namespace StoreCall

def apply (env : Env) (s : Store) : StoreCall → Store
  | act a ω => (exec env a ω s).2
  | submit command => (ClientOp.submitCommand command).apply env s

/-- When the call is made, as far as it says. -/
def now : StoreCall → Option Instant
  | act a _ => a.now
  | submit _ => none

def UsesLimits (maxRun maxSource : Nat) : StoreCall → Prop
  | act (.claim _ _ _ r s) _ => r = maxRun ∧ s = maxSource
  | _ => True

end StoreCall

/-- No run and no source has more jobs at work than its limit. -/
structure Store.Bounded (maxRun maxSource : Nat) (t : Instant) (s : Store) : Prop where
  run : ∀ runId, s.occupied t (fun q => q.1 = runId) ≤ maxRun
  source : ∀ scope, s.occupied t (fun q => q.2 = some scope) ≤ maxSource

variable {maxRun maxSource : Nat}

theorem Store.Bounded.mono (h : t ≤ t') (hb : s.Bounded maxRun maxSource t) :
    s.Bounded maxRun maxSource t' where
  run runId := (occupied_mono h s _).trans (hb.run runId)
  source scope := (occupied_mono h s _).trans (hb.source scope)

variable (hb : s.Bounded maxRun maxSource t)

include hb in
theorem Store.Bounded.of_active (h : ∀ k row', s'.getJob k = some row' → active t row' = true →
      ∃ row, s.getJob k = some row ∧ active t row = true ∧ row.slot = row'.slot) :
    s'.Bounded maxRun maxSource t := by
  have hle : ∀ q, s'.occupied t q ≤ s.occupied t q := by
    intro q
    refine occupied_le [] fun k row' hrow' hact hslot => ?_
    obtain ⟨row, hrow, hact', hsame⟩ := h k row' hrow' hact
    exact .inr ⟨row, hrow, hact', by rw [hsame]; exact hslot⟩
  exact ⟨fun runId => (hle _).trans (hb.run runId), fun scope => (hle _).trans (hb.source scope)⟩

include hb in
/-- One job is put to work, where there is a slot left. -/
theorem Store.Bounded.of_claim {row : JobRecord} (hadm : s.admitted t maxRun maxSource row = true)
    (hle : ∀ q, s'.occupied t q ≤ s.occupied t q + if q row.slot then 1 else 0) :
    s'.Bounded maxRun maxSource t := by
  unfold admitted at hadm
  rw [Bool.and_eq_true] at hadm
  constructor
  · intro runId
    have hcount := hle fun q => q.1 = runId
    by_cases hrun : row.slot.1 = runId
    · have hfree : s.occupied t (fun q => q.1 = runId) < maxRun := by
        rw [← hrun]
        exact of_decide_eq_true hadm.1
      rw [if_pos (decide_eq_true hrun)] at hcount
      omega
    · rw [if_neg (by simpa using hrun)] at hcount
      exact hcount.trans (hb.run runId)
  · intro scope
    have hcount := hle fun q => q.2 = some scope
    by_cases hscope : row.slot.2 = some scope
    · have hfree : s.occupied t (fun q => q.2 = some scope) < maxSource := by
        have hsource := hadm.2
        rw [show row.sourceScope = some scope from hscope] at hsource
        exact of_decide_eq_true hsource
      rw [if_pos (decide_eq_true hscope)] at hcount
      omega
    · rw [if_neg (by simpa using hscope)] at hcount
      exact hcount.trans (hb.source scope)

include hb in
/-- **One call keeps the bound**, at the moment it is made. -/
theorem Store.Bounded.call {call : StoreCall}
    (hnow : ∀ now, call.now = some now → now = t) (hlimits : call.UsesLimits maxRun maxSource) :
    (call.apply env s).Bounded maxRun maxSource t := by
  cases call with
  | submit command =>
    have hkept : s.JobsKept ((ClientOp.submitCommand command).apply env s) := by
      change s.JobsKept ((enqueueExecutionCommand env.stableId command command.runId).commit s).2
      rcases (enqueueExecutionCommand env.stableId command command.runId).commit_cases s with
        ⟨b, s', hok, hc⟩ | ⟨e, _, hc⟩
      · rw [hc]
        rcases enqueueExecutionCommand_ok hok with
          rfl | ⟨_, j, _, hkind, _, _, hqueued, _, _, hins⟩
        · exact .of_eq rfl
        · exact .insertJob hins hqueued hkind
      · rw [hc]
        exact .of_eq rfl
    refine hb.of_active fun k row' hrow' hact => ?_
    rcases hkept k row' hrow' with hrow | ⟨_, hq, _⟩
    · exact ⟨row', hrow, hact, rfl⟩
    · simp [active, hq] at hact
  | act a ω =>
    change (exec env a ω s).2.Bounded maxRun maxSource t
    rcases hexec : exec env a ω s with ⟨r, s'⟩
    change s'.Bounded maxRun maxSource t
    by_cases hclaim : ∃ workerId now leaseSeconds r s, a = .claim workerId now leaseSeconds r s
    · obtain ⟨workerId, now, leaseSeconds, _, _, rfl⟩ := hclaim
      obtain rfl := hnow now rfl
      obtain ⟨rfl, rfl⟩ := hlimits
      rcases claim_occupied hexec with rfl | ⟨row, hadm, hle⟩
      · exact hb
      · exact hb.of_claim hadm hle
    · refine hb.of_active fun k row' hrow' hact => exec_active hexec hnow ?_ hrow' hact
      intro workerId now leaseSeconds r s heq
      exact hclaim ⟨workerId, now, leaseSeconds, r, s, heq⟩

def afterStoreCalls (env : Env) (s : Store) (calls : List StoreCall) : Store :=
  calls.foldl (StoreCall.apply env) s

/-- **Any calls keep the bound**, as long as the clock does not go back. -/
theorem Store.Bounded.calls (env : Env) (calls : List StoreCall) {t0 : Instant}
    (hb : s.Bounded maxRun maxSource t0)
    (hlimits : ∀ call ∈ calls, call.UsesLimits maxRun maxSource)
    (hsorted : (t0 :: calls.filterMap StoreCall.now).Pairwise (· ≤ ·))
    (hlast : ∀ now ∈ t0 :: calls.filterMap StoreCall.now, now ≤ t) :
    (afterStoreCalls env s calls).Bounded maxRun maxSource t := by
  induction calls generalizing s t0 with
  | nil => exact hb.mono (hlast t0 (mem_cons_self ..))
  | cons call calls ih =>
    have hlimits' := fun c hc => hlimits c (mem_cons_of_mem _ hc)
    have hcall := hlimits call (mem_cons_self ..)
    cases hnow : call.now with
    | none =>
      rw [filterMap_cons_none hnow] at hsorted hlast
      exact ih (hb.call (fun now h => by cases hnow.symm.trans h) hcall) hlimits' hsorted hlast
    | some now =>
      rw [filterMap_cons_some hnow] at hsorted hlast
      have hle : t0 ≤ now := rel_of_pairwise_cons hsorted (mem_cons_self ..)
      refine ih ((hb.mono hle).call (fun now' h => ?_) hcall) hlimits' hsorted.of_cons
        fun now' h => hlast now' (mem_cons_of_mem _ h)
      exact (Option.some.inj (hnow.symm.trans h)).symm

/-- **Admission is bounded**: after any calls that claim with the same limits at moments that do not
decrease, no run and no source ever has more jobs running within their leases than its limit. -/
theorem admission_bound (env : Env) (maxRun maxSource : Nat)
    (hidle : ∀ j ∈ s.jobs.rows, j.status ≠ .running) (calls : List StoreCall)
    (hlimits : ∀ call ∈ calls, call.UsesLimits maxRun maxSource)
    (hsorted : (calls.filterMap StoreCall.now).Pairwise (· ≤ ·))
    (hlast : ∀ now ∈ calls.filterMap StoreCall.now, now ≤ t) :
    (∀ runId, ((afterStoreCalls env s calls).jobs.rows.filter fun j =>
      j.runId = runId && active t j).length ≤ maxRun) ∧
    ∀ scope, ((afterStoreCalls env s calls).jobs.rows.filter fun j =>
      j.sourceScope = some scope && active t j).length ≤ maxSource := by
  have hzero : ∀ t0 q, s.occupied t0 q = 0 := by
    intro t0 q
    refine length_eq_zero_iff.mpr (filter_eq_nil_iff.mpr fun j hj => ?_)
    simp [active, hidle j hj]
  have hbounded : ∀ t0, s.Bounded maxRun maxSource t0 := fun t0 =>
    ⟨fun runId => by rw [hzero]; exact Nat.zero_le _, fun scope => by rw [hzero]; exact Nat.zero_le _⟩
  -- the clock starts no later than the first call
  cases htimes : calls.filterMap StoreCall.now with
  | nil =>
    have h := (hbounded t).calls env calls hlimits
      (by rw [htimes]; exact pairwise_singleton ..)
      (by rw [htimes]; exact fun now h => (mem_singleton.mp h).le)
    exact ⟨h.run, h.source⟩
  | cons t0 times =>
    have h := (hbounded t0).calls (t := t) env calls hlimits
      (by
        rw [htimes] at hsorted ⊢
        refine pairwise_cons.mpr ⟨fun now h => ?_, hsorted⟩
        rcases mem_cons.mp h with rfl | h
        · exact le_rfl
        · exact rel_of_pairwise_cons hsorted h)
      (by
        rw [htimes] at hlast ⊢
        intro now h
        rcases mem_cons.mp h with rfl | h
        · exact hlast now (mem_cons_self ..)
        · exact hlast now h)
    exact ⟨h.run, h.source⟩

/-- A second worker finds no slot until the extended lease has expired. -/
def contendingCalls : List StoreCall :=
  [.act (.claim "worker-1" 0 30 1 1) {},
    .act (.fenced ⟨"job-submit", "worker-1", 1⟩ (.heartbeat 20000000 30)) {},
    .submit (sampleCommand "cancel" .cancel 1), .act (.claim "worker-2" 40000000 30 1 1) {},
    .act (.claim "worker-2" 50000000 30 1 1) {}]

theorem admission_bound_contending :
    ((afterStoreCalls deployment (World.run deployment World.initial
      (submission samplePlan)).config.state contendingCalls).jobs.rows.filter fun j =>
        j.runId = "run-1" && active 50000000 j).length = 1 ∧
    ∀ runId, ((afterStoreCalls deployment (World.run deployment World.initial
      (submission samplePlan)).config.state contendingCalls).jobs.rows.filter fun j =>
        j.runId = runId && active 50000000 j).length ≤ 1 := by
  refine ⟨by decide +kernel, ?_⟩
  have hidle : (World.run deployment World.initial (submission samplePlan)).config.state.jobs.rows.all
      (fun j => j.status ≠ .running) = true := by decide +kernel
  refine (admission_bound deployment 1 1 (fun j hj => ?_) contendingCalls (fun call hcall => ?_) (by decide) (by decide)).1
  · simpa using all_eq_true.mp hidle j hj
  · simp only [contendingCalls, mem_cons, not_mem_nil, or_false] at hcall
    rcases hcall with rfl | rfl | rfl | rfl | rfl <;> first | exact ⟨rfl, rfl⟩ | trivial

end DirtyDataOlap
