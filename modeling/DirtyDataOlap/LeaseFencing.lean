import DirtyDataOlap.Deployment

/-!
# Lease fencing

The law behind every mutation of a claimed job, for any calls of the store's methods, by anybody, in
any order and with any clocks: the generation of a job never decreases, every claim raises it, and a
mutation succeeds only if it presents the generation that the row has.  So **everybody who still
presents an older one is refused, and a refused call leaves the store as it was**.
-/
namespace DirtyDataOlap

open Store

namespace Store

/-- The row is the same job, at the same or a later generation. -/
def Renewed (j j' : JobRecord) : Prop :=
  j'.jobId = j.jobId ∧ j.leaseGeneration ≤ j'.leaseGeneration

/-- No job has lost its generation. -/
def Fenced (s s' : Store) : Prop := Grows Renewed s.jobs.rows s'.jobs.rows

variable {s s' s'' : Store}

theorem Fenced.refl (s : Store) : s.Fenced s := Grows.refl (fun _ => ⟨rfl, Nat.le_refl _⟩) _

theorem Fenced.trans (h : s.Fenced s') (h' : s'.Fenced s'') : s.Fenced s'' :=
  Grows.trans (fun _ _ _ hab hbc => ⟨hbc.1.trans hab.1, Nat.le_trans hab.2 hbc.2⟩) h h'

theorem Fenced.of_jobs (h : s'.jobs = s.jobs) : s.Fenced s' := by
  unfold Fenced
  rw [h]
  exact Fenced.refl s

theorem Fenced.updateJob {jobId : String} {f : JobRecord → JobRecord}
    {hf : ∀ r, (f r).jobId = r.jobId}
    (h : ∀ r, r.leaseGeneration ≤ (f r).leaseGeneration) : s.Fenced (s.updateJob jobId f hf) :=
  Table.grows_update _ _ _ hf (fun _ => ⟨rfl, Nat.le_refl _⟩) fun r _ _ => ⟨hf r, h r⟩

theorem Fenced.insertJob {j : JobRecord} (h : s.insertJob j = .ok s') : s.Fenced s' := by
  obtain ⟨jobs, hjobs, rfl⟩ := insertJob_ok h
  exact Table.grows_insert? (fun _ => ⟨rfl, Nat.le_refl _⟩) hjobs

theorem Fenced.getJob (h : s.Fenced s') {jobId : String} {row : JobRecord}
    (hrow : s.getJob jobId = some row) :
    ∃ row', s'.getJob jobId = some row' ∧ row.leaseGeneration ≤ row'.leaseGeneration := by
  obtain ⟨row', hrow', _, hle⟩ := Table.find?_grows (fun _ _ hab => hab.1) h hrow
  exact ⟨row', hrow', hle⟩

theorem leaseGeneration_cancelRow (now : Instant) (j : JobRecord) :
    (cancelRow now j).leaseGeneration = j.leaseGeneration := by
  unfold cancelRow
  split <;> rfl

end Store

variable {env : Env} {s s' : Store}

theorem FencedOp.refused {lease : Lease} {row : JobRecord}
    (hrow : s.getJob lease.jobId = some row) (hne : row.leaseGeneration ≠ lease.generation)
    (op : FencedOp) (ω : Input) : ∃ e, exec env (.fenced lease op) ω s = (.error e, s) := by
  change ∃ e, (op.txn env.stableId lease).commit s = (.error e, s)
  rcases Txn.commit_cases (op.txn env.stableId lease) s with ⟨r, s', hok, _⟩ | ⟨e, _, hc⟩
  · obtain ⟨row', hrow', hh, _⟩ := FencedOp.txn_ok hok
    rw [hrow] at hrow'
    cases hrow'
    exact absurd (holds_iff.mp hh).2.2 hne
  · exact ⟨e, hc⟩

theorem FencedOp.fenced {lease : Lease} {op : FencedOp} {r : op.Reply}
    (h : op.txn env.stableId lease s = .ok (r, s')) : s.Fenced s' := by
  obtain ⟨_, _, _, rfl | ⟨attempts, f, hf, rfl, hf'⟩⟩ := FencedOp.txn_ok h
  · exact .refl _
  · have hattempts : s.Fenced { s with attempts } := .of_jobs rfl
    exact hattempts.trans (.updateJob fun j => (hf' j).1.ge)

theorem Write.fenced {w : Write} {r : w.Reply} (h : w.txn env.stableId s = .ok (r, s')) :
    s.Fenced s' := by
  rcases (Write.leaves h).jobs with heq | ⟨_, _, _, _, _, rfl⟩ | ⟨_, now, rfl⟩ | ⟨_, _, rfl⟩
  · exact .of_jobs heq
  · obtain ⟨_, _, _, _, _, ⟨_, rfl⟩ | ⟨_, _, hins⟩⟩ := enqueueStageJob_ok h
    · exact .refl _
    · exact .insertJob hins
  · obtain ⟨_, _, _, rfl⟩ := requestRunCancellation_ok h
    refine Table.grows_update _ _ _ (cancelRow_jobId now) (fun _ => ⟨rfl, Nat.le_refl _⟩) ?_
    intro j _ _
    exact ⟨cancelRow_jobId now j, by rw [leaseGeneration_cancelRow]⟩
  · obtain ⟨_, _, _, _, rfl⟩ := resumeJob_ok h
    exact .updateJob fun _ => Nat.le_refl _

/-- **One call**: whatever is called, no job loses its generation. -/
theorem exec_fenced {a : Act} {ω : Input} {r : Except Exc a.Reply}
    (h : exec env a ω s = (r, s')) : s.Fenced s' := by
  cases exec_effect h with
  | none => exact .refl s
  | claim hrow hclaim => exact .updateJob fun _ => Nat.le_succ _
  | fenced hok => exact FencedOp.fenced hok
  | write hok => exact Write.fenced hok

theorem claim_generation {workerId : String} {now : Instant} {leaseSeconds maxRun maxSource : Nat}
    {ω : Input} {job : JobRecord}
    (h : exec env (.claim workerId now leaseSeconds maxRun maxSource) ω s = (.ok (some job), s')) :
    ∃ row, s.getJob job.jobId = some row ∧ s'.getJob job.jobId = some job ∧
      job.leaseGeneration = row.leaseGeneration + 1 := by
  have hok : claimNextJob workerId now leaseSeconds maxRun maxSource s = .ok (some job, s') :=
    Txn.commit_ok h
  rcases claimNextJob_ok hok with ⟨hr, _⟩ | ⟨row, hrow, _, hr, rfl⟩
  · cases hr
  · cases hr
    exact ⟨row, hrow, getJob_updateJob_self hrow, rfl⟩

def afterCalls (env : Env) (s : Store) (calls : List (Act × Input)) : Store :=
  calls.foldl (fun s call => (exec env call.1 call.2 s).2) s

/-- **Any calls**: no job loses its generation. -/
theorem afterCalls_fenced (env : Env) (s : Store) (calls : List (Act × Input)) :
    s.Fenced (afterCalls env s calls) := by
  induction calls generalizing s with
  | nil => exact .refl s
  | cons call calls ih => exact (exec_fenced rfl).trans (ih _)

/-- **Lease fencing.**  The generation of a job never decreases, a claim raises it, and after any
further calls a mutation that presents an older one than the claim's is refused and changes nothing.
-/
theorem lease_fencing (env : Env) (s : Store) (calls : List (Act × Input)) :
    (∀ jobId row, s.getJob jobId = some row →
      ∃ row', (afterCalls env s calls).getJob jobId = some row' ∧
        row.leaseGeneration ≤ row'.leaseGeneration) ∧
    ∀ workerId now leaseSeconds maxRun maxSource ω job s',
      exec env (.claim workerId now leaseSeconds maxRun maxSource) ω (afterCalls env s calls) =
        (.ok (some job), s') → (∃ row, (afterCalls env s calls).getJob job.jobId = some row ∧
        s'.getJob job.jobId = some job ∧ row.leaseGeneration < job.leaseGeneration) ∧
      ∀ later (lease : Lease) op ω', lease.jobId = job.jobId →
        lease.generation < job.leaseGeneration →
        ∃ e, exec env (.fenced lease op) ω' (afterCalls env s' later) =
          (.error e, afterCalls env s' later) := by
  constructor
  · intro jobId row hrow
    exact (afterCalls_fenced env s calls).getJob hrow
  · intro workerId now leaseSeconds maxRun maxSource ω job s' hclaim
    obtain ⟨row, hrow, hjob, hgen⟩ := claim_generation hclaim
    refine ⟨⟨row, hrow, hjob, by omega⟩, ?_⟩
    intro later lease op ω' hid hlt
    obtain ⟨row', hrow', hle⟩ := (afterCalls_fenced env s' later).getJob hjob
    rw [← hid] at hrow'
    exact FencedOp.refused hrow' (by omega) op ω'

def claimedStore : Store :=
  afterCalls deployment (World.run deployment World.initial (submission samplePlan)).config.state
    [(.claim "worker-1" 0 30 1 1, {})]

/-- The lease of the first worker has expired and a second one claims: the first is refused from
then on. -/
theorem lease_fencing_reclaimed : ∃ job s',
    exec deployment (.claim "worker-2" 31000000 30 1 1) {} claimedStore = (.ok (some job), s') ∧
      job.leaseGeneration = 2 ∧
      ∃ e, exec deployment (.fenced ⟨job.jobId, "worker-1", 1⟩ (.heartbeat 1000000 30)) {}
        (afterCalls deployment s' [(.fenced ⟨job.jobId, "worker-2", 2⟩ (.heartbeat 32000000 30), {})]) =
          (.error e,
            afterCalls deployment s' [(.fenced ⟨job.jobId, "worker-2", 2⟩ (.heartbeat 32000000 30), {})])
    := by
  have hgen : ((exec deployment (.claim "worker-2" 31000000 30 1 1) {} claimedStore).1.toOption.join.map
      (·.leaseGeneration)) = some 2 := by decide +kernel
  rcases hc : exec deployment (.claim "worker-2" 31000000 30 1 1) {} claimedStore with
    ⟨_ | _ | job, s'⟩
  · rw [hc] at hgen
    cases hgen
  · rw [hc] at hgen
    cases hgen
  · rw [hc] at hgen
    have hgen : job.leaseGeneration = 2 := Option.some.inj hgen
    refine ⟨job, s', rfl, hgen, ?_⟩
    exact ((lease_fencing deployment _ _).2 _ _ _ _ _ _ job s' hc).2 _ ⟨job.jobId, "worker-1", 1⟩ _ _
      rfl (by rw [hgen]; exact Nat.one_lt_two)

end DirtyDataOlap
