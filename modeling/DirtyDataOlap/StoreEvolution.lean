import DirtyDataOlap.WorkerActions

/-!
# How the control store changes

Rows are never deleted, and each table has a law that every transaction obeys: generations never
decrease, revisions grow, a job that has succeeded or was cancelled is never written again, a
finalized attempt and a complete plan are frozen.  `Store.Evolves s s'` is the conjunction, a
preorder, and **all that an iteration may assume of the store between two of its own actions**
(`StageSucceeded`, `GoodOutputs`).
-/
namespace DirtyDataOlap

open Table

/-! ## Rows -/

/-- How a run row may change. -/
structure RunRecord.Evolves (a b : RunRecord) : Prop where
  runId : b.runId = a.runId
  rootArtifactRefs : b.rootArtifactRefs = a.rootArtifactRefs
  revision : b = a ∨ a.revision < b.revision
  cancelled : a.status = .cancelled → b.status = .cancelled
  succeeded : a.status = .succeeded → b.status = .succeeded ∨ b.status = .cancelled

/-- How a job row may change. -/
structure JobRecord.Evolves (a b : JobRecord) : Prop where
  jobId : b.jobId = a.jobId
  runId : b.runId = a.runId
  jobKind : b.jobKind = a.jobKind
  commandId : b.commandId = a.commandId
  action : b.action = a.action
  stageId : b.stageId = a.stageId
  planId : b.planId = a.planId
  replaySafety : b.replaySafety = a.replaySafety
  generation : a.leaseGeneration ≤ b.leaseGeneration
  owner : b.leaseGeneration = a.leaseGeneration →
    b.leaseOwner = a.leaseOwner ∨ b.leaseOwner = none
  revision : b = a ∨ a.revision < b.revision
  succeeded : a.status = .succeeded → b = a
  cancelled : a.status = .cancelled → b = a

/-- How an attempt row may change. -/
structure StageAttemptRecord.Evolves (a b : StageAttemptRecord) : Prop where
  attemptId : b.attemptId = a.attemptId
  runId : b.runId = a.runId
  stageId : b.stageId = a.stageId
  attemptNumber : b.attemptNumber = a.attemptNumber
  inputArtifactRefs : b.inputArtifactRefs = a.inputArtifactRefs
  revision : b = a ∨ a.revision < b.revision
  finalized : a.deliveryPhase = .finalized → b = a

theorem RunRecord.Evolves.refl (a : RunRecord) : a.Evolves a :=
  ⟨rfl, rfl, .inl rfl, id, .inl⟩

theorem JobRecord.Evolves.refl (a : JobRecord) : a.Evolves a :=
  ⟨rfl, rfl, rfl, rfl, rfl, rfl, rfl, rfl, le_rfl, fun _ => .inl rfl, .inl rfl, fun _ => rfl,
    fun _ => rfl⟩

theorem StageAttemptRecord.Evolves.refl (a : StageAttemptRecord) : a.Evolves a :=
  ⟨rfl, rfl, rfl, rfl, rfl, .inl rfl, fun _ => rfl⟩

theorem revision_trans {α : Type} {rev : α → Nat} {a b c : α} (h1 : b = a ∨ rev a < rev b)
    (h2 : c = b ∨ rev b < rev c) : c = a ∨ rev a < rev c := by
  rcases h1 with rfl | h1
  · exact h2
  rcases h2 with rfl | h2
  · exact .inr h1
  · exact .inr (Nat.lt_trans h1 h2)

theorem RunRecord.Evolves.trans {a b c : RunRecord} (h1 : a.Evolves b) (h2 : b.Evolves c) :
    a.Evolves c where
  runId := h2.runId.trans h1.runId
  rootArtifactRefs := h2.rootArtifactRefs.trans h1.rootArtifactRefs
  revision := revision_trans h1.revision h2.revision
  cancelled h := h2.cancelled (h1.cancelled h)
  succeeded h := by
    rcases h1.succeeded h with h | h
    · exact h2.succeeded h
    · exact .inr (h2.cancelled h)

theorem JobRecord.Evolves.trans {a b c : JobRecord} (h1 : a.Evolves b) (h2 : b.Evolves c) :
    a.Evolves c where
  jobId := h2.jobId.trans h1.jobId
  runId := h2.runId.trans h1.runId
  jobKind := h2.jobKind.trans h1.jobKind
  commandId := h2.commandId.trans h1.commandId
  action := h2.action.trans h1.action
  stageId := h2.stageId.trans h1.stageId
  planId := h2.planId.trans h1.planId
  replaySafety := h2.replaySafety.trans h1.replaySafety
  generation := h1.generation.trans h2.generation
  owner h := by
    have hle1 := h1.generation
    have hle2 := h2.generation
    rcases h2.owner (by omega) with ho | ho
    · rw [ho]
      exact h1.owner (by omega)
    · exact .inr ho
  revision := revision_trans h1.revision h2.revision
  succeeded h := by
    obtain rfl := h1.succeeded h
    exact h2.succeeded h
  cancelled h := by
    obtain rfl := h1.cancelled h
    exact h2.cancelled h

theorem StageAttemptRecord.Evolves.trans {a b c : StageAttemptRecord} (h1 : a.Evolves b)
    (h2 : b.Evolves c) : a.Evolves c where
  attemptId := h2.attemptId.trans h1.attemptId
  runId := h2.runId.trans h1.runId
  stageId := h2.stageId.trans h1.stageId
  attemptNumber := h2.attemptNumber.trans h1.attemptNumber
  inputArtifactRefs := h2.inputArtifactRefs.trans h1.inputArtifactRefs
  revision := revision_trans h1.revision h2.revision
  finalized h := by
    obtain rfl := h1.finalized h
    exact h2.finalized h

/-- **How the store may change.** -/
structure Store.Evolves (s s' : Store) : Prop where
  runs : Grows RunRecord.Evolves s.runs.rows s'.runs.rows
  plans : Grows ExecutionPlan.Evolves s.plans.rows s'.plans.rows
  jobs : Grows JobRecord.Evolves s.jobs.rows s'.jobs.rows
  attempts : Grows StageAttemptRecord.Evolves s.attempts.rows s'.attempts.rows
  artifacts : Grows Eq s.artifacts.rows s'.artifacts.rows
  reviewContexts : Grows Eq s.reviewContexts.rows s'.reviewContexts.rows
  gateEvidence : Grows Eq s.gateEvidence.rows s'.gateEvidence.rows

namespace Store

theorem Evolves.refl (s : Store) : s.Evolves s where
  runs := Grows.refl RunRecord.Evolves.refl _
  plans := Grows.refl ExecutionPlan.Evolves.refl _
  jobs := Grows.refl JobRecord.Evolves.refl _
  attempts := Grows.refl StageAttemptRecord.Evolves.refl _
  artifacts := Grows.refl (fun _ => rfl) _
  reviewContexts := Grows.refl (fun _ => rfl) _
  gateEvidence := Grows.refl (fun _ => rfl) _

theorem Evolves.trans {s1 s2 s3 : Store} (h1 : s1.Evolves s2) (h2 : s2.Evolves s3) :
    s1.Evolves s3 where
  runs := Grows.trans (fun _ _ _ e1 e2 => e1.trans e2) h1.runs h2.runs
  plans := Grows.trans (fun _ _ _ e1 e2 => e1.trans e2) h1.plans h2.plans
  jobs := Grows.trans (fun _ _ _ e1 e2 => e1.trans e2) h1.jobs h2.jobs
  attempts := Grows.trans (fun _ _ _ e1 e2 => e1.trans e2) h1.attempts h2.attempts
  artifacts := Grows.trans (fun _ _ _ e1 e2 => e1.trans e2) h1.artifacts h2.artifacts
  reviewContexts := Grows.trans (fun _ _ _ e1 e2 => e1.trans e2) h1.reviewContexts h2.reviewContexts
  gateEvidence := Grows.trans (fun _ _ _ e1 e2 => e1.trans e2) h1.gateEvidence h2.gateEvidence

section Lookups
variable {s s' : Store} (h : s.Evolves s')
include h

variable {runId : String}

theorem Evolves.getRun {r : RunRecord} (hr : s.getRun runId = some r) :
    ∃ r', s'.getRun runId = some r' ∧ r.Evolves r' :=
  find?_grows (R := RunRecord.Evolves) (t := s.runs)
    (fun _ _ e => e.runId) h.runs hr

theorem Evolves.getJob {jobId : String} {j : JobRecord} (hj : s.getJob jobId = some j) :
    ∃ j', s'.getJob jobId = some j' ∧ j.Evolves j' :=
  find?_grows (R := JobRecord.Evolves) (t := s.jobs)
    (fun _ _ e => e.jobId) h.jobs hj

theorem Evolves.job {jobId : String} {j row : JobRecord} (hj : s.getJob jobId = some j)
    (hrow : s'.getJob jobId = some row) : j.Evolves row := by
  obtain ⟨j', hj', he⟩ := h.getJob hj
  cases hrow.symm.trans hj'
  exact he

theorem Evolves.getStageAttempt {attemptId : String} {a : StageAttemptRecord}
    (ha : s.getStageAttempt attemptId = some a) :
    ∃ a', s'.getStageAttempt attemptId = some a' ∧ a.Evolves a' :=
  find?_grows (R := StageAttemptRecord.Evolves) (t := s.attempts)
    (fun _ _ e => e.attemptId) h.attempts ha

theorem Evolves.getExecutionPlan {p : ExecutionPlan} (hp : s.getExecutionPlan runId = some p) :
    ∃ p', s'.getExecutionPlan runId = some p' ∧ p.Evolves p' :=
  Grows.find? (fun _ _ hab => by simp only [hab.runId]) h.plans hp

theorem Evolves.getStageJob {stageId : String} {j : JobRecord}
    (hj : s.getStageJob runId stageId = some j) :
    ∃ j', s'.getStageJob runId stageId = some j' ∧ j.Evolves j' :=
  Grows.find? (fun _ _ hab => by simp only [hab.runId, hab.stageId]) h.jobs hj

theorem Evolves.getArtifact {artifactId : String} {a : ArtifactRef}
    (ha : s.getArtifact artifactId = some a) : s'.getArtifact artifactId = some a := by
  obtain ⟨a', ha', rfl⟩ := find?_grows (fun _ _ hab => by rw [hab]) h.artifacts ha
  exact ha'

theorem Evolves.getGateEvidence {gateId : String} {g : GateEvidence}
    (hg : s.getGateEvidence gateId runId = some g) : s'.getGateEvidence gateId runId = some g := by
  obtain ⟨g', hg', rfl⟩ := find?_grows (fun _ _ hab => by rw [hab]) h.gateEvidence hg
  exact hg'

theorem Evolves.run_isSome (hr : (s.getRun runId).isSome) : (s'.getRun runId).isSome := by
  obtain ⟨r, hr⟩ := Option.isSome_iff_exists.mp hr
  obtain ⟨r', hr', _⟩ := h.getRun hr
  exact Option.isSome_iff_exists.mpr ⟨r', hr'⟩

end Lookups

def StageSucceeded (s : Store) (runId stageId : String) : Prop :=
  ∃ j, s.getStageJob runId stageId = some j ∧ j.status = .succeeded

def HasStageJob (s : Store) (runId stageId : String) : Prop :=
  (s.getStageJob runId stageId).isSome

/-- Every output is published and registered to the run, the stage and the
attempt. -/
def GoodOutputs (s : Store) (runId : String) (stageId : Option String) (attemptId : String)
    (outputs : List String) : Prop :=
  ∀ o ∈ outputs, ∃ a, s.getArtifact o = some a ∧ a.runId = runId ∧ some a.stageId = stageId ∧
    a.attemptId = attemptId ∧ a.publicationState = .published

variable {s : Store} {runId : String} {s' : Store} {j : JobRecord}
  {attemptId jobId stageId : String} {a : StageAttemptRecord} {f : JobRecord → JobRecord}

section
variable (h : s.Evolves s')
include h

/-- **A succeeded job never changes again**, so it is the same job later on. -/
theorem Evolves.succeededJob (hj : s.getStageJob runId stageId = some j)
    (hs : j.status = .succeeded) : s'.getStageJob runId stageId = some j := by
  obtain ⟨j', hj', he⟩ := h.getStageJob hj
  rwa [he.succeeded hs] at hj'

theorem StageSucceeded.mono (hs : s.StageSucceeded runId stageId) :
    s'.StageSucceeded runId stageId := by
  obtain ⟨j, hj, hst⟩ := hs
  exact ⟨j, h.succeededJob hj hst, hst⟩

theorem HasStageJob.mono (hs : s.HasStageJob runId stageId) : s'.HasStageJob runId stageId := by
  obtain ⟨j, hj⟩ := Option.isSome_iff_exists.mp hs
  obtain ⟨j', hj', _⟩ := h.getStageJob hj
  exact Option.isSome_iff_exists.mpr ⟨j', hj'⟩

theorem GoodOutputs.mono {stageId : Option String} {outputs : List String}
    (hg : s.GoodOutputs runId stageId attemptId outputs) :
    s'.GoodOutputs runId stageId attemptId outputs := by
  intro o ho
  obtain ⟨a, ha, hrest⟩ := hg o ho
  exact ⟨a, h.getArtifact ha, hrest⟩

/-- The inputs of a stage whose hard dependencies have succeeded are final. -/
theorem Evolves.inputArtifactRefs {stage : StageSpec}
    (hrun : (s.getRun runId).isSome) (hdeps : ∀ d ∈ stage.dependencies, s.StageSucceeded runId d) :
    s'.inputArtifactRefs runId stage = s.inputArtifactRefs runId stage := by
  obtain ⟨r, hr⟩ := Option.isSome_iff_exists.mp hrun
  obtain ⟨r', hr', he⟩ := h.getRun hr
  have hroots : (s'.getRun runId).elim [] (·.rootArtifactRefs) =
      (s.getRun runId).elim [] (·.rootArtifactRefs) := by
    simp [hr, hr', he.rootArtifactRefs]
  have hflat : ∀ ds : List String, (∀ d ∈ ds, s.StageSucceeded runId d) →
      (ds.flatMap fun d => (s'.getStageJob runId d).elim [] (·.resultRefs)) =
        ds.flatMap fun d => (s.getStageJob runId d).elim [] (·.resultRefs) := by
    intro ds
    induction ds with
    | nil => intro _; rfl
    | cons d ds ih =>
      intro hds
      obtain ⟨j, hj, hst⟩ := hds d (List.mem_cons_self ..)
      rw [List.flatMap_cons, List.flatMap_cons, h.succeededJob hj hst, hj,
        ih fun e he => hds e (List.mem_cons_of_mem _ he)]
  unfold Store.inputArtifactRefs
  rw [hroots, hflat _ hdeps]

end

/-! ### Rewriting one row -/

theorem mem_jobs_iff : j ∈ s.jobs.rows ↔ s.getJob j.jobId = some j :=
  ⟨fun h => find?_of_mem h, fun h => mem_of_find? h⟩

theorem getJob_jobId (h : s.getJob jobId = some j) : j.jobId = jobId := find?_key h

theorem getJob_mem (h : s.getJob jobId = some j) : j ∈ s.jobs.rows := mem_of_find? h

theorem getStageJob_spec (h : s.getStageJob runId stageId = some j) :
    j ∈ s.jobs.rows ∧ j.runId = runId ∧ j.stageId = some stageId := by
  refine ⟨List.mem_of_find?_eq_some h, ?_⟩
  simpa using List.find?_some h

theorem getExecutionPlan_spec {p : ExecutionPlan} (h : s.getExecutionPlan runId = some p) :
    p ∈ s.plans.rows ∧ p.runId = runId :=
  ⟨List.mem_of_find?_eq_some h, by simpa using List.find?_some h⟩

theorem getRun_runId {r : RunRecord} (h : s.getRun runId = some r) : r.runId = runId := find?_key h

theorem getStageAttempt_attemptId (h : s.getStageAttempt attemptId = some a) :
    a.attemptId = attemptId := find?_key h

theorem getJob_updateJob {hf : ∀ r, (f r).jobId = r.jobId} (k : String) :
    (s.updateJob jobId f hf).getJob k = if k = jobId then (s.getJob k).map f else s.getJob k := by
  unfold Store.getJob updateJob
  rw [find?_update]
  cases hk : s.jobs.find? k with
  | none => simp
  | some r =>
    have hid : r.jobId = k := find?_key hk
    by_cases hkj : k = jobId
    · simp [hkj, hid]
    · simp [hkj, hid]

theorem getJob_updateJob_self {hf : ∀ r, (f r).jobId = r.jobId} {row : JobRecord}
    (h : s.getJob jobId = some row) : (s.updateJob jobId f hf).getJob jobId = some (f row) := by
  rw [getJob_updateJob, if_pos rfl, h]
  rfl

theorem getStageAttempt_updateAttempt {f : StageAttemptRecord → StageAttemptRecord}
    {hf : ∀ r, (f r).attemptId = r.attemptId} (k : String) :
    (s.updateAttempt attemptId f hf).getStageAttempt k =
      if k = attemptId then (s.getStageAttempt k).map f else s.getStageAttempt k := by
  unfold Store.getStageAttempt updateAttempt
  rw [find?_update]
  cases hk : s.attempts.find? k with
  | none => simp
  | some r =>
    have hid : r.attemptId = k := find?_key hk
    by_cases hkj : k = attemptId
    · simp [hkj, hid]
    · simp [hkj, hid]

theorem getStageAttempt_updateAttempt_self (f : StageAttemptRecord → StageAttemptRecord)
    (hf : ∀ r, (f r).attemptId = r.attemptId) (h : s.getStageAttempt attemptId = some a) :
    (s.updateAttempt attemptId f hf).getStageAttempt attemptId = some (f a) := by
  rw [getStageAttempt_updateAttempt, if_pos rfl, h]
  rfl

theorem getRun_updateRunRow {f : RunRecord → RunRecord} {hf : ∀ r, (f r).runId = r.runId}
    (k : String) : (s.updateRunRow runId f hf).getRun k =
      if k = runId then (s.getRun k).map f else s.getRun k := by
  unfold Store.getRun updateRunRow
  rw [find?_update]
  cases hk : s.runs.find? k with
  | none => simp
  | some r =>
    have hid : r.runId = k := find?_key hk
    by_cases hkj : k = runId
    · simp [hkj, hid]
    · simp [hkj, hid]

theorem Evolves.updateJob {hf : ∀ r, (f r).jobId = r.jobId}
    (h : ∀ j, s.getJob jobId = some j → j.Evolves (f j)) : s.Evolves (s.updateJob jobId f hf) :=
  { Evolves.refl s with
    jobs := grows_update _ _ _ hf JobRecord.Evolves.refl fun j hj hp => h j <| by
      rw [← show j.jobId = jobId by simpa using hp]
      exact mem_jobs_iff.mp hj }

theorem Evolves.updateAttempt {f : StageAttemptRecord → StageAttemptRecord}
    {hf : ∀ r, (f r).attemptId = r.attemptId}
    (h : ∀ a, s.getStageAttempt attemptId = some a → a.Evolves (f a)) :
    s.Evolves (s.updateAttempt attemptId f hf) :=
  { Evolves.refl s with
    attempts := grows_update _ _ _ hf StageAttemptRecord.Evolves.refl fun a ha hp => h a <| by
      rw [← show a.attemptId = attemptId by simpa using hp]
      exact find?_of_mem ha }

theorem Evolves.updateRunRow {f : RunRecord → RunRecord} {hf : ∀ r, (f r).runId = r.runId}
    (h : ∀ r, s.getRun runId = some r → r.Evolves (f r)) :
    s.Evolves (s.updateRunRow runId f hf) :=
  { Evolves.refl s with
    runs := grows_update _ _ _ hf RunRecord.Evolves.refl fun r hr hp => h r <| by
      rw [← show r.runId = runId by simpa using hp]
      exact find?_of_mem hr }

theorem insertJob_ok (h : s.insertJob j = .ok s') :
    ∃ jobs, s.jobs.insert? j = some jobs ∧ s' = { s with jobs } := by
  unfold insertJob at h
  split at h
  · rename_i jobs hjobs
    cases h
    exact ⟨jobs, hjobs, rfl⟩
  · cases h

theorem insertAttempt_ok (h : s.insertAttempt a = .ok s') :
    ∃ attempts, s.attempts.insert? a = some attempts ∧ s' = { s with attempts } := by
  unfold insertAttempt at h
  split at h
  · rename_i attempts hattempts
    cases h
    exact ⟨attempts, hattempts, rfl⟩
  · cases h

theorem Evolves.insertJob (h : s.insertJob j = .ok s') : s.Evolves s' := by
  obtain ⟨jobs, hjobs, rfl⟩ := insertJob_ok h
  exact { Evolves.refl s with jobs := grows_insert? JobRecord.Evolves.refl hjobs }

theorem Evolves.insertAttempt (h : s.insertAttempt a = .ok s') : s.Evolves s' := by
  obtain ⟨attempts, hattempts, rfl⟩ := insertAttempt_ok h
  exact { Evolves.refl s with
    attempts := grows_insert? StageAttemptRecord.Evolves.refl hattempts }

end Store
end DirtyDataOlap
