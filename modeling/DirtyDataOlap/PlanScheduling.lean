import DirtyDataOlap.SchedulingRules

/-!
# Accepted plans cannot deadlock

`validate_graph` peels the dependency table in rounds.  **The loop ends with every stage resolved
exactly when no stage depends on itself**, and then the stages can be scheduled in that order: when
all enqueued jobs have succeeded and none is enqueued any more, every selected stage has succeeded.
-/
namespace DirtyDataOlap

open List Store ExecutionPlan PlanData Prog

namespace PlanData

/-- The known dependencies of every stage, of the three kinds: `pending` before the loop. -/
def dependencyTable (p : PlanData) : List (String × List String) :=
  let known := p.stages.map (·.stageId)
  p.stages.map fun s => (s.stageId,
    (s.dependencies ++ s.optionalDependencies ++ s.conditionalDependencies).filter
      (known.contains ·))

def resolvable (resolved : List String) (entry : String × List String) : Bool :=
  entry.2.all (resolved.contains ·)

/-- `while pending`, as it is run: it ends with every stage resolved, or raises in a round that
resolves none. -/
inductive Peels : List (String × List String) → List String → Bool → Prop
  | done {resolved : List String} : Peels [] resolved true
  | stuck {pending : List (String × List String)} {resolved : List String} (hne : pending ≠ [])
      (hnone : pending.filter (resolvable resolved) = []) : Peels pending resolved false
  | round {pending : List (String × List String)} {resolved : List String} {b : Bool}
      (hsome : pending.filter (resolvable resolved) ≠ [])
      (hrest : Peels (pending.filter fun x => !resolvable resolved x)
        ((pending.filter (resolvable resolved)).map (·.1) ++ resolved) b) :
      Peels pending resolved b

variable {pending : List (String × List String)}

theorem length_unresolved_lt {resolved : List String}
    (h : pending.filter (resolvable resolved) ≠ []) :
    (pending.filter fun x => !resolvable resolved x).length < pending.length := by
  have hsum := length_eq_length_filter_add (l := pending) (resolvable resolved)
  have hpos := length_pos_of_ne_nil h
  omega

/-- With a round for every pending stage the loop of the validator ends as `while pending` does. -/
theorem peels_acyclicLoop {fuel : Nat} {resolved : List String} (h : pending.length ≤ fuel) :
    Peels pending resolved (acyclicLoop fuel pending resolved) := by
  induction fuel generalizing pending resolved with
  | zero =>
    obtain rfl : pending = [] := length_eq_zero_iff.1 (by omega)
    exact .done
  | succ fuel ih =>
    cases pending with
    | nil => exact .done
    | cons entry rest =>
      change Peels _ _ (if ((entry :: rest).filter (resolvable resolved)).isEmpty then false
        else acyclicLoop fuel ((entry :: rest).filter fun x => !resolvable resolved x)
          (((entry :: rest).filter (resolvable resolved)).map (·.1) ++ resolved))
      by_cases hready : (entry :: rest).filter (resolvable resolved) = []
      · rw [hready]
        exact .stuck (by simp) hready
      · rw [if_neg (by simpa using hready)]
        have hlt := length_unresolved_lt hready
        exact .round hready (ih (by omega))

/-- **The validation loop terminates**, with the verdict that the plan is judged by. -/
theorem peels_acyclic (p : PlanData) : Peels p.dependencyTable [] p.acyclic :=
  peels_acyclicLoop (by simp [dependencyTable])

/-- `a` depends on `b`, in one of the three ways, and `b` is a stage of the plan. -/
def DependsOn (p : PlanData) (a b : String) : Prop :=
  ∃ deps, (a, deps) ∈ p.dependencyTable ∧ b ∈ deps

/-- Some stage depends on itself, directly or through others. -/
def Cyclic (p : PlanData) : Prop := ∃ a, Relation.TransGen p.DependsOn a a

section
variable {table pending : List (String × List String)} {resolved : List String}

theorem entry_unique (hn : (table.map (·.1)).Nodup) {a : String} {deps deps' : List String}
    (h : (a, deps) ∈ table) (h' : (a, deps') ∈ table) : deps = deps' :=
  (Prod.mk.inj (inj_on_of_nodup_map hn h h' rfl)).2

/-- What the loop resolves is well founded: each stage only after what it depends on. -/
theorem Peels.acc {b : Bool} (h : Peels pending resolved b) (hb : b = true)
    (hn : (table.map (·.1)).Nodup) (hsub : pending ⊆ table)
    (hresolved : ∀ a ∈ resolved, Acc (fun y x => ∃ deps, (x, deps) ∈ table ∧ y ∈ deps) a) :
    ∀ entry ∈ pending, Acc (fun y x => ∃ deps, (x, deps) ∈ table ∧ y ∈ deps) entry.1 := by
  induction h with
  | done => exact fun _ h => absurd h not_mem_nil
  | stuck => cases hb
  | @round pending resolved b hsome hrest ih =>
    have hready : ∀ entry ∈ pending, resolvable resolved entry = true →
        Acc (fun y x => ∃ deps, (x, deps) ∈ table ∧ y ∈ deps) entry.1 := by
      rintro ⟨a, deps⟩ hmem hres
      refine ⟨_, ?_⟩
      rintro y ⟨deps', hdeps', hy⟩
      rw [← entry_unique hn (hsub hmem) hdeps'] at hy
      have hall := all_eq_true.1 hres y hy
      exact hresolved y (by simpa using hall)
    have hrest' := ih hb (fun x hx => hsub (mem_filter.1 hx).1) (by
      intro a ha
      rcases mem_append.1 ha with ha | ha
      · obtain ⟨entry, hentry, rfl⟩ := mem_map.1 ha
        obtain ⟨hmem, hres⟩ := mem_filter.1 hentry
        exact hready entry hmem hres
      · exact hresolved a ha)
    intro entry hmem
    by_cases hres : resolvable resolved entry = true
    · exact hready entry hmem hres
    · exact hrest' entry (mem_filter.2 ⟨hmem, by simpa using hres⟩)

end

variable {p : PlanData}

/-- In an acyclic plan with unique stages, every dependency comes before what depends on it. -/
theorem acc_of_acyclic (hn : (p.stages.map (·.stageId)).Nodup) (h : p.acyclic = true) (a : String) :
    Acc (fun y x => p.DependsOn x y) a := by
  have hids : (p.dependencyTable.map (·.1)).Nodup := by
    simpa [dependencyTable, Function.comp_def] using hn
  have hall := (peels_acyclic p).acc h hids (fun _ hx => hx) (by simp)
  by_cases hmem : ∃ entry ∈ p.dependencyTable, entry.1 = a
  · obtain ⟨entry, hentry, rfl⟩ := hmem
    exact hall entry hentry
  · refine ⟨_, ?_⟩
    rintro y ⟨deps, hdeps, -⟩
    exact absurd ⟨_, hdeps, rfl⟩ hmem

theorem not_transGen_self {α : Type} {r : α → α → Prop} {a : α} (h : Acc r a) :
    ¬ Relation.TransGen r a a := by
  have hacc := h.transGen
  clear h
  induction hacc with
  | intro x _ ih => exact fun hx => ih x hx hx

theorem not_cyclic (hn : (p.stages.map (·.stageId)).Nodup) (h : p.acyclic = true) : ¬ p.Cyclic := by
  rintro ⟨a, ha⟩
  have hswap : Relation.TransGen (fun y x => p.DependsOn x y) a a := by
    rwa [Relation.transGen_swap]
  exact not_transGen_self (acc_of_acyclic hn h a) hswap

/-- **A plan with a cycle is rejected.** -/
theorem validateGraph_of_cyclic (h : p.Cyclic) : p.validateGraph ≠ none := by
  intro hvalid
  have hn := check_of_valid hvalid (c := (decide (p.stages.map (·.stageId)).Nodup,
    "execution plan stage identities must be unique")) (by simp [checks])
  have hacyclic := check_of_valid hvalid (c := (p.acyclic, "execution plan must be acyclic"))
    (by simp [checks])
  exact not_cyclic (by simpa using hn) hacyclic h

end PlanData

/-! ## Scheduling without interference -/

section Scheduling
variable {env : Env} {plan : ExecutionPlan} {s s' : Store}

variable {stage : StageSpec} {runId : String} {α : Type} {r : Except Exc α} {parent : Option String}
  {i : String}

theorem runs_read {q : Query} {f : q.Reply → Worker α} :
    ((Worker.read q).bind f).Runs (exec env) s r s' ↔ (f (q.eval s)).Runs (exec env) s r s' :=
  ⟨fun ⟨_, h⟩ => h, fun h => ⟨{}, h⟩⟩

theorem runs_now {f : Instant → Worker α} :
    (Worker.now.bind f).Runs (exec env) s r s' ↔ ∃ t, (f t).Runs (exec env) s r s' :=
  ⟨fun ⟨ω, h⟩ => ⟨ω.clock, h⟩, fun ⟨t, h⟩ => ⟨{ clock := t }, h⟩⟩

theorem runs_write {w : Write} {f : w.Reply → Worker α} :
    ((Worker.write w).bind f).Runs (exec env) s r s' ↔
      (∃ v s1, w.txn env.stableId s = .ok (v, s1) ∧ (f v).Runs (exec env) s1 r s') ∨
        ∃ e, w.txn env.stableId s = .error e ∧ r = .error e ∧ s' = s := by
  change (∃ _ : Input, Prog.Runs (exec env)
    ((done ((w.txn env.stableId).commit s).1).bind f) ((w.txn env.stableId).commit s).2 r s') ↔ _
  unfold Txn.commit
  cases htxn : w.txn env.stableId s with
  | ok v =>
    constructor
    · rintro ⟨_, h⟩
      exact .inl ⟨v.1, v.2, rfl, h⟩
    · rintro (⟨_, _, ⟨⟩, h⟩ | ⟨_, ⟨⟩, _⟩)
      exact ⟨{}, h⟩
  | error e =>
    constructor
    · rintro ⟨_, rfl, rfl⟩
      exact .inr ⟨e, rfl, rfl, rfl⟩
    · rintro (⟨_, _, ⟨⟩, _⟩ | ⟨_, ⟨⟩, rfl, rfl⟩)
      exact ⟨{}, rfl, rfl⟩

def Store.succeeded (s : Store) (runId stageId : String) : Bool :=
  (s.getStageJob runId stageId).any fun j => j.status = .succeeded

theorem Store.succeeded_iff {stageId : String} :
    s.succeeded runId stageId = true ↔ s.StageSucceeded runId stageId := by
  unfold succeeded Store.StageSucceeded
  rw [Option.any_eq_true]
  simp

def Store.ready (s : Store) (plan : ExecutionPlan) (stage : StageSpec) : Bool :=
  (stage.dependencies.all fun d => s.succeeded plan.runId d) &&
    stage.conditionalDependencies.all fun d =>
      !((plan.stage d).any (·.selected)) || s.succeeded plan.runId d

theorem Store.ready_iff : s.ready plan stage = true ↔ s.Satisfied plan stage := by
  unfold ready Store.Satisfied
  rw [Bool.and_eq_true, all_eq_true, all_eq_true]
  simp only [succeeded_iff, Bool.or_eq_true, Bool.not_eq_true']
  refine and_congr_right fun _ => forall₂_congr fun d _ => ?_
  cases (plan.stage d).any (·.selected) <;> simp

theorem runs_hardSucceeded {ds : List String} {r : Except Exc Bool} :
    (hardSucceeded runId ds).Runs (exec env) s r s' ↔
      r = .ok (ds.all fun d => s.succeeded runId d) ∧ s' = s := by
  induction ds with
  | nil => exact Iff.rfl
  | cons d ds ih =>
    unfold hardSucceeded
    rw [bind_def, runs_read]
    simp only [Query.eval]
    have hd : s.succeeded runId d =
      (s.getStageJob runId d).any fun j => j.status = .succeeded := rfl
    rw [all_cons, hd]
    cases hget : s.getStageJob runId d with
    | none => simp
    | some j =>
      by_cases hj : j.status = .succeeded
      · simp [hj, ih]
      · simp [hj]

theorem runs_conditionalSucceeded {ds : List String} {r : Except Exc Bool} :
    (conditionalSucceeded plan ds).Runs (exec env) s r s' ↔ r = .ok (ds.all fun d =>
        !((plan.stage d).any (·.selected)) || s.succeeded plan.runId d) ∧ s' = s := by
  induction ds with
  | nil => exact Iff.rfl
  | cons d ds ih =>
    unfold conditionalSucceeded
    rw [bind_def, runs_read]
    simp only [Query.eval]
    have hd : s.succeeded plan.runId d =
      (s.getStageJob plan.runId d).any fun j => j.status = .succeeded := rfl
    rw [all_cons, hd]
    cases hsel : (plan.stage d).any (·.selected) with
    | false => simp [ih]
    | true =>
      by_cases hdone : ((s.getStageJob plan.runId d).any fun j => j.status = .succeeded) = true
      · simp [hdone, ih]
      · simp [hdone]

theorem runs_dependenciesSucceeded {stageId : String} (hstage : plan.stage stageId = some stage)
    {r : Except Exc Bool} : (dependenciesSucceeded plan stageId).Runs (exec env) s r s' ↔
      r = .ok (s.ready plan stage) ∧ s' = s := by
  unfold dependenciesSucceeded
  rw [hstage]
  simp only [bind_def, runs_bind, runs_hardSucceeded, ready]
  cases hhard : stage.dependencies.all fun d => s.succeeded plan.runId d with
  | false => simp
  | true => simp [runs_conditionalSucceeded]

/-- A call of `_schedule_ready` that returns without enqueuing leaves the store as it was, and every
selected stage that is ready has a job. -/
theorem runs_scheduleStages_idle {stages : List StageSpec} {n : Nat}
    (hsub : ∀ stage ∈ stages, plan.stage stage.stageId = some stage) {count : Nat}
    (h : (scheduleStages plan parent stages n).Runs (exec env) s (.ok count) s') :
    n ≤ count ∧ (count = n → s' = s ∧ ∀ stage ∈ stages, stage.selected = true →
      s.ready plan stage = true → (s.getStageJob plan.runId stage.stageId).isSome = true) := by
  induction stages generalizing n s with
  | nil =>
    obtain ⟨heq, rfl⟩ := h
    cases heq
    exact ⟨Nat.le_refl _, fun _ => ⟨rfl, fun _ hmem => absurd hmem not_mem_nil⟩⟩
  | cons stage rest ih =>
    have hrest : ∀ stage ∈ rest, plan.stage stage.stageId = some stage :=
      fun st hst => hsub st (mem_cons_of_mem _ hst)
    have hskip : (scheduleStages plan parent rest n).Runs (exec env) s (.ok count) s' →
        (stage.selected = true → s.ready plan stage = true →
          (s.getStageJob plan.runId stage.stageId).isSome = true) →
        n ≤ count ∧ (count = n → s' = s ∧ ∀ st ∈ stage :: rest, st.selected = true →
          s.ready plan st = true → (s.getStageJob plan.runId st.stageId).isSome = true) := by
      intro hrun hstage
      obtain ⟨hle, hidle⟩ := ih hrest hrun
      refine ⟨hle, fun heq => ?_⟩
      obtain ⟨rfl, hall⟩ := hidle heq
      refine ⟨rfl, fun st hst => ?_⟩
      rcases mem_cons.1 hst with rfl | hst
      · exact hstage
      · exact hall st hst
    unfold scheduleStages at h
    by_cases hselected : stage.selected = true
    swap
    · rw [if_neg hselected] at h
      exact hskip h fun hsel => absurd hsel hselected
    rw [if_pos hselected, bind_def, runs_bind] at h
    rcases h with ⟨ready, s1, hdeps, h⟩ | ⟨e, -, heq⟩
    swap
    · cases heq
    obtain ⟨heq, rfl⟩ := (runs_dependenciesSucceeded (hsub stage (mem_cons_self ..))).1 hdeps
    cases heq
    by_cases hready : s1.ready plan stage = true
    swap
    · rw [if_neg hready] at h
      exact hskip h fun _ hr => absurd hr hready
    rw [if_pos hready, bind_def, runs_read] at h
    simp only [Query.eval] at h
    cases hjob : s1.getStageJob plan.runId stage.stageId with
    | some j =>
      rw [hjob] at h
      exact hskip h fun _ _ => by rw [hjob]; rfl
    | none =>
      rw [hjob] at h
      obtain ⟨t, h⟩ := runs_now.1 h
      rcases runs_write.1 h with ⟨_, s2, -, h⟩ | ⟨_, -, heq, -⟩
      · obtain ⟨hle, -⟩ := ih hrest h
        exact ⟨by omega, fun heq => by omega⟩
      · cases heq

/-! ## What has been enqueued -/

def Store.enqueuedStages (s : Store) (runId : String) : List String :=
  (s.jobs.rows.filter fun j => j.runId = runId).filterMap (·.stageId)

/-- **What scheduling keeps**: the plan is registered, no stage is enqueued twice, and every enqueued
stage is a selected stage of the plan whose dependencies have succeeded. -/
structure Store.EnqueuedInOrder (s : Store) (plan : ExecutionPlan) : Prop where
  registered : s.plans.find? plan.planId = some plan
  once : (s.enqueuedStages plan.runId).Nodup
  ready : ∀ i ∈ s.enqueuedStages plan.runId,
    ∃ stage, plan.stage i = some stage ∧ stage.selected = true ∧ s.Satisfied plan stage

theorem Store.mem_enqueuedStages :
    i ∈ s.enqueuedStages runId ↔ (s.getStageJob runId i).isSome = true := by
  unfold enqueuedStages getStageJob
  rw [mem_filterMap, find?_isSome]
  constructor
  · rintro ⟨j, hj, hstage⟩
    obtain ⟨hmem, hrun⟩ := mem_filter.1 hj
    exact ⟨j, hmem, by simpa using ⟨by simpa using hrun, hstage⟩⟩
  · rintro ⟨j, hmem, hj⟩
    obtain ⟨hrun, hstage⟩ : j.runId = runId ∧ j.stageId = some i := by simpa using hj
    exact ⟨j, mem_filter.2 ⟨hmem, by simpa using hrun⟩, hstage⟩

theorem Store.getStageJob_insertJob {j : JobRecord} (h : s.insertJob j = .ok s') {k : JobRecord}
    (hk : s.getStageJob runId i = some k) : s'.getStageJob runId i = some k := by
  obtain ⟨jobs, hjobs, rfl⟩ := insertJob_ok h
  unfold getStageJob at hk ⊢
  rw [Table.insert?_rows hjobs, find?_append, hk]
  rfl

theorem Store.Satisfied.of_succeeded (h : s.Satisfied plan stage)
    (hmono : ∀ i, s.StageSucceeded plan.runId i → s'.StageSucceeded plan.runId i) :
    s'.Satisfied plan stage :=
  ⟨fun d hd => hmono d (h.1 d hd), fun d hd hsel => hmono d (h.2 d hd hsel)⟩

theorem Store.EnqueuedInOrder.enqueue (h : s.EnqueuedInOrder plan)
    (hstage : plan.stage stage.stageId = some stage) (hselected : stage.selected = true)
    (hready : s.Satisfied plan stage) (hnone : s.getStageJob plan.runId stage.stageId = none)
    {stableId : StableKey → String} {t : Instant} {r : JobRecord}
    (htxn : enqueueStageJob stableId plan.runId plan.planId stage.stageId parent t s =
      .ok (r, s')) : s'.EnqueuedInOrder plan := by
  obtain ⟨plan', stage', hplan', -, hstage', hcase⟩ := enqueueStageJob_ok htxn
  obtain rfl : plan = plan' := Option.some.inj (h.registered.symm.trans hplan')
  obtain rfl : stage = stage' := Option.some.inj (hstage.symm.trans hstage')
  rcases hcase with ⟨hsome, -⟩ | ⟨-, rfl, hinsert⟩
  · rw [hnone] at hsome
    cases hsome
  have hmono : ∀ i, s.StageSucceeded plan.runId i → s'.StageSucceeded plan.runId i := by
    rintro i ⟨j, hj, hdone⟩
    exact ⟨j, getStageJob_insertJob hinsert hj, hdone⟩
  obtain ⟨jobs, hjobs, rfl⟩ := insertJob_ok hinsert
  have hstages : enqueuedStages { s with jobs } plan.runId =
      s.enqueuedStages plan.runId ++ [stage.stageId] := by
    unfold enqueuedStages
    rw [Table.insert?_rows hjobs, filter_append, filterMap_append]
    simp [stageJobRow]
  refine ⟨h.registered, ?_, ?_⟩
  · rw [hstages, nodup_append]
    refine ⟨h.once, nodup_singleton _, ?_⟩
    rintro i hi _ hlast rfl
    rw [mem_singleton.1 hlast, mem_enqueuedStages, hnone] at hi
    cases hi
  · intro i hi
    rw [hstages] at hi
    rcases mem_append.1 hi with hi | hi
    · obtain ⟨st, hst, hsel, hsat⟩ := h.ready i hi
      exact ⟨st, hst, hsel, hsat.of_succeeded hmono⟩
    · rw [mem_singleton.1 hi]
      exact ⟨stage, hstage, hselected, hready.of_succeeded hmono⟩

/-- **A call of `_schedule_ready`** enqueues in order, however it ends. -/
theorem Store.EnqueuedInOrder.scheduleStages (h : s.EnqueuedInOrder plan) {stages : List StageSpec}
    (hsub : ∀ stage ∈ stages, plan.stage stage.stageId = some stage) {n : Nat} {r : Except Exc Nat}
    (hrun : (scheduleStages plan parent stages n).Runs (exec env) s r s') :
    s'.EnqueuedInOrder plan := by
  induction stages generalizing n s with
  | nil =>
    obtain ⟨-, rfl⟩ := hrun
    exact h
  | cons stage rest ih =>
    have hrest : ∀ stage ∈ rest, plan.stage stage.stageId = some stage :=
      fun st hst => hsub st (mem_cons_of_mem _ hst)
    have hstage := hsub stage (mem_cons_self ..)
    unfold DirtyDataOlap.scheduleStages at hrun
    by_cases hselected : stage.selected = true
    swap
    · rw [if_neg hselected] at hrun
      exact ih h hrest hrun
    rw [if_pos hselected, bind_def, runs_bind] at hrun
    rcases hrun with ⟨ready, s1, hdeps, hrun⟩ | ⟨e, hdeps, -⟩
    swap
    · cases ((runs_dependenciesSucceeded hstage).1 hdeps).1
    obtain ⟨heq, rfl⟩ := (runs_dependenciesSucceeded hstage).1 hdeps
    cases heq
    by_cases hready : s1.ready plan stage = true
    swap
    · rw [if_neg hready] at hrun
      exact ih h hrest hrun
    rw [if_pos hready, bind_def, runs_read] at hrun
    simp only [Query.eval] at hrun
    cases hjob : s1.getStageJob plan.runId stage.stageId with
    | some j =>
      rw [hjob] at hrun
      exact ih h hrest hrun
    | none =>
      rw [hjob] at hrun
      obtain ⟨t, hrun⟩ := runs_now.1 hrun
      rcases runs_write.1 hrun with ⟨_, s2, htxn, hrun⟩ | ⟨_, -, -, rfl⟩
      · exact ih (h.enqueue hstage hselected (ready_iff.1 hready) hjob htxn) hrest hrun
      · exact h

/-- A change of a job row that makes it succeed, and keeps what it is the job of. -/
structure JobRecord.Succeeds (f : JobRecord → JobRecord) : Prop where
  jobId : ∀ j, (f j).jobId = j.jobId
  runId : ∀ j, (f j).runId = j.runId
  stageId : ∀ j, (f j).stageId = j.stageId
  status : ∀ j, (f j).status = .succeeded

theorem Store.getStageJob_succeed {f : JobRecord → JobRecord} (hf : JobRecord.Succeeds f)
    {jobId : String} : (s.updateJob jobId f hf.jobId).getStageJob runId i =
      (s.getStageJob runId i).map fun j => if j.jobId = jobId then f j else j := by
  unfold getStageJob updateJob Table.update
  rw [find?_map]
  have hkeep : ((fun j : JobRecord => decide (j.runId = runId) && decide (j.stageId = some i)) ∘
      fun r => if decide (r.jobId = jobId) = true then f r else r) =
      fun j => decide (j.runId = runId) && decide (j.stageId = some i) := by
    funext j
    by_cases hj : j.jobId = jobId <;> simp [hj, hf.runId, hf.stageId]
  rw [hkeep]
  simp only [decide_eq_true_eq]

theorem Store.EnqueuedInOrder.succeed (h : s.EnqueuedInOrder plan) {f : JobRecord → JobRecord}
    (hf : JobRecord.Succeeds f) (jobId : String) :
    (s.updateJob jobId f hf.jobId).EnqueuedInOrder plan := by
  have hmono : ∀ i, s.StageSucceeded plan.runId i →
      (s.updateJob jobId f hf.jobId).StageSucceeded plan.runId i := by
    rintro i ⟨j, hj, hdone⟩
    refine ⟨if j.jobId = jobId then f j else j, ?_, ?_⟩
    · rw [getStageJob_succeed hf, hj]
      rfl
    · by_cases hid : j.jobId = jobId
      · rw [if_pos hid, hf.status]
      · rw [if_neg hid, hdone]
  have hstages : (s.updateJob jobId f hf.jobId).enqueuedStages plan.runId =
      s.enqueuedStages plan.runId := by
    unfold enqueuedStages updateJob Table.update
    rw [filter_map, filterMap_map]
    have hstage : ((fun j : JobRecord => j.stageId) ∘
        fun r => if decide (r.jobId = jobId) = true then f r else r) = (·.stageId) := by
      funext j
      by_cases hj : j.jobId = jobId <;> simp [hj, hf.stageId]
    have hrun : ((fun j : JobRecord => decide (j.runId = plan.runId)) ∘
        fun r => if decide (r.jobId = jobId) = true then f r else r) =
        fun j => decide (j.runId = plan.runId) := by
      funext j
      by_cases hj : j.jobId = jobId <;> simp [hj, hf.runId]
    rw [hstage, hrun]
  refine ⟨h.registered, ?_, ?_⟩
  · rw [hstages]
    exact h.once
  · intro i hi
    rw [hstages] at hi
    obtain ⟨st, hst, hsel, hsat⟩ := h.ready i hi
    exact ⟨st, hst, hsel, hsat.of_succeeded hmono⟩

/-! ## Progress -/

/-- A step of a run without failures: `_schedule_ready` is called, or the job of an enqueued stage
succeeds. -/
inductive ScheduleStep (env : Env) (plan : ExecutionPlan) : Store → Store → Prop
  | schedule {s s' : Store} {parent : Option String} {r : Except Exc Nat}
      (h : (scheduleReady plan parent).Runs (exec env) s r s') : ScheduleStep env plan s s'
  | succeed {s : Store} {f : JobRecord → JobRecord} {j : JobRecord} (hf : JobRecord.Succeeds f)
      (hj : j ∈ s.jobs.rows) (hrun : j.runId = plan.runId) (hstage : j.stageId.isSome = true) :
      ScheduleStep env plan s (s.updateJob j.jobId f hf.jobId)

theorem ScheduleStep.enqueuedInOrder (h : ScheduleStep env plan s s')
    (hs : s.EnqueuedInOrder plan) : s'.EnqueuedInOrder plan := by
  cases h with
  | schedule h => exact hs.scheduleStages (fun _ hst => stage_of_mem hst) h
  | succeed hf _ _ _ => exact hs.succeed hf _

theorem enqueuedInOrder_of_reachable {s0 : Store} (hplan : s0.plans.find? plan.planId = some plan)
    (hnone : s0.enqueuedStages plan.runId = [])
    (h : Relation.ReflTransGen (ScheduleStep env plan) s0 s) : s.EnqueuedInOrder plan := by
  induction h with
  | refl => exact ⟨hplan, by rw [hnone]; exact nodup_nil, by simp [hnone]⟩
  | tail _ hstep ih => exact hstep.enqueuedInOrder ih

theorem ExecutionPlan.acc (plan : ExecutionPlan) (i : String) :
    Acc (fun y x => plan.DependsOn x y) i := by
  refine acc_of_acyclic plan.stageIds_nodup ?_ i
  exact check_of_valid plan.valid (c := (plan.acyclic, "execution plan must be acyclic"))
    (by simp [checks])

theorem ExecutionPlan.dependency_selected (hmem : stage ∈ plan.stages)
    (hselected : stage.selected = true) {d : String} (hd : d ∈ stage.dependencies) :
    ∃ dep, plan.stage d = some dep ∧ dep.selected = true := by
  have hcheck := check_of_valid plan.valid
    (c := ((plan.toPlanData.stage d).elim false (·.selected),
      "selected stages cannot depend on an unselected hard dependency")) (by
        refine mem_append_left _ (mem_append_right _ (mem_flatMap.2 ⟨stage, hmem, ?_⟩))
        unfold stageChecks
        rw [if_pos hselected]
        refine mem_append_left _ (mem_append_right _ (mem_append_left _ ?_))
        exact mem_map.2 ⟨d, hd, by cases plan.toPlanData.stage d <;> rfl⟩)
  change (plan.stage d).elim false (·.selected) = true at hcheck
  cases hdep : plan.stage d with
  | none =>
    rw [hdep] at hcheck
    cases hcheck
  | some dep =>
    rw [hdep] at hcheck
    exact ⟨dep, rfl, hcheck⟩

theorem ExecutionPlan.dependsOn {dep : StageSpec} (hmem : stage ∈ plan.stages) {d : String}
    (hd : d ∈ stage.dependencies ++ stage.conditionalDependencies) (hdep : plan.stage d = some dep) :
    plan.DependsOn stage.stageId d := by
  refine ⟨_, mem_map.2 ⟨stage, hmem, rfl⟩, mem_filter.2 ⟨?_, ?_⟩⟩
  · rcases mem_append.1 hd with hd | hd
    · exact mem_append_left _ (mem_append_left _ hd)
    · exact mem_append_right _ hd
  · have hid : dep.stageId = d := stage_stageId hdep
    simpa using ⟨dep, stage_mem hdep, hid⟩

/-- Where all enqueued jobs have succeeded and nothing is left to enqueue, every selected stage has
succeeded: by induction over the order in which the validator resolves the stages. -/
theorem all_succeeded (hdone : ∀ i ∈ s.enqueuedStages plan.runId, s.StageSucceeded plan.runId i)
    (hidle : ∀ stage ∈ plan.stages, stage.selected = true → s.ready plan stage = true →
      (s.getStageJob plan.runId stage.stageId).isSome = true) (hmem : stage ∈ plan.stages)
    (hselected : stage.selected = true) : s.StageSucceeded plan.runId stage.stageId := by
  have hall : ∀ i, ∀ stage ∈ plan.stages, stage.stageId = i → stage.selected = true →
      s.StageSucceeded plan.runId i := by
    intro i
    induction plan.acc i with
    | intro i _ ih =>
      rintro stage hmem rfl hselected
      have hsat : s.Satisfied plan stage := by
        refine ⟨fun d hd => ?_, fun d hd hsel => ?_⟩
        · obtain ⟨dep, hdep, hdsel⟩ := dependency_selected hmem hselected hd
          exact ih d (dependsOn hmem (mem_append_left _ hd) hdep) dep
            (stage_mem hdep) (stage_stageId hdep) hdsel
        · obtain ⟨dep, hdep, hdsel⟩ := (Option.any_eq_true _ _).1 hsel
          exact ih d (dependsOn hmem (mem_append_right _ hd) hdep) dep
            (stage_mem hdep) (stage_stageId hdep) hdsel
      exact hdone _ (mem_enqueuedStages.2
        (hidle stage hmem hselected (ready_iff.2 hsat)))
  exact hall _ stage hmem rfl hselected

/-- **Accepted plans cannot deadlock**: the validation loop terminates, plans with a cycle are rejected,
and scheduling an accepted plan enqueues each selected stage once, after its dependencies, until all
have succeeded. -/
theorem accepted_plans_progress (env : Env) :
    (∀ p : PlanData, PlanData.Peels p.dependencyTable [] p.acyclic) ∧
    (∀ p : PlanData, p.Cyclic → p.validateGraph ≠ none) ∧
    ∀ (plan : ExecutionPlan) (s0 s : Store), s0.plans.find? plan.planId = some plan →
      s0.enqueuedStages plan.runId = [] → Relation.ReflTransGen (ScheduleStep env plan) s0 s →
      (∀ i ∈ s.enqueuedStages plan.runId,
        ∃ stage, plan.stage i = some stage ∧ stage.selected = true ∧ s.Satisfied plan stage) ∧
      (s.enqueuedStages plan.runId).Nodup ∧
      ((∀ i ∈ s.enqueuedStages plan.runId, s.StageSucceeded plan.runId i) →
        ∀ parent s', (scheduleReady plan parent).Runs (exec env) s (.ok 0) s' →
          ∀ stage ∈ plan.stages, stage.selected = true →
            s.StageSucceeded plan.runId stage.stageId) := by
  refine ⟨peels_acyclic, fun p hp => validateGraph_of_cyclic hp, ?_⟩
  intro plan s0 s hplan hnone hreach
  have horder := enqueuedInOrder_of_reachable hplan hnone hreach
  refine ⟨horder.ready, horder.once, fun hdone parent s' hrun stage hmem hselected => ?_⟩
  have hidle := (runs_scheduleStages_idle (fun _ hst => stage_of_mem hst) hrun).2 rfl
  exact all_succeeded hdone hidle.2 hmem hselected

end Scheduling

def twoStageEnv : Env where
  stableId
    | .stageJob _ _ stageId => "job:" ++ stageId
    | _ => "other"
  graph := { stages := [] }

def twoStagePlan : ExecutionPlan where
  planId := "plan"
  runId := "run"
  stages := [{ stageId := "PROFILING", dependencies := ["SOURCE_DISCOVERY"], handlerKey := "p" },
    { stageId := "SOURCE_DISCOVERY", handlerKey := "s" }]
  createdAt := 0
  valid := by decide

def twoStageStore : Store :=
  { empty with
    runs := ⟨[{ runId := "run", projectId := "p", createdAt := 0
                configurationFingerprint := "c" }], by simp⟩
    plans := ⟨[twoStagePlan], by simp⟩ }

/-- The store after a call of `_schedule_ready`. -/
def scheduled (s : Store) : Store := ((scheduleReady twoStagePlan none).run (exec twoStageEnv) {} s).2

def markSucceeded (j : JobRecord) : JobRecord := { j with status := .succeeded }

theorem markSucceeded_succeeds : JobRecord.Succeeds markSucceeded :=
  ⟨fun _ => rfl, fun _ => rfl, fun _ => rfl, fun _ => rfl⟩

/-- The store once both stages were scheduled and succeeded. -/
def twoStageDone : Store :=
  (scheduled ((scheduled twoStageStore).updateJob "job:SOURCE_DISCOVERY" markSucceeded
    markSucceeded_succeeds.jobId)).updateJob "job:PROFILING" markSucceeded
      markSucceeded_succeeds.jobId

theorem ScheduleStep.succeed_stage {env : Env} {plan : ExecutionPlan} {s : Store} {i : String}
    {j : JobRecord} (h : s.getStageJob plan.runId i = some j) :
    ScheduleStep env plan s (s.updateJob j.jobId markSucceeded markSucceeded_succeeds.jobId) := by
  have hj := find?_some h
  obtain ⟨hrun, hstage⟩ : j.runId = plan.runId ∧ j.stageId = some i := by simpa using hj
  exact .succeed markSucceeded_succeeds (mem_of_find?_eq_some h) hrun (by simp [hstage])

/-- The row of an enqueued stage. -/
def queuedJob (stageId : String) : JobRecord where
  jobId := "job:" ++ stageId
  runId := "run"
  jobKind := .stage
  stageId := some stageId
  planId := some "plan"
  createdAt := 0
  availableAt := 0
  deliveryPhase := .attemptCreated

theorem twoStageDone_reached :
    Relation.ReflTransGen (ScheduleStep twoStageEnv twoStagePlan) twoStageStore twoStageDone := by
  have hschedule : ∀ s, ScheduleStep twoStageEnv twoStagePlan s (scheduled s) :=
    fun s => .schedule (runs_run _ _ _)
  have hdiscovered := @ScheduleStep.succeed_stage twoStageEnv twoStagePlan
    (scheduled twoStageStore) "SOURCE_DISCOVERY"
    (queuedJob "SOURCE_DISCOVERY") (by decide +kernel)
  have hprofiled := @ScheduleStep.succeed_stage twoStageEnv twoStagePlan
    (scheduled ((scheduled twoStageStore).updateJob "job:SOURCE_DISCOVERY" markSucceeded
      markSucceeded_succeeds.jobId)) "PROFILING"
    (queuedJob "PROFILING") (by decide +kernel)
  exact .tail (.tail (.tail (.single (hschedule _)) hdiscovered) (hschedule _)) hprofiled

theorem accepted_plans_progress_two_stages : ∀ stage ∈ twoStagePlan.stages, stage.selected = true →
      twoStageDone.StageSucceeded "run" stage.stageId := by
  have hdone : ∀ i ∈ twoStageDone.enqueuedStages "run", twoStageDone.StageSucceeded "run" i := by
    have hall : ((twoStageDone.enqueuedStages "run").all
        fun i => twoStageDone.succeeded "run" i) = true := by decide +kernel
    exact fun i hi => succeeded_iff.1 (all_eq_true.1 hall i hi)
  have hidle : ((scheduleReady twoStagePlan none).run (exec twoStageEnv) {} twoStageDone).1 =
      .ok 0 := by decide +kernel
  exact ((accepted_plans_progress twoStageEnv).2.2 twoStagePlan twoStageStore twoStageDone rfl rfl
    twoStageDone_reached).2.2 hdone none _ (hidle ▸ runs_run _ _ _)

end DirtyDataOlap
