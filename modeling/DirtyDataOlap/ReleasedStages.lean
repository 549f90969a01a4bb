import DirtyDataOlap.StageProvenance

/-!
# Released stages

Completing a stage and enqueueing the stages behind it are separate transactions, and a succeeded job
is never claimed again.  So a stage that is ready was released by one action (`Released`), unless it is
a root of a plan that never changed: those are enqueued before the submission is finalized
(`RootsScheduled`).  An iteration that returns has enqueued what it released, by its contract.
**A ready stage is lost only with the iteration that released it.**
-/
namespace DirtyDataOlap

open List Store World

variable {env : Env} {x y : Prop} {w : World} {m : Move} {c : Scene} {s s' : Store}
  {runId stageId : String}

namespace Store

/-- A submission of the run has been carried out or is under way: it was not cancelled while it
waited, and found a plan. -/
def Submitted (s : Store) (runId : String) : Prop :=
  ∃ j ∈ s.jobs.rows, j.runId = runId ∧ j.jobKind = .command ∧ j.action.getD .submit = .submit ∧
    j.status ≠ .cancelled ∧ j.failureCode ≠ some "EXECUTION_PLAN_UNAVAILABLE"

/-- No job of the run waits or is at work. -/
def Quiet (s : Store) (runId : String) : Prop :=
  ∀ j ∈ s.jobs.rows, j.runId = runId →
    j.status ≠ .queued ∧ j.status ≠ .retryWait ∧ j.status ≠ .running

/-- **No lost scheduling**: in a quiet run that has been submitted and is not cancelled, every selected
stage of the stored plan whose dependencies have succeeded has a job. -/
def NothingLost (s : Store) (runId : String) : Prop :=
  s.Submitted runId → s.Quiet runId →
    (∀ run, s.getRun runId = some run → run.status ≠ .cancelled) →
      ∀ stageId, s.Ready runId stageId → s.HasStageJob runId stageId

end Store

/-- The iteration has come to its end, without an exception. -/
def World.Returned (w : World) (i : Nat) : Prop :=
  ∃ l v, w.threads[i]? = some ⟨l, some (.done (.ok v))⟩

/-! ## How a stage becomes ready -/

/-- The action completed the stage: it finalized its job as succeeded. -/
def Record.Completes (runId stageId : String) : Record → Prop
  | ⟨_, .fenced _ (.finalizeStage _ _ _ _ _ _), .ok stored, _⟩ =>
    stored.status = .succeeded ∧ stored.runId = runId ∧ stored.stageId = some stageId
  | _ => False

/-- A stage that succeeds was completed by the action. -/
theorem exec_stageSucceeded {i : Nat} {l : Lease} {a : Act} {ω : Input} {r : Except Exc a.Reply}
    (hc : Coherent env.graph c) (hsound : Sound env.graph x i l c a)
    (hexec : exec env a ω c.state = (r, s')) (hs : s'.StageSucceeded runId stageId) :
    c.state.StageSucceeded runId stageId ∨ Record.Completes runId stageId ⟨i, a, r, s'⟩ := by
  obtain ⟨row', hget, hst⟩ := hs
  obtain ⟨hmem, hrun, hstage⟩ := getStageJob_spec hget
  have hrow' := mem_jobs_iff.mp hmem
  have kept : c.state.getJob row'.jobId = some row' → c.state.StageSucceeded runId stageId :=
    fun h => ⟨row', by rw [← hrun]; exact hc.inv.getStageJob_of_mem (getJob_mem h) hstage, hst⟩
  rcases exec_getJob hexec hrow' with ⟨row, hrow, hchange⟩ | ⟨_, _, _, _, _, _, _, _, rfl⟩
  swap
  · cases hst
  generalize hjobId : row'.jobId = jobId at hrow hrow' kept
  cases hchange with
  | same => exact .inl (kept hrow)
  | claim hclaim => cases hst
  | heartbeat hid hh => cases (holds_iff.mp hh).1.symm.trans hst
  | ensureAttempt hid hh hnone hfresh => cases (holds_iff.mp hh).1.symm.trans hst
  | mark hid hh hkind hatt => cases (holds_iff.mp hh).1.symm.trans hst
  | record hid hh hkind hatt => cases (holds_iff.mp hh).1.symm.trans hst
  | @finalize lease now _ attempt result status retryCount availableAt cancelled hid hh hatt hcan =>
    cases exec_effect hexec with
    | none => exact .inl (kept hrow')
    | @fenced _ _ stored _ hok =>
      have hstored : s'.getJob lease.jobId = some stored := finalizeStageJob_row hok
      have heq : jobId = lease.jobId := (getJob_jobId hrow).symm.trans hid
      rw [← heq, hrow'] at hstored
      cases hstored
      exact .inr ⟨hst, hrun, hstage⟩
  | finalizeCommand hid hh =>
    have heq : jobId = l.jobId := (getJob_jobId hrow).symm.trans (hid.trans hsound.1.jobId)
    rw [heq] at hrow
    have hkind := (hc.inv.jobs row (getJob_mem hrow)).command (hsound.2.kind row hrow)
    exact absurd (hkind.1.symm.trans hstage) (by simp)
  | @cancel now row =>
    have hrowst : row.status = .succeeded := by
      unfold cancelRow at hst
      split at hst <;> simp_all
    refine .inl (kept ?_)
    unfold cancelRow
    rw [hrowst]
    exact hrow
  | resume hst' => cases hst

/-- No action stores the first plan of a run. -/
theorem exec_plan_isSome {a : Act} {ω : Input} {r : Except Exc a.Reply}
    (h : exec env a ω s = (r, s')) (hp : (s'.getExecutionPlan runId).isSome) :
    (s.getExecutionPlan runId).isSome := by
  have same : s'.plans = s.plans → (s.getExecutionPlan runId).isSome := by
    intro heq
    unfold getExecutionPlan at hp ⊢
    rw [← heq]
    exact hp
  cases exec_effect h with
  | none => exact same rfl
  | claim hrow hclaim => exact same rfl
  | fenced hok => exact same (FencedOp.runs_plans hok).2
  | write hok =>
    rcases (Write.leaves hok).plans with heq | ⟨plan, expected, rfl⟩
    · exact same heq
    obtain ⟨stored, hstored, _⟩ := advanceExecutionPlan_ok hok
    rw [getExecutionPlan_advance hok] at hp
    split at hp
    · rename_i hrun
      rw [hrun, hstored]
      rfl
    · exact hp

variable (runId stageId) in
/-- The stage is ready because an action released it and the plan has not changed since, or because
it is a root and the plan never changed. -/
def Released (c : Scene) : Prop :=
  (∃ e t, (e :: t) <:+ c.trace ∧ Record.Releases runId stageId e ∧
      epoch runId (e :: t) = epoch runId c.trace) ∨
    (epoch runId c.trace = 0 ∧ ∃ p st, c.state.getExecutionPlan runId = some p ∧
      p.stage stageId = some st ∧ st.selected = true ∧ p.Root st)

/-- What a release leaves behind outlasts everything but a change of the plan. -/
theorem Released.mono {c' : Scene} (h : Released runId stageId c) (ht : c.trace <:+ c'.trace)
    (hepoch : epoch runId c'.trace = epoch runId c.trace)
    (hplans : ∀ p, c.state.getExecutionPlan runId = some p →
      ∃ q, c'.state.getExecutionPlan runId = some q ∧ q.stages = p.stages) :
    Released runId stageId c' := by
  rcases h with ⟨e, t, hsuf, hrel, heq⟩ | ⟨hzero, p, st, hp, hst, hsel, hroot⟩
  · exact .inl ⟨e, t, hsuf.trans ht, hrel, heq.trans hepoch.symm⟩
  obtain ⟨q, hq, hstages⟩ := hplans p hp
  refine .inr ⟨hepoch.trans hzero, q, st, hq, ?_, hsel, hroot.1, fun d hd => ?_⟩
  · rw [stage_congr hstages]
    exact hst
  · rw [stage_congr hstages]
    exact hroot.2 d hd

/-- A stage that was ready when its plan had the same stages still is. -/
theorem Store.Ready.congr {p q : ExecutionPlan} (hready : s'.Ready runId stageId)
    (hq : s'.getExecutionPlan runId = some q) (hp : s.getExecutionPlan runId = some p)
    (hstages : q.stages = p.stages) (hsucc : ∀ st, p.stage stageId = some st →
      ∀ d ∈ st.dependencies ++ st.conditionalDependencies, s'.StageSucceeded runId d →
        s.StageSucceeded runId d) : s.Ready runId stageId := by
  obtain ⟨q', st, hq', hst, hsel, hhard, hcond⟩ := hready
  rw [hq] at hq'
  cases hq'
  have hqrun := (getExecutionPlan_spec hq).2
  have hprun := (getExecutionPlan_spec hp).2
  rw [stage_congr hstages] at hst
  refine ⟨p, st, hp, hst, hsel, fun d hd => ?_, fun d hd hd' => ?_⟩
  · rw [hprun]
    exact hsucc st hst d (mem_append_left _ hd) (hqrun ▸ hhard d hd)
  · rw [← stage_congr hstages] at hd'
    rw [hprun]
    exact hsucc st hst d (mem_append_right _ hd) (hqrun ▸ hcond d hd hd')

/-- Without a stage job, only a root is ready. -/
theorem Store.Ready.root (hready : s.Ready runId stageId)
    (hnone : ∀ d, ¬ s.StageSucceeded runId d) : ∃ p st, s.getExecutionPlan runId = some p ∧
      p.stage stageId = some st ∧ st.selected = true ∧ p.Root st := by
  obtain ⟨p, st, hp, hst, hsel, hhard, hcond⟩ := hready
  have hprun := (getExecutionPlan_spec hp).2
  refine ⟨p, st, hp, hst, hsel, ?_, fun d hd => ?_⟩
  · exact eq_nil_iff_forall_not_mem.mpr fun d hd => hnone d (hprun ▸ hhard d hd)
  · rw [Bool.eq_false_iff]
    exact fun hd' => hnone d (hprun ▸ hcond d hd hd')

/-- A run without a plan has no stage that succeeded. -/
theorem Store.Inv.none_succeeded {graph : StageGraph} (hi : s.Inv graph)
    (hp : s.getExecutionPlan runId = none) (d : String) : ¬ s.StageSucceeded runId d := by
  rintro ⟨j, hget, _⟩
  obtain ⟨hmem, hrun, hstage⟩ := getStageJob_spec hget
  have hkind : j.jobKind = .stage := by
    cases hk : j.jobKind with
    | stage => rfl
    | command => exact absurd (((hi.jobs j hmem).command hk).1.symm.trans hstage) (by simp)
  obtain ⟨_, p, _, _, _, hget, _⟩ := (hi.jobs j hmem).stage hkind
  rw [hrun, hp] at hget
  cases hget

/-- What is known of the ready stages: each was released, and a plan that changed is still there. -/
structure Tracked (c : Scene) : Prop where
  ready : ∀ runId stageId, c.state.Ready runId stageId → Released runId stageId c
  stored : ∀ runId, c.state.getExecutionPlan runId = none → epoch runId c.trace = 0

theorem exec_changesPlan {i : Nat} {a : Act} {ω : Input} {r : Except Exc a.Reply}
    (h : exec env a ω s = (r, s')) (hch : Record.changesPlan runId ⟨i, a, r, s'⟩ = true) :
    (s'.getExecutionPlan runId).isSome := by
  unfold Record.changesPlan at hch
  split at hch
  swap
  · cases hch
  rename_i plan expected b s1 heq
  cases heq
  have hrun : plan.runId = runId := by
    simp only [Bool.and_eq_true, decide_eq_true_eq] at hch
    exact hch.1
  rw [getExecutionPlan_advance (Txn.commit_ok h), if_pos hrun.symm]
  rfl

/-- An advance that changes the plan releases whatever is ready behind it. -/
theorem Record.releases_of_changesPlan {e : Record} (h : Record.changesPlan runId e = true)
    (hready : e.after.Ready runId stageId) : Record.Releases runId stageId e := by
  unfold Record.changesPlan at h
  split at h
  · simp only [Bool.and_eq_true, decide_eq_true_eq] at h
    exact ⟨h.1, h.2, hready⟩
  · cases h

/-- Completing a dependency releases the stages that are ready behind it. -/
theorem Record.Completes.releases {e : Record} {d : String} (h : Record.Completes runId d e)
    {p : ExecutionPlan} {st : StageSpec} (hp : e.after.getExecutionPlan runId = some p)
    (hst : p.stage stageId = some st) (hd : d ∈ st.dependencies ++ st.conditionalDependencies)
    (hready : e.after.Ready runId stageId) : Record.Releases runId stageId e := by
  obtain ⟨p', st', hp', hst', hsel, hsat⟩ := hready
  rw [hp] at hp'
  cases hp'
  rw [hst] at hst'
  cases hst'
  unfold Record.Completes at h
  split at h
  · exact ⟨h.1, h.2.1, d, p, st, h.2.2, hp, hst, hsel, hsat, hd⟩
  · exact h.elim

/-- **Every action keeps track**: a stage that becomes ready by it was released by it. -/
theorem Tracked.act (h : Tracked c) {i : Nat} {l : Lease} {a : Act} {ω : Input}
    {r : Except Exc a.Reply} (hc : Coherent env.graph c) (hsound : Sound env.graph x i l c a)
    (hexec : exec env a ω c.state = (r, s')) : Tracked (c.log i a r s') where
  ready runId stageId hready := by
    by_cases hch : Record.changesPlan runId ⟨i, a, r, s'⟩ = true
    · exact .inl ⟨_, c.trace, suffix_rfl, Record.releases_of_changesPlan hch hready, rfl⟩
    have hepoch : epoch runId (c.log i a r s').trace = epoch runId c.trace := by
      refine epoch_cons.trans ?_
      rw [if_neg hch, Nat.add_zero]
    have hplans := (exec_plans hexec runId).resolve_left hch
    obtain ⟨q, _, hq, _⟩ := id hready
    obtain ⟨p, hp⟩ := Option.isSome_iff_exists.mp
      (exec_plan_isSome hexec (Option.isSome_iff_exists.mpr ⟨q, hq⟩))
    obtain ⟨q', hq', hstages⟩ := hplans p hp
    cases hq.symm.trans hq'
    by_cases hnew : ∃ st d, p.stage stageId = some st ∧
        d ∈ st.dependencies ++ st.conditionalDependencies ∧ s'.StageSucceeded runId d ∧
        ¬ c.state.StageSucceeded runId d
    · obtain ⟨st, d, hst, hd, hsucc, hold⟩ := hnew
      rw [← stage_congr hstages] at hst
      have hdone := (exec_stageSucceeded hc hsound hexec hsucc).resolve_left hold
      exact .inl ⟨_, c.trace, suffix_rfl, hdone.releases hq hst hd hready, rfl⟩
    · refine (h.ready runId stageId (hready.congr hq hp hstages ?_)).mono (suffix_cons ..) hepoch hplans
      intro st hst d hd hsucc
      by_contra hold
      exact hnew ⟨st, d, hst, hd, hsucc, hold⟩
  stored runId hnone := by
    have hch : ¬ Record.changesPlan runId ⟨i, a, r, s'⟩ = true := by
      intro hch
      have hsome := exec_changesPlan hexec hch
      rw [show s'.getExecutionPlan runId = none from hnone] at hsome
      cases hsome
    refine epoch_cons.trans ?_
    rw [if_neg hch, Nat.add_zero]
    refine h.stored runId (Option.eq_none_iff_forall_ne_some.mpr fun p hp => ?_)
    obtain ⟨q, hq, _⟩ := (hsound.step hc.inv hexec).1.getExecutionPlan hp
    cases hnone.symm.trans hq

/-- No stage succeeds where the succeeded jobs were there before. -/
theorem Store.Inv.succeeded_before {graph : StageGraph} (hi : s.Inv graph)
    (hjobs : ∀ k row, s'.getJob k = some row → row.status = .succeeded → s.getJob k = some row)
    {d : String} (hs : s'.StageSucceeded runId d) : s.StageSucceeded runId d := by
  obtain ⟨j, hget, hst⟩ := hs
  obtain ⟨hmem, hrun, hstage⟩ := getStageJob_spec hget
  have hold := hjobs j.jobId j (mem_jobs_iff.mp hmem) hst
  exact ⟨j, by rw [← hrun]; exact hi.getStageJob_of_mem (getJob_mem hold) hstage, hst⟩

/-- A change that completes no stage and alters no plan keeps track. -/
theorem Tracked.outside {graph : StageGraph} {c' : Scene} (h : Tracked c) (hi : c.state.Inv graph)
    (ht : c.trace <:+ c'.trace) (hepoch : ∀ k, epoch k c'.trace = epoch k c.trace)
    (hplans : ∀ k p, c.state.getExecutionPlan k = some p → c'.state.getExecutionPlan k = some p)
    (hjobs : ∀ k row, c'.state.getJob k = some row → row.status = .succeeded →
      c.state.getJob k = some row) : Tracked c' where
  ready runId stageId hready := by
    cases hp : c.state.getExecutionPlan runId with
    | some p =>
      exact (h.ready runId stageId (hready.congr (hplans runId p hp) hp rfl
        fun _ _ _ _ => hi.succeeded_before hjobs)).mono ht (hepoch runId)
          fun p hp => ⟨p, hplans runId p hp, rfl⟩
    | none =>
      -- a plan that is stored now finds no stage job
      exact .inr ⟨(hepoch runId).trans (h.stored runId hp), hready.root fun d hd =>
        hi.none_succeeded hp d (hi.succeeded_before hjobs hd)⟩
  stored runId hnone := by
    refine (hepoch runId).trans (h.stored runId (Option.eq_none_iff_forall_ne_some.mpr fun p hp => ?_))
    cases hnone.symm.trans (hplans runId p hp)

/-- **Every move keeps track.** -/
theorem Tracked.move (h : Tracked w.config) (hk : World.Kept env x y w) (m : Move) :
    Tracked (w.move env m).config := by
  have hi := hk.coherent.inv
  have hch := hk.change m
  generalize (w.move env m).config = c at hch
  cases hch with
  | idle => exact h
  | act hth hexec hsound => exact h.act hk.coherent hsound hexec
  | claim hclaim =>
    obtain ⟨_, _, _, _, rfl, _⟩ := hclaim.spec
    refine h.outside hi (suffix_cons ..) (fun _ => rfl) (fun _ _ hp => hp) fun k j hj hst => ?_
    rcases getJob_updateJob_cases hj with hj | ⟨_, _, _, rfl⟩
    · exact hj
    · cases hst
  | client hstep =>
    refine h.outside hi suffix_rfl (fun _ => rfl) (fun _ _ hp => hstep.plans hp) fun k j hj hst => ?_
    rcases hstep.jobs k j hj with hj | ⟨_, hqueued, _⟩
    · exact hj
    · exact absurd (hqueued.symm.trans hst) (by simp)

/-! ## What a submission leaves behind -/

/-- The roots of a plan that was stored once have jobs. -/
def RootsScheduled (runId : String) (c : Scene) : Prop :=
  ∃ e ∈ c.trace, ∃ p, e.after.getExecutionPlan runId = some p ∧
    ∀ st ∈ p.stages, st.selected = true → p.Root st → c.state.HasStageJob runId st.stageId

theorem RootsScheduled.mono {c' : Scene} (h : RootsScheduled runId c) (ht : c.trace <:+ c'.trace)
    (hev : c.state.Evolves c'.state) : RootsScheduled runId c' := by
  obtain ⟨e, he, p, hp, hroots⟩ := h
  exact ⟨e, ht.subset he, p, hp, fun st hst hsel hroot => (hroots st hst hsel hroot).mono hev⟩

/-- The command waits, is at work, was cancelled or found no plan; or it has scheduled the roots. -/
def Carried (c : Scene) (row : JobRecord) : Prop :=
  row.status ∈ [.queued, .retryWait, .running, .cancelled] ∨
    row.failureCode = some "EXECUTION_PLAN_UNAVAILABLE" ∨ RootsScheduled row.runId c

/-- Every submission that is over has scheduled the roots. -/
def Submissions (c : Scene) : Prop :=
  ∀ jobId row, c.state.getJob jobId = some row → row.jobKind = .command →
    row.action.getD .submit = .submit → Carried c row

/-- **Every action keeps the submissions**: one that is finalized has scheduled the roots. -/
theorem Submissions.act (h : Submissions c) {i : Nat} {l : Lease} {a : Act} {ω : Input}
    {r : Except Exc a.Reply} (hc : Coherent env.graph c) (hsound : Sound env.graph x i l c a)
    (hexec : exec env a ω c.state = (r, s')) : Submissions (c.log i a r s') := by
  intro jobId row' hrow' hkind haction
  have hev := (hsound.step hc.inv hexec).1
  rcases exec_getJob hexec hrow' with ⟨row, hrow, hchange⟩ | ⟨_, _, _, _, _, _, _, _, rfl⟩
  swap
  · cases hkind
  have he := hev.job hrow hrow'
  have hold := h jobId row hrow (he.jobKind ▸ hkind) (he.action ▸ haction)
  have hcommand := (hc.inv.jobs row (getJob_mem hrow)).command (he.jobKind ▸ hkind)
  -- what has been scheduled stays so, and so does a row in the same status
  have same : row'.status = row.status → row'.failureCode = row.failureCode →
      Carried (c.log i a r s') row' := by
    intro hst hcode
    unfold Carried
    rw [hst, hcode, he.runId]
    exact hold.imp_right (.imp_right fun hroots => hroots.mono (suffix_cons ..) hev)
  cases hchange with
  | same => exact same rfl rfl
  | claim hclaim => exact .inl (by simp [claimRow])
  | heartbeat hid hh => exact same rfl rfl
  | ensureAttempt hid hh hnone hfresh => exact same rfl rfl
  | mark hid hh hst hatt => exact same rfl rfl
  | record hid hh hst hatt => exact same rfl rfl
  | finalize hid hh hatt hcan => cases hcommand.2.symm.trans hatt
  | @finalizeCommand lease now _ status detail code classification hid hh =>
    by_cases hcode : code = some "EXECUTION_PLAN_UNAVAILABLE"
    · exact .inr (.inl hcode)
    have hjob : c.state.getJob l.jobId = some row := by
      rw [← hsound.1.jobId, ← hid, getJob_jobId hrow]
      exact hrow
    obtain ⟨plan, ⟨s, hread⟩, _, hroots⟩ := hsound.2.submitted hcode row hjob haction
    have hplan : some plan = s.getExecutionPlan row.runId := Except.ok.inj (hc.history.faithful _ hread)
    exact .inr (.inr ⟨_, mem_cons_of_mem _ hread, plan, hplan.symm, fun st hst hsel hroot =>
      (hroots st hst hsel hroot).mono hev⟩)
  | @cancel now row =>
    have hcancel : (cancelRow now row).status ∈ [.queued, .retryWait, .running, .cancelled] ∨
        cancelRow now row = row := by
      unfold cancelRow
      split <;> simp_all
    rcases hcancel with hopen | heq
    · exact .inl hopen
    · exact same (congrArg JobRecord.status heq) (congrArg JobRecord.failureCode heq)
  | resume hst =>
    -- what is resumed was listed as a stage
    obtain ⟨run, listed, ⟨s, hlist⟩, candidate, hmem, hid, hstage, _⟩ := hsound
    have hlisted : listed = s.listJobs run 10000 := Except.ok.inj (hc.history.faithful _ hlist)
    rw [hlisted] at hmem
    have hcandidate := (hc.history.evolves _ hlist).job (mem_jobs_iff.mp (Store.mem_listJobs hmem).1)
      (by rw [hid, getJob_jobId hrow]; exact hrow)
    cases (hcandidate.jobKind.trans hstage).symm.trans (he.jobKind ▸ hkind)

/-- **Every move keeps the submissions.** -/
theorem Submissions.move (h : Submissions w.config) (hk : World.Kept env x y w) (m : Move) :
    Submissions (w.move env m).config := by
  have hev := hk.move_evolves m
  have hch := hk.change m
  generalize (w.move env m).config = c at hev hch
  have kept : ∀ {row : JobRecord}, w.config.trace <:+ c.trace → Carried w.config row → Carried c row :=
    fun ht hold => hold.imp_right (.imp_right fun hroots => hroots.mono ht hev)
  cases hch with
  | idle => exact h
  | act hth hexec hsound => exact h.act hk.coherent hsound hexec
  | claim hclaim =>
    intro jobId row hrow hkind haction
    obtain ⟨_, _, _, _, rfl, _⟩ := hclaim.spec
    rcases getJob_updateJob_cases hrow with hrow | ⟨_, _, _, rfl⟩
    · exact kept (suffix_cons ..) (h jobId row hrow hkind haction)
    · exact .inl (by simp [claimRow])
  | client hstep =>
    intro jobId row hrow hkind haction
    rcases hstep.jobs jobId row hrow with hrow | ⟨_, hqueued, _⟩
    · exact kept suffix_rfl (h jobId row hrow hkind haction)
    · exact .inl (by simp [hqueued])

/-! ## Scheduling is not lost -/

/-- What every schedule keeps. -/
structure Accounted (env : Env) (w : World) : Prop where
  kept : World.Kept env False True w
  tracked : Tracked w.config
  submissions : Submissions w.config

theorem accounted_initial : Accounted env initial where
  kept := kept_initial
  tracked := by
    refine ⟨fun runId stageId hready => ?_, fun _ _ => rfl⟩
    obtain ⟨_, _, hp, _⟩ := hready
    cases hp
  submissions jobId row hrow := by cases hrow

theorem Accounted.run (hgraph : env.graph.Layered) (moves : List Move)
    (hup : ∀ ms1 m ms2, moves = ms1 ++ m :: ms2 → UpToDate (World.run env initial ms1) m) :
    Accounted env (World.run env initial moves) :=
  run_induction (fun w m (h : Accounted env w) hm =>
    ⟨h.kept.move False.elim (fun _ => hm) fun _ => hgraph, h.tracked.move h.kept m,
      h.submissions.move h.kept m⟩) initial accounted_initial moves hup

/-- A ready root of a plan that never changed has a job once the run has been submitted. -/
theorem Accounted.root (h : Accounted env w) (hsub : w.config.state.Submitted runId)
    (hquiet : w.config.state.Quiet runId) (hzero : epoch runId w.config.trace = 0)
    {p : ExecutionPlan} {st : StageSpec} (hp : w.config.state.getExecutionPlan runId = some p)
    (hst : p.stage stageId = some st) (hsel : st.selected = true) (hroot : p.Root st) :
    w.config.state.HasStageJob runId stageId := by
  obtain ⟨j, hmem, hrun, hkind, haction, hcancelled, hcode⟩ := hsub
  obtain ⟨hqueued, hretry, hrunning⟩ := hquiet j hmem hrun
  rcases h.submissions j.jobId j (mem_jobs_iff.mp hmem) hkind haction with hopen | hnone | hroots
  · simp_all
  · exact absurd hnone hcode
  obtain ⟨e, he, q, hq, hroots⟩ := hroots
  rw [hrun] at hq hroots
  obtain ⟨t1, t2, ht⟩ := append_of_mem he
  -- the plan has had the same stages ever since
  rcases h.kept.coherent.history.plans runId e t2 ⟨t1, ht.symm⟩ with hlt | hsame
  · omega
  obtain ⟨p', hp', hstages⟩ := hsame q hq
  cases hp.symm.trans hp'
  rw [← ExecutionPlan.stage_stageId hst]
  refine hroots st (by rw [← hstages]; exact ExecutionPlan.stage_mem hst) hsel ⟨hroot.1, fun d hd => ?_⟩
  rw [← stage_congr hstages]
  exact hroot.2 d hd

/-- **Ready stages are scheduled**, in every state in which each iteration that released a stage of the
run has returned; in all schedules whose workers advance plans, or work on complete ones. -/
theorem ready_stages_scheduled (hgraph : env.graph.Layered) (moves : List Move)
    (hup : ∀ ms1 m ms2, moves = ms1 ++ m :: ms2 → UpToDate (World.run env initial ms1) m)
    (runId : String) (hreturned : ∀ e ∈ (World.run env initial moves).config.trace, ∀ stageId,
      Record.Releases runId stageId e → (World.run env initial moves).Returned e.tid) :
    (World.run env initial moves).config.state.NothingLost runId := by
  intro hsub hquiet _ stageId hready
  have h := Accounted.run hgraph moves hup
  rcases h.tracked.ready runId stageId hready with ⟨e, t, hsuf, hrel, hepoch⟩ | ⟨hzero, hroot⟩
  · obtain ⟨l, v, hth⟩ := hreturned e (hsuf.subset (mem_cons_self ..)) stageId hrel
    -- the iteration that released the stage has returned, and its contract says the rest
    have hsettled : Settled e.tid (World.run env initial moves).config :=
      h.kept.verified.threads e.tid _ hth _ rfl trivial v rfl
    rcases hsettled e t runId stageId hsuf rfl hrel with hlt | hjob
    · omega
    · exact hjob
  · obtain ⟨p, st, hp, hst, hsel, hroot⟩ := hroot
    exact h.root hsub hquiet hzero hp hst hsel hroot

/-! ### Two stages in a chain -/

/-- The worker advances plans. -/
def advancing : WorkerConfig := { planAdvancer := true }

/-- The iteration of the first stage gets this far; the submission has been carried out. -/
def firstStage (n : Nat) : List Move :=
  submission chainPlan ++ [.runOnce advancing 0] ++ steps 0 8 {} ++
    [.client (.registerArtifact sampleCatalog), .runOnce advancing 0] ++ steps 1 n cataloguing

/-- The first stage of the chain has succeeded and the run is quiet. -/
def Store.chainWaits (s : Store) : Bool :=
  s.getExecutionPlan "run-1" = some chainPlan &&
    (s.getRun "run-1").all (·.status ≠ .cancelled) &&
    (s.getStageJob "run-1" "SOURCE_DISCOVERY").any (·.status = .succeeded) &&
    s.jobs.rows.any (fun j => j.runId = "run-1" && j.jobKind = .command &&
      j.action.getD .submit = .submit && j.status ≠ .cancelled &&
      j.failureCode ≠ some "EXECUTION_PLAN_UNAVAILABLE") &&
    s.jobs.rows.all (fun j => j.status ≠ .queued && j.status ≠ .retryWait && j.status ≠ .running)

theorem Store.premises_of_chainWaits (h : s.chainWaits = true) :
    s.Submitted "run-1" ∧ s.Quiet "run-1" ∧
      (∀ run, s.getRun "run-1" = some run → run.status ≠ .cancelled) ∧
      s.Ready "run-1" "PROFILING" := by
  simp only [chainWaits, Bool.and_eq_true, decide_eq_true_eq, any_eq_true, all_eq_true,
    Option.any_eq_true_iff_get] at h
  obtain ⟨⟨⟨⟨hplan, hrun⟩, hsome, hst⟩, j, hmem, hj⟩, hquiet⟩ := h
  refine ⟨⟨j, hmem, hj.1.1.1.1, hj.1.1.1.2, hj.1.1.2, hj.1.2, hj.2⟩, fun k hk _ => ?_,
    fun run hget => by simpa [hget] using hrun, chainPlan, sampleStage "PROFILING" ["SOURCE_DISCOVERY"], hplan, rfl, rfl, fun d hd => ?_,
    fun d hd => by cases hd⟩
  · obtain ⟨⟨hq, hr⟩, hw⟩ := hquiet k hk
    exact ⟨hq, hr, hw⟩
  · obtain rfl := mem_singleton.mp hd
    exact ⟨_, (Option.some_get hsome).symm, hst⟩

/-- All iterations that did something have returned. -/
def World.allReturned (w : World) : Bool :=
  w.config.trace.all fun e => (w.threads[e.tid]?).any fun t =>
    match t.prog with
    | some (.done (.ok _)) => true
    | _ => false

theorem World.returned_of_allReturned (h : w.allReturned = true) {e : Record}
    (he : e ∈ w.config.trace) : w.Returned e.tid := by
  have hany := all_eq_true.mp h e he
  cases hth : w.threads[e.tid]? with
  | none =>
    rw [hth] at hany
    cases hany
  | some t =>
    rw [hth, Option.any_some] at hany
    split at hany
    · rename_i v hprog
      exact ⟨t.label, v, hth.trans (by rw [← hprog])⟩
    · cases hany

/-- The move is no claim of a worker that leaves plans as they are. -/
def Move.advances : Move → Bool
  | .runOnce cfg _ => cfg.planAdvancer
  | _ => true

theorem upToDate_of_advancing {moves : List Move} (h : moves.all Move.advances = true) :
    ∀ ms1 m ms2, moves = ms1 ++ m :: ms2 → UpToDate (World.run env initial ms1) m := by
  rintro ms1 m ms2 rfl
  have hm := all_eq_true.mp h m (by simp)
  cases m with
  | runOnce cfg now => exact .inl hm
  | step i ω => trivial
  | crash i => trivial
  | client op => trivial

/-- The whole chain is carried out. -/
def chainCompleted : List Move :=
  firstStage 30 ++ [.runOnce advancing 0] ++ steps 2 40 { handler := .ok { status := .succeeded } }

theorem ready_stages_scheduled_chain :
    (World.run deployment initial chainCompleted).config.state.HasStageJob "run-1" "PROFILING" := by
  have hwaits : (World.run deployment initial chainCompleted).config.state.chainWaits = true := by
    decide +kernel
  have hreturned : (World.run deployment initial chainCompleted).allReturned = true := by
    decide +kernel
  obtain ⟨hsub, hquiet, hrun, hready⟩ := Store.premises_of_chainWaits hwaits
  exact ready_stages_scheduled (by decide) chainCompleted (upToDate_of_advancing (by decide)) "run-1"
    (fun e he _ _ => returned_of_allReturned hreturned he) hsub hquiet hrun "PROFILING" hready

/-- **Scheduling is lost**: the worker dies after the first stage has succeeded, and the second never
gets a job, although the run is quiet. -/
theorem scheduling_lost :
    ¬ ∀ (env : Env) (w : World), env.graph.Layered → Reachable env w →
      ∀ runId, w.config.state.NothingLost runId := by
  intro h
  have hwaits : (World.run deployment initial (firstStage 23 ++ [.crash 1])).config.state.chainWaits =
      true := by decide +kernel
  have hnone : ((World.run deployment initial (firstStage 23 ++ [.crash 1])).config.state.getStageJob
      "run-1" "PROFILING").isSome = false := by decide +kernel
  obtain ⟨hsub, hquiet, hrun, hready⟩ := Store.premises_of_chainWaits hwaits
  have hjob := h deployment _ (by decide) ⟨_, rfl⟩ "run-1" hsub hquiet hrun "PROFILING" hready
  rw [Store.HasStageJob, hnone] at hjob
  cases hjob

end DirtyDataOlap
