import DirtyDataOlap.Deployment
import DirtyDataOlap.SystemHistory

/-!
# Cancelled runs

The cancellation touches the jobs that wait or run at that instant; the deciding check is that of
`finalize_stage_job`, of the flag of the job and of the status of the run, in the transaction that
finalizes.  **Whatever the order, no job of the run gets an outcome that would let the run go on.**
An iteration looks at the run once before it starts the handler: only one that looks after the
cancellation is certain not to start it.
-/
namespace DirtyDataOlap

open List Store World

variable {env : Env} {x y : Prop} {w : World}

theorem Store.overridable_cancelRow {now : Instant} {row : JobRecord}
    (h : overridable (cancelRow now row).status = true) :
    (cancelRow now row).status = row.status := by
  unfold cancelRow at h ⊢
  cases hst : row.status <;> simp_all [overridable]

/-- **A finalization cannot let a cancelled run go on.** -/
theorem Store.overridable_finalStatus {s : Store} {row : JobRecord} {run : RunRecord}
    {status : JobStatus} (hrun : s.getRun row.runId = some run) (hcan : run.status = .cancelled) :
    overridable (finalStatus (s.cancellationWins row && overridable status) status) = false := by
  have hwins : s.cancellationWins row = true := by
    simp [cancellationWins, hrun, hcan]
  rw [hwins, Bool.true_and]
  cases h : overridable status with
  | true => rfl
  | false => exact h

/-- A stage job of a cancelled run gets none of the outcomes a cancellation overrides. -/
theorem Change.not_entered {m : Move} {c : Scene} (hch : Change env x w m c) {jobId : String}
    {row' : JobRecord} {run : RunRecord} (hrow' : c.state.getJob jobId = some row')
    (hkind : row'.jobKind = .stage) (hrun : w.config.state.getRun row'.runId = some run)
    (hcan : run.status = .cancelled) (hst : overridable row'.status = true) :
    ∃ row, w.config.state.getJob jobId = some row ∧ row.status = row'.status := by
  cases hch with
  | idle => exact ⟨row', hrow', rfl⟩
  | @act i ω l a k r s hth hexec hsound =>
    rcases exec_getJob hexec hrow' with ⟨row, hrow, hchange⟩ | ⟨_, _, _, _, _, _, _, _, rfl⟩
    swap
    · cases hst
    cases hchange with
    | same => exact ⟨row', hrow, rfl⟩
    | claim hclaim => cases hst
    | heartbeat hid hh => exact ⟨row, hrow, rfl⟩
    | ensureAttempt hid hh hnone hfresh => exact ⟨row, hrow, rfl⟩
    | mark hid hh hk hatt => exact ⟨row, hrow, rfl⟩
    | record hid hh hk hatt => exact ⟨row, hrow, rfl⟩
    | @finalize lease now _ attempt result status retries availableAt cancelled hid hh hatt hc =>
      have hno := @Store.overridable_finalStatus _ row _ status hrun hcan
      rw [← hc] at hno
      exact absurd (hst.symm.trans hno) (by simp)
    | @finalizeCommand lease now _ status detail code classification hid hh =>
      obtain ⟨hp, hcommand⟩ := hsound
      have hl : w.config.state.getJob l.jobId = some row := by
        rw [← hp.jobId, ← hid, getJob_jobId hrow]
        exact hrow
      exact absurd (hkind.symm.trans (hcommand.kind row hl)) (by simp)
    | cancel => exact ⟨row, hrow, (overridable_cancelRow hst).symm⟩
    | resume hres => cases hst
  | claim hclaim =>
    obtain ⟨row0, hrow0, _, _, hs, _⟩ := hclaim.spec
    change getJob _ jobId = some row' at hrow'
    simp only [Config.log] at hrow'
    rw [hs] at hrow'
    rcases getJob_updateJob_cases hrow' with hrow' | ⟨row, _, _, rfl⟩
    · exact ⟨row', hrow', rfl⟩
    · cases hst
  | client hstep =>
    rcases hstep.jobs jobId row' hrow' with hrow | ⟨_, hq, _⟩
    · exact ⟨row', hrow, rfl⟩
    · rw [hq] at hst
      cases hst

/-- A job that was finalized as cancelled has no results, and its attempt no outputs. -/
def Record.LeavesNothing (e : Record) (_ : List Record) : Prop :=
  match e with
  | ⟨_, .fenced _ (.finalizeStage attempt _ _ _ _ _), .ok stored, s⟩ =>
    stored.status = .cancelled → stored.resultRefs = [] ∧
      stored.attemptId = some attempt.attemptId ∧ ∃ a, s.getStageAttempt attempt.attemptId = some a ∧
        a.deliveryPhase = .finalized ∧ a.outputArtifactRefs = []
  | _ => True

theorem Sound.leavesNothing {c : Scene} {i : Nat} {l : Lease} {a : Act} {ω : Input}
    {r : Except Exc a.Reply} {s : Store} (hsound : Sound env.graph x i l c a)
    (hexec : exec env a ω c.state = (r, s)) : Record.LeavesNothing ⟨i, a, r, s⟩ c.trace := by
  cases a with
  | claim => trivial
  | read q => trivial
  | observe o => trivial
  | write w => trivial
  | fenced lease op =>
    cases op with
    | heartbeat => trivial
    | ensureAttempt => trivial
    | markHandlerDeliveryStarted => trivial
    | recordResult => trivial
    | finalizeCommand => trivial
    | finalizeStage attempt result status now retries availableAt =>
      cases r with
      | error e => trivial
      | ok stored =>
        intro hst
        obtain ⟨hp, hfin⟩ := hsound
        obtain ⟨row, a, cancelled, next, hrow, hh, hatt, ha, _, hc, rfl, rfl, _, rfl⟩ :=
          finalizeStageJob_ok (exec_fenced_ok hexec)
        change finalStatus cancelled status = .cancelled at hst
        have hl : c.state.getJob l.jobId = some row := by
          rw [← hp.jobId]
          exact hrow
        have hok := hfin.ok row hl (holds_iff.mp hh).1 hatt
        refine ⟨if_pos hst, if_neg (by rw [hst]; simp),
          finalizedAttempt (closingAttempt cancelled now attempt) a, ?_, rfl, ?_⟩
        · exact getStageAttempt_updateAttempt_self
            (finalizedAttempt (closingAttempt cancelled now attempt)) (fun _ => rfl) ha
        · change (closingAttempt cancelled now attempt).outputArtifactRefs = []
          cases cancelled with
          | true => rfl
          | false => exact hok.cancelled hst

/-- **A cancelled job has published nothing.** -/
theorem World.Reachable.leavesNothing (h : Reachable env w) {i : Nat} {lease : Lease}
    {attempt : StageAttemptRecord} {result : StageExecutionResult} {status : JobStatus}
    {now : Instant} {retries : Nat} {availableAt : Option Instant} {stored : JobRecord}
    (hdid : w.config.Did i (.fenced lease (.finalizeStage attempt result status now retries
      availableAt)) (.ok stored)) (hst : stored.status = .cancelled) :
    w.config.state.getJob lease.jobId = some stored ∧ stored.resultRefs = [] ∧
      stored.attemptId = some attempt.attemptId ∧
      ∃ a, w.config.state.getStageAttempt attempt.attemptId = some a ∧ a.outputArtifactRefs = [] := by
  obtain ⟨s, hmem⟩ := hdid
  have hc := h.kept.coherent
  obtain ⟨t, t', ht⟩ := append_of_mem hmem
  have hleaves := h.entries (fun _ hsound hexec => hsound.leavesNothing hexec)
    (fun _ _ _ _ _ _ => trivial) _ t' ⟨t, ht.symm⟩
  obtain ⟨hrefs, hatt, a, ha, hfin, hout⟩ := hleaves hst
  obtain ⟨row, hrow, he⟩ := (hc.history.evolves _ hmem).getJob (hc.history.faithful _ hmem)
  obtain rfl := he.cancelled hst
  obtain ⟨a', ha', hea⟩ := (hc.history.evolves _ hmem).getStageAttempt ha
  obtain rfl := hea.finalized hfin
  exact ⟨hrow, hrefs, hatt, a', ha', hout⟩

/-! ## Starting a handler -/

/-- Whoever starts a handler has seen the run before it was cancelled. -/
def Record.SawRun (e : Record) (t : List Record) : Prop :=
  ∀ request, e.act.execution = some request → ∃ run s,
    (⟨e.tid, .read (.run request.runId), .ok (some run), s⟩ : Record) ∈ t ∧ run.status ≠ .cancelled

theorem Sound.sawRun {c : Scene} {i : Nat} {l : Lease} {a : Act} {r : Except Exc a.Reply} {s : Store}
    (hsound : Sound env.graph x i l c a) : Record.SawRun ⟨i, a, r, s⟩ c.trace := by
  intro request hrequest
  obtain ⟨key, available, rfl⟩ := Act.execution_eq_some.mp hrequest
  obtain ⟨run, ⟨s, hmem⟩, hst⟩ := SoundExecute.run hsound
  exact ⟨run, s, hmem, hst⟩

/-- **Cancellation wins every race.**  Once a run is cancelled, none of its stage jobs enters an
outcome that lets the run go on, every job finalized as cancelled has no results, and no iteration
that has not read the run by then starts a handler for it. -/
theorem cancellation_wins (h : World.Reachable env w) {runId : String} {run : RunRecord}
    (hrun : w.config.state.getRun runId = some run) (hcan : run.status = .cancelled)
    (later : List Move) :
    (∀ m jobId row', ((World.run env w later).move env m).config.state.getJob jobId = some row' →
      row'.jobKind = .stage → row'.runId = runId →
      row'.status = .succeeded ∨ row'.status = .needsReview ∨ row'.status = .blocked ∨
        row'.status = .retryWait →
      ∃ row, (World.run env w later).config.state.getJob jobId = some row ∧
        row.status = row'.status) ∧ (∀ i lease attempt result status now retries availableAt stored,
      (World.run env w later).config.Did i (.fenced lease (.finalizeStage attempt result status now
        retries availableAt)) (.ok stored) → stored.status = .cancelled →
      (World.run env w later).config.state.getJob lease.jobId = some stored ∧
        stored.resultRefs = [] ∧ stored.attemptId = some attempt.attemptId ∧
        ∃ a, (World.run env w later).config.state.getStageAttempt attempt.attemptId = some a ∧
          a.outputArtifactRefs = []) ∧
    ∀ i, (∀ e ∈ w.config.trace, e.tid = i → e.act ≠ .read (.run runId)) →
      ∀ e ∈ (World.run env w later).config.trace, e.tid = i →
        ∀ request, e.act.execution = some request → request.runId ≠ runId := by
  have h' := h.run later
  refine ⟨fun m jobId row' hrow' hkind hid hst => ?_,
    fun i lease attempt result status now retries availableAt stored hdid hst =>
      h'.leavesNothing hdid hst, fun i hunread e he hi request hrequest hid => ?_⟩
  · obtain ⟨run', hrun', he⟩ := (h.run_evolves later).getRun hrun
    rw [← hid] at hrun'
    refine (h'.kept.change m).not_entered hrow' hkind hrun' (he.cancelled hcan) ?_
    rcases hst with hst | hst | hst | hst <;> rw [hst] <;> rfl
  · obtain ⟨t, t', ht⟩ := append_of_mem he
    obtain ⟨seen, s, hmem, hst⟩ := h'.entries (fun _ hsound _ => hsound.sawRun)
      (fun _ _ _ _ _ _ request hr => by cases hr) e t' ⟨t, ht.symm⟩ request hrequest
    rw [hi, hid] at hmem
    have hread : (⟨i, .read (.run runId), .ok (some seen), s⟩ : Record) ∈
        (World.run env w later).config.trace := by
      rw [ht]
      exact mem_append_right _ (mem_cons_of_mem _ hmem)
    -- the read came after the cancellation, and must have seen it
    obtain ⟨new, htrace, hnew⟩ := h.run_trace later
    have hold := hread
    rw [htrace] at hold
    rcases mem_append.mp hold with hlate | hearly
    · obtain ⟨run', hrun', he'⟩ := (hnew _ hlate).getRun hrun
      have hget : some seen = s.getRun runId :=
        Except.ok.inj (h'.kept.coherent.history.faithful _ hread)
      rw [hrun'] at hget
      cases hget
      exact hst (he'.cancelled hcan)
    · exact hunread _ hearly rfl rfl

/-- An iteration has looked at the run and found it alive; then the run is cancelled. -/
def cancelledMidway : List Move :=
  submission samplePlan ++ [.runOnce {} 0] ++ steps 0 5 {} ++ [.runOnce {} 0] ++ steps 1 4 {} ++
    [.client (.submitCommand (sampleCommand "cancel" .cancel 1)),
      .runOnce { workerId := "worker-2", maxActivePerRun := 2 } 1] ++ steps 2 2 { clock := 1 }

/-- The lease of the iteration expires and another worker takes the job over. -/
def takenOver : List Move :=
  .runOnce { workerId := "worker-3" } 31000000 :: steps 3 12 { clock := 31000000 }

theorem cancellation_wins_takenOver :
    ((World.run deployment (World.run deployment World.initial cancelledMidway)
      takenOver).config.state.getJob "stage-job-run-1-PROFILING").map (·.status) = some .cancelled ∧
    ∀ e ∈ (World.run deployment (World.run deployment World.initial cancelledMidway)
      takenOver).config.trace, e.tid = 3 → ∀ request, e.act.execution = some request →
        request.runId ≠ "run-1" := by
  constructor
  · decide +kernel
  · have hst : ((World.run deployment World.initial cancelledMidway).config.state.getRun "run-1").map
        (·.status) = some .cancelled := by decide +kernel
    have hunread : (World.run deployment World.initial cancelledMidway).config.trace.all
        (fun e => e.tid ≠ 3) = true := by decide +kernel
    obtain ⟨run, hrun, hst⟩ := Option.map_eq_some_iff.mp hst
    refine (cancellation_wins ⟨cancelledMidway, rfl⟩ hrun hst takenOver).2.2 3 fun e he hi => ?_
    have := all_eq_true.mp hunread e he
    simp [hi] at this

def Record.readsCancelled (runId : String) : Record → Bool
  | ⟨_, .read (.run id), .ok (some run), _⟩ => id = runId && run.status = .cancelled
  | _ => false

/-- An iteration has read the run after its cancellation, and is about to start its handler. -/
theorem handler_started_after_cancellation :
    (((run deployment initial (cancelledMidway ++ steps 1 5 { clock := 1 })).config.state.getRun
      "run-1").map (·.status) = some .cancelled) ∧
    ((run deployment initial (cancelledMidway ++ steps 1 5 { clock := 1 })).config.trace.any
      (fun e => e.tid = 1 && Record.readsCancelled "run-1" e) = true) ∧
    ((((run deployment initial (cancelledMidway ++ steps 1 5 { clock := 1 })).threads[1]?.bind
      (·.next)).bind (·.execution)).map (·.runId) = some "run-1") := by
  decide +kernel

end DirtyDataOlap
