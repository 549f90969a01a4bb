import DirtyDataOlap.Deployment
import DirtyDataOlap.SystemHistory

/-!
# What the rows tell of a whole run

Laws of the store over every schedule of iterations, crashes and client operations: settled rows
are final, a row has one content at each revision, and **the attempts of a stage are numbered 1, 2,
…, n, each finalized before the next is created** (`Numbered`).
-/
namespace DirtyDataOlap

open List Store World

/-- The store after a schedule. -/
def World.storeAfter (env : Env) (moves : List Move) : Store := (run env initial moves).config.state

section
variable (env : Env) (moves later : List Move)

theorem storeAfter_evolves : (storeAfter env moves).Evolves (storeAfter env (moves ++ later)) := by
  unfold storeAfter
  rw [run_append]
  exact World.Reachable.run_evolves ⟨moves, rfl⟩ later

theorem storeAfter_inv : (storeAfter env moves).Inv env.graph :=
  (World.Reachable.kept ⟨moves, rfl⟩).coherent.inv

/-- **Settled rows are final**: a job that has succeeded or was cancelled, a finalized attempt and a
complete plan are never written again. -/
theorem settled_rows_final :
    (∀ jobId job, (storeAfter env moves).getJob jobId = some job →
      job.status = .succeeded ∨ job.status = .cancelled →
        (storeAfter env (moves ++ later)).getJob jobId = some job) ∧
    (∀ attemptId a, (storeAfter env moves).getStageAttempt attemptId = some a →
      a.deliveryPhase = .finalized →
        (storeAfter env (moves ++ later)).getStageAttempt attemptId = some a) ∧
    ∀ runId p, (storeAfter env moves).getExecutionPlan runId = some p →
      p.planningPhase = .complete →
        (storeAfter env (moves ++ later)).getExecutionPlan runId = some p := by
  have hev := storeAfter_evolves env moves later
  refine ⟨fun jobId job hjob hst => ?_, fun attemptId a ha hfin => ?_, fun runId p hp hphase => ?_⟩
  · obtain ⟨job', hjob', he⟩ := hev.getJob hjob
    rcases hst with hst | hst
    · rwa [he.succeeded hst] at hjob'
    · rwa [he.cancelled hst] at hjob'
  · obtain ⟨a', ha', he⟩ := hev.getStageAttempt ha
    rwa [he.finalized hfin] at ha'
  · obtain ⟨p', hp', he⟩ := hev.getExecutionPlan hp
    rwa [he.complete hphase] at hp'

/-- **No lost update**: a writer that finds the revision it has read finds the row it has read.
Source binding is no move of the system; like every other writer of a run it raises the revision. -/
theorem revision_determines_row :
    (∀ runId r r', (storeAfter env moves).getRun runId = some r →
      (storeAfter env (moves ++ later)).getRun runId = some r' → r'.revision = r.revision → r' = r) ∧
    (∀ jobId j j', (storeAfter env moves).getJob jobId = some j →
      (storeAfter env (moves ++ later)).getJob jobId = some j' → j'.revision = j.revision → j' = j) ∧
    (∀ attemptId a a', (storeAfter env moves).getStageAttempt attemptId = some a →
      (storeAfter env (moves ++ later)).getStageAttempt attemptId = some a' →
        a'.revision = a.revision → a' = a) ∧
    ∀ runId p p', (storeAfter env moves).getExecutionPlan runId = some p →
      (storeAfter env (moves ++ later)).getExecutionPlan runId = some p' →
        p'.revision = p.revision → p' = p := by
  have hev := storeAfter_evolves env moves later
  refine ⟨fun runId r r' hr hr' heq => ?_, fun jobId j j' hj hj' heq => ?_,
    fun attemptId a a' ha ha' heq => ?_, fun runId p p' hp hp' heq => ?_⟩
  · obtain ⟨r1, hr1, he⟩ := hev.getRun hr
    cases hr'.symm.trans hr1
    exact he.revision.resolve_right (by omega)
  · exact (hev.job hj hj').revision.resolve_right (by omega)
  · obtain ⟨a1, ha1, he⟩ := hev.getStageAttempt ha
    cases ha'.symm.trans ha1
    exact he.revision.resolve_right (by omega)
  · obtain ⟨p1, hp1, he⟩ := hev.getExecutionPlan hp
    cases hp'.symm.trans hp1
    exact he.revision.resolve_right (by omega)

/-- **What is recorded stays**: the artifacts, the review contexts and the gate evidence are only
appended to.  Evidence under the marker of the schema migration would be replaced in place; no
operation of a client records any (`ClientOp.recordGateEvidence`). -/
theorem records_append_only :
    (storeAfter env moves).artifacts.rows <+: (storeAfter env (moves ++ later)).artifacts.rows ∧
    (storeAfter env moves).reviewContexts.rows <+:
      (storeAfter env (moves ++ later)).reviewContexts.rows ∧
    (storeAfter env moves).gateEvidence.rows <+:
      (storeAfter env (moves ++ later)).gateEvidence.rows := by
  have hgrows : ∀ {α : Type} {l l' : List α}, Grows Eq l l' → l <+: l' := by
    intro α l l' h
    induction h with
    | nil l' => exact nil_prefix
    | cons hab _ ih =>
      subst hab
      exact (prefix_cons_inj _).2 ih
  have hev := storeAfter_evolves env moves later
  exact ⟨hgrows hev.artifacts, hgrows hev.reviewContexts, hgrows hev.gateEvidence⟩

/-- **Stages have one job, and attempts one worker**: an attempt is open exactly while one running
job is at work on it. -/
theorem deliveries_coherent :
    (∀ j ∈ (storeAfter env moves).jobs.rows, ∀ k ∈ (storeAfter env moves).jobs.rows,
      j.runId = k.runId → j.stageId = k.stageId → j.stageId ≠ none → j = k) ∧
    ∀ a ∈ (storeAfter env moves).attempts.rows, a.deliveryPhase ≠ .finalized ↔
      ∃! j, j ∈ (storeAfter env moves).jobs.rows ∧ j.status = .running ∧
        j.attemptId = some a.attemptId := by
  have hi := storeAfter_inv env moves
  refine ⟨hi.stages, fun a ha => (hi.sync a ha).trans ⟨?_, ?_⟩⟩
  · rintro ⟨j, hj, hrun, hatt⟩
    exact ⟨j, ⟨hj, hrun, hatt⟩, fun k ⟨hk, _, hkatt⟩ => hi.active_unique hk hj hkatt hatt⟩
  · rintro ⟨j, ⟨hj, hrun, hatt⟩, _⟩
    exact ⟨j, hj, hrun, hatt⟩

/-- **The states of a job agree**: its status with its delivery phase, and both with its attempt. -/
theorem job_states_agree : ∀ j ∈ (storeAfter env moves).jobs.rows,
    (j.jobKind = .command → j.stageId = none ∧ j.attemptId = none) ∧
    (j.status = .queued ∨ j.status = .retryWait →
      j.attemptId = none ∧ (j.jobKind = .stage → j.deliveryPhase = .attemptCreated)) ∧
    (j.jobKind = .stage → j.status = .running → j.deliveryPhase = .attemptCreated ∨
      j.deliveryPhase = .handlerDeliveryStarted ∨ j.deliveryPhase = .resultRecorded) ∧
    ∀ attemptId, j.attemptId = some attemptId →
      ∃ a, (storeAfter env moves).getStageAttempt attemptId = some a ∧ a.runId = j.runId ∧
        j.stageId = some a.stageId ∧ (a.deliveryPhase ≠ .finalized ↔ j.status = .running) := by
  intro j hj
  have hi := storeAfter_inv env moves
  have hok := hi.jobs j hj
  refine ⟨hok.command, hok.waiting, hok.running, fun attemptId hatt => ?_⟩
  obtain ⟨a, ha, hrun, hstage⟩ := hok.attempt hatt
  refine ⟨a, ha, hrun, hstage, ?_⟩
  rw [hi.sync a (Table.mem_of_find? ha), getStageAttempt_attemptId ha]
  constructor
  · rintro ⟨k, hk, hst, hkatt⟩
    rwa [hi.active_unique hj hk hatt hkatt]
  · exact fun hst => ⟨j, hj, hst, hatt⟩

theorem job_states_agree_submitted :
    ∃ j ∈ (storeAfter deployment (submission samplePlan)).jobs.rows,
      j.status = .queued ∧ j.attemptId = none := by
  have hqueued : (storeAfter deployment (submission samplePlan)).jobs.rows.any
      (·.status = .queued) = true := by decide +kernel
  obtain ⟨j, hj, hst⟩ := any_eq_true.1 hqueued
  have hst := of_decide_eq_true hst
  exact ⟨j, hj, hst, ((job_states_agree deployment (submission samplePlan) j hj).2.1 (.inl hst)).1⟩

end

/-! ## The numbers of attempts -/

section
variable {s s' : Store} {runId stageId : String}

/-- The numbers of the attempts of a stage, in the order of their rows. -/
def Store.attemptNumbers (s : Store) (runId stageId : String) : List Nat :=
  (s.attempts.rows.filter fun a => a.runId = runId && a.stageId = stageId).map (·.attemptNumber)

/-- Attempts are numbered from one, and only the last may be open. -/
structure Store.Numbered (s : Store) : Prop where
  numbers : ∀ runId stageId, ∃ n, s.attemptNumbers runId stageId = range' 1 n
  finalized : ∀ a ∈ s.attempts.rows, ∀ b ∈ s.attempts.rows, a.runId = b.runId →
    a.stageId = b.stageId → a.attemptNumber < b.attemptNumber → a.deliveryPhase = .finalized

/-- What a step does to the attempts: it creates one at most, for a job without any. -/
def AttemptsStep (s s' : Store) : Prop :=
  s'.attempts.rows.length = s.attempts.rows.length ∨ ∃ a, s'.attempts.rows = s.attempts.rows ++ [a] ∧
    a.attemptNumber = s.lastAttemptNumber a.runId a.stageId + 1 ∧
    ∃ job ∈ s.jobs.rows, job.attemptId = none ∧ job.runId = a.runId ∧ job.stageId = some a.stageId

theorem lastAttemptNumber_eq {n : Nat} (h : s.attemptNumbers runId stageId = range' 1 n) :
    s.lastAttemptNumber runId stageId = n := by
  have hmax : ∀ n k, (range' 1 n).foldr max k = max k n := by
    intro n
    induction n with
    | zero => simp
    | succ n ih =>
      intro k
      rw [range'_1_concat, foldr_append, foldr_cons, foldr_nil, ih]
      omega
  unfold lastAttemptNumber
  rw [← attemptNumbers, h, hmax]
  omega

theorem Grows.forall₂ {α : Type} {R : α → α → Prop} {l l' : List α} (h : Grows R l l')
    (hlen : l'.length = l.length) : Forall₂ R l l' := by
  induction h with
  | nil l' =>
    rw [length_eq_zero_iff.1 hlen]
    exact .nil
  | cons hab _ ih => exact .cons hab (ih (by simpa using hlen))

theorem attemptNumbers_eq (h : Forall₂ StageAttemptRecord.Evolves s.attempts.rows s'.attempts.rows) :
    s'.attemptNumbers runId stageId = s.attemptNumbers runId stageId := by
  unfold attemptNumbers
  generalize s.attempts.rows = rows, s'.attempts.rows = rows' at h ⊢
  induction h with
  | nil => rfl
  | cons he _ ih =>
    simp only [filter_cons, he.runId, he.stageId]
    split
    · rw [map_cons, map_cons, he.attemptNumber, ih]
    · exact ih

/-- One step: a new attempt has the next number, and no attempt of its stage is open, for it would be
the one of the job. -/
theorem Store.Numbered.step {graph : StageGraph} (h : s.Numbered) (hi : s.Inv graph) (hev : s.Evolves s')
    (hstep : AttemptsStep s s') : s'.Numbered := by
  rcases hstep with hlen | ⟨a, hrows, hnum, job, hjob, hnone, hrun, hstage⟩
  · have hall := hev.attempts.forall₂ hlen
    refine ⟨fun runId stageId => ?_, fun a' ha' b' hb' hrun hstage hlt => ?_⟩
    · rw [attemptNumbers_eq hall]
      exact h.numbers runId stageId
    · obtain ⟨a, ha, hea⟩ := exists_left_of_forall₂ hall ha'
      obtain ⟨b, hb, heb⟩ := exists_left_of_forall₂ hall hb'
      rw [hea.runId, heb.runId] at hrun
      rw [hea.stageId, heb.stageId] at hstage
      rw [hea.attemptNumber, heb.attemptNumber] at hlt
      have hfin := h.finalized a ha b hb hrun hstage hlt
      rw [hea.finalized hfin]
      exact hfin
  · obtain ⟨n, hn⟩ := h.numbers a.runId a.stageId
    rw [lastAttemptNumber_eq hn] at hnum
    have hle : ∀ b ∈ s.attempts.rows, b.runId = a.runId → b.stageId = a.stageId →
        b.attemptNumber ≤ n := by
      intro b hb hbrun hbstage
      have hmem : b.attemptNumber ∈ s.attemptNumbers a.runId a.stageId :=
        mem_map_of_mem (mem_filter.2 ⟨hb, by simp [hbrun, hbstage]⟩)
      rw [hn, mem_range'_1] at hmem
      omega
    refine ⟨fun runId stageId => ?_, fun b hb c hc hbc hstages hlt => ?_⟩
    · unfold attemptNumbers
      rw [hrows, filter_append, map_append]
      by_cases hsame : a.runId = runId ∧ a.stageId = stageId
      · obtain ⟨rfl, rfl⟩ := hsame
        refine ⟨n + 1, ?_⟩
        rw [← attemptNumbers, hn, range'_1_concat, filter_singleton]
        simp [hnum, Nat.add_comm]
      · obtain ⟨m, hm⟩ := h.numbers runId stageId
        refine ⟨m, ?_⟩
        rw [← attemptNumbers, hm, filter_eq_nil_iff.2 (by simpa using hsame), map_nil, append_nil]
    · rw [hrows, mem_append, mem_singleton] at hb hc
      rcases hb with hb | rfl
      · rcases hc with hc | rfl
        · exact h.finalized b hb c hc hbc hstages hlt
        · -- the job that an open attempt would have is the one the new attempt was made for
          by_contra hopen
          obtain ⟨j, hj, -, hjatt⟩ := (hi.sync b hb).1 hopen
          obtain ⟨b', hget, hbrun, hbstage⟩ := (hi.jobs j hj).attempt hjatt
          cases hget.symm.trans (Table.find?_of_mem hb)
          have hjk : j = job := hi.stages j hj job hjob (by rw [hrun, ← hbrun, hbc])
            (by rw [hbstage, hstage, hstages]) (by rw [hbstage]; simp)
          rw [hjk, hnone] at hjatt
          cases hjatt
      · rcases hc with hc | rfl
        · have := hle c hc hbc.symm hstages.symm
          omega
        · omega

theorem AttemptsStep.of_eq (h : s'.attempts = s.attempts) : AttemptsStep s s' := .inl (by rw [h])

end

section
variable {env : Env} {s s' : Store}

theorem FencedOp.attemptsStep {lease : Lease} {op : FencedOp} {r : op.Reply}
    (hi : s.Inv env.graph) (h : op.txn env.stableId lease s = .ok (r, s')) : AttemptsStep s s' := by
  cases op with
  | heartbeat now leaseSeconds =>
    obtain ⟨_, _, _, _, rfl⟩ := heartbeatJob_ok h
    exact .of_eq rfl
  | ensureAttempt now =>
    obtain ⟨row, hrow, hkind, _, ⟨_, _, rfl⟩ | ⟨hnone, plan, stage, s1, _, hstage, ha, hins, rfl⟩⟩ :=
      ensureStageAttempt_ok h
    · exact .of_eq rfl
    · obtain ⟨attempts, hattempts, rfl⟩ := insertAttempt_ok hins
      obtain ⟨stageId, _, _, hid, _⟩ := (hi.jobs row (getJob_mem hrow)).stage hkind
      have hstageId : stage.stageId = stageId := by
        rw [ExecutionPlan.stage_stageId hstage, hid]
        rfl
      refine .inr ⟨r, Table.insert?_rows hattempts, by rw [ha]; rfl, row, getJob_mem hrow, hnone,
        by rw [ha]; rfl, ?_⟩
      rw [hid, ha, ← hstageId]
      rfl
  | markHandlerDeliveryStarted now =>
    obtain ⟨_, _, _, _, _, _, _, _, rfl⟩ := markHandlerDeliveryStarted_ok h
    exact .inl (length_map ..)
  | recordResult attempt result now =>
    obtain ⟨_, _, _, _, _, _, _, _, _, rfl⟩ := recordStageResult_ok h
    exact .inl (length_map ..)
  | finalizeStage attempt result status now retryCount availableAt =>
    obtain ⟨_, _, _, _, _, _, _, _, _, _, rfl, _, _, rfl⟩ := finalizeStageJob_ok h
    exact .inl (length_map ..)
  | finalizeCommand status now detail failureCode failureClassification =>
    obtain ⟨_, _, _, _, rfl⟩ := finalizeCommandJob_ok h
    exact .of_eq rfl

theorem exec_attemptsStep {a : Act} {ω : Input} {r : Except Exc a.Reply} (hi : s.Inv env.graph)
    (h : exec env a ω s = (r, s')) : AttemptsStep s s' := by
  cases exec_effect h with
  | none => exact .of_eq rfl
  | claim => exact .of_eq rfl
  | fenced hok => exact FencedOp.attemptsStep hi hok
  | write hok => exact .of_eq (Write.leaves hok).attempts

/-- **Attempts are numbered** from one along every schedule, and each is finalized before the next is
created. -/
theorem attempts_numbered (env : Env) (moves : List Move) : (storeAfter env moves).Numbered := by
  have hstep : ∀ w m, (Reachable env w ∧ w.config.state.Numbered) → True →
      Reachable env (w.move env m) ∧ (w.move env m).config.state.Numbered := by
    rintro w m ⟨h, hnum⟩ -
    have hi := h.kept.coherent.inv
    have hev := h.kept.move_evolves m
    have hch := h.kept.change m
    refine ⟨h.move m, hnum.step hi hev ?_⟩
    generalize (w.move env m).config = c at hch
    cases hch with
    | idle => exact .of_eq rfl
    | act _ hexec => exact exec_attemptsStep hi hexec
    | claim hclaim =>
      obtain ⟨_, _, _, _, rfl, _⟩ := hclaim.spec
      exact .of_eq rfl
    | client hstep => exact .of_eq hstep.attempts
  refine (run_induction hstep initial ⟨⟨[], rfl⟩, fun _ _ => ⟨0, rfl⟩, ?_⟩ moves
    fun _ _ _ _ => trivial).2
  exact fun _ ha => absurd ha not_mem_nil

end
end DirtyDataOlap
