import DirtyDataOlap.AdvanceRules

/-!
# Delivering a stage

What `_run_stage` does under the contract.  Three facts are carried from the first action to the
last: the iteration has seen its job and its attempt, and both have evolved since (`Serving`,
`AttemptSeen`); a success has outputs that are published for the attempt (`OutputsOk`); and whoever
holds the job under its lease held it throughout (`Store.Held`).
-/
namespace DirtyDataOlap

open List Store

variable {env : Env} {x y : Prop} {i : Nat} {l : Lease} {c c' : Scene}

/-- The iteration works for its label, on a stage job it has read. -/
structure Serving (x : Prop) (l : Lease) (s : Store) (cfg : WorkerConfig) (job : JobRecord) :
    Prop where
  presents : Presents x l s (leaseOf cfg job)
  kind : job.jobKind = .stage
  seen : ∃ row, s.getJob l.jobId = some row ∧ job.Evolves row

/-- The attempt has been read, and may have moved on. -/
def AttemptSeen (s : Store) (attempt : StageAttemptRecord) : Prop :=
  ∃ a, s.getStageAttempt attempt.attemptId = some a ∧ attempt.Evolves a

def OutputsOk (graph : StageGraph) (s : Store) (jobId attemptId : String)
    (result : StageExecutionResult) : Prop :=
  result.status = .succeeded → ∀ s', s.Evolves s' → s'.Inv graph → ∀ row,
    s'.getJob jobId = some row → row.status = .running → row.attemptId = some attemptId →
    s'.GoodOutputs row.runId row.stageId attemptId result.outputArtifactRefs

variable (env x i l c) in
/-- If a result is recorded for the held job, it is this one, or the job is
cancelled or blocked. -/
def RecordedOk (result : StageExecutionResult) : Prop :=
  x → ∀ c', Calm env.graph x i l c c' → ∀ row, c'.state.getJob l.jobId = some row →
    holds l.workerId l.generation row = true → row.deliveryPhase = .resultRecorded →
    row.durableResult = some result ∨ result.status = .cancelled ∨
      (result.status = .blocked ∧ result.failureCode = some "PREREQUISITE_NOT_SUCCEEDED")

variable {result : StageExecutionResult} {s : Store} {cfg : WorkerConfig} {job : JobRecord}
  {attempt : StageAttemptRecord} {s' : Store} {graph : StageGraph} {attemptId : String}
  {status : JobStatus}

theorem Serving.mono (h : s.Evolves s') (hs : Serving x l s cfg job) : Serving x l s' cfg job := by
  obtain ⟨row, hrow, he⟩ := hs.seen
  obtain ⟨row', hrow', he'⟩ := h.getJob hrow
  exact ⟨hs.presents.mono h, hs.kind, row', hrow', he.trans he'⟩

theorem Serving.jobId (hs : Serving x l s cfg job) : job.jobId = l.jobId := hs.presents.jobId

theorem Serving.evolves {row : JobRecord} (hs : Serving x l s cfg job)
    (hrow : s.getJob l.jobId = some row) : job.Evolves row := by
  obtain ⟨row', hrow', he⟩ := hs.seen
  cases hrow.symm.trans hrow'
  exact he

theorem AttemptSeen.mono (h : s.Evolves s') (ha : AttemptSeen s attempt) :
    AttemptSeen s' attempt := by
  obtain ⟨a, hget, he⟩ := ha
  obtain ⟨a', hget', he'⟩ := h.getStageAttempt hget
  exact ⟨a', hget', he.trans he'⟩

theorem OutputsOk.mono {jobId : String} (h : s.Evolves s')
    (ho : OutputsOk graph s jobId attemptId result) : OutputsOk graph s' jobId attemptId result :=
  fun hst s'' hev => ho hst s'' (h.trans hev)

theorem OutputsOk.of_status {jobId : String} (h : result.status ≠ .succeeded) :
    OutputsOk graph s jobId attemptId result :=
  fun hst => absurd hst h

theorem OutputsOk.of_empty {jobId : String} (h : result.outputArtifactRefs = []) :
    OutputsOk graph s jobId attemptId result := by
  intro _ s' _ _ row _ _ _ o ho
  rw [h] at ho
  cases ho

theorem RecordedOk.mono (h : Calm env.graph x i l c c') (hr : RecordedOk env x i l c result) :
    RecordedOk env x i l c' result :=
  fun hx c'' h'' => hr hx c'' (h.trans h'')

theorem RecordedOk.of_cancelled (h : result.status = .cancelled) : RecordedOk env x i l c result :=
  fun _ _ _ _ _ _ _ => .inr (.inl h)

/-! ## Finalizing -/

theorem FinalStatus.succeeded (h : FinalStatus result status) (hs : status = .succeeded) :
    result.status = .succeeded := by
  unfold FinalStatus at h
  split at h <;> simp_all

theorem FinalStatus.final (h : FinalStatus result status) :
    status ≠ .running ∧ status ≠ .queued := by
  unfold FinalStatus at h
  split at h
  case h_5 => rcases h with rfl | ⟨rfl, _⟩ <;> simp
  all_goals
    rw [h]
    simp

theorem keeps_finish {attemptStatus : StageStatus} {outputs : List String} {t : Instant}
    {retries : Nat} {availableAt : Option Instant} {stageId : String}
    (hs : Serving x l c.state cfg job) (ha : AttemptSeen c.state attempt)
    (ho : OutputsOk env.graph c.state l.jobId attempt.attemptId result)
    (hrec : RecordedOk env x i l c result) (hnone : Releasing i c fun _ _ _ _ => False)
    (hstage : job.stageId = some stageId) (hstatus : FinalStatus result status)
    (hsucc : status = .succeeded → outputs = result.outputArtifactRefs)
    (hcan : status = .cancelled → outputs = []) : Keeps env x y i l (Worker.fenced (leaseOf cfg job)
      (.finalizeStage (closedAttempt attempt result attemptStatus outputs t) result status t retries
        availableAt)) (fun r c' => ∀ stored, r = .ok stored → Finalized env.graph i c' stored stageId ∧
          stored.runId = job.runId ∧ c.state.Evolves c'.state ∧
          (stored.status = .succeeded → result.status = .succeeded)) c := by
  refine keeps_fencedCall hs.presents (fun c1 h1 => ?_) (fun c1 stored s h1 htx hev hc => ?_)
    fun c1 e _ _ stored hst => by cases hst
  · refine ⟨fun row hrow hrun hatt => ?_, hstatus, fun hx => hrec hx c1 h1⟩
    refine ⟨fun a hget => ?_, hstatus.final, fun hst => ⟨hsucc hst, ?_⟩, hcan⟩
    · obtain ⟨a', hget', he⟩ := ha.mono h1.evolves
      change c1.state.getStageAttempt attempt.attemptId = some a at hget
      rw [hget] at hget'
      cases hget'
      exact he.inputArtifactRefs.symm
    · exact ho (hstatus.succeeded hst) c1.state h1.evolves h1.coherent.inv row hrow hrun hatt
  · intro stored' heq
    cases heq
    obtain ⟨row, a, cancelled, next, hrow, hh, _, _, _, _, hnext, hstored, _, _⟩ :=
      finalizeStageJob_ok htx
    have he : job.Evolves row := (hs.mono h1.evolves).evolves (hs.jobId ▸ hrow)
    have hrun : stored.runId = job.runId := by
      rw [hstored, hnext]
      exact he.runId
    have hsid : stored.stageId = some stageId := by
      rw [hstored, hnext, ← hstage]
      exact he.stageId
    have hrunSome : (c1.state.getRun row.runId).isSome :=
      (h1.coherent.inv.jobs row (getJob_mem hrow)).run
    -- the only release is this one
    have hrel := hnone.calm h1
    refine ⟨⟨hc, ?_, (hrel.imp fun _ _ _ _ _ _ h => h.elim).log fun run sid hr => hr.2.1.symm,
      (hrel.imp fun _ _ _ _ _ _ h => h.elim).log fun run sid hr => ?_,
      (hrel.imp fun _ _ _ _ _ _ h => h.elim).log fun run sid hr => hr.1, fun hst => ?_⟩, hrun,
      h1.evolves.trans hev, fun hst => hstatus.succeeded ?_⟩
    · rw [hrun, ← he.runId]
      exact hev.run_isSome hrunSome
    · obtain ⟨_, _, d, p, st, hd, hp, hst, _, _, hdep⟩ := hr
      rw [hsid] at hd
      cases hd
      exact ⟨p, st, hp, hst, hdep⟩
    · exact ⟨hst, rfl, _, _, _, _, _, _, _, Config.did_log ..⟩
    · rw [hstored, hnext] at hst
      change finalStatus cancelled status = .succeeded at hst
      unfold finalStatus at hst
      split at hst
      · cases hst
      · exact hst

theorem keeps_registerContexts (runId : String) (contexts : List ReviewCompatibilityContext)
    (hc : Coherent env.graph c) : Keeps env x y i l (registerContexts runId contexts)
      (fun _ c' => Calm env.graph x i l c c') c := by
  induction contexts generalizing c with
  | nil => exact .refl hc
  | cons context rest ih =>
    refine keeps_write rfl (fun _ _ => trivial) (fun c1 _ _ h1 _ => ?_) fun _ _ h1 => h1
    exact Contract.wp_mono (ih h1.coherent) fun _ _ h2 => h1.trans h2

/-- **`_finalize`**: the status follows from the result. -/
theorem keeps_finalize {t : Instant} {stageId : String} (hc : Coherent env.graph c)
    (hs : Serving x l c.state cfg job) (ha : AttemptSeen c.state attempt)
    (ho : OutputsOk env.graph c.state l.jobId attempt.attemptId result)
    (hrec : RecordedOk env x i l c result) (hnone : Releasing i c fun _ _ _ _ => False)
    (hstage : job.stageId = some stageId) :
    Keeps env x y i l (finalize cfg job attempt result t) (fun r c' => ∀ stored, r = .ok stored →
      Finalized env.graph i c' stored stageId ∧ stored.runId = job.runId ∧
        c.state.Evolves c'.state ∧ (stored.status = .succeeded → result.status = .succeeded)) c := by
  unfold finalize
  split <;> rename_i hst
  · exact keeps_finish hs ha ho hrec hnone hstage (by simp [FinalStatus, hst]) (fun _ => rfl)
      (by simp)
  · split
    · exact fun stored h => by cases h
    refine keeps_bind (keeps_registerContexts job.runId result.contexts hc) ?_
      fun e c1 _ stored h => by cases h
    intro _ c1 h1
    refine Contract.wp_mono (keeps_finish (hs.mono h1.evolves) (ha.mono h1.evolves)
      (ho.mono h1.evolves) (hrec.mono h1) (hnone.calm h1) hstage (by simp [FinalStatus, hst])
      (by simp) (by simp)) fun r c2 h stored hr => ?_
    obtain ⟨hf, hrun, hev, hsucc⟩ := h stored hr
    exact ⟨hf, hrun, h1.evolves.trans hev, hsucc⟩
  · exact keeps_finish hs ha ho hrec hnone hstage (by simp [FinalStatus, hst]) (by simp) (by simp)
  · exact keeps_finish hs ha ho hrec hnone hstage (by simp [FinalStatus, hst]) (by simp)
      (fun _ => rfl)
  · split
    · rename_i hretry
      exact keeps_finish hs ha ho hrec hnone hstage (by simp [FinalStatus, hst, hretry.1]) (by simp)
        (by simp)
    · exact keeps_finish hs ha ho hrec hnone hstage (by simp [FinalStatus, hst]) (by simp)
        (by simp)

theorem keeps_finalizeAfterRecord {plan : ExecutionPlan} {stage : StageSpec} {detail : String}
    (hs : Serving x l c.state cfg job) (ha : AttemptSeen c.state attempt)
    (ho : OutputsOk env.graph c.state l.jobId attempt.attemptId result)
    (hrec : RecordedOk env x i l c result) (hnone : Releasing i c fun _ _ _ _ => False)
    (hstage : job.stageId = some stage.stageId) (hk : c.state.Knows env.graph plan)
    (hrun : plan.runId = job.runId) (hgraph : y → env.graph.Layered)
    (hy : y → cfg.planAdvancer = true ∨ plan.planningPhase = .complete) :
    Keeps env x y i l (finalizeAfterRecord env cfg plan stage job attempt result detail)
      (Ends y i) c := by
  refine keeps_now fun c1 t h1 => ?_
  refine keeps_bind (keeps_finalize h1.coherent (hs.mono h1.evolves) (ha.mono h1.evolves)
    (ho.mono h1.evolves) (hrec.mono h1) (hnone.calm h1) hstage) ?_ fun e c2 _ _ v hv => by cases hv
  intro stored c2 h2
  obtain ⟨hf, hsrun, hev, _⟩ := h2 stored rfl
  refine keeps_bind (keeps_advanceAfterStage hf (hk.mono (h1.evolves.trans hev))
    (hrun.trans hsrun.symm) hgraph hy) ?_ fun e c3 _ _ v hv => by cases hv
  intro u c3 h3 hy' v hv
  exact h3 hy' u rfl

variable (i c result) in
def UnknownOk : Prop :=
  result.failureClassification = some .unknownSideEffect → result.status = .failed ∨
    ∃ key request available, c.Did i (.observe (.execute key request available)) (.ok result)

variable (env x i l c) in
/-- No result has been recorded for the held job. -/
def Unrecorded : Prop :=
  x → ∀ c', Calm env.graph x i l c c' → ∀ row, c'.state.getJob l.jobId = some row →
    holds l.workerId l.generation row = true → row.deliveryPhase ≠ .resultRecorded

theorem UnknownOk.mono {A : Act → Prop} (h : Quiet x A i l c c') (hu : UnknownOk i c result) :
    UnknownOk i c' result := by
  intro hclass
  rcases hu hclass with hf | ⟨key, request, available, hd⟩
  · exact .inl hf
  · exact .inr ⟨key, request, available, h.did hd⟩

/-- **Record, re-read, finalize.** -/
theorem keeps_recordAndFinalize {plan : ExecutionPlan} {stage : StageSpec} {detail : String}
    (hs : Serving x l c.state cfg job) (ha : AttemptSeen c.state attempt)
    (ho : OutputsOk env.graph c.state l.jobId attempt.attemptId result)
    (hfirst : Unrecorded env x i l c) (hunknown : UnknownOk i c result)
    (hnone : Releasing i c fun _ _ _ _ => False) (hstage : job.stageId = some stage.stageId)
    (hk : c.state.Knows env.graph plan) (hrun : plan.runId = job.runId)
    (hgraph : y → env.graph.Layered)
    (hy : y → cfg.planAdvancer = true ∨ plan.planningPhase = .complete) :
    Keeps env x y i l (recordAndFinalize env cfg plan stage job attempt result detail)
      (Ends y i) c := by
  refine keeps_now fun c1 t h1 => ?_
  refine keeps_fenced (hs.presents.mono h1.evolves) (fun c2 h2 => ?_)
    (fun c2 v s h2 htx hev hc => ?_)
    fun c2 e _ _ _ v hv => by cases hv
  · have h12 := h1.trans h2
    refine ⟨fun row hrow hrun' hatt hst => ?_, fun hx row hrow hh => ?_, hunknown.mono h12.toQuiet⟩
    · exact ho hst c2.state h12.evolves h2.coherent.inv row hrow hrun' hatt
    · exact hfirst hx c2 h12 row hrow hh
  have hev2 := (h1.trans h2).evolves.trans hev
  have hnone2 : Releasing i (c2.log i (.fenced (leaseOf cfg job) (.recordResult attempt result t))
      (.ok v) s) fun _ _ _ _ => False := (hnone.calm (h1.trans h2)).log fun _ _ h => h.elim
  refine keeps_read fun c3 refreshed h3 href _ => ?_
  change c3.state.getStageAttempt attempt.attemptId = refreshed at href
  -- the attempt is still there, and is the one re-read
  obtain ⟨a, hget, hea⟩ := ha.mono (hev2.trans h3.evolves)
  rw [hget] at href
  subst href
  have hid : a.attemptId = attempt.attemptId := getStageAttempt_attemptId hget
  simp only [Option.getD_some]
  have hev3 := hev2.trans h3.evolves
  refine keeps_finalizeAfterRecord (hs.mono hev3) ⟨a, by rw [hid]; exact hget, .refl a⟩
    (by rw [hid]; exact ho.mono hev3) ?_ (hnone2.calm h3) hstage (hk.mono hev3) hrun hgraph hy
  intro hx c4 h4 row hrow hh _
  obtain ⟨row2, hrow2, hheld⟩ := (h3.trans h4).held hx row hrow hh
  refine .inl (hheld.durableResult.trans ?_)
  have hnew : s.getJob l.jobId = some v := by
    rw [← hs.jobId]
    exact recordStageResult_row htx
  obtain ⟨_, _, _, _, _, _, _, _, hv, _⟩ := recordStageResult_ok htx
  cases hnew.symm.trans hrow2
  rw [hv]
  rfl

/-- **A review stage has no outputs**, and its outcome is never unknown. -/
theorem keeps_reviewStageResult (job : JobRecord) (stage : StageSpec)
    (checkpoint : ReviewCheckpoint) (hc : Coherent env.graph c) :
    Keeps env x y i l (reviewStageResult job stage checkpoint) (fun r c' =>
      Calm env.graph x i l c c' ∧ ∀ result, r = .ok result → result.outputArtifactRefs = [] ∧
        result.failureClassification ≠ some .unknownSideEffect) c := by
  have hblocked : ∀ (code reason : String) (h : code ≠ "") (c' : Scene),
      Calm env.graph x i l c c' → Calm env.graph x i l c c' ∧ ∀ result,
        (.ok (reviewBlocked code reason h) : Except Exc StageExecutionResult) = .ok result →
        result.outputArtifactRefs = [] ∧
          result.failureClassification ≠ some .unknownSideEffect := by
    intro code reason h c' hcalm
    refine ⟨hcalm, fun result heq => ?_⟩
    cases heq
    exact ⟨rfl, by simp [reviewBlocked]⟩
  refine keeps_bind (keeps_checks (only_upstreamArtifacts _) hc) ?_
    fun e c1 h1 => ⟨h1.1, fun _ h => by cases h⟩
  rintro upstream c1 ⟨h1, -⟩
  refine keeps_observe rfl (fun c2 derivation h2 _ => ?_)
    fun c2 e h2 => ⟨h1.trans h2, fun _ h => by cases h⟩
  have h12 := h1.trans h2
  dsimp only
  split
  · exact hblocked _ _ _ c2 h12
  · rename_i context rest _
    split
    · exact hblocked _ _ _ c2 h12
    refine keeps_bind (keeps_registerContexts job.runId (context :: rest) h2.coherent) ?_
      fun e c3 h3 => ⟨h12.trans h3, fun _ h => by cases h⟩
    intro _ c3 h3
    refine keeps_bind (keeps_checks (only_reviewsAccepted (context :: rest)) h3.coherent) ?_
      fun e c4 h4 => ⟨(h12.trans h3).trans h4.1, fun _ h => by cases h⟩
    rintro accepted c4 ⟨h4, -⟩
    have h14 := (h12.trans h3).trans h4
    split
    · refine ⟨h14, fun result h => ?_⟩
      cases h
      exact ⟨rfl, by simp⟩
    · refine ⟨h14, fun result h => ?_⟩
      cases h
      unfold reviewWaiting
      split <;> exact ⟨rfl, by simp⟩

/-! ## The handler -/

/-- Iteration `i` has not invoked the handler. -/
def NoExecute (i : Nat) (c : Scene) : Prop :=
  ∀ key request available r, ¬ c.Did i (.observe (.execute key request available)) r

theorem NoExecute.calm (h : Calm env.graph x i l c c') (hn : NoExecute i c) : NoExecute i c' := by
  obtain ⟨new, ht, hcalm⟩ := h.trace
  rintro key request available r ⟨s, hs⟩
  rw [ht, mem_append] at hs
  rcases hs with hs | hs
  · have := hcalm _ hs rfl
    cases this
  · exact hn key request available r ⟨s, hs⟩

theorem NoExecute.log {a : Act} {r : Except Exc a.Reply} (hn : NoExecute i c)
    (ha : ∀ key request available, a ≠ .observe (.execute key request available)) :
    NoExecute i (c.log i a r s) := by
  rintro key request available r' ⟨s', hs⟩
  rcases mem_cons.mp hs with heq | hs
  · exact ha key request available (congrArg Entry.act heq).symm
  · exact hn key request available r' ⟨s', hs⟩

variable (job attempt) in
theorem keeps_verifyOutputs (outputs : List String) (hc : Coherent env.graph c) :
    Keeps env x y i l (verifyOutputs job attempt outputs) (fun r c' => Calm env.graph x i l c c' ∧
      (r = .ok () → c'.state.GoodOutputs job.runId job.stageId attempt.attemptId outputs)) c := by
  induction outputs generalizing c with
  | nil => exact ⟨.refl hc, fun _ o ho => by cases ho⟩
  | cons artifactId rest ih =>
    refine keeps_read fun c1 v h1 hv _ => ?_
    change c1.state.getArtifact artifactId = v at hv
    cases v with
    | none => exact ⟨h1, fun h => by cases h⟩
    | some artifact =>
      dsimp only
      split
      swap
      · exact ⟨h1, fun h => by cases h⟩
      rename_i hreg
      split
      swap
      · exact ⟨h1, fun h => by cases h⟩
      rename_i hpub
      refine keeps_observe rfl (fun c2 _ h2 _ => ?_) fun c2 e h2 => ⟨h1.trans h2, fun h => by cases h⟩
      refine keeps_observe rfl (fun c3 _ h3 _ => ?_)
        fun c3 e h3 => ⟨(h1.trans h2).trans h3, fun h => by cases h⟩
      have h13 := (h1.trans h2).trans h3
      split
      swap
      · exact ⟨h13, fun h => by cases h⟩
      refine Contract.wp_mono (ih h3.coherent) fun r c4 ⟨h4, hgood⟩ => ?_
      refine ⟨h13.trans h4, fun hr o ho => ?_⟩
      rcases mem_cons.mp ho with rfl | ho
      · exact ⟨artifact, ((h2.trans h3).trans h4).evolves.getArtifact hv, hreg.1, hreg.2.1, hreg.2.2,
          hpub⟩
      · exact hgood hr o ho

theorem keeps_isCancelled (runId jobId : String) : Keeps env x y i l (isCancelled runId jobId)
    (fun r c' => Calm env.graph x i l c c' ∧ ∃ b, r = .ok b) c := by
  refine keeps_read fun c1 _ h1 _ _ => ?_
  exact keeps_read fun c2 _ h2 _ _ => ⟨h1.trans h2, _, rfl⟩

variable (env x i l c c') in
/-- What is known once the handler has been called. -/
structure Delivered : Prop where
  quiet : Quiet x (fun _ => True) i l c c'
  coherent : Coherent env.graph c'
  noRelease : Releasing i c' fun _ _ _ _ => False

theorem Delivered.calm {c'' : Scene} (hd : Delivered env x i l c c')
    (h : Calm env.graph x i l c' c'') : Delivered env x i l c c'' :=
  ⟨hd.quiet.trans (h.toQuiet.imp fun _ _ => trivial), h.coherent, hd.noRelease.calm h⟩

/-- **What becomes of the handler's result**: a success has its outputs published. -/
theorem keeps_handlerResult {handlerKey : String} {request : StageExecutionRequest}
    (hs : Serving x l c.state cfg job) (hnone : Releasing i c fun _ _ _ _ => False)
    (hsound : ∀ c', Calm env.graph x i l c c' → SoundExecute x i l c' request) :
    Keeps env x y i l (handlerResult cfg job attempt handlerKey request) (fun r c' =>
      Delivered env x i l c c' ∧ ∀ result, r = .ok result →
        OutputsOk env.graph c'.state l.jobId attempt.attemptId result ∧ UnknownOk i c' result) c := by
  intro c1 hrely hi1 ω r s he
  have h1 := Calm.of_rely hrely hi1
  have hs1 : s = c1.state := (congrArg Prod.snd he).symm
  subst hs1
  refine ⟨hsound c1 h1, fun _ hi2 => ?_⟩
  have hdel : Delivered env x i l c (c1.log i (.observe (.execute handlerKey request
      (cfg.handlerAvailable handlerKey))) r c1.state) := by
    refine ⟨(hrely.imp fun _ h => h.elim).trans ⟨.refl _, ⟨[_], rfl, fun _ _ _ => trivial⟩,
      fun _ => .refl l _⟩, hi2, (hnone.calm h1).log fun _ _ h => ?_⟩
    cases r <;> exact h
  have hdid := c1.did_log i (.observe (.execute handlerKey request
    (cfg.handlerAvailable handlerKey))) r c1.state
  generalize c1.log i (.observe (.execute handlerKey request
    (cfg.handlerAvailable handlerKey))) r c1.state = c2 at hdel hdid
  clear he hi2
  cases r with
  | error e => exact ⟨hdel, fun _ h => by cases h⟩
  | ok result =>
    have hfail : ∀ (e : Exc) (c' : Scene), Calm env.graph x i l c2 c' →
        Delivered env x i l c c' ∧ ∀ result', (.error e : Except Exc StageExecutionResult) =
          .ok result' → OutputsOk env.graph c'.state l.jobId attempt.attemptId result' ∧
            UnknownOk i c' result' :=
      fun e c' h => ⟨hdel.calm h, fun _ hr => by cases hr⟩
    -- a result that has not succeeded, and either is the handler's or has a known outcome
    have hother : ∀ (result' : StageExecutionResult) (c' : Scene), Calm env.graph x i l c2 c' →
        result'.status ≠ .succeeded →
        (result' = result ∨ result'.failureClassification ≠ some .unknownSideEffect) →
        Delivered env x i l c c' ∧ ∀ result'', (.ok result' : Except Exc StageExecutionResult) =
          .ok result'' → OutputsOk env.graph c'.state l.jobId attempt.attemptId result'' ∧
            UnknownOk i c' result'' := by
      intro result' c' h hne hu
      refine ⟨hdel.calm h, fun result'' hr => ?_⟩
      cases hr
      refine ⟨.of_status hne, fun hclass => ?_⟩
      rcases hu with rfl | hu
      · exact .inr ⟨_, _, _, h.did hdid⟩
      · exact absurd hclass hu
    refine keeps_now fun c3 t h3 => ?_
    refine keeps_heartbeat (hs.presents.mono (hdel.quiet.evolves.trans h3.evolves))
      (fun c4 _ h4 => ?_)
      fun c4 e h4 => hfail e c4 (h3.trans h4)
    refine keeps_bind (keeps_isCancelled job.runId job.jobId) ?_
      fun e c5 ⟨h5, _⟩ => hfail e c5 ((h3.trans h4).trans h5)
    rintro b c5 ⟨h5, _⟩
    have h35 := (h3.trans h4).trans h5
    split
    · exact hother _ c5 h35 (by simp [cancelledResult]) (.inr (by simp [cancelledResult]))
    split
    swap
    · rename_i hst
      exact hother result c5 h35 (fun h => hst (.inl h)) (.inl rfl)
    refine keeps_tryCatch (P := fun r c' => Calm env.graph x i l c2 c' ∧ ∀ result', r = .ok result' →
        result' = result ∧ c'.state.GoodOutputs job.runId job.stageId attempt.attemptId
          result.outputArtifactRefs) ?_ ?_ ?_
    · refine keeps_bind (keeps_verifyOutputs job attempt result.outputArtifactRefs h5.coherent) ?_
        fun e c6 ⟨h6, _⟩ => ⟨h35.trans h6, fun _ h => by cases h⟩
      rintro _ c6 ⟨h6, hgood⟩
      refine ⟨h35.trans h6, fun result' h => ?_⟩
      cases h
      exact ⟨rfl, hgood rfl⟩
    · rintro result' c6 ⟨h6, hgood⟩
      obtain ⟨rfl, hgood⟩ := hgood result' rfl
      refine ⟨hdel.calm h6, fun result'' hr => ?_⟩
      cases hr
      refine ⟨fun _ s' hev _ row hrow _ _ => ?_, fun _ => .inr ⟨_, _, _, h6.did hdid⟩⟩
      -- the row is the job that was read
      have he := (hs.mono ((hdel.calm h6).quiet.evolves.trans hev)).evolves hrow
      rw [he.runId, he.stageId]
      exact hgood.mono hev
    · rintro e c6 ⟨h6, _⟩
      split
      · exact hother _ c6 h6 (by simp) (.inr (by simp))
      · exact hfail e c6 h6

/-! ## The stage -/

variable (env x i l c cfg) in
/-- What an iteration knows of its stage once it has an attempt and has re-read
its job. -/
structure Started (plan : ExecutionPlan) (stage : StageSpec) (job : JobRecord)
    (attempt : StageAttemptRecord) : Prop where
  coherent : Coherent env.graph c
  serving : Serving x l c.state cfg job
  attemptSeen : AttemptSeen c.state attempt
  knows : c.state.Knows env.graph plan
  planRun : plan.runId = job.runId
  stageOf : plan.stage stage.stageId = some stage
  jobStage : job.stageId = some stage.stageId
  planRead : c.Did i (.read (.executionPlan job.runId)) (.ok (some plan))
  attemptOf : attempt.runId = job.runId ∧ attempt.stageId = stage.stageId
  noExecute : NoExecute i c
  noRelease : Releasing i c fun _ _ _ _ => False
  held : x → ∀ c', Calm env.graph x i l c c' → ∀ row, c'.state.getJob l.jobId = some row →
    holds l.workerId l.generation row = true →
    row.deliveryPhase = job.deliveryPhase ∧ row.attemptId = some attempt.attemptId ∧
      row.durableResult = job.durableResult
  recorded : job.deliveryPhase = .resultRecorded → ∀ result, job.durableResult = some result →
    OutputsOk env.graph c.state l.jobId attempt.attemptId result

section Stage
variable {cfg : WorkerConfig} {plan : ExecutionPlan} {stage : StageSpec} {job : JobRecord}
  {attempt : StageAttemptRecord}

theorem Started.calm (h : Calm env.graph x i l c c')
    (hs : Started env x i l c cfg plan stage job attempt) :
    Started env x i l c' cfg plan stage job attempt where
  coherent := h.coherent
  serving := hs.serving.mono h.evolves
  attemptSeen := hs.attemptSeen.mono h.evolves
  knows := hs.knows.mono h.evolves
  planRun := hs.planRun
  stageOf := hs.stageOf
  jobStage := hs.jobStage
  planRead := h.did hs.planRead
  attemptOf := hs.attemptOf
  noExecute := hs.noExecute.calm h
  noRelease := hs.noRelease.calm h
  held hx c'' h'' := hs.held hx c'' (h.trans h'')
  recorded hph result hres := (hs.recorded hph result hres).mono h.evolves

theorem Started.unrecorded (hs : Started env x i l c cfg plan stage job attempt)
    (hph : job.deliveryPhase ≠ .resultRecorded) : Unrecorded env x i l c := by
  intro hx c' h row hrow hh
  rw [(hs.held hx c' h row hrow hh).1]
  exact hph

variable {result : StageExecutionResult}

section
variable (hs : Started env x i l c cfg plan stage job attempt)
include hs

theorem Started.recordedOk (hph : job.deliveryPhase ≠ .resultRecorded) :
    RecordedOk env x i l c result :=
  fun hx c' h row hrow hh hrec => absurd hrec (hs.unrecorded hph hx c' h row hrow hh)

theorem keeps_exit {t : Instant} {outcome : JobRecord → WorkerOutcome} (hst : result.status ≠ .succeeded)
    (hrec : RecordedOk env x i l c result) {after : Worker Unit}
    (hafter : ∀ c', Coherent env.graph c' → Keeps env x y i l after
      (fun _ c'' => Calm env.graph x i l c' c'') c') :
    Keeps env x y i l ((finalize cfg job attempt result t).bind fun stored =>
      after.bind fun _ => pure (outcome stored)) (Ends y i) c := by
  refine keeps_bind (keeps_finalize hs.coherent hs.serving hs.attemptSeen (.of_status hst) hrec
    hs.noRelease hs.jobStage) ?_ fun e c1 _ _ v hv => by cases hv
  intro stored c1 h1
  obtain ⟨hf, _, _, hsucc⟩ := h1 stored rfl
  refine keeps_bind (hafter c1 hf.coherent) ?_ fun e c2 _ _ v hv => by cases hv
  intro _ c2 h2 _ v _ e t run stageId hsuf hi hrel
  exact absurd (hsucc ((hf.succeeded.calm h2) e t run stageId hsuf hi hrel)) hst

/-- **The delivery to the handler.** -/
theorem keeps_deliver {run : RunRecord} {claimedAt : Instant} (hsat : c.state.Satisfied plan stage)
    (hrunRead : c.Did i (.read (.run job.runId)) (.ok (some run))) (hrun : run.status ≠ .cancelled)
    (hph : job.deliveryPhase ≠ .resultRecorded)
    (hsafe : job.deliveryPhase = .handlerDeliveryStarted → job.replaySafety = .replaySafe)
    (hgraph : y → env.graph.Layered)
    (hy : y → cfg.planAdvancer = true ∨ plan.planningPhase = .complete) :
    Keeps env x y i l (deliver env cfg plan stage job attempt run claimedAt) (Ends y i) c := by
  refine keeps_bind (keeps_setRunStatus job.runId .running false (by simp) (by simp)) ?_
    fun e c1 _ _ v hv => by cases hv
  intro _ c1 h1
  refine keeps_heartbeat (hs.serving.presents.mono h1.evolves) (fun c2 refreshed h2 => ?_)
    fun c2 e _ _ v hv => by cases hv
  refine keeps_now fun c3 t h3 => ?_
  have h13 := (h1.trans h2).trans h3
  have hs3 := hs.calm h13
  refine keeps_fenced hs3.serving.presents (fun c4 h4 => ?_)
    (fun c4 marked s h4 htx hev hc5 => ?_) fun c4 e _ _ _ v hv => by cases hv
  · intro hx row hrow hh
    obtain ⟨hphase, _, _⟩ := hs3.held hx c4 h4 row hrow hh
    refine ⟨by rw [hphase]; exact hph, fun hstarted => ?_⟩
    rw [((hs3.serving.mono h4.evolves).evolves hrow).replaySafety]
    exact hsafe (hphase ▸ hstarted)
  have hs4 := hs3.calm h4
  have hev5 : c.state.Evolves s := (h13.trans h4).evolves.trans hev
  obtain ⟨row, attemptId, hrow, hh, _, hatt, _, hmarked, _⟩ :=
    markHandlerDeliveryStarted_ok htx
  have hrow4 : c4.state.getJob l.jobId = some row := hs.serving.jobId ▸ hrow
  have hnew : s.getJob l.jobId = some marked :=
    hs.serving.jobId ▸ markHandlerDeliveryStarted_row htx
  have hmarkedAttempt : x → marked.attemptId = some attempt.attemptId := by
    intro hx
    rw [hmarked]
    exact (hs3.held hx c4 h4 row hrow4 (hs4.serving.presents.holds hx hrow4 hh)).2.1
  generalize hlog : c4.log i (.fenced (leaseOf cfg job) (.markHandlerDeliveryStarted t))
    (.ok marked) s = c5 at hc5 ⊢
  have hnone5 : Releasing i c5 fun _ _ _ _ => False := hlog ▸ hs4.noRelease.log fun _ _ h => h.elim
  have hnox5 : NoExecute i c5 := hlog ▸ hs4.noExecute.log fun _ _ _ h => by cases h
  have hdid5 : c5.Did i (.fenced (leaseOf cfg job) (.markHandlerDeliveryStarted t)) (.ok marked) :=
    hlog ▸ c4.did_log ..
  have hplan5 : c5.Did i (.read (.executionPlan job.runId)) (.ok (some plan)) := hlog ▸ hs4.planRead.log
  have hrunRead5 : c5.Did i (.read (.run job.runId)) (.ok (some run)) :=
    hlog ▸ ((h13.trans h4).did hrunRead).log
  obtain rfl : c5.state = s := hlog ▸ rfl
  refine keeps_read fun c6 v h6 hv _ => ?_
  change c6.state.getStageAttempt attempt.attemptId = v at hv
  have hev6 := hev5.trans h6.evolves
  obtain ⟨a, hget, hea⟩ := hs.attemptSeen.mono hev6
  rw [hget] at hv
  subst hv
  simp only [Option.getD_some]
  have haid : a.attemptId = attempt.attemptId := getStageAttempt_attemptId hget
  have hserving6 := hs.serving.mono hev6
  -- once marked, the held job stays in delivery until this iteration records
  have hheld : x → ∀ c' : Scene, Store.Held l c6.state c'.state →
      ∀ row, c'.state.getJob l.jobId = some row →
      holds l.workerId l.generation row = true → row.deliveryPhase ≠ .resultRecorded := by
    intro hx c' hheld row' hrow' hh'
    obtain ⟨row5, hrow5, hh5⟩ := ((h6.held hx).trans hheld) row' hrow' hh'
    cases hnew.symm.trans hrow5
    rw [hh5.phase, hmarked]
    simp [markRow]
  refine keeps_bind (keeps_tryCatch (P := fun r c' => Delivered env x i l c6 c' ∧ ∀ result,
      r = .ok result → OutputsOk env.graph c'.state l.jobId a.attemptId result ∧ UnknownOk i c' result)
    (Q := fun r c' => Delivered env x i l c6 c' ∧ ∀ result,
      r = .ok result → OutputsOk env.graph c'.state l.jobId a.attemptId result ∧ UnknownOk i c' result)
    (keeps_handlerResult hserving6 (hnone5.calm h6) fun c7 h7 => ?_) (fun _ _ h => h) ?_) ?_
    fun e c7 _ _ v hv => by cases hv
  · obtain ⟨a7, hget7, hea7⟩ := hs.attemptSeen.mono (hev6.trans h7.evolves)
    refine ⟨hs.serving.jobId, ⟨plan, stage, (h6.trans h7).did hplan5, hs.planRun, hs.stageOf,
      hsat.mono (hev6.trans h7.evolves)⟩, ⟨a7, hget7, hea7.runId.trans hs.attemptOf.1,
      hea7.stageId.trans hs.attemptOf.2, hea7.inputArtifactRefs⟩,
      ⟨run, (h6.trans h7).did hrunRead5, hrun⟩, ⟨_, _, marked, (h6.trans h7).did hdid5,
      hs.serving.jobId, hmarkedAttempt⟩, fun key request' available => ?_⟩
    exact (hnox5.calm (h6.trans h7)) key request' available
  · rintro e c7 ⟨hdel, _⟩
    split
    · exact ⟨hdel, fun _ h => by cases h⟩
    · refine ⟨hdel, fun result h => ?_⟩
      cases h
      exact ⟨.of_status (by simp [unknownOutcome]), fun _ => .inl rfl⟩
  · rintro result c7 ⟨hdel, hres⟩
    obtain ⟨hout, hunknown⟩ := hres result rfl
    have hev7 := hev6.trans hdel.quiet.evolves
    refine keeps_recordAndFinalize (hs.serving.mono hev7) ?_ hout ?_ hunknown hdel.noRelease
      hs.jobStage (hs.knows.mono hev7) hs.planRun hgraph hy
    · obtain ⟨a7, hget7, hea7⟩ := hdel.quiet.evolves.getStageAttempt hget
      exact ⟨a7, by rw [haid]; exact hget7, hea7⟩
    · intro hx c8 h8
      exact hheld hx c8 ((hdel.quiet.held hx).trans (h8.held hx))

theorem Started.recovered
    (fallback : StageExecutionResult) (hph : job.deliveryPhase = .resultRecorded)
    (hfallback : fallback.status ≠ .succeeded) :
    OutputsOk env.graph c.state l.jobId attempt.attemptId (job.durableResult.getD fallback) ∧
      RecordedOk env x i l c (job.durableResult.getD fallback) := by
  constructor
  · cases hres : job.durableResult with
    | none => exact .of_status hfallback
    | some result => exact hs.recorded hph result hres
  · intro hx c' h row hrow hh hrec
    obtain ⟨hrun, _, _⟩ := holds_iff.mp hh
    obtain ⟨_, _, hdur⟩ := hs.held hx c' h row hrow hh
    have hkind : row.jobKind = .stage :=
      ((hs.serving.mono h.evolves).evolves hrow).jobKind.trans hs.serving.kind
    obtain ⟨_, result, _, hres, _⟩ :=
      (h.coherent.inv.jobs row (getJob_mem hrow)).recorded hkind hrun hrec
    rw [hdur] at hres
    rw [hdur, hres]
    exact .inl rfl

/-- **The early exits of `_run_stage` and the delivery.** -/
theorem keeps_runPlannedStage {claimedAt : Instant} (hgraph : y → env.graph.Layered)
    (hy : y → cfg.planAdvancer = true ∨ plan.planningPhase = .complete) :
    Keeps env x y i l (runPlannedStage env cfg plan stage job attempt claimedAt) (Ends y i) c := by
  refine keeps_bind (keeps_dependenciesSucceeded plan stage.stageId hs.coherent) ?_
    fun e c1 _ _ v hv => by cases hv
  rintro ready c1 ⟨h1, b, hb, hdeps, _⟩
  cases hb
  have hs1 := hs.calm h1
  have hcancel : ∀ c', Calm env.graph x i l c1 c' → Keeps env x y i l
      ((finalize cfg job attempt (cancelledResult
        "run cancellation was observed before stage execution") claimedAt).bind fun stored =>
          pure (WorkerOutcome.of stored "stage cancelled before execution")) (Ends y i) c' := by
    intro c' h'
    have hafter : ∀ c'', Coherent env.graph c'' → Keeps env x y i l (pure ())
        (fun _ c''' => Calm env.graph x i l c'' c''') c'' := fun c'' hc'' => .refl hc''
    exact keeps_exit (hs1.calm h') (by simp [cancelledResult]) (.of_cancelled rfl) hafter
  split
  swap
  · refine keeps_exit hs1 (by simp [reviewBlocked]) ?_ fun c' _ =>
      keeps_setRunStatus job.runId .blocked false (by simp) (by simp)
    exact fun _ _ _ _ _ _ _ => .inr (.inr ⟨rfl, rfl⟩)
  rename_i hready
  obtain ⟨st, hst, hsat⟩ := hdeps hready
  rw [hs.stageOf] at hst
  cases hst
  refine keeps_read fun c2 v h2 hrun hread => ?_
  change c2.state.getRun job.runId = v at hrun
  have hs2 := hs1.calm h2
  cases v with
  | none => exact hcancel c2 h2
  | some run =>
    dsimp only
    split
    · exact hcancel c2 h2
    rename_i hlive
    split
    · rename_i hph
      obtain ⟨hout, hrec⟩ := hs2.recovered
        (unknownOutcome "RECONCILIATION_REQUIRED"
          "durable result marker has no durable result payload" [] (by decide)) hph
        (by simp [unknownOutcome])
      exact keeps_finalizeAfterRecord hs2.serving hs2.attemptSeen hout hrec hs2.noRelease
        hs2.jobStage hs2.knows hs2.planRun hgraph hy
    · rename_i hph
      exact keeps_finalizeAfterRecord hs2.serving hs2.attemptSeen
        (.of_status (by simp [unknownOutcome])) (hs2.recordedOk (by rw [hph]; simp)) hs2.noRelease
        hs2.jobStage hs2.knows hs2.planRun hgraph hy
    · rename_i phase hnr hnq
      have hph : job.deliveryPhase ≠ .resultRecorded := hnr
      split
      · refine keeps_bind (keeps_reviewStageResult job stage _ hs2.coherent) ?_
          fun e c3 _ _ v hv => by cases hv
        rintro result c3 ⟨h3, hres⟩
        obtain ⟨hempty, hclass⟩ := hres result rfl
        have hs3 := hs2.calm h3
        exact keeps_recordAndFinalize hs3.serving hs3.attemptSeen (.of_empty hempty)
          (hs3.unrecorded hph) (fun h => absurd h hclass) hs3.noRelease hs3.jobStage hs3.knows
          hs3.planRun hgraph hy
      · split
        · exact keeps_recordAndFinalize hs2.serving hs2.attemptSeen
            (.of_status (by simp [unknownOutcome])) (hs2.unrecorded hph) (fun _ => .inl rfl)
            hs2.noRelease hs2.jobStage hs2.knows hs2.planRun hgraph hy
        · rename_i hsafe
          refine keeps_deliver hs2 (hsat.mono h2.evolves) hread (fun h => hlive (.inr h)) hph
            (fun hstarted => ?_) hgraph hy
          by_contra hne
          exact hsafe ⟨hstarted, hne⟩

end

end Stage

/-! ## The iteration -/

variable (env i l c cfg) in
/-- An iteration that has just claimed its job. -/
structure Claimed (claimed : JobRecord) : Prop where
  coherent : Coherent env.graph c
  lease : leaseOf cfg claimed = l
  row : c.state.getJob l.jobId = some claimed
  noExecute : NoExecute i c
  noRelease : Releasing i c fun _ _ _ _ => False

variable {s : Store} {cfg : WorkerConfig}

theorem Claimed.presents {claimed : JobRecord} (h : Claimed env i l c cfg claimed) :
    Presents x l s (leaseOf cfg claimed) := by
  rw [h.lease]
  exact .refl x l s

/-- The job that is re-read is presented under the lease of its claim, unless the
worker has claimed it again. -/
theorem Presents.reread {job : JobRecord} (hworker : cfg.workerId = l.workerId)
    (hjob : s.getJob l.jobId = some job)
    (hown : x → job.leaseOwner = some l.workerId → job.leaseGeneration = l.generation) :
    Presents x l s (leaseOf cfg job) := by
  refine ⟨getJob_jobId hjob, hworker, fun hx s' hev row hrow hh => ?_⟩
  obtain ⟨_, howner, hgen⟩ := holds_iff.mp hh
  have he := hev.job hjob hrow
  -- at an equal generation the owner has not changed, except to nobody
  rcases he.owner hgen with heq | hnone
  · exact hown hx (heq.symm.trans howner)
  · cases hnone.symm.trans howner

theorem Store.Inv.planned {graph : StageGraph} (hi : s.Inv graph) {j : JobRecord}
    (hj : j ∈ s.jobs.rows) (hk : j.jobKind = .stage) : ∃ p st, s.getExecutionPlan j.runId = some p ∧
      p.stage (j.stageId.getD "") = some st ∧ j.stageId = some st.stageId := by
  obtain ⟨stageId, p, st, hid, _, hp, hst, _⟩ := (hi.jobs j hj).stage hk
  refine ⟨p, st, hp, by rw [hid]; exact hst, ?_⟩
  rw [hid, ExecutionPlan.stage_stageId hst]

/-- The attempt a job that is still at work on has not been finalized since. -/
theorem Store.Inv.still_current {graph : StageGraph} {s' : Store} (hi : s.Inv graph)
    (hi' : s'.Inv graph) (hev : s.Evolves s') {attemptId : String} {a : StageAttemptRecord}
    (ha : s.getStageAttempt attemptId = some a) {job : JobRecord} (hjob : job ∈ s.jobs.rows)
    (hrun : job.runId = a.runId) (hstage : job.stageId = some a.stageId) {row : JobRecord}
    (hrow : row ∈ s'.jobs.rows) (hst : row.status = .running)
    (hatt : row.attemptId = some attemptId) :
    job.status = .running ∧ job.attemptId = some attemptId := by
  refine hi.current_attempt ha (fun hfin => ?_) hjob hrun hstage
  obtain ⟨a', ha', he⟩ := hev.getStageAttempt ha
  rw [he.finalized hfin] at ha'
  exact hi'.not_finalized hrow hst hatt ha' hfin

/-- The others cannot change what iteration `i` did last. -/
theorem Rereads.quiet (h : Quiet x (fun _ => False) i l c c') (hr : Rereads i c) : Rereads i c' := by
  obtain ⟨new, ht, hothers⟩ := h.trace
  have hnone : (new.find? fun e => e.tid = i) = none :=
    find?_eq_none.mpr fun e he hi => hothers e he (by simpa using hi)
  unfold Rereads at hr ⊢
  rw [ht, find?_append, hnone, Option.none_or]
  exact hr

/-- **`_run_stage` keeps the contract.** -/
theorem keeps_runStage {claimed : JobRecord} {claimedAt : Instant}
    (hcl : Claimed env i l c cfg claimed) (hkind : claimed.jobKind = .stage)
    (hgraph : y → env.graph.Layered)
    (hy : y → cfg.planAdvancer = true ∨ ∃ p, c.state.getExecutionPlan claimed.runId = some p ∧
      p.planningPhase = .complete) :
    Keeps env x y i l (runStage env cfg claimed claimedAt) (Ends y i) c := by
  refine keeps_read fun c1 plan? h1 hplan hread => ?_
  change c1.state.getExecutionPlan claimed.runId = plan? at hplan
  have hjobId : claimed.jobId = l.jobId := congrArg Lease.jobId hcl.lease
  refine keeps_fenced hcl.presents (fun _ _ => trivial)
    (fun c2 attempt s h2 htx hev hc3 => ?_) fun c2 e _ _ _ v hv => by cases hv
  have h12 := h1.trans h2
  obtain ⟨row3, hrow3, hrun3, hatt3, hget3⟩ := ensureStageAttempt_row htx
  rw [hcl.lease] at hrow3
  have hev3 : c.state.Evolves s := h12.evolves.trans hev
  generalize hlog : c2.log i (.fenced (leaseOf cfg claimed) (.ensureAttempt claimedAt)) (.ok attempt)
    s = c3 at hc3 ⊢
  have hnone3 : Releasing i c3 fun _ _ _ _ => False :=
    hlog ▸ (hcl.noRelease.calm h12).log fun _ _ h => h.elim
  have hnox3 : NoExecute i c3 := hlog ▸ (hcl.noExecute.calm h12).log fun _ _ _ h => by cases h
  have hread3 : c3.Did i (.read (.executionPlan claimed.runId)) (.ok plan?) :=
    hlog ▸ (h2.did hread).log
  have hlast3 : Rereads i c3 := by
    rw [← hlog]
    simp [Rereads, Config.log, Record.ensuresAttempt]
  obtain rfl : c3.state = s := hlog ▸ rfl
  refine keeps_readLast fun c0 v hq h0 h4 hjob hassume => ?_
  have huncontested : x → ∀ row, c0.state.getJob l.jobId = some row →
      row.leaseOwner = some l.workerId → row.leaseGeneration = l.generation :=
    fun hx => hassume hx (.quiet hq hlast3)
  have hstate4 : (c0.log i (.read (.job claimed.jobId)) (.ok v) c0.state).state = c0.state := rfl
  generalize c0.log i (.read (.job claimed.jobId)) (.ok v) c0.state = c4 at h4 hstate4 ⊢
  rw [← hstate4] at hjob huncontested
  change c4.state.getJob claimed.jobId = v at hjob
  rw [hjobId] at hjob
  cases v with
  | none => exact fun _ v hv => by cases hv
  | some job =>
    -- the job and the plan that were read belong to the claimed job
    obtain ⟨row1, hrow1, he1⟩ := h1.evolves.getJob hcl.row
    obtain ⟨p, st, hp, hst, hsid⟩ := h1.coherent.inv.planned (getJob_mem hrow1)
      (he1.jobKind.trans hkind)
    rw [he1.runId, hplan] at hp
    subst hp
    rw [he1.stageId] at hst hsid
    simp only [Option.bind_some, hst]
    have heJob := (hev3.trans h4.evolves).job hcl.row hjob
    have he4 := h4.evolves.job hrow3 hjob
    obtain ⟨a, ha, harun, hastage⟩ := (hc3.inv.jobs row3 (getJob_mem hrow3)).attempt hatt3
    rw [hget3] at ha
    cases ha
    have hknows : c1.state.Knows env.graph p := .of_stored h1.coherent.inv hplan
    have hprun : p.runId = claimed.runId := (getExecutionPlan_spec hplan).2
    have hstid : p.stage st.stageId = some st := by
      rw [ExecutionPlan.stage_stageId hst]
      exact hst
    obtain ⟨a4, hget4, hea4⟩ := h4.evolves.getStageAttempt hget3
    refine keeps_runPlannedStage ⟨h4.coherent, ⟨.reread (congrArg Lease.workerId hcl.lease) hjob
      (fun hx => huncontested hx job hjob), heJob.jobKind.trans hkind, job, hjob, .refl job⟩, ⟨a4, hget4, hea4⟩,
      hknows.mono ((h2.evolves.trans hev).trans h4.evolves), hprun.trans heJob.runId.symm, hstid,
      heJob.stageId.trans hsid, by rw [heJob.runId]; exact h4.did hread3,
      ⟨harun.trans he4.runId.symm, ?_⟩, hnox3.calm h4, hnone3.calm h4, ?_, ?_⟩ hgraph ?_
    · have : some attempt.stageId = some st.stageId := by
        rw [← hastage, ← he4.stageId, heJob.stageId]
        exact hsid
      exact Option.some.inj this
    · intro hx c5 h5 row5 hrow5 hh5
      obtain ⟨row', hrow', hheld⟩ := h5.held hx row5 hrow5 hh5
      rw [hjob] at hrow'
      cases hrow'
      obtain ⟨row'', hrow'', hheld'⟩ := (h4.trans h5).held hx row5 hrow5 hh5
      rw [hrow3] at hrow''
      cases hrow''
      exact ⟨hheld.phase, hheld'.attemptId.trans hatt3, hheld.durableResult⟩
    · intro hph result hres hsucc s' hev' hi' row' hrow' hrunning hatt
      have hjobmem := getJob_mem hjob
      obtain ⟨hjrun, hjatt⟩ := h4.coherent.inv.still_current hi' hev' hget4 hjobmem
        (he4.runId.trans (harun.symm.trans hea4.runId.symm))
        (he4.stageId.trans (hastage.trans (congrArg some hea4.stageId.symm)))
        (getJob_mem hrow') hrunning hatt
      obtain ⟨T, result', hT, hres', hgood⟩ := (h4.coherent.inv.jobs job hjobmem).recorded
        (heJob.jobKind.trans hkind) hjrun hph
      rw [hjatt] at hT
      cases hT
      rw [hres] at hres'
      cases hres'
      have he' := hev'.job hjob hrow'
      rw [he'.runId, he'.stageId]
      exact (hgood hsucc).mono hev'
    · intro hy'
      rcases hy hy' with hadv | ⟨q, hq, hcomplete⟩
      · exact .inl hadv
      · obtain ⟨q', hq', heq⟩ := h1.evolves.getExecutionPlan hq
        rw [hplan] at hq'
        cases hq'
        rw [heq.complete hcomplete]
        exact .inr hcomplete

end DirtyDataOlap
