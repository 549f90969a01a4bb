import DirtyDataOlap.DeliveryRules

/-!
# Commands

What `_run_command` does under the contract, and with it every iteration
(`keeps_runClaimed`).
-/
namespace DirtyDataOlap

variable {env : Env} {x y : Prop} {i : Nat} {l : Lease} {c c' : Scene}

theorem Ends.of_none {α : Type} {r : Except Exc α}
    (h : Releasing i c fun _ _ _ _ => False) : Ends y i r c :=
  fun _ _ _ e t run stageId hsuf hi hrel => (h e t run stageId hsuf hi hrel).elim

variable {cfg : WorkerConfig} {claimed : JobRecord} {claimedAt : Instant}

theorem keeps_finalizeCommand {status : JobStatus} {now : Instant} {detail outcome : String}
    {code : Option String} {classification : Option FailureClassification}
    (hl : leaseOf cfg claimed = l)
    (hs : ∀ c', Calm env.graph x i l c c' → SoundCommand i l c' status code)
    (hnone : Releasing i c fun _ _ _ _ => False) :
    Keeps env x y i l ((Worker.fenced (leaseOf cfg claimed)
      (.finalizeCommand status now detail code classification)).bind fun stored =>
        pure (WorkerOutcome.of stored outcome)) (Ends y i) c := by
  refine keeps_fenced (hl ▸ .refl x _ _) (fun c1 h1 => hs c1 h1) (fun c1 v s h1 _ _ _ => ?_)
    fun c1 e _ _ _ v hv => by cases hv
  exact Ends.of_none ((hnone.calm h1).log fun _ _ h => h.elim)

structure Commanded (l : Lease) (s : Store) (cfg : WorkerConfig) (claimed : JobRecord) : Prop where
  lease : leaseOf cfg claimed = l
  kind : claimed.jobKind = .command
  seen : ∃ row, s.getJob l.jobId = some row ∧ claimed.Evolves row

theorem Commanded.mono {s s' : Store} (h : s.Evolves s') (hc : Commanded l s cfg claimed) :
    Commanded l s' cfg claimed := by
  obtain ⟨row, hrow, he⟩ := hc.seen
  obtain ⟨row', hrow', he'⟩ := h.getJob hrow
  exact ⟨hc.lease, hc.kind, row', hrow', he.trans he'⟩

theorem Commanded.row {s : Store} {row : JobRecord} (hc : Commanded l s cfg claimed)
    (hrow : s.getJob l.jobId = some row) : claimed.Evolves row := by
  obtain ⟨row', hrow', he⟩ := hc.seen
  rw [hrow] at hrow'
  cases hrow'
  exact he

theorem Commanded.sound {status : JobStatus} {code : Option String}
    (hc : Commanded l c.state cfg claimed) (hstatus : status ≠ .running)
    (hother : claimed.action.getD .submit ≠ .submit ∨ code = some "EXECUTION_PLAN_UNAVAILABLE") :
    ∀ c', Calm env.graph x i l c c' → SoundCommand i l c' status code := by
  intro c' h
  have hc' := hc.mono h.evolves
  refine ⟨fun row hrow => (hc'.row hrow).jobKind.trans hc.kind, hstatus, fun hcode row hrow hact => ?_⟩
  rw [(hc'.row hrow).action] at hact
  rcases hother with hne | heq
  · exact absurd hact hne
  · exact absurd heq hcode

theorem keeps_resumeCandidates (cfg : WorkerConfig) (runId : String) (plan : ExecutionPlan)
    (claimedAt : Instant) {listed : List JobRecord} (jobs : List JobRecord) (resumed : Nat)
    (reason : String) (hc : Coherent env.graph c)
    (hread : c.Did i (.read (.jobs runId)) (.ok listed)) (hsub : ∀ j ∈ jobs, j ∈ listed) :
    Keeps env x y i l (resumeCandidates cfg runId plan claimedAt jobs resumed reason)
      (fun _ c' => Calm env.graph x i l c c') c := by
  induction jobs generalizing c resumed reason with
  | nil => exact .refl hc
  | cons candidate rest ih =>
    have hrest : ∀ j ∈ rest, j ∈ listed := fun j hj => hsub j (List.mem_cons_of_mem _ hj)
    refine keeps_bind (keeps_checks (only_resumeBlocker candidate) hc) ?_ fun e c1 h1 => h1.1
    rintro blocked c1 ⟨h1, hok⟩
    cases blocked with
    | some blocked =>
      exact Contract.wp_mono (ih resumed _ h1.coherent (h1.did hread) hrest)
        fun _ _ h2 => h1.trans h2
    | none =>
      obtain ⟨hkind, hst⟩ := (hok _ rfl).2 rfl
      refine keeps_write rfl (fun c2 h2 => ?_) (fun c2 _ _ h2 _ => ?_) fun c2 _ h2 => h1.trans h2
      · exact ⟨runId, listed, (h1.trans h2).did hread, candidate,
          hsub candidate (List.mem_cons_self ..), rfl, hkind, hst⟩
      · exact Contract.wp_mono (ih (resumed + 1) reason h2.coherent ((h1.trans h2).did hread) hrest)
          fun _ _ h3 => (h1.trans h2).trans h3

theorem keeps_resumeCommand (hcmd : Commanded l c.state cfg claimed)
    (hnone : Releasing i c fun _ _ _ _ => False) (hact : claimed.action.getD .submit = .resume) :
    Keeps env x y i l (resumeCommand cfg claimed claimedAt) (Ends y i) c := by
  have hsub : claimed.action.getD .submit ≠ .submit := by rw [hact]; simp
  have hblocked : ∀ (detail code outcome : String) (c' : Scene), Calm env.graph x i l c c' →
      Keeps env x y i l (finalizeCommandBlocked cfg claimed claimedAt detail code outcome)
        (Ends y i) c' := fun detail code outcome c' h =>
    keeps_finalizeCommand hcmd.lease
      ((hcmd.mono h.evolves).sound (by simp) (.inl hsub)) (hnone.calm h)
  refine keeps_read fun c1 run? h1 hrun _ => ?_
  refine keeps_read fun c2 plan? h2 hplan _ => ?_
  have h12 := h1.trans h2
  cases run? with
  | none => exact hblocked _ _ _ c2 h12
  | some run =>
  cases plan? with
  | none => exact hblocked _ _ _ c2 h12
  | some plan =>
    dsimp only
    split
    · exact hblocked _ _ _ c2 h12
    refine keeps_read fun c3 jobs h3 _ hread => ?_
    refine keeps_bind (keeps_resumeCandidates cfg run.runId plan claimedAt jobs 0 _ h3.coherent hread
      fun _ h => h) ?_ fun e c4 _ _ v hv => by cases hv
    rintro ⟨resumed, reason⟩ c4 h4
    have h14 := (h12.trans h3).trans h4
    split
    · exact hblocked _ _ _ c4 h14
    refine keeps_bind (keeps_setRunStatus run.runId .running true (by simp) (by simp)) ?_
      fun e c5 _ _ v hv => by cases hv
    intro _ c5 h5
    have h15 := h14.trans h5
    exact keeps_finalizeCommand hcmd.lease
      ((hcmd.mono h15.evolves).sound (by simp) (.inl hsub)) (hnone.calm h15)

theorem ExecutionPlan.Root.satisfied {plan : ExecutionPlan} {st : StageSpec} (h : plan.Root st)
    (s : Store) : s.Satisfied plan st := by
  refine ⟨fun d hd => ?_, fun d hd hsel => ?_⟩
  · rw [h.1] at hd
    cases hd
  · rw [h.2 d hd] at hsel
    cases hsel

/-- **A submission is finalized only once the roots of its plan have jobs.** -/
theorem keeps_submitCommand (hcmd : Commanded l c.state cfg claimed)
    (hrun : (c.state.getRun claimed.runId).isSome) (hnone : Releasing i c fun _ _ _ _ => False) :
    Keeps env x y i l (submitCommand cfg claimed claimedAt) (Ends y i) c := by
  refine keeps_read fun c1 plan? h1 hplan hread => ?_
  change c1.state.getExecutionPlan claimed.runId = plan? at hplan
  cases plan? with
  | none =>
    refine keeps_bind (keeps_setRunStatus claimed.runId .blocked false (by simp) (by simp)) ?_
      fun e c2 _ _ v hv => by cases hv
    intro _ c2 h2
    exact keeps_finalizeCommand hcmd.lease
      ((hcmd.mono (h1.trans h2).evolves).sound (by simp) (.inr rfl)) (hnone.calm (h1.trans h2))
  | some plan =>
    have hprun : plan.runId = claimed.runId := (Store.getExecutionPlan_spec hplan).2
    have hknows : c1.state.Knows env.graph plan := .of_stored h1.coherent.inv hplan
    refine keeps_bind (keeps_scheduleReady plan (some claimed.jobId) h1.coherent hknows
      (by rw [hprun]; exact h1.evolves.run_isSome hrun)) ?_ fun e c2 _ _ v hv => by cases hv
    rintro scheduled c2 ⟨h2, hjobs⟩
    have h12 := h1.trans h2
    -- from here on the submission may be finalized, whatever the count
    have hsound : ∀ (status : JobStatus) (code : Option String), status ≠ .running →
        ∀ c3, Calm env.graph x i l c2 c3 → ∀ c', Calm env.graph x i l c3 c' →
          SoundCommand i l c' status code := by
      intro status code hstatus c3 h3 c' h'
      have h2' := h3.trans h'
      have hc' := hcmd.mono (h12.trans h2').evolves
      refine ⟨fun row hrow => (hc'.row hrow).jobKind.trans hcmd.kind, hstatus,
        fun _ row hrow _ => ?_⟩
      rw [(hc'.row hrow).runId]
      refine ⟨plan, (h2.trans h2').did hread, hprun, fun st hst hsel hroot => ?_⟩
      rw [← hprun]
      exact (hjobs scheduled rfl st hst hsel (hroot.satisfied _)).mono h2'.evolves
    split
    · refine keeps_bind (keeps_setRunStatus claimed.runId .blocked false (by simp) (by simp)) ?_
        fun e c3 _ _ v hv => by cases hv
      intro _ c3 h3
      exact keeps_finalizeCommand hcmd.lease (hsound _ _ (by simp) c3 h3)
        (hnone.calm (h12.trans h3))
    · exact keeps_finalizeCommand hcmd.lease
        (hsound _ _ (by simp) c2 (.refl h2.coherent)) (hnone.calm h12)

/-- **Every iteration keeps the contract.** -/
theorem keeps_runClaimed (hcl : Claimed env i l c cfg claimed) (hgraph : y → env.graph.Layered)
    (hy : y → cfg.planAdvancer = true ∨ ∃ p, c.state.getExecutionPlan claimed.runId = some p ∧
      p.planningPhase = .complete) :
    Keeps env x y i l (runClaimed env cfg claimed claimedAt) (Ends y i) c := by
  unfold runClaimed
  cases hkind : claimed.jobKind with
  | stage => exact keeps_runStage hcl hkind hgraph hy
  | command =>
    have hcmd : Commanded l c.state cfg claimed :=
      ⟨hcl.lease, hkind, claimed, hcl.row, .refl claimed⟩
    unfold runCommand
    dsimp only
    split
    · rename_i hact
      refine keeps_write rfl (fun _ _ => trivial) (fun c1 _ _ h1 _ => ?_)
        fun c1 e _ _ v hv => by cases hv
      exact keeps_finalizeCommand hcmd.lease
        ((hcmd.mono h1.evolves).sound (by simp) (.inl (by rw [hact]; simp)))
        (hcl.noRelease.calm h1)
    · rename_i hact
      exact keeps_resumeCommand hcmd hcl.noRelease hact
    · exact keeps_submitCommand hcmd
        (hcl.coherent.inv.jobs claimed (Store.getJob_mem hcl.row)).run hcl.noRelease

end DirtyDataOlap
