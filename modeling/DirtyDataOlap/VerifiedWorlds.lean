import DirtyDataOlap.CommandRules

/-!
# Every reachable world is verified

The induction over schedules.  A world is `Kept` if the invariant holds and every iteration keeps
the contract from where it is; every move keeps it.  `NotContested` and `UpToDate` are the
conditions on moves under which the contract says more: no iteration re-reads its job after its
worker has claimed it again, and every worker that claims a job advances plans or works on a
complete one.
-/
namespace DirtyDataOlap

open List Pool Store

variable {env : Env} {x y : Prop}

/-- The claim of a `run_once`. -/
def Claims (w : World) (cfg : WorkerConfig) (now : Instant) (job : JobRecord) (s : Store) : Prop :=
  Txn.commit (claimNextJob cfg.workerId now cfg.leaseSeconds cfg.maxActivePerRun
    cfg.maxActivePerSource) w.config.state = (.ok (some job), s)

/-- No iteration re-reads its job after its worker has claimed it again. -/
def NotContested (w : World) : Move → Prop
  | .step i _ => ∀ t, w.threads[i]? = some t → Uncontested i t.label w.config
  | _ => True

/-- Every worker that claims a job advances plans, or the plan of the run is
complete. -/
def UpToDate (w : World) : Move → Prop
  | .runOnce cfg now => cfg.planAdvancer = true ∨ ∀ job s, Claims w cfg now job s →
    ∃ p, w.config.state.getExecutionPlan job.runId = some p ∧ p.planningPhase = .complete
  | _ => True

theorem Claims.spec {w : World} {cfg : WorkerConfig} {now : Instant} {job : JobRecord} {s : Store}
    (h : Claims w cfg now job s) : ∃ row, w.config.state.getJob row.jobId = some row ∧
      claimable now row = true ∧ job = claimRow cfg.workerId now cfg.leaseSeconds row ∧
      s = w.config.state.updateJob row.jobId (claimRow cfg.workerId now cfg.leaseSeconds) ∧
      claimNextJob cfg.workerId now cfg.leaseSeconds cfg.maxActivePerRun
        cfg.maxActivePerSource w.config.state = .ok (some job, s) := by
  have hok := Txn.commit_ok h
  rcases claimNextJob_ok hok with ⟨hr, _⟩ | ⟨row, hrow, hclaim, hr, hs⟩
  · cases hr
  · cases hr
    exact ⟨row, hrow, hclaim, rfl, hs, hok⟩

/-- The world in which the claim has been recorded and the iteration has not
started. -/
def World.claimed (w : World) (cfg : WorkerConfig) (now : Instant) (job : JobRecord)
    (s : Store) : World :=
  { w with config := w.config.log w.threads.length (claimAct cfg now) (.ok (some job)) s }

/-- **What `run_once` does**: nothing, or a claim and a new iteration. -/
theorem World.runOnce_cases (env : Env) (w : World) (cfg : WorkerConfig) (now : Instant) :
    w.runOnce env cfg now = w ∨ ∃ job s, Claims w cfg now job s ∧ w.runOnce env cfg now =
      (w.claimed cfg now job s).spawn (leaseOf cfg job) (runClaimed env cfg job now) := by
  unfold World.runOnce
  split
  · rename_i job s h
    exact .inr ⟨job, s, h, rfl⟩
  · exact .inl rfl

structure World.Kept (env : Env) (x y : Prop) (w : World) : Prop where
  verified : Pool.Verified (contract env.graph x y) (exec env) w
  tids : ∀ e ∈ w.config.trace, e.tid < w.threads.length
  labels : Pool.LabelsCompatible (fun l m => x → l ≠ m) w
  leases : ∀ (i : Nat) (t : Thread Act.Reply Exc Lease WorkerOutcome), w.threads[i]? = some t →
    ∃ row, w.config.state.getJob t.label.jobId = some row ∧ t.label.generation ≤ row.leaseGeneration

namespace World
variable {w : World}

theorem Kept.coherent (h : Kept env x y w) : Coherent env.graph w.config := h.verified.inv

theorem kept_initial : Kept env x y initial where
  verified :=
    { inv := ⟨Store.Inv.empty, ⟨(fun _ he => by cases he), (fun _ he => by cases he),
        (fun _ _ _ hs => by simp [initial] at hs)⟩⟩
      threads := fun j t ht => by simp [initial] at ht }
  tids e he := by cases he
  labels i j t u _ ht := by simp [initial] at ht
  leases i t ht := by simp [initial] at ht

section
variable (h : Kept env x y w)
include h

/-- The leases of the iterations are still there when the store has evolved. -/
theorem Kept.leases_mono {s : Store} (hev : w.config.state.Evolves s) {i : Nat}
    {t : Thread Act.Reply Exc Lease WorkerOutcome} (ht : w.threads[i]? = some t) :
    ∃ row, s.getJob t.label.jobId = some row ∧ t.label.generation ≤ row.leaseGeneration := by
  obtain ⟨row, hrow, hle⟩ := h.leases i t ht
  obtain ⟨row', hrow', he⟩ := hev.getJob hrow
  exact ⟨row', hrow', hle.trans he.generation⟩

theorem Kept.step (i : Nat) (ω : Input)
    (hx : x → NotContested w (.step i ω)) : Kept env x y (w.advance (exec env) i ω) where
  verified := h.verified.advance (contract_compatible env x y) h.labels i ω
    fun t ht hx' => hx hx' t ht
  tids := by
    rcases w.advance_cases (exec env) i ω with heq | ⟨l, a, k, r, s, hth, _, heq⟩
    · rw [heq]; exact h.tids
    rw [heq]
    intro e he
    rw [length_set]
    rcases mem_cons.mp he with rfl | he
    · exact (List.getElem?_eq_some_iff.mp hth).1
    · exact h.tids e he
  labels := h.labels.advance i ω
  leases := by
    rcases w.advance_cases (exec env) i ω with heq | ⟨l, a, k, r, s, hth, hexec, heq⟩
    · rw [heq]; exact h.leases
    rw [heq]
    have hsound := h.verified.guar (contract_compatible env x y) hth hexec
    have hev := (Sound.step h.coherent.inv hsound hexec).1
    intro j t ht
    rcases set_cases ht with ⟨rfl, rfl⟩ | ⟨_, ht⟩
    · exact h.leases_mono (t := ⟨l, some (.act a k)⟩) hev hth
    · exact h.leases_mono hev ht

theorem Kept.crash (i : Nat) : Kept env x y (w.kill i) := by
  refine ⟨h.verified.kill i, ?_, ?_, ?_⟩
  · rcases w.kill_cases i with heq | ⟨t, _, heq⟩
    · rw [heq]; exact h.tids
    · rw [heq]
      intro e he
      rw [length_set]
      exact h.tids e he
  · rcases w.kill_cases i with heq | ⟨t, _, heq⟩
    · rw [heq]; exact h.labels
    rw [heq]
    intro j k u v hne hu hv hul hvl
    rcases set_cases hu with ⟨_, rfl⟩ | ⟨_, hu⟩
    · cases hul
    rcases set_cases hv with ⟨_, rfl⟩ | ⟨_, hv⟩
    · cases hvl
    exact h.labels j k u v hne hu hv hul hvl
  · rcases w.kill_cases i with heq | ⟨t, hth, heq⟩
    · rw [heq]; exact h.leases
    rw [heq]
    intro j u hu
    rcases set_cases hu with ⟨rfl, rfl⟩ | ⟨_, hu⟩
    · exact h.leases i t hth
    · exact h.leases j u hu

theorem Kept.client (op : ClientOp) :
    Kept env x y { w with config := { w.config with state := op.apply env w.config.state } } := by
  have hop : Store.ClientStep env.graph w.config.state (op.apply env w.config.state) :=
    op.apply_step h.coherent.inv
  refine ⟨h.verified.outside (contract_compatible env x y)
    ⟨hop.inv, h.coherent.history.outside hop.evolves fun _ _ hp => hop.plans hp⟩ ?_ ?_, h.tids,
    h.labels, fun j t ht => h.leases_mono hop.evolves ht⟩
  · intro j t _ _
    exact ⟨hop.evolves, ⟨[], rfl, fun e he => by cases he⟩, fun _ => hop.jobs.held⟩
  · intro j t v _ hpost hy r hr
    exact (hpost hy r hr).mono hop.evolves ⟨[], rfl, fun e he => by cases he⟩

theorem Kept.claim {cfg : WorkerConfig} {now : Instant} {job : JobRecord}
    {s : Store} (hcl : Claims w cfg now job s) :
    Pool.Verified (contract env.graph x y) (exec env) (w.claimed cfg now job s) := by
  obtain ⟨row, hrow, _, hjob, hs, hok⟩ := hcl.spec
  obtain ⟨hev, hinv⟩ := h.coherent.inv.claimNextJob hok
  have hexec : exec env (claimAct cfg now) {} w.config.state = (.ok (some job), s) := hcl
  have hlt : ∀ {j t}, w.threads[j]? = some t → w.threads.length ≠ j := by
    intro j t ht heq
    have := (List.getElem?_eq_some_iff.mp ht).1
    omega
  have hnew : ∀ {j t}, w.threads[j]? = some t → ∀ e ∈ [(⟨w.threads.length, claimAct cfg now,
      .ok (some job), s⟩ : Record)], e.tid ≠ j := by
    intro j t ht e he
    rw [mem_singleton.mp he]
    exact hlt ht
  refine h.verified.outside (contract_compatible env x y) (h.coherent.log hexec hev hinv) ?_ ?_
  · intro j t ht hlive
    refine ⟨hev, ⟨[_], rfl, fun e he heq => hnew ht e he heq⟩, fun _ => ?_⟩
    rw [hs]
    refine Store.Held.updateJob hrow fun hid hh => ?_
    -- a claim gives out a later generation than every lease that was given before
    obtain ⟨row', hrow', hle⟩ := h.leases j t ht
    rw [hid, hrow] at hrow'
    cases hrow'
    have hgen : row.leaseGeneration + 1 = t.label.generation := (holds_iff.mp hh).2.2
    omega
  · intro j t v ht hpost hy r hr
    exact (hpost hy r hr).mono hev ⟨[_], rfl, hnew ht⟩

theorem Kept.runOnce {cfg : WorkerConfig} {now : Instant} (hy : y → UpToDate w (.runOnce cfg now))
    (hgraph : y → env.graph.Layered) : Kept env x y (w.runOnce env cfg now) := by
  rcases w.runOnce_cases env cfg now with heq | ⟨job, s, hcl, heq⟩
  · rw [heq]; exact h
  rw [heq]
  have hv := h.claim hcl
  obtain ⟨row, hrow, _, hjob, hs, _⟩ := hcl.spec
  have hid : row.jobId = job.jobId := by
    rw [hjob]
    rfl
  -- the new iteration has done nothing but claim
  have hown : ∀ e ∈ (w.config.log w.threads.length (claimAct cfg now) (.ok (some job)) s).trace,
      e.tid = w.threads.length → e = ⟨w.threads.length, claimAct cfg now, .ok (some job), s⟩ := by
    intro e he heq
    rcases mem_cons.mp he with rfl | he
    · rfl
    · have := h.tids e he
      omega
  have hnewRow : s.getJob job.jobId = some job := by
    rw [hs, ← hid, hjob]
    exact getJob_updateJob_self hrow
  have hclaimed : Claimed env w.threads.length (leaseOf cfg job)
      (w.config.log w.threads.length (claimAct cfg now) (.ok (some job)) s) cfg job := by
    refine ⟨hv.inv, rfl, hnewRow, ?_, ?_⟩
    · rintro key request available r ⟨s', hmem⟩
      have := hown _ hmem rfl
      cases congrArg Entry.act this
    · intro e t run stageId hsuf hi hrel
      have he := hown e (hsuf.subset (mem_cons_self ..)) hi
      rw [he] at hrel
      exact hrel.elim
  -- a thread is the new iteration, or was there before
  have hsplit : ∀ {j : Nat} {t : Thread Act.Reply Exc Lease WorkerOutcome},
      (w.threads ++ [⟨leaseOf cfg job, some (runClaimed env cfg job now)⟩])[j]? = some t →
      w.threads[j]? = some t ∨ (j = w.threads.length ∧ t.label = leaseOf cfg job) := by
    intro j t ht
    rcases Nat.lt_trichotomy j w.threads.length with hlt | rfl | hgt
    · rw [List.getElem?_append_left hlt] at ht
      exact .inl ht
    · rw [List.getElem?_concat_length] at ht
      cases ht
      exact .inr ⟨rfl, rfl⟩
    · rw [List.getElem?_eq_none (by simp; omega)] at ht
      cases ht
  -- and the lease of the new one is later than those before
  have hlater : ∀ {j : Nat} {t : Thread Act.Reply Exc Lease WorkerOutcome},
      w.threads[j]? = some t → t.label ≠ leaseOf cfg job := by
    intro j t ht heq
    obtain ⟨row', hrow', hle⟩ := h.leases j t ht
    rw [heq] at hrow' hle
    change w.config.state.getJob job.jobId = some row' at hrow'
    change job.leaseGeneration ≤ row'.leaseGeneration at hle
    rw [← hid, hrow] at hrow'
    cases hrow'
    rw [hjob] at hle
    change row.leaseGeneration + 1 ≤ row.leaseGeneration at hle
    omega
  refine ⟨hv.spawn (keeps_runClaimed hclaimed hgraph fun hy' => ?_), ?_, ?_, ?_⟩
  · rcases hy hy' with hadv | hcomplete
    · exact .inl hadv
    · obtain ⟨p, hp, hph⟩ := hcomplete job s hcl
      refine .inr ⟨p, ?_, hph⟩
      change s.getExecutionPlan job.runId = some p
      rw [hs]
      exact hp
  · intro e he
    simp only [spawn, length_append, length_singleton]
    rcases mem_cons.mp he with rfl | he
    · exact Nat.lt_succ_self _
    · exact Nat.lt_succ_of_lt (h.tids e he)
  · intro j k t u hne ht hu htl hul hx'
    simp only [spawn] at ht hu
    rcases hsplit ht with ht | ⟨hj, hlt⟩ <;> rcases hsplit hu with hu | ⟨hk, hlu⟩
    · exact h.labels j k t u hne ht hu htl hul hx'
    · rw [hlu]
      exact hlater ht
    · rw [hlt]
      exact (hlater hu).symm
    · exact absurd (hj.trans hk.symm) hne
  · intro j t ht
    simp only [spawn] at ht
    rcases hsplit ht with ht | ⟨_, hlt⟩
    · have hev : w.config.state.Evolves s := by
        obtain ⟨_, _, _, _, _, hok⟩ := hcl.spec
        exact (h.coherent.inv.claimNextJob hok).1
      exact h.leases_mono hev ht
    · rw [hlt]
      exact ⟨job, hnewRow, le_rfl⟩

/-- **Every move keeps a world verified.** -/
theorem Kept.move {m : Move} (hx : x → NotContested w m)
    (hy : y → UpToDate w m) (hgraph : y → env.graph.Layered) : Kept env x y (w.move env m) := by
  cases m with
  | runOnce cfg now => exact h.runOnce hy hgraph
  | step i ω => exact h.step i ω hx
  | crash i => exact h.crash i
  | client op => exact h.client op

/-- Every schedule of such moves keeps a world verified. -/
theorem Kept.run (hgraph : y → env.graph.Layered) (moves : List Move)
    (hok : ∀ ms1 m ms2, moves = ms1 ++ m :: ms2 →
      (x → NotContested (World.run env w ms1) m) ∧ (y → UpToDate (World.run env w ms1) m)) :
    Kept env x y (World.run env w moves) :=
  run_induction (fun _ _ hw (hm : (x → NotContested _ _) ∧ (y → UpToDate _ _)) =>
    hw.move hm.1 hm.2 hgraph) w h moves hok

end

/-- **Every reachable world is verified**, under the contract that asks for
nothing. -/
theorem Reachable.kept (h : Reachable env w) : Kept env False False w := by
  obtain ⟨moves, rfl⟩ := h
  exact kept_initial.run False.elim moves fun _ _ _ _ => ⟨fun h => h.elim, fun h => h.elim⟩

end World
end DirtyDataOlap
