import DirtyDataOlap.WorkerContract
import Mathlib.Data.List.Find

/-!
# The contract is sound

A sound action keeps the store invariant and lets the store evolve (`Sound.step`); it leaves alone
what the leases of the others cover (`Sound.held`); and the history goes on (`History.log`).  These
are the side conditions of the rely-guarantee rule: every move keeps a verified world verified
(`verified_move`).
-/
namespace DirtyDataOlap

open List Store

variable {env : Env} {x y : Prop} {i : Nat} {l m : Lease} {c c' : Scene}

theorem SoundOp.step {lease : Lease} {op : FencedOp} {r : op.Reply} {s' : Store}
    (hi : c.state.Inv env.graph) (hs : SoundOp x i l c op)
    (hjob : lease.jobId = l.jobId) (h : op.txn env.stableId lease c.state = .ok (r, s')) :
    c.state.Evolves s' ∧ s'.Inv env.graph := by
  cases op with
  | heartbeat now leaseSeconds => exact hi.heartbeatJob h
  | ensureAttempt now => exact hi.ensureStageAttempt h
  | markHandlerDeliveryStarted now => exact hi.markHandlerDeliveryStarted h
  | recordResult attempt result now =>
    refine hi.recordStageResult ?_ h
    rw [hjob]
    exact hs.outputs
  | finalizeStage attempt result status now retryCount availableAt =>
    refine hi.finalizeStageJob ?_ h
    rw [hjob]
    exact hs.ok
  | finalizeCommand status now detail failureCode failureClassification =>
    refine hi.finalizeCommandJob ?_ h
    rw [hjob]
    exact hs.kind

theorem SoundWrite.step {w : Write} {r : w.Reply} {s' : Store} (hi : c.state.Inv env.graph)
    (hs : SoundWrite env.graph i c w) (h : w.txn env.stableId c.state = .ok (r, s')) :
    c.state.Evolves s' ∧ s'.Inv env.graph := by
  cases w with
  | updateRun run revision => exact hi.updateRun (fun _ hr hrev => hs.ok.evolves hr hrev) h
  | advanceExecutionPlan plan expected => exact hi.advanceExecutionPlan hs.1 hs.2 h
  | enqueueStageJob runId planId stageId parentJobId availableAt =>
    exact hi.enqueueStageJob hs.2 hs.1 h
  | requestRunCancellation runId now => exact hi.requestRunCancellation h
  | resumeJob jobId now => exact hi.resumeJob h
  | registerReviewSubjectContext runId context => exact hi.registerReviewSubjectContext h

/-- **A sound action keeps the store invariant.** -/
theorem Sound.step {a : Act} {ω : Input} {r : Except Exc a.Reply} {s : Store}
    (hi : c.state.Inv env.graph) (hs : Sound env.graph x i l c a)
    (he : exec env a ω c.state = (r, s)) : c.state.Evolves s ∧ s.Inv env.graph := by
  cases exec_effect he with
  | none => exact ⟨.refl _, hi⟩
  | claim hrow hclaim => exact hs.elim
  | fenced hok => exact hs.2.step hi hs.1.jobId hok
  | write hok => exact SoundWrite.step hi hs hok

variable {s s' : Store} {a : Act} {r : Except Exc a.Reply} {ω : Input} {A : Act → Prop}

/-- A row that stays under its lease, or loses it, is not held under any other. -/
theorem Store.Held.other {f : JobRecord → JobRecord} {hf : ∀ r, (f r).jobId = r.jobId}
    {row : JobRecord} (hrow : s.getJob l.jobId = some row)
    (hh : holds l.workerId l.generation row = true) (hne : l ≠ m)
    (howner : (f row).leaseOwner = row.leaseOwner ∨ (f row).leaseOwner = none)
    (hgen : (f row).leaseGeneration = row.leaseGeneration) :
    Store.Held m s (s.updateJob l.jobId f hf) := by
  refine Store.Held.updateJob hrow fun hid hm => ?_
  obtain ⟨_, hown, hg⟩ := holds_iff.mp hh
  obtain ⟨_, hown', hg'⟩ := holds_iff.mp hm
  have hworker : m.workerId = l.workerId := by
    rcases howner with h | h <;> rw [h] at hown'
    · exact Option.some.inj (hown'.symm.trans hown)
    · cases hown'
  have hgeneration : m.generation = l.generation := hg'.symm.trans (hgen.trans hg)
  refine absurd ?_ hne
  cases l
  cases m
  simp_all

theorem SoundOp.held {lease : Lease} {op : FencedOp} {r : op.Reply} (hne : l ≠ m) (hx : x)
    (hp : Presents x l s lease) (h : op.txn env.stableId lease s = .ok (r, s')) :
    Store.Held m s s' := by
  obtain ⟨row, hrow, hh, rfl | ⟨attempts, f, hf, rfl, hf'⟩⟩ := FencedOp.txn_ok h
  · exact .refl m _
  -- whoever passes the fence holds the row under its own lease
  have hattempts : Store.Held m s { s with attempts } := .of_jobs rfl
  rw [hp.jobId] at hrow ⊢
  exact hattempts.trans (.other hrow (hp.holds hx hrow hh) hne (hf' row).2 (hf' row).1)

theorem Write.held {w : Write} {r : w.Reply} (h : w.txn env.stableId s = .ok (r, s')) :
    Store.Held m s s' := by
  rcases (Write.leaves h).jobs with heq | ⟨_, _, _, _, _, rfl⟩ | ⟨runId, now, rfl⟩ | ⟨_, _, rfl⟩
  · exact .of_jobs heq
  · obtain ⟨_, _, _, _, _, ⟨_, rfl⟩ | ⟨_, rfl, hins⟩⟩ := enqueueStageJob_ok h
    · exact .refl m _
    · exact .insertJob hins rfl
  · intro row' hrow' hh
    rw [getJob_requestRunCancellation h] at hrow'
    obtain ⟨row, hrow, rfl⟩ := Option.map_eq_some_iff.mp hrow'
    refine ⟨row, hrow, ?_⟩
    by_cases hr : row.runId = runId
    · rw [if_pos hr] at hh ⊢
      obtain ⟨hst, how, hgen⟩ := holds_iff.mp hh
      obtain ⟨hs, ho, hg, hp, ha, hd⟩ := cancelRow_running hst
      exact ⟨holds_iff.mpr ⟨hs, ho.symm.trans how, hg.symm.trans hgen⟩, hp, ha, hd⟩
    · rw [if_neg hr] at hh ⊢
      exact ⟨hh, rfl, rfl, rfl⟩
  · obtain ⟨row, hrow, _, _, rfl⟩ := resumeJob_ok h
    exact .updateJob hrow fun _ hh => absurd (holds_iff.mp hh).1 (by simp [resumedRow])

/-- **A sound action leaves the leases of the others alone.** -/
theorem Sound.held (hne : l ≠ m) (hx : x) (hs : Sound env.graph x i l c a)
    (he : exec env a ω c.state = (r, s)) : Store.Held m c.state s := by
  cases exec_effect he with
  | none => exact .refl m _
  | claim hrow hclaim => exact hs.elim
  | fenced hok => exact SoundOp.held hne hx hs.1 hok
  | write hok => exact Write.held hok

/-! ## The history goes on -/

theorem FencedOp.runs_plans {lease : Lease} {op : FencedOp} {r : op.Reply}
    (h : op.txn env.stableId lease s = .ok (r, s')) : s'.runs = s.runs ∧ s'.plans = s.plans := by
  obtain ⟨_, _, _, rfl | ⟨_, _, _, rfl, _⟩⟩ := FencedOp.txn_ok h <;> exact ⟨rfl, rfl⟩

theorem Store.getExecutionPlan_replacePlan {s : Store} {plan stored : ExecutionPlan}
    (hget : s.getExecutionPlan plan.runId = some stored) (hid : stored.planId = plan.planId)
    (k : String) : (s.replacePlan plan).getExecutionPlan k =
      if k = plan.runId then some plan else s.getExecutionPlan k := by
  obtain ⟨hmem, hrun⟩ := getExecutionPlan_spec hget
  have honly : ∀ p ∈ s.plans.rows, p.planId = plan.planId → p = stored := by
    intro p hp heq
    have h1 : s.plans.find? p.planId = some p := Table.find?_of_mem hp
    have h2 : s.plans.find? stored.planId = some stored := Table.find?_of_mem hmem
    rw [heq, ← hid, h2] at h1
    cases h1
    rfl
  -- the replaced row stays under its run
  have hfind : (s.replacePlan plan).getExecutionPlan k =
      (s.getExecutionPlan k).map fun p => if p.planId = plan.planId then plan else p := by
    unfold getExecutionPlan
    simp only [replacePlan, Table.update, decide_eq_true_eq]
    rw [find?_map]
    have hcongr : ∀ p ∈ s.plans.rows, decide (p.runId = k) =
        ((fun p : ExecutionPlan => decide (p.runId = k)) ∘ fun p =>
          if p.planId = plan.planId then (if p.planId = plan.planId then plan else p) else p) p := by
      intro p hp
      by_cases heq : p.planId = plan.planId
      · simp only [Function.comp_apply, if_pos heq]
        rw [honly p hp heq, hrun]
      · simp only [Function.comp_apply, if_neg heq]
    rw [← List.find?_congr hcongr]
    refine congrArg (Option.map · _) (funext fun p => ?_)
    split <;> rfl
  rw [hfind]
  by_cases hk : k = plan.runId
  · rw [hk, hget, if_pos rfl]
    exact congrArg some (if_pos hid)
  · rw [if_neg hk]
    cases hp : s.getExecutionPlan k with
    | none => rfl
    | some p =>
      obtain ⟨hpmem, hprun⟩ := getExecutionPlan_spec hp
      refine congrArg some (if_neg fun heq => hk ?_)
      rw [← hprun, honly p hpmem heq, hrun]

theorem Store.getExecutionPlan_advance {plan r : ExecutionPlan} {expected : PlanData}
    (h : advanceExecutionPlan plan expected s = .ok (r, s')) (k : String) :
    s'.getExecutionPlan k = if k = plan.runId then some plan else s.getExecutionPlan k := by
  obtain ⟨stored, hget, hid, _, _, rfl⟩ := advanceExecutionPlan_ok h
  exact getExecutionPlan_replacePlan hget hid k

/-- **A plan keeps its stages**, except by an advance that changes them. -/
theorem exec_plans (he : exec env a ω s = (r, s')) (runId : String) :
    Record.changesPlan runId ⟨i, a, r, s'⟩ = true ∨ ∀ p, s.getExecutionPlan runId = some p →
        ∃ q, s'.getExecutionPlan runId = some q ∧ q.stages = p.stages := by
  have hsame : s'.plans = s.plans → ∀ p, s.getExecutionPlan runId = some p →
      ∃ q, s'.getExecutionPlan runId = some q ∧ q.stages = p.stages := by
    intro heq p hp
    unfold getExecutionPlan at hp ⊢
    rw [heq]
    exact ⟨p, hp, rfl⟩
  cases exec_effect he with
  | none => exact .inr (hsame rfl)
  | claim hrow hclaim => exact .inr (hsame rfl)
  | fenced hok => exact .inr (hsame (FencedOp.runs_plans hok).2)
  | write hok =>
    rcases (Write.leaves hok).plans with heq | ⟨plan, expected, rfl⟩
    · exact .inr (hsame heq)
    by_cases hrun : plan.runId = runId
    swap
    · refine .inr fun p hp => ⟨p, ?_, rfl⟩
      rw [getExecutionPlan_advance hok, if_neg (Ne.symm hrun), hp]
    subst hrun
    by_cases hst : plan.stages = expected.stages
    swap
    · exact .inl (by simp [Record.changesPlan, hst])
    refine .inr fun p hp => ⟨plan, by rw [getExecutionPlan_advance hok, if_pos rfl], ?_⟩
    obtain ⟨stored, hget, _, hhash, _⟩ := advanceExecutionPlan_ok hok
    rw [hp] at hget
    cases hget
    rw [hst, ← hhash]
    rfl

theorem epoch_cons {runId : String} {e : Record} {t : List Record} :
    epoch runId (e :: t) = epoch runId t + (if Record.changesPlan runId e = true then 1 else 0) := by
  simp only [epoch, countP_cons]

theorem suffix_cons_cases {e e' : Record} {t t' : List Record} (h : (e :: t) <:+ (e' :: t')) :
    (e = e' ∧ t = t') ∨ (e :: t) <:+ t' := by
  rcases suffix_cons_iff.mp h with heq | hs
  · cases heq
    exact .inl ⟨rfl, rfl⟩
  · exact .inr hs

/-- **The history goes on.** -/
theorem History.log (hh : History c) (hev : c.state.Evolves s) (hf : Record.Faithful ⟨i, a, r, s⟩)
    (hp : ∀ runId, Record.changesPlan runId ⟨i, a, r, s⟩ = true ∨
      ∀ p, c.state.getExecutionPlan runId = some p →
        ∃ q, s.getExecutionPlan runId = some q ∧ q.stages = p.stages) :
    History (c.log i a r s) where
  evolves e he := by
    rcases mem_cons.mp he with rfl | he
    · exact .refl s
    · exact (hh.evolves e he).trans hev
  faithful e he := by
    rcases mem_cons.mp he with rfl | he
    · exact hf
    · exact hh.faithful e he
  plans runId e t hs := by
    rcases suffix_cons_cases hs with ⟨rfl, rfl⟩ | hs
    · exact .inr fun p hp => ⟨p, hp, rfl⟩
    change epoch runId (e :: t) < epoch runId (⟨i, a, r, s⟩ :: c.trace) ∨ _
    have hle : epoch runId (e :: t) ≤ epoch runId c.trace := epoch_le hs
    rw [epoch_cons (t := c.trace)]
    rcases hp runId with hch | hkeep
    · rw [if_pos hch]
      exact .inl (by omega)
    rcases hh.plans runId e t hs with hlt | hst
    · exact .inl (by omega)
    refine .inr fun p hp => ?_
    obtain ⟨q, hq, hqp⟩ := hst p hp
    obtain ⟨q', hq', hqq⟩ := hkeep q hq
    exact ⟨q', hq', hqq.trans hqp⟩

theorem History.outside (hh : History c) (hev : c.state.Evolves s)
    (hp : ∀ runId p, c.state.getExecutionPlan runId = some p → s.getExecutionPlan runId = some p) :
    History { c with state := s } where
  evolves e he := (hh.evolves e he).trans hev
  faithful := hh.faithful
  plans runId e t hs := by
    rcases hh.plans runId e t hs with hlt | hst
    · exact .inl hlt
    refine .inr fun p hpe => ?_
    obtain ⟨q, hq, hqp⟩ := hst p hpe
    exact ⟨q, hp runId q hq, hqp⟩

theorem faithful_exec (he : exec env a ω s = (r, s')) : Record.Faithful ⟨i, a, r, s'⟩ := by
  cases a with
  | read q => cases he; rfl
  | claim => trivial
  | observe o => trivial
  | write w => trivial
  | fenced lease op =>
    cases r with
    | error e => cases op <;> trivial
    | ok b =>
      have hok := exec_fenced_ok he
      cases op with
      | heartbeat now leaseSeconds => trivial
      | ensureAttempt now => trivial
      | finalizeCommand status now detail code classification => trivial
      | markHandlerDeliveryStarted now =>
        obtain ⟨row, _, _, hh, _, _, _, rfl, _⟩ := markHandlerDeliveryStarted_ok hok
        exact ⟨markHandlerDeliveryStarted_row hok, (holds_iff.mp hh).1, rfl⟩
      | recordResult attempt result now =>
        obtain ⟨row, _, _, hh, _, hatt, _, _, rfl, _⟩ := recordStageResult_ok hok
        exact ⟨recordStageResult_row hok, (holds_iff.mp hh).1, rfl, hatt, rfl⟩
      | finalizeStage attempt result status now retries availableAt =>
        exact finalizeStageJob_row hok

theorem Coherent.log (hc : Coherent env.graph c) (he : exec env a ω c.state = (r, s))
    (hev : c.state.Evolves s) (hinv : s.Inv env.graph) : Coherent env.graph (c.log i a r s) :=
  ⟨hinv, hc.history.log hev (faithful_exec he) fun runId => exec_plans he runId⟩

theorem Quiet.refl (x : Prop) (A : Act → Prop) (i : Nat) (l : Lease) (c : Scene) :
    Quiet x A i l c c :=
  ⟨.refl _, ⟨[], rfl, fun e he => by cases he⟩, fun _ => .refl l _⟩

theorem Quiet.trans {c'' : Scene} (h1 : Quiet x A i l c c') (h2 : Quiet x A i l c' c'') :
    Quiet x A i l c c'' where
  evolves := h1.evolves.trans h2.evolves
  trace := by
    obtain ⟨n1, ht1, ha1⟩ := h1.trace
    obtain ⟨n2, ht2, ha2⟩ := h2.trace
    refine ⟨n2 ++ n1, by rw [ht2, ht1, append_assoc], fun e he => ?_⟩
    rcases mem_append.mp he with he | he
    · exact ha2 e he
    · exact ha1 e he
  held hx := (h1.held hx).trans (h2.held hx)

theorem Quiet.imp {B : Act → Prop} (h : Quiet x A i l c c') (hab : ∀ a, A a → B a) :
    Quiet x B i l c c' := by
  obtain ⟨new, ht, ha⟩ := h.trace
  exact ⟨h.evolves, ⟨new, ht, fun e he hi => hab _ (ha e he hi)⟩, h.held⟩

theorem Quiet.suffix (h : Quiet x A i l c c') : c.trace <:+ c'.trace := by
  obtain ⟨new, ht, _⟩ := h.trace
  exact ⟨new, ht.symm⟩

theorem Quiet.did (h : Quiet x A i l c c') {j : Nat} (hd : c.Did j a r) : c'.Did j a r := by
  obtain ⟨s, hs⟩ := hd
  exact ⟨s, h.suffix.subset hs⟩

/-- What an iteration ended with outlasts the actions of the others. -/
theorem Settled.mono (hs : Settled i c) (hev : c.state.Evolves c'.state)
    (ht : ∃ new, c'.trace = new ++ c.trace ∧ ∀ e ∈ new, e.tid ≠ i) : Settled i c' := by
  obtain ⟨new, ht, hne⟩ := ht
  intro e t runId stageId hsuf hi hrel
  have hold : (e :: t) <:+ c.trace := by
    rw [ht] at hsuf
    clear ht
    induction new with
    | nil => exact hsuf
    | cons b new ih =>
      rcases suffix_cons_cases hsuf with ⟨rfl, _⟩ | hsuf
      · exact absurd hi (hne e (mem_cons_self ..))
      · exact ih (fun e he => hne e (mem_cons_of_mem _ he)) hsuf
  have hle : epoch runId c.trace ≤ epoch runId c'.trace := epoch_le ⟨new, ht.symm⟩
  rcases hs e t runId stageId hold hi hrel with hlt | hjob
  · exact .inl (by omega)
  · exact .inr (hjob.mono hev)

/-- **The guarantee of one iteration is the rely of every other.** -/
theorem contract_compatible (env : Env) (x y : Prop) :
    (contract env.graph x y).Compatible (exec env) fun l m => x → l ≠ m where
  refl i l c := .refl x _ i l c
  trans i l _ _ _ h1 h2 := h1.trans h2
  inv hc he hs := by
    obtain ⟨hev, hinv⟩ := Sound.step hc.inv hs he
    exact hc.log he hev hinv
  rely hij hne hc he hs := by
    refine ⟨(Sound.step hc.inv hs he).1, ⟨[_], rfl, fun e hmem heq => ?_⟩,
      fun hx => Sound.held (hne hx) hx hs he⟩
    rw [mem_singleton.mp hmem] at heq
    exact hij heq
  post hij hc he hs hpost := by
    intro hy v hv
    refine (hpost hy v hv).mono (Sound.step hc.inv hs he).1 ⟨[_], rfl, fun e hmem => ?_⟩
    rw [mem_singleton.mp hmem]
    exact hij

end DirtyDataOlap
