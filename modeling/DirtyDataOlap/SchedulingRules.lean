import DirtyDataOlap.ContractSoundness
import DirtyDataOlap.WorkerChecks

/-!
# Reading, scheduling and completing under the contract

The specifications of the methods that only look around, enqueue stages and write the status of the
run.  None of these releases a stage or changes what the lease covers: they are **calm**, and a
specification says what the method found out.
-/
namespace DirtyDataOlap

open List Store Contract

/-- Actions that neither invoke the handler, nor release a stage, nor touch the
delivery of the claimed job. -/
def Act.calm : Act → Bool
  | .read _ => true
  | .observe (.execute _ _ _) => false
  | .observe _ => true
  | .fenced _ (.heartbeat _ _) => true
  | .write (.advanceExecutionPlan _ _) => false
  | .write _ => true
  | _ => false

/-- Iteration `i` has been calm, and the invariant holds. -/
structure Calm (graph : StageGraph) (x : Prop) (i : Nat) (l : Lease) (c c' : Scene) : Prop extends
    Quiet x (fun a => a.calm = true) i l c c' where
  coherent : Coherent graph c'

/-- The program keeps the contract from `c` on, and ends in `Q`. -/
abbrev Keeps {α : Type} (env : Env) (x y : Prop) (i : Nat) (l : Lease) (p : Worker α)
    (Q : Except Exc α → Scene → Prop) (c : Scene) : Prop :=
  (contract env.graph x y).wp (exec env) i l p Q c

variable {env : Env} {x y : Prop} {i : Nat} {l : Lease} {c c' : Scene} {α β : Type}

theorem Calm.refl (h : Coherent env.graph c) : Calm env.graph x i l c c :=
  ⟨.refl x _ i l c, h⟩

theorem Calm.trans {c'' : Scene} (h1 : Calm env.graph x i l c c')
    (h2 : Calm env.graph x i l c' c'') : Calm env.graph x i l c c'' :=
  ⟨h1.toQuiet.trans h2.toQuiet, h2.coherent⟩

theorem Calm.of_rely (h : Quiet x (fun _ => False) i l c c') (hc : Coherent env.graph c') :
    Calm env.graph x i l c c' :=
  ⟨h.imp fun _ => False.elim, hc⟩

variable {Q : Except Exc β → Scene → Prop} {s : Store} {runId : String} {st : StageSpec}
  {lease : Lease} {graph : StageGraph} {stageId : String} {s' : Store}
  {P : Except Exc α → Scene → Prop}

theorem Calm.log {a : Act} {r : Except Exc a.Reply} (ha : a.calm = true) (hev : c.state.Evolves s)
    (hheld : x → Store.Held l c.state s) (hc : Coherent env.graph (c.log i a r s)) :
    Calm env.graph x i l c (c.log i a r s) := by
  refine ⟨⟨hev, ⟨[_], rfl, fun e he _ => ?_⟩, hheld⟩, hc⟩
  rw [mem_singleton.mp he]
  exact ha

/-! ## Rules for one action -/

theorem keeps_bind {p : Worker α} {f : α → Worker β} (h : Keeps env x y i l p P c)
    (hok : ∀ v c', P (.ok v) c' → Keeps env x y i l (f v) Q c')
    (herr : ∀ e c', P (.error e) c' → Q (.error e) c') : Keeps env x y i l (p.bind f) Q c := by
  refine wp_bind (wp_mono h fun r c' hr => ?_)
  cases r with
  | ok v => exact hok v c' hr
  | error e => exact herr e c' hr

theorem keeps_tryCatch {p : Worker α} {f : Exc → Worker α} {Q : Except Exc α → Scene → Prop}
    (h : Keeps env x y i l p P c) (hok : ∀ v c', P (.ok v) c' → Q (.ok v) c')
    (herr : ∀ e c', P (.error e) c' → Keeps env x y i l (f e) Q c') :
    Keeps env x y i l (p.tryCatch f) Q c := by
  refine wp_tryCatch (wp_mono h fun r c' hr => ?_)
  cases r with
  | ok v => exact hok v c' hr
  | error e => exact herr e c' hr

/-- A read is answered from the state it is made in, and is the last action of the
trace. -/
theorem keeps_readLast {q : Query} {f : q.Reply → Worker β}
    (h : ∀ c0 v, Quiet x (fun _ => False) i l c c0 → Calm env.graph x i l c c0 →
      Calm env.graph x i l c (c0.log i (.read q) (.ok v) c0.state) → q.eval c0.state = v →
      (x → Uncontested i l c0) → Keeps env x y i l (f v) Q (c0.log i (.read q) (.ok v) c0.state)) :
    Keeps env x y i l ((Worker.read q).bind f) Q c := by
  intro c0 hr hi ω r s he
  cases he
  have h0 : Calm env.graph x i l c c0 := .of_rely hr hi
  exact ⟨trivial, fun ha hi' =>
    h c0 _ hr h0 (h0.trans (Calm.log rfl (.refl _) (fun _ => .refl l _) hi')) rfl ha⟩

theorem keeps_read {q : Query} {f : q.Reply → Worker β}
    (h : ∀ c' v, Calm env.graph x i l c c' → q.eval c'.state = v → c'.Did i (.read q) (.ok v) →
      Keeps env x y i l (f v) Q c') : Keeps env x y i l ((Worker.read q).bind f) Q c :=
  keeps_readLast fun _ v _ _ h1 hv _ => h _ v h1 hv (Config.did_log ..)

theorem keeps_observe {o : Observation} {f : o.Reply → Worker β} (ho : (Act.observe o).calm = true)
    (hok : ∀ c' v, Calm env.graph x i l c c' → c'.Did i (.observe o) (.ok v) →
      Keeps env x y i l (f v) Q c') (herr : ∀ c' e, Calm env.graph x i l c c' → Q (.error e) c') :
    Keeps env x y i l ((Worker.observe o).bind f) Q c := by
  intro c' hr hi ω r s he
  have hs : s = c'.state := (congrArg Prod.snd he).symm
  subst hs
  have hsound : Sound env.graph x i l c' (.observe o) := by
    cases o <;> trivial
  refine ⟨hsound, fun _ hi' => ?_⟩
  have hcalm := (Calm.of_rely hr hi).trans
    (Calm.log (a := .observe o) (r := r) (x := x) (l := l) ho (.refl _) (fun _ => .refl l _) hi')
  cases r with
  | ok v => exact hok _ v hcalm (Config.did_log ..)
  | error e => exact herr _ e hcalm

theorem keeps_now {f : Instant → Worker β}
    (h : ∀ c' t, Calm env.graph x i l c c' → Keeps env x y i l (f t) Q c') :
    Keeps env x y i l (Worker.now.bind f) Q c := by
  intro c' hr hi ω r s he
  cases he
  refine ⟨trivial, fun _ hi' => ?_⟩
  exact h (c'.log i (.observe .clock) (.ok ω.clock) c'.state) ω.clock
    ((Calm.of_rely hr hi).trans (Calm.log rfl (.refl _) (fun _ => .refl l _) hi'))

/-- A calm write: what has to be known of it, and what it did. -/
theorem keeps_write {w : Write} {f : w.Reply → Worker β} (hw : (Act.write w).calm = true)
    (hs : ∀ c', Calm env.graph x i l c c' → SoundWrite env.graph i c' w)
    (hok : ∀ c' v s, Calm env.graph x i l c c' → w.txn env.stableId s = .ok (v, c'.state) →
      Keeps env x y i l (f v) Q c') (herr : ∀ c' e, Calm env.graph x i l c c' → Q (.error e) c') :
    Keeps env x y i l ((Worker.write w).bind f) Q c := by
  intro c' hr hi ω r s he
  have hsound : SoundWrite env.graph i c' w := hs c' (.of_rely hr hi)
  refine ⟨hsound, fun _ hi' => ?_⟩
  rcases Txn.commit_cases (w.txn env.stableId) c'.state with ⟨v, s', htx, hc⟩ | ⟨e, _, hc⟩
  · cases hc.symm.trans he
    have hcalm := (Calm.of_rely hr hi).trans (Calm.log (a := .write w) (r := .ok v) hw
      (SoundWrite.step hi.inv hsound htx).1 (fun _ => Write.held htx) hi')
    exact hok _ v _ hcalm htx
  · cases hc.symm.trans he
    exact herr _ e ((Calm.of_rely hr hi).trans (Calm.log (a := .write w) (r := .error e) hw
      (.refl _) (fun _ => .refl l _) hi'))

/-- A mutation under the lease of the iteration, as its last action. -/
theorem keeps_fencedCall {op : FencedOp} {Q : Except Exc op.Reply → Scene → Prop}
    (hl : Presents x l c.state lease) (hs : ∀ c', Calm env.graph x i l c c' → SoundOp x i l c' op)
    (hok : ∀ c' v s, Calm env.graph x i l c c' → op.txn env.stableId lease c'.state = .ok (v, s) →
      c'.state.Evolves s → Coherent env.graph (c'.log i (.fenced lease op) (.ok v) s) →
      Q (.ok v) (c'.log i (.fenced lease op) (.ok v) s)) (herr : ∀ c' e, Calm env.graph x i l c c' →
      Coherent env.graph (c'.log i (.fenced lease op) (.error e) c'.state) →
      Q (.error e) (c'.log i (.fenced lease op) (.error e) c'.state)) :
    Keeps env x y i l (Worker.fenced lease op) Q c := by
  intro c' hr hi ω r s he
  have hsound : SoundOp x i l c' op := hs c' (.of_rely hr hi)
  refine ⟨⟨hl.mono hr.evolves, hsound⟩, fun _ hi' => ?_⟩
  rcases Txn.commit_cases (op.txn env.stableId lease) c'.state with ⟨v, s', htx, hc⟩ | ⟨e, _, hc⟩
  · cases hc.symm.trans he
    exact hok c' v _ (.of_rely hr hi) htx (SoundOp.step hi.inv hsound hl.jobId htx).1 hi'
  · cases hc.symm.trans he
    exact herr c' e (.of_rely hr hi) hi'

theorem keeps_fenced {op : FencedOp} {f : op.Reply → Worker β} (hl : Presents x l c.state lease)
    (hs : ∀ c', Calm env.graph x i l c c' → SoundOp x i l c' op)
    (hok : ∀ c' v s, Calm env.graph x i l c c' → op.txn env.stableId lease c'.state = .ok (v, s) →
      c'.state.Evolves s → Coherent env.graph (c'.log i (.fenced lease op) (.ok v) s) →
      Keeps env x y i l (f v) Q (c'.log i (.fenced lease op) (.ok v) s))
    (herr : ∀ c' e, Calm env.graph x i l c c' →
      Coherent env.graph (c'.log i (.fenced lease op) (.error e) c'.state) →
      Q (.error e) (c'.log i (.fenced lease op) (.error e) c'.state)) :
    Keeps env x y i l ((Worker.fenced lease op).bind f) Q c :=
  wp_bind (keeps_fencedCall hl hs hok herr)

theorem keeps_heartbeat {now : Instant} {leaseSeconds : Nat} {f : JobRecord → Worker β}
    (hl : Presents x l c.state lease)
    (hok : ∀ c' v, Calm env.graph x i l c c' → Keeps env x y i l (f v) Q c')
    (herr : ∀ c' e, Calm env.graph x i l c c' → Q (.error e) c') :
    Keeps env x y i l ((Worker.fenced lease (.heartbeat now leaseSeconds)).bind f) Q c := by
  refine keeps_fenced hl (fun _ _ => trivial) ?_ ?_
  · intro c' v s hc htx hev hi'
    refine hok _ v (hc.trans (Calm.log rfl hev (fun _ => ?_) hi'))
    obtain ⟨row, hrow, hh, _, rfl⟩ := heartbeatJob_ok htx
    exact Store.Held.updateJob hrow fun _ hh' => ⟨hh', rfl, rfl, rfl⟩
  · intro c' e hc hi'
    exact herr _ e (hc.trans (Calm.log rfl (.refl _) (fun _ => .refl l _) hi'))

/-- **Checking is calm.** -/
theorem keeps_checks {p : Worker α} {Q : α → Prop} (h : p.Only Act.Checks Q)
    (hc : Coherent env.graph c) :
    Keeps env x y i l p (fun r c' => Calm env.graph x i l c c' ∧ ∀ v, r = .ok v → Q v) c := by
  induction p generalizing c with
  | done r =>
    refine ⟨.refl hc, ?_⟩
    rintro v rfl
    exact h
  | act a k ih =>
    intro c' hr hi ω r s he
    obtain ⟨⟨hlooks, hexec⟩, hk⟩ := h
    have hstep : s = c'.state ∧ a.calm = true ∧ Sound env.graph x i l c' a := by
      cases a with
      | read q => cases he; exact ⟨rfl, rfl, trivial⟩
      | observe o =>
        refine ⟨(congrArg Prod.snd he).symm, ?_⟩
        cases o with
        | execute => cases hexec
        | _ => exact ⟨rfl, trivial⟩
      | _ => exact hlooks.elim
    obtain ⟨rfl, hcalm, hsound⟩ := hstep
    refine ⟨hsound, fun _ hi' => ?_⟩
    have h1 : Calm env.graph x i l c (c'.log i a r c'.state) :=
      (Calm.of_rely hr hi).trans (Calm.log hcalm (.refl _) (fun _ => .refl l _) hi')
    exact wp_mono (ih r (hk r) hi') fun _ _ h2 => ⟨h1.trans h2.1, h2.2⟩

/-! ## Dependencies -/

theorem keeps_hardSucceeded (runId : String) (ds : List String) (hc : Coherent env.graph c) :
    Keeps env x y i l (hardSucceeded runId ds) (fun r c' => Calm env.graph x i l c c' ∧
      ∃ b, r = .ok b ∧ (b = true → ∀ d ∈ ds, c'.state.StageSucceeded runId d) ∧
        ((∀ d ∈ ds, c.state.StageSucceeded runId d) → b = true)) c := by
  induction ds generalizing c with
  | nil => exact ⟨.refl hc, true, rfl, fun _ d hd => (by cases hd), fun _ => rfl⟩
  | cons d rest ih =>
    refine keeps_read fun c1 v h1 hj _ => ?_
    change c1.state.getStageJob runId d = v at hj
    -- a dependency that had succeeded is found so
    have hfound : c.state.StageSucceeded runId d → c1.state.StageSucceeded runId d :=
      fun hs => hs.mono h1.evolves
    cases v with
    | none =>
      refine ⟨h1, false, rfl, fun h => (by cases h), fun hall => ?_⟩
      obtain ⟨j, hget, _⟩ := hfound (hall d (mem_cons_self ..))
      rw [hj] at hget
      cases hget
    | some j =>
      dsimp only
      by_cases hst : j.status = .succeeded
      · rw [if_pos hst]
        refine wp_mono (ih h1.coherent) fun r c2 ⟨h2, b, hr, hsucc, hall⟩ => ?_
        refine ⟨h1.trans h2, b, hr, fun hb e he => ?_, fun hds => hall fun e he => ?_⟩
        · rcases mem_cons.mp he with rfl | he
          · exact Store.StageSucceeded.mono h2.evolves ⟨j, hj, hst⟩
          · exact hsucc hb e he
        · exact (hds e (mem_cons_of_mem _ he)).mono h1.evolves
      · rw [if_neg hst]
        refine ⟨h1, false, rfl, fun h => (by cases h), fun hall => ?_⟩
        obtain ⟨j', hget, hst'⟩ := hfound (hall d (mem_cons_self ..))
        rw [hj] at hget
        cases hget
        exact absurd hst' hst

theorem keeps_conditionalSucceeded (plan : ExecutionPlan) (ds : List String)
    (hc : Coherent env.graph c) :
    Keeps env x y i l (conditionalSucceeded plan ds) (fun r c' => Calm env.graph x i l c c' ∧
      ∃ b, r = .ok b ∧ (b = true → ∀ d ∈ ds, (plan.stage d).any (·.selected) = true →
          c'.state.StageSucceeded plan.runId d) ∧
        ((∀ d ∈ ds, (plan.stage d).any (·.selected) = true →
          c.state.StageSucceeded plan.runId d) → b = true)) c := by
  induction ds generalizing c with
  | nil => exact ⟨.refl hc, true, rfl, fun _ d hd => (by cases hd), fun _ => rfl⟩
  | cons d rest ih =>
    refine keeps_read fun c1 v h1 hj _ => ?_
    change c1.state.getStageJob plan.runId d = v at hj
    split <;> rename_i hstop
    · rw [Bool.and_eq_true, Bool.not_eq_true'] at hstop
      refine ⟨h1, false, rfl, fun h => (by cases h), fun hall => ?_⟩
      obtain ⟨j, hget, hst⟩ := (hall d (mem_cons_self ..) hstop.1).mono h1.evolves
      rw [hget] at hj
      simp [← hj, hst] at hstop
    · refine wp_mono (ih h1.coherent) fun r c2 ⟨h2, b, hr, hsucc, hall⟩ => ?_
      refine ⟨h1.trans h2, b, hr, fun hb e he hsel => ?_, fun hds => hall fun e he hsel => ?_⟩
      · rcases mem_cons.mp he with rfl | he
        · rw [hsel, Bool.true_and, Bool.not_eq_true', Bool.not_eq_false, Option.any_eq_true] at hstop
          obtain ⟨j, hget, hst⟩ := hstop
          exact Store.StageSucceeded.mono h2.evolves ⟨j, hj.trans hget, by simpa using hst⟩
        · exact hsucc hb e he hsel
      · exact (hds e (mem_cons_of_mem _ he) hsel).mono h1.evolves

/-- **`_dependencies_succeeded` is right**: what it reports holds from then on, and it misses
nothing. -/
theorem keeps_dependenciesSucceeded (plan : ExecutionPlan) (stageId : String)
    (hc : Coherent env.graph c) :
    Keeps env x y i l (dependenciesSucceeded plan stageId) (fun r c' =>
      Calm env.graph x i l c c' ∧ ∃ b, r = .ok b ∧
        (b = true → ∃ st, plan.stage stageId = some st ∧ c'.state.Satisfied plan st) ∧
        (∀ st, plan.stage stageId = some st → c.state.Satisfied plan st → b = true)) c := by
  unfold dependenciesSucceeded
  cases hst : plan.stage stageId with
  | none => exact ⟨.refl hc, false, rfl, fun h => (by cases h), fun _ h => (by cases h)⟩
  | some st =>
    refine keeps_bind (keeps_hardSucceeded plan.runId st.dependencies hc) ?_ ?_
    swap
    · rintro e c1 ⟨_, b, hr, _⟩
      cases hr
    rintro v c1 ⟨h1, b, hr, hhard, hall⟩
    cases hr
    by_cases hv : v = true
    · rw [if_pos hv]
      refine wp_mono (keeps_conditionalSucceeded plan st.conditionalDependencies
        h1.coherent) fun r c2 ⟨h2, b, hr, hcond, hcall⟩ => ?_
      refine ⟨h1.trans h2, b, hr, fun hb => ⟨st, rfl, ?_, hcond hb⟩, ?_⟩
      · exact fun d hd => (hhard hv d hd).mono h2.evolves
      · rintro st' hst' hsat
        cases hst'
        exact hcall fun d hd hsel => (hsat.2 d hd hsel).mono h1.evolves
    · rw [if_neg hv]
      refine ⟨h1, false, rfl, fun h => (by cases h), ?_⟩
      rintro st' hst' hsat
      cases hst'
      exact absurd (hall hsat.1) hv

/-! ## Scheduling -/

/-- A stage whose dependencies have succeeded under a plan the worker knows may be
enqueued. -/
theorem Store.Knows.ready {plan : ExecutionPlan} (hk : s.Knows graph plan)
    (hst : plan.stage stageId = some st) (hsat : s.Satisfied plan st) :
    ∀ p st', s.getExecutionPlan plan.runId = some p → p.planId = plan.planId →
      p.stage stageId = some st' → ∀ d ∈ st'.dependencies, s.StageSucceeded plan.runId d := by
  intro p st' hp _ hst' d hd
  obtain ⟨_, q, hq, he⟩ := hk
  rw [hp] at hq
  cases hq
  obtain ⟨t, ht, hshape⟩ := he.stage hst
  rw [hst'] at ht
  cases ht
  rw [hshape.dependencies] at hd
  exact hsat.1 d hd

theorem Store.hasStageJob_enqueue {stableId : StableKey → String} {planId : String}
    {parentJobId : Option String} {availableAt : Instant} {r : JobRecord}
    (h : enqueueStageJob stableId runId planId stageId parentJobId availableAt s =
      .ok (r, s')) : s'.HasStageJob runId stageId := by
  obtain ⟨plan, stage, _, _, hstage, ⟨hget, rfl⟩ | ⟨hnone, hr, hins⟩⟩ := enqueueStageJob_ok h
  · exact Option.isSome_iff_exists.mpr ⟨r, hget⟩
  obtain ⟨jobs, hjobs, rfl⟩ := insertJob_ok hins
  unfold Store.HasStageJob getStageJob
  rw [find?_isSome]
  refine ⟨r, ?_, ?_⟩
  · rw [Table.insert?_rows hjobs]
    exact mem_append_right _ (mem_singleton_self r)
  · rw [hr]
    simp [stageJobRow, ExecutionPlan.stage_stageId hstage]

theorem ExecutionPlan.stage_of_mem {p : ExecutionPlan} (h : st ∈ p.stages) :
    p.stage st.stageId = some st :=
  Table.find?_of_mem (t := ⟨p.stages, p.stageIds_nodup⟩) h

variable (plan : ExecutionPlan) (parentJobId : Option String)

theorem keeps_scheduleStages (stages : List StageSpec) (count : Nat) (hc : Coherent env.graph c)
    (hk : c.state.Knows env.graph plan) (hrun : (c.state.getRun plan.runId).isSome)
    (hsub : ∀ st ∈ stages, st ∈ plan.stages) :
    Keeps env x y i l (scheduleStages plan parentJobId stages count) (fun r c' =>
      Calm env.graph x i l c c' ∧ ∀ n, r = .ok n → ∀ st ∈ stages, st.selected = true →
        c.state.Satisfied plan st → c'.state.HasStageJob plan.runId st.stageId) c := by
  induction stages generalizing c count with
  | nil => exact ⟨.refl hc, fun _ _ st hst => by cases hst⟩
  | cons stage rest ih =>
    have hrest : ∀ st ∈ rest, st ∈ plan.stages := fun st hst => hsub st (mem_cons_of_mem _ hst)
    have hstage := ExecutionPlan.stage_of_mem (hsub stage (mem_cons_self ..))
    -- the rest of the loop, from a configuration in which this stage is settled
    have hgo : ∀ (c1 : Scene) (n : Nat), Calm env.graph x i l c c1 →
        (stage.selected = true → c.state.Satisfied plan stage →
          c1.state.HasStageJob plan.runId stage.stageId) →
        Keeps env x y i l (scheduleStages plan parentJobId rest n) (fun r c' =>
          Calm env.graph x i l c c' ∧ ∀ n, r = .ok n → ∀ st ∈ stage :: rest, st.selected = true →
            c.state.Satisfied plan st → c'.state.HasStageJob plan.runId st.stageId) c1 := by
      intro c1 n h1 hthis
      refine wp_mono (ih n h1.coherent (hk.mono h1.evolves) (h1.evolves.run_isSome hrun)
        hrest) fun r c2 ⟨h2, hjobs⟩ => ?_
      refine ⟨h1.trans h2, fun n hr st hst hsel hsat => ?_⟩
      rcases mem_cons.mp hst with rfl | hst
      · exact (hthis hsel hsat).mono h2.evolves
      · exact hjobs n hr st hst hsel (hsat.mono h1.evolves)
    unfold scheduleStages
    by_cases hsel : stage.selected = true
    swap
    · rw [if_neg hsel]
      exact hgo c count (.refl hc) fun h => absurd h hsel
    rw [if_pos hsel]
    refine keeps_bind (keeps_dependenciesSucceeded plan stage.stageId hc) ?_ ?_
    swap
    · rintro e c1 ⟨_, b, hr, _⟩
      cases hr
    rintro v c1 ⟨h1, b, hr, hdeps, hall⟩
    cases hr
    by_cases hv : v = true
    swap
    · rw [if_neg hv]
      exact hgo c1 count h1 fun _ hsat => absurd (hall stage hstage hsat) hv
    rw [if_pos hv]
    obtain ⟨st, hst, hsat⟩ := hdeps hv
    rw [hstage] at hst
    cases hst
    refine keeps_read fun c2 v h2 hj _ => ?_
    change c2.state.getStageJob plan.runId stage.stageId = v at hj
    cases v with
    | some j =>
      exact hgo c2 count (h1.trans h2) fun _ _ => by
        unfold Store.HasStageJob
        rw [hj]
        rfl
    | none =>
      refine keeps_now fun c3 t h3 => ?_
      have h13 := (h1.trans h2).trans h3
      refine keeps_write rfl (fun c4 h4 => ?_) (fun c4 v s h4 htx => ?_) fun c4 e h4 => ?_
      · have hev := (h13.trans h4).evolves
        exact ⟨hev.run_isSome hrun,
          (hk.mono hev).ready hstage (hsat.mono ((h2.trans h3).trans h4).evolves)⟩
      · exact hgo c4 (count + 1) (h13.trans h4) fun _ _ => hasStageJob_enqueue htx
      · exact ⟨h13.trans h4, fun n hr => by cases hr⟩

/-- **`_schedule_ready` leaves no ready stage behind.** -/
theorem keeps_scheduleReady (hc : Coherent env.graph c) (hk : c.state.Knows env.graph plan)
    (hrun : (c.state.getRun plan.runId).isSome) :
    Keeps env x y i l (scheduleReady plan parentJobId) (fun r c' =>
      Calm env.graph x i l c c' ∧ ∀ n, r = .ok n → ∀ st ∈ plan.stages, st.selected = true →
        c.state.Satisfied plan st → c'.state.HasStageJob plan.runId st.stageId) c :=
  keeps_scheduleStages plan parentJobId plan.stages 0 hc hk hrun fun _ h => h

theorem Store.Evolves.run_eq (h : s.Evolves s') {run r : RunRecord} (hr : s.getRun runId = some run)
    (hr' : s'.getRun runId = some r) (hrev : r.revision = run.revision) : r = run := by
  obtain ⟨r', hget, he⟩ := h.getRun hr
  rw [hr'] at hget
  cases hget
  rcases he.revision with heq | hlt
  · exact heq
  · omega

theorem Store.Evolves.updateRunOk (h : s.Evolves s') {run : RunRecord} {status : RunStatus}
    (hr : s.getRun runId = some run) (hnc : run.status ≠ .cancelled)
    (hsucc : run.status = .succeeded → status = .succeeded ∨ status = .cancelled) :
    s'.UpdateRunOk { run with status := status } run.revision := by
  have hid := getRun_runId hr
  refine ⟨fun r hr' hrev => ?_⟩
  change s'.getRun run.runId = some r at hr'
  rw [hid] at hr'
  obtain rfl := h.run_eq hr hr' hrev
  exact ⟨rfl, hnc, hsucc⟩

theorem FinalizedCancelled.mono {A : Act → Prop} {stored : JobRecord} (h : Quiet x A i l c c')
    (hf : FinalizedCancelled i c runId stored) : FinalizedCancelled i c' runId stored := by
  obtain ⟨hst, hrun, lease, attempt, result, status, now, retries, availableAt, hd⟩ := hf
  exact ⟨hst, hrun, lease, attempt, result, status, now, retries, availableAt, h.did hd⟩

/-- **`_set_run_status` leaves terminal runs alone**, except that it cancels. -/
theorem keeps_setRunStatus (runId : String) (status : RunStatus) (allow : Bool)
    (hns : status ≠ .succeeded)
    (hcan : status = .cancelled → ∃ stored, FinalizedCancelled i c runId stored) :
    Keeps env x y i l (setRunStatus runId status allow)
      (fun _ c' => Calm env.graph x i l c c') c := by
  refine keeps_readLast fun c0 v _ h0 h1 hv _ => ?_
  change c0.state.getRun runId = v at hv
  cases v with
  | none => exact h1
  | some run =>
    dsimp only
    split
    · exact h1
    split
    · exact h1
    split
    · exact h1
    rename_i hterm _ hsame
    have hnc : run.status ≠ .cancelled := by
      intro heq
      by_cases hst : status = .cancelled
      · exact hsame (heq.trans hst.symm)
      · exact hterm ⟨.inl heq, hst⟩
    have hsucc : run.status = .succeeded → status = .succeeded ∨ status = .cancelled := by
      intro heq
      by_contra hne
      exact hterm ⟨.inr heq, fun h => hne (.inr h)⟩
    have hid : run.runId = runId := getRun_runId hv
    refine keeps_tryCatch (P := fun _ c' => Calm env.graph x i l c c')
      (keeps_write rfl (fun c2 h2 => ?_) (fun c2 _ _ h2 _ => h1.trans h2)
        fun c2 _ h2 => h1.trans h2) (fun _ _ h => h) fun e c2 h2 => ?_
    · refine ⟨h2.evolves.updateRunOk hv hnc hsucc, fun h => absurd h hns, fun h => ?_⟩
      change ReadCancelled i c2 run.runId run.revision
      rw [hid]
      obtain ⟨stored, hstored⟩ := hcan h
      exact ⟨stored, run, _, _, h2.suffix, hstored.mono h0.toQuiet, rfl⟩
    · cases e
      case concurrencyConflict detail =>
        refine keeps_read fun c3 v h3 _ _ => ?_
        cases v with
        | none => exact h2.trans h3
        | some latest =>
          dsimp only
          split
          · exact h2.trans h3
          · exact h2.trans h3
      all_goals exact h2

/-! ## Completion -/

theorem GatePassed.mono {A : Act → Prop} {g : GateEvidence} {a : ArtifactRef}
    (h : Quiet x A i l c c') (hg : GatePassed i c runId g a) : GatePassed i c' runId g a where
  evidence := h.evolves.getGateEvidence hg.evidence
  artifact := h.evolves.getArtifact hg.artifact
  passed := hg.passed
  published := hg.published
  stat := h.did hg.stat
  verified := h.did hg.verified
  report := by
    obtain ⟨report, hd, hrest⟩ := hg.report
    exact ⟨report, h.did hd, hrest⟩

theorem keeps_reportAgrees (evidence : GateEvidence) (artifact : ArtifactRef) :
    Keeps env x y i l (reportAgrees evidence artifact) (fun r c' => Calm env.graph x i l c c' ∧
      (r = .ok true → c'.Did i (.observe (.stat artifact)) (.ok artifact) ∧
        c'.Did i (.observe (.verify artifact)) (.ok .verified) ∧
        ∃ report, c'.Did i (.observe (.report artifact)) (.ok report) ∧
          report.runId = evidence.validationReportRunId ∧
          report.reportId = evidence.validationReportId ∧ report.g6Status = evidence.status ∧
          report.g6Eligible = true)) c := by
  refine keeps_observe rfl (fun c1 stored h1 hd1 => ?_) fun c1 e h1 => ⟨h1, fun h => by cases h⟩
  split
  swap
  · exact ⟨h1, fun h => by cases h⟩
  rename_i hstored
  change ArtifactRef at stored
  subst hstored
  refine keeps_observe rfl (fun c2 integrity h2 hd2 => ?_)
    fun c2 e h2 => ⟨h1.trans h2, fun h => by cases h⟩
  split
  swap
  · exact ⟨h1.trans h2, fun h => by cases h⟩
  rename_i hver
  change ArtifactIntegrityState at integrity
  subst hver
  refine keeps_observe rfl (fun c3 report h3 hd3 => ?_)
    fun c3 e h3 => ⟨(h1.trans h2).trans h3, fun h => by cases h⟩
  refine ⟨(h1.trans h2).trans h3, fun h => ?_⟩
  have hb := Except.ok.inj h
  simp only [Bool.and_eq_true, decide_eq_true_eq] at hb
  exact ⟨(h2.trans h3).did hd1, h3.did hd2, report, hd3, hb.1.1.1, hb.1.1.2, hb.1.2, hb.2⟩

/-- **What `_valid_g6_evidence` has seen when it says yes.** -/
theorem keeps_validG6Evidence (runId : String) :
    Keeps env x y i l (validG6Evidence runId) (fun r c' => Calm env.graph x i l c c' ∧
      (r = .ok true → ∃ g a, GatePassed i c' runId g a)) c := by
  refine keeps_read fun c1 v h1 hg _ => ?_
  change c1.state.getGateEvidence _ runId = v at hg
  cases v with
  | none => exact ⟨h1, fun h => by cases h⟩
  | some g =>
    dsimp only
    split
    swap
    · exact ⟨h1, fun h => by cases h⟩
    rename_i hpass
    refine keeps_read fun c2 v h2 ha _ => ?_
    change c2.state.getArtifact g.validationReportArtifactId = v at ha
    cases v with
    | none => exact ⟨h1.trans h2, fun h => by cases h⟩
    | some a =>
      dsimp only
      split
      swap
      · exact ⟨h1.trans h2, fun h => by cases h⟩
      rename_i hpub
      refine keeps_tryCatch (keeps_reportAgrees g a) ?_ ?_
      · rintro b c3 ⟨h3, hagree⟩
        refine ⟨(h1.trans h2).trans h3, fun hb => ⟨g, a, ?_⟩⟩
        obtain ⟨hstat, hver, hrep⟩ := hagree hb
        exact
          { evidence := (h2.trans h3).evolves.getGateEvidence hg
            artifact := h3.evolves.getArtifact ha
            passed := hpass
            published := hpub
            stat := hstat
            verified := hver
            report := hrep }
      · rintro e c3 ⟨h3, _⟩
        split
        · exact ⟨(h1.trans h2).trans h3, fun h => by cases h⟩
        · exact ⟨(h1.trans h2).trans h3, fun h => by cases h⟩

theorem exists_raw {from' : RawStage → StageSpec → Prop} {raws : List RawStage}
    {stages : List StageSpec} (h : Forall₂ from' raws stages) (hst : st ∈ stages) :
    ∃ raw ∈ raws, from' raw st := by
  induction h with
  | nil => cases hst
  | cons hfrom _ ih =>
    rcases mem_cons.mp hst with rfl | hst
    · exact ⟨_, mem_cons_self .., hfrom⟩
    · obtain ⟨raw, hraw, hf⟩ := ih hst
      exact ⟨raw, mem_cons_of_mem _ hraw, hf⟩

/-- Only a complete plan has a final validation. -/
theorem ExecutionPlan.InPhase.complete_of_final {p : ExecutionPlan} (h : p.InPhase graph)
    (hst : st ∈ p.stages) (hfinal : st.finalValidation = true) : p.planningPhase = .complete := by
  rcases h with h | h
  · exact h
  obtain ⟨raw, hraw, hfrom⟩ := exists_raw h hst
  rw [StageGraph.restrict, mem_filter] at hraw
  have hid : raw.stageId = "VALIDATION_RECONCILIATION" := by
    simpa [hfinal] using hfrom.finalValidation.symm
  have hin := hraw.2
  rw [hid] at hin
  cases hph : p.planningPhase with
  | complete => rfl
  | bootstrap => rw [hph] at hin; revert hin; decide
  | sourceResolved => rw [hph] at hin; revert hin; decide

theorem Store.mem_listJobs {n : Nat} {j : JobRecord} (h : j ∈ s.listJobs runId n) :
    j ∈ s.jobs.rows ∧ j.runId = runId := by
  have hmem := mem_of_mem_take h
  rw [mem_insertionSort, mem_filter] at hmem
  exact ⟨hmem.1, by simpa using hmem.2⟩

theorem Store.Inv.getStageJob_of_mem (hi : s.Inv graph) {j : JobRecord} (hj : j ∈ s.jobs.rows)
    (hs : j.stageId = some stageId) : s.getStageJob j.runId stageId = some j := by
  cases hget : s.getStageJob j.runId stageId with
  | none => exact absurd (find?_eq_none.mp hget j hj) (by simp [hs])
  | some k =>
    obtain ⟨hk, hrun, hstage⟩ := getStageJob_spec hget
    rw [hi.stages k hk j hj hrun (hstage.trans hs.symm) (by rw [hstage]; simp)]

/-- **`_maybe_complete_run` writes success only with its reasons at hand.** -/
theorem keeps_maybeCompleteRun (hc : Coherent env.graph c) (hk : c.state.Knows env.graph plan) :
    Keeps env x y i l (maybeCompleteRun plan) (fun _ c' => Calm env.graph x i l c c') c := by
  unfold maybeCompleteRun
  split
  swap
  · exact .refl hc
  rename_i hfinal
  refine keeps_read fun c1 jobs h1 hjobs _ => ?_
  change c1.state.listJobs plan.runId 10000 = jobs at hjobs
  split
  swap
  · exact h1
  rename_i hall
  refine keeps_bind (keeps_validG6Evidence plan.runId) ?_ fun e c2 h2 => h1.trans h2.1
  rintro ok c2 ⟨h2, hgate⟩
  have h12 := h1.trans h2
  split
  swap
  · exact wp_mono (keeps_setRunStatus plan.runId .blocked false (by simp) (by simp)) fun _ c3 h3 => h12.trans h3
  rename_i hok
  refine keeps_read fun c3 v h3 hrun _ => ?_
  change c3.state.getRun plan.runId = v at hrun
  have h13 := h12.trans h3
  cases v with
  | none => exact h13
  | some run =>
    dsimp only
    split
    · exact h13
    rename_i hst
    refine keeps_write rfl (fun c4 h4 => ?_) (fun c4 _ _ h4 _ => h13.trans h4)
      fun c4 _ h4 => h13.trans h4
    have hid : run.runId = plan.runId := getRun_runId hrun
    refine ⟨h4.evolves.updateRunOk hrun (fun h => hst (.inl h)) fun _ => .inl rfl, fun _ => ?_,
      fun h => by cases h⟩
    change c4.state.PlanSucceeded run.runId ∧ ∃ g a, GatePassed i c4 run.runId g a
    rw [hid]
    constructor
    swap
    · obtain ⟨g, a, hg⟩ := hgate (by rw [hok])
      exact ⟨g, a, (hg.mono h3.toQuiet).mono h4.toQuiet⟩
    -- the plan is complete, hence still the stored one
    obtain ⟨st, hstmem, hstfinal⟩ := any_eq_true.mp hfinal
    rw [ExecutionPlan.requiredStages, mem_filter, Bool.and_eq_true] at hstmem
    have hcomplete := hk.1.complete_of_final hstmem.1 hstfinal
    obtain ⟨_, q, hq, he⟩ := hk.mono (h13.trans h4).evolves
    obtain rfl := he.complete hcomplete
    refine ⟨q, hq, hcomplete, ⟨st, hstmem.1, hstmem.2.1, hstmem.2.2, hstfinal⟩, ?_⟩
    intro st' hst' hreq hsel
    have hj := all_eq_true.mp hall st' (mem_filter.mpr ⟨hst', by simp [hreq, hsel]⟩)
    obtain ⟨j, hjob, hjst⟩ := (Option.any_eq_true ..).mp hj
    have hjmem : j ∈ jobs := mem_reverse.mp (mem_of_find?_eq_some hjob)
    have hjstage : j.stageId = some st'.stageId := by simpa using find?_some hjob
    rw [← hjobs] at hjmem
    obtain ⟨hrow, hjrun⟩ := mem_listJobs hjmem
    refine Store.StageSucceeded.mono ((h2.trans h3).trans h4).evolves ⟨j, ?_, by simpa using hjst⟩
    rw [← hjrun]
    exact h1.coherent.inv.getStageJob_of_mem hrow hjstage

end DirtyDataOlap
