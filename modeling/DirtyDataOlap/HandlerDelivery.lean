import DirtyDataOlap.Deployment
import DirtyDataOlap.SystemHistory

/-!
# Handlers are delivered once

Before an iteration invokes the handler it marks the delivery as started, and whoever claims the job
later finds the mark.  As long as a running job is at work on the attempt, its phase does not fall
behind (`Store.Reached`, `Reached.move`).

The fence compares the generation that the worker found when it *re-read* the job: a worker that
claims a job between the first fenced call and the re-read of an earlier iteration of its own lets
that iteration pass.  Where that does not happen (`NotContested`), an attempt is marked at most once
unless its handler may be replayed, and never after its result was recorded.
-/
namespace DirtyDataOlap

open List Record World Store Option

variable {env : Env} {x y : Prop} {w : World}

/-! ## How far a delivery has got -/

/-- The delivery of the attempt has been started, or even recorded. -/
def Store.Reached (s : Store) (attemptId : String) (recorded : Bool) : Prop :=
  (s.getStageAttempt attemptId).isSome ∧
    ∀ row ∈ s.jobs.rows, row.status = .running → row.attemptId = some attemptId →
      row.deliveryPhase = .resultRecorded ∨
        (recorded = false ∧ row.deliveryPhase = .handlerDeliveryStarted)

variable {attemptId : String} {e : Record} {s : Store} {jobId : String} {m : Move} {l : Lease}
  {i : Nat} {trace : List Record}

theorem Store.Evolves.attempt_isSome {s' : Store} (h : s.Evolves s')
    (ha : (s.getStageAttempt attemptId).isSome) : (s'.getStageAttempt attemptId).isSome := by
  obtain ⟨a, ha⟩ := isSome_iff_exists.mp ha
  obtain ⟨a', ha', _⟩ := h.getStageAttempt ha
  exact isSome_iff_exists.mpr ⟨a', ha'⟩

theorem Presents.row {lease : Lease} {row : JobRecord} (hp : Presents x l s lease)
    (hid : row.jobId = lease.jobId) (hrow : s.getJob jobId = some row) :
    s.getJob l.jobId = some row := by
  rw [← hp.jobId, ← hid, getJob_jobId hrow]
  exact hrow

/-- **A delivery does not fall behind**: one sound action. -/
theorem Store.Reached.act {c : Scene} {i : Nat} {l : Lease} {a : Act} {ω : Input}
    {r : Except Exc a.Reply} {s : Store} {attemptId : String} {recorded : Bool}
    (hc : Coherent env.graph c) (hsound : Sound env.graph True i l c a)
    (hexec : exec env a ω c.state = (r, s)) (h : c.state.Reached attemptId recorded) :
    s.Reached attemptId recorded := by
  refine ⟨(hsound.step hc.inv hexec).1.attempt_isSome h.1, fun row' hmem hrun hatt => ?_⟩
  rcases exec_getJob hexec (mem_jobs_iff.mp hmem) with
    ⟨row, hrow, hchange⟩ | ⟨_, _, _, _, _, _, _, _, rfl⟩
  swap
  · cases hrun
  have hold := h.2 row (getJob_mem hrow)
  cases hchange with
  | same => exact hold hrun hatt
  | claim hclaim => exact hsound.elim
  | heartbeat hid hh => exact hold hrun hatt
  | ensureAttempt hid hh hnone hfresh =>
    -- an attempt that exists is not given to a job
    cases hatt
    have hsome := h.1
    rw [hfresh] at hsome
    cases hsome
  | mark hid hh hkind hatt' =>
    obtain ⟨hp, hop⟩ := hsound
    have hl := hp.row hid hrow
    obtain ⟨hne, _⟩ := hop trivial row hl (hp.holds trivial hl hh)
    rcases hold (holds_iff.mp hh).1 hatt with hrec | ⟨hrec, _⟩
    · exact absurd hrec hne
    · exact .inr ⟨hrec, rfl⟩
  | record hid hh hkind hatt' => exact .inl rfl
  | finalize hid hh hatt' hcancelled =>
    obtain ⟨hp, hop⟩ := hsound
    have hfin := (hop.ok row (hp.row hid hrow) (holds_iff.mp hh).1 hatt').final
    change finalStatus _ _ = .running at hrun
    unfold finalStatus at hrun
    split at hrun
    · cases hrun
    · exact absurd hrun hfin.1
  | finalizeCommand hid hh =>
    exact absurd hrun hsound.2.status
  | cancel =>
    obtain ⟨hst, _, _, hphase, hatt', _⟩ := cancelRow_running hrun
    rw [hphase]
    exact hold hst (by rw [← hatt']; exact hatt)
  | resume hst => cases hrun

theorem Store.Reached.move (hk : World.Kept env True y w) {recorded : Bool}
    (h : w.config.state.Reached attemptId recorded) (m : Move) :
    (w.move env m).config.state.Reached attemptId recorded := by
  have hch := hk.change m
  generalize (w.move env m).config = c at hch
  cases hch with
  | idle => exact h
  | act hth hexec hsound => exact h.act hk.coherent hsound hexec
  | claim hclaim =>
    obtain ⟨row, hrow, hclaimable, _, rfl, hok⟩ := hclaim.spec
    refine ⟨(hk.coherent.inv.claimNextJob hok).1.attempt_isSome h.1, fun row' hmem hrun hatt => ?_⟩
    rcases getJob_updateJob_cases (mem_jobs_iff.mp hmem) with
      hrow' | ⟨row1, hid, hrow1, rfl⟩
    · exact h.2 row' (getJob_mem hrow') hrun hatt
    · -- a waiting job has no attempt
      rw [hid, hrow] at hrow1
      cases hrow1
      have hjob := hk.coherent.inv.jobs row (getJob_mem hrow)
      have hsome : row.attemptId = some attemptId := hatt
      have hnone : row.status ≠ .queued ∧ row.status ≠ .retryWait := by
        constructor
        · intro hq
          cases hsome.symm.trans (hjob.waiting (.inl hq)).1
        · intro hq
          cases hsome.symm.trans (hjob.waiting (.inr hq)).1
      have hrunning : row.status = .running := by
        unfold claimable at hclaimable
        simp only [hnone.1, hnone.2, decide_false, Bool.or_false, Bool.false_and, Bool.false_or,
          Bool.and_eq_true, decide_eq_true_eq] at hclaimable
        exact hclaimable.1
      exact h.2 row (getJob_mem hrow) hrunning hatt
  | client hstep =>
    refine ⟨hstep.evolves.attempt_isSome h.1, fun row' hmem hrun hatt => ?_⟩
    rcases hstep.jobs row'.jobId row' (mem_jobs_iff.mp hmem) with hrow | ⟨_, hq, _⟩
    · exact h.2 row' (getJob_mem hrow) hrun hatt
    · rw [hq] at hrun
      cases hrun

/-- The job on an attempt says how far its delivery has got. -/
theorem Store.Reached.of_row {graph : StageGraph} (hi : s.Inv graph) {row : JobRecord}
    (hrow : s.getJob jobId = some row) (hatt : row.attemptId = some attemptId) {recorded : Bool}
    (hphase : row.deliveryPhase = .resultRecorded ∨
      (recorded = false ∧ row.deliveryPhase = .handlerDeliveryStarted)) :
    s.Reached attemptId recorded := by
  have hmem := getJob_mem hrow
  constructor
  · obtain ⟨a, ha, _⟩ := (hi.jobs row hmem).attempt hatt
    exact isSome_iff_exists.mpr ⟨a, ha⟩
  · intro row' hmem' _ hatt'
    rw [hi.active_unique hmem' hmem hatt' hatt]
    exact hphase

/-! ## Marks, records and invocations in the trace -/

def Record.marked : Record → Option JobRecord
  | ⟨_, .fenced _ (.markHandlerDeliveryStarted _), .ok row, _⟩ => some row
  | _ => none

def Record.recorded : Record → Option String
  | ⟨_, .fenced _ (.recordResult attempt _ _), .ok _, _⟩ => some attempt.attemptId
  | _ => none

theorem Record.marked_eq_some {row : JobRecord} (h : marked e = some row) :
    ∃ lease now, e.act = .fenced lease (.markHandlerDeliveryStarted now) ∧
      (Record.Faithful e → e.after.getJob lease.jobId = some row ∧ row.status = .running ∧
        row.deliveryPhase = .handlerDeliveryStarted) := by
  unfold marked at h
  split at h
  · cases h
    exact ⟨_, _, rfl, id⟩
  · cases h

theorem Record.recorded_eq_some (h : recorded e = some attemptId) : Record.Faithful e → ∃ jobId row,
      e.after.getJob jobId = some row ∧ row.deliveryPhase = .resultRecorded ∧
        row.attemptId = some attemptId := by
  unfold recorded at h
  split at h
  · cases h
    exact fun hf => ⟨_, _, hf.1, hf.2.2.1, hf.2.2.2.1⟩
  · cases h

def Record.invokes (jobId attemptId : String) (e : Record) : Bool :=
  e.act.execution.any fun request => request.jobId = jobId && request.attemptId = attemptId

theorem Record.invokes_iff :
    invokes jobId attemptId e = true ↔ ∃ request, e.act.execution = some request ∧
      request.jobId = jobId ∧ request.attemptId = attemptId := by
  unfold invokes
  cases h : e.act.execution with
  | none => simp
  | some request => simp

/-- What the trace says about deliveries: a mark comes before every record and is repeated only for
a job that may be replayed, and an invocation is the only one of its iteration and comes after a
mark of its own. -/
structure Deliveries (env : Env) (w : World) : Prop where
  kept : World.Kept env True False w
  marked : ∀ e ∈ w.config.trace, ∀ row attemptId, Record.marked e = some row →
    row.attemptId = some attemptId → w.config.state.Reached attemptId false
  recorded : ∀ e ∈ w.config.trace, ∀ attemptId, Record.recorded e = some attemptId →
    w.config.state.Reached attemptId true
  first : ∀ e t, (e :: t) <:+ w.config.trace → ∀ row attemptId, Record.marked e = some row →
    row.attemptId = some attemptId → (∀ e' ∈ t, Record.recorded e' ≠ some attemptId) ∧
      ∀ e' ∈ t, ∀ row', Record.marked e' = some row' → row'.attemptId = some attemptId →
        row.replaySafety = .replaySafe
  invocation : ∀ e t, (e :: t) <:+ w.config.trace → ∀ request, e.act.execution = some request →
    (∃ m ∈ t, m.tid = e.tid ∧ ∃ row, Record.marked m = some row ∧ row.jobId = request.jobId ∧
      row.attemptId = some request.attemptId) ∧ ∀ e' ∈ t, e'.tid = e.tid → e'.act.execution = none

theorem deliveries_initial : Deliveries env initial where
  kept := kept_initial
  marked e he := by cases he
  recorded e he := by cases he
  first e t hsuf := by simp [initial] at hsuf
  invocation e t hsuf := by simp [initial] at hsuf

theorem Deliveries.mark_first (h : Deliveries env w) {lease : Lease} {now : Instant} {ω : Input}
    {row : JobRecord}
    (hsound : Sound env.graph True i l w.config (.fenced lease (.markHandlerDeliveryStarted now)))
    (hexec : exec env (.fenced lease (.markHandlerDeliveryStarted now)) ω w.config.state =
      (.ok row, s)) (hatt : row.attemptId = some attemptId) :
    (∀ e ∈ w.config.trace, Record.recorded e ≠ some attemptId) ∧
      ∀ e ∈ w.config.trace, ∀ row', Record.marked e = some row' →
        row'.attemptId = some attemptId → row.replaySafety = .replaySafe := by
  obtain ⟨hp, hop⟩ := hsound
  obtain ⟨row0, _, hrow0, hh, _, _, _, rfl, _⟩ :=
    markHandlerDeliveryStarted_ok (exec_fenced_ok hexec)
  have hl : w.config.state.getJob l.jobId = some row0 := by
    rw [← hp.jobId]
    exact hrow0
  obtain ⟨hne, hsafe⟩ := hop trivial row0 hl (hp.holds trivial hl hh)
  have hrunning := (holds_iff.mp hh).1
  have hatt0 : row0.attemptId = some attemptId := hatt
  constructor
  · intro e he hrec
    rcases (h.recorded e he attemptId hrec).2 row0 (getJob_mem hrow0) hrunning hatt0 with
      hph | ⟨hfalse, _⟩
    · exact hne hph
    · cases hfalse
  · intro e he row' hmark hatt'
    rcases (h.marked e he row' attemptId hmark hatt').2 row0 (getJob_mem hrow0) hrunning
      hatt0 with hph | ⟨_, hph⟩
    · exact absurd hph hne
    · exact hsafe hph

/-- What a sound invocation comes after. -/
theorem World.Kept.invocation (h : World.Kept env True y w) {a : Act}
    (hsound : Sound env.graph True i l w.config a) {request : StageExecutionRequest}
    (hreq : a.execution = some request) :
    (∃ m ∈ w.config.trace, m.tid = i ∧ ∃ row, marked m = some row ∧
      row.jobId = request.jobId ∧ row.attemptId = some request.attemptId) ∧
      ∀ e ∈ w.config.trace, e.tid = i → e.act.execution = none := by
  obtain ⟨key, available, rfl⟩ := Act.execution_eq_some.mp hreq
  have hsound : SoundExecute True i l w.config request := hsound
  constructor
  · obtain ⟨lease, now, row, ⟨s, hmem⟩, hjob, hatt⟩ := hsound.marked
    refine ⟨_, hmem, rfl, row, rfl, ?_, hatt trivial⟩
    have hf : s.getJob lease.jobId = some row := (h.coherent.history.faithful _ hmem).1
    rw [getJob_jobId hf, hjob, hsound.job]
  · rintro ⟨_, b, r, s⟩ hmem rfl
    cases hb : b.execution with
    | none => rfl
    | some request' =>
      obtain ⟨key', available', rfl⟩ := Act.execution_eq_some.mp hb
      exact absurd ⟨s, hmem⟩ (hsound.once key' request' available' r)

section
variable (h : Deliveries env w) (hm : NotContested w m)
include h hm

/-- **Deliveries go on**: one entry is added to the trace. -/
theorem Deliveries.log (htrace : (w.move env m).config.trace = e :: w.config.trace)
    (hafter : (w.move env m).config.state = e.after)
    (hmark : ∀ row attemptId, Record.marked e = some row → row.attemptId = some attemptId →
      (∀ e' ∈ w.config.trace, Record.recorded e' ≠ some attemptId) ∧
        ∀ e' ∈ w.config.trace, ∀ row', Record.marked e' = some row' →
          row'.attemptId = some attemptId → row.replaySafety = .replaySafe)
    (hinvoke : ∀ request, e.act.execution = some request →
      (∃ m ∈ w.config.trace, m.tid = e.tid ∧ ∃ row, Record.marked m = some row ∧
        row.jobId = request.jobId ∧ row.attemptId = some request.attemptId) ∧
        ∀ e' ∈ w.config.trace, e'.tid = e.tid → e'.act.execution = none) :
    Deliveries env (w.move env m) := by
  have hkept : World.Kept env True False (w.move env m) :=
    h.kept.move (fun _ => hm) False.elim False.elim
  have hfaithful : Record.Faithful e :=
    hkept.coherent.history.faithful e (by rw [htrace]; exact mem_cons_self ..)
  refine ⟨hkept, ?_, ?_, ?_, ?_⟩
  · rw [htrace]
    intro e' he' row attemptId hmarked hatt
    rcases mem_cons.mp he' with rfl | he'
    · obtain ⟨lease, now, _, hrow⟩ := Record.marked_eq_some hmarked
      obtain ⟨hrow, _, hphase⟩ := hrow hfaithful
      rw [← hafter] at hrow
      exact .of_row hkept.coherent.inv hrow hatt (.inr ⟨rfl, hphase⟩)
    · exact (h.marked e' he' row attemptId hmarked hatt).move h.kept m
  · rw [htrace]
    intro e' he' attemptId hrec
    rcases mem_cons.mp he' with rfl | he'
    · obtain ⟨jobId, row, hrow, hphase, hatt⟩ := Record.recorded_eq_some hrec hfaithful
      rw [← hafter] at hrow
      exact .of_row hkept.coherent.inv hrow hatt (.inl hphase)
    · exact (h.recorded e' he' attemptId hrec).move h.kept m
  · rw [htrace]
    intro e' t hsuf
    rcases suffix_cons_cases hsuf with ⟨rfl, rfl⟩ | hsuf
    · exact hmark
    · exact h.first e' t hsuf
  · rw [htrace]
    intro e' t hsuf
    rcases suffix_cons_cases hsuf with ⟨rfl, rfl⟩ | hsuf
    · exact hinvoke
    · exact h.invocation e' t hsuf

theorem Deliveries.idle
    (htrace : (w.move env m).config.trace = w.config.trace) : Deliveries env (w.move env m) where
  kept := h.kept.move (fun _ => hm) False.elim False.elim
  marked := by
    rw [htrace]
    exact fun e he row attemptId hmark hatt => (h.marked e he row attemptId hmark hatt).move h.kept m
  recorded := by
    rw [htrace]
    exact fun e he attemptId hrec => (h.recorded e he attemptId hrec).move h.kept m
  first := by
    rw [htrace]
    exact h.first
  invocation := by
    rw [htrace]
    exact h.invocation

theorem Deliveries.move : Deliveries env (w.move env m) := by
  have hch := h.kept.change m
  generalize hc : (w.move env m).config = c at hch
  cases hch with
  | idle => exact h.idle hm (congrArg Config.trace hc)
  | @act i ω l a k r s hth hexec hsound =>
    refine h.log hm (congrArg Config.trace hc) (congrArg Config.state hc) ?_
      fun request hreq => h.kept.invocation hsound hreq
    intro row attemptId hmark hatt
    obtain ⟨lease, now, rfl, _⟩ := Record.marked_eq_some hmark
    cases r with
    | error e => cases hmark
    | ok reply =>
      cases hmark
      exact h.mark_first hsound hexec hatt
  | claim hclaim =>
    exact h.log hm (congrArg Config.trace hc) (congrArg Config.state hc)
      (fun row attemptId hmark => by cases hmark) (fun request hreq => by cases hreq)
  | client hstep => exact h.idle hm rfl

end

/-! ## At most once -/

theorem mem_or_after {m : Record} {t : List Record} (hsuf : (e :: t) <:+ trace) (hm : m ∈ trace) :
    m ∈ e :: t ∨ ∃ t', (m :: t') <:+ trace ∧ e ∈ t' := by
  obtain ⟨new, rfl⟩ := hsuf
  rcases mem_append.mp hm with hm | hm
  · obtain ⟨new1, new2, rfl⟩ := append_of_mem hm
    refine .inr ⟨new2 ++ e :: t, ⟨new1, by simp⟩, ?_⟩
    exact mem_append_right _ (mem_cons_self ..)
  · exact .inl hm

theorem before_or_after {e1 e2 : Record} (h1 : e1 ∈ trace) (h2 : e2 ∈ trace) (hne : e1 ≠ e2) :
    (∃ t, (e1 :: t) <:+ trace ∧ e2 ∈ t) ∨ ∃ t, (e2 :: t) <:+ trace ∧ e1 ∈ t := by
  obtain ⟨new, t, ht⟩ := append_of_mem h1
  have hsuf : (e1 :: t) <:+ trace := ⟨new, ht.symm⟩
  rcases mem_or_after hsuf h2 with hmem | hafter
  · rcases mem_cons.mp hmem with rfl | hmem
    · exact absurd rfl hne
    · exact .inl ⟨t, hsuf, hmem⟩
  · exact .inr hafter

theorem countP_le_one {p : Record → Bool}
    (h : ∀ e t, (e :: t) <:+ trace → p e = true → ∀ e' ∈ t, p e' = false) : trace.countP p ≤ 1 := by
  induction trace with
  | nil => simp
  | cons e trace ih =>
    have hrest := ih fun e' t hsuf => h e' t (hsuf.trans (suffix_cons ..))
    rw [countP_cons]
    by_cases he : p e = true
    · have hzero : trace.countP p = 0 := countP_eq_zero.mpr fun e' he' => by
        rw [h e trace suffix_rfl he e' he']
        simp
      rw [hzero, if_pos he]
    · rw [if_neg he]
      exact hrest

theorem Deliveries.same_iteration (h : Deliveries env w) {m1 m2 : Record}
    (hm1 : m1 ∈ w.config.trace) (hm2 : m2 ∈ w.config.trace) {row1 row2 : JobRecord}
    (hmark1 : Record.marked m1 = some row1) (hmark2 : Record.marked m2 = some row2)
    (hatt1 : row1.attemptId = some attemptId) (hatt2 : row2.attemptId = some attemptId)
    (hsafe1 : row1.replaySafety ≠ .replaySafe) (hsafe2 : row2.replaySafety ≠ .replaySafe) :
    m1.tid = m2.tid := by
  by_contra hne
  rcases before_or_after hm1 hm2 (fun heq => hne (by rw [heq])) with ⟨t, hsuf, hmem⟩ | ⟨t, hsuf, hmem⟩
  · exact hsafe1 ((h.first m1 t hsuf row1 attemptId hmark1 hatt1).2 m2 hmem row2 hmark2 hatt2)
  · exact hsafe2 ((h.first m2 t hsuf row2 attemptId hmark2 hatt2).2 m1 hmem row1 hmark1 hatt1)

theorem World.Kept.marked_row (h : World.Kept env x y w) {m : Record} (hm : m ∈ w.config.trace)
    {marked row : JobRecord} (hmark : Record.marked m = some marked)
    (hrow : w.config.state.getJob marked.jobId = some row) :
    marked.replaySafety = row.replaySafety := by
  obtain ⟨lease, now, _, hget⟩ := marked_eq_some hmark
  obtain ⟨hget, _⟩ := hget (h.coherent.history.faithful m hm)
  obtain ⟨row', hrow', he⟩ := (h.coherent.history.evolves m hm).getJob hget
  rw [← getJob_jobId hget, hrow] at hrow'
  cases hrow'
  exact he.replaySafety.symm

/-- **An attempt that may not be replayed is invoked at most once.** -/
theorem Deliveries.invoked_once (h : Deliveries env w) {row : JobRecord}
    (hrow : w.config.state.getJob jobId = some row) (hsafe : row.replaySafety ≠ .replaySafe)
    (attemptId : String) : w.config.trace.countP (Record.invokes jobId attemptId) ≤ 1 := by
  refine countP_le_one fun e t hsuf he e' he' => ?_
  by_contra hinv
  obtain ⟨request, hreq, hjob, hatt⟩ := Record.invokes_iff.mp he
  obtain ⟨request', hreq', hjob', hatt'⟩ := Record.invokes_iff.mp (by simpa using hinv)
  obtain ⟨⟨m, hm, htid, marked, hmark, hmjob, hmatt⟩, honly⟩ := h.invocation e t hsuf request hreq
  obtain ⟨t', t'', ht⟩ := append_of_mem he'
  have hsuf' : (e' :: t'') <:+ w.config.trace :=
    (show (e' :: t'') <:+ t from ⟨t', ht.symm⟩).trans ((suffix_cons e t).trans hsuf)
  obtain ⟨⟨m', hm', htid', marked', hmark', hmjob', hmatt'⟩, _⟩ :=
    h.invocation e' t'' hsuf' request' hreq'
  have hmem : m ∈ w.config.trace := hsuf.subset (mem_cons_of_mem _ hm)
  have hmem' : m' ∈ w.config.trace := hsuf'.subset (mem_cons_of_mem _ hm')
  have hsafe1 : marked.replaySafety ≠ .replaySafe := by
    rw [h.kept.marked_row hmem hmark (by rw [hmjob, hjob]; exact hrow)]
    exact hsafe
  have hsafe2 : marked'.replaySafety ≠ .replaySafe := by
    rw [h.kept.marked_row hmem' hmark' (by rw [hmjob', hjob']; exact hrow)]
    exact hsafe
  have hsame := h.same_iteration hmem hmem' hmark hmark' (hmatt.trans (congrArg some hatt))
    (hmatt'.trans (congrArg some hatt')) hsafe1 hsafe2
  rw [htid, htid'] at hsame
  rw [honly e' he' hsame.symm] at hreq'
  cases hreq'

/-- **A recorded attempt is not invoked by a later iteration.** -/
theorem Deliveries.not_after_record (h : Deliveries env w) {t : List Record}
    (hsuf : (e :: t) <:+ w.config.trace) (hrec : Record.recorded e = some attemptId)
    (hlater : ∀ e' ∈ e :: t, e'.tid ≠ i) {e' : Record} (he' : e' ∈ w.config.trace) (hi : e'.tid = i)
    (jobId : String) : Record.invokes jobId attemptId e' = false := by
  by_contra hinv
  obtain ⟨request, hreq, _, hatt⟩ := Record.invokes_iff.mp (by simpa using hinv)
  obtain ⟨t1, t2, ht⟩ := append_of_mem he'
  obtain ⟨⟨m, hm, htid, marked, hmark, _, hmatt⟩, _⟩ := h.invocation e' t2 ⟨t1, ht.symm⟩ request hreq
  have hmem : m ∈ w.config.trace := by
    rw [ht]
    exact mem_append_right _ (mem_cons_of_mem _ hm)
  have hmi : m.tid = i := htid.trans hi
  rcases mem_or_after hsuf hmem with hbefore | ⟨t', hsuf', hmem'⟩
  · exact hlater m hbefore (htid.trans hi)
  · rw [hatt] at hmatt
    exact (h.first m t' hsuf' marked attemptId hmark hmatt).1 e hmem' hrec

/-- Every schedule in which no re-read is contested keeps track of its deliveries. -/
theorem deliveries_run (moves : List Move) (hok : ∀ ms1 m ms2, moves = ms1 ++ m :: ms2 →
    NotContested (run env initial ms1) m) : Deliveries env (run env initial moves) := by
  have hstep : ∀ (w : World) (m : Move), Deliveries env w → NotContested w m →
      Deliveries env (w.move env m) := fun _ _ h hm => h.move hm
  exact run_induction hstep _ deliveries_initial moves hok

/-- **Handlers are delivered at most once for each attempt** that is not replay safe, as long as no
iteration re-reads its job after its worker has claimed it again; and no iteration that begins after
a result was recorded invokes the handler. -/
theorem handler_delivered_once (moves : List Move) (hok : ∀ ms1 m ms2, moves = ms1 ++ m :: ms2 →
    NotContested (run env initial ms1) m) :
    (∀ jobId row, (run env initial moves).config.state.getJob jobId = some row →
      row.replaySafety ≠ .replaySafe → ∀ attemptId, (run env initial
        moves).config.trace.countP (Record.invokes jobId attemptId) ≤ 1) ∧
    ∀ e t attemptId, (e :: t) <:+ (run env initial moves).config.trace →
      Record.recorded e = some attemptId → ∀ i, (∀ e' ∈ e :: t, e'.tid ≠ i) →
      ∀ e' ∈ (run env initial moves).config.trace, e'.tid = i →
        ∀ jobId, Record.invokes jobId attemptId e' = false := by
  have h := deliveries_run moves hok
  exact ⟨fun jobId row hrow hsafe attemptId => h.invoked_once hrow hsafe attemptId,
    fun e t attemptId hsuf hrec i hlater e' he' hi jobId =>
      h.not_after_record hsuf hrec hlater he' hi jobId⟩

/-- A check that no re-read is contested. -/
def notContested (w : World) : Move → Bool
  | .step i _ => (w.threads[i]?).all fun t =>
    !(w.config.trace.find? fun e => e.tid = i).any ensuresAttempt ||
      (w.config.state.getJob t.label.jobId).all fun row =>
        row.leaseOwner ≠ some t.label.workerId || row.leaseGeneration = t.label.generation
  | _ => true

theorem notContested_spec (h : notContested w m = true) : NotContested w m := by
  cases m with
  | step i ω =>
    intro t ht hreads row hrow howner
    unfold notContested at h
    unfold Rereads at hreads
    simp only [ht, all_some, hreads, hrow, howner, Bool.not_true, Bool.false_or, ne_eq,
      not_true_eq_false, decide_false] at h
    exact of_decide_eq_true h
  | runOnce cfg now => trivial
  | crash i => trivial
  | client op => trivial

/-- A worker invokes the handler and crashes; its lease expires, and another worker finds
the mark. -/
def abandoned : List Move :=
  submission samplePlan ++ [.runOnce {} 0] ++ steps 0 5 {} ++ [.runOnce {} 0] ++ steps 1 11 {} ++
    [.crash 1, .runOnce { workerId := "worker-2" } 31000000] ++ steps 2 14 { clock := 31000000 }

theorem handler_delivered_once_abandoned : (run deployment initial abandoned).config.trace.countP
      (invokes "stage-job-run-1-PROFILING" "attempt-stage-job-run-1-PROFILING-1") = 1 ∧
    (run deployment initial abandoned).config.trace.countP
      (invokes "stage-job-run-1-PROFILING" "attempt-stage-job-run-1-PROFILING-1") ≤ 1 := by
  refine ⟨by decide +kernel, ?_⟩
  have hsafe : ((run deployment initial abandoned).config.state.getJob
      "stage-job-run-1-PROFILING").map (·.replaySafety) = some .reconciliationRequiredOnUnknown := by decide +kernel
  have hcheck : checks deployment notContested initial abandoned = true := by
    decide +kernel
  obtain ⟨row, hrow, hsafe⟩ := map_eq_some_iff.mp hsafe
  exact (handler_delivered_once abandoned fun ms1 m ms2 heq =>
    notContested_spec (checks_spec hcheck ms1 m ms2 heq)).1 _ row hrow (by rw [hsafe]; simp) _

/-- A process stalls between getting its attempt and re-reading its job; its lease expires, and
another process of the worker claims the job again.  Both go on. -/
def contested : List Move :=
  submission samplePlan ++ [.runOnce {} 0] ++ steps 0 5 {} ++ [.runOnce {} 0] ++ steps 1 2 {} ++
    [.runOnce {} 31000000] ++ steps 1 1 {} ++ steps 2 11 { clock := 31000000 } ++ steps 1 7 {}

/-- An attempt that may not be replayed is invoked twice. -/
theorem handler_delivered_twice : ((run deployment initial contested).config.state.getJob
      "stage-job-run-1-PROFILING").map (·.replaySafety) = some .reconciliationRequiredOnUnknown ∧
    (run deployment initial contested).config.trace.countP
      (invokes "stage-job-run-1-PROFILING" "attempt-stage-job-run-1-PROFILING-1") = 2 := by
  decide +kernel

end DirtyDataOlap
