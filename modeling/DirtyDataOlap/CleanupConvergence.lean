import DirtyDataOlap.CleanupSafety

/-!
# Cleanup after a crash

What a completed execution does to a candidate is `settle`, and **whether a candidate is removable
depends on nothing that the others change**: executing again after a crash ends where one execution
would have ended.

There is one gap.  After a crash between the tombstone and the mark (`Torn`), every later execution
rejects the candidate, and its row stays PUBLISHED for ever.
-/
namespace DirtyDataOlap.Artifacts

open Prog LocalArtifactStore ControlTables Prod Stores

section
variable (planHash : CleanupPlan → String) (store : LocalArtifactStore) (plan : CleanupPlan)

open Classical in
/-- What a completed turn of the loop does. -/
noncomputable def settle (x : Stores) (candidate : CleanupCandidate) : Stores :=
  match x.control.getArtifact candidate.artifactId with
  | some artifact =>
    if Removable [store] plan candidate x artifact 0 store then
      (x.atPlace 0 ((x.durable 0).removed artifact (cleanupPermit planHash plan candidate))).marked
        artifact.artifactId
    else x
  | none => x

/-- The candidate would be deleted now. -/
def Goes (x : Stores) (candidate : CleanupCandidate) : Prop :=
  ∃ artifact, Removable [store] plan candidate x artifact 0 store

variable {planHash store plan} {x y : Stores} {candidate other : CleanupCandidate}
  {artifact : ArtifactRef}

theorem settle_of_removable (h : Removable [store] plan candidate x artifact 0 store) :
    settle planHash store plan x candidate =
      (x.atPlace 0 ((x.durable 0).removed artifact (cleanupPermit planHash plan candidate))).marked
        artifact.artifactId := by
  rw [settle, h.registered]
  exact if_pos h

theorem settle_of_stays (h : ¬ Goes store plan x candidate) :
    settle planHash store plan x candidate = x := by
  unfold settle
  split
  · exact if_neg fun hr => h ⟨_, hr⟩
  · rfl

/-- The state of a candidate in both stores. -/
def entry (x : Stores) (artifactId : String) : Option Record × Option ArtifactRef :=
  ((x.durable 0).record? artifactId, x.control.getArtifact artifactId)

def RemovedInBoth (x : Stores) (artifactId : String) : Prop :=
  (∃ ref planId hash, (x.durable 0).record? artifactId = some (.tombstone ref planId hash)) ∧
    ∃ row, x.control.getArtifact artifactId = some row ∧ row.publicationState = .tombstoned

theorem settle_spares : Spares (· = candidate.artifactId) x (settle planHash store plan x candidate) := by
  by_cases h : Goes store plan x candidate
  · obtain ⟨artifact, hr⟩ := h
    rw [settle_of_removable hr, ← getArtifact_key hr.registered]
    exact Removing.marked.spares
  · rw [settle_of_stays h]
    exact Spares.refl

theorem settle_intact (h : Intact store (x.durable 0)) :
    Intact store ((settle planHash store plan x candidate).durable 0) := by
  by_cases hg : Goes store plan x candidate
  · obtain ⟨artifact, hr⟩ := hg
    have hkept : Intact store _ ∧ Change False False artifact.artifactId _ _ :=
      kept_removed h hr.held (cleanupPermit planHash plan candidate)
    rw [settle_of_removable hr]
    simpa [marked] using hkept.1
  · rw [settle_of_stays hg]
    exact h

theorem getArtifact_tombstoned_self {t : ControlTables} {artifactId : String}
    (h : t.getArtifact artifactId = some artifact) (hpublished : artifact.publicationState = .published) :
    (t.tombstoned artifactId).getArtifact artifactId =
      some { artifact with publicationState := .tombstoned } := by
  have hkey := getArtifact_key h
  unfold getArtifact tombstoned at *
  rw [Table.find?_update, h]
  simp [hkey, hpublished]

/-- **A candidate that goes is removed in both stores.** -/
theorem settle_removes (h : Intact store (x.durable 0)) (hg : Goes store plan x candidate) :
    RemovedInBoth (settle planHash store plan x candidate) candidate.artifactId := by
  obtain ⟨artifact, hr⟩ := hg
  have hkey := getArtifact_key hr.registered
  rw [settle_of_removable hr, ← hkey]
  have htombstone := tombstone_buried h hr.held
    (cleanupPermit planHash plan candidate)
  have hregistered := hr.registered
  rw [← hkey] at hregistered
  have hrow := getArtifact_tombstoned_self hregistered hr.published
  refine ⟨⟨artifact, plan.planId, planHash plan, ?_⟩, _, hrow, rfl⟩
  simpa [marked, cleanupPermit] using htombstone

theorem stays_of_tombstone {ref : ArtifactRef} {planId hash : String}
    (h : (x.durable 0).record? candidate.artifactId = some (.tombstone ref planId hash)) :
    ¬ Goes store plan x candidate := by
  rintro ⟨artifact, hr⟩
  have hheld := hr.held
  rw [getArtifact_key hr.registered, h] at hheld
  cases hheld

theorem settle_stays (h : Intact store (x.durable 0)) :
    ¬ Goes store plan (settle planHash store plan x candidate) candidate := by
  by_cases hg : Goes store plan x candidate
  · have hremoved : RemovedInBoth (settle planHash store plan x candidate) candidate.artifactId :=
      settle_removes h hg
    obtain ⟨⟨ref, planId, hash, hrecord⟩, _⟩ := hremoved
    exact stays_of_tombstone hrecord
  · rw [settle_of_stays hg]
    exact hg

/-- **Whether one candidate goes does not depend on another.** -/
theorem goes_settle (h : Intact store (x.durable 0)) (hne : other.artifactId ≠ candidate.artifactId) :
    Goes store plan (settle planHash store plan x candidate) other ↔ Goes store plan x other := by
  have hspares : Spares (· = candidate.artifactId) x (settle planHash store plan x candidate) :=
    settle_spares
  constructor
  · rintro ⟨artifact, hr⟩
    exact ⟨artifact, hr.before hspares hne⟩
  · rintro ⟨kept, hr⟩
    by_cases hg : Goes store plan x candidate
    · obtain ⟨gone, hgone⟩ := hg
      have hkey := getArtifact_key hr.registered
      have hnone : (settle planHash store plan x candidate).control.getDependents other.artifactId =
          [] := (hspares.dependents _).2 hr.no_dependents
      refine ⟨kept, (hspares.rows _ hne).trans hr.registered, hr.given, ?_, hr.published, ?_,
        hr.managed, ?_, hr.planned, hr.safe⟩
      · rw [hspares.records 0 _ (hkey ▸ hne)]
        exact hr.held
      · have hrun : (settle planHash store plan x candidate).control.getRun kept.runId =
            x.control.getRun kept.runId := by
          rw [getRun, getRun, hspares.runs]
        rw [hrun, hnone, ← hr.no_dependents]
        exact hr.allowed
      · obtain ⟨bytes, hbytes, hsound⟩ := hr.verified
        have hkept : Intact store _ ∧ Change False False gone.artifactId _ _ :=
          kept_removed h hgone.held (cleanupPermit planHash plan candidate)
        refine ⟨bytes, ?_, hsound⟩
        rw [settle_of_removable hgone]
        simp only [marked, atPlace_durable]
        refine hkept.2.blobs _ _ hbytes (.inr ⟨kept.artifactId, kept, ?_, hr.held, hr.managed, rfl⟩)
        rw [hkey, getArtifact_key hgone.registered]
        exact hne
    · rw [settle_of_stays hg]
      exact ⟨kept, hr⟩

theorem entry_settle (hne : other.artifactId ≠ candidate.artifactId) :
    entry (settle planHash store plan x candidate) other.artifactId = entry x other.artifactId := by
  have hspares : Spares (· = candidate.artifactId) x (settle planHash store plan x candidate) :=
    settle_spares
  rw [entry, entry, hspares.records 0 _ hne, hspares.rows _ hne]

/-! ## The whole loop -/

variable (planHash store plan) in
/-- A completed loop over these candidates. -/
noncomputable def settleAll (x : Stores) (candidates : List CleanupCandidate) : Stores :=
  candidates.foldl (settle planHash store plan) x

theorem settleAll_cons (rest : List CleanupCandidate) :
    settleAll planHash store plan x (candidate :: rest) =
      settleAll planHash store plan (settle planHash store plan x candidate) rest := rfl

theorem settleAll_append (first rest : List CleanupCandidate) :
    settleAll planHash store plan x (first ++ rest) =
      settleAll planHash store plan (settleAll planHash store plan x first) rest :=
  List.foldl_append ..

theorem settleAll_intact (candidates : List CleanupCandidate) (h : Intact store (x.durable 0)) :
    Intact store ((settleAll planHash store plan x candidates).durable 0) := by
  induction candidates generalizing x with
  | nil => exact h
  | cons candidate rest ih => exact ih (settle_intact h)

variable {candidates : List CleanupCandidate}

theorem settleAll_other (h : Intact store (x.durable 0))
    (hother : other.artifactId ∉ candidates.map (·.artifactId)) :
    (Goes store plan (settleAll planHash store plan x candidates) other ↔ Goes store plan x other) ∧
      entry (settleAll planHash store plan x candidates) other.artifactId =
        entry x other.artifactId := by
  induction candidates generalizing x with
  | nil => exact ⟨Iff.rfl, rfl⟩
  | cons candidate rest ih =>
    rw [List.map_cons, List.mem_cons, not_or] at hother
    obtain ⟨hgoes, hentry⟩ := ih (x := settle planHash store plan x candidate) (settle_intact h)
      hother.2
    exact ⟨hgoes.trans (goes_settle h hother.1), hentry.trans (entry_settle hother.1)⟩

/-- **A completed loop settles each of its candidates**: it goes, or it stays as it was. -/
theorem settleAll_settles (h : Intact store (x.durable 0))
    (hdistinct : (candidates.map (·.artifactId)).Nodup) (hmem : candidate ∈ candidates) :
    ¬ Goes store plan (settleAll planHash store plan x candidates) candidate ∧
      ((Goes store plan x candidate ∧
          RemovedInBoth (settleAll planHash store plan x candidates) candidate.artifactId) ∨
        entry (settleAll planHash store plan x candidates) candidate.artifactId =
          entry x candidate.artifactId) := by
  induction candidates generalizing x with
  | nil => cases hmem
  | cons head rest ih =>
    rw [List.map_cons, List.nodup_cons] at hdistinct
    rw [settleAll_cons]
    have hintact : Intact store ((settle planHash store plan x head).durable 0) := settle_intact h
    rcases List.mem_cons.1 hmem with rfl | hmem
    · have hother := @settleAll_other planHash store plan _ _ _ hintact hdistinct.1
      obtain ⟨hgoes, hentry⟩ := hother
      refine ⟨fun hg => settle_stays h (hgoes.1 hg), ?_⟩
      by_cases hg : Goes store plan x candidate
      · left
        have hremoved : RemovedInBoth (settle planHash store plan x candidate)
            candidate.artifactId := settle_removes h hg
        have hrecord := congrArg fst hentry
        have hrow := congrArg snd hentry
        simp only [entry] at hrecord hrow
        rw [RemovedInBoth, hrecord, hrow]
        exact ⟨hg, hremoved⟩
      · right
        rw [hentry, settle_of_stays hg]
    · have hne : candidate.artifactId ≠ head.artifactId := by
        intro he
        exact hdistinct.1 (he ▸ List.mem_map.2 ⟨candidate, hmem, rfl⟩)
      obtain ⟨hstays, hsettled⟩ := ih hintact hdistinct.2 hmem
      rw [entry_settle hne, goes_settle h hne] at hsettled
      exact ⟨hstays, hsettled⟩

/-- A candidate that stays is left alone, listed or not. -/
theorem entry_settleAll_of_stays (h : Intact store (x.durable 0))
    (hdistinct : (candidates.map (·.artifactId)).Nodup) (hstays : ¬ Goes store plan x candidate)
    (hknown : candidate ∈ candidates ∨ candidate.artifactId ∉ candidates.map (·.artifactId)) :
    entry (settleAll planHash store plan x candidates) candidate.artifactId =
      entry x candidate.artifactId := by
  rcases hknown with hmem | hother
  · rcases (settleAll_settles h hdistinct hmem).2 with ⟨hgoes, _⟩ | hsame
    · exact absurd hgoes hstays
    · exact hsame
  · exact (settleAll_other h hother).2

theorem settleAll_of_stay (h : ∀ candidate ∈ candidates, ¬ Goes store plan x candidate) :
    settleAll planHash store plan x candidates = x := by
  induction candidates with
  | nil => rfl
  | cons candidate rest ih =>
    rw [settleAll_cons, settle_of_stays (h candidate (List.mem_cons_self ..))]
    exact ih fun other hother => h other (List.mem_cons_of_mem _ hother)

/-- **Once more from wherever the first part ended.** -/
theorem settleAll_again {first rest : List CleanupCandidate} (h : Intact store (x.durable 0))
    (hdistinct : ((first ++ rest).map (·.artifactId)).Nodup) :
    settleAll planHash store plan (settleAll planHash store plan x first) (first ++ rest) =
      settleAll planHash store plan x (first ++ rest) := by
  have hfirst : (first.map (·.artifactId)).Nodup := by
    rw [List.map_append] at hdistinct
    exact hdistinct.of_append_left
  have hstay : settleAll planHash store plan (settleAll planHash store plan x first) first =
      settleAll planHash store plan x first :=
    settleAll_of_stay fun candidate hmem => (settleAll_settles h hfirst hmem).1
  rw [settleAll_append, hstay, settleAll_append]

end

/-! ## Executions -/

/-- The world outside stays as it is and disturbs nothing. -/
def undisturbed (ω : Outside) (a : PlatformAct) (_ : Unit) (w : Platform) :
    Except StoreExc a.Reply × Platform :=
  act a ω w

theorem stops_of_undisturbed {α : Type} {ω : Outside} {p : Lifecycle α} {w w' : Platform}
    (h : p.Stops (undisturbed ω) w w') : p.Stops act w w' := by
  induction p generalizing w with
  | done v => exact h
  | act a k ih =>
    rcases h with rfl | ⟨_, h⟩
    · exact .inl rfl
    · exact .inr ⟨ω, ih _ h⟩

theorem run_of_undisturbed {α : Type} {ω : Outside} {p : Lifecycle α} {w w' : Platform}
    {r : Except StoreExc α} (h : p.Runs (undisturbed ω) w r w') : p.run act ω w = (r, w') := by
  induction p generalizing w with
  | done v =>
    obtain ⟨rfl, rfl⟩ := h
    rfl
  | act a k ih =>
    obtain ⟨_, h⟩ := h
    exact ih _ h

section
variable {planHash : CleanupPlan → String} {store : LocalArtifactStore} {plan : CleanupPlan}
  {candidate : CleanupCandidate} {artifact : ArtifactRef} {ω : Outside} {w w' : Platform}

theorem run_selectStore (hω : ω.fault = none)
    (hheld : (w.directory 0).record? artifact.artifactId = some (.ref artifact))
    (hsafe : safeFilename artifact.artifactId = true) :
    (selectStore artifact [store] 0).run act ω w = (.ok (some (0, store)), w) := by
  rw [selectStore, bind_def, run_bind, run_tryCatch, bind_def, run_bind, run_onStore,
    run_stat hω hsafe hheld]
  simp only [Platform.atPlace_self, pure_def, Prog.run, if_true]

/-- **A removable candidate is deleted**, in the artifact store and then in the control store. -/
theorem run_cleanupOne (hω : ω.fault = none) (h : (w.stores.durable 0).Readable)
    (hr : Removable [store] plan candidate w.stores artifact 0 store) :
    ∃ w', (cleanupOne planHash [store] plan candidate).run act ω w = (.ok .deleted, w') ∧
      w'.stores = settle planHash store plan w.stores candidate := by
  have hkey := getArtifact_key hr.registered
  have hcovered : permitCovers (cleanupPermit planHash plan candidate) artifact =
      true := hr.covered
  obtain ⟨s', hdelete, hs'⟩ := run_delete hω hr.safe hr.held hr.published hcovered
    hr.managed hr.verified h
  obtain ⟨result, hverify, hstate⟩ := run_verify hω hr.safe hr.held hr.published
    hr.managed hr.verified
  have hregistered : w.control.getArtifact candidate.artifactId = some artifact := hr.registered
  have hallowed : cleanupAllowed plan candidate artifact (w.control.getRun artifact.runId)
      (sorted ((w.control.getDependents candidate.artifactId).map (·.artifactId))) = true := hr.allowed
  refine ⟨{ w.atPlace 0 s' with control := w.control.tombstoned candidate.artifactId }, ?_, ?_⟩
  · have hremove : (removeCandidate planHash plan candidate artifact 0 store).run act ω w =
        (.ok .deleted,
          { w.atPlace 0 s' with control := w.control.tombstoned candidate.artifactId }) := by
      rw [removeCandidate, run_tryCatch, bind_def, run_bind, run_onStore, hdelete]
      simp only [bind_def, run_bind]
      rw [run_mark hω (w := w.atPlace 0 s') hregistered hr.published]
      rfl
    have hchecked : (cleanupChecked planHash plan candidate artifact 0 store).run act ω w =
        (removeCandidate planHash plan candidate artifact 0 store).run act ω w := by
      rw [cleanupChecked, bind_def, run_bind, run_tryCatch, bind_def, run_bind, run_onStore, hverify]
      simp only [Platform.atPlace_self, pure_def, Prog.run, hstate, hr.managed, hr.planned, ne_eq,
        not_true_eq_false, if_false, reduceCtorEq, or_self]
    rw [cleanupOne, bind_def, run_bind, run_getArtifact hω, hregistered]
    simp only [bind_def, run_bind, run_getRun hω, run_getDependents hω,
      run_selectStore hω hr.held hr.safe, hallowed, if_true]
    rw [hchecked, hremove]
  · rw [settle_of_removable hr, hkey]
    show Stores.marked (w.atPlace 0 s').stores _ = _
    rw [stores_atPlace, hs']
    rfl

variable {x y : Stores} {candidates : List CleanupCandidate}

theorem removable_single {place : Nat} {other : LocalArtifactStore}
    (h : Removable [store] plan candidate x artifact place other) : place = 0 ∧ other = store := by
  have hgiven := h.given
  rw [List.getElem?_singleton] at hgiven
  split at hgiven
  · rename_i hplace
    cases hgiven
    exact ⟨hplace, rfl⟩
  · cases hgiven

variable (planHash store plan x) in
/-- Between the tombstone of a candidate and the mark of its row. -/
def TornAt (candidate : CleanupCandidate) (y : Stores) : Prop :=
  ∃ artifact, Removable [store] plan candidate x artifact 0 store ∧
    (y = x.atPlace 0 ((x.durable 0).buried artifact (cleanupPermit planHash plan candidate)) ∨
      y = x.atPlace 0 ((x.durable 0).removed artifact (cleanupPermit planHash plan candidate)))

section
variable (h : TornAt planHash store plan x candidate y)
include h

theorem TornAt.record : ∃ ref planId hash, (y.durable 0).record? candidate.artifactId =
      some (.tombstone ref planId hash) := by
  obtain ⟨artifact, hr, hy⟩ := h
  have htombstone : ((x.durable 0).buried artifact (cleanupPermit planHash plan candidate)).record?
      artifact.artifactId = some (.tombstone artifact plan.planId (planHash plan)) := by
    rw [Durable.buried, Durable.record?_putRef, if_pos rfl]
    rfl
  rw [getArtifact_key hr.registered] at htombstone
  refine ⟨artifact, plan.planId, planHash plan, ?_⟩
  rcases hy with rfl | rfl
  · rw [atPlace_durable]
    exact htombstone
  · rw [atPlace_durable, Durable.record?_removed]
    exact htombstone

theorem TornAt.intact (hintact : Intact store (x.durable 0)) : Intact store (y.durable 0) := by
  obtain ⟨artifact, hr, rfl | rfl⟩ := h
  · have hkept : Intact store _ ∧ Change False False artifact.artifactId _ _ :=
      kept_buried hintact hr.held (cleanupPermit planHash plan candidate)
    rw [atPlace_durable]
    exact hkept.1
  · have hkept : Intact store _ ∧ Change False False artifact.artifactId _ _ :=
      kept_removed hintact hr.held (cleanupPermit planHash plan candidate)
    rw [atPlace_durable]
    exact hkept.1

theorem TornAt.row : ∃ row, y.control.getArtifact candidate.artifactId = some row ∧
      row.publicationState = .published := by
  obtain ⟨artifact, hr, rfl | rfl⟩ := h
  · exact ⟨artifact, hr.registered, hr.published⟩
  · exact ⟨artifact, hr.registered, hr.published⟩

end

/-- **Where an execution can crash over one candidate.** -/
theorem cleanupOne_crashes (h : (cleanupOne planHash [store] plan candidate).Stops act w w') :
    w'.stores = w.stores ∨ w'.stores = settle planHash store plan w.stores candidate ∨
      TornAt planHash store plan w.stores candidate w'.stores := by
  have hprocessing : Processing planHash [store] plan candidate w.stores w'.stores :=
    (both_cleanupOne planHash [store] plan candidate w).stops (.inl rfl) h
  rcases hprocessing with hsame | ⟨artifact, place, other, hr, hremoving⟩
  · exact .inl hsame
  · obtain ⟨rfl, rfl⟩ := removable_single hr
    right
    generalize w'.stores = y at hremoving ⊢
    cases hremoving with
    | buried => exact .inr ⟨artifact, hr, .inl rfl⟩
    | removed => exact .inr ⟨artifact, hr, .inr rfl⟩
    | marked => exact .inl (settle_of_removable hr).symm

section
variable (hω : ω.fault = none) (h : Intact store (w.stores.durable 0))
include hω h

theorem cleanupOne_completes {verdict : Verdict}
    (hrun : (cleanupOne planHash [store] plan candidate).Runs (undisturbed ω) w (.ok verdict) w') :
    w'.stores = settle planHash store plan w.stores candidate := by
  by_cases hg : Goes store plan w.stores candidate
  · obtain ⟨artifact, hr⟩ := hg
    obtain ⟨w1, hrun1, hw1⟩ := @run_cleanupOne planHash _ _ _ _ _ _ hω h.readable hr
    have heq := (run_of_undisturbed hrun).symm.trans hrun1
    cases heq
    exact hw1
  · rw [settle_of_stays hg]
    rcases cleanupOne_crashes (stops_of_undisturbed hrun.stops) with hw | hw | ⟨artifact, hr, _⟩
    · exact hw
    · rwa [settle_of_stays hg] at hw
    · exact absurd ⟨artifact, hr⟩ hg

/-- **Where an execution can crash**: after some candidates, or torn at the next one. -/
theorem cleanupAll_crashes
    (hstop : (cleanupAll planHash [store] plan candidates).Stops (undisturbed ω) w w') :
    ∃ first rest, candidates = first ++ rest ∧
      (w'.stores = settleAll planHash store plan w.stores first ∨
        ∃ candidate others, rest = candidate :: others ∧
          TornAt planHash store plan (settleAll planHash store plan w.stores first) candidate
            w'.stores) := by
  induction candidates generalizing w with
  | nil =>
    have heq : w' = w := hstop
    exact ⟨[], [], rfl, .inl (heq ▸ rfl)⟩
  | cons candidate rest ih =>
    rcases stops_bind.1 hstop with hstop | ⟨verdict, w1, hrun, hstop⟩
    · rcases cleanupOne_crashes (stops_of_undisturbed hstop) with hw | hw | htorn
      · exact ⟨[], candidate :: rest, rfl, .inl hw⟩
      · exact ⟨[candidate], rest, rfl, .inl hw⟩
      · exact ⟨[], candidate :: rest, rfl, .inr ⟨candidate, rest, rfl, htorn⟩⟩
    · have hw1 := cleanupOne_completes hω h hrun
      have hintact : Intact store (w1.stores.durable 0) := by
        rw [hw1]
        exact settle_intact h
      have hrest : (cleanupAll planHash [store] plan rest).Stops (undisturbed ω) w1 w' := by
        rcases stops_bind.1 hstop with hstop | ⟨verdicts, w2, hrun2, hstop⟩
        · exact hstop
        · have heq : w' = w2 := hstop
          exact heq ▸ hrun2.stops
      obtain ⟨first, others, rfl, hw'⟩ := ih hintact hrest
      rw [hw1] at hw'
      exact ⟨candidate :: first, others, rfl, hw'⟩

theorem cleanupAll_completes {verdicts : List (String × Verdict)}
    (hrun : (cleanupAll planHash [store] plan candidates).Runs (undisturbed ω) w (.ok verdicts) w') :
    w'.stores = settleAll planHash store plan w.stores candidates := by
  induction candidates generalizing w verdicts with
  | nil => exact congrArg Platform.stores hrun.2
  | cons candidate rest ih =>
    rcases runs_bind.1 hrun with ⟨verdict, w1, hone, hrun⟩ | ⟨e, _, he⟩
    · have hw1 := cleanupOne_completes hω h hone
      have hintact : Intact store (w1.stores.durable 0) := by
        rw [hw1]
        exact settle_intact h
      rcases runs_bind.1 hrun with ⟨verdicts, w2, hall, hdone⟩ | ⟨e, _, he⟩
      · have heq : w' = w2 := hdone.2
        subst heq
        rw [ih hintact hall, hw1]
        rfl
      · cases he
    · cases he

end

end

/-! ## Crashes, and executing again -/

section
variable (planHash : CleanupPlan → String) (store : LocalArtifactStore) (plan : CleanupPlan)
  (authorization : CleanupAuthorization)

/-- An execution that nothing disturbs has crashed between two operations. -/
def Crashes (w w' : Platform) : Prop :=
  ∃ ω : Outside, ω.fault = none ∧
    (executeCleanup planHash [store] plan authorization).Stops (undisturbed ω) w w'

/-- An execution that nothing disturbs has completed. -/
def Completes (w w' : Platform) : Prop :=
  ∃ (ω : Outside) (result : CleanupResult), ω.fault = none ∧
    (executeCleanup planHash [store] plan authorization).Runs (undisturbed ω) w (.ok result) w'

/-- Executions that crashed one after the other, with the platform that each of them left. -/
def Interrupted : Platform → List Platform → Prop
  | _, [] => True
  | w, w' :: rest => Crashes planHash store plan authorization w w' ∧ Interrupted w' rest

end

/-- The crash has come between the tombstone of a candidate and the mark of its row. -/
def Torn (plan : CleanupPlan) (w w' : Platform) : Prop :=
  ∃ candidate ∈ plan.candidates,
    (∃ ref, (w.directory 0).record? candidate.artifactId = some (.ref ref)) ∧
    (∃ ref planId hash, (w'.directory 0).record? candidate.artifactId =
      some (.tombstone ref planId hash)) ∧
    ∃ row, w'.control.getArtifact candidate.artifactId = some row ∧ row.publicationState = .published

/-- None of the crashes has come there. -/
def InStep (plan : CleanupPlan) : Platform → List Platform → Prop
  | _, [] => True
  | w, w' :: rest => ¬ Torn plan w w' ∧ InStep plan w' rest

section
variable {planHash : CleanupPlan → String} {store : LocalArtifactStore} {plan : CleanupPlan}
  {authorization : CleanupAuthorization} {candidate : CleanupCandidate} {w w' : Platform}

theorem Crashes.deletes (h : Crashes planHash store plan authorization w w') :
    Deletes [store] plan plan.candidates w.stores w'.stores := by
  obtain ⟨ω, _, hstop⟩ := h
  rcases executeCleanup_deletes (stops_of_undisturbed hstop) with ⟨_, rfl⟩ | hdeletes
  · exact Deletes.refl
  · exact hdeletes

theorem Completes.crashes (h : Completes planHash store plan authorization w w') :
    Crashes planHash store plan authorization w w' := by
  obtain ⟨ω, _, hω, hrun⟩ := h
  exact ⟨ω, hω, hrun.stops⟩

/-- The loop is what an authorized execution that is no dry run consists of. -/
theorem Crashes.cases (hauthorized : authorization.covers planHash plan = true)
    (h : Crashes planHash store plan authorization w w') :
    (plan.dryRun = true ∧ w' = w) ∨ (plan.dryRun = false ∧ ∃ ω : Outside, ω.fault = none ∧
      (cleanupAll planHash [store] plan plan.candidates).Stops (undisturbed ω) w w') := by
  obtain ⟨ω, hω, hstop⟩ := h
  unfold executeCleanup at hstop
  by_cases hdry : plan.dryRun = true
  · rw [if_pos hdry] at hstop
    exact .inl ⟨hdry, hstop⟩
  · rw [if_neg hdry, if_pos hauthorized] at hstop
    refine .inr ⟨by simpa using hdry, ω, hω, ?_⟩
    rcases stops_bind.1 hstop with hstop | ⟨verdicts, w1, hrun, hstop⟩
    · exact hstop
    · have heq : w' = w1 := hstop
      exact heq ▸ hrun.stops

theorem Completes.cases (hauthorized : authorization.covers planHash plan = true)
    (hintact : Intact store (w.stores.durable 0))
    (h : Completes planHash store plan authorization w w') :
    (plan.dryRun = true ∧ w' = w) ∨ (plan.dryRun = false ∧
      w'.stores = settleAll planHash store plan w.stores plan.candidates) := by
  obtain ⟨ω, result, hω, hrun⟩ := h
  unfold executeCleanup at hrun
  by_cases hdry : plan.dryRun = true
  · rw [if_pos hdry] at hrun
    exact .inl ⟨hdry, hrun.2⟩
  · rw [if_neg hdry, if_pos hauthorized] at hrun
    refine .inr ⟨by simpa using hdry, ?_⟩
    rcases runs_bind.1 hrun with ⟨verdicts, w1, hall, hdone⟩ | ⟨e, _, he⟩
    · have heq : w' = w1 := hdone.2
      subst heq
      exact cleanupAll_completes hω hintact hall
    · cases he

variable {ref : ArtifactRef} {ws : List Platform} {first rest : List CleanupCandidate}

theorem first_distinct (heq : plan.candidates = first ++ rest) :
    (first.map (·.artifactId)).Nodup := by
  have hdistinct := plan.candidates_distinct
  rw [heq, List.map_append] at hdistinct
  exact hdistinct.of_append_left

theorem rest_new (heq : plan.candidates = first ++ rest) (hmem : candidate ∈ rest) :
    candidate.artifactId ∉ first.map (·.artifactId) := by
  have hdistinct := plan.candidates_distinct
  rw [heq, List.map_append] at hdistinct
  intro hfirst
  exact (List.nodup_append.1 hdistinct).2.2 _ hfirst _ (List.mem_map.2 ⟨candidate, hmem, rfl⟩) rfl

section
variable (hauthorized : authorization.covers planHash plan = true)
  (hintact : Intact store (w.stores.durable 0)) (h : Crashes planHash store plan authorization w w')
include hauthorized hintact h

/-- **The step lemma**: a crash that tears no candidate leaves what remains of an execution from the
beginning. -/
theorem Crashes.inStep (hstep : ¬ Torn plan w w') :
    Intact store (w'.stores.durable 0) ∧ (plan.dryRun = true → w' = w) ∧
      settleAll planHash store plan w'.stores plan.candidates =
        settleAll planHash store plan w.stores plan.candidates := by
  rcases h.cases hauthorized with ⟨hdry, rfl⟩ | ⟨hdry, ω, hω, hstop⟩
  · exact ⟨hintact, fun _ => rfl, rfl⟩
  have hnot : plan.dryRun = true → w' = w := by
    intro hd
    rw [hdry] at hd
    cases hd
  obtain ⟨first, rest, heq, hw' | ⟨candidate, others, rfl, htorn⟩⟩ :=
    cleanupAll_crashes hω hintact hstop
  · refine ⟨?_, hnot, ?_⟩
    · rw [hw']
      exact settleAll_intact first hintact
    · have hdistinct := plan.candidates_distinct
      rw [heq] at hdistinct ⊢
      rw [hw']
      exact settleAll_again hintact hdistinct
  · -- this is the torn state that the hypothesis excludes
    have hrow := htorn.row
    have hrecord := htorn.record
    obtain ⟨artifact, hr, _⟩ := htorn
    have hnew : candidate.artifactId ∉ first.map (·.artifactId) :=
      rest_new heq (List.mem_cons_self ..)
    have hother := @settleAll_other planHash store plan _ _ _ hintact hnew
    have hheld := hr.held
    rw [getArtifact_key hr.registered] at hheld
    have hbefore : (w.directory 0).record? candidate.artifactId = some (.ref artifact) :=
      (congrArg fst hother.2).symm.trans hheld
    exact absurd ⟨candidate, by simp [heq], ⟨artifact, hbefore⟩, hrecord, hrow⟩ hstep

theorem Crashes.intact : Intact store (w'.stores.durable 0) := by
  rcases h.cases hauthorized with ⟨_, rfl⟩ | ⟨_, ω, hω, hstop⟩
  · exact hintact
  obtain ⟨first, rest, _, hw' | ⟨candidate, others, rfl, htorn⟩⟩ :=
    cleanupAll_crashes hω hintact hstop
  · rw [hw']
    exact settleAll_intact first hintact
  · exact htorn.intact (settleAll_intact first hintact)

/-- **A torn candidate is stuck**: every later execution leaves it as it is. -/
theorem Crashes.stuck (hcandidate : candidate ∈ plan.candidates) {planId hash : String}
    (hrecord : (w.directory 0).record? candidate.artifactId = some (.tombstone ref planId hash)) :
    entry w'.stores candidate.artifactId = entry w.stores candidate.artifactId := by
  have hstays : ¬ Goes store plan w.stores candidate := stays_of_tombstone hrecord
  have known : ∀ {first rest : List CleanupCandidate}, plan.candidates = first ++ rest →
      candidate ∈ first ∨ candidate.artifactId ∉ first.map (·.artifactId) := by
    intro first rest heq
    rcases List.mem_append.1 (heq ▸ hcandidate) with hfirst | hrest
    · exact .inl hfirst
    · exact .inr (rest_new heq hrest)
  rcases h.cases hauthorized with ⟨_, rfl⟩ | ⟨_, ω, hω, hstop⟩
  · rfl
  obtain ⟨first, rest, heq, hw' | ⟨other, others, rfl, artifact, hr, hy⟩⟩ :=
    cleanupAll_crashes hω hintact hstop
  · rw [hw']
    exact entry_settleAll_of_stays hintact (first_distinct heq) hstays (known heq)
  · have hfirst : entry (settleAll planHash store plan w.stores first) candidate.artifactId =
        entry w.stores candidate.artifactId :=
      entry_settleAll_of_stays hintact (first_distinct heq) hstays (known heq)
    have hne : candidate.artifactId ≠ artifact.artifactId := by
      intro he
      have hheld := hr.held
      rw [← he] at hheld
      have hrecords := congrArg fst hfirst
      have hcontra := hrecord.symm.trans (hrecords.symm.trans hheld)
      cases hcontra
    have hremoving : Removing (settleAll planHash store plan w.stores first) artifact 0
        (cleanupPermit planHash plan other) w'.stores := by
      rcases hy with hy | hy
      · rw [hy]
        exact .buried
      · rw [hy]
        exact .removed
    rw [entry, hremoving.spares.records 0 _ hne, hremoving.spares.rows _ hne]
    exact hfirst

end

/-- The platform that the last of the crashes left. -/
def last (w : Platform) : List Platform → Platform
  | [] => w
  | w' :: rest => last w' rest

/-- **The run lemma**: after such crashes a whole execution ends where one from the beginning would
have. -/
theorem interrupted_inStep (hauthorized : authorization.covers planHash plan = true)
    (hintact : Intact store (w.stores.durable 0))
    (h : Interrupted planHash store plan authorization w ws) (hstep : InStep plan w ws) :
    Intact store ((last w ws).stores.durable 0) ∧ (plan.dryRun = true → last w ws = w) ∧
      settleAll planHash store plan (last w ws).stores plan.candidates =
        settleAll planHash store plan w.stores plan.candidates := by
  induction ws generalizing w with
  | nil => exact ⟨hintact, fun _ => rfl, rfl⟩
  | cons w' rest ih =>
    obtain ⟨hintact', hdry, hsettle⟩ := h.1.inStep hauthorized hintact hstep.1
    obtain ⟨hlast, hdry', hsettle'⟩ := ih hintact' h.2 hstep.2
    exact ⟨hlast, fun hd => (hdry' hd).trans (hdry hd), hsettle'.trans hsettle⟩

theorem Crashes.ref_before (h : Crashes planHash store plan authorization w w')
    {artifactId : String} (href : (w'.directory 0).record? artifactId = some (.ref ref)) :
    (w.directory 0).record? artifactId = some (.ref ref) :=
  h.deletes.spares.refs 0 artifactId ref href

section
variable (hauthorized : authorization.covers planHash plan = true)
  (hintact : Intact store (w.stores.durable 0))
  (h : Interrupted planHash store plan authorization w ws)
include hauthorized hintact h

theorem interrupted_stuck (hcandidate : candidate ∈ plan.candidates) {planId hash : String}
    (hrecord : (w.directory 0).record? candidate.artifactId = some (.tombstone ref planId hash)) :
    Intact store ((last w ws).stores.durable 0) ∧
      entry (last w ws).stores candidate.artifactId = entry w.stores candidate.artifactId := by
  induction ws generalizing w with
  | nil => exact ⟨hintact, rfl⟩
  | cons w' rest ih =>
    have hsame := h.1.stuck hauthorized hintact hcandidate hrecord
    have hrecord' : (w'.directory 0).record? candidate.artifactId = some (.tombstone ref planId hash) :=
      (congrArg fst hsame).trans hrecord
    obtain ⟨hlast, hentry⟩ := ih (h.1.intact hauthorized hintact) h.2 hrecord'
    exact ⟨hlast, hentry.trans hsame⟩

/-- **Once torn, a candidate is torn for ever.** -/
theorem torn_never_heals (htorn : ¬ InStep plan w ws)
    (hlast : Completes planHash store plan authorization (last w ws) w') : Torn plan w w' := by
  induction ws generalizing w with
  | nil => exact absurd trivial htorn
  | cons w1 rest ih =>
    have hintact1 := h.1.intact hauthorized hintact
    by_cases hnow : Torn plan w w1
    · obtain ⟨candidate, hcandidate, href, ⟨gone, planId, hash, hrecord⟩, row, hrow, hpublished⟩ :=
        hnow
      obtain ⟨hintact2, hentry⟩ := interrupted_stuck hauthorized hintact1 h.2 hcandidate hrecord
      have hrecord2 : ((last w1 rest).directory 0).record? candidate.artifactId =
          some (.tombstone gone planId hash) := (congrArg fst hentry).trans hrecord
      have hend := (hlast.crashes.stuck hauthorized hintact2 hcandidate hrecord2).trans hentry
      exact ⟨candidate, hcandidate, href, ⟨gone, planId, hash, (congrArg fst hend).trans hrecord⟩,
        row, (congrArg snd hend).trans hrow, hpublished⟩
    · have hlater : ¬ InStep plan w1 rest := fun hrest => htorn ⟨hnow, hrest⟩
      obtain ⟨candidate, hcandidate, ⟨ref, href⟩, hend⟩ := ih hintact1 h.2 hlater hlast
      exact ⟨candidate, hcandidate, ⟨ref, h.1.ref_before href⟩, hend⟩

end

theorem Torn.not_settled (h : Torn plan w w') : ∃ candidate ∈ plan.candidates,
    ¬ RemovedInBoth w'.stores candidate.artifactId ∧
      entry w'.stores candidate.artifactId ≠ entry w.stores candidate.artifactId := by
  obtain ⟨candidate, hcandidate, ⟨ref, href⟩, ⟨gone, planId, hash, hrecord⟩, row, hrow, hpublished⟩ := h
  refine ⟨candidate, hcandidate, ?_, ?_⟩
  · rintro ⟨_, marked, hmarked, htombstoned⟩
    have hsame := hrow.symm.trans hmarked
    cases hsame
    rw [hpublished] at htombstoned
    cases htombstoned
  · intro hsame
    have hcontra := hrecord.symm.trans ((congrArg fst hsame).trans href)
    cases hcontra

/-- **Executing a plan again after crashes ends where one execution would have exactly when no crash
has torn a candidate.** -/
theorem cleanup_converges_iff (planHash : CleanupPlan → String) (store : LocalArtifactStore)
    (plan : CleanupPlan) (authorization : CleanupAuthorization)
    (hauthorized : authorization.covers planHash plan = true) (w w0 w1 : Platform)
    (ws : List Platform) (hreachable : Reachable store (w.directory 0))
    (hinterrupted : Interrupted planHash store plan authorization w ws)
    (hagain : Completes planHash store plan authorization (last w ws) w1)
    (honce : Completes planHash store plan authorization w w0) :
    (w1.stores = w0.stores ∧ ∀ candidate ∈ plan.candidates,
      RemovedInBoth w1.stores candidate.artifactId ∨
        entry w1.stores candidate.artifactId = entry w.stores candidate.artifactId) ↔
    InStep plan w ws := by
  have hintact : Intact store (w.stores.durable 0) := hreachable.intact
  constructor
  · rintro ⟨_, hsettled⟩
    by_contra htorn
    obtain ⟨candidate, hcandidate, hnot, hchanged⟩ :=
      (torn_never_heals hauthorized hintact hinterrupted htorn hagain).not_settled
    rcases hsettled candidate hcandidate with hremoved | hsame
    · exact hnot hremoved
    · exact hchanged hsame
  · intro hstep
    obtain ⟨hintact', hdry, hsettle⟩ := interrupted_inStep hauthorized hintact hinterrupted hstep
    rcases honce.cases hauthorized hintact with ⟨hd, rfl⟩ | ⟨hd, hw0⟩
    · rcases hagain.cases hauthorized hintact' with ⟨_, rfl⟩ | ⟨hd', _⟩
      · rw [hdry hd]
        exact ⟨rfl, fun _ _ => .inr rfl⟩
      · rw [hd] at hd'
        cases hd'
    · rcases hagain.cases hauthorized hintact' with ⟨hd', _⟩ | ⟨_, hw1⟩
      · rw [hd] at hd'
        cases hd'
      · rw [hw1, hw0, hsettle]
        refine ⟨rfl, fun candidate hcandidate => ?_⟩
        rcases (settleAll_settles hintact plan.candidates_distinct hcandidate).2 with
          ⟨_, hremoved⟩ | hsame
        · exact .inl hremoved
        · exact .inr hsame

end
/-! ## A crash before the mark -/

def demoExecution : Lifecycle CleanupResult :=
  executeCleanup demoPlanHash [demoStore] (demoCleanupPlan .succeeded) demoAuthorization

/-- The same with a crash after so many operations. -/
def demoCrash (n : Nat) : Platform :=
  demoExecution.stopAfter (undisturbed calm) () n (demoPlatform .succeeded)

def demoWhole (w : Platform) : Platform := (demoExecution.run (undisturbed calm) () w).2

theorem demoCrash_crashes (n : Nat) :
    Crashes demoPlanHash demoStore (demoCleanupPlan .succeeded) demoAuthorization
      (demoPlatform .succeeded) (demoCrash n) :=
  ⟨calm, rfl, stops_stopAfter () n _ _⟩

theorem demoWhole_completes {w : Platform}
    (h : (demoExecution.run (undisturbed calm) () w).1.isOk = true) :
    Completes demoPlanHash demoStore (demoCleanupPlan .succeeded) demoAuthorization w
      (demoWhole w) := by
  have hruns : demoExecution.Runs (undisturbed calm) w
      (demoExecution.run (undisturbed calm) () w).1 (demoWhole w) := runs_run () _ _
  cases hresult : (demoExecution.run (undisturbed calm) () w).1 with
  | ok result =>
    rw [hresult] at hruns
    exact ⟨calm, result, rfl, hruns⟩
  | error e =>
    rw [hresult] at h
    cases h

/-- A crash before anything has gone: another execution finishes the work. -/
theorem cleanup_converges_early :
    ((demoWhole (demoCrash 5)).stores = (demoWhole (demoPlatform .succeeded)).stores ∧
      ∀ candidate ∈ (demoCleanupPlan .succeeded).candidates,
        RemovedInBoth (demoWhole (demoCrash 5)).stores candidate.artifactId ∨
          entry (demoWhole (demoCrash 5)).stores candidate.artifactId =
            entry (demoPlatform .succeeded).stores candidate.artifactId) ↔
    InStep (demoCleanupPlan .succeeded) (demoPlatform .succeeded) [demoCrash 5] :=
  cleanup_converges_iff demoPlanHash demoStore (demoCleanupPlan .succeeded) demoAuthorization
    (by decide +kernel) (demoPlatform .succeeded) _ _ [demoCrash 5] (Reachable.new.after _)
    ⟨demoCrash_crashes 5, trivial⟩ (demoWhole_completes (by decide +kernel))
    (demoWhole_completes (by decide +kernel))

/-- **The crash comes after `delete` and before `mark_artifact_tombstoned`**: the artifact that has
gone stays PUBLISHED in the control store. -/
theorem crash_tears_candidate :
    demoAuthorization.covers demoPlanHash (demoCleanupPlan .succeeded) = true ∧
    Reachable demoStore ((demoPlatform .succeeded).directory 0) ∧
    Crashes demoPlanHash demoStore (demoCleanupPlan .succeeded) demoAuthorization
      (demoPlatform .succeeded) (demoCrash 19) ∧
    Completes demoPlanHash demoStore (demoCleanupPlan .succeeded) demoAuthorization (demoCrash 19)
      (demoWhole (demoCrash 19)) ∧ ¬ ∀ candidate ∈ (demoCleanupPlan .succeeded).candidates,
      RemovedInBoth (demoWhole (demoCrash 19)).stores candidate.artifactId ∨
        entry (demoWhole (demoCrash 19)).stores candidate.artifactId =
          entry (demoPlatform .succeeded).stores candidate.artifactId := by
  have htorn : Torn (demoCleanupPlan .succeeded) (demoPlatform .succeeded)
      (demoWhole (demoCrash 19)) := by
    refine ⟨demoCandidate, .head _,
      ⟨publishedManaged (demoManifest "profile-1") (demoSha256 [97]) 1,
        by decide +kernel⟩,
      ⟨publishedManaged (demoManifest "profile-1") (demoSha256 [97]) 1,
        "cleanup_run-1_60", demoAuthorization.planContentHash, by decide +kernel⟩,
      publishedManaged (demoManifest "profile-1") (demoSha256 [97]) 1,
      by decide +kernel, rfl⟩
  refine ⟨by decide +kernel, Reachable.new.after _, demoCrash_crashes 19,
    demoWhole_completes (by decide +kernel), fun hsettled => ?_⟩
  obtain ⟨candidate, hcandidate, hnot, hchanged⟩ := htorn.not_settled
  rcases hsettled candidate hcandidate with hremoved | hsame
  · exact hnot hremoved
  · exact hchanged hsame

end DirtyDataOlap.Artifacts
