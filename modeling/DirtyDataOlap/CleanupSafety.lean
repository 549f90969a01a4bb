import DirtyDataOlap.ArtifactReferences
import DirtyDataOlap.CalmRuns

/-!
# What cleanup deletes

`execute_cleanup` re-checks every candidate (`Removable`) and deletes only what passes.  The checks
leave out a PERSISTENT artifact, one that gate evidence names, and one of a FAILED or BLOCKED run.
**Cleanup spares what is still needed exactly when no candidate that passes is one of those**
(`cleanup_spares_needed_iff`), for every execution, failed or crashed ones included.
-/
namespace DirtyDataOlap.Artifacts

open Prog List LocalArtifactStore Durable ControlTables Function

variable {t : ControlTables} {artifactId : String}

theorem getArtifact_tombstoned {other : String} (h : other ≠ artifactId) :
    (t.tombstoned artifactId).getArtifact other = t.getArtifact other := by
  unfold getArtifact tombstoned
  rw [Table.find?_update]
  cases hfind : t.artifacts.find? other with
  | none => rfl
  | some artifact =>
    have hkey : artifact.artifactId = other := Table.find?_key (t := t.artifacts) hfind
    have hne : (decide (artifact.artifactId = artifactId) &&
        decide (artifact.publicationState = .published)) = false := by
      simp [hkey, h]
    simp only [Option.map_some, hne, Bool.false_eq_true, if_false]

theorem getDependents_eq_nil :
    t.getDependents artifactId = [] ↔ ∀ a ∈ t.artifacts.rows, ∀ d ∈ t.dependencies,
      ¬ (d.artifactId = a.artifactId ∧ d.upstreamArtifactId = artifactId) := by
  simp only [getDependents, flatMap_eq_nil_iff, mem_sortedBy,
    map_eq_nil_iff, filter_eq_nil_iff, Bool.and_eq_true, decide_eq_true_eq]

theorem getDependents_tombstoned {other : String} :
    (t.tombstoned artifactId).getDependents other = [] ↔ t.getDependents other = [] := by
  rw [getDependents_eq_nil, getDependents_eq_nil]
  simp only [tombstoned, Table.update, mem_map]
  constructor
  · intro h a ha d hd
    have := h _ ⟨a, ha, rfl⟩ d hd
    split at this
    · exact this
    · exact this
  · rintro h _ ⟨a, ha, rfl⟩ d hd
    split
    · exact h a ha d hd
    · exact h a ha d hd

/-! ## What a step leaves alone -/

/-- Only rows and records of these artifacts have changed, and no reference or blob has come. -/
structure Spares (touched : String → Prop) (x y : Stores) : Prop where
  runs : y.control.runs = x.control.runs
  dependents : ∀ id, y.control.getDependents id = [] ↔ x.control.getDependents id = []
  rows : ∀ id, ¬ touched id → y.control.getArtifact id = x.control.getArtifact id
  records : ∀ place id, ¬ touched id → (y.durable place).record? id = (x.durable place).record? id
  refs : ∀ place id ref, (y.durable place).record? id = some (.ref ref) →
    (x.durable place).record? id = some (.ref ref)
  blobs : ∀ place contentHash bytes, (y.durable place).blobs.lookup contentHash = some bytes →
    (x.durable place).blobs.lookup contentHash = some bytes

namespace Spares
variable {touched touched' : String → Prop} {x y z : Stores}

theorem refl : Spares touched x x :=
  ⟨rfl, fun _ => Iff.rfl, fun _ _ => rfl, fun _ _ _ => rfl, fun _ _ _ h => h, fun _ _ _ h => h⟩

theorem trans (h1 : Spares touched x y) (h2 : Spares touched' y z) :
    Spares (fun id => touched id ∨ touched' id) x z where
  runs := h2.runs.trans h1.runs
  dependents id := (h2.dependents id).trans (h1.dependents id)
  rows id h := (h2.rows id fun ht => h (.inr ht)).trans (h1.rows id fun ht => h (.inl ht))
  records place id h :=
    (h2.records place id fun ht => h (.inr ht)).trans (h1.records place id fun ht => h (.inl ht))
  refs place id ref h := h1.refs _ _ _ (h2.refs place id ref h)
  blobs place contentHash bytes h := h1.blobs _ _ _ (h2.blobs place contentHash bytes h)

theorem atPlace {place : Nat} {d : Durable} {artifactId : String}
    (hrecords : ∀ id, id ≠ artifactId → d.record? id = (x.durable place).record? id)
    (hown : ∀ ref, d.record? artifactId ≠ some (.ref ref))
    (hblobs : ∀ contentHash bytes, d.blobs.lookup contentHash = some bytes →
      (x.durable place).blobs.lookup contentHash = some bytes) :
    Spares (· = artifactId) x (x.atPlace place d) where
  runs := rfl
  dependents _ := Iff.rfl
  rows _ _ := rfl
  records other id h := by
    by_cases ho : other = place
    · subst ho
      simp only [Stores.atPlace, update_self]
      exact hrecords id h
    · simp only [Stores.atPlace, update_of_ne ho]
  refs other id ref h := by
    by_cases ho : other = place
    · subst ho
      rw [Stores.atPlace_durable] at h
      have hid : id ≠ artifactId := by
        rintro rfl
        exact hown ref h
      rwa [← hrecords id hid]
    · simpa only [Stores.atPlace, update_of_ne ho] using h
  blobs other contentHash bytes h := by
    by_cases ho : other = place
    · subst ho
      simp only [Stores.atPlace, update_self] at h
      exact hblobs contentHash bytes h
    · simpa only [Stores.atPlace, update_of_ne ho] using h

theorem marked {artifactId : String} : Spares (· = artifactId) x (x.marked artifactId) where
  runs := rfl
  dependents _ := getDependents_tombstoned
  rows _ h := getArtifact_tombstoned h
  records _ _ _ := rfl
  refs _ _ _ h := h
  blobs _ _ _ h := h

end Spares

variable {permit : CleanupDeletionPermit} {d : Durable} {ref artifact : ArtifactRef}

theorem buried_record {id : String} (h : id ≠ ref.artifactId) :
    (d.buried ref permit).record? id = d.record? id := by
  rw [Durable.buried, record?_putRef, if_neg h]

theorem buried_own (other : ArtifactRef) :
    (d.buried ref permit).record? ref.artifactId ≠ some (.ref other) := by
  rw [Durable.buried, record?_putRef, if_pos rfl]
  intro h
  cases h

theorem removed_blobs {contentHash : String} {bytes : Bytes}
    (h : (d.removed ref permit).blobs.lookup contentHash = some bytes) :
    d.blobs.lookup contentHash = some bytes := by
  unfold Durable.removed at h
  split at h
  · exact h
  split at h
  · by_cases he : contentHash = ref.contentHash
    · rw [he, dropBlob, AList.lookup_erase] at h
      cases h
    · rwa [dropBlob, AList.lookup_erase_ne he] at h
  · exact h

/-- A removal touches the artifact that it removes. -/
theorem Removing.spares {x y : Stores} {place : Nat} (h : Removing x artifact place permit y) :
    Spares (· = artifact.artifactId) x y := by
  have hremoved : Spares (· = artifact.artifactId) x
      (x.atPlace place ((x.durable place).removed artifact permit)) :=
    Spares.atPlace (fun id hid => by rw [Durable.record?_removed, buried_record hid])
      (fun ref => by rw [Durable.record?_removed]; exact buried_own ref) fun _ _ hb => removed_blobs hb
  cases h with
  | buried => exact Spares.atPlace (fun id hid => buried_record hid) buried_own fun _ _ hb => hb
  | removed => exact hremoved
  | marked =>
    have hboth := hremoved.trans (Spares.marked : Spares (· = artifact.artifactId) _
      ((x.atPlace place ((x.durable place).removed artifact permit)).marked artifact.artifactId))
    simpa only [or_self] using hboth

theorem Removing.elsewhere {x y : Stores} {place other : Nat}
    (h : Removing x artifact place permit y) (ho : other ≠ place) :
    y.durable other = x.durable other := by
  cases h <;> simp only [Stores.marked, Stores.atPlace, update_of_ne ho]

/-! ## The checks -/

theorem cleanupAllowed_dependents {plan : CleanupPlan} {candidate : CleanupCandidate}
    {run : Option RunRecord} {dependents : List String}
    (h : cleanupAllowed plan candidate artifact run dependents = true) : dependents = [] := by
  simp only [cleanupAllowed, Bool.not_eq_true', Bool.or_eq_false_iff, decide_eq_false_iff_not,
    not_not] at h
  exact h.2

section
variable {stores : List LocalArtifactStore} {plan : CleanupPlan} {candidate : CleanupCandidate}
  {x y z : Stores} {artifact : ArtifactRef} {place : Nat} {store : LocalArtifactStore}

theorem Removable.no_dependents (h : Removable stores plan candidate x artifact place store) :
    x.control.getDependents candidate.artifactId = [] := by
  have hsorted := cleanupAllowed_dependents h.allowed
  have hlength := congrArg List.length hsorted
  rw [length_sorted, length_map] at hlength
  exact length_eq_zero_iff.1 hlength

/-- **A check that passes now passed before** other artifacts were touched. -/
theorem Removable.before {touched : String → Prop}
    (h : Removable stores plan candidate y artifact place store) (hs : Spares touched x y)
    (hid : ¬ touched candidate.artifactId) :
    Removable stores plan candidate x artifact place store := by
  have hkey := getArtifact_key h.registered
  have hnone := h.no_dependents
  have hbefore : x.control.getDependents candidate.artifactId = [] := (hs.dependents _).1 hnone
  obtain ⟨bytes, hbytes, hsound⟩ := h.verified
  refine ⟨(hs.rows _ hid).symm.trans h.registered, h.given, ?_, h.published, ?_, h.managed,
    ⟨bytes, hs.blobs _ _ _ hbytes, hsound⟩, h.planned, h.safe⟩
  · rw [← hs.records place artifact.artifactId (hkey ▸ hid)]
    exact h.held
  · have hrun : x.control.getRun artifact.runId = y.control.getRun artifact.runId := by
      rw [getRun, getRun, hs.runs]
    rw [hrun, hbefore, ← hnone]
    exact h.allowed

variable (stores plan) in
/-- What an execution over these candidates has done: a reference that is gone was removable. -/
structure Deletes (candidates : List CleanupCandidate) (x y : Stores) : Prop where
  spares : Spares (· ∈ candidates.map (·.artifactId)) x y
  removable : ∀ place id ref, (x.durable place).record? id = some (.ref ref) →
    (y.durable place).record? id ≠ some (.ref ref) →
    ∃ candidate ∈ candidates, candidate.artifactId = id ∧
      ∃ store, Removable stores plan candidate x ref place store

theorem Deletes.refl {candidates : List CleanupCandidate} : Deletes stores plan candidates x x :=
  ⟨Spares.refl, fun _ _ _ h h' => absurd h h'⟩

variable {planHash : CleanupPlan → String}

/-- **The step lemma.** -/
theorem Processing.deletes (h : Processing planHash stores plan candidate x y) :
    Deletes stores plan [candidate] x y := by
  rcases h with rfl | ⟨artifact, place, store, hr, hremoving⟩
  · exact Deletes.refl
  · have hkey := getArtifact_key hr.registered
    have hspares := hremoving.spares
    rw [hkey] at hspares
    refine ⟨by simpa using hspares, ?_⟩
    intro other id ref href hgone
    have hid : id = candidate.artifactId := by
      by_contra hne
      exact hgone ((hspares.records other id hne).trans href)
    have hother : other = place := by
      by_contra hne
      exact hgone (by rw [hremoving.elsewhere hne]; exact href)
    subst hid hother
    have hheld := hr.held
    rw [hkey, href] at hheld
    cases hheld
    exact ⟨candidate, mem_singleton_self _, rfl, store, hr⟩

theorem Deletes.cons {rest : List CleanupCandidate}
    (hnew : candidate.artifactId ∉ rest.map (·.artifactId))
    (h1 : Deletes stores plan [candidate] x y) (h2 : Deletes stores plan rest y z) :
    Deletes stores plan (candidate :: rest) x z := by
  have hspares1 : Spares (· = candidate.artifactId) x y := by simpa using h1.spares
  refine ⟨?_, ?_⟩
  · simpa using hspares1.trans h2.spares
  · intro place id ref href hgone
    by_cases hmiddle : (y.durable place).record? id = some (.ref ref)
    · obtain ⟨other, hother, hid, store, hr⟩ := h2.removable place id ref hmiddle hgone
      refine ⟨other, mem_cons_of_mem _ hother, hid, store, hr.before hspares1 ?_⟩
      intro he
      exact hnew (he ▸ mem_map.2 ⟨other, hother, rfl⟩)
    · obtain ⟨other, hother, hid, hr⟩ := h1.removable place id ref href hmiddle
      rw [mem_singleton] at hother
      subst hother
      exact ⟨other, mem_cons_self .., hid, hr⟩

/-- **The run lemma**: a loop over distinct candidates, in every state it can stop in. -/
theorem both_cleanupAll (planHash : CleanupPlan → String) (candidates : List CleanupCandidate)
    (hdistinct : (candidates.map (·.artifactId)).Nodup) (w : Platform) :
    SafelyBoth (Deletes stores plan candidates w.stores)
      (cleanupAll planHash stores plan candidates) w
      fun _ w' => Deletes stores plan candidates w.stores w'.stores := by
  induction candidates generalizing w with
  | nil => exact Deletes.refl
  | cons candidate rest ih =>
    rw [map_cons, nodup_cons] at hdistinct
    have hfirst : ∀ y, Processing planHash stores plan candidate w.stores y →
        Deletes stores plan (candidate :: rest) w.stores y := fun y hy =>
      hy.deletes.cons hdistinct.1 Deletes.refl
    refine throughout_bind (fun _ w' => Processing planHash stores plan candidate w.stores w'.stores)
      ((both_cleanupOne planHash stores plan candidate w).mono (fun _ hP => hfirst _ hP)
        fun _ _ hP => hP) ?_ ?_
    · intro verdict w1 hP
      have hthen : ∀ y, Deletes stores plan rest w1.stores y →
          Deletes stores plan (candidate :: rest) w.stores y := fun y hy =>
        hP.deletes.cons hdistinct.1 hy
      refine throughout_bind (fun _ w' => Deletes stores plan rest w1.stores w'.stores)
        ((ih hdistinct.2 w1).mono (fun _ hD => hthen _ hD) fun _ _ hD => hD) ?_ ?_
      · intro verdicts w2 hD
        exact hthen _ hD
      · intro e w2 hD
        exact hthen _ hD
    · intro e w1 hP
      exact hfirst _ hP

/-- Every execution of a plan, whole, failed or crashed. -/
theorem executeCleanup_deletes {authorization : CleanupAuthorization} {w w' : Platform}
    (h : (executeCleanup planHash stores plan authorization).Stops act w w') :
    (plan.dryRun = true ∧ w' = w) ∨ Deletes stores plan plan.candidates w.stores w'.stores := by
  unfold executeCleanup at h
  split at h
  · rename_i hdry
    exact .inl ⟨hdry, h⟩
  · right
    split at h
    · have hall : ∀ w1, (cleanupAll planHash stores plan plan.candidates).Stops act w w1 →
          Deletes stores plan plan.candidates w.stores w1.stores := fun w1 hstop =>
        (both_cleanupAll planHash plan.candidates plan.candidates_distinct w).stops Deletes.refl hstop
      rcases stops_bind.1 h with hstop | ⟨verdicts, w1, hrun, hstop⟩
      · exact hall w' hstop
      · have heq : w' = w1 := hstop
        subst heq
        exact hall w' hrun.stops
    · have heq : w' = w := h
      subst heq
      exact Deletes.refl

end

variable (t artifact) in
def NamedByGate : Prop :=
  ∃ evidence ∈ t.gateEvidence.rows, evidence.validationReportArtifactId = artifact.artifactId

variable (t artifact) in
/-- The artifact must not be deleted. -/
def StillNeeded : Prop :=
  artifact.retentionClass = .persistent ∨ artifact.retentionClass = .pinnedGateEvidence ∨
    artifact.storageMode = .external ∨ t.getDependents artifact.artifactId ≠ [] ∨
    NamedByGate t artifact ∨
    ∃ run, t.getRun artifact.runId = some run ∧ run.status ≠ .succeeded ∧ run.status ≠ .cancelled

variable (t artifact) in
/-- What `execute_cleanup` does not look at. -/
def Overlooked : Prop :=
  artifact.retentionClass = .persistent ∨ NamedByGate t artifact ∨
    ∃ run, t.getRun artifact.runId = some run ∧ (run.status = .failed ∨ run.status = .blocked)

section
variable {planHash : CleanupPlan → String} {stores : List LocalArtifactStore} {plan : CleanupPlan}
  {candidate : CleanupCandidate} {x : Stores} {artifact : ArtifactRef} {place : Nat}
  {store : LocalArtifactStore}

variable (h : Removable stores plan candidate x artifact place store)

include h in
/-- A candidate that passes the checks is still needed for one of the three other reasons only. -/
theorem Removable.stillNeeded_iff :
    StillNeeded x.control artifact ↔ Overlooked x.control artifact := by
  have hallowed := h.allowed
  simp only [cleanupAllowed, Bool.not_eq_true', Bool.or_eq_false_iff, decide_eq_false_iff_not] at hallowed
  obtain ⟨⟨⟨_, hpinned⟩, hactive⟩, _⟩ := hallowed
  have hdependents : x.control.getDependents artifact.artifactId = [] := by
    rw [getArtifact_key h.registered]
    exact h.no_dependents
  have hrun : ∀ run, x.control.getRun artifact.runId = some run →
      (run.status ≠ .succeeded ∧ run.status ≠ .cancelled ↔
        run.status = .failed ∨ run.status = .blocked) := by
    intro run hrun
    rw [hrun, Option.any_some] at hactive
    simp only [activeRun, Bool.or_eq_false_iff, decide_eq_false_iff_not] at hactive
    cases hstatus : run.status <;> simp_all
  constructor
  · rintro (hp | hp | hm | hd | hg | ⟨run, hr, hstatus⟩)
    · exact .inl hp
    · exact absurd hp hpinned
    · rw [h.managed] at hm
      cases hm
    · exact absurd hdependents hd
    · exact .inr (.inl hg)
    · exact .inr (.inr ⟨run, hr, (hrun run hr).1 hstatus⟩)
  · rintro (hp | hg | ⟨run, hr, hstatus⟩)
    · exact .inl hp
    · exact .inr (.inr (.inr (.inr (.inl hg))))
    · exact .inr (.inr (.inr (.inr (.inr ⟨run, hr, (hrun run hr).2 hstatus⟩))))

/-! ## A removable candidate is deleted -/

variable {w : Platform} {α : Type}

theorem runs_of_run {A : Type} {R : A → Type} {E S W : Type}
    {exec : (a : A) → W → S → Except E (R a) × S} {ω : W} {p : Prog R E α} {s s' : S}
    {r : Except E α} (h : p.run exec ω s = (r, s')) : p.Runs exec s r s' := by
  have hruns : p.Runs exec s (p.run exec ω s).1 (p.run exec ω s).2 := runs_run ω p s
  rwa [h] at hruns

/-- Nothing disturbs. -/
def calm : Outside := {}

theorem runs_onStore {place : Nat} {p : Files α} {r : Except StoreExc α} {s' : FileState}
    (h : p.Runs perform (w.directory place) r s') :
    (onStore place p).Runs act w r (w.atPlace place s') := by
  suffices hgen : ∀ s, p.Runs perform s r s' →
      (onStore place p).Runs act (w.atPlace place s) r (w.atPlace place s') by
    have := hgen _ h
    rwa [Platform.atPlace_self] at this
  clear h
  induction p with
  | done v =>
    rintro s ⟨rfl, rfl⟩
    exact ⟨rfl, rfl⟩
  | act a k ih =>
    rintro s ⟨ω, h⟩
    refine ⟨ω, ?_⟩
    rw [act_file]
    exact ih _ _ h

theorem stops_onStore {place : Nat} {p : Files α} {s' : FileState}
    (h : p.Stops perform (w.directory place) s') :
    (onStore place p).Stops act w (w.atPlace place s') := by
  suffices hgen : ∀ s, p.Stops perform s s' →
      (onStore place p).Stops act (w.atPlace place s) (w.atPlace place s') by
    have := hgen _ h
    rwa [Platform.atPlace_self] at this
  clear h
  induction p with
  | done v =>
    rintro s rfl
    exact rfl
  | act a k ih =>
    rintro s (rfl | ⟨ω, h⟩)
    · exact .inl rfl
    · refine .inr ⟨ω, ?_⟩
      rw [act_file]
      exact ih _ _ h

variable (artifactId : String)

theorem stat_unreadable (s : FileState) : ∃ e, e.isMissing = true ∧
      (stat artifactId).Runs perform s (.error e) s := by
  by_cases hsafe : safeFilename artifactId = true
  · refine ⟨.integrity "", rfl, runs_bind.2 (.inr ⟨.integrity "", ?_, rfl⟩)⟩
    refine runs_bind.2 (.inl ⟨(), s, runs_of_run (run_refPath (ω := calm) hsafe), ?_⟩)
    refine runs_bind.2 (.inr ⟨.integrity "", ?_, rfl⟩)
    refine runs_tryCatch.2 (.inr ⟨.integrity "", s, ?_, rfl, rfl⟩)
    exact ⟨{ fault := some (.integrity "", 0) }, rfl, rfl⟩
  · refine ⟨.confinement "artifact identity cannot be used as a filesystem path", rfl,
      runs_bind.2 (.inr ⟨_, runs_bind.2 (.inr ⟨_, ?_, rfl⟩), rfl⟩)⟩
    rw [refPath, if_neg hsafe]
    exact ⟨rfl, rfl⟩

theorem statTried_unreadable (place : Nat) (w : Platform) :
    (tryCatch ((onStore place (stat artifactId)).bind fun ref => pure (some ref))
      fun e => if e.isMissing then pure none else raise e).Runs act w (.ok none) w := by
  obtain ⟨e, hmissing, hrun⟩ := stat_unreadable artifactId (w.directory place)
  have hlifted := runs_onStore hrun
  rw [Platform.atPlace_self] at hlifted
  refine runs_tryCatch.2 (.inr ⟨e, w, runs_bind.2 (.inr ⟨e, hlifted, rfl⟩), ?_⟩)
  rw [if_pos hmissing]
  exact ⟨rfl, rfl⟩

theorem selectStore_unreadable (artifact : ArtifactRef) (stores : List LocalArtifactStore)
    (first : Nat) (w : Platform) : (selectStore artifact stores first).Runs act w (.ok none) w := by
  induction stores generalizing first with
  | nil => exact ⟨rfl, rfl⟩
  | cons store rest ih =>
    refine runs_bind.2 (.inl ⟨none, w, statTried_unreadable _ _ _, ?_⟩)
    exact ih (first + 1)

theorem selectStore_finds {stores : List LocalArtifactStore} {n : Nat} (first : Nat)
    (hgiven : stores[n]? = some store)
    (hheld : (w.directory (first + n)).record? artifact.artifactId = some (.ref artifact))
    (hsafe : safeFilename artifact.artifactId = true) :
    (selectStore artifact stores first).Runs act w (.ok (some (first + n, store))) w := by
  induction stores generalizing first n with
  | nil => cases hgiven
  | cons head rest ih =>
    cases n with
    | zero =>
      cases hgiven
      have hstat := runs_onStore (runs_of_run (run_stat (ω := calm) rfl hsafe hheld))
      rw [Nat.add_zero, Platform.atPlace_self] at hstat
      refine runs_bind.2 (.inl ⟨some artifact, w, runs_tryCatch.2 (.inl ⟨some artifact, ?_, rfl⟩), ?_⟩)
      · exact runs_bind.2 (.inl ⟨artifact, w, hstat, rfl, rfl⟩)
      · rw [if_pos rfl]
        exact ⟨rfl, rfl⟩
    | succ n =>
      refine runs_bind.2 (.inl ⟨none, w, statTried_unreadable _ _ _, ?_⟩)
      rw [if_neg (by simp)]
      rw [show first + (n + 1) = first + 1 + n by omega] at hheld ⊢
      exact ih (first + 1) hgiven hheld

theorem runs_getArtifact (w : Platform) :
    (control (.getArtifact artifactId)).Runs act w (.ok (w.control.getArtifact artifactId)) w :=
  runs_of_run (run_getArtifact (ω := calm) rfl _ _)

theorem runs_getRun (runId : String) (w : Platform) :
    (control (.getRun runId)).Runs act w (.ok (w.control.getRun runId)) w :=
  runs_of_run (run_getRun (ω := calm) rfl _ _)

theorem runs_getDependents (w : Platform) :
    (control (.getDependents artifactId)).Runs act w (.ok (w.control.getDependents artifactId)) w :=
  runs_of_run (run_getDependents (ω := calm) rfl _ _)

variable (planHash stores plan candidate w) in
theorem cleanupOne_rejects :
    (cleanupOne planHash stores plan candidate).Runs act w (.ok .rejected) w := by
  refine runs_bind.2 (.inl ⟨_, w, runs_getArtifact _ _, ?_⟩)
  split
  · exact ⟨rfl, rfl⟩
  · refine runs_bind.2 (.inl ⟨_, w, runs_getRun _ _, runs_bind.2 (.inl ⟨_, w,
      runs_getDependents _ _, runs_bind.2 (.inl ⟨none, w, selectStore_unreadable _ _ _ _, ?_⟩)⟩)⟩)
    exact ⟨rfl, rfl⟩

theorem stops_delete {s : FileState} {permit : CleanupDeletionPermit}
    (hsafe : safeFilename artifact.artifactId = true)
    (hheld : s.record? artifact.artifactId = some (.ref artifact))
    (hpublished : artifact.publicationState = .published)
    (hcovered : permitCovers permit artifact = true) (hmanaged : artifact.storageMode = .managed)
    (hverified : LocalArtifactStore.Verified store s.toDurable artifact) :
    ∃ s', (store.delete artifact.artifactId permit).Stops perform s s' ∧
      s'.toDurable = s.buried artifact permit := by
  obtain ⟨result, hverify, hstate⟩ := run_verify (ω := calm) rfl hsafe hheld
    hpublished hmanaged hverified
  obtain ⟨s', hwrite, hs'⟩ := run_writeRecord (ω := calm) (s := s) rfl hsafe
    (.tombstone artifact permit.planId permit.planContentHash)
  refine ⟨s', ?_, hs'⟩
  refine stops_bind.2 (.inr ⟨artifact, s, runs_of_run (run_publishedRef (ω := calm) rfl hsafe hheld
    hpublished), ?_⟩)
  simp only [hcovered, hmanaged, Bool.not_true, Bool.false_eq_true, if_false, reduceCtorEq]
  refine stops_bind.2 (.inr ⟨result, s, runs_of_run hverify, ?_⟩)
  simp only [hstate, ne_eq, not_true_eq_false, if_false]
  exact stops_bind.2 (.inr ⟨(), s', runs_of_run hwrite, stops_refl _ _⟩)

include h in
theorem Removable.covered :
    permitCovers (cleanupPermit planHash plan candidate) artifact = true := by
  have hallowed := h.allowed
  have hkey := getArtifact_key h.registered
  have hnone := cleanupAllowed_dependents hallowed
  simp only [cleanupAllowed, Bool.not_eq_true', Bool.or_eq_false_iff, decide_eq_false_iff_not,
    Bool.and_eq_false_iff, not_not] at hallowed
  obtain ⟨⟨⟨⟨⟨⟨⟨⟨hrun, hhash⟩, hsize⟩, hretention⟩, _⟩, hdependents⟩, hpinned⟩, _⟩, _⟩ := hallowed
  have hempty : candidate.dependentArtifactIds = [] := by
    rw [hnone] at hdependents
    have hlength := congrArg List.length hdependents
    rw [length_sorted] at hlength
    exact length_eq_zero_iff.1 hlength
  have hruns : plan.runId = none ∨ plan.runId = some artifact.runId := by
    simpa using hrun
  simp only [permitCovers, cleanupPermit, hkey, ← hhash, ← hsize, ← hretention,
    h.planned, hempty, Bool.and_eq_true, Bool.or_eq_true, decide_eq_true_eq]
  exact ⟨⟨⟨⟨⟨⟨⟨trivial, trivial⟩, trivial⟩, hruns⟩, trivial⟩, trivial⟩, trivial⟩, by simpa using hpinned⟩

/-- An execution that has just put a tombstone over this reference. -/
theorem cleanupOne_buries (h : Removable stores plan candidate w.stores artifact place store) :
    ∃ w', (cleanupOne planHash stores plan candidate).Stops act w w' ∧
      (w'.stores.durable place).record? artifact.artifactId ≠ some (.ref artifact) := by
  obtain ⟨s', hstop, hs'⟩ : ∃ s', (store.delete artifact.artifactId
      (cleanupPermit planHash plan candidate)).Stops perform (w.directory place) s' ∧
        s'.toDurable = (w.stores.durable place).buried artifact
          (cleanupPermit planHash plan candidate) :=
    stops_delete h.safe h.held h.published h.covered h.managed h.verified
  refine ⟨w.atPlace place s', ?_, ?_⟩
  · refine stops_bind.2 (.inr ⟨_, w, runs_getArtifact _ _, ?_⟩)
    have hregistered : w.control.getArtifact candidate.artifactId = some artifact := h.registered
    simp only [hregistered]
    refine stops_bind.2 (.inr ⟨_, w, runs_getRun _ _, stops_bind.2 (.inr ⟨_, w,
      runs_getDependents _ _, stops_bind.2 (.inr ⟨some (place, store), w, ?_, ?_⟩)⟩)⟩)
    · have hfinds := selectStore_finds (w := w) 0 h.given (by rw [Nat.zero_add]; exact h.held) h.safe
      rwa [Nat.zero_add] at hfinds
    · have hallowed : cleanupAllowed plan candidate artifact (w.control.getRun artifact.runId)
          (sorted ((w.control.getDependents candidate.artifactId).map (·.artifactId))) = true :=
        h.allowed
      simp only [hallowed, if_true]
      obtain ⟨result, hverify, hstate⟩ := run_verify (ω := calm) rfl h.safe
        h.held h.published h.managed h.verified
      have hlifted : (onStore place (store.verify artifact.artifactId)).Runs act w (.ok result)
          (w.atPlace place (w.directory place)) := runs_onStore (runs_of_run hverify)
      rw [Platform.atPlace_self] at hlifted
      refine stops_bind.2 (.inr ⟨some result.state, w, runs_tryCatch.2 (.inl ⟨some result.state,
        runs_bind.2 (.inl ⟨result, w, hlifted, rfl, rfl⟩), rfl⟩), ?_⟩)
      simp only [hstate, h.managed, h.planned, ne_eq, not_true_eq_false, if_false, reduceCtorEq,
        or_self]
      exact stops_tryCatch.2 (.inl (stops_bind.2 (.inl (stops_onStore hstop))))
  · rw [stores_atPlace, Stores.atPlace_durable, hs', buried, record?_putRef,
      if_pos rfl]
    intro he
    cases he

/-- **Every removable candidate is deleted by some execution**: all others are rejected. -/
theorem executeCleanup_buries {authorization : CleanupAuthorization} (hdry : plan.dryRun = false)
    (hauthorized : authorization.covers planHash plan = true)
    (hcandidate : candidate ∈ plan.candidates)
    (h : Removable stores plan candidate w.stores artifact place store) :
    ∃ w', (executeCleanup planHash stores plan authorization).Stops act w w' ∧
      (w'.stores.durable place).record? artifact.artifactId ≠ some (.ref artifact) := by
  have hall : ∀ candidates : List CleanupCandidate, candidate ∈ candidates →
      ∃ w', (cleanupAll planHash stores plan candidates).Stops act w w' ∧
        (w'.stores.durable place).record? artifact.artifactId ≠ some (.ref artifact) := by
    intro candidates
    induction candidates with
    | nil => exact fun hmem => by cases hmem
    | cons head rest ih =>
      intro hmem
      rcases mem_cons.1 hmem with rfl | hmem
      · obtain ⟨w', hstop, hgone⟩ := cleanupOne_buries h
        exact ⟨w', stops_bind.2 (.inl hstop), hgone⟩
      · obtain ⟨w', hstop, hgone⟩ := ih hmem
        exact ⟨w', stops_bind.2 (.inr ⟨.rejected, w, cleanupOne_rejects _ _ _ _ _,
          stops_bind.2 (.inl hstop)⟩), hgone⟩
  obtain ⟨w', hstop, hgone⟩ := hall plan.candidates hcandidate
  refine ⟨w', ?_, hgone⟩
  unfold executeCleanup
  simp only [hdry, hauthorized, Bool.false_eq_true, if_false, if_true]
  exact stops_bind.2 (.inl hstop)

variable (planHash stores plan) in
/-- An execution, whole, failed or crashed, has taken the reference from a store. -/
def Deleted (authorization : CleanupAuthorization) (w : Platform) (artifact : ArtifactRef) : Prop :=
  ∃ w' place, (executeCleanup planHash stores plan authorization).Stops act w w' ∧
    (w.stores.durable place).record? artifact.artifactId = some (.ref artifact) ∧
    (w'.stores.durable place).record? artifact.artifactId ≠ some (.ref artifact)

/-- **Cleanup spares what is still needed exactly when no candidate that passes is PERSISTENT, named
by gate evidence or of a FAILED or BLOCKED run.** -/
theorem cleanup_spares_needed_iff (planHash : CleanupPlan → String)
    (stores : List LocalArtifactStore) (plan : CleanupPlan) (authorization : CleanupAuthorization)
    (hauthorized : authorization.covers planHash plan = true) (w : Platform) :
    (∀ artifact, Deleted planHash stores plan authorization w artifact →
      ¬ StillNeeded w.control artifact) ↔
    (plan.dryRun = true ∨ ∀ candidate ∈ plan.candidates, ∀ artifact place store,
      Removable stores plan candidate w.stores artifact place store →
        ¬ Overlooked w.control artifact) := by
  constructor
  · intro h
    cases hdry : plan.dryRun with
    | true => exact .inl rfl
    | false =>
      right
      intro candidate hcandidate artifact place store hr hoverlooked
      obtain ⟨w', hstop, hgone⟩ := executeCleanup_buries hdry hauthorized hcandidate hr
      exact h artifact ⟨w', place, hstop, hr.held, hgone⟩ (hr.stillNeeded_iff.2 hoverlooked)
  · rintro h artifact ⟨w', place, hstop, hheld, hgone⟩ hneeded
    rcases executeCleanup_deletes hstop with ⟨_, rfl⟩ | hdeletes
    · exact hgone hheld
    · rcases h with hdry | h
      · have heq : w' = w := by
          unfold executeCleanup at hstop
          rw [if_pos hdry] at hstop
          exact hstop
        exact hgone (heq ▸ hheld)
      · obtain ⟨candidate, hcandidate, _, store, hr⟩ := hdeletes.removable place _ _ hheld hgone
        exact h candidate hcandidate artifact place store hr (hr.stillNeeded_iff.1 hneeded)

end

/-! ## A run that can be resumed -/

variable (status : RunStatus)

/-- The control store after `run-1` published a profile and ended with this status. -/
def demoControl : ControlTables where
  runs :=
    { rows := [{ runId := "run-1", projectId := "demo", createdAt := 0, status := status,
                 configurationFingerprint := "c" }]
      nodup := nodup_singleton _ }
  artifacts :=
    { rows := [publishedManaged (demoManifest "profile-1") (demoSha256 [97]) 1]
      nodup := nodup_singleton _ }
  dependencies := []
  gateEvidence := .empty

def demoPlatform : Platform where
  control := demoControl status
  directory _ := after demoStore .empty (.publish (demoManifest "profile-1") (.bytes [97]))

/-- What `build_cleanup_plan` proposes a minute later, made executable. -/
def demoCleanupPlan : CleanupPlan :=
  { buildCleanupPlan (demoControl status) (some "run-1")
      [{ retentionClass := .runScoped, maxAgeSeconds := some 0, reason := "expired" }] 60000000 with
    dryRun := false }

def demoPlanHash : CleanupPlan → String :=
  fun _ => "23a4270ddb0c78c1bf5db8ebd17deacd7fc3f53b50cc359ee2f46719d1166823"

def demoAuthorization : CleanupAuthorization where
  planId := "cleanup_run-1_60"
  planContentHash := "23a4270ddb0c78c1bf5db8ebd17deacd7fc3f53b50cc359ee2f46719d1166823"
  authorized := true

def demoCandidate : CleanupCandidate where
  artifactId := "profile-1"
  expectedContentHash := demoSha256 [97]
  reason := "expired"
  retentionClass := .runScoped
  ageSeconds := 60
  byteSize := 1
  plannedAction := .deleteBlobIfUnreferenced

theorem demoCandidate_removable {status : RunStatus} (h : status = .failed ∨ status = .succeeded) :
    demoCandidate ∈ (demoCleanupPlan status).candidates ∧
    Removable [demoStore] (demoCleanupPlan status) demoCandidate (demoPlatform status).stores
      (publishedManaged (demoManifest "profile-1") (demoSha256 [97]) 1) 0 demoStore := by
  have hverified : LocalArtifactStore.Verified demoStore
      ((demoPlatform status).stores.durable 0)
      (publishedManaged (demoManifest "profile-1") (demoSha256 [97]) 1) := by
    refine ⟨[97], ?_, rfl, rfl⟩
    show (after demoStore .empty (.publish (demoManifest "profile-1") (.bytes [97]))).blobs.lookup
      (demoSha256 [97]) = some [97]
    decide +kernel
  rcases h with rfl | rfl
  · exact ⟨.head _, by decide +kernel, rfl, by decide +kernel, rfl, by decide +kernel, rfl,
      hverified, rfl, by decide +kernel⟩
  · exact ⟨.head _, by decide +kernel, rfl, by decide +kernel, rfl, by decide +kernel, rfl,
      hverified, rfl, by decide +kernel⟩

/-- **A planned and authorized cleanup deletes an artifact of a FAILED run**, which can be resumed. -/
theorem failed_run_loses_artifact :
    demoAuthorization.covers demoPlanHash (demoCleanupPlan .failed) = true ∧
    Deleted demoPlanHash [demoStore] (demoCleanupPlan .failed) demoAuthorization
      (demoPlatform .failed) (publishedManaged (demoManifest "profile-1") (demoSha256 [97]) 1) ∧
    StillNeeded (demoPlatform .failed).control
      (publishedManaged (demoManifest "profile-1") (demoSha256 [97]) 1) := by
  have hauthorized : demoAuthorization.covers demoPlanHash (demoCleanupPlan .failed) = true := by
    decide +kernel
  obtain ⟨hcandidate, hr⟩ := demoCandidate_removable (.inl rfl : RunStatus.failed = .failed ∨ _)
  obtain ⟨w', hstop, hgone⟩ := executeCleanup_buries rfl hauthorized hcandidate hr
  refine ⟨hauthorized, ⟨w', 0, hstop, hr.held, hgone⟩, ?_⟩
  refine .inr (.inr (.inr (.inr (.inr ⟨_, rfl, ?_, ?_⟩))))
  · intro h
    cases h
  · intro h
    cases h

/-- Of a run that has succeeded, the same plan deletes nothing that is needed. -/
theorem cleanup_spares_needed_succeeded :
    demoAuthorization.covers demoPlanHash (demoCleanupPlan .succeeded) = true ∧
    ∀ artifact, Deleted demoPlanHash [demoStore] (demoCleanupPlan .succeeded) demoAuthorization
      (demoPlatform .succeeded) artifact →
        ¬ StillNeeded (demoPlatform .succeeded).control artifact := by
  have hauthorized : demoAuthorization.covers demoPlanHash (demoCleanupPlan .succeeded) = true := by
    decide +kernel
  refine ⟨hauthorized, (cleanup_spares_needed_iff demoPlanHash [demoStore] _ _ hauthorized _).2
    (.inr ?_)⟩
  intro candidate hcandidate artifact place store hr hoverlooked
  have hcandidates : (demoCleanupPlan .succeeded).candidates = [demoCandidate] := rfl
  rw [hcandidates, mem_singleton] at hcandidate
  have hartifact : (demoPlatform .succeeded).stores.control.getArtifact demoCandidate.artifactId =
      some (publishedManaged (demoManifest "profile-1") (demoSha256 [97]) 1) := by
    decide +kernel
  have hregistered := hr.registered
  rw [hcandidate, hartifact] at hregistered
  cases hregistered
  rcases hoverlooked with hp | ⟨evidence, hevidence, _⟩ | ⟨run, hrun, hstatus⟩
  · cases hp
  · cases hevidence
  · cases hrun
    rcases hstatus with hs | hs <;> cases hs

/-! ## What every execution keeps -/

section
variable {planHash : CleanupPlan → String} {stores : List LocalArtifactStore} {plan : CleanupPlan}
  {candidate : CleanupCandidate} {x y : Stores} {w w' : Platform}

theorem Processing.intact (h : Processing planHash stores plan candidate x y) (place : Nat)
    (store : LocalArtifactStore) (hx : Intact store (x.durable place)) :
    Intact store (y.durable place) := by
  rcases h with rfl | ⟨artifact, other, _, hr, hremoving⟩
  · exact hx
  by_cases hplace : place = other
  · subst hplace
    cases hremoving with
    | buried => simpa [Stores.atPlace] using (@kept_buried _ False _ _ _ hx hr.held _).1
    | removed => simpa [Stores.atPlace] using (@kept_removed _ False _ _ _ hx hr.held _).1
    | marked => simpa [Stores.marked, Stores.atPlace] using (@kept_removed _ False _ _ _ hx hr.held _).1
  · rw [hremoving.elsewhere hplace]
    exact hx

/-- What is kept while one candidate is processed is kept by the loop, wherever it stops. -/
theorem cleanupAll_keeps {P : Stores → Prop}
    (hone : ∀ candidate x y, Processing planHash stores plan candidate x y → P x → P y)
    (candidates : List CleanupCandidate) (w : Platform) (hw : P w.stores) :
    SafelyBoth P (cleanupAll planHash stores plan candidates) w fun _ w' => P w'.stores := by
  induction candidates generalizing w with
  | nil => exact hw
  | cons candidate rest ih =>
    refine throughout_bind (fun _ w' => P w'.stores)
      ((both_cleanupOne planHash stores plan candidate w).mono (fun _ hy => hone _ _ _ hy hw)
        fun _ _ hy => hone _ _ _ hy hw) (fun _ w1 h1 => ?_) fun _ _ h => h
    exact throughout_bind (fun _ w' => P w'.stores) (ih w1 h1) (fun _ _ h => h) fun _ _ h => h

/-- **Cleanup keeps everything else**: every execution, whole, failed or crashed, touches the artifacts
of its candidates only, and leaves no reference without its blob. -/
theorem executeCleanup_keeps {authorization : CleanupAuthorization}
    (h : (executeCleanup planHash stores plan authorization).Stops act w w') :
    Spares (· ∈ plan.candidates.map (·.artifactId)) w.stores w'.stores ∧
      ∀ place store, Intact store (w.stores.durable place) →
        Intact store (w'.stores.durable place) := by
  refine ⟨?_, fun place store hintact => ?_⟩
  · rcases executeCleanup_deletes h with ⟨_, rfl⟩ | hdeletes
    · exact Spares.refl
    · exact hdeletes.spares
  · have hall : ∀ w1, (cleanupAll planHash stores plan plan.candidates).Stops act w w1 →
        Intact store (w1.stores.durable place) := fun w1 =>
      (cleanupAll_keeps (fun _ _ _ hy => hy.intact place store) plan.candidates w hintact).stops hintact
    unfold executeCleanup at h
    split at h
    · rwa [show w' = w from h]
    · split at h
      · rcases stops_bind.1 h with hstop | ⟨_, w1, hrun, hstop⟩
        · exact hall w' hstop
        · rw [show w' = w1 from hstop]
          exact hall w1 hrun.stops
      · rwa [show w' = w from h]

theorem executeCleanup_keeps_failed : ∃ w', (executeCleanup demoPlanHash [demoStore]
    (demoCleanupPlan .failed) demoAuthorization).Stops act (demoPlatform .failed) w' ∧
      Intact demoStore (w'.stores.durable 0) := by
  obtain ⟨hcandidate, hr⟩ := demoCandidate_removable (.inl rfl : RunStatus.failed = .failed ∨ _)
  have hauthorized : demoAuthorization.covers demoPlanHash (demoCleanupPlan .failed) = true := by
    decide +kernel
  obtain ⟨w', hstop, _⟩ := executeCleanup_buries rfl hauthorized hcandidate hr
  exact ⟨w', hstop, (executeCleanup_keeps hstop).2 0 demoStore (Reachable.new.after _).intact⟩

end

end DirtyDataOlap.Artifacts
