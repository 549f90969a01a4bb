import DirtyDataOlap.PlanAdvancement
import DirtyDataOlap.StoreEvolution

/-!
# What losing attempts leave behind

The scan of the planning authority takes nothing from the artifacts of losing attempts, but it does
not pass over them either: each leaves its scope unresolved (`Contribution`, `resolveReadings_eq`).
**It goes unnoticed exactly if that scope was open anyway** (`Lacking`).
-/
namespace DirtyDataOlap

open List PlanningFindings

/-! ## What each reading contributes -/

/-- What the scan takes from one reading. -/
inductive Contribution
  | nothing
  /-- The scope stays unresolved. -/
  | leaves (scope : String)
  | source (sourceId artifactId : String)
  | hypothesis (h : CanonicalModelHypothesis)
  | raises (e : Exc)

namespace Contribution

def scope? : Contribution → Option String
  | leaves scope => some scope
  | _ => none

def source? : Contribution → Option (String × String)
  | source sourceId artifactId => some (sourceId, artifactId)
  | _ => none

def hypothesis? : Contribution → Option CanonicalModelHypothesis
  | hypothesis h => some h
  | _ => none

def raises? : Contribution → Option Exc
  | raises e => some e
  | _ => none

end Contribution

section

variable (o : ResolveOptions) (runId : String)

/-- What the scan takes from a reading. -/
def ResolveOptions.contribution (r : PlanningReading) : Contribution :=
  match o.relevant r.ref with
  | none => .nothing
  | some kind =>
    if o.requireRuntimeOwnership && !r.owned then .leaves kind.scope
    else
      match r.content with
      | .error e => if e.isUnreadable then .leaves kind.scope else .raises e
      | .ok (.source sourceId) => .source sourceId r.ref.artifactId
      | .ok (.hypothesis h) =>
        if h.artifactId ≠ r.ref.artifactId ∨ h.runId ≠ runId then .leaves "ENTITY_RESOLUTION"
        else .hypothesis h

/-- What one artifact adds to the findings. -/
def PlanningFindings.add (f : PlanningFindings) (c : Contribution) : PlanningFindings where
  sourceIds := f.sourceIds ++ c.source?.toList.map Prod.fst
  sourceArtifacts := f.sourceArtifacts ++ c.source?.toList.map Prod.snd
  hypotheses := f.hypotheses ++ c.hypothesis?.toList
  unresolved := f.unresolved ++ c.scope?.toList

theorem scan_eq (f : PlanningFindings) (r : PlanningReading) :
    f.scan o runId r = match (o.contribution runId r).raises? with
      | some e => .error e
      | none => .ok (f.add (o.contribution runId r)) := by
  have hnothing : f.add .nothing = f := by simp [add, Contribution.source?,
    Contribution.hypothesis?, Contribution.scope?]
  have hleaves : ∀ scope, f.add (.leaves scope) = f.leave scope := fun scope => by
    simp [add, leave, Contribution.source?,
      Contribution.hypothesis?, Contribution.scope?]
  unfold scan ResolveOptions.contribution
  cases o.relevant r.ref with
  | none => exact congrArg Except.ok hnothing.symm
  | some kind =>
    dsimp only
    by_cases hown : (o.requireRuntimeOwnership && !r.owned) = true
    · rw [if_pos hown, if_pos hown]
      exact congrArg Except.ok (hleaves _).symm
    rw [if_neg hown, if_neg hown]
    rcases r.content with e | (sourceId | h)
    · by_cases hun : e.isUnreadable = true
      · simp only [if_pos hun]
        exact congrArg Except.ok (hleaves _).symm
      · simp only [if_neg hun]
        rfl
    · simp [add, Contribution.source?, Contribution.hypothesis?,
        Contribution.scope?, Contribution.raises?]
    · by_cases hforeign : h.artifactId ≠ r.ref.artifactId ∨ h.runId ≠ runId
      · simp only [if_pos hforeign]
        exact congrArg Except.ok (hleaves _).symm
      · simp only [if_neg hforeign]
        simp [add, Contribution.source?, Contribution.hypothesis?,
          Contribution.scope?, Contribution.raises?]

/-- All that the scan of a list of readings finds. -/
def findingsOf (cs : List Contribution) : PlanningFindings where
  sourceIds := (cs.filterMap (·.source?)).map Prod.fst
  sourceArtifacts := (cs.filterMap (·.source?)).map Prod.snd
  hypotheses := cs.filterMap (·.hypothesis?)
  unresolved := cs.filterMap (·.scope?)

theorem findingsOf_append (cs : List Contribution) (c : Contribution) :
    findingsOf (cs ++ [c]) = (findingsOf cs).add c := by
  cases c <;> simp [findingsOf, add, Contribution.source?,
    Contribution.hypothesis?, Contribution.scope?]

/-- The scan stops at the first reading that raises, or has taken what each contributes. -/
theorem foldlM_scan (seen : List Contribution) (rs : List PlanningReading) :
    rs.foldlM (scan o runId) (findingsOf seen) =
      match (rs.map (o.contribution runId)).filterMap (·.raises?) with
      | e :: _ => .error e
      | [] => .ok (findingsOf (seen ++ rs.map (o.contribution runId))) := by
  induction rs generalizing seen with
  | nil => rw [map_nil, append_nil]; rfl
  | cons r rs ih =>
    rw [foldlM_cons, scan_eq]
    cases hr : (o.contribution runId r).raises? with
    | some e =>
      rw [map_cons, filterMap_cons, hr]
      rfl
    | none =>
      rw [← findingsOf_append, map_cons, filterMap_cons, hr]
      change rs.foldlM _ _ = _
      rw [ih, append_assoc, singleton_append]

/-- **What `resolve` concludes**, from what each reading contributes. -/
theorem resolveReadings_eq (rs : List PlanningReading) : resolveReadings o runId rs =
      match (rs.map (o.contribution runId)).filterMap (·.raises?) with
      | e :: _ => .error e
      | [] => .ok ((findingsOf (rs.map (o.contribution runId))).conclude o runId) := by
  unfold resolveReadings
  have hempty : ({} : PlanningFindings) = findingsOf [] := rfl
  rw [hempty, foldlM_scan]
  split <;> rfl

end

/-! ## What is missing anyway -/

/-- The hypotheses found are about the sources found, and all require the same. -/
def Agreement (cs : List Contribution) : Prop :=
  (∀ h ∈ cs.filterMap (·.hypothesis?), ∀ x, x ∈ h.sourceIds ↔
      x ∈ (cs.filterMap (·.source?)).map Prod.fst) ∧
    ∀ h ∈ cs.filterMap (·.hypothesis?), ∀ h' ∈ cs.filterMap (·.hypothesis?),
      h.requirements = h'.requirements

/-- **Planning lacks a scope**: an artifact of the scope cannot be tied to its stage or read,
there is none, or the hypotheses contradict the sources or one another. -/
inductive Lacking (o : ResolveOptions) (cs : List Contribution) : String → Prop
  | hindered {scope : String} (h : Contribution.leaves scope ∈ cs) : Lacking o cs scope
  | noSource (h : cs.filterMap (·.source?) = []) : Lacking o cs "SOURCE_SCOPE"
  | noHypothesis (ho : o.requireHypothesis = true) (h : cs.filterMap (·.hypothesis?) = []) :
      Lacking o cs "ENTITY_RESOLUTION"
  | disagreement (ho : o.requireHypothesis = true) (hh : cs.filterMap (·.scope?) = [])
      (hs : cs.filterMap (·.source?) ≠ []) (h : ¬ Agreement cs) : Lacking o cs "ENTITY_RESOLUTION"

theorem mem_scopes {cs : List Contribution} {scope : String} :
    scope ∈ cs.filterMap (·.scope?) ↔ Contribution.leaves scope ∈ cs := by
  rw [mem_filterMap]
  constructor
  · rintro ⟨c, hc, hs⟩
    cases c <;> cases hs
    exact hc
  · intro h
    exact ⟨_, h, rfl⟩

theorem dedup_length_eq_one {α : Type} [DecidableEq α] {l : List α} (hne : l ≠ []) :
    l.dedup.length = 1 ↔ ∀ a ∈ l, ∀ b ∈ l, a = b := by
  constructor
  · intro h a ha b hb
    obtain ⟨x, hx⟩ := length_eq_one_iff.mp h
    have hmem : ∀ y ∈ l, y = x := fun y hy => by
      simpa [hx] using (mem_dedup.mpr hy : y ∈ l.dedup)
    rw [hmem a ha, hmem b hb]
  · intro h
    obtain ⟨x, hx⟩ := exists_mem_of_ne_nil l hne
    have hrep : l = replicate l.length x := eq_replicate_of_mem fun b hb => h b hb x hx
    rw [hrep, replicate_dedup (by simpa using hne)]
    rfl

theorem agree_iff {cs : List Contribution} (hne : cs.filterMap (·.hypothesis?) ≠ []) :
    (findingsOf cs).agree = true ↔ Agreement cs := by
  have hne' : (cs.filterMap (·.hypothesis?)).map (·.requirements) ≠ [] := by simpa using hne
  unfold agree Agreement
  rw [Bool.and_eq_true, all_eq_true, decide_eq_true_eq]
  refine and_congr ?_ ?_
  · refine forall₂_congr fun h _ => ?_
    rw [decide_eq_true_eq]
    constructor
    · intro heq x
      have := congrArg (x ∈ ·) heq
      simpa [findingsOf] using this
    · exact fun h => sortedSet_eq h
  · change ((cs.filterMap (·.hypothesis?)).map (·.requirements)).dedup.length = 1 ↔ _
    rw [dedup_length_eq_one hne']
    simp only [mem_map, forall_exists_index, and_imp, forall_apply_eq_imp_iff₂]

section Missing
variable {o : ResolveOptions} {cs : List Contribution}

theorem mem_missing {x : String} : x ∈ (findingsOf cs).missing o ↔
    Contribution.leaves x ∈ cs ∨ (cs.filterMap (·.source?) = [] ∧ x = "SOURCE_SCOPE") ∨
      (o.requireHypothesis = true ∧ cs.filterMap (·.hypothesis?) = [] ∧ x = "ENTITY_RESOLUTION") := by
  unfold missing
  rw [mem_append, mem_append, or_assoc]
  refine or_congr mem_scopes (or_congr ?_ ?_)
  · simp only [findingsOf, List.isEmpty_iff, map_eq_nil_iff]
    split
    · rename_i h
      simp [h]
    · rename_i h
      simp [h]
  · simp only [findingsOf, Bool.and_eq_true, List.isEmpty_iff]
    split
    · rename_i h
      simp [h.1, h.2]
    · rename_i h
      constructor
      · intro hx
        cases hx
      · rintro ⟨h1, h2, _⟩
        exact absurd ⟨h1, h2⟩ h

theorem missing_eq_nil : (findingsOf cs).missing o = [] ↔
    cs.filterMap (·.scope?) = [] ∧ cs.filterMap (·.source?) ≠ [] ∧
      (o.requireHypothesis = true → cs.filterMap (·.hypothesis?) ≠ []) := by
  rw [eq_nil_iff_forall_not_mem]
  constructor
  · intro h
    refine ⟨eq_nil_iff_forall_not_mem.mpr fun x hx => ?_, fun hs => ?_, fun ho hh => ?_⟩
    · exact h x (mem_missing.mpr (.inl (mem_scopes.mp hx)))
    · exact h _ (mem_missing.mpr (.inr (.inl ⟨hs, rfl⟩)))
    · exact h _ (mem_missing.mpr (.inr (.inr ⟨ho, hh, rfl⟩)))
  · rintro ⟨hscope, hs, hh⟩ x hx
    rcases mem_missing.mp hx with hx | ⟨hnone, _⟩ | ⟨ho, hnone, _⟩
    · rw [← mem_scopes, hscope] at hx
      cases hx
    · exact hs hnone
    · exact hh ho hnone

/-- What planning lacks is what is missing, or the agreement of the hypotheses. -/
theorem lacking_iff {x : String} : Lacking o cs x ↔ x ∈ (findingsOf cs).missing o ∨
    ((findingsOf cs).missing o = [] ∧ o.requireHypothesis = true ∧ (findingsOf cs).agree = false ∧
      x = "ENTITY_RESOLUTION") := by
  constructor
  · intro h
    cases h with
    | hindered h => exact .inl (mem_missing.mpr (.inl h))
    | noSource h => exact .inl (mem_missing.mpr (.inr (.inl ⟨h, rfl⟩)))
    | noHypothesis ho h => exact .inl (mem_missing.mpr (.inr (.inr ⟨ho, h, rfl⟩)))
    | disagreement ho hh hs h =>
      have hne : cs.filterMap (·.hypothesis?) ≠ [] := by
        intro hnone
        refine h ⟨fun h hmem => ?_, fun h hmem => ?_⟩ <;>
        · rw [hnone] at hmem
          cases hmem
      refine .inr ⟨missing_eq_nil.mpr ⟨hh, hs, fun _ => hne⟩, ho, ?_, rfl⟩
      exact Bool.eq_false_iff.mpr fun hagree => h ((agree_iff hne).mp hagree)
  · rintro (h | ⟨hnil, ho, hagree, rfl⟩)
    · rcases mem_missing.mp h with hleft | ⟨hnone, rfl⟩ | ⟨ho, hnone, rfl⟩
      · exact .hindered hleft
      · exact .noSource hnone
      · exact .noHypothesis ho hnone
    · obtain ⟨hh, hs, hne⟩ := missing_eq_nil.mp hnil
      refine .disagreement ho hh hs fun h => ?_
      rw [(agree_iff (hne ho)).mpr h] at hagree
      cases hagree

/-- **Further open scopes go unnoticed exactly if they were lacking anyway.** -/
theorem conclude_eq_iff {cs' : List Contribution} {labels : List String} (runId : String)
    (hsource : cs'.filterMap (·.source?) = cs.filterMap (·.source?))
    (hhyp : cs'.filterMap (·.hypothesis?) = cs.filterMap (·.hypothesis?))
    (hscope : ∀ x, Contribution.leaves x ∈ cs' ↔ Contribution.leaves x ∈ cs ∨ x ∈ labels) :
    (findingsOf cs').conclude o runId = (findingsOf cs).conclude o runId ↔
      ∀ x ∈ labels, Lacking o cs x := by
  have hmem : ∀ x, x ∈ (findingsOf cs').missing o ↔
      x ∈ (findingsOf cs).missing o ∨ x ∈ labels := by
    intro x
    rw [mem_missing, mem_missing, hsource, hhyp, hscope]
    tauto
  have hids : (findingsOf cs').sourceIds = (findingsOf cs).sourceIds :=
    congrArg (List.map Prod.fst) hsource
  have harts : (findingsOf cs').sourceArtifacts = (findingsOf cs).sourceArtifacts :=
    congrArg (List.map Prod.snd) hsource
  have hhyps : (findingsOf cs').hypotheses = (findingsOf cs).hypotheses := hhyp
  simp only [lacking_iff]
  by_cases hlabels : labels = []
  · -- nothing is added
    subst hlabels
    refine iff_of_true ?_ (fun x hx => by cases hx)
    have hset : ∀ x, x ∈ (findingsOf cs').missing o ↔ x ∈ (findingsOf cs).missing o := by
      simpa using hmem
    have hempty : ((findingsOf cs').missing o).isEmpty = ((findingsOf cs).missing o).isEmpty := by
      rw [Bool.eq_iff_iff, List.isEmpty_iff, List.isEmpty_iff, eq_nil_iff_forall_not_mem,
        eq_nil_iff_forall_not_mem]
      simp only [hset]
    unfold conclude agree
    rw [hempty, sortedSet_eq hset, hids, harts, hhyps]
  obtain ⟨x0, hx0⟩ := exists_mem_of_ne_nil labels hlabels
  have hconclude : (findingsOf cs').conclude o runId =
      (none, sortedSet ((findingsOf cs').missing o)) := by
    unfold conclude
    rw [if_pos]
    simpa using ne_nil_of_mem ((hmem x0).mpr (.inr hx0))
  rw [hconclude]
  by_cases hnil : (findingsOf cs).missing o = []
  · have hlab : ∀ x, x ∈ (findingsOf cs').missing o ↔ x ∈ labels := by
      intro x
      rw [hmem, hnil]
      simp
    unfold conclude
    rw [if_neg (by simp [hnil])]
    by_cases ho : (o.requireHypothesis && !(findingsOf cs).agree) = true
    · -- the hypotheses disagree
      rw [if_pos ho]
      rw [Bool.and_eq_true, Bool.not_eq_true'] at ho
      simp only [hnil, not_mem_nil, false_or, true_and, ho.1, ho.2]
      constructor
      · intro heq x hx
        have hin : x ∈ sortedSet ((findingsOf cs').missing o) := by
          rw [mem_sortedSet, hlab]
          exact hx
        rw [(Prod.mk.inj heq).2] at hin
        simpa using hin
      · intro h
        refine Prod.ext rfl ?_
        have hset : ∀ x, x ∈ (findingsOf cs').missing o ↔ x ∈ ["ENTITY_RESOLUTION"] := by
          intro x
          rw [hlab, mem_singleton]
          exact ⟨h x, fun hx => by rw [hx, ← h x0 hx0]; exact hx0⟩
        exact (sortedSet_eq hset).trans rfl
    · -- the context is known
      rw [if_neg ho]
      refine iff_of_false (fun heq => by cases (Prod.mk.inj heq).1) fun h => ?_
      rcases h x0 hx0 with h | ⟨_, hreq, hdis, _⟩
      · rw [hnil] at h
        cases h
      · exact ho (by rw [hreq, hdis]; rfl)
  · -- something is missing already
    unfold conclude
    rw [if_pos (by simpa using hnil)]
    simp only [hnil, false_and, or_false]
    constructor
    · intro heq x hx
      have hin : x ∈ sortedSet ((findingsOf cs').missing o) := by
        rw [mem_sortedSet, hmem]
        exact .inr hx
      rw [(Prod.mk.inj heq).2] at hin
      exact mem_sortedSet.mp hin
    · intro h
      refine Prod.ext rfl (sortedSet_eq fun x => ?_)
      rw [hmem]
      exact ⟨fun hx => hx.elim id (h x), .inl⟩

end Missing

/-! ## The artifacts of losing attempts -/

/-- The artifact was produced by an attempt other than the one that its stage has succeeded
with. -/
def LosingAttempt (s : Store) (runId : String) (ref : ArtifactRef) : Prop :=
  ref.runId = runId ∧ ∃ job, s.getStageJob runId ref.stageId = some job ∧
    job.status = .succeeded ∧ job.attemptId ≠ some ref.attemptId

/-- What the artifacts of a run contribute. -/
def Store.contributions (s : Store) (files : PlanningArtifacts) (o : ResolveOptions)
    (runId : String) : List Contribution :=
  (planningReadings s files runId).map (o.contribution runId)

def ResolveOptions.scopes (o : ResolveOptions) (refs : List ArtifactRef) : List String :=
  refs.filterMap fun ref => (o.relevant ref).map PlanningKind.scope

section Extras
variable {s : Store} {runId : String} {artifacts : Table ArtifactRef.artifactId}
variable {extras : List ArtifactRef} (files : PlanningArtifacts)

variable {ref : ArtifactRef}

theorem LosingAttempt.not_owned (h : LosingAttempt s runId ref) :
    ownedBySucceededStage s ref runId = false := by
  obtain ⟨_, job, hjob, _, hattempt⟩ := h
  unfold ownedBySucceededStage
  rw [hjob]
  simp [hattempt]

theorem listArtifacts_eq {limit : Nat}
    (hfit : (s.artifacts.rows.filter (·.runId = runId)).length ≤ limit) :
    s.listArtifacts runId limit =
      sortedBy (·.artifactId) (s.artifacts.rows.filter (·.runId = runId)) := by
  refine take_of_length_le ?_
  rw [(sortedBy_perm _ _).length_eq]
  exact hfit

variable (hrows : artifacts.rows = s.artifacts.rows ++ extras)

include hrows in
theorem filter_listArtifacts :
    (sortedBy (·.artifactId) (artifacts.rows.filter (·.runId = runId))).filter
        (fun ref => !extras.contains ref) =
      sortedBy (·.artifactId) (s.artifacts.rows.filter (·.runId = runId)) := by
  have hnodup := artifacts.nodup
  rw [hrows, map_append, nodup_append] at hnodup
  have hold : ∀ ref ∈ s.artifacts.rows, (!extras.contains ref) = true := by
    intro ref hmem
    simp only [Bool.not_eq_true', contains_iff_mem, ← Bool.not_eq_true]
    intro hin
    exact hnodup.2.2 _ (mem_map_of_mem hmem) _ (mem_map_of_mem hin) rfl
  have hperm : (artifacts.rows.filter (·.runId = runId)).filter (fun ref => !extras.contains ref) =
      s.artifacts.rows.filter (·.runId = runId) := by
    rw [hrows, filter_append, filter_append]
    have hextra : (extras.filter (·.runId = runId)).filter (fun ref => !extras.contains ref) = [] := by
      rw [filter_eq_nil_iff]
      intro ref href
      simp [mem_of_mem_filter href]
    rw [hextra, append_nil, filter_eq_self]
    exact fun ref href => hold ref (mem_of_mem_filter href)
  have hsorted : (sortedBy (·.artifactId) (artifacts.rows.filter (·.runId = runId))).filter
      (fun ref => !extras.contains ref) |>.Pairwise fun a b => a.artifactId ≤ b.artifactId :=
    (pairwise_sortedBy _ _).filter _
  have hp : ((sortedBy (·.artifactId) (artifacts.rows.filter (·.runId = runId))).filter
      (fun ref => !extras.contains ref)).Perm
      (sortedBy (·.artifactId) (s.artifacts.rows.filter (·.runId = runId))) := by
    refine ((sortedBy_perm _ _).filter _).trans ?_
    rw [hperm]
    exact (sortedBy_perm _ _).symm
  refine hp.eq_of_pairwise (fun a b ha hb hab hba => ?_) hsorted (pairwise_sortedBy _ _)
  have hina : a ∈ artifacts.rows :=
    mem_of_mem_filter (mem_sortedBy.mp (mem_of_mem_filter ha))
  have hinb : b ∈ artifacts.rows := by
    rw [hrows]
    exact mem_append_left _ (mem_of_mem_filter (mem_sortedBy.mp hb))
  exact inj_on_of_nodup_map artifacts.nodup hina hinb (le_antisymm hab hba)

include hrows in
theorem readPlanningInput_extended (href : ref ∈ s.artifacts.rows) :
    readPlanningInput { s with artifacts } files ref runId = readPlanningInput s files ref runId := by
  have hold : s.getArtifact ref.artifactId = some ref := Table.find?_of_mem href
  have hnew : Store.getArtifact { s with artifacts } ref.artifactId = some ref := by
    refine Table.find?_of_mem (?_ : ref ∈ artifacts.rows)
    rw [hrows]
    exact mem_append_left _ href
  unfold readPlanningInput
  rw [hold, hnew]

/-- What the planner reads of an artifact. -/
def planningReading (s : Store) (files : PlanningArtifacts) (runId : String) (ref : ArtifactRef) :
    PlanningReading where
  ref := ref
  owned := ownedBySucceededStage s ref runId
  content := readPlanningInput s files ref runId

theorem contributions_eq (o : ResolveOptions) :
    s.contributions files o runId = (s.listArtifacts runId 10000).map fun ref =>
      o.contribution runId (planningReading s files runId ref) := by
  unfold Store.contributions planningReadings
  rw [map_map]
  rfl

theorem contribution_losing {requireHypothesis : Bool} (h : LosingAttempt s runId ref) :
    ResolveOptions.contribution { requireHypothesis } runId
        (planningReading { s with artifacts } files runId ref) =
      match ResolveOptions.relevant { requireHypothesis } ref with
      | none => .nothing
      | some kind => .leaves kind.scope := by
  have hown : ownedBySucceededStage { s with artifacts } ref runId = false := h.not_owned
  unfold ResolveOptions.contribution planningReading
  rw [hown]
  rfl

include hrows in
theorem contribution_extended (o : ResolveOptions) (href : ref ∈ s.artifacts.rows) :
    o.contribution runId (planningReading { s with artifacts } files runId ref) =
      o.contribution runId (planningReading s files runId ref) := by
  unfold planningReading
  rw [readPlanningInput_extended files hrows href]
  rfl

theorem mem_rows_of_listed (h : ref ∈ s.listArtifacts runId 10000) : ref ∈ s.artifacts.rows :=
  mem_of_mem_filter (mem_sortedBy.mp (mem_of_mem_take h))

section Fitting
variable (hrows : artifacts.rows = s.artifacts.rows ++ extras)
variable (hfit : (artifacts.rows.filter (·.runId = runId)).length ≤ 10000)
include hrows hfit

theorem listArtifacts_extended :
    (Store.listArtifacts { s with artifacts } runId 10000).filter (fun ref => !extras.contains ref) =
      s.listArtifacts runId 10000 := by
  have hfit' : (s.artifacts.rows.filter (·.runId = runId)).length ≤ 10000 := by
    refine Nat.le_trans ?_ hfit
    rw [hrows, filter_append, length_append]
    exact Nat.le_add_right _ _
  rw [listArtifacts_eq hfit', @listArtifacts_eq { s with artifacts } runId 10000 hfit]
  exact filter_listArtifacts hrows

variable (hlost : ∀ ref ∈ extras, LosingAttempt s runId ref) (requireHypothesis : Bool)
include hlost

theorem mem_listArtifacts_extended {ref : ArtifactRef} :
    ref ∈ Store.listArtifacts { s with artifacts } runId 10000 ↔
      ref ∈ s.listArtifacts runId 10000 ∨ ref ∈ extras := by
  constructor
  · intro h
    by_cases hin : ref ∈ extras
    · exact .inr hin
    · refine .inl ?_
      rw [← listArtifacts_extended hrows hfit]
      exact mem_filter.mpr ⟨h, by simpa using hin⟩
  · rintro (h | h)
    · rw [← listArtifacts_extended hrows hfit] at h
      exact mem_of_mem_filter h
    · rw [@listArtifacts_eq { s with artifacts } runId 10000 hfit, mem_sortedBy]
      refine mem_filter.mpr ⟨?_, by simpa using (hlost ref h).1⟩
      change ref ∈ artifacts.rows
      rw [hrows]
      exact mem_append_right _ h

/-- Losing attempts contribute nothing but open scopes. -/
theorem filterMap_contributions_extended {β : Type} {g : Contribution → Option β}
    (hnothing : g .nothing = none) (hleaves : ∀ x, g (.leaves x) = none) :
    (Store.contributions { s with artifacts } files { requireHypothesis } runId).filterMap g =
      (s.contributions files { requireHypothesis } runId).filterMap g := by
  rw [contributions_eq, contributions_eq, ← listArtifacts_extended hrows hfit,
    filterMap_map, filterMap_map, filterMap_filter]
  refine filterMap_congr fun ref href => ?_
  by_cases hin : ref ∈ extras
  · rw [if_neg (by simpa using hin), Function.comp_apply, contribution_losing files (hlost ref hin)]
    split
    · exact hnothing
    · exact hleaves _
  · rw [if_pos (by simpa using hin), Function.comp_apply, Function.comp_apply]
    rcases (mem_listArtifacts_extended hrows hfit hlost).mp href with hold | hnew
    · rw [contribution_extended files hrows _ (mem_rows_of_listed hold)]
    · exact absurd hnew hin

/-- The open scopes are the old ones and those of the losing attempts. -/
theorem leaves_mem_contributions_extended (x : String) : Contribution.leaves x ∈
        Store.contributions { s with artifacts } files { requireHypothesis } runId ↔
      Contribution.leaves x ∈ s.contributions files { requireHypothesis } runId ∨
        x ∈ ResolveOptions.scopes { requireHypothesis } extras := by
  rw [contributions_eq, contributions_eq, mem_map, mem_map]
  constructor
  · rintro ⟨ref, href, heq⟩
    by_cases hin : ref ∈ extras
    · rw [contribution_losing files (hlost ref hin)] at heq
      refine .inr (mem_filterMap.mpr ⟨ref, hin, ?_⟩)
      split at heq
      · cases heq
      · rename_i kind hkind
        cases heq
        rw [hkind]
        rfl
    · rcases (mem_listArtifacts_extended hrows hfit hlost).mp href with hold | hnew
      · rw [contribution_extended files hrows _ (mem_rows_of_listed hold)] at heq
        exact .inl ⟨ref, hold, heq⟩
      · exact absurd hnew hin
  · rintro (⟨ref, href, heq⟩ | h)
    · refine ⟨ref, (mem_listArtifacts_extended hrows hfit hlost).mpr (.inl href), ?_⟩
      rw [contribution_extended files hrows _ (mem_rows_of_listed href)]
      exact heq
    · obtain ⟨ref, href, hx⟩ := mem_filterMap.mp h
      refine ⟨ref, (mem_listArtifacts_extended hrows hfit hlost).mpr (.inr href), ?_⟩
      obtain ⟨kind, hkind, rfl⟩ := Option.map_eq_some_iff.mp hx
      rw [contribution_losing files (hlost ref href), hkind]

end Fitting
end Extras

/-- **Losing attempts go unnoticed**: reading the other artifacts raises, or every planning
artifact of theirs is about a scope that planning lacks without it. -/
def Unnoticed (o : ResolveOptions) (cs : List Contribution) (extras : List ArtifactRef) : Prop :=
  (∃ e, Contribution.raises e ∈ cs) ∨ ∀ x ∈ o.scopes extras, Lacking o cs x

theorem raises_eq_nil {cs : List Contribution} :
    cs.filterMap (·.raises?) = [] ↔ ¬ ∃ e, Contribution.raises e ∈ cs := by
  rw [filterMap_eq_nil_iff]
  constructor
  · rintro h ⟨e, he⟩
    cases h _ he
  · intro h c hc
    cases c with
    | raises e => exact absurd ⟨e, hc⟩ h
    | _ => rfl

theorem resolvePlanning_eq (s : Store) (files : PlanningArtifacts) (o : ResolveOptions)
    (run : RunRecord) : s.resolvePlanning files o run =
      match (s.contributions files o run.runId).filterMap (·.raises?) with
      | e :: _ => .error e
      | [] => .ok ((findingsOf (s.contributions files o run.runId)).conclude o run.runId) :=
  resolveReadings_eq o run.runId _

theorem resolvePlanning_extended_iff {s : Store} {run : RunRecord}
    {artifacts : Table ArtifactRef.artifactId} {extras : List ArtifactRef}
    (files : PlanningArtifacts) (requireHypothesis : Bool)
    (hrows : artifacts.rows = s.artifacts.rows ++ extras)
    (hfit : (artifacts.rows.filter (·.runId = run.runId)).length ≤ 10000)
    (hlost : ∀ ref ∈ extras, LosingAttempt s run.runId ref) :
    Store.resolvePlanning { s with artifacts } files { requireHypothesis } run =
        s.resolvePlanning files { requireHypothesis } run ↔
      Unnoticed { requireHypothesis } (s.contributions files { requireHypothesis } run.runId)
        extras := by
  have hmap := fun {β : Type} {g : Contribution → Option β} =>
    @filterMap_contributions_extended s run.runId artifacts extras files hrows hfit hlost
      requireHypothesis β g
  rw [resolvePlanning_eq, resolvePlanning_eq, hmap rfl fun _ => rfl]
  by_cases hraise : ∃ e, Contribution.raises e ∈
      s.contributions files { requireHypothesis } run.runId
  · -- the scan stops at the same artifact
    refine iff_of_true ?_ (.inl hraise)
    split
    · rfl
    · rename_i hnil
      exact absurd hraise (raises_eq_nil.mp hnil)
  · rw [raises_eq_nil.mpr hraise]
    rw [Except.ok.injEq]
    refine (conclude_eq_iff run.runId (hmap rfl fun _ => rfl) (hmap rfl fun _ => rfl)
      (leaves_mem_contributions_extended files hrows hfit hlost requireHypothesis)).trans ?_
    exact ⟨.inr, fun h => h.resolve_left hraise⟩

/-- **Artifacts of losing attempts do not influence planning exactly if they go unnoticed.**
The scan lists at most 10000 artifacts of a run; where it lists them all, the extended state
resolves to the same planning facts, and any plan advances to the same plan, if and only if the
extra artifacts are about no scope that planning had. -/
theorem losing_attempts_uninfluential_iff (service : PlanService) {s : Store} {run : RunRecord}
    {artifacts : Table ArtifactRef.artifactId} {extras : List ArtifactRef}
    (files : PlanningArtifacts) (hrows : artifacts.rows = s.artifacts.rows ++ extras)
    (hlost : ∀ ref ∈ extras, LosingAttempt s run.runId ref)
    (hfit : (artifacts.rows.filter (·.runId = run.runId)).length ≤ 10000) :
    ((∀ requireHypothesis, Store.resolvePlanning { s with artifacts } files { requireHypothesis } run =
        s.resolvePlanning files { requireHypothesis } run) ∧ ∀ current completedStageId,
        service.advancedPlan { s with artifacts } files run current completedStageId =
          service.advancedPlan s files run current completedStageId) ↔
    ∀ requireHypothesis, Unnoticed { requireHypothesis }
      (s.contributions files { requireHypothesis } run.runId) extras := by
  have hresolve := fun requireHypothesis =>
    resolvePlanning_extended_iff files requireHypothesis hrows hfit hlost
  constructor
  · rintro ⟨h, _⟩ requireHypothesis
    exact (hresolve requireHypothesis).mp (h requireHypothesis)
  · intro h
    have hsame := fun requireHypothesis => (hresolve requireHypothesis).mpr (h requireHypothesis)
    refine ⟨hsame, fun current completedStageId => ?_⟩
    unfold PlanService.advancedPlan
    rw [hsame true, hsame false]

/-! ## A retried discovery -/

def retriedRun : RunRecord where
  runId := "run-1"
  projectId := "project-1"
  createdAt := 0
  configurationFingerprint := "configuration-1"

def discoveryArtifact (artifactId attemptId artifactKind : String) : ArtifactRef where
  artifactId := artifactId
  runId := "run-1"
  stageId := "SOURCE_DISCOVERY"
  attemptId := attemptId
  artifactKind := artifactKind
  contentHash := "sha256-" ++ artifactId
  publicationState := .published

/-- Discovery has succeeded, with its second attempt. -/
def retriedDiscovery : JobRecord where
  jobId := "stage-job-run-1-SOURCE_DISCOVERY"
  runId := "run-1"
  jobKind := .stage
  stageId := some "SOURCE_DISCOVERY"
  attemptId := some "attempt-2"
  status := .succeeded
  createdAt := 0
  availableAt := 0
  resultRefs := ["catalog-2"]

/-- The artifacts of the second attempt, and those of the first. -/
def discoveryArtifacts (extras : List ArtifactRef)
    (h : ((discoveryArtifact "catalog-2" "attempt-2" "SourceCatalog" :: extras).map
      ArtifactRef.artifactId).Nodup) : Table ArtifactRef.artifactId :=
  ⟨discoveryArtifact "catalog-2" "attempt-2" "SourceCatalog" :: extras, h⟩

/-- The store once discovery has succeeded. -/
def retriedStore : Store :=
  { Store.empty with
    jobs := ⟨[retriedDiscovery], by decide⟩
    artifacts := discoveryArtifacts [] (by decide) }

/-- Every catalog and snapshot is one of the source `crm`, and intact. -/
def intactArtifacts : PlanningArtifacts where
  stat ref := .ok ref
  verify _ := .ok .verified
  sourceCatalog _ := .ok "crm"
  sourceSnapshotResult _ := .ok "crm"
  canonicalModelHypothesis ref := .ok
    { artifactId := ref.artifactId, runId := ref.runId, sourceIds := ["crm"]
      entityResolutionRequirements := [] }

theorem discovery_losing (artifactId artifactKind : String) :
    LosingAttempt retriedStore "run-1" (discoveryArtifact artifactId "attempt-1" artifactKind) :=
  ⟨rfl, retriedDiscovery, rfl, rfl, (by decide : some "attempt-2" ≠ some "attempt-1")⟩

/-- A planning service for an empty graph. -/
def idlePlanning : PlanService where
  env := ⟨fun _ => "", { stages := [] }⟩
  digests := ⟨fun _ _ _ => "", fun _ _ _ _ _ => ""⟩

def failedLog : ArtifactRef := discoveryArtifact "log-1" "attempt-1" "DiscoveryLog"

/-- The log does not influence planning. -/
theorem losing_attempts_uninfluential_iff_log : LosingAttempt retriedStore "run-1" failedLog ∧
      Store.resolvePlanning
          { retriedStore with artifacts := (discoveryArtifacts [failedLog] (by decide)) }
          intactArtifacts { requireHypothesis := false } retriedRun =
        retriedStore.resolvePlanning intactArtifacts { requireHypothesis := false } retriedRun := by
  refine ⟨discovery_losing _ _, ?_⟩
  refine ((@losing_attempts_uninfluential_iff idlePlanning retriedStore retriedRun
    (discoveryArtifacts [failedLog] (by decide)) [failedLog] intactArtifacts rfl ?_
    (by decide)).mpr fun requireHypothesis => .inr fun x hx => ?_).1 false
  · intro ref href
    obtain rfl := mem_singleton.mp href
    exact discovery_losing _ _
  · cases hx

/-- **The catalog of the failed attempt blocks planning**: with it nothing is known of the
sources, without it they are. -/
theorem losing_catalog_noticed :
    ¬ ∀ (s : Store) (run : RunRecord) (artifacts : Table ArtifactRef.artifactId)
      (extras : List ArtifactRef) (files : PlanningArtifacts) (requireHypothesis : Bool),
      artifacts.rows = s.artifacts.rows ++ extras →
      (∀ ref ∈ extras, LosingAttempt s run.runId ref) →
      Store.resolvePlanning { s with artifacts } files { requireHypothesis } run =
        s.resolvePlanning files { requireHypothesis } run := by
  intro h
  have heq := h retriedStore retriedRun
    (discoveryArtifacts [discoveryArtifact "catalog-1" "attempt-1" "SourceCatalog"] (by decide))
    [discoveryArtifact "catalog-1" "attempt-1" "SourceCatalog"] intactArtifacts false rfl
    (fun ref href => by
      obtain rfl := mem_singleton.mp href
      exact discovery_losing _ _)
  have hknown : ((retriedStore.resolvePlanning intactArtifacts { requireHypothesis := false }
      retriedRun).toOption.bind (·.1)).isSome = true := by decide +kernel
  rw [← heq] at hknown
  exact absurd hknown (by decide +kernel)

end DirtyDataOlap
