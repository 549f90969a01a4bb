import Mathlib.Data.String.Basic
import DirtyDataOlap.Dictionaries
import DirtyDataOlap.KeyedTable
import DirtyDataOlap.LocalArtifactStore
import DirtyDataOlap.SortedCollections

/-!
# Retention and cleanup

`build_cleanup_plan` lists what a retention policy lets go; `execute_cleanup` deletes it, candidate
by candidate, from the artifact store that holds it and then marks it in the control store.  **The
two stores have no common transaction**, so it is a program over both.  Audit events are not
modelled.
-/
namespace DirtyDataOlap.Artifacts

open List

/-- An artifact that was made from another. -/
structure ArtifactDependency where
  (artifactId upstreamArtifactId expectedContentHash relationshipKind : String)

/-- How long artifacts of a class are kept. -/
structure RetentionPolicy where
  retentionClass : RetentionClass
  maxAgeSeconds : Option Nat := none
  pin : Bool := false
  reason : String

/-- `CleanupCandidate`; the dependents are validated to be distinct. -/
structure CleanupCandidate where
  (artifactId expectedContentHash reason : String)
  retentionClass : RetentionClass
  ageSeconds : Nat
  dependentArtifactIds : List String := []
  pinned : Bool := false
  byteSize : Nat
  plannedAction : CleanupAction
  dependents_distinct : dependentArtifactIds.Nodup := by exact List.nodup_nil

/-- `CleanupPlan`; the candidates are validated to be about distinct artifacts. -/
structure CleanupPlan where
  planId : String
  runId : Option String := none
  candidates : List CleanupCandidate := []
  dryRun : Bool := true
  policyRef : String
  candidates_distinct : (candidates.map (·.artifactId)).Nodup := by decide

/-- The permission to execute one plan. -/
structure CleanupAuthorization where
  (planId planContentHash : String)
  authorized : Bool := false

/-- What became of the candidates. -/
structure CleanupResult where
  planId : String
  executed : Bool
  deletedArtifactIds : List String := []
  retainedArtifactIds : List String := []
  rejectedArtifactIds : List String := []
  detail : String

/-- The tables that a cleanup reads and writes. -/
structure ControlTables where
  runs : Table RunRecord.runId
  artifacts : Table fun a : ArtifactRef => a.artifactId
  dependencies : List ArtifactDependency
  gateEvidence : Table fun g : GateEvidence => (g.gateId, g.runId)

namespace ControlTables

def getRun (t : ControlTables) (runId : String) : Option RunRecord := t.runs.find? runId

def getArtifact (t : ControlTables) (artifactId : String) : Option ArtifactRef :=
  t.artifacts.find? artifactId

/-- `get_dependents`: the join of the artifacts with the dependencies on this one. -/
def getDependents (t : ControlTables) (artifactId : String) : List ArtifactRef :=
  (sortedBy (fun a : ArtifactRef => a.artifactId) t.artifacts.rows).flatMap fun a =>
    (t.dependencies.filter fun d =>
      d.artifactId = a.artifactId && d.upstreamArtifactId = artifactId).map fun _ => a

/-- `list_artifacts(run_id=...)`. -/
def listArtifacts (t : ControlTables) (runId : Option String) : List ArtifactRef :=
  sortedBy (fun a : ArtifactRef => a.artifactId)
    (t.artifacts.rows.filter fun a => runId = none || runId = some a.runId)

/-- `UPDATE artifacts SET publication_state = 'TOMBSTONED' WHERE artifact_id = ? AND
publication_state = 'PUBLISHED'`. -/
def tombstoned (t : ControlTables) (artifactId : String) : ControlTables :=
  { t with
    artifacts := t.artifacts.update
      (fun a => a.artifactId = artifactId && a.publicationState = .published)
      (fun a => { a with publicationState := .tombstoned }) fun _ => rfl }

/-- `mark_artifact_tombstoned`. -/
def markArtifactTombstoned (t : ControlTables) (artifactId : String) :
    Except StoreExc Unit × ControlTables :=
  match t.getArtifact artifactId with
  | some artifact =>
    if artifact.publicationState = .published then (.ok (), t.tombstoned artifactId)
    else (.error (.platform "only a published artifact can be tombstoned"), t)
  | none => (.error (.platform "only a published artifact can be tombstoned"), t)

end ControlTables

/-- `_ACTIVE_RUN_STATES`. -/
def activeRun (run : RunRecord) : Bool :=
  run.status = .created || run.status = .running || run.status = .needsReview

def secondsBetween (earlier later : Instant) : Nat := ((later - earlier).tdiv 1000000).toNat

/-- One turn of the loop of `build_cleanup_plan`. -/
def cleanupCandidate (t : ControlTables) (policy : List RetentionPolicy) (now : Instant)
    (artifact : ArtifactRef) : Option CleanupCandidate :=
  let policies := (policy.filter fun p => p.retentionClass ≠ .persistent).map fun p =>
    (p.retentionClass, p)
  if artifact.publicationState ≠ .published then none
  else if artifact.retentionClass = .persistent ∨ artifact.retentionClass = .pinnedGateEvidence then
    none
  else
    match getItem policies artifact.retentionClass with
    | none => none
    | some retention =>
      match retention.maxAgeSeconds with
      | none => none
      | some maxAge =>
        if retention.pin ∨ secondsBetween artifact.createdAt now < maxAge then none
        else if t.getDependents artifact.artifactId ≠ [] ∨ artifact.storageMode = .external then none
        else some
          { artifactId := artifact.artifactId
            expectedContentHash := artifact.contentHash
            reason := retention.reason
            retentionClass := artifact.retentionClass
            ageSeconds := secondsBetween artifact.createdAt now
            byteSize := artifact.byteSize
            plannedAction := .deleteBlobIfUnreferenced }

theorem cleanupCandidate_artifactId {t : ControlTables} {policy : List RetentionPolicy}
    {now : Instant} {artifact : ArtifactRef} {candidate : CleanupCandidate}
    (h : cleanupCandidate t policy now artifact = some candidate) :
    candidate.artifactId = artifact.artifactId := by
  unfold cleanupCandidate at h
  simp only at h
  split at h
  · cases h
  split at h
  · cases h
  split at h
  · cases h
  split at h
  · cases h
  split at h
  · cases h
  split at h
  · cases h
  · cases h
    rfl

theorem candidates_sublist (t : ControlTables) (policy : List RetentionPolicy) (now : Instant)
    (artifacts : List ArtifactRef) :
    ((artifacts.filterMap (cleanupCandidate t policy now)).map (·.artifactId)).Sublist
      (artifacts.map (·.artifactId)) := by
  induction artifacts with
  | nil => exact List.Sublist.slnil
  | cons artifact rest ih =>
    cases h : cleanupCandidate t policy now artifact with
    | none =>
      rw [filterMap_cons_none h, map_cons]
      exact ih.cons _
    | some candidate =>
      rw [filterMap_cons_some h, map_cons, map_cons, cleanupCandidate_artifactId h]
      exact ih.cons_cons _

/-- `build_cleanup_plan`: a dry run, empty while the run is active. -/
def buildCleanupPlan (t : ControlTables) (runId : Option String) (policy : List RetentionPolicy)
    (now : Instant) : CleanupPlan :=
  let policyRef := (policy.head?.map (·.reason)).getD "platform-default"
  if (runId.bind t.getRun).any activeRun then
    { planId := "cleanup_" ++ runId.getD "" ++ "_active", runId := runId, policyRef := policyRef }
  else
    { planId := "cleanup_" ++ runId.getD "platform" ++ "_" ++ toString (now.tdiv 1000000)
      runId := runId
      candidates := (t.listArtifacts runId).filterMap (cleanupCandidate t policy now)
      policyRef := policyRef
      candidates_distinct := by
        refine List.Nodup.sublist (candidates_sublist t policy now _) ?_
        refine ((sortedBy_perm _ _).map _).nodup_iff.2 ?_
        exact t.artifacts.nodup.sublist (filter_sublist.map _) }

/-! ## Execution -/

/-- The control database, and the directory of each artifact store, by its place. -/
structure Platform where
  control : ControlTables
  directory : Nat → FileState

/-- What `execute_cleanup` does to the outside world, one step at a time. -/
inductive PlatformAct
  /-- A file operation of the artifact store at this place. -/
  | file (place : Nat) (a : FileAct)
  | getArtifact (artifactId : String)
  | getRun (runId : String)
  | getDependents (artifactId : String)
  | markArtifactTombstoned (artifactId : String)

/-- What an action of the lifecycle answers. -/
abbrev PlatformAct.Reply : PlatformAct → Type
  | .file _ a => a.Reply
  | .getArtifact _ => Option ArtifactRef
  | .getRun _ => Option RunRecord
  | .getDependents _ => List ArtifactRef
  | .markArtifactTombstoned _ => Unit

/-- One statement of the control store that goes through. -/
def ControlTables.execute (t : ControlTables) :
    (a : PlatformAct) → Except StoreExc a.Reply × ControlTables
  | .file _ _ => (.error .os, t)
  | .getArtifact artifactId => (.ok (t.getArtifact artifactId), t)
  | .getRun runId => (.ok (t.getRun runId), t)
  | .getDependents artifactId => (.ok (t.getDependents artifactId), t)
  | .markArtifactTombstoned artifactId => t.markArtifactTombstoned artifactId

/-- One statement of the control store; it can raise at the outside world's will. -/
def statement (a : PlatformAct) (ω : Outside) (w : Platform) : Except StoreExc a.Reply × Platform :=
  match ω.fault with
  | some (e, _) => (.error e, w)
  | none => ((w.control.execute a).1, { w with control := (w.control.execute a).2 })

/-- One step. -/
def act : (a : PlatformAct) → Outside → Platform → Except StoreExc a.Reply × Platform
  | .file place a, ω, w =>
    ((perform a ω (w.directory place)).1,
      { w with directory := Function.update w.directory place (perform a ω (w.directory place)).2 })
  | a, ω, w => statement a ω w

/-- A program over the tables and the stores. -/
abbrev Lifecycle (α : Type) := Prog PlatformAct.Reply StoreExc α

/-- A method of the artifact store at a place. -/
def onStore {α : Type} (place : Nat) : Files α → Lifecycle α
  | .done r => .done r
  | .act a k => .act (.file place a) fun r => onStore place (k r)

def control (a : PlatformAct) : Lifecycle a.Reply := Prog.call a

/-- `except (KeyError, PlatformError)`. -/
def StoreExc.isMissing : StoreExc → Bool
  | .key _ => true
  | e => e.isPlatform

/-- The first store whose `stat` is the registered reference, if any. -/
def selectStore (artifact : ArtifactRef) :
    List LocalArtifactStore → Nat → Lifecycle (Option (Nat × LocalArtifactStore))
  | [], _ => pure none
  | store :: rest, place => do
    let stored ← Prog.tryCatch
      (do
        let ref ← onStore place (LocalArtifactStore.stat artifact.artifactId)
        pure (some ref))
      fun e => if e.isMissing then pure none else Prog.raise e
    if stored = some artifact then pure (some (place, store)) else selectStore artifact rest (place + 1)

/-- The checks of `execute_cleanup` on a registered candidate that a store holds. -/
def cleanupAllowed (plan : CleanupPlan) (candidate : CleanupCandidate) (artifact : ArtifactRef)
    (run : Option RunRecord) (dependents : List String) : Bool :=
  !((plan.runId ≠ none && plan.runId ≠ some artifact.runId) ||
    artifact.contentHash ≠ candidate.expectedContentHash ||
    artifact.byteSize ≠ candidate.byteSize ||
    artifact.retentionClass ≠ candidate.retentionClass || candidate.pinned ||
    sorted candidate.dependentArtifactIds ≠ dependents ||
    artifact.retentionClass = .pinnedGateEvidence || run.any activeRun || dependents ≠ [])

/-- What became of one candidate. -/
inductive Verdict
  | deleted | retained | rejected
deriving DecidableEq

section
variable (planHash : CleanupPlan → String)

/-- The permit for one candidate of a plan. -/
def cleanupPermit (plan : CleanupPlan) (candidate : CleanupCandidate) : CleanupDeletionPermit where
  planId := plan.planId
  planContentHash := planHash plan
  runId := plan.runId
  artifactId := candidate.artifactId
  expectedContentHash := candidate.expectedContentHash
  expectedByteSize := candidate.byteSize
  retentionClass := candidate.retentionClass
  plannedAction := candidate.plannedAction
  dependentArtifactIds := candidate.dependentArtifactIds

/-- Delete the bytes, then bury the row; an error makes it a rejection. -/
def removeCandidate (plan : CleanupPlan) (candidate : CleanupCandidate) (artifact : ArtifactRef)
    (place : Nat) (store : LocalArtifactStore) : Lifecycle Verdict :=
  Prog.tryCatch
    (do
      onStore place (store.delete artifact.artifactId (cleanupPermit planHash plan candidate))
      control (.markArtifactTombstoned candidate.artifactId)
      pure .deleted)
    fun e => if e.isPlatform then pure .rejected else Prog.raise e

/-- One turn of the loop of `execute_cleanup`, from the checks on. -/
def cleanupChecked (plan : CleanupPlan) (candidate : CleanupCandidate) (artifact : ArtifactRef)
    (place : Nat) (store : LocalArtifactStore) : Lifecycle Verdict := do
  let integrity ← Prog.tryCatch
    (do
      let result ← onStore place (store.verify artifact.artifactId)
      pure (some result.state))
    fun e => if e.isMissing then pure none else Prog.raise e
  if integrity ≠ some .verified then pure .rejected
  else if artifact.storageMode = .external ∨ candidate.plannedAction = .retainExternalReference then
    pure .retained
  else removeCandidate planHash plan candidate artifact place store

/-- One turn of the loop of `execute_cleanup`. -/
def cleanupOne (stores : List LocalArtifactStore) (plan : CleanupPlan)
    (candidate : CleanupCandidate) : Lifecycle Verdict := do
  match ← control (.getArtifact candidate.artifactId) with
  | none => pure .rejected
  | some artifact => do
    let run ← control (.getRun artifact.runId)
    let dependents ← control (.getDependents candidate.artifactId)
    match ← selectStore artifact stores 0 with
    | none => pure .rejected
    | some (place, store) =>
      if cleanupAllowed plan candidate artifact run (sorted (dependents.map (·.artifactId))) then
        cleanupChecked planHash plan candidate artifact place store
      else pure .rejected

/-- The loop of `execute_cleanup`. -/
def cleanupAll (stores : List LocalArtifactStore) (plan : CleanupPlan) :
    List CleanupCandidate → Lifecycle (List (String × Verdict))
  | [] => pure []
  | candidate :: rest => do
    let verdict ← cleanupOne planHash stores plan candidate
    let verdicts ← cleanupAll stores plan rest
    pure ((candidate.artifactId, verdict) :: verdicts)

def withVerdict (verdicts : List (String × Verdict)) (verdict : Verdict) : List String :=
  (verdicts.filter fun v => v.2 = verdict).map Prod.fst

/-- The permission is for exactly this plan. -/
def CleanupAuthorization.covers (authorization : CleanupAuthorization) (plan : CleanupPlan) : Bool :=
  authorization.authorized && authorization.planId = plan.planId &&
    authorization.planContentHash = planHash plan

/-- `execute_cleanup`: every candidate of an authorized plan, one after the other. -/
def executeCleanup (stores : List LocalArtifactStore) (plan : CleanupPlan)
    (authorization : CleanupAuthorization) : Lifecycle CleanupResult := do
  if plan.dryRun then
    pure
      { planId := plan.planId
        executed := false
        retainedArtifactIds := plan.candidates.map (·.artifactId)
        detail := "dry-run plan did not delete anything" }
  else if authorization.covers planHash plan then do
    let verdicts ← cleanupAll planHash stores plan plan.candidates
    pure
      { planId := plan.planId
        executed := true
        deletedArtifactIds := withVerdict verdicts .deleted
        retainedArtifactIds := withVerdict verdicts .retained
        rejectedArtifactIds := withVerdict verdicts .rejected
        detail := "cleanup execution completed with per-artifact safety checks" }
  else Prog.raise (.authorization "cleanup requires authorization for the exact plan")

end
end DirtyDataOlap.Artifacts
