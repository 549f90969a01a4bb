import DirtyDataOlap.PlanningAuthority
import DirtyDataOlap.WorkerSystem

/-!
# Preparing and advancing a plan

`ExecutionPlanService`: `prepare` registers the plan of a run in the furthest phase that its
artifacts allow, and `advance_after_stage` replaces it by that of the next phase.  Both read,
resolve and only then write: a plan is registered only where there is none, and advanced only by
whoever still has the stored content in hand.

What a call reads of the artifacts is arbitrary (`PlanAct.planningInputs`); the stage graph is
fixed.  In a `PlanWorld` any number of calls interleave and crash, and everything but the plans may
change under them.
-/
namespace DirtyDataOlap

structure PlanService where
  env : Env
  digests : SelectionDigests

namespace PlanService
variable (service : PlanService)

/-- `_selection`: which stages a run needs. -/
def selection (run : RunRecord) (intent : ExecutionPlanIntent) (stageIds : Option (List String))
    (outcome : Option ExecutionPlanningContext × List String) : Except Exc SelectionResolution :=
  resolveSelection service.digests service.env.graph run intent stageIds outcome

/-- The candidate once `SOURCE_DISCOVERY` is complete. -/
def sourceCandidate (run : RunRecord) (current : ExecutionPlan)
    (outcome : Option ExecutionPlanningContext × List String) : Except Exc ExecutionPlan := do
  let intent := current.planningIntent.getD {}
  let resolution ← service.selection run intent (some sourcePhaseStageIds) outcome
  match resolution.selection with
  | none => stillPending current ["SCHEMA_MATCHING", "ENTITY_RESOLUTION"]
  | some selection =>
    nextPhase service.env.graph current run.runId intent selection .sourceResolved
      ["ENTITY_RESOLUTION"] false

/-- The candidate once `CANONICAL_HYPOTHESES` is complete. -/
def completeCandidate (run : RunRecord) (current : ExecutionPlan)
    (outcome : Option ExecutionPlanningContext × List String) : Except Exc ExecutionPlan := do
  let intent := current.planningIntent.getD {}
  let resolution ← service.selection run intent none outcome
  match resolution.selection with
  | none => stillPending current ["ENTITY_RESOLUTION"]
  | some selection =>
    nextPhase service.env.graph current run.runId intent selection .complete [] true

/-- The plan that a call of `advance_after_stage` that runs alone arrives at, from one state
of the stores. -/
def advancedPlan (s : Store) (files : PlanningArtifacts) (run : RunRecord)
    (current : ExecutionPlan) (completedStageId : String) : Except Exc ExecutionPlan :=
  if current.planningPhase = .bootstrap ∧ completedStageId = "SOURCE_DISCOVERY" then do
    let outcome ← s.resolvePlanning files { requireHypothesis := false } run
    service.sourceCandidate run current outcome
  else if current.planningPhase = .sourceResolved ∧ completedStageId = "CANONICAL_HYPOTHESES" then do
    let outcome ← s.resolvePlanning files { requireHypothesis := true } run
    service.completeCandidate run current outcome
  else .ok current

end PlanService

/-- The calls of the planning service to the stores. -/
inductive PlanAct
  | executionPlan (runId : String)
  | run (runId : String)
  /-- What the scan of the artifacts of a run reads, with or without its hypotheses. -/
  | planningInputs (runId : String) (requireHypothesis : Bool)
  | register (plan : ExecutionPlan)
  | advance (plan : ExecutionPlan) (expectedContentHash : PlanData)

/-- What an action of the planner answers. -/
abbrev PlanAct.Reply : PlanAct → Type
  | executionPlan _ => Option ExecutionPlan
  | run _ => Option RunRecord
  | planningInputs _ _ => List PlanningReading
  | register _ => ExecutionPlan
  | advance _ _ => ExecutionPlan

/-- **Perform an action**; `ω` is what the artifacts are read as. -/
def planExec (a : PlanAct) (ω : Except Exc (List PlanningReading)) (s : Store) :
    Except Exc a.Reply × Store :=
  match a with
  | .executionPlan runId => (.ok (s.getExecutionPlan runId), s)
  | .run runId => (.ok (s.getRun runId), s)
  | .planningInputs _ _ => (ω, s)
  | .register plan => (Store.registerExecutionPlan plan).commit s
  | .advance plan expected => (Store.advanceExecutionPlan plan expected).commit s

abbrev PlanProg := Prog PlanAct.Reply Exc

/-- Make a call. -/
def PlanAct.perform (a : PlanAct) : PlanProg a.Reply := .call a

/-! ## `prepare` -/

inductive PlanPreparationStatus
  | ready | blocked

/-- What a `content_hash` in a preparation is the hash of. -/
inductive SelectionFingerprint
  | selection (s : ExecutionPlanSelection)
  | intent (i : ExecutionPlanIntent)

/-- Truthful result of the application-owned plan preparation boundary. -/
structure ExecutionPlanPreparation where
  runId : String
  status : PlanPreparationStatus
  planId : Option String := none
  selectionFingerprint : SelectionFingerprint
  unresolvedStageIds : List String := []
  planningPhase : ExecutionPlanPhase := .complete
  detail : String

namespace PlanService

def preparation (plan : ExecutionPlan) (intent : ExecutionPlanIntent) :
    ExecutionPlanPreparation where
  runId := plan.runId
  status := .ready
  planId := some plan.planId
  selectionFingerprint := plan.selection.elim (.intent intent) .selection
  planningPhase := plan.planningPhase
  detail := "durable execution plan is ready; conditional truth may advance from runtime artifacts"

def blocked (runId : String) (intent : ExecutionPlanIntent) (unresolved : List String)
    (detail : String) : ExecutionPlanPreparation where
  runId := runId
  status := .blocked
  selectionFingerprint := .intent intent
  unresolvedStageIds := if unresolved.isEmpty then ["PLAN_PERSISTENCE"] else unresolved
  detail := if detail = "" then "execution plan preparation is blocked" else detail

/-- A plan is registered; a conflict is answered with what is stored. -/
def register (plan : ExecutionPlan) (intent : ExecutionPlanIntent) :
    PlanProg ExecutionPlanPreparation :=
  Prog.tryCatch
    (do
      let registered ← PlanAct.perform (.register plan)
      pure (preparation registered intent))
    fun
      | .artifactConflict _ => do
        let existing ← PlanAct.perform (.executionPlan plan.runId)
        match existing.filter (·.contentHash = plan.contentHash) with
        | some registered => pure (preparation registered intent)
        | none => pure (blocked plan.runId intent ["EXISTING_PLAN"]
            "run already has a different immutable execution plan")
      | e =>
        if e.isPlatform then
          pure (blocked plan.runId intent ["PLAN_PERSISTENCE"]
            "execution plan could not be durably registered")
        else .raise e

variable (service : PlanService)

/-- `_resolve`: what is known of the run's inputs. -/
def resolve (run : RunRecord) (intent : ExecutionPlanIntent) (requireHypothesis : Bool)
    (stageIds : Option (List String)) : PlanProg SelectionResolution := do
  let readings ← PlanAct.perform (.planningInputs run.runId requireHypothesis)
  .done (do
    let outcome ← resolveReadings { requireHypothesis } run.runId readings
    service.selection run intent stageIds outcome)

/-- **`prepare`**: `createdAt` is the creation time of the plan it builds, if it does. -/
def prepare (run : RunRecord) (intent : ExecutionPlanIntent) (createdAt : Instant) :
    PlanProg ExecutionPlanPreparation := do
  let existing ← PlanAct.perform (.executionPlan run.runId)
  match existing with
  | some existing =>
    if existing.planningIntent.any (· ≠ intent) then
      pure (blocked run.runId intent ["EXISTING_PLAN"]
        "run already has a durable plan bound to a different pre-execution intent")
    else pure (preparation existing intent)
  | none =>
    let full ← service.resolve run intent true none
    match full.selection with
    | some selection =>
      let plan ← .done (preparedPlan service.env run.runId intent (some selection) none createdAt)
      register plan intent
    | none =>
      if full.unresolvedStageIds.contains "PLAN_GRAPH" then
        pure (blocked run.runId intent full.unresolvedStageIds full.detail)
      else
        let source ← service.resolve run intent false (some sourcePhaseStageIds)
        let plan ← .done
          (preparedPlan service.env run.runId intent none source.selection createdAt)
        register plan intent

/-- A candidate replaces the current plan; after a conflict the stored one is taken. -/
def advance (current candidate : ExecutionPlan) : PlanProg ExecutionPlan :=
  if current.contentHash = candidate.contentHash then pure current
  else
    Prog.tryCatch (PlanAct.perform (.advance candidate current.contentHash))
      fun
        | .concurrencyConflict detail => do
          let latest ← PlanAct.perform (.executionPlan current.runId)
          match latest with
          | some latest => pure latest
          | none => .raise (.concurrencyConflict detail)
        | e => .raise e

/-- **`advance_after_stage`**: advance only at the owner stage that produced the required
truth. -/
def advanceAfterStage (runId completedStageId : String) : PlanProg ExecutionPlan := do
  let current ← PlanAct.perform (.executionPlan runId)
  let run ← PlanAct.perform (.run runId)
  match current, run with
  | some current, some run =>
    if current.planningPhase = .bootstrap ∧ completedStageId = "SOURCE_DISCOVERY" then do
      let readings ← PlanAct.perform (.planningInputs run.runId false)
      let candidate ← .done (do
        let outcome ← resolveReadings { requireHypothesis := false } run.runId readings
        service.sourceCandidate run current outcome)
      advance current candidate
    else if current.planningPhase = .sourceResolved ∧
        completedStageId = "CANONICAL_HYPOTHESES" then do
      let readings ← PlanAct.perform (.planningInputs run.runId true)
      let candidate ← .done (do
        let outcome ← resolveReadings { requireHypothesis := true } run.runId readings
        service.completeCandidate run current outcome)
      advance current candidate
    else pure current
  | _, _ => .raise (.platform "phased plan advancement requires a durable run plan")

end PlanService

/-- The two entry points of the plan service. -/
inductive PlanCall
  | prepare (run : RunRecord) (intent : ExecutionPlanIntent) (createdAt : Instant)
  | advanceAfterStage (runId completedStageId : String)

/-- What a call returns. -/
inductive PlanAnswer
  | prepared (preparation : ExecutionPlanPreparation)
  | advanced (plan : ExecutionPlan)

def PlanCall.prog (service : PlanService) : PlanCall → PlanProg PlanAnswer
  | prepare run intent createdAt => do
    let preparation ← service.prepare run intent createdAt
    pure (.prepared preparation)
  | advanceAfterStage runId completedStageId => do
    let plan ← service.advanceAfterStage runId completedStageId
    pure (.advanced plan)

/-- The calls in progress over one store. -/
abbrev PlanWorld := Pool PlanAct.Reply Exc Store PlanCall PlanAnswer

/-- One thing that happens. -/
inductive PlanMove
  | call (c : PlanCall)
  | step (i : Nat) (ω : Except Exc (List PlanningReading))
  | crash (i : Nat)
  /-- Somebody changes anything but the plans. -/
  | elsewhere (s : Store)

namespace PlanWorld

/-- A store before any call. -/
def start (s : Store) : PlanWorld := ⟨⟨s, []⟩, []⟩

def move (service : PlanService) (w : PlanWorld) : PlanMove → PlanWorld
  | .call c => w.spawn c (c.prog service)
  | .step i ω => w.advance planExec i ω
  | .crash i => w.kill i
  | .elsewhere s => { w with config := { w.config with state := { s with plans := w.config.state.plans } } }

/-- What a list of moves leads to. -/
def run (service : PlanService) (w : PlanWorld) (ms : List PlanMove) : PlanWorld :=
  ms.foldl (move service) w

end PlanWorld
end DirtyDataOlap
