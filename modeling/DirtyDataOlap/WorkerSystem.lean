import DirtyDataOlap.JobWorker
import DirtyDataOlap.RelyGuarantee

/-!
# The worker system

A `World` is a pool of worker iterations over one control store; a `Move` is what happens next: a
worker claims a job and its iteration joins the pool (`runOnce`), an iteration performs its next
action or never acts again (`step`, `crash`), or a client or a running handler writes to the store
(`client`).  Reachable worlds are those of some schedule from the empty store.

Three writers of the store are not moves of this system: source binding, retention and the schema
migration.  Clients record gate evidence without the migration's marker, as the product does
(`ClientOp.recordGateEvidence` asks for that), so that no row of evidence is ever replaced.
-/
namespace DirtyDataOlap

open List Store

/-- A store, what was done to it, and the iterations at work, each under the lease
it was given. -/
abbrev World := Pool Act.Reply Exc Store Lease WorkerOutcome

/-- The store and what was done to it. -/
abbrev Scene := Config Act.Reply Exc Store

/-- The phase and content of the plan that `ExecutionPlanService.prepare` registers
for a run that has none: as far as the resolved selections reach. -/
def preparedPlan (env : Env) (runId : String) (intent : ExecutionPlanIntent)
    (full source : Option ExecutionPlanSelection) (createdAt : Instant) :
    Except Exc ExecutionPlan :=
  let build (selection : Option ExecutionPlanSelection) (phase : ExecutionPlanPhase)
      (pending : List String) (guarded : Bool) :=
    loadAuthoritativeExecutionPlan env.graph runId (env.stableId (.executionPlan runId)) selection
      phase.stageIds phase (some intent) pending 0 guarded createdAt
  match full, source with
  | some selection, _ => build (some selection) .complete [] true
  | none, some selection => build (some selection) .sourceResolved ["ENTITY_RESOLUTION"] false
  | none, none => build none .bootstrap ["SCHEMA_MATCHING", "ENTITY_RESOLUTION"] false

/-- What clients and stage handlers do to the control store. -/
inductive ClientOp
  /-- A run is created, in status `CREATED`. -/
  | createRun (run : RunRecord)
  /-- `ExecutionPlanService.prepare`. -/
  | prepare (runId : String) (intent : ExecutionPlanIntent)
      (full source : Option ExecutionPlanSelection) (createdAt : Instant)
  /-- A complete plan is registered as it is. -/
  | registerPlan (plan : ExecutionPlan)
  | submitCommand (command : ExecutionCommand)
  | registerArtifact (artifact : ArtifactRef)
  /-- Evidence without the marker of the schema migration: `record_gate_evidence` takes the marker from
  anyone and later replaces such a row in place, but the product's recorder never passes it. -/
  | recordGateEvidence (evidence : GateEvidence)
      (unmarked : evidence.provenanceRefs.contains legacyMarker = false := by decide)
  | recordReview (record : ReviewRecord) (expectedRevision : Nat)
  /-- A stage handler adds snapshot references to its run. -/
  | bindSnapshots (runId : String) (refs : List String)

/-- What an operation does to the store; nothing if it is refused. -/
def ClientOp.apply (env : Env) (s : Store) : ClientOp → Store
  | createRun run =>
    if run.status = .created then ((Store.createRun run).commit s).2 else s
  | prepare runId intent full source createdAt =>
    match preparedPlan env runId intent full source createdAt with
    | .ok plan => ((registerExecutionPlan plan).commit s).2
    | .error _ => s
  | registerPlan plan =>
    if plan.planningPhase = .complete ∧ plan.revision = 0 then
      ((registerExecutionPlan plan).commit s).2
    else s
  | submitCommand command =>
    ((enqueueExecutionCommand env.stableId command command.runId).commit s).2
  | registerArtifact artifact => ((Store.registerArtifact artifact).commit s).2
  | recordGateEvidence evidence _ => ((Store.recordGateEvidence evidence).commit s).2
  | recordReview record expectedRevision =>
    ((Store.recordReview record expectedRevision).commit s).2
  | bindSnapshots runId refs =>
    match s.getRun runId with
    | some run =>
      ((updateRun { run with sourceSnapshotRefs := run.sourceSnapshotRefs ++ refs }
        run.revision).commit s).2
    | none => s

/-- One thing that happens. -/
inductive Move
  | runOnce (cfg : WorkerConfig) (now : Instant)
  | step (i : Nat) (ω : Input)
  | crash (i : Nat)
  | client (op : ClientOp)

/-- The claim that starts an iteration. -/
def claimAct (cfg : WorkerConfig) (now : Instant) : Act :=
  .claim cfg.workerId now cfg.leaseSeconds cfg.maxActivePerRun cfg.maxActivePerSource

namespace World

/-- Nothing has happened yet. -/
def initial : World := ⟨⟨.empty, []⟩, []⟩

/-- `run_once`: claim a job; its iteration joins, unless there was none to claim. -/
def runOnce (env : Env) (w : World) (cfg : WorkerConfig) (now : Instant) : World :=
  match Txn.commit (claimNextJob cfg.workerId now cfg.leaseSeconds cfg.maxActivePerRun
      cfg.maxActivePerSource) w.config.state with
  | (.ok (some job), s) =>
    Pool.spawn { w with config := w.config.log w.threads.length (claimAct cfg now) (.ok (some job)) s }
      (leaseOf cfg job) (runClaimed env cfg job now)
  | _ => w

def move (env : Env) (w : World) : Move → World
  | .runOnce cfg now => w.runOnce env cfg now
  | .step i ω => w.advance (exec env) i ω
  | .crash i => w.kill i
  | .client op => { w with config := { w.config with state := op.apply env w.config.state } }

/-- A schedule. -/
def run (env : Env) (w : World) (moves : List Move) : World := moves.foldl (move env) w

/-- The worlds of some schedule from the empty store. -/
def Reachable (env : Env) (w : World) : Prop := ∃ moves, w = run env initial moves

section
variable (env : Env) (w : World)
include env w

@[simp] theorem run_nil : run env w [] = w := rfl

@[simp] theorem run_cons (m : Move) (ms : List Move) :
    run env w (m :: ms) = run env (w.move env m) ms := rfl

theorem run_append (ms ms' : List Move) :
    run env w (ms ++ ms') = run env (run env w ms) ms' := foldl_append ..

theorem move_trace_suffix (m : Move) : w.config.trace <:+ (w.move env m).config.trace := by
  cases m with
  | runOnce cfg now =>
    change _ <:+ (w.runOnce env cfg now).config.trace
    unfold runOnce
    split
    · exact suffix_cons ..
    · exact suffix_rfl
  | step i ω =>
    change _ <:+ (w.advance (exec env) i ω).config.trace
    rcases w.advance_cases (exec env) i ω with heq | ⟨_, _, _, _, _, _, _, heq⟩
    · exact heq.symm ▸ suffix_refl _
    · rw [heq]
      exact suffix_cons ..
  | crash i =>
    change _ <:+ (w.kill i).config.trace
    rcases w.kill_cases i with heq | ⟨_, _, heq⟩
    · exact heq.symm ▸ suffix_refl _
    · exact heq.symm ▸ suffix_refl _
  | client op => exact suffix_rfl

theorem run_trace_suffix (ms : List Move) : w.config.trace <:+ (run env w ms).config.trace := by
  induction ms generalizing w with
  | nil => exact suffix_rfl
  | cons m ms ih => exact (move_trace_suffix env w m).trans (ih _)

end

/-- **Induction over schedules**: what holds initially and is kept by every move
that satisfies `ok` holds after every schedule of such moves. -/
theorem run_induction {env : Env} {P : World → Prop} {ok : World → Move → Prop}
    (hstep : ∀ w m, P w → ok w m → P (w.move env m)) (w : World) (h : P w) :
    ∀ ms : List Move, (∀ ms1 m ms2, ms = ms1 ++ m :: ms2 → ok (run env w ms1) m) →
      P (run env w ms) := by
  intro ms
  induction ms generalizing w with
  | nil => exact fun _ => h
  | cons m ms ih =>
    intro hok
    refine ih (w.move env m) (hstep w m h (hok [] m ms rfl)) ?_
    intro ms1 m' ms2 he
    exact hok (m :: ms1) m' ms2 (by rw [he]; rfl)

/-- Every move of the schedule passes the check in the world it is made in. -/
def checks (env : Env) (check : World → Move → Bool) : World → List Move → Bool
  | _, [] => true
  | w, m :: ms => check w m && checks env check (w.move env m) ms

theorem checks_spec {env : Env} {check : World → Move → Bool} {w : World} {ms : List Move}
    (h : checks env check w ms = true) :
    ∀ ms1 m ms2, ms = ms1 ++ m :: ms2 → check (run env w ms1) m = true := by
  intro ms1
  induction ms1 generalizing w ms with
  | nil =>
    rintro m ms2 rfl
    exact (Bool.and_eq_true_iff.mp h).1
  | cons m1 ms1 ih =>
    rintro m ms2 rfl
    exact ih (Bool.and_eq_true_iff.mp h).2 m ms2 rfl

end World
end DirtyDataOlap
