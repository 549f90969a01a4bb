import DirtyDataOlap.JobWorker
import DirtyDataOlap.CrashRuns

/-!
# The checks of a worker

The methods of a worker that only look: they read the control store and ask the artifact store, but
neither write nor invoke a handler.  What a resumption finds out about a job is a reason that the
store accepts, or that the job may be resumed.
-/
namespace DirtyDataOlap
open Worker Prog

def Act.Looks : Act → Prop
  | .read _ | .observe _ => True
  | _ => False

/-- The action only looks, and not at a handler. -/
def Act.Checks (a : Act) : Prop := a.Looks ∧ a.execution = none

abbrev OnlyChecks {α : Type} (p : Worker α) : Prop := p.Only Act.Checks fun _ => True

theorem only_read (q : Query) : OnlyChecks (read q) := only_call ⟨trivial, rfl⟩

theorem only_observe {o : Observation} (h : (Act.observe o).execution = none) :
    OnlyChecks (observe o) := only_call ⟨trivial, h⟩

variable {runId : String} {plan : ExecutionPlan} {cfg : WorkerConfig}

theorem only_hardSucceeded (ds : List String) : OnlyChecks (hardSucceeded runId ds) := by
  induction ds with
  | nil => exact trivial
  | cons d ds ih =>
    refine (only_read _).bind fun dependency _ => ?_
    cases dependency with
    | none => exact trivial
    | some dependency =>
      dsimp only
      split
      · exact ih
      · exact trivial

theorem only_conditionalSucceeded (ds : List String) :
    OnlyChecks (conditionalSucceeded plan ds) := by
  induction ds with
  | nil => exact trivial
  | cons d ds ih =>
    refine (only_read _).bind fun dependency _ => ?_
    split
    · exact trivial
    · exact ih

theorem only_dependenciesSucceeded (stageId : String) :
    OnlyChecks (dependenciesSucceeded plan stageId) := by
  unfold dependenciesSucceeded
  split
  · exact trivial
  · refine (only_hardSucceeded _).bind fun hard _ => ?_
    split
    · exact only_conditionalSucceeded _
    · exact trivial

theorem only_reportAgrees (evidence : GateEvidence) (artifact : ArtifactRef) :
    OnlyChecks (reportAgrees evidence artifact) := by
  refine (only_observe rfl).bind fun stored _ => only_ite (fun _ => ?_) fun _ => trivial
  refine (only_observe rfl).bind fun integrity _ => only_ite (fun _ => ?_) fun _ => trivial
  exact (only_observe rfl).bind fun report _ => trivial

theorem only_validG6Evidence : OnlyChecks (validG6Evidence runId) := by
  refine (only_read _).bind fun evidence _ => ?_
  cases evidence with
  | none => exact trivial
  | some evidence =>
    refine only_ite (fun _ => (only_read _).bind fun artifact _ => ?_) fun _ => trivial
    cases artifact with
    | none => exact trivial
    | some artifact =>
      refine only_ite (fun _ => ?_) fun _ => trivial
      exact (only_reportAgrees _ _).tryCatch fun e =>
        only_ite (fun _ => trivial) fun _ => trivial

theorem only_artifactsOf (ids : List String) : OnlyChecks (artifactsOf ids) := by
  induction ids with
  | nil => exact trivial
  | cons id rest ih => exact (only_read _).bind fun _ _ => ih.bind fun _ _ => trivial

theorem only_upstreamArtifacts (ds : List String) : OnlyChecks (upstreamArtifacts runId ds) := by
  induction ds with
  | nil => exact trivial
  | cons d rest ih =>
    refine (only_read _).bind fun dependency _ => ?_
    cases dependency with
    | none => exact ih
    | some dependency =>
      refine only_ite (fun _ => ?_) fun _ => ih
      exact (only_artifactsOf _).bind fun _ _ => ih.bind fun _ _ => trivial

theorem only_reviewsAccepted (contexts : List ReviewCompatibilityContext) :
    OnlyChecks (reviewsAccepted runId contexts) := by
  induction contexts with
  | nil => exact trivial
  | cons context rest ih =>
    refine (only_read _).bind fun current _ => ?_
    cases current with
    | none => exact trivial
    | some current => exact only_ite (fun _ => ih) fun _ => trivial

theorem only_verifyOutputs (job : JobRecord) (attempt : StageAttemptRecord) (ids : List String) :
    OnlyChecks (verifyOutputs job attempt ids) := by
  induction ids with
  | nil => exact trivial
  | cons id rest ih =>
    refine (only_read _).bind fun artifact _ => ?_
    cases artifact with
    | none => exact trivial
    | some artifact =>
      refine only_ite (fun _ => only_ite (fun _ => ?_) fun _ => trivial) fun _ => trivial
      refine (only_observe rfl).bind fun _ _ => (only_observe rfl).bind fun _ _ => ?_
      exact only_ite (fun _ => ih) fun _ => trivial

/-- A detail that the store accepts. -/
def SafeDetail (detail : String) : Prop :=
  (detail.length ≤ 512 && !detail.toList.contains '\n' && !detail.toList.contains '\r') = true

instance (detail : String) : Decidable (SafeDetail detail) := inferInstanceAs (Decidable (_ = true))

/-- The reason, if there is one, can be stored. -/
def SafeReason (reason : Option String) : Prop := ∀ text, reason = some text → SafeDetail text

theorem safeReason_some {text : String} (h : SafeDetail text) : SafeReason (some text) := by
  rintro _ ⟨⟩
  exact h

theorem only_reviewBlocker (contexts : List ReviewCompatibilityContext) :
    (reviewBlocker runId contexts).Only Act.Checks SafeReason := by
  induction contexts with
  | nil => exact nofun
  | cons context rest ih =>
    refine (only_read _).bind fun authoritative _ => ?_
    cases authoritative with
    | none => exact safeReason_some (by decide +kernel)
    | some authoritative =>
      refine (only_read _).bind fun subject _ => ?_
      cases subject with
      | none => exact safeReason_some (by decide +kernel)
      | some subject =>
        have hchanged : SafeDetail "review subject artifact changed or is unavailable" := by
          decide +kernel
        have hrequired : SafeDetail "compatible accepted review is required before resume" := by
          decide +kernel
        refine only_ite (fun _ => ?_) fun _ => safeReason_some hchanged
        refine Prog.Only.bind (Q := fun _ => True) (Prog.Only.tryCatch ?_ fun e => ?_)
          fun intact _ => ?_
        · exact (only_observe rfl).bind fun _ _ => (only_observe rfl).bind fun _ _ => trivial
        · exact only_ite (fun _ => trivial) fun _ => trivial
        refine only_ite (fun _ => ?_) fun _ => safeReason_some hchanged
        refine (only_read _).bind fun current _ => ?_
        cases current with
        | none => exact safeReason_some hrequired
        | some current =>
          refine only_ite (fun _ => ?_) fun _ => safeReason_some hrequired
          generalize current.decision.compatibilityErrors authoritative = errors
          exact only_ite (fun _ => ih) fun _ => safeReason_some (by decide +kernel)

/-- The listed job may be resumed. -/
def Resumable (candidate : JobRecord) : Prop :=
  candidate.jobKind = .stage ∧ (candidate.status = .needsReview ∨ candidate.status = .blocked ∨
    (candidate.status = .failed ∧ candidate.failureClassification ≠ some .unknownSideEffect))

/-- **What a check finds**: a reason that can be stored, or a job that may be resumed. -/
theorem only_resumeBlocker (candidate : JobRecord) :
    (resumeBlocker cfg runId plan candidate).Only Act.Checks fun o =>
      (∀ reason, o = some reason → SafeReason reason) ∧ (o = none → Resumable candidate) := by
  have hreturn : ∀ reason, SafeReason reason → (pure (some reason) :
      Worker (Option (Option String))).Only Act.Checks fun o =>
        (∀ reason, o = some reason → SafeReason reason) ∧ (o = none → Resumable candidate) := by
    refine fun reason h => ⟨?_, nofun⟩
    rintro _ ⟨⟩
    exact h
  have hunavailable : SafeDetail "blocked prerequisite or stage capability remains unavailable" := by
    decide +kernel
  refine only_ite (fun hkind => ?_) fun _ => hreturn _ nofun
  cases hst : candidate.status with
  | needsReview =>
    refine only_ite (fun _ => hreturn _ (safeReason_some (by decide +kernel))) fun _ => ?_
    refine (only_reviewBlocker _).bind fun blocker hsafe => ?_
    cases blocker with
    | none => exact ⟨nofun, fun _ => ⟨hkind, .inl hst⟩⟩
    | some text => exact hreturn _ hsafe
  | blocked =>
    cases plan.stage (candidate.stageId.getD "") with
    | none => exact hreturn _ (safeReason_some hunavailable)
    | some stage =>
      refine only_ite (fun _ => ?_) fun _ => hreturn _ (safeReason_some hunavailable)
      refine (only_dependenciesSucceeded _).bind fun ready _ => ?_
      exact only_ite (fun _ => ⟨nofun, fun _ => ⟨hkind, .inr (.inl hst)⟩⟩) fun _ =>
        hreturn _ (safeReason_some (by decide +kernel))
  | failed =>
    exact only_ite (fun _ => hreturn _ (safeReason_some (by decide +kernel))) fun hclass =>
      ⟨nofun, fun _ => ⟨hkind, .inr (.inr ⟨hst, hclass⟩)⟩⟩
  | _ => exact hreturn _ nofun

end DirtyDataOlap
