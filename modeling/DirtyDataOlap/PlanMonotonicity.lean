import DirtyDataOlap.PlannedStages
import DirtyDataOlap.ActionOrder
import DirtyDataOlap.Deployment

/-!
# Advancing a plan never rewrites its past

The stored plan of a run only moves forward: each write is good on its own (`GoodAct`), a candidate
being built on the very content that the compare-and-swap expects.  A stage keeps what comes from
the graph and from the stored intent (`StageSpec.Planned`), but every phase decides
`SCHEMA_MATCHING` anew.  **The past is kept exactly as long as the run's artifacts answer that
question in one way** (`SteadyScope`).
-/
namespace DirtyDataOlap

open List Store ExecutionPlan Option Prod PlanService

/-! ## What a call does -/

section Calls
variable {service : PlanService} {scope : Bool → Prop} {runId : String}

/-- **A good action** on the plan of `runId`: a planned plan is registered, or one is advanced
to a planned plan that follows it. -/
def GoodAct (graph : StageGraph) (scope : Bool → Prop) (runId : String) : PlanAct → Prop
  | .register plan => plan.runId = runId → plan.Planned graph scope
  | .advance plan expected => plan.runId = runId → ∃ current : ExecutionPlan,
      expected = current.contentHash ∧ current.Succeeds plan ∧
        (current.Planned graph scope → plan.Planned graph scope)
  | _ => True

variable (scope runId) in
/-- The replies that a store of planned plans gives, while the artifacts of `runId` answer
within the scope. -/
def LikelyPlanReply : Answered PlanAct.Reply Exc → Prop
  | ⟨.executionPlan k, r⟩ => ∀ p, r = .ok (some p) → p.runId = k
  | ⟨.run k, r⟩ => ∀ run, r = .ok (some run) → run.runId = k
  | ⟨.planningInputs k h, r⟩ => k = runId → ∀ readings outcome, r = .ok readings →
      resolveReadings { requireHypothesis := h } runId readings = .ok outcome →
      AnswersWithin scope outcome
  | _ => True

/-- The rule of the calls: every action is good. -/
def PlanRule (graph : StageGraph) (scope : Bool → Prop) (runId : String) :
    Option (Answered PlanAct.Reply Exc) → PlanAct → Prop :=
  fun _ a => GoodAct graph scope runId a

theorem planRule_permissive : Prog.Permissive (PlanRule service.env.graph scope runId) :=
  fun _ _ h => h

/-- A program all of whose actions are good. -/
abbrev GoodProg {α : Type} (graph : StageGraph) (scope : Bool → Prop) (runId : String)
    (p : PlanProg α) : Prop :=
  ∀ prev, p.Orderly (PlanRule graph scope runId) (LikelyPlanReply scope runId) prev

theorem goodProg_bind {α β : Type} {p : PlanProg α} {f : α → PlanProg β}
    (hp : GoodProg service.env.graph scope runId p)
    (hf : ∀ a, GoodProg service.env.graph scope runId (f a)) :
    GoodProg service.env.graph scope runId (p.bind f) :=
  fun prev => Prog.orderly_bind planRule_permissive (hp prev) fun a => hf a none

theorem goodProg_done {α : Type} {r : Except Exc α} :
    GoodProg service.env.graph scope runId (.done r : PlanProg α) := fun _ => trivial

theorem goodProg_register {plan : ExecutionPlan} {intent : ExecutionPlanIntent}
    (h : plan.runId = runId → plan.Planned service.env.graph scope) :
    GoodProg service.env.graph scope runId (register plan intent) := by
  intro prev
  refine Prog.orderly_tryCatch planRule_permissive ?_ fun e => ?_
  · exact ⟨h, fun r _ => by cases r <;> trivial⟩
  · split
    · refine ⟨trivial, fun r _ => ?_⟩
      cases r with
      | error e => trivial
      | ok existing =>
        dsimp only [Prog.bind]
        split <;> trivial
    · split <;> trivial

theorem selectionWithin_resolution {run : RunRecord} {intent : ExecutionPlanIntent}
    {phase : ExecutionPlanPhase} {outcome : Option ExecutionPlanningContext × List String}
    {resolution : SelectionResolution}
    (h : service.selection run intent phase.stageIds outcome = .ok resolution)
    (ho : AnswersWithin scope outcome) :
    SelectionWithin service.env.graph scope intent phase resolution.selection := by
  intro hsome raw hraw hc
  obtain ⟨selection, hs⟩ := isSome_iff_exists.mp hsome
  rw [hs]
  exact selection_within h hs ho hraw hc

theorem goodProg_resolve {α : Type} {run : RunRecord} {intent : ExecutionPlanIntent}
    {requireHypothesis : Bool} {phase : ExecutionPlanPhase} {f : SelectionResolution → PlanProg α}
    (hf : ∀ resolution, (run.runId = runId →
      SelectionWithin service.env.graph scope intent phase resolution.selection) →
      GoodProg service.env.graph scope runId (f resolution)) :
    GoodProg service.env.graph scope runId
      ((service.resolve run intent requireHypothesis phase.stageIds).bind f) := by
  refine fun prev => ⟨trivial, fun r hr => ?_⟩
  cases r with
  | error e => trivial
  | ok readings =>
    change Prog.Orderly _ _ _ (Prog.bind (.done (do
      let outcome ← resolveReadings { requireHypothesis } run.runId readings
      service.selection run intent phase.stageIds outcome)) f)
    cases hout : resolveReadings { requireHypothesis } run.runId readings with
    | error e => trivial
    | ok outcome =>
      cases hsel : service.selection run intent phase.stageIds outcome with
      | error e => simp only [bind, Except.bind, hsel]; trivial
      | ok resolution =>
        simp only [bind, Except.bind, hsel]
        refine hf resolution (fun hrun => ?_) _
        subst hrun
        exact selectionWithin_resolution hsel (hr rfl readings outcome rfl hout)

/-- **Whatever `prepare` registers is planned.** -/
theorem goodProg_prepare (run : RunRecord) (intent : ExecutionPlanIntent) (createdAt : Instant) :
    GoodProg service.env.graph scope runId (service.prepare run intent createdAt) := by
  have hbuild : ∀ full source : Option ExecutionPlanSelection,
      (run.runId = runId → SelectionWithin service.env.graph scope intent .complete full) →
      (run.runId = runId → SelectionWithin service.env.graph scope intent .sourceResolved source) →
      GoodProg service.env.graph scope runId
        (Prog.bind (.done (preparedPlan service.env run.runId intent full source createdAt))
          fun plan => register plan intent) := by
    intro full source hfull hsource
    cases hplan : preparedPlan service.env run.runId intent full source createdAt with
    | error e => exact fun _ => trivial
    | ok plan =>
      refine goodProg_register fun hrun => ?_
      -- the plan of another run says nothing about `runId`
      have hid : run.runId = runId := (preparedPlan_runId hplan).symm.trans hrun
      exact preparedPlan_planned (hfull hid) (hsource hid) hplan
  refine goodProg_bind (fun _ => ⟨trivial, fun _ _ => trivial⟩) fun existing => ?_
  cases existing with
  | some existing =>
    dsimp only
    split <;> exact goodProg_done
  | none =>
    refine @goodProg_resolve service scope runId _ run intent true .complete _ fun full hfull => ?_
    cases hsel : full.selection with
    | some selection =>
      exact hbuild (some selection) none (fun hrun => hsel ▸ hfull hrun) fun _ hsome => by cases hsome
    | none =>
      dsimp only
      split
      · exact goodProg_done
      refine @goodProg_resolve service scope runId _ run intent false .sourceResolved _
        fun source hsource => ?_
      exact hbuild none source.selection (fun _ hsome => by cases hsome) hsource

theorem goodProg_advance {current candidate : ExecutionPlan}
    (h : candidate.runId = runId → current.Succeeds candidate ∧
      (current.Planned service.env.graph scope → candidate.Planned service.env.graph scope)) :
    GoodProg service.env.graph scope runId (advance current candidate) := by
  unfold advance
  split
  · exact goodProg_done
  refine fun prev => Prog.orderly_tryCatch planRule_permissive ?_ fun e => ?_
  · exact ⟨fun hrun => ⟨current, rfl, h hrun⟩, fun _ _ => trivial⟩
  · split
    · refine ⟨trivial, fun r _ => ?_⟩
      cases r with
      | error e => trivial
      | ok latest => cases latest <;> trivial
    · trivial

/-- A call that has read the plan and the run, and goes on to resolve and to advance. -/
theorem goodProg_resolveAdvance {run : RunRecord} {current : ExecutionPlan}
    {requireHypothesis : Bool}
    {build : Option ExecutionPlanningContext × List String → Except Exc ExecutionPlan}
    (hrun : current.runId = run.runId)
    (hbuild : ∀ scope outcome candidate, AnswersWithin scope outcome →
      build outcome = .ok candidate → current.Succeeds candidate ∧
        (current.Planned service.env.graph scope → candidate.Planned service.env.graph scope)) :
    GoodProg service.env.graph scope runId (do
      let readings ← PlanAct.perform (.planningInputs run.runId requireHypothesis)
      let candidate ← .done (do
        let outcome ← resolveReadings { requireHypothesis } run.runId readings
        build outcome)
      advance current candidate) := by
  refine fun prev => ⟨trivial, fun r hr => ?_⟩
  cases r with
  | error e => trivial
  | ok readings =>
    change Prog.Orderly _ _ _ (Prog.bind (.done (do
      let outcome ← resolveReadings { requireHypothesis } run.runId readings
      build outcome)) fun candidate => advance current candidate)
    cases hout : resolveReadings { requireHypothesis } run.runId readings with
    | error e => trivial
    | ok outcome =>
      cases hcand : build outcome with
      | error e => simp only [bind, Except.bind, hcand]; trivial
      | ok candidate =>
        simp only [bind, Except.bind, hcand]
        refine goodProg_advance (fun hid => ?_) _
        have hsucc := hbuild (fun _ => True) outcome candidate (fun _ _ => trivial) hcand
        have hk : run.runId = runId := by rw [← hrun, ← hsucc.1.runId, hid]
        exact hbuild scope outcome candidate (hr hk readings outcome rfl (hk ▸ hout)) hcand

/-- **Whatever `advance_after_stage` writes follows the plan it has read.** -/
theorem goodProg_advanceAfterStage (k completedStageId : String) :
    GoodProg service.env.graph scope runId (service.advanceAfterStage k completedStageId) := by
  refine fun prev => ⟨trivial, fun r hr => ?_⟩
  cases r with
  | error e => trivial
  | ok current =>
    refine ⟨trivial, fun r' hr' => ?_⟩
    cases r' with
    | error e => trivial
    | ok run =>
      match current, run with
      | none, _ => trivial
      | some _, none => trivial
      | some current, some run =>
        have hrun : current.runId = run.runId := (hr current rfl).trans (hr' run rfl).symm
        simp only [Prog.done_ok_bind]
        split
        · rename_i hphase
          exact goodProg_resolveAdvance hrun
            (fun _ _ _ ho h => sourceCandidate_succeeds hphase.1 hrun ho h) _
        split
        · rename_i hphase
          exact goodProg_resolveAdvance hrun
            (fun _ _ _ ho h => completeCandidate_succeeds hphase.1 hrun ho h) _
        · trivial

theorem goodProg_call (c : PlanCall) : GoodProg service.env.graph scope runId (c.prog service) := by
  cases c with
  | prepare run intent createdAt =>
    exact goodProg_bind (goodProg_prepare run intent createdAt) fun _ => goodProg_done
  | advanceAfterStage k completedStageId =>
    exact goodProg_bind (goodProg_advanceAfterStage k completedStageId) fun _ => goodProg_done

end Calls

/-! ## What becomes of the stored plan -/

/-- **How the stored plan of a run changes over time.** -/
structure ExecutionPlan.AdvancesTo (p q : ExecutionPlan) : Prop where
  planId : q.planId = p.planId
  phase : p.planningPhase.rank ≤ q.planningPhase.rank
  revision : q = p ∨ p.revision < q.revision
  complete : p.planningPhase = .complete → q = p
  intent : p.planningIntent.isSome → q.planningIntent = p.planningIntent

theorem ExecutionPlan.AdvancesTo.refl (p : ExecutionPlan) : p.AdvancesTo p :=
  ⟨rfl, Nat.le_refl _, .inl rfl, fun _ => rfl, fun _ => rfl⟩

theorem ExecutionPlan.AdvancesTo.trans {p q r : ExecutionPlan} (h1 : p.AdvancesTo q)
    (h2 : q.AdvancesTo r) : p.AdvancesTo r where
  planId := h2.planId.trans h1.planId
  phase := Nat.le_trans h1.phase h2.phase
  revision := by
    rcases h1.revision with rfl | hlt
    · exact h2.revision
    rcases h2.revision with rfl | hlt'
    · exact .inr hlt
    · exact .inr (Nat.lt_trans hlt hlt')
  complete hp := by
    obtain rfl := h1.complete hp
    exact h2.complete hp
  intent hsome := by
    have heq := h1.intent hsome
    rw [← heq]
    exact h2.intent (by rw [heq]; exact hsome)

theorem ExecutionPlan.eq_of_contentHash {p q : ExecutionPlan}
    (hash : p.contentHash = q.contentHash) :
    p.planningPhase = q.planningPhase ∧ p.revision = q.revision ∧
      p.planningIntent = q.planningIntent ∧ p.stages = q.stages := by
  injection hash with _ _ _ _ hstages _ _ hphase hintent _ hrev _
  exact ⟨hphase, hrev, hintent, hstages⟩

/-- A candidate follows the stored plan whose content it was built on. -/
theorem ExecutionPlan.Succeeds.advancesTo {current stored candidate : ExecutionPlan}
    (h : current.Succeeds candidate) (hash : stored.contentHash = current.contentHash)
    (hid : stored.planId = candidate.planId) : stored.AdvancesTo candidate := by
  obtain ⟨hphase, hrev, hintent, _⟩ := eq_of_contentHash hash
  exact ⟨hid.symm, by rw [hphase]; exact h.phase, .inr (by rw [hrev]; exact h.revision),
    fun hc => absurd (hphase ▸ hc) h.incomplete, fun hs => by rw [hintent] at hs ⊢; exact h.intent hs⟩

theorem ExecutionPlan.Planned.of_hash {graph : StageGraph} {scope : Bool → Prop}
    {p q : ExecutionPlan} (hash : p.contentHash = q.contentHash) (h : p.Planned graph scope) :
    q.Planned graph scope := by
  obtain ⟨hphase, _, hintent, hstages⟩ := eq_of_contentHash hash
  unfold ExecutionPlan.Planned at h ⊢
  rw [← hphase, ← hstages, ← hintent]
  exact h

section Steps
variable {graph : StageGraph} {scope : Bool → Prop} {runId : String} {a : PlanAct}
variable {ω : Except Exc (List PlanningReading)} {s s' : Store} {r : Except Exc a.Reply}

/-- **One action**: the stored plan stays or advances, and what is stored is planned. -/
theorem planExec_advances (hgood : GoodAct graph scope runId a) (he : planExec a ω s = (r, s')) :
    (∀ p, s.getExecutionPlan runId = some p → ∃ q, s'.getExecutionPlan runId = some q ∧
      p.AdvancesTo q ∧ (p.Planned graph scope → q.Planned graph scope)) ∧
    (s.getExecutionPlan runId = none → ∀ q, s'.getExecutionPlan runId = some q →
      q.Planned graph scope) := by
  have hsame : s' = s → (∀ p, s.getExecutionPlan runId = some p →
      ∃ q, s'.getExecutionPlan runId = some q ∧ p.AdvancesTo q ∧
        (p.Planned graph scope → q.Planned graph scope)) ∧
      (s.getExecutionPlan runId = none → ∀ q, s'.getExecutionPlan runId = some q →
        q.Planned graph scope) := by
    rintro rfl
    exact ⟨fun p hp => ⟨p, hp, .refl p, id⟩, fun hn q hq => by rw [hn] at hq; cases hq⟩
  cases a with
  | executionPlan k => exact hsame (congrArg snd he).symm
  | run k => exact hsame (congrArg snd he).symm
  | planningInputs k h => exact hsame (congrArg snd he).symm
  | register plan =>
    rcases Txn.commit_cases (registerExecutionPlan plan) s with ⟨b, s1, hok, hc⟩ | ⟨e, _, hc⟩
    swap
    · exact hsame (congrArg snd (he.symm.trans hc))
    obtain rfl : s' = s1 := congrArg snd (he.symm.trans hc)
    rcases registerExecutionPlan_ok hok with rfl | ⟨plans, hnone, _, hins, rfl⟩
    · exact hsame rfl
    have hget : ∀ k, getExecutionPlan { s with plans } k =
        (s.getExecutionPlan k).or (if plan.runId = k then some plan else none) := by
      intro k
      unfold getExecutionPlan
      rw [Table.insert?_rows hins, find?_append]
      congr 1
      by_cases hk : plan.runId = k <;> simp [hk]
    constructor
    · intro p hp
      exact ⟨p, by rw [hget, hp]; rfl, .refl p, id⟩
    · intro hn q hq
      rw [hget, hn, none_or] at hq
      split at hq
      · rename_i hk
        cases hq
        exact hgood hk
      · cases hq
  | advance plan expected =>
    rcases Txn.commit_cases (advanceExecutionPlan plan expected) s with
      ⟨b, s1, hok, hc⟩ | ⟨e, _, hc⟩
    swap
    · exact hsame (congrArg snd (he.symm.trans hc))
    obtain rfl : s' = s1 := congrArg snd (he.symm.trans hc)
    obtain ⟨stored, hget, hid, hhash, _, rfl⟩ := advanceExecutionPlan_ok hok
    have hafter := getExecutionPlan_replacePlan hget hid runId
    by_cases hk : runId = plan.runId
    · rw [if_pos hk] at hafter
      rw [hk] at hgood ⊢
      obtain ⟨current, hexp, hsucc, hplanned⟩ := hgood rfl
      have hash : stored.contentHash = current.contentHash := hhash.trans hexp
      constructor
      · intro p hp
        obtain rfl : stored = p := some.inj (hget.symm.trans hp)
        exact ⟨plan, hk ▸ hafter, hsucc.advancesTo hash hid, fun h => hplanned (h.of_hash hash)⟩
      · intro hn
        rw [hn] at hget
        cases hget
    · rw [if_neg hk] at hafter
      rw [hafter]
      exact ⟨fun p hp => ⟨p, hp, .refl p, id⟩, fun hn q hq => by rw [hn] at hq; cases hq⟩

/-- **A writer whose expected content is not the stored one changes nothing.** -/
theorem planExec_stale {plan stored : ExecutionPlan} {expected : PlanData}
    {r : Except Exc (PlanAct.advance plan expected).Reply}
    (hget : s.getExecutionPlan plan.runId = some stored) (hne : stored.contentHash ≠ expected)
    (he : planExec (.advance plan expected) ω s = (r, s')) : s' = s := by
  rcases Txn.commit_cases (advanceExecutionPlan plan expected) s with
    ⟨b, s1, hok, hc⟩ | ⟨e, _, hc⟩
  · obtain ⟨stored', hget', _, hhash, _⟩ := advanceExecutionPlan_ok hok
    rw [hget] at hget'
    cases hget'
    exact absurd hhash hne
  · exact congrArg snd (he.symm.trans hc)

end Steps

/-! ## Whole runs -/

/-- A scan of the artifacts of the run has come to this context. -/
def Resolved (c : Config PlanAct.Reply Exc Store) (runId : String)
    (context : ExecutionPlanningContext) : Prop :=
  ∃ i requireHypothesis readings unresolved,
    c.Did i (.planningInputs runId requireHypothesis) (.ok readings) ∧
      resolveReadings { requireHypothesis } runId readings = .ok (some context, unresolved)

/-- **All contexts that the run's artifacts have been resolved to agree** on whether there are
several sources to be mapped to one another. -/
def SteadyScope (c : Config PlanAct.Reply Exc Store) (runId : String) : Prop :=
  ∀ context context', Resolved c runId context → Resolved c runId context' →
    context.crossSourceMappingRequired = context'.crossSourceMappingRequired

namespace PlanWorld
variable {service : PlanService} {scope : Bool → Prop} {runId : String} {w : PlanWorld}

variable (service scope runId w) in
/-- What every world that calls lead to satisfies. -/
structure Kept : Prop where
  planned : ∀ p, w.config.state.getExecutionPlan runId = some p →
    p.Planned service.env.graph scope
  orderly : Pool.Orderly (fun _ _ ok => ok = PlanRule service.env.graph scope runId)
    (LikelyPlanReply scope runId) w

theorem trace_move (w : PlanWorld) (m : PlanMove) :
    w.config.trace ⊆ (w.move service m).config.trace := by
  cases m with
  | call c => exact List.Subset.refl _
  | step i ω =>
    rcases w.advance_cases planExec i ω with heq | ⟨l, a, k, r, s, _, _, heq⟩
    · change _ ⊆ (w.advance planExec i ω).config.trace
      rw [heq]
      exact List.Subset.refl _
    · change _ ⊆ (w.advance planExec i ω).config.trace
      rw [heq]
      exact subset_cons_self _ _
  | crash i =>
    rcases w.kill_cases i with heq | ⟨t, _, heq⟩
    · change _ ⊆ (w.kill i).config.trace
      rw [heq]
      exact List.Subset.refl _
    · change _ ⊆ (w.kill i).config.trace
      rw [heq]
      exact List.Subset.refl _
  | elsewhere s => exact List.Subset.refl _

theorem trace_run (w : PlanWorld) (ms : List PlanMove) :
    w.config.trace ⊆ (w.run service ms).config.trace := by
  induction ms generalizing w with
  | nil => exact List.Subset.refl _
  | cons m ms ih => exact List.Subset.trans (trace_move w m) (ih _)

theorem Resolved.mono {c c' : Config PlanAct.Reply Exc Store} (h : c.trace ⊆ c'.trace)
    {context : ExecutionPlanningContext} (hr : Resolved c runId context) :
    Resolved c' runId context := by
  obtain ⟨i, rh, readings, unresolved, ⟨s, hmem⟩, hres⟩ := hr
  exact ⟨i, rh, readings, unresolved, ⟨s, h hmem⟩, hres⟩

/-- **One move**: the stored plan stays or advances, and the world stays as it should be. -/
theorem Kept.move (hk : Kept service scope runId w) (m : PlanMove)
    (hscope : ∀ context, Resolved (w.move service m).config runId context →
      scope context.crossSourceMappingRequired) : Kept service scope runId (w.move service m) ∧
      ∀ p, w.config.state.getExecutionPlan runId = some p →
        ∃ q, (w.move service m).config.state.getExecutionPlan runId = some q ∧ p.AdvancesTo q := by
  have hsame : ∀ w' : PlanWorld, w'.config.state.plans = w.config.state.plans →
      w'.config.state.getExecutionPlan runId = w.config.state.getExecutionPlan runId := by
    intro w' h
    unfold getExecutionPlan
    rw [h]
  cases m with
  | call c =>
    refine ⟨⟨hk.planned, ?_⟩, fun p hp => ⟨p, hp, .refl p⟩⟩
    exact hk.orderly.spawn ⟨_, rfl, goodProg_call c _⟩
  | crash i =>
    have hstate : (w.kill i).config = w.config := by
      rcases w.kill_cases i with heq | ⟨t, _, heq⟩ <;> rw [heq]
    refine ⟨⟨fun p hp => hk.planned p ?_, hk.orderly.kill i⟩, fun p hp => ⟨p, ?_, .refl p⟩⟩
    · change (w.kill i).config.state.getExecutionPlan runId = some p at hp
      rwa [hstate] at hp
    · change (w.kill i).config.state.getExecutionPlan runId = some p
      rwa [hstate]
  | elsewhere s =>
    have hget := hsame (w.move service (.elsewhere s)) rfl
    refine ⟨⟨fun p hp => hk.planned p (hget ▸ hp), ?_⟩, fun p hp => ⟨p, hget ▸ hp, .refl p⟩⟩
    exact hk.orderly.outside fun _ _ h => h
  | step i ω =>
    -- the contexts that this very action makes known are within the scope too
    have hlikely : ∀ l a k r s, w.threads[i]? = some ⟨l, some (.act a k)⟩ →
        planExec a ω w.config.state = (r, s) → LikelyPlanReply scope runId ⟨a, r⟩ := by
      intro l a k r s hth he
      match a with
      | .executionPlan k' =>
        rintro p rfl
        exact (getExecutionPlan_spec (Except.ok.inj (congrArg fst he))).2
      | .run k' =>
        rintro run rfl
        exact getRun_runId (Except.ok.inj (congrArg fst he))
      | .planningInputs k' h =>
        rintro rfl readings ⟨context?, unresolved⟩ rfl hres context rfl
        refine hscope context ⟨i, h, readings, unresolved, ⟨s, ?_⟩, hres⟩
        have hadv : w.advance planExec i ω =
            ⟨w.config.log i (.planningInputs k' h) (.ok readings) s,
              w.threads.set i ⟨l, some (k (.ok readings))⟩⟩ := by
          unfold Pool.advance
          rw [hth]
          dsimp only
          rw [he]
        change _ ∈ (w.advance planExec i ω).config.trace
        rw [hadv]
        exact mem_cons_self ..
      | .register _ | .advance _ _ => trivial
    have horderly := hk.orderly.advance hlikely (fun _ _ h => h)
    rcases w.advance_cases planExec i ω with heq | ⟨l, a, k, r, s, hth, he, heq⟩
    · change Kept service scope runId (w.advance planExec i ω) ∧ ∀ p, _ → ∃ q,
        (w.advance planExec i ω).config.state.getExecutionPlan runId = some q ∧ _
      rw [heq]
      exact ⟨hk, fun p hp => ⟨p, hp, .refl p⟩⟩
    obtain ⟨_, rfl, hgood⟩ := hk.orderly.next hth
    obtain ⟨hstep, hnew⟩ := planExec_advances hgood he
    have hstate : (w.advance planExec i ω).config.state = s := by rw [heq]; rfl
    change Kept service scope runId (w.advance planExec i ω) ∧ ∀ p, _ → ∃ q,
      (w.advance planExec i ω).config.state.getExecutionPlan runId = some q ∧ _
    rw [hstate]
    refine ⟨⟨fun q hq => ?_, horderly⟩, fun p hp => ?_⟩
    · rw [hstate] at hq
      cases hp : w.config.state.getExecutionPlan runId with
      | none => exact hnew hp q hq
      | some p =>
        obtain ⟨q', hq', _, hplanned⟩ := hstep p hp
        rw [hq] at hq'
        cases hq'
        exact hplanned (hk.planned p hp)
    · obtain ⟨q, hq, hadv, _⟩ := hstep p hp
      exact ⟨q, hq, hadv⟩

/-- **Any number of moves.** -/
theorem Kept.run (hk : Kept service scope runId w) (ms : List PlanMove)
    (hscope : ∀ context, Resolved (w.run service ms).config runId context →
      scope context.crossSourceMappingRequired) : Kept service scope runId (w.run service ms) ∧
      ∀ p, w.config.state.getExecutionPlan runId = some p →
        ∃ q, (w.run service ms).config.state.getExecutionPlan runId = some q ∧ p.AdvancesTo q := by
  induction ms generalizing w with
  | nil => exact ⟨hk, fun p hp => ⟨p, hp, .refl p⟩⟩
  | cons m ms ih =>
    obtain ⟨hk1, hadv1⟩ := hk.move m fun context hr =>
      hscope context (Resolved.mono (trace_run _ ms) hr)
    obtain ⟨hk2, hadv2⟩ := ih hk1 hscope
    refine ⟨hk2, fun p hp => ?_⟩
    obtain ⟨q, hq, hpq⟩ := hadv1 p hp
    obtain ⟨r, hr, hqr⟩ := hadv2 q hq
    exact ⟨r, hr, hpq.trans hqr⟩

theorem kept_start {s : Store} (h : s.getExecutionPlan runId = none) :
    Kept service scope runId (start s) where
  planned p hp := by
    change s.getExecutionPlan runId = some p at hp
    rw [h] at hp
    cases hp
  orderly i t q ht := by cases ht

end PlanWorld

/-! ## The role of a stage in two versions -/

structure StageSpec.SameRole (s t : StageSpec) : Prop where
  selected : t.selected = s.selected
  dependencies : t.dependencies = s.dependencies
  optionalDependencies : t.optionalDependencies = s.optionalDependencies
  conditionalDependencies : t.conditionalDependencies = s.conditionalDependencies
  handlerKey : t.handlerKey = s.handlerKey
  reviewCheckpoint : t.reviewCheckpoint = s.reviewCheckpoint
  requiredReviewCheckpoint : t.requiredReviewCheckpoint = s.requiredReviewCheckpoint

theorem StageSpec.SameRole.refl (s : StageSpec) : s.SameRole s :=
  ⟨rfl, rfl, rfl, rfl, rfl, rfl, rfl⟩

/-- Two specifications of one entry of the graph have the same role, if the entry is not the
one that only the last phase decides and if schemas are matched in both or in none. -/
theorem StageSpec.Planned.sameRole {many : Bool} {intent : ExecutionPlanIntent} {raw : RawStage}
    {s t : StageSpec} (hs : StageSpec.Planned (· = many) intent raw s)
    (ht : StageSpec.Planned (· = many) intent raw t) (hne : raw.stageId ≠ "ENTITY_RESOLUTION") :
    s.SameRole t where
  selected := by
    cases hc : raw.conditional with
    | false => rw [hs.unconditional hc, ht.unconditional hc]
    | true =>
      by_cases hid : raw.stageId = "SCHEMA_MATCHING"
      · rw [hs.schemaMatching hc hid, ht.schemaMatching hc hid]
      · rw [hs.decided hc hid hne, ht.decided hc hid hne]
  dependencies := ht.dependencies.trans hs.dependencies.symm
  optionalDependencies := ht.optionalDependencies.trans hs.optionalDependencies.symm
  conditionalDependencies := ht.conditionalDependencies.trans hs.conditionalDependencies.symm
  handlerKey := ht.handlerKey.trans hs.handlerKey.symm
  reviewCheckpoint := ht.reviewCheckpoint.trans hs.reviewCheckpoint.symm
  requiredReviewCheckpoint := ht.requiredReviewCheckpoint.trans hs.requiredReviewCheckpoint.symm

section Roles
variable {graph : StageGraph} {scope : Bool → Prop} {intent : ExecutionPlanIntent}
variable {raws : List RawStage} {stages : List StageSpec}

theorem stageIds_eq (h : Forall₂ (StageSpec.Planned scope intent) raws stages) :
    raws.map (·.stageId) = stages.map (·.stageId) := by
  induction h with
  | nil => rfl
  | cons hraw _ ih => rw [map_cons, map_cons, ih, hraw.stageId]

theorem stageId_ne_entityResolution {phase : ExecutionPlanPhase} (hne : phase ≠ .complete)
    {raw : RawStage} (h : raw ∈ graph.restrict phase.stageIds) :
    raw.stageId ≠ "ENTITY_RESOLUTION" := by
  intro heq
  have hin := (mem_filter.mp h).2
  rw [heq] at hin
  cases phase with
  | complete => exact hne rfl
  | bootstrap => exact absurd hin (by decide)
  | sourceResolved => exact absurd hin (by decide)

/-- **The stages that two versions share have the same role in both.** -/
theorem ExecutionPlan.AdvancesTo.sameRole {many : Bool} {p q : ExecutionPlan}
    (h : p.AdvancesTo q) (hp : p.Planned graph (· = many)) (hq : q.Planned graph (· = many))
    {s t : StageSpec} (hs : s ∈ p.stages) (ht : t ∈ q.stages) (hid : s.stageId = t.stageId) :
    s.SameRole t := by
  by_cases hc : p.planningPhase = .complete
  · obtain rfl := h.complete hc
    obtain rfl : s = t := inj_on_of_nodup_map q.stageIds_nodup hs ht hid
    exact .refl s
  obtain ⟨intent, hintent, hstages⟩ := hp
  obtain ⟨intent', hintent', hstages'⟩ := hq
  have hsome : p.planningIntent.isSome := by rw [hintent]; rfl
  obtain rfl : intent' = intent := by
    have heq := h.intent hsome
    rw [hintent, hintent'] at heq
    exact some.inj heq
  obtain ⟨raw, hraw, hplanned⟩ := exists_raw hstages hs
  obtain ⟨raw', hraw', hplanned'⟩ := exists_raw hstages' ht
  have hids : raw'.stageId = raw.stageId := by rw [← hplanned.stageId, ← hplanned'.stageId, hid]
  -- the graph has one entry for the stage, or else the plan would have two
  have hmem' : raw' ∈ graph.restrict p.planningPhase.stageIds := by
    refine mem_filter.mpr ⟨(mem_filter.mp hraw').1, ?_⟩
    rw [hids]
    exact (mem_filter.mp hraw).2
  have hnodup : ((graph.restrict p.planningPhase.stageIds).map (·.stageId)).Nodup := by
    rw [stageIds_eq hstages]
    exact p.stageIds_nodup
  obtain rfl : raw' = raw := inj_on_of_nodup_map hnodup hmem' hraw hids
  exact hplanned.sameRole hplanned' (stageId_ne_entityResolution hc hraw)

end Roles

open PlanWorld in
/-- **Phased plan advancement is monotone**: in any interleaving of calls the stored plan of a
run keeps its identity, never goes back to an earlier phase, and changes only under a higher
revision; a writer that expects another content than the stored one changes nothing.  **It does
not rewrite the past while the source scope is steady**: a stage has one role in all versions
it occurs in. -/
theorem phased_advancement_monotone (service : PlanService) {s : Store} {runId : String}
    (hfresh : s.getExecutionPlan runId = none) (ms more : List PlanMove) :
    (∀ p, ((start s).run service ms).config.state.getExecutionPlan runId = some p →
      ∃ q, ((start s).run service (ms ++ more)).config.state.getExecutionPlan runId = some q ∧
        q.planId = p.planId ∧ p.planningPhase.rank ≤ q.planningPhase.rank ∧
        (q = p ∨ p.revision < q.revision) ∧
        (SteadyScope ((start s).run service (ms ++ more)).config runId →
          ∀ st ∈ p.stages, ∀ st' ∈ q.stages, st.stageId = st'.stageId → st.SameRole st')) ∧
    ∀ i c plan expected k stored ω,
      ((start s).run service ms).threads[i]? = some ⟨c, some (.act (.advance plan expected) k)⟩ →
      ((start s).run service ms).config.state.getExecutionPlan plan.runId = some stored →
      stored.contentHash ≠ expected →
      (((start s).run service ms).move service (.step i ω)).config.state =
        ((start s).run service ms).config.state := by
  have hrun : (start s).run service (ms ++ more) = ((start s).run service ms).run service more :=
    foldl_append
  constructor
  · intro p hp
    obtain ⟨hkept, _⟩ := (@kept_start service (fun _ => True) _ _ hfresh).run ms fun _ _ => trivial
    obtain ⟨_, hadv⟩ := hkept.run more fun _ _ => trivial
    obtain ⟨q, hq, hpq⟩ := hadv p hp
    rw [← hrun] at hq
    refine ⟨q, hq, hpq.planId, hpq.phase, hpq.revision, fun hsteady st hst st' hst' hid => ?_⟩
    obtain ⟨many, hmany⟩ : ∃ many, ∀ context,
        Resolved ((start s).run service (ms ++ more)).config runId context →
          context.crossSourceMappingRequired = many := by
      by_cases hex : ∃ context, Resolved ((start s).run service (ms ++ more)).config runId context
      · obtain ⟨context, hres⟩ := hex
        exact ⟨_, fun context' hres' => hsteady context' context hres' hres⟩
      · exact ⟨false, fun context hres => absurd ⟨context, hres⟩ hex⟩
    rw [hrun] at hmany
    obtain ⟨hkept1, _⟩ := (@kept_start service (· = many) _ _ hfresh).run ms fun context hres =>
      hmany context (Resolved.mono (trace_run _ more) hres)
    obtain ⟨hkept2, _⟩ := hkept1.run more hmany
    exact hpq.sameRole (hkept1.planned p hp) (hkept2.planned q (hrun ▸ hq)) hst hst' hid
  · intro i c plan expected k stored ω hth hget hne
    change (Pool.advance planExec ((start s).run service ms) i ω).config.state = _
    unfold Pool.advance
    rw [hth]
    exact planExec_stale (ω := ω) hget hne rfl

/-! ## Runs that change their mind -/

/-- Digests that say nothing. -/
def plainDigests : SelectionDigests where
  scopeFingerprint run _ _ := "scope-" ++ run.runId
  evidenceRef runId stageId _ _ _ := "evidence-" ++ runId ++ "-" ++ stageId

def planningService : PlanService := ⟨deployment, plainDigests⟩

def storeOfRun : Store := ((createRun sampleRun).commit .empty).2

/-- The registered artifact of a stage. -/
def planningRef (artifactId artifactKind stageId : String) : ArtifactRef where
  artifactId := artifactId
  runId := "run-1"
  stageId := stageId
  attemptId := "attempt-" ++ stageId
  artifactKind := artifactKind
  contentHash := "sha256-" ++ artifactId
  publicationState := .published

/-- The catalog of the source `crm`. -/
def crmCatalog : PlanningReading where
  ref := planningRef "catalog-crm" "SourceCatalog" "SOURCE_DISCOVERY"
  owned := true
  content := .ok (.source "crm")

def snapshotOf (sourceId : String) : PlanningReading where
  ref := planningRef ("snapshot-" ++ sourceId) "SourceSnapshotResult" "SOURCE_SNAPSHOT_STAGE"
  owned := true
  content := .ok (.source sourceId)

def hypothesisAbout (sourceIds : List String) : PlanningReading where
  ref := planningRef "hypothesis" "CanonicalModelHypothesis" "CANONICAL_HYPOTHESES"
  owned := true
  content := .ok (.hypothesis
    { artifactId := "hypothesis", runId := "run-1", sourceIds
      entityResolutionRequirements := [("customer", .erNotRequired)] })

/-- A run is prepared, its discovery finds one source, and its hypothesis is about the sources of
the snapshots. -/
def phasedRun (snapshots : List PlanningReading) (sourceIds : List String) : List PlanMove :=
  let nothing : Except Exc (List PlanningReading) := .ok []
  [.call (.prepare sampleRun {} 0), .step 0 nothing, .step 0 nothing, .step 0 nothing,
    .step 0 nothing,
    .call (.advanceAfterStage "run-1" "SOURCE_DISCOVERY"), .step 1 nothing, .step 1 nothing,
    .step 1 (.ok [crmCatalog]), .step 1 nothing,
    .call (.advanceAfterStage "run-1" "CANONICAL_HYPOTHESES"), .step 2 nothing, .step 2 nothing,
    .step 2 (.ok (crmCatalog :: hypothesisAbout sourceIds :: snapshots))]

def completion : PlanMove := .step 2 (.ok [])

def matchingIn (ms : List PlanMove) : Option (ExecutionPlanPhase × Option Bool) :=
  (((PlanWorld.start storeOfRun).run planningService ms).config.state.getExecutionPlan "run-1").map
    fun p => (p.planningPhase, (p.stage "SCHEMA_MATCHING").map (·.selected))

theorem matchingIn_spec {ms : List PlanMove} {phase : ExecutionPlanPhase} {selected : Bool}
    (h : matchingIn ms = some (phase, some selected)) :
    ∃ p, ((PlanWorld.start storeOfRun).run planningService ms).config.state.getExecutionPlan
        "run-1" = some p ∧ p.planningPhase = phase ∧
      ∃ st ∈ p.stages, st.stageId = "SCHEMA_MATCHING" ∧ st.selected = selected := by
  obtain ⟨p, hp, heq⟩ := map_eq_some_iff.mp h
  obtain ⟨hphase, hst⟩ := mk.inj heq
  obtain ⟨st, hst, hsel⟩ := map_eq_some_iff.mp hst
  exact ⟨p, hp, hphase, st, stage_mem hst, stage_stageId hst, hsel⟩

/-- The entry does not resolve the artifacts to several sources. -/
def resolvesToOneSource : Entry PlanAct.Reply Exc Store → Bool
  | ⟨_, .planningInputs runId requireHypothesis, .ok readings, _⟩ =>
    match resolveReadings { requireHypothesis } runId readings with
    | .ok (some context, _) => !context.crossSourceMappingRequired
    | _ => true
  | _ => true

theorem steadyScope_of_one_source {c : Config PlanAct.Reply Exc Store} {runId : String}
    (h : c.trace.all resolvesToOneSource = true) : SteadyScope c runId := by
  have hone : ∀ context, Resolved c runId context → context.crossSourceMappingRequired = false := by
    rintro context ⟨i, rh, readings, unresolved, ⟨s, hmem⟩, hres⟩
    have hentry := all_eq_true.mp h _ hmem
    simpa only [resolvesToOneSource, hres, Bool.not_eq_true'] using hentry
  intro context context' hc hc'
  rw [hone context hc, hone context' hc']

open PlanWorld in
/-- The plan of a run with one source keeps, in its source phase, the roles of its bootstrap. -/
theorem phased_advancement_monotone_one_source : ∃ p q, ((start storeOfRun).run planningService
        ((phasedRun [] []).take 5)).config.state.getExecutionPlan "run-1" = some p ∧
      ((start storeOfRun).run planningService ((phasedRun [] []).take 5 ++
        ((phasedRun [] []).drop 5).take 5)).config.state.getExecutionPlan "run-1" = some q ∧
      q.planId = p.planId ∧
      ∀ st ∈ p.stages, ∀ st' ∈ q.stages, st.stageId = st'.stageId → st.SameRole st' := by
  obtain ⟨p, hp⟩ := isSome_iff_exists.mp (by decide +kernel :
    (((start storeOfRun).run planningService
      ((phasedRun [] []).take 5)).config.state.getExecutionPlan "run-1").isSome = true)
  obtain ⟨q, hq, hid, _, _, hroles⟩ := (phased_advancement_monotone planningService
    (by decide) ((phasedRun [] []).take 5) (((phasedRun [] []).drop 5).take 5)).1 p hp
  exact ⟨p, q, hp, hq, hid, hroles (steadyScope_of_one_source (by decide +kernel))⟩

open PlanWorld in
/-- **A snapshot of a second source rewrites the past**: the source phase has excluded the
matching of schemas, and the next stored version of the plan selects it. -/
theorem schema_matching_rewritten :
    ¬ ∀ (service : PlanService) (s : Store) (runId : String), s.getExecutionPlan runId = none →
      ∀ ms m p q, ((start s).run service ms).config.state.getExecutionPlan runId = some p →
        ((start s).run service (ms ++ [m])).config.state.getExecutionPlan runId = some q →
        ∀ st ∈ p.stages, ∀ st' ∈ q.stages, st.stageId = st'.stageId → st.SameRole st' := by
  intro h
  obtain ⟨p, hp, _, st, hst, hid, hsel⟩ := matchingIn_spec (by decide +kernel :
    matchingIn (phasedRun [snapshotOf "crm", snapshotOf "erp"] ["crm", "erp"]) =
      some (.sourceResolved, some false))
  obtain ⟨q, hq, _, st', hst', hid', hsel'⟩ := matchingIn_spec (by decide +kernel :
    matchingIn (phasedRun [snapshotOf "crm", snapshotOf "erp"] ["crm", "erp"] ++ [completion]) =
      some (.complete, some true))
  have hrole := h planningService storeOfRun "run-1" (by decide) _ completion p q hp hq st hst st'
    hst' (hid.trans hid'.symm)
  have := hrole.selected
  rw [hsel, hsel'] at this
  cases this

end DirtyDataOlap
