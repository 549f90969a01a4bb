import Mathlib.Combinatorics.SimpleGraph.Connectivity.Connected
import DirtyDataOlap.EntityLinkage
import DirtyDataOlap.Worklist

/-!
# Validation of a membership in any order

The search of `validate_er_membership` begins at any record, and pushes neighbours in any order:
both come out of a set.  **Every order gives one outcome, a return exactly when the authorized edges
connect the records of the membership** (`er_membership_exact`).
-/
namespace DirtyDataOlap.Canonical

open List

section

variable (hypothesis : CanonicalModelHypothesis) (membership : CanonicalIdentityMembership)
  (result : EntityResolutionResult) (family : String)

/-- `validate_er_membership`, with the records that its search has visited. -/
def validateErMembershipWith (visited : List String) : Except CanonicalExc Unit := do
  validateErResultCompatibility hypothesis result family
  require (membership.authorizedEdgeRefs.all fun ref => (getItem (edgesById result) ref).isSome)
    .incompatibleErResult "membership references a missing ER edge"
  let selected := membership.selectedEdges result
  require (selected.all fun edge => allowedBand result edge.modelPredictionBand)
    .incompatibleErResult "membership uses an edge outside the authorized cluster policy"
  let records := membership.sourceRecordRefs
  let endpoints := selected.flatMap EntityMatchEdge.endpoints
  require (endpoints.all (· ∈ records)) .incompatibleErResult
    "authorized edge endpoint is outside the proposed membership"
  require (records.all (· ∈ endpoints)) .unresolvedIdentity
    "every proposed ER member must be present in the selected-edge graph"
  require (sameMembers visited records) .unresolvedIdentity
    "authorized ER edges must form one connected component"
  require (records.all (· ∈ resultPopulation result)) .incompatibleErResult
    "membership contains records absent from the ER evaluated output"

/-- What `validate_er_membership` can end with, the iteration order of its sets being free. -/
def ValidationOutcome (outcome : Except CanonicalExc Unit) : Prop :=
  ∃ start ∈ membership.sourceRecordRefs, ∃ visited,
    Searches (neighbours (membership.selectedEdges result)) start visited ∧
      outcome = validateErMembershipWith hypothesis membership result family visited

theorem Joined.symm {edges : List EntityMatchEdge} {a b : String}
    (h : Joined edges a b) : Joined edges b a := by
  obtain ⟨edge, hedge, hends⟩ := h
  refine ⟨edge, hedge, hends.symm.imp ?_ ?_⟩
  · exact fun h => ⟨h.2, h.1⟩
  · exact fun h => ⟨h.2, h.1⟩

def edgeGraph (records : List String) (edges : List EntityMatchEdge) :
    SimpleGraph {ref // ref ∈ records} where
  Adj a b := a ≠ b ∧ Joined edges a b
  symm := ⟨fun _ _ h => ⟨h.1.symm, h.2.symm⟩⟩
  loopless := ⟨fun _ h => h.1 rfl⟩

structure ExactlyLinked : Prop where
  compatible : ∃ expected, Compatible hypothesis result family expected
  authorized : ∀ ref ∈ membership.authorizedEdgeRefs, ∃ edge,
    getItem (edgesById result) ref = some edge ∧ allowedBand result edge.modelPredictionBand = true
  endpoints : ∀ ref, ref ∈ membership.sourceRecordRefs ↔
    ∃ edge ∈ membership.selectedEdges result, ref ∈ edge.endpoints
  connected : (edgeGraph membership.sourceRecordRefs (membership.selectedEdges result)).Connected
  evaluated : ∀ ref ∈ membership.sourceRecordRefs, ref ∈ resultPopulation result

end

section
variable {records : List String} {edges : List EntityMatchEdge} {a b : String}

variable (hinside : ∀ edge ∈ edges, ∀ ref ∈ edge.endpoints, ref ∈ records)

include hinside in
theorem Joined.inside (h : Joined edges a b) : b ∈ records :=
  neighbours_inside hinside a b (mem_neighbours.2 h)

theorem leads_neighbours : Leads (neighbours edges) = Joined edges := by
  funext a b
  exact propext mem_neighbours

include hinside in
theorem reachable_iff
    (ha : a ∈ records) (hb : b ∈ records) : (edgeGraph records edges).Reachable ⟨a, ha⟩ ⟨b, hb⟩ ↔
      Relation.ReflTransGen (Joined edges) a b := by
  rw [SimpleGraph.reachable_iff_reflTransGen]
  constructor
  · intro h
    exact Relation.ReflTransGen.lift (p := Joined edges) Subtype.val (fun _ _ hxy => hxy.2) _ _ h
  · intro h
    induction h with
    | refl => exact .refl
    | @tail c d hpath hstep ih =>
      have hc : c ∈ records := hstep.symm.inside hinside
      refine .trans (ih hc) ?_
      by_cases hsame : c = d
      · subst hsame
        exact .refl
      · exact .single ⟨fun heq => hsame (congrArg Subtype.val heq), hstep⟩

theorem connected_iff {start : String} (hstart : start ∈ records)
    (hinside : ∀ edge ∈ edges, ∀ ref ∈ edge.endpoints, ref ∈ records) :
    (edgeGraph records edges).Connected ↔
      ∀ ref ∈ records, Relation.ReflTransGen (Joined edges) start ref := by
  rw [SimpleGraph.connected_iff_exists_forall_reachable]
  constructor
  · rintro ⟨⟨center, hcenter⟩, hreach⟩ ref href
    have hback := (hreach ⟨start, hstart⟩).symm
    exact (reachable_iff hinside hstart href).1 (hback.trans (hreach ⟨ref, href⟩))
  · intro h
    refine ⟨⟨start, hstart⟩, ?_⟩
    rintro ⟨ref, href⟩
    exact (reachable_iff hinside hstart href).2 (h ref href)

end

/-! ## Every order gives one outcome -/

section
variable {hypothesis : CanonicalModelHypothesis} {membership : CanonicalIdentityMembership}
  {result : EntityResolutionResult} {family start : String} {visited : List String}

/-- What comes after a check matters only where the check passes. -/
theorem require_bind_congr {b : Bool} {code : CanonicalFailureKind} {detail : String}
    {f g : Unit → Except CanonicalExc Unit} (h : b = true → f () = g ()) :
    (require b code detail >>= f) = (require b code detail >>= g) := by
  cases b with
  | false => rfl
  | true => exact h rfl

theorem mem_visited_iff (hsearch : Searches (neighbours (membership.selectedEdges result)) start visited)
    {ref : String} : ref ∈ visited ↔
      Relation.ReflTransGen (Joined (membership.selectedEdges result)) start ref := by
  rw [hsearch.mem_iff, leads_neighbours]

/-- Whether all records are visited does not depend on the order of the search. -/
theorem visits_all_iff (hstart : start ∈ membership.sourceRecordRefs)
    (hsearch : Searches (neighbours (membership.selectedEdges result)) start visited)
    (hinside : ∀ edge ∈ membership.selectedEdges result, ∀ ref ∈ edge.endpoints,
      ref ∈ membership.sourceRecordRefs) : sameMembers visited membership.sourceRecordRefs = true ↔
      (edgeGraph membership.sourceRecordRefs (membership.selectedEdges result)).Connected := by
  rw [connected_iff hstart hinside]
  simp only [sameMembers, Bool.and_eq_true, all_eq_true, decide_eq_true_eq,
    mem_visited_iff hsearch]
  constructor
  · exact fun h => h.2
  · intro h
    refine ⟨fun ref hpath => ?_, h⟩
    cases hpath with
    | refl => exact hstart
    | tail _ hstep => exact hstep.inside hinside

theorem explore_all_iff (hinside : ∀ edge ∈ membership.selectedEdges result, ∀ ref ∈ edge.endpoints,
      ref ∈ membership.sourceRecordRefs) : (membership.sourceRecordRefs.all fun ref => decide (ref ∈
        explore membership.sourceRecordRefs (neighbours (membership.selectedEdges result)) []
          [membership.sourceRecordRefs.head membership.records_nonempty])) = true ↔
      (edgeGraph membership.sourceRecordRefs (membership.selectedEdges result)).Connected := by
  rw [connected_iff (head_mem membership.records_nonempty) hinside]
  simp only [all_eq_true, decide_eq_true_eq]
  refine forall₂_congr fun ref _ => ?_
  rw [mem_explore_iff (fun a _ => neighbours_inside hinside a) (head_mem _), leads_neighbours]

/-- **The order of the search is not seen in the outcome**, its error included. -/
theorem validateErMembershipWith_eq (hstart : start ∈ membership.sourceRecordRefs)
    (hsearch : Searches (neighbours (membership.selectedEdges result)) start visited) :
    validateErMembershipWith hypothesis membership result family visited =
      validateErMembership hypothesis membership result family := by
  refine bind_congr fun _ => ?_
  refine require_bind_congr fun _ => ?_
  refine require_bind_congr fun _ => ?_
  refine require_bind_congr fun hinside => ?_
  refine require_bind_congr fun _ => ?_
  have hin : ∀ edge ∈ membership.selectedEdges result, ∀ ref ∈ edge.endpoints,
      ref ∈ membership.sourceRecordRefs := by
    intro edge hedge ref href
    have hall := all_eq_true.1 hinside ref (mem_flatMap.2 ⟨edge, hedge, href⟩)
    exact of_decide_eq_true hall
  have hsame := Bool.eq_iff_iff.2 ((visits_all_iff hstart hsearch hin).trans (explore_all_iff hin).symm)
  rw [hsame]

theorem authorized_iff : Authorized hypothesis membership result family ↔
    ExactlyLinked hypothesis membership result family := by
  have hhead := head_mem membership.records_nonempty
  constructor
  · intro h
    refine ⟨h.compatible, fun ref href => ?_, fun ref => ⟨h.covered ref, ?_⟩, ?_, h.evaluated⟩
    · obtain ⟨edge, hedge⟩ := Option.isSome_iff_exists.1 (h.known ref href)
      exact ⟨edge, hedge, h.allowed edge (mem_filterMap.2 ⟨ref, href, hedge⟩)⟩
    · rintro ⟨edge, hedge, hend⟩
      exact h.inside edge hedge ref hend
    · exact (connected_iff hhead h.inside).2 h.connected
  · intro h
    have hinside : ∀ edge ∈ membership.selectedEdges result, ∀ ref ∈ edge.endpoints,
        ref ∈ membership.sourceRecordRefs :=
      fun edge hedge ref href => (h.endpoints ref).2 ⟨edge, hedge, href⟩
    refine ⟨h.compatible, fun ref href => ?_, fun edge hedge => ?_, hinside,
      fun ref => (h.endpoints ref).1, (connected_iff hhead hinside).1 h.connected, h.evaluated⟩
    · obtain ⟨edge, hedge, -⟩ := h.authorized ref href
      rw [hedge]
      rfl
    · obtain ⟨ref, href, hget⟩ := mem_filterMap.1 hedge
      obtain ⟨found, hfound, hband⟩ := h.authorized ref href
      rw [hget] at hfound
      cases hfound
      exact hband

/-- Any edges at all, loops and repeated ones too, connect finitely many records. -/
theorem acc_neighbours (edges : List EntityMatchEdge) (s : SearchState String) :
    Acc (fun t s => Round (neighbours edges) s t) s := by
  have hnext : ∀ a ∈ s.pending ++ edges.flatMap EntityMatchEdge.endpoints,
      ∀ b ∈ neighbours edges a, b ∈ s.pending ++ edges.flatMap EntityMatchEdge.endpoints := by
    intro a _ b hb
    apply mem_append_right
    refine neighbours_inside (fun edge hedge ref href => ?_) a b hb
    exact mem_flatMap.2 ⟨edge, hedge, href⟩
  exact acc_round hnext fun a ha => mem_append_left _ ha

end

/-- **Membership validation is exact**: whatever order the records are visited in, the search ends
with one outcome, a return exactly for a membership that its authorized edges connect. -/
theorem er_membership_exact (hypothesis : CanonicalModelHypothesis)
    (membership : CanonicalIdentityMembership) (result : EntityResolutionResult) (family : String) :
    (∀ edges s, Acc (fun t s => Round (neighbours edges) s t) s) ∧
      (∀ outcome, ValidationOutcome hypothesis membership result family outcome ↔
        outcome = validateErMembership hypothesis membership result family) ∧
      (validateErMembership hypothesis membership result family = .ok () ↔
        ExactlyLinked hypothesis membership result family) := by
  refine ⟨acc_neighbours, fun outcome => ?_, validateErMembership_eq_ok.trans authorized_iff⟩
  constructor
  · rintro ⟨start, hstart, visited, hsearch, rfl⟩
    exact validateErMembershipWith_eq hstart hsearch
  · rintro rfl
    have hhead := head_mem membership.records_nonempty
    obtain ⟨visited, hsearch⟩ := exists_run (acc_neighbours (membership.selectedEdges result)
      ⟨[], [membership.sourceRecordRefs.head membership.records_nonempty]⟩)
    exact ⟨_, hhead, visited, hsearch, (validateErMembershipWith_eq hhead hsearch).symm⟩

end DirtyDataOlap.Canonical
