import DirtyDataOlap.CanonicalContracts
import DirtyDataOlap.Numerals

/-!
# Survivorship

`CanonicalFinalizationService.survivorship`.  **The decision accounts for the candidates, and it is
justified but for three inputs**: under `CONSENSUS` a first candidate without a value is selected,
under `MOST_COMPLETE` nothing is recorded where no candidate is present, and under
`MOST_RECENT_VALID` moments that cannot be compared raise (`survivorship_justified`).
-/
namespace DirtyDataOlap

namespace Canonical

/-- A `datetime`: what its wall clock shows, and for an aware one its `tzinfo`, by identity, with the
offset that the time zone has there.  A zone may have several offsets. -/
structure Timestamp where
  date : Date
  micros : Nat
  zone : Option (Nat × Int)

namespace Timestamp

def wall (t : Timestamp) : Int := DateTime.instant ⟨t.date, t.micros, none⟩

def instant (t : Timestamp) : Int := DateTime.instant ⟨t.date, t.micros, t.zone.map (·.2)⟩

/-- `self > other`.  Under one time zone, or with one offset, the wall clocks are compared; an aware
moment and a naive one cannot be compared. -/
def after? (t u : Timestamp) : Option Bool :=
  if t.zone.map (·.1) = u.zone.map (·.1) ∨ t.zone.map (·.2) = u.zone.map (·.2) then
    some (u.wall < t.wall)
  else if t.zone.isSome ∧ u.zone.isSome then some (u.instant < t.instant)
  else none

end Timestamp


/-! ## The service -/

inductive SurvivorshipPolicy
  | preferredSource | mostRecentValid | mostComplete | consensus | reviewRequired

/-- What `survivorship` raises: its `CanonicalizationError`, the `TypeError` of a comparison, or an
error of contract validation. -/
inductive SurvivorshipExc
  | survivorshipReviewRequired (detail : String)
  | notComparable
  | validation

/-- `re.sub(r"\s+", " ", text)`, with whether a space was just read. -/
def collapseSpaces : Bool → List Char → List Char
  | _, [] => []
  | spaced, c :: cs =>
    if Numeral.isSpace c then
      if spaced then collapseSpaces true cs else ' ' :: collapseSpaces true cs
    else c :: collapseSpaces false cs

/-- The digests of survivorship, and the character tables that values are compared by. -/
structure SurvivorshipService where
  nfkc : String → String
  casefold : String → String
  /-- `stable_id("surv", …)` of the attribute, the policy, the candidates and the selected value. -/
  survivorshipId : (attributeId policyRef : String) → List String → Option String → String
  /-- `stable_id("ccnf", …)` of the attribute, the kind, the values and the selected one. -/
  conflictId : String → CanonicalConflictType → List String → Option String → String

/-- The arguments of `survivorship`; no temporal values are an empty map. -/
structure SurvivorshipInput where
  attributeId : String
  candidates : List CanonicalValueReference
  policy : SurvivorshipPolicy
  policyRef : String
  reviewDecisionRef : Option String := none
  sourcePriority : List String := []
  temporalValues : List (String × Timestamp) := []
  provenanceRefs : List String

/-- `max(…, key=…)` of the candidates with their moments: the first of the latest. -/
def latest : CanonicalValueReference × Timestamp → List (CanonicalValueReference × Timestamp) →
    Except SurvivorshipExc CanonicalValueReference
  | best, [] => .ok best.1
  | best, item :: rest =>
    match item.2.after? best.2 with
    | none => .error .notComparable
    | some true => latest item rest
    | some false => latest best rest

namespace SurvivorshipInput

variable (i : SurvivorshipInput)

def ordered : List CanonicalValueReference :=
  sortedBy (·.valueRef) i.candidates

/-- The candidates with their moments, if each has one. -/
def timed : Option (List (CanonicalValueReference × Timestamp)) :=
  i.ordered.mapM fun item => (getItem i.temporalValues item.valueRef).map fun t => (item, t)

/-- What the contracts of the decision and of its conflict demand of the arguments. -/
def Named : Prop :=
  i.attributeId ≠ "" ∧ i.policyRef ≠ "" ∧ i.provenanceRefs ≠ []

instance : Decidable i.Named :=
  inferInstanceAs (Decidable (_ ∧ _ ∧ _))

end SurvivorshipInput

namespace SurvivorshipService

variable (service : SurvivorshipService)

def normalized (value : String) : String :=
  String.ofList (collapseSpaces false
    (Numeral.strip (service.casefold (service.nfkc value)).toList))

def comparedValues (candidates : List CanonicalValueReference) : List String :=
  (candidates.filterMap (·.safeValue)).map service.normalized

variable (i : SurvivorshipInput) (kind : CanonicalConflictType)

/-- `_conflict`. -/
def conflictOf (rationale : String) (resolutionState : String)
    (selectedValueRef reviewDecisionRef : Option String) : CanonicalConflict where
  conflictId := service.conflictId i.attributeId kind (i.ordered.map (·.valueRef)) selectedValueRef
  conflictType := kind
  subjectEntityTypeId := "entity:unresolved"
  subjectAttributeId := some i.attributeId
  alternativeValueRefs := i.ordered.map (·.valueRef)
  policyRef := i.policyRef
  reviewDecisionRef := reviewDecisionRef
  resolutionState := resolutionState
  selectedValueRef := selectedValueRef
  rationale := rationale
  provenanceRefs := i.provenanceRefs

/-- A conflict without a survivor. -/
def openConflict (rationale : String) : CanonicalConflict :=
  service.conflictOf i kind rationale "REVIEW_REQUIRED" none none

/-- What the policy selects, with the conflict that it records. -/
def select : Except SurvivorshipExc (Option CanonicalValueReference × Option CanonicalConflict) :=
  match i.policy with
  | .preferredSource =>
    match i.sourcePriority.findSome? fun source => i.ordered.find? (·.sourceId = some source) with
    | some item => .ok (some item, none)
    | none => .ok (none, some (service.openConflict i .missingAuthorityConflict
        "no applicable scoped source authority"))
  | .mostRecentValid =>
    match i.timed with
    | some (item :: rest) => (latest item rest).map fun item => (some item, none)
    | _ => .ok (none, some (service.openConflict i .temporalConflict
        "valid comparable temporal evidence is missing"))
  | .mostComplete => .ok (i.ordered.find? (·.nullState = .present), none)
  | .consensus =>
    if (service.comparedValues i.ordered).dedup.length = 1 then .ok (i.ordered.head?, none)
    else .ok (none, some (service.openConflict i .differingSourceValues
      "consensus is not established"))
  | .reviewRequired => .ok (none, some (service.openConflict i .missingAuthorityConflict
      "review-required policy has no accepted survivor"))

/-- The epilogue: where the values differ, a selected one replaces the conflict. -/
def epilogue (selected : Option CanonicalValueReference) (conflict : Option CanonicalConflict) :
    Option CanonicalConflict :=
  match selected with
  | some item =>
    if 1 < (service.comparedValues i.ordered).dedup.length then
      some (service.conflictOf i .differingSourceValues
        "alternatives differ; selected by the explicitly scoped policy" "RESOLVED_BY_POLICY"
        (some item.valueRef) i.reviewDecisionRef)
    else conflict
  | none => conflict

def decisionOf (selected : Option CanonicalValueReference) (conflict : Option CanonicalConflict) :
    CanonicalSurvivorshipDecision where
  survivorshipDecisionId := service.survivorshipId i.attributeId i.policyRef
    (i.ordered.map (·.valueRef)) (selected.map (·.valueRef))
  policyId := i.policyRef
  policyVersion := "1"
  attributeId := i.attributeId
  eligibleValueRefs := i.ordered.map (·.valueRef)
  selectedValueRef := selected.map (·.valueRef)
  losingValueRefs := (i.ordered.map (·.valueRef)).filter fun ref =>
    selected.all fun item => ref ≠ item.valueRef
  reviewDecisionRef := i.reviewDecisionRef
  conflictRefs := (conflict.map (·.conflictId)).toList
  rationale := if selected.isSome then "selected by scoped policy"
    else "no survivor selected; review required"
  provenanceRefs := i.provenanceRefs

def survivorship :
    Except SurvivorshipExc (CanonicalSurvivorshipDecision × Option CanonicalConflict) :=
  if i.candidates = [] then .error (.survivorshipReviewRequired "no eligible values")
  else do
    let (selected, conflict) ← service.select i
    let conflict := service.epilogue i selected conflict
    if i.Named then pure (service.decisionOf i selected conflict, conflict)
    else .error .validation

end SurvivorshipService

end Canonical

end DirtyDataOlap
