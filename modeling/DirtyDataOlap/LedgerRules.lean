import DirtyDataOlap.ValidationService

/-!
# What a validation has put into its ledger

The ledger of a run in closed form.  **A run emits a list of entries and a list of replacements**
(`Emits`); every check is the check of an entry, overwritten by the replacement with its id, and
every discrepancy comes from an entry or from a replacement that fails.
-/
namespace DirtyDataOlap.Validation

open List Analytical

@[simp] theorem statusOf_eq_fail {errors : List String} : statusOf errors = .fail ↔ errors ≠ [] := by
  by_cases h : errors = [] <;> simp [statusOf, h]

@[simp] theorem errorIf_eq_nil {condition : Prop} [Decidable condition] {error : String} :
    errorIf condition error = [] ↔ ¬ condition := by
  by_cases h : condition <;> simp [errorIf, h]

@[simp] theorem requireValid_eq_ok {condition : Prop} [Decidable condition] {message : String}
    {u : Unit} : requireValid condition message = .ok u ↔ condition := by
  by_cases h : condition <;> simp [requireValid, h]

variable {statuses : List ValidationStatus}

theorem gateStatus_eq_pass :
    gateStatus statuses = .pass ↔ ∀ s ∈ statuses, s ≠ .fail ∧ s.isPending = false := by
  unfold gateStatus
  by_cases hf : statuses.any (· = .fail)
  · obtain ⟨s, hs, he⟩ := any_eq_true.1 hf
    rw [if_pos hf]
    refine ⟨fun h => by simp at h, fun h => absurd (by simpa using he) (h s hs).1⟩
  · rw [if_neg hf]
    have hf' : ∀ s ∈ statuses, s ≠ .fail := fun s hs he => hf (by simpa [he] using hs)
    by_cases hp : statuses.any ValidationStatus.isPending
    · obtain ⟨s, hs, he⟩ := any_eq_true.1 hp
      rw [if_pos hp]
      refine ⟨fun h => by simp at h, fun h => ?_⟩
      rw [(h s hs).2] at he
      cases he
    · rw [if_neg hp]
      have hp' : ∀ s ∈ statuses, s.isPending = false := by simpa using hp
      exact ⟨fun _ s hs => ⟨hf' s hs, hp' s hs⟩, fun _ => rfl⟩

theorem overallStatus_append_self (statuses : List ValidationStatus) :
    overallStatus (statuses ++ [overallStatus statuses]) = overallStatus statuses := by
  unfold overallStatus
  by_cases hf : statuses.any (· = .fail)
  · simp [hf]
  · by_cases hp : statuses.any ValidationStatus.isPending <;>
      simp [hf, hp, ValidationStatus.isPending]

theorem overallStatus_eq_fail : overallStatus statuses = .fail ↔ .fail ∈ statuses := by
  unfold overallStatus
  by_cases hf : statuses.any (· = .fail)
  · rw [if_pos hf]
    simpa using hf
  · rw [if_neg hf]
    have hn : ValidationStatus.fail ∉ statuses := by simpa using hf
    by_cases hp : statuses.any ValidationStatus.isPending <;> simp [hp, hn]

/-- An entry that the gate depends on. -/
def CheckEntry.Blocking (entry : CheckEntry) : Prop :=
  entry.required = true ∧ entry.severity = .g6Blocking

namespace ValidationService

variable {service : ValidationService}

theorem addChecks_checks (ledger : Ledger) (entries : List CheckEntry) :
    (service.addChecks ledger entries).checks = ledger.checks ++ entries.map service.entryCheck := by
  induction entries generalizing ledger with
  | nil => simp [addChecks]
  | cons entry entries ih =>
    rw [addChecks, foldl_cons, ← addChecks, ih]
    simp [addCheck]

theorem addChecks_discrepancies (ledger : Ledger) (entries : List CheckEntry) :
    (service.addChecks ledger entries).discrepancies =
      ledger.discrepancies ++ entries.flatMap service.entryDiscrepancies := by
  induction entries generalizing ledger with
  | nil => simp [addChecks]
  | cons entry entries ih =>
    rw [addChecks, foldl_cons, ← addChecks, ih]
    simp [addCheck]

/-! ## Replacing checks -/

/-- A check with the replacement for it, if there is one. -/
def replacedBy (service : ValidationService) (replacements : List Replacement)
    (check : ValidationCheck) : ValidationCheck :=
  match replacements.find? fun r => r.checkId = check.checkId with
  | some replacement => service.replaced check replacement
  | none => check

variable {replacements : List Replacement} {replacement : Replacement} {ledger : Ledger}
  {entry : CheckEntry}

theorem replaceFirst_eq {checks : List ValidationCheck}
    (hn : (checks.map ValidationCheck.checkId).Nodup) :
    service.replaceFirst replacement checks = checks.map (service.replacedBy [replacement]) := by
  induction checks with
  | nil => rfl
  | cons check checks ih =>
    rw [map_cons, nodup_cons] at hn
    rw [replaceFirst, map_cons]
    by_cases hid : check.checkId = replacement.checkId
    · have hrest : checks.map (service.replacedBy [replacement]) = checks := by
        refine (map_congr_left fun other hother => ?_).trans (map_id _)
        have hne : ¬ replacement.checkId = other.checkId := fun h =>
          hn.1 (mem_map.2 ⟨other, hother, by rw [← h, hid]⟩)
        simp [replacedBy, hne]
      rw [if_pos hid, hrest]
      simp [replacedBy, hid]
    · have hne : ¬ replacement.checkId = check.checkId := fun h => hid h.symm
      rw [if_neg hid, ih hn.2]
      simp [replacedBy, hne]

variable (hn : (ledger.checks.map ValidationCheck.checkId).Nodup)

include hn in
theorem replaceCheck_checks :
    (service.replaceCheck ledger replacement).checks =
      ledger.checks.map (service.replacedBy [replacement]) := by
  unfold replaceCheck
  cases hfind : ledger.checks.find? fun check => check.checkId = replacement.checkId with
  | some old => exact replaceFirst_eq hn
  | none =>
    refine ((map_congr_left fun check hcheck => ?_).trans (map_id _)).symm
    have hne : ¬ replacement.checkId = check.checkId := fun h => by
      have := find?_eq_none.1 hfind check hcheck
      simp [h] at this
    simp [replacedBy, hne]

@[simp] theorem replaced_checkId (check : ValidationCheck) (replacement : Replacement) :
    (service.replaced check replacement).checkId = check.checkId := rfl

@[simp] theorem replacedBy_checkId (replacements : List Replacement) (check : ValidationCheck) :
    (service.replacedBy replacements check).checkId = check.checkId := by
  unfold replacedBy
  split <;> rfl

theorem map_checkId_replacedBy (replacements : List Replacement) (checks : List ValidationCheck) :
    (checks.map (service.replacedBy replacements)).map ValidationCheck.checkId =
      checks.map ValidationCheck.checkId := by
  rw [map_map]
  exact map_congr_left fun _ _ => replacedBy_checkId _ _

theorem replacedBy_cons (hn : replacement.checkId ∉ replacements.map Replacement.checkId)
    (check : ValidationCheck) :
    service.replacedBy replacements (service.replacedBy [replacement] check) =
      service.replacedBy (replacement :: replacements) check := by
  by_cases hid : replacement.checkId = check.checkId
  · have hnone : (replacements.find? fun r => r.checkId = check.checkId) = none := by
      rw [find?_eq_none]
      intro r hr he
      exact hn (mem_map.2 ⟨r, hr, by simpa [hid] using he⟩)
    simp [replacedBy, hid, hnone]
  · simp [replacedBy, hid]

include hn in
/-- Replacements with different ids overwrite each check at most once. -/
theorem replaceChecks_checks (hr : (replacements.map Replacement.checkId).Nodup) :
    (service.replaceChecks ledger replacements).checks =
      ledger.checks.map (service.replacedBy replacements) := by
  induction replacements generalizing ledger with
  | nil =>
    rw [replaceChecks, foldl_nil]
    exact (map_id _).symm
  | cons replacement replacements ih =>
    rw [map_cons, nodup_cons] at hr
    have hids : ((service.replaceCheck ledger replacement).checks.map ValidationCheck.checkId) =
        ledger.checks.map ValidationCheck.checkId := by
      rw [replaceCheck_checks hn, map_checkId_replacedBy]
    rw [replaceChecks, foldl_cons, ← replaceChecks, ih (hids ▸ hn) hr.2,
      replaceCheck_checks hn, map_map]
    exact map_congr_left fun check _ => replacedBy_cons hr.1 check

/-! ## The entries of a run -/

/-- The entries of the two passes over the target. -/
def targetParts (py : Interpreter) (inputs : ValidationInputs)
    (target : Except String TargetSnapshot) : Except Raised (List CheckEntry × List Replacement) :=
  match target with
  | .error error => .ok (unavailableEntries error, [])
  | .ok target => do
    let entries ← singleFactEntries inputs target py
    let replacements ← multiFactReplacements inputs target py
    return (entries, replacements)

theorem targetLedger_eq_ok {inputs : ValidationInputs} {target : Except String TargetSnapshot}
    {result : Ledger} : service.targetLedger inputs target ledger = .ok result ↔
      ∃ entries replacements, targetParts service.py inputs target = .ok (entries, replacements) ∧
        service.replaceChecks (service.addChecks ledger entries) replacements = result := by
  cases target with
  | error error =>
    simp only [targetLedger, targetParts, Except.ok.injEq, Prod.mk.injEq]
    constructor
    · intro h
      exact ⟨_, _, ⟨rfl, rfl⟩, h⟩
    · rintro ⟨_, _, ⟨rfl, rfl⟩, h⟩
      exact h
  | ok target =>
    simp only [targetLedger, targetParts, bind_eq_ok, pure, Except.pure, Except.ok.injEq,
      Prod.mk.injEq]
    constructor
    · rintro ⟨entries, he, replacements, hr, h⟩
      exact ⟨entries, replacements, ⟨entries, he, replacements, hr, rfl, rfl⟩, h⟩
    · rintro ⟨_, _, ⟨entries, he, replacements, hr, rfl, rfl⟩, h⟩
      exact ⟨entries, he, replacements, hr, h⟩

/-- The entries after the target. -/
def closingEntries (inputs : ValidationInputs) : List CheckEntry :=
  [semanticCrossCheck inputs, monetaryReconciliation inputs.policy]

/-- A run that computes these entries, before and after the replacements, and these replacements. -/
structure Emits (py : Interpreter) (inputs : ValidationInputs)
    (target : Except String TargetSnapshot) (artifacts entries : List CheckEntry)
    (replacements : List Replacement) : Prop where
  artifacts_eq : artifactEntries inputs py = .ok artifacts
  target_eq : targetParts py inputs target = .ok (entries, replacements)

variable (service replacements entry) in
/-- An entry as the report shows it in the end. -/
def finalCheck : ValidationCheck := service.replacedBy replacements (service.entryCheck entry)

section

variable (replacements : List Replacement) (entry : CheckEntry)

/-- The status of an entry in the end. -/
def finalStatus : ValidationStatus :=
  match replacements.find? fun r => r.checkId = entry.checkId with
  | some replacement => replacement.status
  | none => entry.status

@[simp] theorem finalCheck_checkId :
    (service.finalCheck replacements entry).checkId = entry.checkId :=
  replacedBy_checkId _ _

@[simp] theorem finalCheck_status :
    (service.finalCheck replacements entry).status = finalStatus replacements entry := by
  unfold finalCheck replacedBy finalStatus
  change (match replacements.find? (fun r : Replacement => r.checkId = entry.checkId) with
    | some replacement => service.replaced (service.entryCheck entry) replacement
    | none => service.entryCheck entry).status = _
  split <;> rfl

@[simp] theorem finalCheck_required :
    (service.finalCheck replacements entry).required = entry.required := by
  unfold finalCheck replacedBy
  split <;> rfl

@[simp] theorem finalCheck_severity :
    (service.finalCheck replacements entry).severity = entry.severity := by
  unfold finalCheck replacedBy
  split <;> rfl

end

theorem finalStatus_of_mem (hn : (replacements.map Replacement.checkId).Nodup)
    (hr : replacement ∈ replacements) (hid : entry.checkId = replacement.checkId) :
    finalStatus replacements entry = replacement.status := by
  have hfind : (replacements.find? fun r => r.checkId = entry.checkId) = some replacement := by
    have hsome : (replacements.find? fun r => r.checkId = entry.checkId).isSome := by
      rw [find?_isSome]
      exact ⟨replacement, hr, by simp [hid]⟩
    obtain ⟨other, hother⟩ := Option.isSome_iff_exists.1 hsome
    have hmem := mem_of_find?_eq_some hother
    have hsame : other.checkId = replacement.checkId := by
      have := find?_some hother
      simpa [hid] using this
    rw [hother, inj_on_of_nodup_map hn hmem hr hsame]
  rw [finalStatus, hfind]

theorem find?_eq_none_of_notMem (h : entry.checkId ∉ replacements.map Replacement.checkId) :
    (replacements.find? fun r => r.checkId = entry.checkId) = none := by
  rw [find?_eq_none]
  intro r hr he
  exact h (mem_map.2 ⟨r, hr, by simpa using he⟩)

theorem finalCheck_of_notMem {replacements : List Replacement} {entry : CheckEntry}
    (h : entry.checkId ∉ replacements.map Replacement.checkId) :
    service.finalCheck replacements entry = service.entryCheck entry := by
  have hnone : (replacements.find? fun r => r.checkId = (service.entryCheck entry).checkId) = none :=
    find?_eq_none_of_notMem h
  rw [finalCheck, replacedBy, hnone]

/-! ## The ids of the entries -/

def artifactIds : List String :=
  ["artifact_binding", "source_snapshot_universe", "source_record_accounting",
    "canonical_membership", "canonical_entity_counts", "dedup_explainability",
    "canonical_event_relationships", "canonical_to_analytical_accounting",
    "analytical_input_binding", "relationship_allocation"]

def targetIds : List String :=
  ["target_table_set", "fact_count", "fact_grain", "fact_duplicates", "fact_business_values",
    "foreign_key_integrity", "key_uniqueness", "date_coverage", "quantity_global",
    "quantity_slices", "lineage_source_to_target", "lineage_target_to_source"]

def replacedIds : List String :=
  ["fact_count", "fact_grain", "fact_duplicates", "fact_business_values", "foreign_key_integrity",
    "date_coverage", "quantity_global", "quantity_slices"]

@[simp] theorem compareAccounting_checkId (inputs : ValidationInputs) (py : Interpreter)
    (checkId : String) (boundary : AccountingBoundary) (refs : List String) (scope : ValidationScope)
    (stage : String) :
    (compareAccounting inputs py checkId boundary refs scope stage).checkId = checkId := by
  simp only [compareAccounting]
  split <;> rfl

theorem compareAccounting_blocking (inputs : ValidationInputs) (py : Interpreter)
    (checkId : String) (boundary : AccountingBoundary) (refs : List String) (scope : ValidationScope)
    (stage : String) :
    CheckEntry.Blocking (compareAccounting inputs py checkId boundary refs scope stage) := by
  simp only [compareAccounting]
  split <;> exact ⟨rfl, rfl⟩

theorem artifactEntries_spec {inputs : ValidationInputs} {py : Interpreter}
    {artifacts : List CheckEntry} (h : artifactEntries inputs py = .ok artifacts) :
    artifacts.map CheckEntry.checkId = artifactIds ∧ ∀ e ∈ artifacts, e.Blocking := by
  obtain ⟨types, -, h⟩ := bind_eq_ok.1 h
  cases h
  refine ⟨by simp [artifactIds, artifactBinding, sourceSnapshotUniverse, canonicalMembership,
    canonicalEntityCounts, dedupExplainability, canonicalEventRelationships,
    analyticalInputBindingEntry, relationshipAllocation], ?_⟩
  simp only [forall_mem_cons, not_mem_nil, false_imp_iff, implies_true, and_true]
  exact ⟨⟨rfl, rfl⟩, ⟨rfl, rfl⟩, compareAccounting_blocking .., ⟨rfl, rfl⟩, ⟨rfl, rfl⟩, ⟨rfl, rfl⟩,
    ⟨rfl, rfl⟩, compareAccounting_blocking .., ⟨rfl, rfl⟩, ⟨rfl, rfl⟩⟩

theorem unavailableEntries_spec (error : String) :
    (unavailableEntries error).map CheckEntry.checkId = targetIds ∧
      ∀ e ∈ unavailableEntries error, e.Blocking := by
  refine ⟨rfl, ?_⟩
  simp only [unavailableEntries, forall_mem_cons, not_mem_nil, false_imp_iff,
    implies_true, and_true]
  exact ⟨⟨rfl, rfl⟩, ⟨rfl, rfl⟩, ⟨rfl, rfl⟩, ⟨rfl, rfl⟩, ⟨rfl, rfl⟩, ⟨rfl, rfl⟩, ⟨rfl, rfl⟩,
    ⟨rfl, rfl⟩, ⟨rfl, rfl⟩, ⟨rfl, rfl⟩, ⟨rfl, rfl⟩, ⟨rfl, rfl⟩⟩

def Tagged (checkId : String) (entry : CheckEntry) : Prop :=
  entry.checkId = checkId ∧ entry.Blocking

section Entries

variable {inputs : ValidationInputs} {target : TargetSnapshot} {py : Interpreter} {fact : FactSpec}
  {table : TargetTableSnapshot} {entry : CheckEntry}

theorem provisionalCount_tagged (h : provisionalCount inputs py table = .ok entry) :
    Tagged "fact_count" entry := by
  obtain ⟨same, -, h⟩ := bind_eq_ok.1 h
  cases h
  exact ⟨rfl, rfl, rfl⟩

theorem provisionalGrain_tagged (h : provisionalGrain inputs fact table = .ok entry) :
    Tagged "fact_grain" entry := by
  simp only [provisionalGrain, bind_eq_ok] at h
  obtain ⟨_, -, _, -, missing, -, extra, -, expected, -, observed, -, h⟩ := h
  cases h
  exact ⟨rfl, rfl, rfl⟩

theorem provisionalValues_tagged (h : provisionalValues inputs target py fact table = .ok entry) :
    Tagged "fact_business_values" entry := by
  simp only [provisionalValues, bind_eq_ok] at h
  obtain ⟨_, -, errors, -, h⟩ := h
  cases h
  exact ⟨rfl, rfl, rfl⟩

theorem provisionalForeignKeys_tagged
    (h : provisionalForeignKeys inputs target py fact table = .ok entry) :
    Tagged "foreign_key_integrity" entry := by
  simp only [provisionalForeignKeys, bind_eq_ok] at h
  obtain ⟨orphans, -, h⟩ := h
  cases h
  exact ⟨rfl, rfl, rfl⟩

theorem keyUniqueness_tagged (h : keyUniqueness inputs target = .ok entry) :
    Tagged "key_uniqueness" entry := by
  simp only [keyUniqueness, bind_eq_ok] at h
  obtain ⟨errors, -, h⟩ := h
  cases h
  exact ⟨rfl, rfl, rfl⟩

variable {entries : List CheckEntry}

theorem provisionalQuantities_tagged
    (h : provisionalQuantities inputs target py fact table = .ok entries) :
    Forall₂ Tagged ["quantity_global", "quantity_slices"] entries := by
  simp only [provisionalQuantities, bind_eq_ok] at h
  obtain ⟨aggregates, -, outcomes, -, h⟩ := h
  cases h
  exact .cons ⟨rfl, rfl, rfl⟩ (.cons ⟨rfl, rfl, rfl⟩ .nil)

theorem factEntries_tagged (h : factEntries inputs target py fact table = .ok entries) :
    Forall₂ Tagged targetIds.tail entries := by
  simp only [factEntries, bind_eq_ok] at h
  obtain ⟨count, hcount, grain, hgrain, values, hvalues, foreignKeys, hkeys, uniqueness, hunique,
    quantities, hquantities, h⟩ := h
  cases h
  have hlineage : Forall₂ Tagged ["lineage_source_to_target", "lineage_target_to_source"]
      (lineageEntries inputs target py) := .cons ⟨rfl, rfl, rfl⟩ (.cons ⟨rfl, rfl, rfl⟩ .nil)
  exact .cons (provisionalCount_tagged hcount) (.cons (provisionalGrain_tagged hgrain)
    (.cons ⟨rfl, rfl, rfl⟩ (.cons (provisionalValues_tagged hvalues)
    (.cons (provisionalForeignKeys_tagged hkeys) (.cons (keyUniqueness_tagged hunique)
    (.cons ⟨rfl, rfl, rfl⟩
      (rel_append (provisionalQuantities_tagged hquantities) hlineage)))))))

variable (inputs target) in
def firstPassIds : List String :=
  if (firstFact inputs target).isSome then targetIds else ["target_table_set", "fact_count"]

theorem singleFactEntries_tagged (h : singleFactEntries inputs target py = .ok entries) :
    Forall₂ Tagged (firstPassIds inputs target) entries := by
  unfold singleFactEntries at h
  unfold firstPassIds
  cases hfirst : firstFact inputs target with
  | none =>
    rw [hfirst] at h
    cases h
    exact .cons ⟨rfl, rfl, rfl⟩ (.cons ⟨rfl, rfl, rfl⟩ .nil)
  | some first =>
    obtain ⟨fact, table⟩ := first
    rw [hfirst] at h
    obtain ⟨rest, hrest, h⟩ := bind_eq_ok.1 h
    cases h
    exact .cons ⟨rfl, rfl, rfl⟩ (factEntries_tagged hrest)

theorem map_checkId_of_tagged {ids : List String} (h : Forall₂ Tagged ids entries) :
    entries.map CheckEntry.checkId = ids := by
  induction h with
  | nil => rfl
  | cons htag _ ih => rw [map_cons, htag.1, ih]

theorem blocking_of_tagged {ids : List String} (h : Forall₂ Tagged ids entries)
    {e : CheckEntry} (he : e ∈ entries) : e.Blocking := by
  obtain ⟨id, -, htag⟩ := exists_left_of_forall₂ h he
  exact htag.2

end Entries

theorem multiFactReplacements_ids {inputs : ValidationInputs} {target : TargetSnapshot}
    {py : Interpreter} {replacements : List Replacement}
    (h : multiFactReplacements inputs target py = .ok replacements) :
    replacements.map Replacement.checkId = replacedIds := by
  simp only [multiFactReplacements, bind_eq_ok] at h
  obtain ⟨_, -, errors, -, scopes, -, failures, -, h⟩ := h
  cases h
  rfl

/-! ## The ledger before the gate -/

def targetPartIds (inputs : ValidationInputs) : Except String TargetSnapshot → List String
  | .error _ => targetIds
  | .ok target => firstPassIds inputs target

theorem nodup_firstPassIds (inputs : ValidationInputs) (target : TargetSnapshot) :
    (artifactIds ++ firstPassIds inputs target ++
      ["semantic_downstream_cross_check", "monetary_reconciliation"]).Nodup := by
  unfold firstPassIds
  split <;> decide +kernel

section Run

variable {inputs : ValidationInputs} {target : Except String TargetSnapshot}
  {artifacts entries : List CheckEntry} {replacements : List Replacement}
variable (h : Emits service.py inputs target artifacts entries replacements)

include h in
theorem Emits.entries_tagged :
    entries.map CheckEntry.checkId = targetPartIds inputs target ∧ ∀ e ∈ entries, e.Blocking := by
  have htarget := h.target_eq
  cases target with
  | error error =>
    cases htarget
    exact unavailableEntries_spec error
  | ok target =>
    simp only [targetParts, bind_eq_ok] at htarget
    obtain ⟨es, hes, rs, -, he⟩ := htarget
    cases he
    exact ⟨map_checkId_of_tagged (singleFactEntries_tagged hes),
      fun e he => blocking_of_tagged (singleFactEntries_tagged hes) he⟩

include h in
theorem Emits.replacements_nodup : (replacements.map Replacement.checkId).Nodup := by
  have htarget := h.target_eq
  cases target with
  | error error =>
    cases htarget
    exact nodup_nil
  | ok target =>
    simp only [targetParts, bind_eq_ok] at htarget
    obtain ⟨es, -, rs, hrs, he⟩ := htarget
    cases he
    rw [multiFactReplacements_ids hrs]
    decide +kernel

include h in
theorem Emits.ids_nodup :
    ((artifacts ++ entries ++ closingEntries inputs).map CheckEntry.checkId).Nodup := by
  rw [map_append, map_append, (artifactEntries_spec h.artifacts_eq).1, h.entries_tagged.1]
  cases target with
  | error error =>
    have hn : (artifactIds ++ targetIds ++
        ["semantic_downstream_cross_check", "monetary_reconciliation"]).Nodup := by decide +kernel
    exact hn
  | ok target => exact nodup_firstPassIds inputs target

include h in
theorem Emits.replacements_subset :
    ∀ id ∈ replacements.map Replacement.checkId, id ∈ replacedIds := by
  have htarget := h.target_eq
  cases target with
  | error error =>
    cases htarget
    simp
  | ok target =>
    simp only [targetParts, bind_eq_ok] at htarget
    obtain ⟨es, -, rs, hrs, he⟩ := htarget
    cases he
    rw [multiFactReplacements_ids hrs]
    exact fun _ hid => hid

variable (service inputs artifacts entries replacements) in
/-- The checks of a run before the gate. -/
def emittedChecks : List ValidationCheck :=
  (artifacts ++ entries ++ closingEntries inputs).map (service.finalCheck replacements)

variable (service inputs artifacts entries replacements) in
/-- The discrepancies of a run before the gate. -/
def emittedDiscrepancies : List ValidationDiscrepancy :=
  (service.replaceChecks (service.addChecks ⟨[], []⟩ (artifacts ++ entries)) replacements).discrepancies
    ++ (closingEntries inputs).flatMap service.entryDiscrepancies

theorem addChecks_append (ledger : Ledger) (a b : List CheckEntry) :
    service.addChecks (service.addChecks ledger a) b = service.addChecks ledger (a ++ b) := by
  rw [addChecks, addChecks, addChecks, foldl_append]

include h in
theorem Emits.closing_notMem {e : CheckEntry} (he : e ∈ closingEntries inputs) :
    e.checkId ∉ replacements.map Replacement.checkId := by
  intro hmem
  have hid := h.replacements_subset _ hmem
  simp only [closingEntries, mem_cons, not_mem_nil, or_false] at he
  rcases he with rfl | rfl <;> revert hid <;>
    simp [semanticCrossCheck, monetaryReconciliation, replacedIds]

include h in
theorem Emits.ledger_eq : service.addChecks (service.replaceChecks (service.addChecks
      (service.addChecks ⟨[], []⟩ artifacts) entries) replacements) (closingEntries inputs) =
      ⟨service.emittedChecks inputs artifacts entries replacements,
        service.emittedDiscrepancies inputs artifacts entries replacements⟩ := by
  have hids := h.ids_nodup
  rw [map_append, nodup_append] at hids
  have hchecks : (service.addChecks ⟨[], []⟩ (artifacts ++ entries)).checks =
      (artifacts ++ entries).map service.entryCheck := by
    rw [addChecks_checks, nil_append]
  have hn : (((service.addChecks ⟨[], []⟩ (artifacts ++ entries)).checks).map
      ValidationCheck.checkId).Nodup := by
    rw [hchecks, map_map]
    exact hids.1
  have hclosing : (closingEntries inputs).map service.entryCheck =
      (closingEntries inputs).map (service.finalCheck replacements) :=
    map_congr_left fun e he => (finalCheck_of_notMem (h.closing_notMem he)).symm
  rw [addChecks_append]
  apply Ledger.ext
  · rw [addChecks_checks, replaceChecks_checks hn h.replacements_nodup, hchecks, map_map,
      hclosing, emittedChecks]
    simp only [map_append]
    rfl
  · rw [addChecks_discrepancies, emittedDiscrepancies]

theorem ledgerBeforeGate_eq_ok {before : Ledger} :
    service.ledgerBeforeGate inputs target = .ok before ↔ ∃ artifacts entries replacements,
        Emits service.py inputs target artifacts entries replacements ∧
        before = ⟨service.emittedChecks inputs artifacts entries replacements,
          service.emittedDiscrepancies inputs artifacts entries replacements⟩ := by
  simp only [ledgerBeforeGate, bind_eq_ok, targetLedger_eq_ok, pure, Except.pure, Except.ok.injEq]
  constructor
  · rintro ⟨artifacts, ha, _, ⟨entries, replacements, ht, rfl⟩, rfl⟩
    exact ⟨artifacts, entries, replacements, ⟨ha, ht⟩, Emits.ledger_eq ⟨ha, ht⟩⟩
  · rintro ⟨artifacts, entries, replacements, hemits, rfl⟩
    exact ⟨artifacts, hemits.artifacts_eq, _,
      ⟨entries, replacements, hemits.target_eq, rfl⟩, hemits.ledger_eq⟩

/-! ## The outcome -/

variable (inputs artifacts entries replacements) in
/-- The final statuses of all entries before the gate. -/
def gateStatuses : List ValidationStatus :=
  (artifacts ++ entries ++ [semanticCrossCheck inputs]).map (finalStatus replacements)

include h in
/-- All entries block the gate but the monetary one. -/
theorem Emits.required_eq :
    (artifacts ++ entries ++ closingEntries inputs).filter CheckEntry.required =
      artifacts ++ entries ++ [semanticCrossCheck inputs] := by
  have hkept : ∀ e ∈ artifacts ++ entries, e.required = true := by
    intro e he
    rcases mem_append.1 he with he | he
    · exact ((artifactEntries_spec h.artifacts_eq).2 e he).1
    · exact (h.entries_tagged.2 e he).1
  rw [filter_append, filter_eq_self.2 hkept]
  rfl

include h in
theorem Emits.severity_eq
    {e : CheckEntry} (he : e ∈ artifacts ++ entries ++ [semanticCrossCheck inputs]) :
    e.severity = .g6Blocking := by
  rcases mem_append.1 he with he | he
  · rcases mem_append.1 he with he | he
    · exact ((artifactEntries_spec h.artifacts_eq).2 e he).2
    · exact (h.entries_tagged.2 e he).2
  · rw [mem_singleton.1 he]
    rfl

include h in
theorem Emits.required_checks :
    (service.emittedChecks inputs artifacts entries replacements).filter ValidationCheck.required =
      (artifacts ++ entries ++ [semanticCrossCheck inputs]).map (service.finalCheck replacements) := by
  rw [← h.required_eq, emittedChecks, filter_map]
  congr 1
  exact filter_congr fun e _ => finalCheck_required _ _

include h in
theorem Emits.blocking_eq :
    (blockingChecks (service.emittedChecks inputs artifacts entries replacements)).map
      ValidationCheck.status = gateStatuses inputs artifacts entries replacements := by
  have hsplit : blockingChecks (service.emittedChecks inputs artifacts entries replacements) =
      (artifacts ++ entries ++ [semanticCrossCheck inputs]).map (service.finalCheck replacements) := by
    rw [← h.required_checks, blockingChecks]
    refine filter_congr fun check hcheck => ?_
    obtain ⟨e, he, rfl⟩ := mem_map.1 hcheck
    by_cases hr : e.required = true
    · have hmem : e ∈ artifacts ++ entries ++ [semanticCrossCheck inputs] := by
        rw [← h.required_eq]
        exact mem_filter.2 ⟨he, hr⟩
      simp [hr, h.severity_eq hmem]
    · simp [hr]
  rw [hsplit, map_map, gateStatuses]
  exact map_congr_left fun e _ => finalCheck_status _ _

variable (service inputs artifacts entries replacements) in
def gateEntry : CheckEntry :=
  noBlockingDiscrepancy (service.emittedChecks inputs artifacts entries replacements)

include h in
theorem Emits.gateEntry_status : (service.gateEntry inputs artifacts entries replacements).status =
      overallStatus (gateStatuses inputs artifacts entries replacements) := by
  rw [← h.blocking_eq]
  rfl

variable (service inputs artifacts entries replacements) in
/-- The report that is emitted. -/
def emittedReport : ValidationReport :=
  service.buildReport inputs
    (service.addCheck ⟨service.emittedChecks inputs artifacts entries replacements,
      service.emittedDiscrepancies inputs artifacts entries replacements⟩
      (service.gateEntry inputs artifacts entries replacements))
    (gateStatuses inputs artifacts entries replacements)

include h in
theorem Emits.requirable_eq : (service.emittedReport inputs artifacts entries
      replacements).checks.filter ValidationCheck.required =
      (artifacts ++ entries ++ [semanticCrossCheck inputs]).map (service.finalCheck replacements) ++
        [service.entryCheck (service.gateEntry inputs artifacts entries replacements)] := by
  change (service.emittedChecks inputs artifacts entries replacements ++
    [service.entryCheck (service.gateEntry inputs artifacts entries replacements)]).filter
      ValidationCheck.required = _
  rw [filter_append, h.required_checks]
  rfl

include h in
theorem Emits.reconciles : (service.buildReconciliation inputs
      (service.emittedReport inputs artifacts entries replacements)
      (gateStatuses inputs artifacts entries replacements)).statusMatchesMetrics = .ok () := by
  have hmetrics : ((service.buildReconciliation inputs
      (service.emittedReport inputs artifacts entries replacements)
      (gateStatuses inputs artifacts entries replacements)).metrics.map ReconciliationMetric.status) =
      gateStatuses inputs artifacts entries replacements ++
        [overallStatus (gateStatuses inputs artifacts entries replacements)] := by
    change ((((service.emittedReport inputs artifacts entries replacements).checks.filter
      ValidationCheck.required).map service.metric).map ReconciliationMetric.status) = _
    rw [h.requirable_eq, map_map, map_append, map_map, map_singleton]
    refine congrArg₂ (· ++ ·) (map_congr_left fun e _ => finalCheck_status _ _) ?_
    exact congrArg (fun status => [status]) h.gateEntry_status
  unfold ReconciliationResult.statusMatchesMetrics
  rw [hmetrics, requireValid_eq_ok, overallStatus_append_self]
  refine ⟨rfl, ?_⟩
  change (!(gateStatuses inputs artifacts entries replacements).any (· = .fail)) = _
  rw [any_append]
  congr 1
  by_cases hf : .fail ∈ gateStatuses inputs artifacts entries replacements
  · have hany : (gateStatuses inputs artifacts entries replacements).any (· = .fail) = true := by
      simpa using hf
    rw [hany, Bool.true_or]
  · have hne := mt overallStatus_eq_fail.1 hf
    simp [hne]

theorem validate_eq_ok {outcome : ValidationOutcome} :
    service.validate inputs target = .ok outcome ↔ ∃ artifacts entries replacements,
      Emits service.py inputs target artifacts entries replacements ∧
      (service.emittedReport inputs artifacts entries replacements).statusIsDerived = .ok () ∧
      outcome = ⟨service.emittedReport inputs artifacts entries replacements,
        service.buildReconciliation inputs
          (service.emittedReport inputs artifacts entries replacements)
          (gateStatuses inputs artifacts entries replacements)⟩ := by
  simp only [validate, bind_eq_ok, ledgerBeforeGate_eq_ok, pure, Except.pure, Except.ok.injEq]
  constructor
  · rintro ⟨before, ⟨artifacts, entries, replacements, hemits, rfl⟩, _, hreport, _, -, rfl⟩
    refine ⟨artifacts, entries, replacements, hemits, ?_, ?_⟩
    · rw [emittedReport, gateEntry, ← hemits.blocking_eq]
      exact hreport
    · rw [emittedReport, gateEntry, ← hemits.blocking_eq]
  · rintro ⟨artifacts, entries, replacements, hemits, hreport, rfl⟩
    refine ⟨_, ⟨artifacts, entries, replacements, hemits, rfl⟩, (), ?_, (), ?_, ?_⟩
    · rw [hemits.blocking_eq]
      exact hreport
    · rw [hemits.blocking_eq]
      exact hemits.reconciles
    · rw [hemits.blocking_eq]
      rfl

end Run

end ValidationService

end DirtyDataOlap.Validation
