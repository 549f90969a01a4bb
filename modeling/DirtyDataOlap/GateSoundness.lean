import DirtyDataOlap.FactConservation
import DirtyDataOlap.LedgerRules

/-!
# What a passed gate says about the facts

When the second pass has found nothing, the rows of every fact table are in bijection with the
expected facts by their grain keys and agree with them.  **Agreement is `_equal`**, which compares
by value whatever reads as a number: the texts `7` and `7.0` are equal events.
-/
namespace DirtyDataOlap.Validation

open List Analytical AnalyticalCompilerService

/-- The checks that a report can require. -/
def requirableIds : List String :=
  ValidationService.artifactIds ++ ValidationService.targetIds ++
    ["semantic_downstream_cross_check", "no_blocking_discrepancy"]

/-- The policy requires every check that a report can have. -/
def ValidationPolicy.RequiresEveryCheck (policy : ValidationPolicy) : Prop :=
  ∀ checkId ∈ requirableIds, checkId ∈ policy.requiredCheckIds

section

variable (py : Interpreter) (inputs : ValidationInputs) (target : TargetSnapshot)

/-- A dimension row of the target stands for this entity, under this surrogate key. -/
structure HoldsEntity (dimensionId entityId : String) (member : Row) (surrogateKey : Value) :
    Prop where
  held : ∃ spec table, getItem (dimensionItems inputs) dimensionId = some spec ∧
    target.table spec.tableName = some table ∧ member ∈ table.rows ∧
    (member.get spec.canonicalReferenceColumn).normal.key = (Value.str entityId).key ∧
    surrogateKey = member.get spec.surrogateKey.keyName

variable (fact : FactSpec)

/-- **The row says what is expected of it**: its event, its measures, its entities and its sources,
compared as the service compares them. -/
structure RowAgrees (expected : SourceTruthFact) (row : Row) : Prop where
  event : (Value.str expected.canonicalEventId).equal py (row.get "canonical_event_id") = .ok true
  measures : ∀ item ∈ expected.measureValues, item.2.equal py (row.get item.1) = .ok true
  entities : ∀ item ∈ expected.dimensionEntityIds, ∃ foreignKey member surrogateKey,
    foreignKeyOf fact item.1 = some foreignKey ∧
    HoldsEntity inputs target item.1 item.2 member surrogateKey ∧
    surrogateKey.equal py (row.get foreignKey.factColumn) = .ok true
  lineage : expected.sourceRecordRefs ⊆ (row.get "source_record_refs").asRefs py

/-- **The target rows of the fact and the expected facts are matched one to one by their grain
keys**, and each row agrees with the fact it is matched with. -/
def Reconciled : Prop :=
  ∃ table grain, target.table fact.tableName = some table ∧ grainOf inputs fact = some grain ∧
    (table.rows.map fun row => (grainKey grain row).key).Nodup ∧
    (table.rows.map fun row => (grainKey grain row).key).Perm
      ((expectedFacts inputs fact).map fun item => (grainKey grain item.grainValues).key) ∧
    ∀ expected ∈ expectedFacts inputs fact, ∀ row ∈ table.rows,
      (grainKey grain row).key = (grainKey grain expected.grainValues).key →
        RowAgrees py inputs target fact expected row

/-- **The row is exactly what is expected**: event and keys are the same values, and its date key
leads to the expected day. -/
structure RowExact (expected : SourceTruthFact) (row : Row) : Prop where
  event : row.get "canonical_event_id" = .str expected.canonicalEventId
  measures : ∀ item ∈ expected.measureValues, item.2.equal py (row.get item.1) = .ok true
  entities : ∀ item ∈ expected.dimensionEntityIds, ∃ foreignKey member surrogateKey,
    foreignKeyOf fact item.1 = some foreignKey ∧
    HoldsEntity inputs target item.1 item.2 member surrogateKey ∧
    (row.get foreignKey.factColumn).key = surrogateKey.key
  date : ∀ date ∈ expected.dateValue, ∃ foreignKey ∈ fact.dimensionForeignKeys, ∃ spec table,
    getItem (dimensionItems inputs) foreignKey.dimensionId = some spec ∧ spec.role = .date ∧
    target.table spec.tableName = some table ∧
    ∃ day ∈ table.rows,
      (day.get foreignKey.dimensionKeyColumn).key = (row.get foreignKey.factColumn).key ∧
      (day.get "full_date").pyStr py = date
  lineage : expected.sourceRecordRefs ⊆ (row.get "source_record_refs").asRefs py

/-- The rows of the table of a fact are exactly the facts in its scope, each once. -/
def ExactlyReconciled : Prop :=
  ∃ table grain, target.table fact.tableName = some table ∧ grainOf inputs fact = some grain ∧
    (table.rows.map fun row => (grainKey grain row).key).Nodup ∧
    (table.rows.map fun row => (grainKey grain row).key).Perm
      ((inputs.sourceTruth.facts.filter fun item => item.scopeId = fact.factId).map fun item =>
        (grainKey grain item.grainValues).key) ∧
    ∀ expected ∈ inputs.sourceTruth.facts.filter fun item => item.scopeId = fact.factId,
      ∀ row ∈ table.rows, (grainKey grain row).key = (grainKey grain expected.grainValues).key →
        RowExact py inputs target fact expected row

end

/-! ## Comparisons without errors -/

section

variable {py : Interpreter} {inputs : ValidationInputs} {target : TargetSnapshot} {fact : FactSpec}
  {expected : SourceTruthFact} {row : Row} {label unbound : String}

theorem unlessEqual_eq_nil {a b : Value} {error : String} :
    unlessEqual py a b error = .ok [] ↔ a.equal py b = .ok true := by
  unfold unlessEqual
  rw [bind_eq_ok]
  constructor
  · rintro ⟨same, hsame, h⟩
    cases same with
    | true => exact hsame
    | false => cases h
  · intro h
    exact ⟨true, h, rfl⟩

theorem dimensionMap_eq_some {dimensionId entityId : String} {surrogateKey : Value}
    (h : getItem (dimensionMap inputs target dimensionId) (Value.str entityId).key =
      some surrogateKey) :
    ∃ member, HoldsEntity inputs target dimensionId entityId member surrogateKey := by
  obtain ⟨pair, hpair, hkey, hvalue⟩ := getItem_map_eq_some h
  unfold dimensionMembers at hpair
  split at hpair
  · rename_i spec hspec
    cases htable : target.table spec.tableName with
    | none =>
      rw [htable] at hpair
      exact absurd hpair not_mem_nil
    | some table =>
      rw [htable] at hpair
      obtain ⟨member, hmember, rfl⟩ := mem_map.1 hpair
      exact ⟨member, ⟨spec, table, hspec, htable, mem_of_mem_filter hmember, hkey,
        hvalue.symm⟩⟩
  · exact absurd hpair not_mem_nil

theorem entityErrors_eq_nil {item : String × String}
    (h : entityErrors inputs target py label unbound fact row item = .ok []) :
    ∃ foreignKey member surrogateKey, foreignKeyOf fact item.1 = some foreignKey ∧
      HoldsEntity inputs target item.1 item.2 member surrogateKey ∧
      surrogateKey.equal py (row.get foreignKey.factColumn) = .ok true := by
  unfold entityErrors at h
  split at h
  · rename_i foreignKey surrogateKey hforeign hsurrogate
    obtain ⟨member, hmember⟩ := dimensionMap_eq_some hsurrogate
    exact ⟨foreignKey, member, surrogateKey, hforeign, hmember, unlessEqual_eq_nil.1 h⟩
  · cases h

theorem allocationErrors_eq_nil :
    allocationErrors inputs target py label unbound fact expected row = .ok [] ↔
      (Value.str expected.canonicalEventId).equal py (row.get "canonical_event_id") = .ok true ∧
      (∀ item ∈ expected.measureValues, item.2.equal py (row.get item.1) = .ok true) ∧
      ∀ item ∈ expected.dimensionEntityIds,
        entityErrors inputs target py label unbound fact row item = .ok [] := by
  simp only [allocationErrors, bind_eq_ok, pure, Except.pure, Except.ok.injEq]
  constructor
  · rintro ⟨event, hevent, measures, hmeasures, entities, hentities, hnil⟩
    rw [append_eq_nil_iff, append_eq_nil_iff] at hnil
    obtain ⟨⟨rfl, hmeasures'⟩, hentities'⟩ := hnil
    refine ⟨unlessEqual_eq_nil.1 hevent, fun item hitem => ?_, ?_⟩
    · exact unlessEqual_eq_nil.1 (mapM_flatten_eq_nil.1 ⟨measures, hmeasures, hmeasures'⟩ item hitem)
    · exact mapM_flatten_eq_nil.1 ⟨entities, hentities, hentities'⟩
  · rintro ⟨hevent, hmeasures, hentities⟩
    have hfields : ∀ item ∈ expected.measureValues,
        unlessEqual py item.2 (row.get item.1) (label ++ ":" ++ item.1) = .ok [] :=
      fun item hitem => unlessEqual_eq_nil.2 (hmeasures item hitem)
    obtain ⟨measures, hm, hm'⟩ := mapM_flatten_eq_nil.2 hfields
    obtain ⟨entities, he, he'⟩ := mapM_flatten_eq_nil.2 hentities
    exact ⟨[], unlessEqual_eq_nil.2 hevent, measures, hm, entities, he, by simp [hm', he']⟩

theorem factValueErrors_eq_nil : factValueErrors inputs target py fact expected = .ok [] ↔
      ∃ row, rowByGrain (grainOf inputs fact) (factRows target fact) expected.grainValues = some row ∧
        allocationErrors inputs target py (fact.factId ++ ":" ++ expected.factRef) ":unbound" fact
          expected row = .ok [] ∧
        expected.sourceRecordRefs ⊆ (row.get "source_record_refs").asRefs py := by
  unfold factValueErrors
  cases hrow : rowByGrain (grainOf inputs fact) (factRows target fact) expected.grainValues with
  | none => simp
  | some row =>
    simp only [bind_eq_ok, pure, Except.pure, Except.ok.injEq, append_eq_nil_iff,
      lineageErrors, errorIf_eq_nil, not_not, Option.some.injEq, exists_eq_left']
    constructor
    · rintro ⟨values, hvalues, rfl, hrefs⟩
      exact ⟨hvalues, hrefs⟩
    · rintro ⟨hvalues, hrefs⟩
      exact ⟨[], hvalues, rfl, hrefs⟩

theorem factBusinessErrors_eq_nil (h : factBusinessErrors inputs target py fact = .ok []) :
    ∀ expected ∈ expectedFacts inputs fact, factValueErrors inputs target py fact expected = .ok [] := by
  simp only [factBusinessErrors, bind_eq_ok] at h
  obtain ⟨_, -, errors, herrors, _, -, hnil⟩ := h
  exact mapM_flatten_eq_nil.1 ⟨errors, herrors, Except.ok.inj hnil⟩

end

section

variable {py : Interpreter} {inputs : ValidationInputs} {target : TargetSnapshot} {fact : FactSpec}

theorem factCountErrors_eq_nil :
    factCountErrors inputs target fact = [] ↔ ∃ table, target.table fact.tableName = some table ∧
      table.rows.length = (expectedFacts inputs fact).length := by
  rw [factCountErrors, errorIf_eq_nil, not_not, observedCount]
  cases target.table fact.tableName with
  | none => simp
  | some table => simp

theorem nodup_of_length_dedup {α : Type} [DecidableEq α] {xs : List α}
    (h : xs.dedup.length = xs.length) : xs.Nodup := by
  have heq : xs.dedup = xs := (dedup_sublist xs).eq_of_length h
  rw [← heq]
  exact nodup_dedup xs

theorem reconciled_of_noErrors (hcount : factCountErrors inputs target fact = [])
    (hgrain : factGrainErrors inputs target fact = []) (hcontract : contractErrors inputs fact = [])
    (hvalues : factBusinessErrors inputs target py fact = .ok []) :
    Reconciled py inputs target fact := by
  obtain ⟨table, htable, hlength⟩ := factCountErrors_eq_nil.1 hcount
  have hrows : factRows target fact = table.rows := by simp [factRows, htable]
  have hne : expectedFacts inputs fact ≠ [] := by
    rw [contractErrors, append_eq_nil_iff, errorIf_eq_nil, errorIf_eq_nil] at hcontract
    exact hcontract.2
  have hfacts := factBusinessErrors_eq_nil hvalues
  -- Some fact is expected, and a fact without a grain has no row.
  obtain ⟨grain, hgrainOf⟩ : ∃ grain, grainOf inputs fact = some grain := by
    obtain ⟨first, hfirst⟩ := exists_mem_of_ne_nil _ hne
    obtain ⟨row, hrow, -⟩ := factValueErrors_eq_nil.1 (hfacts first hfirst)
    cases hg : grainOf inputs fact with
    | none =>
      rw [hg] at hrow
      cases hrow
    | some grain => exact ⟨grain, rfl⟩
  rw [factGrainErrors, errorIf_eq_nil] at hgrain
  simp only [not_or, not_not, ne_eq, expectedGrainKeys, observedGrainKeys, hgrainOf, grainKeys,
    map_map, hrows] at hgrain
  obtain ⟨hsub, hsup, hdedup⟩ := hgrain
  have hnodup : (table.rows.map fun row => (grainKey grain row).key).Nodup := by
    apply nodup_of_length_dedup
    rw [length_map]
    exact hdedup
  have hperm : (table.rows.map fun row => (grainKey grain row).key).Perm
      ((expectedFacts inputs fact).map fun item => (grainKey grain item.grainValues).key) := by
    refine (subperm_of_subset hnodup hsup).perm_of_length_le ?_
    simp [hlength]
  refine ⟨table, grain, htable, hgrainOf, hnodup, hperm, fun expected hexpected row hrow hkey => ?_⟩
  obtain ⟨found, hfound, halloc, hlineage⟩ := factValueErrors_eq_nil.1 (hfacts expected hexpected)
  -- The keys of the rows are distinct, so that the row found is this one.
  obtain rfl : found = row := by
    have hitem : getItem (table.rows.map fun row => ((grainKey grain row).key, row))
        (grainKey grain row).key = some row :=
      getItem_map_of_mem (f := id) hnodup hrow
    rw [hgrainOf, hrows] at hfound
    change getItem (table.rows.map fun row => ((grainKey grain row).key, row))
      (grainKey grain expected.grainValues).key = some found at hfound
    rw [← hkey, hitem] at hfound
    exact (Option.some.inj hfound).symm
  obtain ⟨hevent, hmeasures, hentities⟩ := allocationErrors_eq_nil.1 halloc
  exact ⟨hevent, hmeasures, fun item hitem => entityErrors_eq_nil (hentities item hitem), hlineage⟩

end

namespace ValidationService

variable {service : ValidationService} {inputs : ValidationInputs} {target : TargetSnapshot}
  {outcome : ValidationOutcome}

variable (h : service.validate inputs (.ok target) = .ok outcome)

include h in
theorem pass_replacements
    (hpass : outcome.report.g6Status = .pass) (hpolicy : inputs.policy.RequiresEveryCheck) :
    ∃ replacements, multiFactReplacements inputs target service.py = .ok replacements ∧
      ∀ r ∈ replacements, r.status ≠ .fail := by
  obtain ⟨artifacts, entries, replacements, hemits, hderived, rfl⟩ := validate_eq_ok.1 h
  have hreplacements : multiFactReplacements inputs target service.py = .ok replacements := by
    have htarget := hemits.target_eq
    simp only [targetParts, bind_eq_ok] at htarget
    obtain ⟨es, -, rs, hrs, he⟩ := htarget
    rw [hrs, (Prod.mk.inj (Except.ok.inj he)).2]
  refine ⟨replacements, hreplacements, fun r hr => ?_⟩
  have hid : r.checkId ∈ replacedIds :=
    multiFactReplacements_ids hreplacements ▸ mem_map_of_mem hr
  -- The policy requires the check, so that the report has it.
  have hrequired : r.checkId ∈ inputs.policy.requiredCheckIds := by
    apply hpolicy
    have hall : ∀ id ∈ replacedIds, id ∈ requirableIds := by decide +kernel
    exact hall _ hid
  simp only [ValidationReport.statusIsDerived, bind_eq_ok, requireValid_eq_ok] at hderived
  obtain ⟨_, -, _, -, _, -, _, hpresent, -⟩ := hderived
  obtain ⟨check, hcheck, hcheckId⟩ := mem_map.1 (hpresent _ hrequired)
  have hmem : check ∈ service.emittedChecks inputs artifacts entries replacements ++
      [service.entryCheck (service.gateEntry inputs artifacts entries replacements)] :=
    mem_of_mem_filter hcheck
  rcases mem_append.1 hmem with hmem | hmem
  · obtain ⟨e, he, rfl⟩ := mem_map.1 hmem
    rw [finalCheck_checkId] at hcheckId
    have hkept : e ∈ artifacts ++ entries ++ [semanticCrossCheck inputs] := by
      rw [← hemits.required_eq, mem_filter]
      refine ⟨he, ?_⟩
      have hreq := (mem_filter.1 hcheck).2
      simp only [Bool.and_eq_true, finalCheck_required] at hreq
      exact hreq.1
    have hgate := gateStatus_eq_pass.1 hpass (finalStatus replacements e)
      (mem_map_of_mem hkept)
    rw [finalStatus_of_mem hemits.replacements_nodup hr hcheckId] at hgate
    exact hgate.1
  · rw [mem_singleton.1 hmem] at hcheckId
    rw [← hcheckId] at hid
    have hgate : "no_blocking_discrepancy" ∉ replacedIds := by decide +kernel
    exact absurd hid hgate

include h in
/-- **A passed gate is sound**: every fact is reconciled with the truth. -/
theorem gate_pass_reconciles
    (hpass : outcome.report.g6Status = .pass) (hpolicy : inputs.policy.RequiresEveryCheck) :
    ∀ fact ∈ inputs.compiledPlan.factSpecs, Reconciled service.py inputs target fact := by
  intro fact hfact
  obtain ⟨replacements, hreplacements, hstatus⟩ := pass_replacements h hpass hpolicy
  simp only [multiFactReplacements, bind_eq_ok] at hreplacements
  obtain ⟨_, -, errors, herrors, scopes, -, failures, -, heq⟩ := hreplacements
  cases heq
  simp only [factReplacements, cons_append, nil_append, forall_mem_cons, ne_eq,
    statusOf_eq_fail, not_not, append_eq_nil_iff] at hstatus
  obtain ⟨hcount, hgrain, -, ⟨hcontract, hbusiness⟩, -⟩ := hstatus
  exact reconciled_of_noErrors (flatMap_eq_nil_iff.1 hcount fact hfact)
    (flatMap_eq_nil_iff.1 hgrain fact hfact)
    (flatMap_eq_nil_iff.1 hcontract fact hfact)
    (mapM_flatten_eq_nil.1 ⟨errors, herrors, hbusiness⟩ fact hfact)

end ValidationService

/-! ## A small audit -/

def demoInterpreter : Interpreter where
  isPrintable c := 32 ≤ c.toNat && c.toNat < 127
  casefold text := String.ofList (text.toList.map Char.toLower)
  reprDatetime t := t.isoformat " "
  jsonItems _ := none

def demoService : ValidationService where
  py := demoInterpreter
  discrepancyId checkId _ _ _ := checkId
  reportId _ _ _ _ := "vreport_0"
  metricId checkId := checkId
  resultId _ := "recon_0"

def customerId : String := "cent_11111111111111111111111111111111"

def orderId : String := "cent_22222222222222222222222222222222"

def demoSha : String := "0000000000000000000000000000000000000000000000000000000000000000"

/-- The one sale of the warehouse, whose event is `7`. -/
def demoTruthFact : SourceTruthFact where
  factRef := "fact:1"
  factId := some "fact_sales"
  sourceRecordRefs := ["src:sale-1"]
  canonicalEventId := "7"
  grainValues := [("sale_id", .int 1)]
  dimensionEntityIds := [("dim_customer", "cust:1")]
  measureValues := [("amount", .str "9.50")]
  dateValue := some "2024-01-01"

def demoExpectation (boundary : AccountingBoundary) (ref : String) :
    SourceTruthAccountingExpectation where
  boundary := boundary
  inputRecordRef := ref
  expectedDisposition := .emittedDirect
  expectedOutputOrGroupRef := some "out"
  reasonContains := none

def demoTruth : SourceTruthManifest where
  truthId := "truth"
  contentHash := "hash:truth"
  sourceSnapshotFingerprint := "fp:snap"
  sourceSnapshotId := "snap"
  sourceSchemaFingerprints := [("shop", "fp:shop")]
  records := [
    { recordRef := "src:cust:1", sourceId := "shop", snapshotId := "snap", tableId := "customers"
      subjectType := "customer", canonicalEntityId := some customerId
      terminalDisposition := .emittedDirect },
    { recordRef := "src:sale-1", sourceId := "shop", snapshotId := "snap", tableId := "orders"
      subjectType := "order", canonicalEntityId := some orderId
      terminalDisposition := .emittedDirect }]
  entities := [⟨"customer", customerId, ["src:cust:1"]⟩, ⟨"order", orderId, ["src:sale-1"]⟩]
  relationships := []
  facts := [demoTruthFact]
  accountingExpectations := [
    demoExpectation .sourceToCanonical "src:cust:1", demoExpectation .sourceToCanonical "src:sale-1",
    demoExpectation .canonicalToAnalytical customerId,
    demoExpectation .canonicalToAnalytical orderId]
  aggregateExpectations := [
    { aggregateId := "amount_by_customer", factId := "fact_sales", measureField := "amount"
      operation := "SUM", groupBy := ["dim_customer"], expected := .none
      expectedByKey := [("cust:1", .str "9.50")] }]
  expectedAggregates := []
  duplicateGroups := []

def demoCanonicalModel : CanonicalModel where
  modelId := "cmodel"
  contentHash := "hash:cmodel"
  entityTypes := [⟨"type_customer", "customer", .identity⟩, ⟨"type_order", "order", .event⟩]
  instances := [⟨customerId, "type_customer", ["src:cust:1"]⟩, ⟨orderId, "type_order", ["src:sale-1"]⟩]
  sourceRecordMaps := [
    ⟨"src:cust:1", "shop", "snap", "customers", customerId, "type_customer", .emittedDirect⟩,
    ⟨"src:sale-1", "shop", "snap", "orders", orderId, "type_order", .emittedDirect⟩]
  relationshipIds := []

def demoEntry (ref : String) : RecordAccountingEntry where
  inputRecordRef := ref
  disposition := .emittedDirect
  outputOrGroupRef := some "out"
  reason := "emitted"

def demoAccounting : RecordAccountingArtifact where
  accountingId := "racc"
  contentHash := "hash:racc"
  runId := "run"
  scopes := [
    { scopeId := "s1", boundary := .sourceToCanonical
      inputRecordRefs := ["src:cust:1", "src:sale-1"]
      entries := [demoEntry "src:cust:1", demoEntry "src:sale-1"] },
    { scopeId := "s2", boundary := .canonicalToAnalytical
      inputRecordRefs := [customerId, orderId]
      entries := [demoEntry customerId, demoEntry orderId] }]

def auditedDataset : AnalyticalInputDataset :=
  { soldDataset with
    sourceSchemaFingerprints := [("shop", "fp:shop")]
    sourceSnapshotFingerprints := [("snap", "fp:snap")] }

def auditedBinding : AnalyticalInputBinding :=
  { (demoRequest auditedDataset).binding with
    sourceSchemaFingerprints := [("shop", "fp:shop")]
    sourceSnapshotFingerprints := [("snap", "fp:snap")] }

def demoMaterialization : MaterializationArtifact where
  artifactId := "mat"
  contentHash := "hash:mat"
  targetRelativePath := "olap.duckdb"
  targetConfigFingerprint := "config"
  targetFileSha256 := some demoSha
  status := .succeeded
  usable := true

def demoSemanticModel : SemanticModel where
  semanticModelId := "smodel"
  contentHash := "hash:smodel"
  analyticalPlanId := "aplan"
  analyticalPlanContentHash := "hash:aplan"
  compiledPlanId := "cplan_0"
  compiledPlanContentHash := "hash:cplan_0"
  materializationArtifactId := "mat"
  materializationArtifactContentHash := "hash:mat"
  targetRelativePath := "olap.duckdb"
  targetFileSha256 := some demoSha
  measures := [⟨"sm_amount", "amount", .additive⟩]

def demoPolicy : ValidationPolicy where
  policyId := "vpol"
  policyVersion := "1"
  contentHash := "hash:vpol"
  requiredCheckIds := requirableIds
  monetaryStatus := .notApplicable
  monetaryReason := "no currency"

def demoBindings : ValidationArtifactBindings where
  sourceSnapshotId := "snap"
  sourceSnapshotHash := "fp:snap"
  sourceTruthId := "truth"
  sourceTruthContentHash := "hash:truth"
  canonicalModelId := "cmodel"
  canonicalModelContentHash := "hash:cmodel"
  recordAccountingId := "racc"
  recordAccountingContentHash := "hash:racc"
  analyticalPlanId := "aplan"
  analyticalPlanContentHash := "hash:aplan"
  analyticalSpecPackageHash := "hash:specs"
  analyticalDatasetId := "dataset"
  analyticalDatasetContentHash := "hash:dataset"
  analyticalInputBindingId := "binding"
  analyticalInputBindingContentHash := "hash:binding"
  analyticalInputSourceSnapshotFingerprints := [("snap", "fp:snap")]
  compiledPlanId := "cplan_0"
  compiledPlanContentHash := "hash:cplan_0"
  materializationArtifactId := "mat"
  materializationArtifactContentHash := "hash:mat"
  targetRelativePath := "olap.duckdb"
  targetConfigFingerprint := "config"
  targetFileSha256 := demoSha
  semanticModelId := "smodel"
  semanticModelContentHash := "hash:smodel"
  semanticValidationId := "sval"
  semanticValidationContentHash := "hash:sval"
  validationPolicyId := "vpol"
  validationPolicyVersion := "1"
  benchmarkTruthHash := some "hash:truth"

def demoPlan (specs : SpecPackage) : CompiledPlan where
  compiledPlanId := "cplan_0"
  contentHash := "hash:cplan_0"
  planId := "aplan"
  planContentHash := "hash:aplan"
  analyticalSpecPackageHash := "hash:specs"
  generatedSqlHash := "hash:sql"
  targetConfigFingerprint := "config"
  reviewState := .accepted
  tableNames := ["dim_customer", "dim_date", "fact_sales"]
  dimensionSpecs := specs.dimensions
  factSpecs := specs.facts
  grainSpecs := specs.grains
  measureSpecs := specs.measures

/-- The inputs of an audit of the warehouse against a manifest. -/
def demoInputs (truth : SourceTruthManifest) : ValidationInputs where
  sourceTruth := truth
  canonicalModel := demoCanonicalModel
  accounting := demoAccounting
  analyticalDataset := auditedDataset
  analyticalInputBinding := auditedBinding
  plan := (demoRequest auditedDataset).plan
  compiledPlan := demoPlan (demoSpecs quarantinePolicy amount)
  materialization := demoMaterialization
  semanticModel := demoSemanticModel
  semanticValidation := ⟨"sval", "hash:sval", "smodel", "hash:smodel", .pass⟩
  policy := demoPolicy
  bindings := demoBindings

/-- The warehouse with one sale, whose event reads as given. -/
def demoSnapshot (event : String) : TargetSnapshot where
  availableTableNames := ["dim_customer", "dim_date", "fact_sales"]
  tables := [
    { tableName := "dim_customer", tableNameIsSafe := quarantinedCustomer.tableIsSafe
      columns := ["customer_key", "canonical_entity_id", "customer_name", "source_record_refs"]
      rows := [[("customer_key", .int 11), ("canonical_entity_id", .str "cust:1"),
        ("customer_name", .str "Ada"), ("source_record_refs", .list [.str "src:cust:1"])]] },
    { tableName := "dim_date", tableNameIsSafe := demoDate.tableIsSafe
      columns := ["date_key", "canonical_entity_id", "full_date", "source_record_refs"]
      rows := [[("date_key", .int 21), ("canonical_entity_id", .str "2024-01-01"),
        ("full_date", .str "2024-01-01"), ("source_record_refs", .list [.str "date-range:dim_date"])]] },
    { tableName := "fact_sales", tableNameIsSafe := (demoFact true).tableIsSafe
      columns := ["sale_id", "canonical_event_id", "customer_key", "date_key", "amount",
        "source_record_refs"]
      rows := [[("sale_id", .int 1), ("canonical_event_id", .str event), ("customer_key", .int 11),
        ("date_key", .int 21), ("amount", .decimal (.finite ⟨false, 950, -2⟩) 0),
        ("source_record_refs", .list [.str "src:sale-1"])]]
      rowColumnsMatch := by simp }]
  tablesAreUnique := by simp

theorem demo_requires_every_check : (demoInputs demoTruth).policy.RequiresEveryCheck :=
  fun _ h => h

/-- The audit of the warehouse passes, with the event as expected and with one of equal value. -/
theorem demo_passes {event : String} (h : event = "7" ∨ event = "7.0") :
    ∃ outcome, demoService.validate (demoInputs demoTruth) (.ok (demoSnapshot event)) = .ok outcome ∧
      outcome.report.g6Status = .pass := by
  have hrun : ((demoService.validate (demoInputs demoTruth) (.ok (demoSnapshot event))).toOption.map
      fun o => o.report.g6Status) = some .pass := by
    rcases h with rfl | rfl <;> decide +kernel
  exact exists_ok_of_map hrun

theorem gate_pass_reconciles_demo :
    Reconciled demoInterpreter (demoInputs demoTruth) (demoSnapshot "7") (demoFact true) := by
  obtain ⟨outcome, h, hpass⟩ := demo_passes (.inl rfl)
  exact ValidationService.gate_pass_reconciles h hpass demo_requires_every_check (demoFact true)
    (by simp [demoInputs, demoPlan, demoSpecs, quarantinePolicy])

/-- The gate passes a row whose event is `7.0` where the event `7` is expected. -/
theorem coerced_event_passes : ∃ outcome,
    demoService.validate (demoInputs demoTruth) (.ok (demoSnapshot "7.0")) = .ok outcome ∧
    outcome.report.g6Status = .pass ∧ (demoInputs demoTruth).policy.RequiresEveryCheck ∧
    ¬ ∀ fact ∈ (demoInputs demoTruth).compiledPlan.factSpecs,
      ExactlyReconciled demoInterpreter (demoInputs demoTruth) (demoSnapshot "7.0") fact := by
  obtain ⟨outcome, h, hpass⟩ := demo_passes (Or.inr rfl : "7.0" = "7" ∨ "7.0" = "7.0")
  refine ⟨outcome, h, hpass, demo_requires_every_check, fun hexact => ?_⟩
  obtain ⟨table, grain, htable, hgrain, -, -, hrows⟩ := hexact (demoFact true)
    (by simp [demoInputs, demoPlan, demoSpecs, quarantinePolicy])
  obtain rfl : (demoSnapshot "7.0").tables[2] = table := Option.some.inj htable
  obtain rfl : demoGrain = grain := Option.some.inj hgrain
  have hrow := hrows demoTruthFact
    (mem_filter.2 ⟨mem_singleton_self _, by decide +kernel⟩) _ (mem_singleton_self _) rfl
  have hevent : Value.str "7.0" = Value.str "7" := hrow.event
  injection hevent with htext
  exact absurd htext (by decide +kernel)

end DirtyDataOlap.Validation
