import DirtyDataOlap.GateSoundness

/-!
# When a validation returns a coherent report

A report is coherent when its discrepancies are those of its failed checks.  **A provisional check
that fails and is then replaced breaks it**: its discrepancy stays.  A run is coherent exactly when
the first pass finds the table of the first fact equal to all expected facts, every value met can be
hashed, ordered and compared, the canonical model is closed, and the policy requires only checks
that are emitted and that settle the verdict.
-/
namespace DirtyDataOlap.Validation

open List Analytical Analytical.AnalyticalCompilerService

/-- The discrepancies of a report are those of its failed checks, and the reconciliation has its
verdict. -/
structure ValidationOutcome.Coherent (outcome : ValidationOutcome) : Prop where
  discrepancies : ∀ d ∈ outcome.report.discrepancies, ∃ check ∈ outcome.report.checks,
    check.checkId = d.checkId ∧ check.status = .fail ∧ d.discrepancyId ∈ check.discrepancyIds
  failures : ∀ check ∈ outcome.report.checks, check.status = .fail →
    ∃ d ∈ outcome.report.discrepancies, d.discrepancyId ∈ check.discrepancyIds
  verdict : outcome.reconciliation.status = outcome.report.overallStatus ∧
    (outcome.reconciliation.noBlockingDiscrepancy = true ↔ outcome.report.g6Status ≠ .fail)

/-! ## Values that can be hashed, ordered and counted -/

namespace Value

variable {vs : List Value}

@[simp] theorem requireHashable_eq_ok {u : Unit} :
    requireHashable vs = .ok u ↔ hashableAll vs = true := by
  by_cases h : hashableAll vs <;> simp [requireHashable, h]

theorem sortedValues_eq_ok {ws : List Value} :
    sortedValues vs = .ok ws ↔ (vs.Pairwise fun a b => a.orderable b = true) ∧
      vs.insertionSort (fun a b => b.less a = false) = ws := by
  by_cases h : vs.Pairwise fun a b => a.orderable b = true <;> simp [sortedValues, h]

theorem sortedValues_eq_nil : sortedValues vs = .ok [] ↔ vs = [] := by
  rw [sortedValues_eq_ok]
  constructor
  · rintro ⟨-, h⟩
    exact perm_nil.1 (h ▸ (perm_insertionSort _ vs).symm)
  · rintro rfl
    exact ⟨List.Pairwise.nil, rfl⟩

theorem foldl_distinct_key {seen : List Value} {k : List Token} :
    k ∈ (vs.foldl (fun seen v => if v.key ∈ seen.map key then seen else seen ++ [v]) seen).map key ↔
      k ∈ seen.map key ∨ k ∈ vs.map key := by
  induction vs generalizing seen with
  | nil => simp
  | cons v vs ih =>
    rw [foldl_cons, ih]
    by_cases hv : v.key ∈ seen.map key
    · rw [if_pos hv, map_cons, mem_cons]
      constructor
      · rintro (h | h)
        · exact .inl h
        · exact .inr (.inr h)
      · rintro (h | rfl | h)
        · exact .inl h
        · exact .inl hv
        · exact .inr h
    · simp only [if_neg hv, map_append, map_cons, map_nil, mem_append,
        mem_cons, not_mem_nil, or_false, or_assoc]

theorem key_mem_distinct {k : List Token} : k ∈ (distinct vs).map key ↔ k ∈ vs.map key := by
  rw [distinct, foldl_distinct_key]
  simp

theorem filter_distinct_eq_nil {ws : List Value} :
    ((distinct vs).filter fun v => v.key ∉ ws.map key) = [] ↔ vs.map key ⊆ ws.map key := by
  rw [filter_eq_nil_iff]
  constructor
  · intro h k hk
    obtain ⟨v, hv, rfl⟩ := mem_map.1 (key_mem_distinct.2 hk)
    simpa using h v hv
  · intro h v hv
    simpa using h (key_mem_distinct.1 (mem_map_of_mem hv))

theorem numeric_int (py : Interpreter) (n : Nat) : (int n).numeric py =
      if Numeral.representable ⟨false, n, 0⟩ then some (.finite ⟨false, n, 0⟩) else Option.none :=
  Numeral.ofText_toString n

theorem equal_count (py : Interpreter) (m n : Nat) :
    (count m).equal py (count n) = .ok (decide (m = n)) := by
  simp only [count, equal, numeric_int]
  by_cases hm : Numeral.representable ⟨false, m, 0⟩
  · by_cases hn : Numeral.representable ⟨false, n, 0⟩
    · simp [hm, hn, Numeral.decEq, Dec.value, Dec.signed]
    · simp [hm, hn, normal, key]
  · simp [hm, normal, key]

theorem truthy_of_iterate {v : Value} {items : List Value} (h : v.iterate = .ok items)
    (hne : items ≠ []) : v.truthy = true := by
  cases v with
  | list xs =>
    cases h
    simpa [truthy] using hne
  | tuple xs =>
    cases h
    simpa [truthy] using hne
  | dict xs =>
    cases h
    simpa [truthy] using hne
  | bytes data =>
    cases h
    simpa [truthy] using hne
  | str text =>
    cases h
    by_cases ht : text = ""
    · exact absurd (by simp [ht]) hne
    · simp [truthy, ht]
  | _ => cases h

end Value

/-! ## The first pass without errors -/

section

variable (py : Interpreter) (inputs : ValidationInputs) (target : TargetSnapshot) (fact : FactSpec)
  (table : TargetTableSnapshot)

def provisionalExpectedKeys : List Value :=
  grainKeys (firstGrain inputs fact) (inputs.sourceTruth.facts.map SourceTruthFact.grainValues)

def provisionalObservedKeys : List Value := grainKeys (firstGrain inputs fact) table.rows

/-- The grain keys can be hashed and ordered, and are those of all expected facts, each once. -/
structure GrainExact : Prop where
  hashable : Value.hashableAll (provisionalExpectedKeys inputs fact) = true ∧
    Value.hashableAll (provisionalObservedKeys inputs fact table) = true
  orderable :
    ((Value.distinct (provisionalExpectedKeys inputs fact)).Pairwise
      fun a b => a.orderable b = true) ∧
    (Value.distinct (provisionalObservedKeys inputs fact table)).Pairwise
      fun a b => a.orderable b = true
  missing : (provisionalExpectedKeys inputs fact).map Value.key ⊆
    (provisionalObservedKeys inputs fact table).map Value.key
  extra : (provisionalObservedKeys inputs fact table).map Value.key ⊆
    (provisionalExpectedKeys inputs fact).map Value.key
  once : (Value.distinct (provisionalObservedKeys inputs fact table)).length = table.rows.length

/-- The table of the first fact is equal to all expected facts, and everything that the first pass
reads can be read. -/
structure ProvisionallyExact : Prop where
  count : table.rows.length = inputs.sourceTruth.facts.length
  grain : GrainExact inputs fact table
  members : ∀ item ∈ dictOf (dimensionItems inputs),
    Value.hashableAll ((dimensionMembers inputs target item.1).map Prod.fst) = true
  values : ∀ expected ∈ inputs.sourceTruth.facts,
    provisionalValueErrors inputs target py fact table expected = .ok []
  orphans : ∀ foreignKey ∈ fact.dimensionForeignKeys,
    provisionalOrphans inputs target py table foreignKey = .ok []
  uniqueness : ∀ item ∈ dictOf (dimensionItems inputs), ∃ errors, keyErrors target item = .ok errors
  dates : ∀ spec ∈ inputs.compiledPlan.dimensionSpecs, spec.role = .date →
    ∀ date ∈ inputs.sourceTruth.facts.filterMap SourceTruthFact.dateValue,
      date ∈ observedDates target py spec
  aggregates : ∃ items, looseAggregates inputs = .ok items ∧ ∀ aggregate ∈ items, ∃ failures,
    looseAggregateFailures inputs target py fact table aggregate = .ok failures ∧
      failures.getD [] = []

end

section

variable {py : Interpreter} {inputs : ValidationInputs} {target : TargetSnapshot} {fact : FactSpec}
  {table : TargetTableSnapshot}

/-- A check that is computed and does not fail. -/
def NotFailed (check : Except Raised CheckEntry) : Prop :=
  ∃ entry, check = .ok entry ∧ entry.status ≠ .fail

theorem provisionalCount_notFailed : NotFailed (provisionalCount inputs py table) ↔
      table.rows.length = inputs.sourceTruth.facts.length := by
  rw [provisionalCount, Value.equal_count]
  by_cases h : inputs.sourceTruth.facts.length = table.rows.length
  · simp only [h, decide_true, NotFailed]
    exact ⟨fun _ => trivial, fun _ => ⟨_, rfl, by simp⟩⟩
  · simp only [h, decide_false, NotFailed]
    refine ⟨?_, fun h' => absurd h'.symm h⟩
    rintro ⟨entry, he, hne⟩
    cases he
    simp at hne

theorem provisionalGrain_notFailed :
    NotFailed (provisionalGrain inputs fact table) ↔ GrainExact inputs fact table := by
  simp only [NotFailed, provisionalGrain, bind_eq_ok, Value.requireHashable_eq_ok]
  change (∃ entry, (∃ _, Value.hashableAll (provisionalExpectedKeys inputs fact) = true ∧
    ∃ _, Value.hashableAll (provisionalObservedKeys inputs fact table) = true ∧ _) ∧ _) ↔ _
  constructor
  · rintro ⟨entry, ⟨_, hexpected, _, hobserved, missing, hmissing, extra, hextra, expected, hsorted,
      observed, hsorted', he⟩, hne⟩
    cases he
    by_cases hpass : missing = [] ∧ extra = [] ∧
        (Value.distinct (provisionalObservedKeys inputs fact table)).length = table.rows.length
    · obtain ⟨rfl, rfl, honce⟩ := hpass
      exact {
        hashable := ⟨hexpected, hobserved⟩
        orderable := ⟨(Value.sortedValues_eq_ok.1 hsorted).1, (Value.sortedValues_eq_ok.1 hsorted').1⟩
        missing := Value.filter_distinct_eq_nil.1 (Value.sortedValues_eq_nil.1 hmissing)
        extra := Value.filter_distinct_eq_nil.1 (Value.sortedValues_eq_nil.1 hextra)
        once := honce }
    · exact absurd (if_neg hpass) hne
  · intro h
    refine ⟨_, ⟨(), h.hashable.1, (), h.hashable.2, [], ?_, [], ?_, _,
      Value.sortedValues_eq_ok.2 ⟨h.orderable.1, rfl⟩, _,
      Value.sortedValues_eq_ok.2 ⟨h.orderable.2, rfl⟩, rfl⟩, ?_⟩
    · exact Value.sortedValues_eq_nil.2 (Value.filter_distinct_eq_nil.2 h.missing)
    · exact Value.sortedValues_eq_nil.2 (Value.filter_distinct_eq_nil.2 h.extra)
    · intro hf
      have honce : (Value.distinct (grainKeys (firstGrain inputs fact) table.rows)).length =
        table.rows.length := h.once
      simp [honce] at hf

theorem provisionalDuplicates_notFailed (h : GrainExact inputs fact table) :
    (provisionalDuplicates inputs fact table).status ≠ .fail := by
  have hzero : table.rows.length -
      (Value.distinct (grainKeys (firstGrain inputs fact) table.rows)).length = 0 := by
    have := h.once
    rw [provisionalObservedKeys] at this
    omega
  simp [provisionalDuplicates, hzero]

theorem provisionalValues_notFailed : NotFailed (provisionalValues inputs target py fact table) ↔
      (∀ item ∈ dictOf (dimensionItems inputs),
        Value.hashableAll ((dimensionMembers inputs target item.1).map Prod.fst) = true) ∧
      ∀ expected ∈ inputs.sourceTruth.facts,
        provisionalValueErrors inputs target py fact table expected = .ok [] := by
  simp only [NotFailed, provisionalValues, bind_eq_ok]
  constructor
  · rintro ⟨entry, ⟨_, hmembers, errors, herrors, he⟩, hne⟩
    cases he
    exact ⟨fun item hitem => Value.requireHashable_eq_ok.1 (forM_eq_ok.1 hmembers item hitem),
      mapM_flatten_eq_nil.1 ⟨errors, herrors, by simpa using hne⟩⟩
  · rintro ⟨hmembers, hvalues⟩
    obtain ⟨errors, herrors, hnil⟩ := mapM_flatten_eq_nil.2 hvalues
    have hhash := forM_eq_ok.2 fun item hitem =>
      Value.requireHashable_eq_ok (u := ()) |>.2 (hmembers item hitem)
    exact ⟨_, ⟨(), hhash, errors, herrors, rfl⟩, by simp [hnil]⟩

theorem provisionalForeignKeys_notFailed :
    NotFailed (provisionalForeignKeys inputs target py fact table) ↔
      ∀ foreignKey ∈ fact.dimensionForeignKeys,
        provisionalOrphans inputs target py table foreignKey = .ok [] := by
  simp only [NotFailed, provisionalForeignKeys, bind_eq_ok]
  constructor
  · rintro ⟨entry, ⟨orphans, horphans, he⟩, hne⟩
    cases he
    exact mapM_flatten_eq_nil.1 ⟨orphans, horphans, by simpa using hne⟩
  · intro h
    obtain ⟨orphans, horphans, hnil⟩ := mapM_flatten_eq_nil.2 h
    exact ⟨_, ⟨orphans, horphans, rfl⟩, by simp [hnil]⟩

theorem exists_keyUniqueness : (∃ entry, keyUniqueness inputs target = .ok entry) ↔
      ∀ item ∈ dictOf (dimensionItems inputs), ∃ errors, keyErrors target item = .ok errors := by
  simp only [keyUniqueness, bind_eq_ok]
  rw [← exists_mapM_eq_ok]
  constructor
  · rintro ⟨_, errors, herrors, -⟩
    exact ⟨errors, herrors⟩
  · rintro ⟨errors, herrors⟩
    exact ⟨_, errors, herrors, rfl⟩

theorem provisionalDates_notFailed : (provisionalDates inputs target py).status ≠ .fail ↔
      ∀ spec ∈ inputs.compiledPlan.dimensionSpecs, spec.role = .date →
        ∀ date ∈ inputs.sourceTruth.facts.filterMap SourceTruthFact.dateValue,
          date ∈ observedDates target py spec := by
  simp only [provisionalDates, ne_eq, statusOf_eq_fail, not_not, flatMap_eq_nil_iff,
    mem_filter, decide_eq_true_eq, filter_eq_nil_iff, mem_sortedSet, and_imp]

theorem provisionalQuantities_notFailed :
    (∃ entries, provisionalQuantities inputs target py fact table = .ok entries ∧
        ∀ e ∈ entries, e.status ≠ .fail) ↔
      ∃ items, looseAggregates inputs = .ok items ∧ ∀ aggregate ∈ items, ∃ failures,
        looseAggregateFailures inputs target py fact table aggregate = .ok failures ∧
          failures.getD [] = [] := by
  simp only [provisionalQuantities, bind_eq_ok]
  constructor
  · rintro ⟨entries, ⟨items, hitems, outcomes, houtcomes, he⟩, hne⟩
    cases he
    rw [forall_mem_cons] at hne
    have hfailures : (outcomes.flatMap fun outcome => outcome.getD []) = [] := by
      by_contra hsome
      have hstatus := hne.1
      -- A pending aggregate is an item, so that aggregates are declared.
      have hdeclared : outcomes.any Option.isNone = true → (declaredAggregates inputs).truthy = true := by
        intro hpending
        have hne' : items ≠ [] := by
          rintro rfl
          cases houtcomes
          simp at hpending
        unfold looseAggregates at hitems
        unfold declaredAggregates
        cases hget : getItem inputs.sourceTruth.expectedAggregates "aggregates" with
        | none =>
          rw [hget] at hitems
          cases hitems
          exact absurd rfl hne'
        | some value =>
          rw [hget] at hitems
          exact Value.truthy_of_iterate hitems hne'
      have hnot : ¬ (outcomes.any Option.isNone = true ∧
          (declaredAggregates inputs).truthy = false) := by
        rintro ⟨hpending, hfalse⟩
        rw [hdeclared hpending] at hfalse
        cases hfalse
      simp only [if_neg hnot, ne_eq, statusOf_eq_fail, not_not] at hstatus
      exact hsome hstatus
    refine ⟨items, hitems, fun aggregate ha => ?_⟩
    obtain ⟨outcome, ho, hout⟩ := exists_right_of_forall₂ (mapM_eq_ok.1 houtcomes) ha
    exact ⟨outcome, hout, flatMap_eq_nil_iff.1 hfailures outcome ho⟩
  · rintro ⟨items, hitems, hall⟩
    obtain ⟨outcomes, houtcomes⟩ := exists_mapM_eq_ok.2 fun aggregate ha =>
      (hall aggregate ha).imp fun _ h => h.1
    have hfailures : (outcomes.flatMap fun outcome => outcome.getD []) = [] := by
      rw [flatMap_eq_nil_iff]
      intro outcome ho
      obtain ⟨aggregate, ha, hout⟩ := exists_left_of_forall₂ (mapM_eq_ok.1 houtcomes) ho
      obtain ⟨failures, hf, hnil⟩ := hall aggregate ha
      rw [hout] at hf
      rwa [Except.ok.inj hf]
    refine ⟨_, ⟨items, hitems, outcomes, houtcomes, rfl⟩, ?_⟩
    simp only [hfailures, filter_nil, forall_mem_cons, statusOf, not_mem_nil,
      false_imp_iff, implies_true, and_true]
    constructor
    · split <;> simp
    · rw [if_neg (by simp)]
      split <;> simp

end

namespace ValidationService

variable {service : ValidationService}

theorem mem_entryDiscrepancies {entry : CheckEntry} {d : ValidationDiscrepancy}
    (h : d ∈ service.entryDiscrepancies entry) : entry.status = .fail ∧ d.checkId = entry.checkId ∧
      d.discrepancyId ∈ (service.entryCheck entry).discrepancyIds := by
  obtain ⟨discrepancyId, hid, rfl⟩ := mem_map.1 h
  refine ⟨?_, rfl, hid⟩
  unfold discrepancyIds at hid
  split at hid
  · assumption
  · exact absurd hid not_mem_nil

theorem exists_mem_entryDiscrepancies {entry : CheckEntry} (h : entry.status = .fail) :
    ∃ d ∈ service.entryDiscrepancies entry, d.checkId = entry.checkId ∧
      d.discrepancyId ∈ (service.entryCheck entry).discrepancyIds := by
  obtain ⟨discrepancyId, hid⟩ : ∃ discrepancyId, discrepancyId ∈ service.discrepancyIds
      entry.checkId entry.status entry.expected entry.observed entry.affectedRefs := by
    rw [discrepancyIds, if_pos h]
    exact ⟨_, mem_singleton_self _⟩
  exact ⟨_, mem_map.2 ⟨discrepancyId, hid, rfl⟩, rfl, hid⟩

/-- The discrepancy that a replacement adds. -/
def addedDiscrepancies (service : ValidationService) (checks : List ValidationCheck)
    (replacement : Replacement) : List ValidationDiscrepancy :=
  match checks.find? fun check => check.checkId = replacement.checkId with
  | some old => service.replacementDiscrepancies old replacement
  | none => []

theorem addedDiscrepancies_replaced {checks : List ValidationCheck} {first other : Replacement}
    (hne : other.checkId ≠ first.checkId) :
    service.addedDiscrepancies (checks.map (service.replacedBy [first])) other =
      service.addedDiscrepancies checks other := by
  have hfind : ((checks.map (service.replacedBy [first])).find?
      fun check => check.checkId = other.checkId) =
      (checks.find? fun check => check.checkId = other.checkId).map (service.replacedBy [first]) := by
    rw [find?_map]
    congr 2
    funext check
    simp
  rw [addedDiscrepancies, addedDiscrepancies, hfind]
  cases hold : checks.find? fun check => check.checkId = other.checkId with
  | none => rfl
  | some old =>
    have hid : old.checkId = other.checkId := by simpa using find?_some hold
    have hsame : service.replacedBy [first] old = old := by
      have : ¬ first.checkId = old.checkId := fun h => hne (by rw [h, hid])
      simp [replacedBy, this]
    rw [Option.map_some, hsame]

theorem replaceChecks_discrepancies {ledger : Ledger} {replacements : List Replacement}
    (hn : (ledger.checks.map ValidationCheck.checkId).Nodup)
    (hr : (replacements.map Replacement.checkId).Nodup) :
    (service.replaceChecks ledger replacements).discrepancies = ledger.discrepancies ++
      replacements.flatMap (service.addedDiscrepancies ledger.checks) := by
  induction replacements generalizing ledger with
  | nil => simp [replaceChecks]
  | cons first rest ih =>
    rw [map_cons, nodup_cons] at hr
    have hchecks : (service.replaceCheck ledger first).checks =
        ledger.checks.map (service.replacedBy [first]) := replaceCheck_checks hn
    have hids : ((service.replaceCheck ledger first).checks.map ValidationCheck.checkId).Nodup := by
      rw [hchecks, map_checkId_replacedBy]
      exact hn
    have hadded : (service.replaceCheck ledger first).discrepancies =
        ledger.discrepancies ++ service.addedDiscrepancies ledger.checks first := by
      unfold replaceCheck addedDiscrepancies
      cases ledger.checks.find? fun check => check.checkId = first.checkId with
      | none => simp
      | some old => rfl
    rw [replaceChecks, foldl_cons, ← replaceChecks, ih hids hr.2, hadded, flatMap_cons,
      append_assoc]
    congr 2
    rw [hchecks]
    refine flatMap_congr fun other hother => addedDiscrepancies_replaced fun h => hr.1 ?_
    exact h ▸ mem_map_of_mem hother

/-! ## The passes over a target -/

section

variable {py : Interpreter} {inputs : ValidationInputs} {target : TargetSnapshot} {fact : FactSpec}
  {table : TargetTableSnapshot}

/-- No check fails that the second pass replaces. -/
def NoneReplacedFails (entries : List CheckEntry) : Prop :=
  ∀ e ∈ entries, e.checkId ∈ replacedIds → e.status ≠ .fail

theorem factEntries_exact_iff :
    (∃ entries, factEntries inputs target py fact table = .ok entries ∧ NoneReplacedFails entries) ↔
      ProvisionallyExact py inputs target fact table := by
  simp only [factEntries, bind_eq_ok]
  constructor
  · rintro ⟨entries, ⟨count, hcount, grain, hgrain, values, hvalues, foreignKeys, hkeys, uniqueness,
      hunique, quantities, hquantities, he⟩, hnone⟩
    cases he
    have hfails : ∀ {id : String} {e : CheckEntry}, Tagged id e → id ∈ replacedIds →
        e ∈ [count, grain, provisionalDuplicates inputs fact table, values, foreignKeys, uniqueness,
          provisionalDates inputs target py] ++ quantities ++ lineageEntries inputs target py →
        e.status ≠ .fail := fun htag hid hmem => hnone _ hmem (htag.1 ▸ hid)
    have hnotGrain := provisionalGrain_notFailed.1 ⟨grain, hgrain,
      hfails (provisionalGrain_tagged hgrain) (by decide +kernel) (by simp)⟩
    obtain ⟨hmembers, hexact⟩ := provisionalValues_notFailed.1 ⟨values, hvalues,
      hfails (provisionalValues_tagged hvalues) (by decide +kernel) (by simp)⟩
    exact {
      count := provisionalCount_notFailed.1 ⟨count, hcount,
        hfails (provisionalCount_tagged hcount) (by decide +kernel) (by simp)⟩
      grain := hnotGrain
      members := hmembers
      values := hexact
      orphans := provisionalForeignKeys_notFailed.1 ⟨foreignKeys, hkeys,
        hfails (provisionalForeignKeys_tagged hkeys) (by decide +kernel) (by simp)⟩
      uniqueness := exists_keyUniqueness.1 ⟨uniqueness, hunique⟩
      dates := provisionalDates_notFailed.1
        (hnone _ (by simp) (by simp [provisionalDates, replacedIds]))
      aggregates := by
        refine provisionalQuantities_notFailed.1 ⟨quantities, hquantities, fun e he => ?_⟩
        obtain ⟨id, hid, htag⟩ := exists_left_of_forall₂ (provisionalQuantities_tagged hquantities) he
        refine hfails htag ?_ (by simp [he])
        have hall : ∀ id ∈ ["quantity_global", "quantity_slices"], id ∈ replacedIds := by
          decide +kernel
        exact hall id hid }
  · intro h
    obtain ⟨count, hcount, hcountStatus⟩ := provisionalCount_notFailed.2 h.count
    obtain ⟨grain, hgrain, hgrainStatus⟩ := provisionalGrain_notFailed.2 h.grain
    obtain ⟨values, hvalues, hvaluesStatus⟩ := provisionalValues_notFailed.2 ⟨h.members, h.values⟩
    obtain ⟨foreignKeys, hkeys, hkeysStatus⟩ := provisionalForeignKeys_notFailed.2 h.orphans
    obtain ⟨uniqueness, hunique⟩ := exists_keyUniqueness.2 h.uniqueness
    obtain ⟨quantities, hquantities, hquantitiesStatus⟩ :=
      provisionalQuantities_notFailed.2 h.aggregates
    refine ⟨_, ⟨count, hcount, grain, hgrain, values, hvalues, foreignKeys, hkeys, uniqueness,
      hunique, quantities, hquantities, rfl⟩, ?_⟩
    intro e he hid
    simp only [cons_append, nil_append, mem_cons,
      mem_append] at he
    rcases he with rfl | rfl | rfl | rfl | rfl | rfl | rfl | he | he
    · exact hcountStatus
    · exact hgrainStatus
    · exact provisionalDuplicates_notFailed h.grain
    · exact hvaluesStatus
    · exact hkeysStatus
    · rw [(keyUniqueness_tagged hunique).1] at hid
      exact absurd hid (by decide +kernel)
    · exact provisionalDates_notFailed.2 h.dates
    · exact hquantitiesStatus e he
    · simp only [lineageEntries, mem_cons, not_mem_nil, or_false] at he
      rcases he with rfl | rfl <;> simp [replacedIds] at hid

end

/-- Everything that the second pass reads can be hashed, compared and summed. -/
structure Evaluable (py : Interpreter) (inputs : ValidationInputs) (target : TargetSnapshot) :
    Prop where
  members : ∀ item ∈ dictOf (dimensionItems inputs),
    Value.hashableAll ((dimensionMembers inputs target item.1).map Prod.fst) = true ∧
    Value.hashableAll ((dimensionMembers inputs target item.1).map fun m => m.2.normal) = true
  grainKeys : ∀ fact ∈ inputs.compiledPlan.factSpecs,
    Value.hashableAll (expectedGrainKeys inputs fact) = true ∧
    Value.hashableAll (observedGrainKeys inputs target fact) = true
  foreignKeys : ∀ fact ∈ inputs.compiledPlan.factSpecs, ∀ foreignKey ∈ fact.dimensionForeignKeys,
    Value.hashableAll ((factRows target fact).map fun row =>
      (row.get foreignKey.factColumn).normal) = true
  values : ∀ fact ∈ inputs.compiledPlan.factSpecs, ∀ expected ∈ expectedFacts inputs fact,
    ∃ errors, factValueErrors inputs target py fact expected = .ok errors
  aggregates : ∃ scopes, aggregateScopes inputs py = .ok scopes ∧ ∀ scope ∈ scopes,
    ∃ failures, aggregateFailures inputs target py scope = .ok failures

section

variable {py : Interpreter} {inputs : ValidationInputs} {target : TargetSnapshot}

theorem exists_factBusinessErrors {fact : FactSpec} :
    (∃ errors, factBusinessErrors inputs target py fact = .ok errors) ↔
      (Value.hashableAll (expectedGrainKeys inputs fact) = true ∧
        Value.hashableAll (observedGrainKeys inputs target fact) = true) ∧
      (∀ foreignKey ∈ fact.dimensionForeignKeys,
        Value.hashableAll ((factRows target fact).map fun row =>
          (row.get foreignKey.factColumn).normal) = true) ∧ ∀ expected ∈ expectedFacts inputs fact,
        ∃ errors, factValueErrors inputs target py fact expected = .ok errors := by
  simp only [factBusinessErrors, requireGrainHashes, bind_eq_ok, Value.requireHashable_eq_ok,
    requireForeignKeyHashes]
  rw [← exists_mapM_eq_ok]
  constructor
  · rintro ⟨_, _, ⟨_, hexpected, hobserved⟩, errors, herrors, _, hkeys, -⟩
    exact ⟨⟨hexpected, hobserved⟩, fun foreignKey hmem =>
      Value.requireHashable_eq_ok.1 (forM_eq_ok.1 hkeys foreignKey hmem), errors, herrors⟩
  · rintro ⟨⟨hexpected, hobserved⟩, hkeys, errors, herrors⟩
    have hhash := forM_eq_ok.2 fun foreignKey hmem =>
      Value.requireHashable_eq_ok (u := ()) |>.2 (hkeys foreignKey hmem)
    exact ⟨_, (), ⟨(), hexpected, hobserved⟩, errors, herrors, (), hhash, rfl⟩

theorem exists_multiFactReplacements :
    (∃ replacements, multiFactReplacements inputs target py = .ok replacements) ↔
      Evaluable py inputs target := by
  simp only [multiFactReplacements, requireDimensionHashes, bind_eq_ok]
  constructor
  · rintro ⟨_, _, hmembers, business, hbusiness, scopes, hscopes, failures, hfailures, -⟩
    have hfacts := fun fact hfact =>
      exists_factBusinessErrors.1 (exists_mapM_eq_ok.1 ⟨business, hbusiness⟩ fact hfact)
    exact {
      members := fun item hitem => by
        have hhash := forM_eq_ok.1 hmembers item hitem
        simp only [bind_eq_ok, Value.requireHashable_eq_ok] at hhash
        obtain ⟨_, hfst, hsnd⟩ := hhash
        exact ⟨hfst, hsnd⟩
      grainKeys := fun fact hfact => (hfacts fact hfact).1
      foreignKeys := fun fact hfact => (hfacts fact hfact).2.1
      values := fun fact hfact => (hfacts fact hfact).2.2
      aggregates := ⟨scopes, hscopes, exists_mapM_eq_ok.1 ⟨failures, hfailures⟩⟩ }
  · intro h
    have hmembers : (dictOf (dimensionItems inputs)).forM (fun item => do
        Value.requireHashable ((dimensionMembers inputs target item.1).map Prod.fst)
        Value.requireHashable
          ((dimensionMembers inputs target item.1).map fun m : Value × Value => m.2.normal)) =
            .ok () := by
      rw [forM_eq_ok]
      intro item hitem
      simp only [bind_eq_ok, Value.requireHashable_eq_ok]
      exact ⟨(), h.members item hitem⟩
    obtain ⟨business, hbusiness⟩ := exists_mapM_eq_ok.2 fun fact hfact =>
      exists_factBusinessErrors.2
        ⟨h.grainKeys fact hfact, h.foreignKeys fact hfact, h.values fact hfact⟩
    obtain ⟨scopes, hscopes, hall⟩ := h.aggregates
    obtain ⟨failures, hfailures⟩ := exists_mapM_eq_ok.2 hall
    exact ⟨_, (), hmembers, business, hbusiness, scopes, hscopes, failures, hfailures, rfl⟩

end

/-- The types of all instances are known. -/
def ClosedModel (inputs : ValidationInputs) : Prop :=
  ∀ item ∈ inputs.canonicalModel.instances,
    (canonicalType inputs item.canonicalEntityTypeId).isSome = true

theorem exists_lookupKey {β : Type} {key : String} {item : Option β} :
    (∃ value, AnalyticalCompilerService.lookupKey key item = .ok value) ↔ item.isSome = true := by
  cases item <;> simp [AnalyticalCompilerService.lookupKey]

variable {py : Interpreter} {inputs : ValidationInputs}

theorem exists_artifactEntries :
    (∃ artifacts, artifactEntries inputs py = .ok artifacts) ↔ ClosedModel inputs := by
  have htypes : (∃ types, instanceTypes inputs = .ok types) ↔ ClosedModel inputs := by
    rw [instanceTypes, exists_mapM_eq_ok]
    exact forall₂_congr fun _ _ => exists_lookupKey
  rw [← htypes]
  simp only [artifactEntries, bind_eq_ok]
  constructor
  · rintro ⟨_, types, h, -⟩
    exact ⟨types, h⟩
  · rintro ⟨types, h⟩
    exact ⟨_, types, h, rfl⟩

variable (py inputs) in
/-- A target that could not be read, or one of which both passes can be computed and the first
finds nothing that the second reports again. -/
def TargetExact : Except String TargetSnapshot → Prop
  | .error _ => True
  | .ok target => Evaluable py inputs target ∧ ∀ fact table,
      firstFact inputs target = some (fact, table) → ProvisionallyExact py inputs target fact table

theorem singleFactEntries_exact_iff {target : TargetSnapshot} :
    (∃ entries, singleFactEntries inputs target py = .ok entries ∧ NoneReplacedFails entries) ↔
      ∀ fact table, firstFact inputs target = some (fact, table) →
        ProvisionallyExact py inputs target fact table := by
  unfold singleFactEntries
  cases hfirst : firstFact inputs target with
  | none =>
    refine iff_of_true ⟨_, rfl, ?_⟩ fun _ _ h => by cases h
    intro e he hid
    simp only [mem_cons, not_mem_nil, or_false] at he
    rcases he with rfl | rfl
    · simp [targetTableSet, replacedIds] at hid
    · simp [targetUnavailable]
  | some first =>
    obtain ⟨fact, table⟩ := first
    have hset : ∀ entries, NoneReplacedFails (targetTableSet inputs target :: entries) ↔
        NoneReplacedFails entries := by
      intro entries
      unfold NoneReplacedFails
      rw [forall_mem_cons]
      refine and_iff_right fun hid => ?_
      simp [targetTableSet, replacedIds] at hid
    simp only [bind_eq_ok, Option.some.injEq, Prod.mk.injEq]
    rw [show (∀ f t, fact = f ∧ table = t → ProvisionallyExact py inputs target f t) ↔
        ProvisionallyExact py inputs target fact table from
      ⟨fun h => h _ _ ⟨rfl, rfl⟩, fun h _ _ he => he.1 ▸ he.2 ▸ h⟩, ← factEntries_exact_iff]
    constructor
    · rintro ⟨_, ⟨entries, hentries, he⟩, hnone⟩
      cases he
      exact ⟨entries, hentries, (hset entries).1 hnone⟩
    · rintro ⟨entries, hentries, hnone⟩
      exact ⟨_, ⟨entries, hentries, rfl⟩, (hset entries).2 hnone⟩

theorem targetParts_exact_iff {target : Except String TargetSnapshot} :
    (∃ entries replacements, targetParts py inputs target = .ok (entries, replacements) ∧
        NoneReplacedFails entries) ↔ TargetExact py inputs target := by
  cases target with
  | error error =>
    refine iff_of_true ⟨_, _, rfl, ?_⟩ trivial
    intro e he _
    have hall : ∀ e ∈ unavailableEntries error, e.status = .notEvaluated := by
      simp [unavailableEntries, targetUnavailable]
    simp [hall e he]
  | ok target =>
    rw [TargetExact, ← exists_multiFactReplacements, ← singleFactEntries_exact_iff]
    simp only [targetParts, bind_eq_ok, pure, Except.pure, Except.ok.injEq, Prod.mk.injEq]
    constructor
    · rintro ⟨_, _, ⟨entries, he, replacements, hr, rfl, rfl⟩, hnone⟩
      exact ⟨⟨replacements, hr⟩, entries, he, hnone⟩
    · rintro ⟨⟨replacements, hr⟩, entries, he, hnone⟩
      exact ⟨_, _, ⟨entries, he, replacements, hr, rfl, rfl⟩, hnone⟩

theorem gateStatus_eq_iff {a b : List ValidationStatus} :
    gateStatus a = gateStatus b ↔ overallStatus a = overallStatus b := by
  unfold gateStatus overallStatus
  by_cases ha : a.any (· = .fail) <;> by_cases hb : b.any (· = .fail) <;>
    by_cases ha' : a.any ValidationStatus.isPending <;>
    by_cases hb' : b.any ValidationStatus.isPending <;> simp [ha, hb, ha', hb']

/-- The overall status of all statuses settles the verdict of some of them. -/
theorem gateStatus_append_overall {some all : List ValidationStatus} (h : some ⊆ all) :
    gateStatus (some ++ [overallStatus all]) = gateStatus all := by
  unfold gateStatus overallStatus
  by_cases hf : all.any (· = .fail)
  · simp [hf]
  · have hf' : some.any (· = .fail) = false := by
      rw [any_eq_false]
      intro s hs he
      exact hf (any_eq_true.2 ⟨s, h hs, he⟩)
    by_cases hp : all.any ValidationStatus.isPending
    · simp [hf, hf', hp, ValidationStatus.isPending]
    · have hp' : some.any ValidationStatus.isPending = false := by
        rw [any_eq_false]
        intro s hs he
        exact hp (any_eq_true.2 ⟨s, h hs, he⟩)
      simp [hf, hf', hp, hp', ValidationStatus.isPending]

/-! ## The discrepancies and the required statuses of a report -/

section Report

variable {inputs : ValidationInputs} {target : Except String TargetSnapshot}
  {artifacts entries : List CheckEntry} {replacements : List Replacement}

variable {e : CheckEntry} {d : ValidationDiscrepancy}

theorem mem_addedDiscrepancies {es : List CheckEntry} {replacement : Replacement}
    (hn : (es.map CheckEntry.checkId).Nodup) :
    d ∈ service.addedDiscrepancies (es.map service.entryCheck) replacement ↔
      ∃ e ∈ es, e.checkId = replacement.checkId ∧
        d ∈ service.replacementDiscrepancies (service.entryCheck e) replacement := by
  unfold addedDiscrepancies
  rw [find?_map]
  cases hfind : es.find? ((fun check => decide (check.checkId = replacement.checkId)) ∘
      service.entryCheck) with
  | none =>
    refine iff_of_false not_mem_nil ?_
    rintro ⟨e, he, hid, -⟩
    exact find?_eq_none.1 hfind e he (decide_eq_true hid)
  | some e =>
    have hfound := find?_some hfind
    have hid : e.checkId = replacement.checkId := of_decide_eq_true hfound
    have he := mem_of_find?_eq_some hfind
    constructor
    · intro hd
      exact ⟨e, he, hid, hd⟩
    · rintro ⟨e', he', hid', hd⟩
      rwa [inj_on_of_nodup_map hn he he' (hid.trans hid'.symm)]

variable (service inputs artifacts entries replacements) in
/-- The checks after those of the target. -/
def lastEntries : List CheckEntry :=
  closingEntries inputs ++ [service.gateEntry inputs artifacts entries replacements]

abbrev Emits.report (_ : Emits service.py inputs target artifacts entries replacements) :
    ValidationReport :=
  service.emittedReport inputs artifacts entries replacements

abbrev Emits.last (_ : Emits service.py inputs target artifacts entries replacements) :
    List CheckEntry :=
  service.lastEntries inputs artifacts entries replacements

variable (h : Emits service.py inputs target artifacts entries replacements)

section
include h

theorem Emits.checks_eq : h.report.checks =
      (artifacts ++ entries).map (service.finalCheck replacements) ++
        h.last.map service.entryCheck := by
  have hclosing : (closingEntries inputs).map (service.finalCheck replacements) =
      (closingEntries inputs).map service.entryCheck :=
    map_congr_left fun e he => finalCheck_of_notMem (h.closing_notMem he)
  change service.emittedChecks inputs artifacts entries replacements ++
    [service.entryCheck (service.gateEntry inputs artifacts entries replacements)] = _
  rw [emittedChecks, Emits.last, lastEntries]
  simp only [map_append, hclosing, map_singleton, append_assoc]

theorem Emits.allIds_nodup : ((artifacts ++ entries ++ h.last).map CheckEntry.checkId).Nodup := by
  rw [Emits.last, lastEntries, ← append_assoc, map_append, nodup_append]
  refine ⟨h.ids_nodup, by simp, ?_⟩
  intro id hid last hlast
  obtain rfl : "no_blocking_discrepancy" = last := (mem_singleton.1 hlast).symm
  rintro rfl
  have hgate : "no_blocking_discrepancy" ∉ artifactIds ++ targetIds ++
      ["semantic_downstream_cross_check", "monetary_reconciliation"] := by decide +kernel
  refine hgate ?_
  rw [map_append, map_append, (artifactEntries_spec h.artifacts_eq).1,
    h.entries_tagged.1] at hid
  rcases mem_append.1 hid with hid | hid
  · rcases mem_append.1 hid with hid | hid
    · exact mem_append_left _ (mem_append_left _ hid)
    · refine mem_append_left _ (mem_append_right _ ?_)
      cases target with
      | error error => exact hid
      | ok target =>
        change _ ∈ firstPassIds inputs target at hid
        unfold firstPassIds at hid
        split at hid
        · exact hid
        · exact absurd hid (by decide +kernel)
  · exact mem_append_right _ hid

theorem Emits.firstIds_nodup : ((artifacts ++ entries).map CheckEntry.checkId).Nodup := by
  have hids := h.ids_nodup
  rw [map_append, nodup_append] at hids
  exact hids.1

theorem Emits.discrepancies_eq : h.report.discrepancies =
      (artifacts ++ entries).flatMap service.entryDiscrepancies ++ replacements.flatMap
          (service.addedDiscrepancies ((artifacts ++ entries).map service.entryCheck)) ++
        h.last.flatMap service.entryDiscrepancies := by
  have hchecks : (service.addChecks ⟨[], []⟩ (artifacts ++ entries)).checks =
      (artifacts ++ entries).map service.entryCheck := by
    rw [addChecks_checks, nil_append]
  have hn : ((service.addChecks ⟨[], []⟩ (artifacts ++ entries)).checks.map
      ValidationCheck.checkId).Nodup := by
    rw [hchecks, map_map]
    exact h.firstIds_nodup
  change service.emittedDiscrepancies inputs artifacts entries replacements ++
    service.entryDiscrepancies (service.gateEntry inputs artifacts entries replacements) = _
  rw [emittedDiscrepancies, replaceChecks_discrepancies hn h.replacements_nodup, hchecks,
    addChecks_discrepancies, nil_append, append_assoc]
  congr 1
  rw [Emits.last, lastEntries, flatMap_append, flatMap_singleton]

theorem Emits.mem_discrepancies : d ∈ h.report.discrepancies ↔
    (∃ e ∈ artifacts ++ entries, d ∈ service.entryDiscrepancies e) ∨
    (∃ r ∈ replacements, ∃ e ∈ artifacts ++ entries, e.checkId = r.checkId ∧
      d ∈ service.replacementDiscrepancies (service.entryCheck e) r) ∨
    ∃ e ∈ h.last, d ∈ service.entryDiscrepancies e := by
  rw [h.discrepancies_eq, mem_append, mem_append, or_assoc]
  simp only [mem_flatMap, mem_addedDiscrepancies h.firstIds_nodup]

end

variable (inputs artifacts entries replacements) in
/-- The final statuses of what the policy requires. -/
def policyStatuses : List ValidationStatus :=
  ((artifacts ++ entries ++ [semanticCrossCheck inputs]).filter fun e =>
    e.checkId ∈ inputs.policy.requiredCheckIds).map (finalStatus replacements)

variable (inputs target) in
/-- The ids of the entries that a policy can require. -/
def emittedIds : List String :=
  artifactIds ++ targetPartIds inputs target ++
    ["semantic_downstream_cross_check", "no_blocking_discrepancy"]

include h in
theorem Emits.required_report_eq : h.report.required =
      ((artifacts ++ entries ++ [semanticCrossCheck inputs]).filter fun e =>
        e.checkId ∈ inputs.policy.requiredCheckIds).map (service.finalCheck replacements) ++
      [service.entryCheck (service.gateEntry inputs artifacts entries replacements)].filter
        fun check => check.checkId ∈ inputs.policy.requiredCheckIds := by
  have hswap : (fun check : ValidationCheck => check.required && decide (check.checkId ∈
      h.report.policy.requiredCheckIds)) =
      fun check => decide (check.checkId ∈ inputs.policy.requiredCheckIds) && check.required :=
    funext fun check => Bool.and_comm _ _
  rw [ValidationReport.required, hswap, ← filter_filter, h.requirable_eq, filter_append,
    filter_map]
  congr 3
  funext e
  simp

variable (inputs artifacts entries replacements) in
def gateStatusIfRequired : List ValidationStatus :=
  if "no_blocking_discrepancy" ∈ inputs.policy.requiredCheckIds then
    [overallStatus (gateStatuses inputs artifacts entries replacements)]
  else []

include h in
theorem Emits.blocking_report_eq : h.report.blocking =
      policyStatuses inputs artifacts entries replacements ++
        gateStatusIfRequired inputs artifacts entries replacements := by
  have hall : ∀ check ∈ h.report.required,
      decide (check.severity = .g6Blocking) = true := by
    intro check hcheck
    rw [h.required_report_eq] at hcheck
    rcases mem_append.1 hcheck with hcheck | hcheck
    · obtain ⟨e, he, rfl⟩ := mem_map.1 hcheck
      rw [finalCheck_severity, h.severity_eq (mem_filter.1 he).1]
      rfl
    · rw [mem_singleton.1 (mem_filter.1 hcheck).1]
      rfl
  rw [ValidationReport.blocking, filter_eq_self.2 hall, h.required_report_eq, map_append,
    map_map, policyStatuses]
  congr 1
  · exact map_congr_left fun e _ => finalCheck_status _ _
  · have hid : (service.entryCheck
        (service.gateEntry inputs artifacts entries replacements)).checkId =
        "no_blocking_discrepancy" := rfl
    rw [gateStatusIfRequired, filter_singleton, hid]
    by_cases hgate : "no_blocking_discrepancy" ∈ inputs.policy.requiredCheckIds
    · simp only [hgate, decide_true, cond_true, if_true, map_singleton, ← h.gateEntry_status]
      rfl
    · simp [hgate]

variable (inputs artifacts entries replacements) in
/-- The gate is decided by all checks, or the policy decides it the same way. -/
def SettlesVerdict : Prop :=
  "no_blocking_discrepancy" ∈ inputs.policy.requiredCheckIds ∨
    gateStatus (policyStatuses inputs artifacts entries replacements) =
      gateStatus (gateStatuses inputs artifacts entries replacements)

theorem settlesVerdict_iff : SettlesVerdict inputs artifacts entries replacements ↔
      gateStatus (gateStatuses inputs artifacts entries replacements) =
        gateStatus (policyStatuses inputs artifacts entries replacements ++
          gateStatusIfRequired inputs artifacts entries replacements) := by
  unfold SettlesVerdict gateStatusIfRequired
  by_cases hgate : "no_blocking_discrepancy" ∈ inputs.policy.requiredCheckIds
  · rw [if_pos hgate]
    refine iff_of_true (.inl hgate) (gateStatus_append_overall ?_).symm
    intro status hstatus
    obtain ⟨e, he, rfl⟩ := mem_map.1 hstatus
    exact mem_map_of_mem (mem_filter.1 he).1
  · rw [if_neg hgate, append_nil, or_iff_right hgate]
    exact eq_comm

section
include h

theorem Emits.mem_required_ids {id : String} : id ∈ h.report.required.map ValidationCheck.checkId ↔
      id ∈ emittedIds inputs target ∧ id ∈ inputs.policy.requiredCheckIds := by
  have hids : (artifacts ++ entries ++ [semanticCrossCheck inputs]).map CheckEntry.checkId ++
      ["no_blocking_discrepancy"] = emittedIds inputs target := by
    rw [map_append, map_append, (artifactEntries_spec h.artifacts_eq).1,
      h.entries_tagged.1, emittedIds, append_assoc]
    rfl
  rw [← hids, h.required_report_eq, map_append, mem_append, mem_append, or_and_right]
  refine or_congr ?_ ?_
  · simp only [mem_map, mem_filter, decide_eq_true_eq]
    constructor
    · rintro ⟨_, ⟨e, ⟨he, hid⟩, rfl⟩, rfl⟩
      exact ⟨⟨e, he, (finalCheck_checkId _ _).symm⟩, by simpa using hid⟩
    · rintro ⟨⟨e, he, rfl⟩, hid⟩
      exact ⟨_, ⟨e, ⟨he, hid⟩, rfl⟩, finalCheck_checkId _ _⟩
  · simp only [mem_map, mem_filter, mem_singleton, decide_eq_true_eq]
    constructor
    · rintro ⟨_, ⟨rfl, hid⟩, rfl⟩
      exact ⟨rfl, hid⟩
    · rintro ⟨rfl, hid⟩
      exact ⟨_, ⟨rfl, hid⟩, rfl⟩

theorem Emits.discrepancy_checkId_mem (hd : d ∈ h.report.discrepancies) :
    d.checkId ∈ (artifacts ++ entries ++ h.last).map CheckEntry.checkId := by
  rcases h.mem_discrepancies.1 hd with ⟨e, he, hd⟩ | ⟨r, -, e, he, hid, hd⟩ | ⟨e, he, hd⟩
  · rw [(mem_entryDiscrepancies hd).2.1]
    exact mem_map_of_mem (mem_append_left _ he)
  · obtain ⟨_, -, rfl⟩ := mem_map.1 hd
    exact mem_map.2 ⟨e, mem_append_left _ he, hid⟩
  · rw [(mem_entryDiscrepancies hd).2.1]
    exact mem_map_of_mem (mem_append_right _ he)

theorem Emits.checkIds_eq : h.report.checks.map ValidationCheck.checkId =
      (artifacts ++ entries ++ h.last).map CheckEntry.checkId := by
  have hfinal : ValidationCheck.checkId ∘ service.finalCheck replacements = CheckEntry.checkId :=
    funext fun e => finalCheck_checkId _ _
  rw [h.checks_eq]
  simp only [map_append, map_map, hfinal]
  rfl

/-- What the contract of the report asks of a run. -/
theorem Emits.statusIsDerived_iff : h.report.statusIsDerived = .ok () ↔ (h.report.discrepancies.map
        ValidationDiscrepancy.discrepancyId).Nodup ∧
      (∀ id ∈ inputs.policy.requiredCheckIds, id ∈ emittedIds inputs target) ∧
      SettlesVerdict inputs artifacts entries replacements := by
  have hverdict : SettlesVerdict inputs artifacts entries replacements ↔
      gateStatus (gateStatuses inputs artifacts entries replacements) =
        gateStatus h.report.blocking := by
    rw [h.blocking_report_eq]
    exact settlesVerdict_iff
  simp only [ValidationReport.statusIsDerived, bind_eq_ok, requireValid_eq_ok, h.checkIds_eq]
  constructor
  · rintro ⟨_, -, _, hn, _, -, _, hrequired, _, hstatus, -⟩
    exact ⟨hn, fun id hid => (h.mem_required_ids.1 (hrequired id hid)).1, hverdict.2 hstatus.1⟩
  · rintro ⟨hn, hrequired, hsettles⟩
    have hgate := hverdict.1 hsettles
    exact ⟨(), h.allIds_nodup, (), hn, (), fun d hd => h.discrepancy_checkId_mem hd, (),
      fun id hid => h.mem_required_ids.2 ⟨hrequired id hid, hid⟩, (),
      ⟨hgate, gateStatus_eq_iff.1 hgate⟩, congrArg (fun status : GateStatus => decide (status = .pass)) hgate⟩

end

/-! ## Coherence of a run -/

section
include h

theorem Emits.mem_entries (he : e ∈ artifacts ++ entries) (hid : e.checkId ∈ replacedIds) :
    e ∈ entries := by
  rcases mem_append.1 he with he | he
  · have hmem : e.checkId ∈ artifactIds := by
      rw [← (artifactEntries_spec h.artifacts_eq).1]
      exact mem_map_of_mem he
    have hdisjoint : ∀ id ∈ artifactIds, id ∉ replacedIds := by decide +kernel
    exact absurd hid (hdisjoint _ hmem)
  · exact he

theorem Emits.finalCheck_of_mem
    {r : Replacement} (hr : r ∈ replacements) (hid : e.checkId = r.checkId) :
    service.finalCheck replacements e = service.replaced (service.entryCheck e) r := by
  unfold finalCheck replacedBy
  cases hfind : replacements.find? fun r => r.checkId = (service.entryCheck e).checkId with
  | none =>
    have := find?_eq_none.1 hfind r hr
    exact absurd hid.symm (of_decide_eq_false (Bool.eq_false_of_not_eq_true this))
  | some r' =>
    have hid' : r'.checkId = e.checkId := of_decide_eq_true
      (find?_some (p := fun r : Replacement => decide (r.checkId = e.checkId)) hfind)
    rw [inj_on_of_nodup_map h.replacements_nodup (mem_of_find?_eq_some hfind) hr
      (hid'.trans hid)]

/-- **A replaced failure leaves a discrepancy that no check lists**, or one that is reported twice. -/
theorem Emits.not_fail_of_coherent (hn : (h.report.discrepancies.map
      ValidationDiscrepancy.discrepancyId).Nodup) (hlisted : ∀ d ∈ h.report.discrepancies,
      ∃ check ∈ h.report.checks,
        check.checkId = d.checkId ∧ check.status = .fail ∧ d.discrepancyId ∈ check.discrepancyIds)
    (he : e ∈ entries) {r : Replacement} (hr : r ∈ replacements) (hid : e.checkId = r.checkId) :
    e.status ≠ .fail := by
  intro hfail
  obtain ⟨d, hd, hdid, -⟩ := @exists_mem_entryDiscrepancies service _ hfail
  have hfirst : e ∈ artifacts ++ entries := mem_append_right _ he
  have hdmem : d ∈ (artifacts ++ entries).flatMap service.entryDiscrepancies :=
    mem_flatMap.2 ⟨e, hfirst, hd⟩
  rw [h.discrepancies_eq] at hn
  obtain ⟨check, hcheck, hcid, -, hcds⟩ := hlisted d (by
    rw [h.discrepancies_eq]
    exact mem_append_left _ (mem_append_left _ hdmem))
  have hfinal : check = service.finalCheck replacements e := by
    have hids := h.allIds_nodup
    rw [← h.checkIds_eq] at hids
    refine inj_on_of_nodup_map hids hcheck ?_ (by rw [hcid, hdid, finalCheck_checkId])
    rw [h.checks_eq]
    exact mem_append_left _ (mem_map_of_mem hfirst)
  rw [hfinal, h.finalCheck_of_mem hr hid] at hcds
  -- The same id is then in the discrepancies of the replacement.
  have hadded : d.discrepancyId ∈ (replacements.flatMap (service.addedDiscrepancies
      ((artifacts ++ entries).map service.entryCheck))).map ValidationDiscrepancy.discrepancyId := by
    refine mem_map.2 ⟨_, mem_flatMap.2 ⟨r, hr, (mem_addedDiscrepancies
      h.firstIds_nodup).2 ⟨e, hfirst, hid, mem_map.2 ⟨_, hcds, rfl⟩⟩⟩, rfl⟩
  rw [map_append, map_append, nodup_append] at hn
  have hboth := (nodup_append.1 hn.1).2.2
  exact hboth _ (mem_map_of_mem hdmem) _ hadded rfl

end

/-- Discrepancies of different checks have different digests. -/
def Distinguishes (service : ValidationService) : Prop :=
  ∀ {id id' : String} {expected observed expected' observed' : Value} {refs refs' : List String},
    service.discrepancyId id expected observed refs =
      service.discrepancyId id' expected' observed' refs' → id = id'

theorem map_flatMap_sublist {α β γ : Type} {f : α → List β} {g : β → γ} {k : α → γ}
    (h : ∀ a, ((f a).map g).Sublist [k a]) (xs : List α) :
    ((xs.flatMap f).map g).Sublist (xs.map k) := by
  induction xs with
  | nil => exact List.Sublist.slnil
  | cons x xs ih =>
    rw [flatMap_cons, map_append, map_cons]
    exact (h x).append ih

theorem discrepancyIds_length (checkId : String) (status : ValidationStatus)
    (expected observed : Value) (refs : List String) :
    service.discrepancyIds checkId status expected observed refs = [] ∨
      ∃ id, service.discrepancyIds checkId status expected observed refs = [id] := by
  unfold discrepancyIds
  split
  · exact .inr ⟨_, rfl⟩
  · exact .inl rfl

theorem entryDiscrepancies_sublist (e : CheckEntry) :
    ((service.entryDiscrepancies e).map ValidationDiscrepancy.checkId).Sublist [e.checkId] := by
  unfold entryDiscrepancies
  rcases @discrepancyIds_length service e.checkId e.status e.expected e.observed
    e.affectedRefs with h | ⟨id, h⟩
  · rw [h]
    exact nil_sublist _
  · rw [h]
    exact List.Sublist.refl _

theorem addedDiscrepancies_sublist (checks : List ValidationCheck) (r : Replacement) :
    ((service.addedDiscrepancies checks r).map ValidationDiscrepancy.checkId).Sublist
      [r.checkId] := by
  unfold addedDiscrepancies
  split
  · unfold replacementDiscrepancies replacementIds
    rcases @discrepancyIds_length service r.checkId r.status r.expected r.observed
      r.affectedRefs with h | ⟨id, h⟩
    · rw [h]
      exact nil_sublist _
    · rw [h]
      exact List.Sublist.refl _
  · exact nil_sublist _

include h in
theorem Emits.exists_digest (hd : d ∈ h.report.discrepancies) : ∃ expected observed refs,
      d.discrepancyId = "disc_" ++ service.discrepancyId d.checkId expected observed refs := by
  have hdigest : ∀ {checkId status expected observed refs id},
      id ∈ service.discrepancyIds checkId status expected observed refs →
      id = "disc_" ++ service.discrepancyId checkId expected.normal observed.normal refs := by
    intro checkId status expected observed refs id hid
    unfold discrepancyIds at hid
    split at hid
    · exact mem_singleton.1 hid
    · exact absurd hid not_mem_nil
  rcases h.mem_discrepancies.1 hd with ⟨e, -, hd⟩ | ⟨r, -, e, -, -, hd⟩ | ⟨e, -, hd⟩
  all_goals
    obtain ⟨id, hid, rfl⟩ := mem_map.1 hd
    exact ⟨_, _, _, hdigest hid⟩

theorem lastIds_notMem (he : e ∈ service.lastEntries inputs artifacts entries replacements) :
    e.checkId ∉ replacedIds := by
  have hids : (service.lastEntries inputs artifacts entries replacements).map CheckEntry.checkId =
      ["semantic_downstream_cross_check", "monetary_reconciliation", "no_blocking_discrepancy"] := rfl
  have hdisjoint : ∀ id ∈ ["semantic_downstream_cross_check", "monetary_reconciliation",
      "no_blocking_discrepancy"], id ∉ replacedIds := by decide +kernel
  exact hdisjoint _ (hids ▸ mem_map_of_mem he)

include h in
theorem Emits.unreplaced
    (hnone : NoneReplacedFails entries) (he : e ∈ artifacts ++ entries) (hfail : e.status = .fail) :
    e.checkId ∉ replacedIds :=
  fun hid => hnone e (h.mem_entries he hid) hid hfail

include h in
theorem Emits.discrepancyIds_nodup
    (hdistinct : service.Distinguishes) (hnone : NoneReplacedFails entries) :
    (h.report.discrepancies.map ValidationDiscrepancy.discrepancyId).Nodup := by
  have hids := h.allIds_nodup
  rw [map_append, nodup_append] at hids
  have hchecks : (h.report.discrepancies.map
      ValidationDiscrepancy.checkId).Nodup := by
    rw [h.discrepancies_eq, map_append, map_append, nodup_append, nodup_append]
    have hfirst := map_flatMap_sublist (service.entryDiscrepancies_sublist) (artifacts ++ entries)
    have hadded := map_flatMap_sublist (service.addedDiscrepancies_sublist
      ((artifacts ++ entries).map service.entryCheck)) replacements
    have hlast := map_flatMap_sublist (service.entryDiscrepancies_sublist)
      h.last
    refine ⟨⟨hids.1.sublist hfirst, h.replacements_nodup.sublist hadded, ?_⟩,
      hids.2.1.sublist hlast, ?_⟩
    · rintro id hid _ hid' rfl
      obtain ⟨d, hd, rfl⟩ := mem_map.1 hid
      obtain ⟨e, he, hd⟩ := mem_flatMap.1 hd
      obtain ⟨hfail, hcid, -⟩ := mem_entryDiscrepancies hd
      rw [hcid] at hid'
      exact h.unreplaced hnone he hfail (h.replacements_subset _ (hadded.subset hid'))
    · rintro id hid _ hid' rfl
      rcases mem_append.1 hid with hid | hid
      · exact hids.2.2 _ (hfirst.subset hid) _ (hlast.subset hid') rfl
      · obtain ⟨e, he, rfl⟩ := mem_map.1 (hlast.subset hid')
        exact lastIds_notMem he (h.replacements_subset _ (hadded.subset hid))
  refine List.Nodup.map_on ?_ (List.Nodup.of_map _ hchecks)
  intro d hd d' hd' heq
  obtain ⟨_, _, _, hid⟩ := h.exists_digest hd
  obtain ⟨_, _, _, hid'⟩ := h.exists_digest hd'
  rw [hid, hid', String.append_right_inj] at heq
  exact inj_on_of_nodup_map hchecks hd hd' (hdistinct heq)

theorem gateStatus_ne_fail {statuses : List ValidationStatus} :
    gateStatus statuses ≠ .fail ↔ (!statuses.any (· = .fail)) = true := by
  unfold gateStatus
  by_cases hf : statuses.any (· = .fail)
  · simp [hf]
  · by_cases hp : statuses.any ValidationStatus.isPending <;> simp [hf, hp]

include h in
theorem Emits.coherent (hnone : NoneReplacedFails entries) : ValidationOutcome.Coherent ⟨h.report,
      service.buildReconciliation inputs h.report
        (gateStatuses inputs artifacts entries replacements)⟩ where
  discrepancies := by
    intro d hd
    change d ∈ h.report.discrepancies at hd
    change ∃ check ∈ h.report.checks, _
    rw [h.checks_eq]
    rcases h.mem_discrepancies.1 hd with ⟨e, he, hd⟩ | ⟨r, hr, e, he, hid, hd⟩ | ⟨e, he, hd⟩
    · obtain ⟨hfail, hid, hlisted⟩ := mem_entryDiscrepancies hd
      have hkept := @finalCheck_of_notMem service _ _ fun hmem =>
        h.unreplaced hnone he hfail (h.replacements_subset _ hmem)
      refine ⟨service.entryCheck e, mem_append_left _ ?_, hid.symm, hfail, hlisted⟩
      exact mem_map.2 ⟨e, he, hkept⟩
    · obtain ⟨id, hmem, rfl⟩ := mem_map.1 hd
      have hfail : r.status = .fail := by
        unfold replacementIds discrepancyIds at hmem
        split at hmem
        · assumption
        · exact absurd hmem not_mem_nil
      refine ⟨service.replaced (service.entryCheck e) r, mem_append_left _ ?_, hid, hfail, hmem⟩
      exact mem_map.2 ⟨e, he, h.finalCheck_of_mem hr hid⟩
    · obtain ⟨hfail, hid, hlisted⟩ := mem_entryDiscrepancies hd
      exact ⟨service.entryCheck e, mem_append_right _ (mem_map_of_mem he), hid.symm, hfail, hlisted⟩
  failures := by
    intro check hcheck hfail
    change check ∈ h.report.checks at hcheck
    change ∃ d ∈ h.report.discrepancies, _
    rw [h.checks_eq] at hcheck
    rcases mem_append.1 hcheck with hcheck | hcheck
    · obtain ⟨e, he, rfl⟩ := mem_map.1 hcheck
      by_cases hmem : e.checkId ∈ replacements.map Replacement.checkId
      · obtain ⟨r, hr, hid⟩ := mem_map.1 hmem
        rw [h.finalCheck_of_mem hr hid.symm] at hfail ⊢
        have hfails : r.status = .fail := hfail
        obtain ⟨id, hlisted⟩ : ∃ id, id ∈ service.replacementIds r := by
          rw [replacementIds, discrepancyIds, if_pos hfails]
          exact ⟨_, mem_singleton_self _⟩
        exact ⟨_, h.mem_discrepancies.2 (.inr (.inl ⟨r, hr, e, he, hid.symm,
          mem_map.2 ⟨id, hlisted, rfl⟩⟩)), hlisted⟩
      · rw [finalCheck_of_notMem hmem] at hfail ⊢
        obtain ⟨d, hd, -, hlisted⟩ := @exists_mem_entryDiscrepancies service _ hfail
        exact ⟨d, h.mem_discrepancies.2 (.inl ⟨e, he, hd⟩), hlisted⟩
    · obtain ⟨e, he, rfl⟩ := mem_map.1 hcheck
      obtain ⟨d, hd, -, hlisted⟩ := @exists_mem_entryDiscrepancies service _ hfail
      exact ⟨d, h.mem_discrepancies.2 (.inr (.inr ⟨e, he, hd⟩)), hlisted⟩
  verdict := ⟨rfl, gateStatus_ne_fail.symm⟩

end Report

variable (py inputs) in
/-- The inputs and targets on which a coherent report is returned. -/
structure Reportable (target : Except String TargetSnapshot) : Prop where
  closed : ClosedModel inputs
  exact : TargetExact py inputs target
  required : ∀ id ∈ inputs.policy.requiredCheckIds, id ∈ emittedIds inputs target
  verdict : ∀ artifacts entries replacements, Emits py inputs target artifacts entries replacements →
    SettlesVerdict inputs artifacts entries replacements

/-- **A coherent report is returned exactly when the first pass finds nothing**, everything can be
evaluated and the policy settles the verdict. -/
theorem report_coherent_iff {inputs : ValidationInputs} {target : Except String TargetSnapshot}
    (hdistinct : service.Distinguishes) :
    (∃ outcome, service.validate inputs target = .ok outcome ∧ outcome.Coherent) ↔
      Reportable service.py inputs target := by
  simp only [validate_eq_ok]
  constructor
  · rintro ⟨_, ⟨artifacts, entries, replacements, hemits, hderived, rfl⟩, hcoherent⟩
    obtain ⟨hn, hrequired, hsettles⟩ := hemits.statusIsDerived_iff.1 hderived
    refine ⟨exists_artifactEntries.1 ⟨artifacts, hemits.artifacts_eq⟩, ?_, hrequired, ?_⟩
    · cases target with
      | error error => trivial
      | ok target =>
        refine targetParts_exact_iff.1 ⟨entries, replacements, hemits.target_eq, ?_⟩
        intro e he hid
        have hreplaced : e.checkId ∈ replacements.map Replacement.checkId := by
          have htarget := hemits.target_eq
          simp only [targetParts, bind_eq_ok] at htarget
          obtain ⟨_, -, _, hreplacements, heq⟩ := htarget
          cases heq
          rwa [multiFactReplacements_ids hreplacements]
        obtain ⟨r, hr, hid⟩ := mem_map.1 hreplaced
        exact hemits.not_fail_of_coherent hn hcoherent.discrepancies he hr hid.symm
    · intro artifacts' entries' replacements' hemits'
      cases hemits.artifacts_eq.symm.trans hemits'.artifacts_eq
      obtain ⟨rfl, rfl⟩ := Prod.mk.inj
        (Except.ok.inj (hemits.target_eq.symm.trans hemits'.target_eq))
      exact hsettles
  · intro h
    obtain ⟨artifacts, hartifacts⟩ := exists_artifactEntries.2 h.closed
    obtain ⟨entries, replacements, htarget, hnone⟩ := targetParts_exact_iff.2 h.exact
    have hemits : Emits service.py inputs target artifacts entries replacements :=
      ⟨hartifacts, htarget⟩
    refine ⟨_, ⟨artifacts, entries, replacements, hemits, hemits.statusIsDerived_iff.2 ⟨?_, ?_, ?_⟩,
      rfl⟩, hemits.coherent hnone⟩
    · exact hemits.discrepancyIds_nodup hdistinct hnone
    · exact h.required
    · exact h.verdict artifacts entries replacements hemits

end ValidationService

theorem demo_distinguishes : demoService.Distinguishes := fun h => h

theorem report_coherent_demo : demoService.Distinguishes ∧
    ValidationService.Reportable demoInterpreter (demoInputs demoTruth)
      (.ok (demoSnapshot "7")) := by
  refine ⟨demo_distinguishes, (ValidationService.report_coherent_iff demo_distinguishes).1 ?_⟩
  have hrun : ((demoService.validate (demoInputs demoTruth) (.ok (demoSnapshot "7"))).toOption.map
      fun o => (o.report.discrepancies.isEmpty, o.report.checks.all fun check => check.status ≠ .fail,
        o.report.overallStatus, o.report.g6Status, o.reconciliation.status,
        o.reconciliation.noBlockingDiscrepancy)) =
      some (true, true, .pass, .pass, .pass, true) := by decide +kernel
  obtain ⟨outcome, h, hvalues⟩ := exists_ok_of_map hrun
  simp only [Prod.mk.injEq, List.isEmpty_iff, all_eq_true, decide_eq_true_eq] at hvalues
  obtain ⟨hnone, hpass, hoverall, hgate, hstatus, hclear⟩ := hvalues
  exact ⟨outcome, h, {
    discrepancies := fun d hd => by simp [hnone] at hd
    failures := fun check hcheck hfail => absurd hfail (hpass check hcheck)
    verdict := ⟨by rw [hstatus, hoverall], by simp [hclear, hgate]⟩ }⟩

/-- The second fact of the warehouse, in a table of its own. -/
def returnsFact : FactSpec :=
  { demoFact true with
    factId := "fact_returns"
    tableName := "fact_returns"
    tableIsSafe := AnalyticalCompilerService.returnsFact.tableIsSafe }

def returnsTruthFact : SourceTruthFact :=
  { demoTruthFact with
    factRef := "fact:2"
    factId := some "fact_returns"
    canonicalEventId := "8"
    grainValues := [("sale_id", .int 2)]
    mappingsAreGiven := by simp [demoTruthFact] }

def twoFactTruth : SourceTruthManifest :=
  { demoTruth with
    facts := [demoTruthFact, returnsTruthFact]
    recordsAreKnown := by simp [demoTruth, demoTruthFact, returnsTruthFact]
    expectationsAreClosed := by decide +kernel
    aggregatesAreClosed := by decide +kernel }

def twoFactInputs : ValidationInputs :=
  { demoInputs twoFactTruth with
    compiledPlan :=
      { demoPlan (demoSpecs quarantinePolicy amount) with
        tableNames := ["dim_customer", "dim_date", "fact_sales", "fact_returns"]
        factSpecs := [demoFact true, returnsFact] } }

/-- The warehouse that holds the expected row of each fact. -/
def twoFactSnapshot : TargetSnapshot where
  availableTableNames := ["dim_customer", "dim_date", "fact_sales", "fact_returns"]
  tables := (demoSnapshot "7").tables ++ [
    { tableName := "fact_returns", tableNameIsSafe := returnsFact.tableIsSafe
      columns := ["sale_id", "canonical_event_id", "customer_key", "date_key", "amount",
        "source_record_refs"]
      rows := [[("sale_id", .int 2), ("canonical_event_id", .str "8"), ("customer_key", .int 11),
        ("date_key", .int 21), ("amount", .decimal (.finite ⟨false, 950, -2⟩) 0),
        ("source_record_refs", .list [.str "src:sale-1"])]]
      rowColumnsMatch := by simp }]
  tablesAreUnique := by simp [demoSnapshot]

/-- A warehouse that is exact for both facts passes the gate, with a discrepancy of the row count
that belongs to a passed check. -/
theorem two_facts_incoherent : (∀ id ∈ twoFactInputs.policy.requiredCheckIds,
      id ∈ ValidationService.emittedIds twoFactInputs (.ok twoFactSnapshot)) ∧
    ∃ outcome, demoService.validate twoFactInputs (.ok twoFactSnapshot) = .ok outcome ∧
      outcome.report.g6Status = .pass ∧ ¬ outcome.Coherent := by
  refine ⟨by decide +kernel, ?_⟩
  have hrun : ((demoService.validate twoFactInputs (.ok twoFactSnapshot)).toOption.map
      fun o => (o.report.g6Status, o.report.discrepancies.any fun d => d.checkId = "fact_count",
        o.report.checks.all fun check => check.status ≠ .fail)) = some (.pass, true, true) := by
    decide +kernel
  obtain ⟨outcome, h, hvalues⟩ := exists_ok_of_map hrun
  simp only [Prod.mk.injEq, any_eq_true, all_eq_true, decide_eq_true_eq] at hvalues
  obtain ⟨hgate, ⟨d, hd, -⟩, hpass⟩ := hvalues
  refine ⟨outcome, h, hgate, fun hcoherent => ?_⟩
  obtain ⟨check, hcheck, -, hfail, -⟩ := hcoherent.discrepancies d hd
  exact hpass check hcheck hfail

end DirtyDataOlap.Validation
