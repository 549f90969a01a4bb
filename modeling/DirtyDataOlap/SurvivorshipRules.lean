import DirtyDataOlap.Survivorship

/-!
# What survivorship decides

One epilogue serves five policies: what it records is justified as soon as the policy selects a
candidate that it may select, or leaves a conflict (`justified_iff`).  Whether it does is a question
about each policy on its own.
-/
namespace DirtyDataOlap.Canonical

open SurvivorshipService Timestamp Option SurvivorshipInput

section

variable (service : SurvivorshipService) (i : SurvivorshipInput)

/-- The policy may select the candidate. -/
def SurvivorshipService.Chosen (item : CanonicalValueReference) : Prop :=
  match i.policy with
  | .preferredSource => ∃ earlier source later, i.sourcePriority = earlier ++ source :: later ∧
      item.sourceId = some source ∧
      ∀ other ∈ earlier, ∀ candidate ∈ i.candidates, candidate.sourceId ≠ some other
  | .mostRecentValid => ∃ t, getItem i.temporalValues item.valueRef = some t ∧
      ∀ candidate ∈ i.candidates, ∃ u, getItem i.temporalValues candidate.valueRef = some u ∧
        u.after? t = some false
  | .mostComplete => item.nullState = .present
  | .consensus => ∃ value, item.safeValue = some value ∧
      ∀ other ∈ service.comparedValues i.candidates, other = service.normalized value
  | .reviewRequired => False

/-- The decision accounts for the candidates, and its survivor or its conflict has its reason. -/
structure Justified (decision : CanonicalSurvivorshipDecision) (conflict : Option CanonicalConflict) :
    Prop where
  eligible : decision.eligibleValueRefs.Perm (i.candidates.map (·.valueRef))
  split : (decision.selectedValueRef.toList ++ decision.losingValueRefs).Perm
    decision.eligibleValueRefs
  recorded : decision.conflictRefs = (conflict.map (·.conflictId)).toList
  unselected : decision.selectedValueRef = none → conflict.isSome = true
  chosen : ∀ ref, decision.selectedValueRef = some ref →
    ∃ item ∈ i.candidates, item.valueRef = ref ∧ service.Chosen i item
  differing : ∀ a ∈ service.comparedValues i.candidates,
    ∀ b ∈ service.comparedValues i.candidates, a ≠ b → conflict.isSome = true

/-- The inputs that the policies serve. -/
structure Served : Prop where
  /-- `MOST_COMPLETE` has a candidate that is present. -/
  complete : i.policy = .mostComplete → ∃ item ∈ i.candidates, item.nullState = .present
  /-- Where `CONSENSUS` finds one value, the candidate that comes first has it. -/
  consensus : i.policy = .consensus → ∀ value ∈ service.comparedValues i.candidates,
    (∀ other ∈ service.comparedValues i.candidates, other = value) →
      ∀ first ∈ i.candidates, (∀ item ∈ i.candidates, first.valueRef ≤ item.valueRef) →
        first.safeValue ≠ none
  /-- Where `MOST_RECENT_VALID` has all moments, they are all aware or all naive. -/
  comparable : i.policy = .mostRecentValid →
    (∀ item ∈ i.candidates, (getItem i.temporalValues item.valueRef).isSome = true) →
      ∀ a ∈ i.candidates, ∀ b ∈ i.candidates,
        (getItem i.temporalValues a.valueRef).map (·.zone.isSome) =
          (getItem i.temporalValues b.valueRef).map (·.zone.isSome)

/-- The comparisons rank the candidates' moments: what is not after a second one, which is not after a
third, is not after the third.  The clock of a zone that is set back shows one hour twice, and moments
of that hour, with one of another zone between them, are in no rank. -/
def Ranked : Prop :=
  i.policy = .mostRecentValid → ∀ a ∈ i.candidates, ∀ b ∈ i.candidates, ∀ c ∈ i.candidates, ∀ t u v,
    getItem i.temporalValues a.valueRef = some t → getItem i.temporalValues b.valueRef = some u →
      getItem i.temporalValues c.valueRef = some v →
        t.after? u = some false → u.after? v = some false → t.after? v = some false

end

variable {service : SurvivorshipService} {i : SurvivorshipInput}

theorem mem_ordered {item : CanonicalValueReference} : item ∈ i.ordered ↔ item ∈ i.candidates :=
  mem_sortedBy

theorem ordered_ne_nil (h : i.candidates ≠ []) : i.ordered ≠ [] := by
  intro hnil
  apply h
  exact List.eq_nil_iff_forall_not_mem.2 fun item hitem => by
    have hmem := mem_ordered.2 hitem
    rw [hnil] at hmem
    cases hmem

theorem head_ordered {first : CanonicalValueReference} (h : i.ordered.head? = some first) :
    first ∈ i.candidates ∧ ∀ item ∈ i.candidates, first.valueRef ≤ item.valueRef := by
  obtain ⟨rest, hrest⟩ := List.head?_eq_some_iff.1 h
  have hsorted := pairwise_sortedBy (·.valueRef) i.candidates
  have hordered : sortedBy (·.valueRef) i.candidates = first :: rest := hrest
  rw [hordered, List.pairwise_cons] at hsorted
  refine ⟨mem_ordered.1 (by rw [hrest]; exact List.mem_cons_self), fun item hitem => ?_⟩
  have hmem := mem_ordered.2 hitem
  rw [hrest] at hmem
  rcases List.mem_cons.1 hmem with rfl | hmem
  · exact le_refl _
  · exact hsorted.1 item hmem

theorem mem_comparedValues {candidates : List CanonicalValueReference} {value : String} :
    value ∈ service.comparedValues candidates ↔
      ∃ item ∈ candidates, ∃ text, item.safeValue = some text ∧ service.normalized text = value := by
  simp only [comparedValues, List.mem_map, List.mem_filterMap]
  constructor
  · rintro ⟨text, ⟨item, hitem, htext⟩, rfl⟩
    exact ⟨item, hitem, text, htext, rfl⟩
  · rintro ⟨item, hitem, text, htext, rfl⟩
    exact ⟨text, ⟨item, hitem, htext⟩, rfl⟩

theorem comparedValues_ordered {value : String} : value ∈ service.comparedValues i.ordered ↔
    value ∈ service.comparedValues i.candidates := by
  simp only [mem_comparedValues, mem_ordered]

theorem one_value_iff : (service.comparedValues i.ordered).dedup.length = 1 ↔
    ∃ value ∈ service.comparedValues i.candidates,
      ∀ other ∈ service.comparedValues i.candidates, other = value := by
  rw [List.length_eq_one_iff]
  constructor
  · rintro ⟨value, hvalue⟩
    have hmem : ∀ other, other ∈ service.comparedValues i.candidates ↔ other = value := by
      intro other
      rw [← comparedValues_ordered, ← List.mem_dedup, hvalue, List.mem_singleton]
    exact ⟨value, (hmem value).2 rfl, fun other => (hmem other).1⟩
  · rintro ⟨value, hvalue, hall⟩
    refine ⟨value, List.perm_singleton.1 ?_⟩
    rw [List.perm_ext_iff_of_nodup (List.nodup_dedup _) (List.nodup_singleton _)]
    intro other
    rw [List.mem_dedup, comparedValues_ordered, List.mem_singleton]
    exact ⟨hall other, fun h => h ▸ hvalue⟩

theorem one_lt_of_differing {a b : String} (ha : a ∈ service.comparedValues i.candidates)
    (hb : b ∈ service.comparedValues i.candidates) (hne : a ≠ b) :
    1 < (service.comparedValues i.ordered).dedup.length := by
  rw [← comparedValues_ordered] at ha hb
  rw [← List.card_toFinset, Finset.one_lt_card]
  exact ⟨a, List.mem_toFinset.2 ha, b, List.mem_toFinset.2 hb, hne⟩

section
variable {best : CanonicalValueReference × Timestamp}
  {rest : List (CanonicalValueReference × Timestamp)}

variable {t u : Timestamp}

theorem zone_isSome_of_eq {α : Type} {f : Nat × Int → α} (h : t.zone.map f = u.zone.map f) :
    t.zone.isSome = u.zone.isSome := by
  rw [← isSome_map (f := f) (x := t.zone), h, isSome_map]

/-- Two moments can be compared exactly if both are aware or both are naive. -/
theorem after?_isSome : (t.after? u).isSome = true ↔ t.zone.isSome = u.zone.isSome := by
  unfold after?
  by_cases hsame : t.zone.map (·.1) = u.zone.map (·.1) ∨ t.zone.map (·.2) = u.zone.map (·.2)
  · rw [if_pos hsame]
    exact ⟨fun _ => hsame.elim zone_isSome_of_eq zone_isSome_of_eq, fun _ => rfl⟩
  · rw [if_neg hsame]
    cases ht : t.zone <;> cases hu : u.zone <;> simp_all

/-- What is after another moment has the other one not after it. -/
theorem after?_asymm (h : t.after? u = some true) : u.after? t = some false := by
  unfold after? at h ⊢
  by_cases hsame : t.zone.map (·.1) = u.zone.map (·.1) ∨ t.zone.map (·.2) = u.zone.map (·.2)
  · rw [if_pos hsame, some.injEq, decide_eq_true_eq] at h
    rw [if_pos (hsame.imp Eq.symm Eq.symm), decide_eq_false (not_lt.2 h.le)]
  · rw [if_neg hsame] at h
    by_cases haware : t.zone.isSome = true ∧ u.zone.isSome = true
    · rw [if_pos haware, some.injEq, decide_eq_true_eq] at h
      rw [if_neg (fun hback => hsame (hback.imp Eq.symm Eq.symm)), if_pos haware.symm,
        decide_eq_false (not_lt.2 h.le)]
    · rw [if_neg haware] at h
      cases h

theorem after?_self : t.after? t = some false := by
  rw [after?, if_pos (Or.inl rfl), decide_eq_false (lt_irrefl _)]

theorem mem_of_latest {winner : CanonicalValueReference} (h : latest best rest = .ok winner) :
    ∃ t, (winner, t) ∈ best :: rest := by
  induction rest generalizing best with
  | nil =>
    obtain rfl : best.1 = winner := Except.ok.inj h
    exact ⟨best.2, List.mem_cons_self⟩
  | cons next rest ih =>
    rw [latest] at h
    cases hafter : next.2.after? best.2 with
    | none =>
      rw [hafter] at h
      cases h
    | some later =>
      rw [hafter] at h
      cases later with
      | true =>
        obtain ⟨t, ht⟩ := ih h
        exact ⟨t, List.mem_cons_of_mem _ ht⟩
      | false =>
        obtain ⟨t, ht⟩ := ih h
        refine ⟨t, ?_⟩
        rcases List.mem_cons.1 ht with hbest | ht
        · exact hbest ▸ List.mem_cons_self
        · exact List.mem_cons_of_mem _ (List.mem_cons_of_mem _ ht)

/-- Where the moments are ranked, none is after the one that is selected. -/
theorem latest_spec {winner : CanonicalValueReference} (h : latest best rest = .ok winner)
    (hranked : ∀ a ∈ best :: rest, ∀ b ∈ best :: rest, ∀ c ∈ best :: rest,
      a.2.after? b.2 = some false → b.2.after? c.2 = some false → a.2.after? c.2 = some false) :
    ∃ t, (winner, t) ∈ best :: rest ∧ ∀ item ∈ best :: rest, item.2.after? t = some false := by
  induction rest generalizing best with
  | nil =>
    obtain rfl : best.1 = winner := Except.ok.inj h
    refine ⟨best.2, List.mem_cons_self, fun item hitem => ?_⟩
    obtain rfl : item = best := by simpa using hitem
    exact after?_self
  | cons next rest ih =>
    have hbest : best ∈ best :: next :: rest := List.mem_cons_self
    have hnext : next ∈ best :: next :: rest := List.mem_cons_of_mem _ List.mem_cons_self
    rw [latest] at h
    cases hafter : next.2.after? best.2 with
    | none =>
      rw [hafter] at h
      cases h
    | some later =>
      rw [hafter] at h
      cases later with
      | true =>
        have hsub : ∀ a ∈ next :: rest, a ∈ best :: next :: rest := fun a => List.mem_cons_of_mem _
        obtain ⟨t, hmem, hall⟩ := ih h fun a ha b hb c hc =>
          hranked a (hsub a ha) b (hsub b hb) c (hsub c hc)
        refine ⟨t, hsub _ hmem, List.forall_mem_cons.2 ⟨?_, hall⟩⟩
        exact hranked best hbest next hnext (winner, t) (hsub _ hmem) (after?_asymm hafter)
          (hall next List.mem_cons_self)
      | false =>
        have hsub : ∀ a ∈ best :: rest, a ∈ best :: next :: rest := by
          intro a ha
          rcases List.mem_cons.1 ha with rfl | ha
          · exact hbest
          · exact List.mem_cons_of_mem _ (List.mem_cons_of_mem _ ha)
        obtain ⟨t, hmem, hall⟩ := ih h fun a ha b hb c hc =>
          hranked a (hsub a ha) b (hsub b hb) c (hsub c hc)
        obtain ⟨hfirst, hrest⟩ := List.forall_mem_cons.1 hall
        refine ⟨t, hsub _ hmem, List.forall_mem_cons.2 ⟨hfirst, List.forall_mem_cons.2 ⟨?_, hrest⟩⟩⟩
        exact hranked next hnext best hbest (winner, t) (hsub _ hmem) hafter hfirst

/-- A latest moment is found when all are aware or all are naive. -/
theorem exists_latest_iff : (∃ winner, latest best rest = .ok winner) ↔
    ∀ item ∈ rest, item.2.zone.isSome = best.2.zone.isSome := by
  induction rest generalizing best with
  | nil => simp [latest]
  | cons next rest ih =>
    rw [latest, List.forall_mem_cons, ← after?_isSome]
    cases hafter : next.2.after? best.2 with
    | none => simp
    | some later =>
      have hkind : next.2.zone.isSome = best.2.zone.isSome :=
        after?_isSome.1 (by rw [hafter]; rfl)
      cases later <;> simp only [ih, hkind, isSome_some, true_and]

end

variable {conflict : Option CanonicalConflict} {selected : Option CanonicalValueReference}
  {item : CanonicalValueReference} {timed : List (CanonicalValueReference × Timestamp)}

theorem timed_eq_some : i.timed = some timed ↔ List.Forall₂ (fun item pair => pair.1 = item ∧
      getItem i.temporalValues item.valueRef = some pair.2) i.ordered timed := by
  unfold SurvivorshipInput.timed
  generalize i.ordered = ordered
  induction ordered generalizing timed with
  | nil =>
    rw [List.mapM_nil, List.forall₂_nil_left_iff]
    simp [eq_comm, pure]
  | cons item rest ih =>
    rw [List.mapM_cons, List.forall₂_cons_left_iff]
    simp only [bind_eq_bind, bind_eq_some_iff, map_eq_some_iff, ih, pure,
      some.injEq]
    constructor
    · rintro ⟨_, ⟨t, ht, rfl⟩, others, hothers, rfl⟩
      exact ⟨_, others, ⟨rfl, ht⟩, hothers, rfl⟩
    · rintro ⟨⟨_, t⟩, others, ⟨rfl, ht⟩, hothers, rfl⟩
      exact ⟨_, ⟨t, ht, rfl⟩, others, hothers, rfl⟩

theorem mem_timed (h : i.timed = some timed) {t : Timestamp} : (item, t) ∈ timed ↔
      item ∈ i.candidates ∧ getItem i.temporalValues item.valueRef = some t := by
  have hall := timed_eq_some.1 h
  rw [← mem_ordered]
  constructor
  · intro hmem
    obtain ⟨found, hfound, rfl, ht⟩ := exists_left_of_forall₂ hall hmem
    exact ⟨hfound, ht⟩
  · rintro ⟨hmem, ht⟩
    obtain ⟨⟨found, u⟩, hfound, rfl, hu⟩ := exists_right_of_forall₂ hall hmem
    obtain rfl : u = t := some.inj (hu.symm.trans ht)
    exact hfound

theorem timed_isSome : i.timed.isSome = true ↔
    ∀ item ∈ i.candidates, (getItem i.temporalValues item.valueRef).isSome = true := by
  simp only [← mem_ordered]
  unfold timed
  generalize i.ordered = ordered
  induction ordered with
  | nil => simp
  | cons item rest ih =>
    rw [List.mapM_cons, List.forall_mem_cons, ← ih]
    cases getItem i.temporalValues item.valueRef with
    | none => simp
    | some t =>
      cases rest.mapM fun item => (getItem i.temporalValues item.valueRef).map fun t => (item, t) with
      | none => simp
      | some others => simp

/-- The first source of the priority that has a candidate, and its first candidate. -/
theorem preferred_eq_some (h : (i.sourcePriority.findSome? fun source =>
      i.ordered.find? (·.sourceId = some source)) = some item) :
    item ∈ i.candidates ∧ ∃ earlier source later, i.sourcePriority = earlier ++ source :: later ∧
      item.sourceId = some source ∧
      ∀ other ∈ earlier, ∀ candidate ∈ i.candidates, candidate.sourceId ≠ some other := by
  obtain ⟨earlier, source, later, hpriority, hfind, hnone⟩ := List.findSome?_eq_some_iff.1 h
  refine ⟨mem_ordered.1 (List.mem_of_find?_eq_some hfind), earlier, source, later, hpriority, ?_, ?_⟩
  · simpa using List.find?_some hfind
  · intro other hother candidate hcandidate
    have hall := List.find?_eq_none.1 (hnone other hother) candidate (mem_ordered.2 hcandidate)
    simpa using hall

/-! ## Every policy -/

variable (service i selected) in
structure Sound (conflict : Option CanonicalConflict) : Prop where
  unselected : selected = none → conflict.isSome = true
  chosen : ∀ item, selected = some item → item ∈ i.candidates ∧ service.Chosen i item

theorem sound_none {conflict : CanonicalConflict} : Sound service i none (some conflict) where
  unselected _ := rfl
  chosen item h := by cases h

theorem sound_some : Sound service i (some item) none ↔
    item ∈ i.candidates ∧ service.Chosen i item := by
  constructor
  · exact fun h => h.chosen item rfl
  · intro h
    refine ⟨fun hnone => (by cases hnone), fun other hother => ?_⟩
    cases hother
    exact h

variable (service i) in
/-- The policy returns, and what it returns is sound. -/
def SelectsSoundly : Prop :=
  ∃ selected conflict, service.select i = .ok (selected, conflict) ∧ Sound service i selected conflict

theorem selectsSoundly_iff (h : service.select i = .ok (selected, conflict)) :
    SelectsSoundly service i ↔ Sound service i selected conflict := by
  constructor
  · rintro ⟨selected', conflict', h', hsound⟩
    cases h.symm.trans h'
    exact hsound
  · exact fun hsound => ⟨selected, conflict, h, hsound⟩

theorem selects_none {kind : CanonicalConflictType} {rationale : String}
    (h : service.select i = .ok (none, some (service.openConflict i kind rationale))) :
    SelectsSoundly service i :=
  (selectsSoundly_iff h).2 sound_none

theorem selects_preferred (hpolicy : i.policy = .preferredSource) : SelectsSoundly service i := by
  cases hfound : i.sourcePriority.findSome? fun source =>
      i.ordered.find? (·.sourceId = some source) with
  | none =>
    have hselect : service.select i = .ok (none, some (service.openConflict i
        .missingAuthorityConflict "no applicable scoped source authority")) := by
      simp only [select, hpolicy, hfound]
    exact selects_none hselect
  | some item =>
    have hselect : service.select i = .ok (some item, none) := by
      simp only [select, hpolicy, hfound]
    obtain ⟨hmem, hfirst⟩ := preferred_eq_some hfound
    refine (selectsSoundly_iff hselect).2 (sound_some.2 ⟨hmem, ?_⟩)
    simp only [SurvivorshipService.Chosen, hpolicy]
    exact hfirst

theorem selects_review (hpolicy : i.policy = .reviewRequired) : SelectsSoundly service i := by
  have hselect : service.select i = .ok (none, some (service.openConflict i
      .missingAuthorityConflict "review-required policy has no accepted survivor")) := by
    simp only [select, hpolicy]
  exact selects_none hselect

theorem selects_complete_iff (hpolicy : i.policy = .mostComplete) :
    SelectsSoundly service i ↔ ∃ item ∈ i.candidates, item.nullState = .present := by
  have hselect : service.select i = .ok (i.ordered.find? (·.nullState = .present), none) := by
    simp only [select, hpolicy]
  rw [selectsSoundly_iff hselect]
  cases hfound : i.ordered.find? (·.nullState = .present) with
  | none =>
    constructor
    · intro h
      have hconflict := h.unselected rfl
      cases hconflict
    · rintro ⟨item, hitem, hpresent⟩
      have hno := List.find?_eq_none.1 hfound item (mem_ordered.2 hitem)
      exact absurd (decide_eq_true hpresent) hno
  | some item =>
    have hmem : item ∈ i.candidates := mem_ordered.1 (List.mem_of_find?_eq_some hfound)
    have hpresent : item.nullState = .present := by simpa using List.find?_some hfound
    rw [sound_some]
    simp only [SurvivorshipService.Chosen, hpolicy]
    exact ⟨fun h => ⟨item, h⟩, fun _ => ⟨hmem, hpresent⟩⟩

variable (hsome : i.candidates ≠ [])

include hsome in
/-- Where the values are one, the first candidate is selected whether it has a value or not. -/
theorem selects_consensus_iff
    (hdistinct : (i.candidates.map (·.valueRef)).Nodup) (hpolicy : i.policy = .consensus) :
    SelectsSoundly service i ↔ ∀ value ∈ service.comparedValues i.candidates,
      (∀ other ∈ service.comparedValues i.candidates, other = value) →
        ∀ first ∈ i.candidates, (∀ item ∈ i.candidates, first.valueRef ≤ item.valueRef) →
          first.safeValue ≠ none := by
  by_cases hone : (service.comparedValues i.ordered).dedup.length = 1
  · obtain ⟨first, rest, hcons⟩ := List.exists_cons_of_ne_nil (ordered_ne_nil hsome)
    have hfirst : i.ordered.head? = some first := by
      rw [hcons]
      rfl
    have hselect : service.select i = .ok (some first, none) := by
      simp only [select, hpolicy, if_pos hone, hfirst]
    obtain ⟨hmem, hleast⟩ := head_ordered hfirst
    obtain ⟨value, hvalue, hall⟩ := one_value_iff.1 hone
    rw [selectsSoundly_iff hselect, sound_some]
    simp only [SurvivorshipService.Chosen, hpolicy]
    constructor
    · rintro ⟨-, text, htext, -⟩ _ _ _ other hother hother'
      have hsame : other.valueRef = first.valueRef := le_antisymm (hother' first hmem) (hleast other hother)
      obtain rfl := List.inj_on_of_nodup_map hdistinct hother hmem hsame
      rw [htext]
      exact some_ne_none text
    · intro h
      obtain ⟨text, htext⟩ := ne_none_iff_exists'.1 (h value hvalue hall first hmem hleast)
      have htext' : service.normalized text = value :=
        hall _ (mem_comparedValues.2 ⟨first, hmem, text, htext, rfl⟩)
      exact ⟨hmem, text, htext, htext' ▸ hall⟩
  · have hselect : service.select i = .ok (none, some (service.openConflict i
        .differingSourceValues "consensus is not established")) := by
      simp only [select, hpolicy, if_neg hone]
    constructor
    · intro _ value hvalue hall
      exact absurd (one_value_iff.2 ⟨value, hvalue, hall⟩) hone
    · exact fun _ => selects_none hselect

variable (service) in
include hsome in
theorem select_recent {timed : List (CanonicalValueReference × Timestamp)}
    (hpolicy : i.policy = .mostRecentValid) (htimed : i.timed = some timed) : ∃ best rest,
      timed = best :: rest ∧
        service.select i = (latest best rest).map fun item => (some item, none) := by
  rcases timed with _ | ⟨best, rest⟩
  · have hnil := List.forall₂_nil_right_iff.1 (timed_eq_some.1 htimed)
    exact absurd hnil (ordered_ne_nil hsome)
  · exact ⟨best, rest, rfl, by simp only [select, hpolicy, htimed]⟩

theorem select_untimed (hpolicy : i.policy = .mostRecentValid) (htimed : i.timed = none) :
    SelectsSoundly service i := by
  have hselect : service.select i = .ok (none, some (service.openConflict i .temporalConflict
      "valid comparable temporal evidence is missing")) := by
    simp only [select, hpolicy, htimed]
  exact selects_none hselect

variable {best : CanonicalValueReference × Timestamp}
  {rest : List (CanonicalValueReference × Timestamp)}

theorem kinds_iff (htimed : i.timed = some (best :: rest)) :
    (∀ item ∈ rest, item.2.zone.isSome = best.2.zone.isSome) ↔
      ∀ a ∈ i.candidates, ∀ b ∈ i.candidates,
        (getItem i.temporalValues a.valueRef).map (·.zone.isSome) =
          (getItem i.temporalValues b.valueRef).map (·.zone.isSome) := by
  have hmem : ∀ item, item ∈ best :: rest ↔ item.1 ∈ i.candidates ∧
      getItem i.temporalValues item.1.valueRef = some item.2 := fun item => mem_timed htimed
  constructor
  · intro h a ha b hb
    have hkind : ∀ c ∈ i.candidates,
        (getItem i.temporalValues c.valueRef).map (·.zone.isSome) = some best.2.zone.isSome := by
      intro c hc
      obtain ⟨t, ht⟩ := isSome_iff_exists.1 (timed_isSome.1 (by rw [htimed]; rfl) c hc)
      have hitem := (hmem (c, t)).2 ⟨hc, ht⟩
      rw [ht, map_some]
      rcases List.mem_cons.1 hitem with rfl | hitem
      · rfl
      · exact congrArg some (h (c, t) hitem)
    rw [hkind a ha, hkind b hb]
  · intro h item hitem
    obtain ⟨hc, ht⟩ := (hmem item).1 (List.mem_cons_of_mem _ hitem)
    obtain ⟨hbest, hbest'⟩ := (hmem best).1 List.mem_cons_self
    have hsame := h item.1 hc best.1 hbest
    rw [ht, hbest'] at hsame
    exact some.inj hsame

include hsome in
theorem SelectsSoundly.comparable (h : SelectsSoundly service i)
    (hpolicy : i.policy = .mostRecentValid)
    (hall : ∀ item ∈ i.candidates, (getItem i.temporalValues item.valueRef).isSome = true) :
    ∀ a ∈ i.candidates, ∀ b ∈ i.candidates,
      (getItem i.temporalValues a.valueRef).map (·.zone.isSome) =
        (getItem i.temporalValues b.valueRef).map (·.zone.isSome) := by
  obtain ⟨timed, htimed⟩ := isSome_iff_exists.1 (timed_isSome.2 hall)
  obtain ⟨best, rest, rfl, hselect⟩ := select_recent service hsome hpolicy htimed
  rw [← kinds_iff htimed, ← exists_latest_iff]
  obtain ⟨selected, conflict, hok, -⟩ := h
  rw [hselect] at hok
  cases hlatest : latest best rest with
  | error e =>
    rw [hlatest] at hok
    cases hok
  | ok winner => exact ⟨winner, rfl⟩

include hsome in
theorem selects_recent (hpolicy : i.policy = .mostRecentValid) (hserved : Served service i)
    (hranked : Ranked i) : SelectsSoundly service i := by
  cases htimed : i.timed with
  | none => exact select_untimed hpolicy htimed
  | some timed =>
    obtain ⟨best, rest, rfl, hselect⟩ := select_recent service hsome hpolicy htimed
    have hall := timed_isSome.1 (by rw [htimed]; rfl)
    obtain ⟨winner, hwinner⟩ :=
      exists_latest_iff.2 ((kinds_iff htimed).2 (hserved.comparable hpolicy hall))
    have hok : service.select i = .ok (some winner, none) := by
      rw [hselect, hwinner]
      rfl
    obtain ⟨t, hmem, hnone⟩ := latest_spec hwinner fun a ha b hb c hc => by
      obtain ⟨ha, hat⟩ := (mem_timed htimed).1 ha
      obtain ⟨hb, hbt⟩ := (mem_timed htimed).1 hb
      obtain ⟨hc, hct⟩ := (mem_timed htimed).1 hc
      exact hranked hpolicy _ ha _ hb _ hc _ _ _ hat hbt hct
    obtain ⟨hcandidate, ht⟩ := (mem_timed htimed).1 hmem
    refine (selectsSoundly_iff hok).2 (sound_some.2 ⟨hcandidate, ?_⟩)
    simp only [SurvivorshipService.Chosen, hpolicy]
    refine ⟨t, ht, fun candidate hc => ?_⟩
    obtain ⟨u, hu⟩ := isSome_iff_exists.1 (hall candidate hc)
    exact ⟨u, hu, hnone (candidate, u) ((mem_timed htimed).2 ⟨hc, hu⟩)⟩

include hsome in
/-- **A policy that selects soundly serves its input.** -/
theorem SelectsSoundly.served (hdistinct : (i.candidates.map (·.valueRef)).Nodup)
    (h : SelectsSoundly service i) : Served service i where
  complete hpolicy := (selects_complete_iff hpolicy).1 h
  consensus hpolicy := (selects_consensus_iff hsome hdistinct hpolicy).1 h
  comparable hpolicy := h.comparable hsome hpolicy

include hsome in
/-- **The policies select soundly on the inputs that they serve**, where moments are ranked. -/
theorem Served.selectsSoundly (hdistinct : (i.candidates.map (·.valueRef)).Nodup)
    (hserved : Served service i) (hranked : Ranked i) : SelectsSoundly service i := by
  cases hpolicy : i.policy with
  | preferredSource => exact selects_preferred hpolicy
  | mostRecentValid => exact selects_recent hsome hpolicy hserved hranked
  | mostComplete => exact (selects_complete_iff hpolicy).2 (hserved.complete hpolicy)
  | consensus =>
    exact (selects_consensus_iff hsome hdistinct hpolicy).2 (hserved.consensus hpolicy)
  | reviewRequired => exact selects_review hpolicy

/-! ## The epilogue -/

theorem mem_of_select (h : service.select i = .ok (some item, conflict)) : item ∈ i.candidates := by
  apply mem_ordered.1
  cases hpolicy : i.policy with
  | preferredSource =>
    cases hfound : i.sourcePriority.findSome? fun source =>
        i.ordered.find? (·.sourceId = some source) with
    | none =>
      simp only [select, hpolicy, hfound, Except.ok.injEq, Prod.mk.injEq] at h
      exact absurd h.1 (by simp)
    | some found =>
      simp only [select, hpolicy, hfound, Except.ok.injEq, Prod.mk.injEq,
        Option.some.injEq] at h
      obtain ⟨rfl, -⟩ := h
      exact mem_ordered.2 (preferred_eq_some hfound).1
  | mostRecentValid =>
    cases htimed : i.timed with
    | none =>
      simp only [select, hpolicy, htimed, Except.ok.injEq, Prod.mk.injEq] at h
      exact absurd h.1 (by simp)
    | some timed =>
      rcases timed with _ | ⟨best, rest⟩
      · simp only [select, hpolicy, htimed, Except.ok.injEq, Prod.mk.injEq] at h
        exact absurd h.1 (by simp)
      · simp only [select, hpolicy, htimed] at h
        cases hlatest : latest best rest with
        | error e =>
          rw [hlatest] at h
          cases h
        | ok winner =>
          rw [hlatest] at h
          obtain ⟨heq, -⟩ := Prod.mk.inj (Except.ok.inj h)
          cases heq
          obtain ⟨t, hmem⟩ := mem_of_latest hlatest
          exact mem_ordered.2 ((mem_timed htimed).1 hmem).1
  | mostComplete =>
    simp only [select, hpolicy, Except.ok.injEq, Prod.mk.injEq] at h
    exact List.mem_of_find?_eq_some h.1
  | consensus =>
    by_cases hone : (service.comparedValues i.ordered).dedup.length = 1
    · simp only [select, hpolicy, if_pos hone, Except.ok.injEq,
        Prod.mk.injEq] at h
      exact List.mem_of_head? h.1
    · simp only [select, hpolicy, if_neg hone, Except.ok.injEq,
        Prod.mk.injEq] at h
      exact absurd h.1 (by simp)
  | reviewRequired =>
    simp only [select, hpolicy, Except.ok.injEq, Prod.mk.injEq] at h
    exact absurd h.1 (by simp)

variable (hdistinct : (i.candidates.map (·.valueRef)).Nodup)

include hdistinct in
theorem selected_losing_perm (h : ∀ item, selected = some item → item ∈ i.candidates) :
    ((service.decisionOf i selected conflict).selectedValueRef.toList ++
      (service.decisionOf i selected conflict).losingValueRefs).Perm
        (service.decisionOf i selected conflict).eligibleValueRefs := by
  have hnodup : (i.ordered.map (·.valueRef)).Nodup :=
    ((sortedBy_perm _ i.candidates).map _).nodup_iff.2 hdistinct
  unfold decisionOf
  cases selected with
  | none => simp
  | some item =>
    have hmem : item.valueRef ∈ i.ordered.map (·.valueRef) :=
      List.mem_map_of_mem (mem_ordered.2 (h item rfl))
    have hsplit := List.perm_cons_erase hmem
    rw [hnodup.erase_eq_filter] at hsplit
    simpa [bne, beq_eq_decide] using hsplit.symm

/-- The epilogue never drops a conflict, and it has one where the values differ. -/
theorem epilogue_isSome (hnone : selected = none → conflict.isSome = true) {a b : String}
    (ha : a ∈ service.comparedValues i.candidates) (hb : b ∈ service.comparedValues i.candidates)
    (hne : a ≠ b) : (service.epilogue i selected conflict).isSome = true := by
  cases selected with
  | none => exact hnone rfl
  | some item =>
    rw [epilogue, if_pos (one_lt_of_differing ha hb hne)]
    rfl

include hdistinct in
/-- **The epilogue justifies what is selected soundly, and nothing else.** -/
theorem justified_iff (h : service.select i = .ok (selected, conflict)) :
    Justified service i (service.decisionOf i selected (service.epilogue i selected conflict))
      (service.epilogue i selected conflict) ↔ Sound service i selected conflict := by
  have hmem : ∀ item, selected = some item → item ∈ i.candidates := by
    rintro item rfl
    exact mem_of_select h
  constructor
  · intro hj
    refine ⟨?_, fun item hitem => ⟨hmem item hitem, ?_⟩⟩
    · rintro rfl
      exact hj.unselected rfl
    · subst hitem
      obtain ⟨other, hother, href, hchosen⟩ := hj.chosen item.valueRef rfl
      obtain rfl := List.inj_on_of_nodup_map hdistinct hother (hmem item rfl) href
      exact hchosen
  · intro hs
    refine ⟨(sortedBy_perm _ _).map _, selected_losing_perm hdistinct hmem, rfl, ?_, ?_, ?_⟩
    · intro hnone
      have hselected : selected = none := map_eq_none_iff.1 hnone
      subst hselected
      exact hs.unselected rfl
    · intro ref href
      obtain ⟨item, hitem, rfl⟩ := map_eq_some_iff.1 href
      exact ⟨item, (hs.chosen item hitem).1, rfl, (hs.chosen item hitem).2⟩
    · exact fun a ha b hb hne => epilogue_isSome hs.unselected ha hb hne

include hsome in
theorem survivorship_of_select (hnamed : i.Named)
    (h : service.select i = .ok (selected, conflict)) : service.survivorship i =
      .ok (service.decisionOf i selected (service.epilogue i selected conflict),
        service.epilogue i selected conflict) := by
  rw [survivorship, if_neg hsome, h]
  simp only [bind, Except.bind, if_pos hnamed]
  rfl

include hsome in
theorem select_of_survivorship
    {decision : CanonicalSurvivorshipDecision}
    (h : service.survivorship i = .ok (decision, conflict)) :
    ∃ selected conflict, service.select i = .ok (selected, conflict) := by
  rw [survivorship, if_neg hsome] at h
  cases hselect : service.select i with
  | error e =>
    rw [hselect] at h
    cases h
  | ok found => exact ⟨found.1, found.2, rfl⟩

include hdistinct in
/-- **The order of the candidates is not seen.** -/
theorem survivorship_perm
    {candidates : List CanonicalValueReference} (h : candidates.Perm i.candidates) :
    service.survivorship { i with candidates := candidates } = service.survivorship i := by
  have hordered : ordered { i with candidates := candidates } = i.ordered := by
    refine sortedBy_eq_of_perm h fun a ha b hb hab => ?_
    exact List.inj_on_of_nodup_map hdistinct (h.mem_iff.1 ha) (h.mem_iff.1 hb) hab
  have htimed : timed { i with candidates := candidates } = i.timed := by
    rw [timed, hordered]
    rfl
  have hnil : candidates = [] ↔ i.candidates = [] := by
    rw [← List.length_eq_zero_iff, h.length_eq, List.length_eq_zero_iff]
  have hconflict : service.conflictOf { i with candidates := candidates } = service.conflictOf i := by
    funext kind rationale state selected review
    rw [conflictOf, conflictOf, hordered]
  have hselect : service.select { i with candidates := candidates } = service.select i := by
    unfold select openConflict
    rw [hordered, htimed, hconflict]
  have hepilogue : service.epilogue { i with candidates := candidates } = service.epilogue i := by
    funext selected conflict
    unfold epilogue
    rw [hordered, hconflict]
  have hdecision : service.decisionOf { i with candidates := candidates } =
      service.decisionOf i := by
    funext selected conflict
    unfold decisionOf
    rw [hordered]
  have hnamed : SurvivorshipInput.Named { i with candidates := candidates } ↔ i.Named := Iff.rfl
  unfold survivorship
  simp only [hnil, hselect, hepilogue, hdecision, hnamed]

variable (service i) in
/-- Survivorship returns, its decision and its conflict are justified, and the order of the candidates
is not seen. -/
def Survives : Prop :=
  (∃ decision conflict, service.survivorship i = .ok (decision, conflict) ∧
      Justified service i decision conflict) ∧
    ∀ candidates : List CanonicalValueReference, candidates.Perm i.candidates →
      service.survivorship { i with candidates := candidates } = service.survivorship i

include hsome hdistinct in
theorem survives_iff (hnamed : i.Named) : Survives service i ↔ SelectsSoundly service i := by
  constructor
  · rintro ⟨⟨decision, conflict, hok, hjustified⟩, -⟩
    obtain ⟨selected, found, hselect⟩ := select_of_survivorship hsome hok
    have hsame := hok.symm.trans (survivorship_of_select hsome hnamed hselect)
    cases hsame
    exact ⟨selected, found, hselect, (justified_iff hdistinct hselect).1 hjustified⟩
  · rintro ⟨selected, found, hselect, hsound⟩
    refine ⟨⟨_, _, survivorship_of_select hsome hnamed hselect, ?_⟩, fun candidates h => ?_⟩
    · exact (justified_iff hdistinct hselect).2 hsound
    · exact survivorship_perm hdistinct h

/-- **Survivorship is justified on no input but those that its policies serve, and on all of them whose
moments are ranked**; its decision and its conflict account for every candidate. -/
theorem survivorship_justified (service : SurvivorshipService) (i : SurvivorshipInput)
    (hsome : i.candidates ≠ []) (hdistinct : (i.candidates.map (·.valueRef)).Nodup)
    (hnamed : i.Named) : (Survives service i → Served service i) ∧
      (Served service i → Ranked i → Survives service i) := by
  rw [survives_iff hsome hdistinct hnamed]
  exact ⟨SelectsSoundly.served hsome hdistinct, Served.selectsSoundly hsome hdistinct⟩

def plainService : SurvivorshipService where
  nfkc value := value
  casefold value := value.map Char.toLower
  survivorshipId attributeId policyRef refs selected :=
    "surv:" ++ attributeId ++ ":" ++ policyRef ++ ":" ++ String.intercalate "," refs ++ ":" ++
      selected.getD "-"
  conflictId attributeId _ refs selected :=
    "ccnf:" ++ attributeId ++ ":" ++ String.intercalate "," refs ++ ":" ++ selected.getD "-"

def nameValue (valueRef value : String) : CanonicalValueReference where
  valueRef := valueRef
  safeValue := some value
  sourceId := some "crm"

def missingName (valueRef : String) : CanonicalValueReference where
  valueRef := valueRef
  nullState := .sourceNullMissing

def nameInput (policy : SurvivorshipPolicy) (candidates : List CanonicalValueReference)
    (temporalValues : List (String × Timestamp)) : SurvivorshipInput where
  attributeId := "ca_customer_name"
  candidates := candidates
  policy := policy
  policyRef := "authority-v1"
  temporalValues := temporalValues
  provenanceRefs := ["prov-1"]

/-- A moment of the first of January 2024, with the minutes on the wall clock; `cet` is an hour ahead of
`utc`. -/
def utc (minutes : Nat) : Timestamp := ⟨⟨738886, by decide⟩, minutes * 60000000, some (0, 0)⟩

def cet (minutes : Nat) : Timestamp := ⟨⟨738886, by decide⟩, minutes * 60000000, some (1, 3600000000)⟩

/-- Ten o'clock in one zone, half past nine and eight o'clock in another: the second is the latest. -/
def recentNames : SurvivorshipInput :=
  nameInput .mostRecentValid [nameValue "v1" "Alice", nameValue "v2" "Alicia", nameValue "v3" "Alice"]
    [("v1", cet 600), ("v2", utc 570), ("v3", utc 480)]

theorem survivorship_justified_recent : Survives plainService recentNames ∧
    (plainService.survivorship recentNames).toOption.map
      (fun r => (r.1.selectedValueRef, r.1.losingValueRefs, r.2.isSome)) =
        some (some "v2", ["v1", "v3"], true) := by
  refine ⟨(survivorship_justified plainService recentNames (by decide) (by decide) (by decide)).2
    ⟨?_, ?_, ?_⟩ ?_, by decide +kernel⟩
  · intro h
    cases h
  · intro h
    cases h
  · exact fun _ _ => by decide
  · intro _ a ha b hb c hc t u v ht hu hv
    have hranked : ∀ a ∈ recentNames.candidates, ∀ b ∈ recentNames.candidates,
        ∀ c ∈ recentNames.candidates, ∀ t ∈ getItem recentNames.temporalValues a.valueRef,
          ∀ u ∈ getItem recentNames.temporalValues b.valueRef,
            ∀ v ∈ getItem recentNames.temporalValues c.valueRef,
              t.after? u = some false → u.after? v = some false → t.after? v = some false := by
      decide +kernel
    exact hranked a ha b hb c hc t ht u hu v hv

/-- A missing value is selected by consensus; where no value is present nothing is recorded; and
moments with and without a time zone raise. -/
theorem survivorship_unjustified : (plainService.survivorship
        (nameInput .consensus [missingName "v1", nameValue "v2" "Alice"] [])).toOption.map
          (fun r => (r.1.selectedValueRef, r.2)) = some (some "v1", none) ∧
      (plainService.survivorship (nameInput .mostComplete [missingName "v1"] [])).toOption.map
          (fun r => (r.1.selectedValueRef, r.2)) = some (none, none) ∧
      (plainService.survivorship (nameInput .mostRecentValid
          [nameValue "v1" "Alice", nameValue "v2" "Alicia"]
          [("v1", ⟨⟨738886, by decide⟩, 0, none⟩), ("v2", ⟨⟨738886, by decide⟩, 0, some (0, 0)⟩)])).toOption = none ∧
      ¬ ∃ decision conflict, plainService.survivorship
            (nameInput .consensus [missingName "v1", nameValue "v2" "Alice"] []) =
            .ok (decision, conflict) ∧
          Justified plainService (nameInput .consensus [missingName "v1", nameValue "v2" "Alice"] [])
            decision conflict := by
  have hselected : (plainService.survivorship
      (nameInput .consensus [missingName "v1", nameValue "v2" "Alice"] [])).toOption.map
        (fun r => (r.1.selectedValueRef, r.2)) = some (some "v1", none) := by decide +kernel
  refine ⟨hselected, by decide +kernel, by decide +kernel, ?_⟩
  rintro ⟨decision, conflict, hok, hjustified⟩
  rw [hok] at hselected
  obtain ⟨href, -⟩ := Prod.mk.inj (some.inj hselected)
  obtain ⟨item, hitem, hname, value, hvalue, -⟩ := hjustified.chosen "v1" href
  have hcases : item = missingName "v1" ∨ item = nameValue "v2" "Alice" := by
    simpa [nameInput] using hitem
  rcases hcases with rfl | rfl
  · cases hvalue
  · exact absurd hname (by decide)

end DirtyDataOlap.Canonical
