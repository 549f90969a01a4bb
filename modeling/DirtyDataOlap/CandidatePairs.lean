import DirtyDataOlap.PartitionReduction

/-!
# Candidate pairs

`_candidate_pairs` walks the blocks key by key. Its result is characterized by what it is for:
the identities of the unordered pairs of distinct records that share a blocking key, each once.
-/
namespace DirtyDataOlap.Scale

open List

section Combinations

variable {α : Type}

variable {xs : List α}

theorem mem_of_mem_combinations {p : α × α} (h : p ∈ combinations xs) : p.1 ∈ xs ∧ p.2 ∈ xs := by
  induction xs with
  | nil => simp [combinations] at h
  | cons x xs ih =>
    rcases mem_append.1 h with h | h
    · obtain ⟨y, hy, rfl⟩ := mem_map.1 h
      exact ⟨by simp, by simp [hy]⟩
    · have := ih h
      exact ⟨by simp [this.1], by simp [this.2]⟩

theorem ne_of_mem_combinations (hxs : xs.Nodup) {p : α × α} (h : p ∈ combinations xs) :
    p.1 ≠ p.2 := by
  induction xs with
  | nil => simp [combinations] at h
  | cons x xs ih =>
    obtain ⟨hx, hxs⟩ := nodup_cons.1 hxs
    rcases mem_append.1 h with h | h
    · obtain ⟨y, hy, rfl⟩ := mem_map.1 h
      exact fun he => hx (show x ∈ xs from (show x = y from he) ▸ hy)
    · exact ih hxs h

theorem mem_combinations_or {a b : α} (ha : a ∈ xs) (hb : b ∈ xs) (hne : a ≠ b) :
    (a, b) ∈ combinations xs ∨ (b, a) ∈ combinations xs := by
  induction xs with
  | nil => simp at ha
  | cons x xs ih =>
    simp only [combinations, mem_append, mem_map, Prod.mk.injEq]
    rcases mem_cons.1 ha with rfl | ha
    · rcases mem_cons.1 hb with rfl | hb
      · exact absurd rfl hne
      · exact .inl (.inl ⟨b, hb, rfl, rfl⟩)
    · rcases mem_cons.1 hb with rfl | hb
      · exact .inr (.inl ⟨a, by assumption, rfl, rfl⟩)
      · exact (ih ha hb).imp .inr .inr

end Combinations

/-- Two records have a blocking key in common. -/
def SharesKey (a b : ScaleInputRow) : Prop := ∃ key, key ∈ a.blockingKeys ∧ key ∈ b.blockingKeys

namespace ScaleService

variable (service : ScaleService) (descriptor : ScaleInputDescriptor)

/-- The identity of the unordered pair of two records. -/
def pairId (left right : String) : String :=
  service.stableId "candidate-pair" (.candidatePair descriptor.scope.runId descriptor.scope.sourceId
    descriptor.scope.snapshotId descriptor.scope.tableId (min left right) (max left right))

theorem pairId_comm (left right : String) :
    service.pairId descriptor left right = service.pairId descriptor right left := by
  rw [pairId, pairId, min_comm, max_comm]

theorem pairIdFor_eq {left right : String} (h : left ≠ right) :
    service.pairIdFor descriptor left right = .ok (service.pairId descriptor left right) := by
  simp [pairIdFor, pairId, h]

def blockKeys (rows : List ScaleInputRow) : List String := sortedSet (rows.flatMap (·.blockingKeys))

/-- The pairs of every block, before repetitions are removed. -/
def allPairs (rows : List ScaleInputRow) : List String :=
  (blockKeys rows).flatMap fun key => (combinations (blockMembers rows key)).map fun pair =>
    service.pairId descriptor pair.1 pair.2

/-- No block has more pairs than the policy allows. -/
def BlocksBounded (rows : List ScaleInputRow) (maxPairs : Nat) : Prop :=
  ∀ key ∈ blockKeys rows,
    (blockMembers rows key).length * ((blockMembers rows key).length - 1) / 2 ≤ maxPairs

variable {descriptor}

variable {rows : List ScaleInputRow} {maxPairs : Nat} {pairs : List String} {key : String}

theorem mem_blockMembers {ref : String} :
    ref ∈ blockMembers rows key ↔ ∃ row ∈ rows, key ∈ row.blockingKeys ∧ row.rowRef = ref := by
  simp only [blockMembers, mem_sortedSet, mem_map, mem_filter, decide_eq_true_eq,
    and_assoc]

theorem mem_blockKeys : key ∈ blockKeys rows ↔ ∃ row ∈ rows, key ∈ row.blockingKeys := by
  simp [blockKeys]

theorem mem_allPairs {id : String} :
    id ∈ service.allPairs descriptor rows ↔ ∃ a ∈ rows, ∃ b ∈ rows, a.rowRef ≠ b.rowRef ∧
      SharesKey a b ∧ id = service.pairId descriptor a.rowRef b.rowRef := by
  simp only [allPairs, mem_flatMap, mem_map]
  constructor
  · rintro ⟨key, _, pair, hpair, rfl⟩
    obtain ⟨h1, h2⟩ := mem_of_mem_combinations hpair
    have hne := ne_of_mem_combinations (nodup_sortedSet _) hpair
    obtain ⟨a, ha, hka, hra⟩ := mem_blockMembers.1 h1
    obtain ⟨b, hb, hkb, hrb⟩ := mem_blockMembers.1 h2
    rw [← hra, ← hrb] at hne ⊢
    exact ⟨a, ha, b, hb, hne, ⟨key, hka, hkb⟩, rfl⟩
  · rintro ⟨a, ha, b, hb, hne, ⟨key, hka, hkb⟩, rfl⟩
    have hkey := mem_blockKeys.2 ⟨a, ha, hka⟩
    have h1 := mem_blockMembers.2 ⟨a, ha, hka, rfl⟩
    have h2 := mem_blockMembers.2 ⟨b, hb, hkb, rfl⟩
    rcases mem_combinations_or h1 h2 hne with h | h
    · exact ⟨key, hkey, _, h, rfl⟩
    · exact ⟨key, hkey, _, h, service.pairId_comm descriptor _ _⟩

theorem blockPairs_eq_ok : service.blockPairs descriptor rows maxPairs key = .ok pairs ↔
      (blockMembers rows key).length * ((blockMembers rows key).length - 1) / 2 ≤ maxPairs ∧
      pairs = (combinations (blockMembers rows key)).map fun pair =>
        service.pairId descriptor pair.1 pair.2 := by
  have hids : (combinations (blockMembers rows key)).mapM (fun pair =>
      service.pairIdFor descriptor pair.1 pair.2) = .ok ((combinations (blockMembers rows key)).map
        fun pair => service.pairId descriptor pair.1 pair.2) :=
    mapM_ok fun pair hpair =>
      service.pairIdFor_eq descriptor (ne_of_mem_combinations (nodup_sortedSet _) hpair)
  simp only [blockPairs]
  split <;> rename_i h
  · simp only [reduceCtorEq, false_iff, not_and]
    omega
  · rw [hids]
    simp only [Except.ok.injEq]
    exact ⟨fun he => ⟨by omega, he.symm⟩, fun he => he.2.symm⟩

/-- **Candidate pairs** are the pairs of all blocks, sorted and without repetitions, unless a block
or the whole set is too large. -/
theorem candidatePairs_eq_ok : service.candidatePairs descriptor rows maxPairs = .ok pairs ↔
      BlocksBounded rows maxPairs ∧ pairs.length ≤ maxPairs ∧
      pairs = sortedSet (service.allPairs descriptor rows) := by
  have hkeys : ∀ lists, (blockKeys rows).mapM (service.blockPairs descriptor rows maxPairs) =
      .ok lists ↔ BlocksBounded rows maxPairs ∧ lists = (blockKeys rows).map fun key =>
        (combinations (blockMembers rows key)).map fun pair =>
          service.pairId descriptor pair.1 pair.2 :=
    fun lists => mapM_eq_ok_iff fun _ _ => service.blockPairs_eq_ok
  simp only [candidatePairs]
  rw [bind_eq_ok]
  constructor
  · rintro ⟨lists, hlists, hpairs⟩
    obtain ⟨hbound, rfl⟩ := (hkeys lists).1 hlists
    split at hpairs <;> rename_i hlen
    · simp at hpairs
    · simp only [Except.ok.injEq] at hpairs
      subst hpairs
      exact ⟨hbound, by omega, by rw [allPairs, flatMap_def]⟩
  · rintro ⟨hbound, hlen, rfl⟩
    refine ⟨_, (hkeys _).2 ⟨hbound, rfl⟩, ?_⟩
    rw [allPairs, flatMap_def] at hlen ⊢
    rw [if_neg (by omega)]

theorem mem_candidatePairs (h : service.candidatePairs descriptor rows maxPairs = .ok pairs)
    {id : String} : id ∈ pairs ↔ ∃ a ∈ rows, ∃ b ∈ rows, a.rowRef ≠ b.rowRef ∧ SharesKey a b ∧
      id = service.pairId descriptor a.rowRef b.rowRef := by
  rw [((service.candidatePairs_eq_ok).1 h).2.2, mem_sortedSet, mem_allPairs]

theorem candidatePairs_error {failure : Failure}
    (h : service.candidatePairs descriptor rows maxPairs = .error failure) :
    ∃ text, failure = .fanout text := by
  have hblock : ∀ key, service.blockPairs descriptor rows maxPairs key = .error failure →
      ∃ text, failure = .fanout text := by
    intro key hkey
    simp only [blockPairs] at hkey
    split at hkey
    · exact ⟨_, (Except.error.inj hkey).symm⟩
    · obtain ⟨pair, hpair, hid⟩ := mapM_eq_error hkey
      rw [service.pairIdFor_eq descriptor (ne_of_mem_combinations (nodup_sortedSet _) hpair)] at hid
      simp at hid
  simp only [candidatePairs] at h
  cases hkeys : (sortedSet (rows.flatMap (·.blockingKeys))).mapM
      (service.blockPairs descriptor rows maxPairs) with
  | error failure' =>
    simp only [hkeys, bind, Except.bind, Except.error.injEq] at h
    obtain ⟨key, _, hkey⟩ := mapM_eq_error hkeys
    exact hblock key (by rw [hkey, h])
  | ok lists =>
    simp only [hkeys, bind, Except.bind] at h
    split at h
    · exact ⟨_, (Except.error.inj h).symm⟩
    · simp at h

theorem candidatePairs_of_subset {part : List ScaleInputRow}
    (h : service.candidatePairs descriptor rows maxPairs = .ok pairs)
    (hsub : ∀ row ∈ part, row ∈ rows) :
    ∃ partPairs, service.candidatePairs descriptor part maxPairs = .ok partPairs ∧
      ∀ id ∈ partPairs, id ∈ pairs := by
  obtain ⟨hbound, hlen, rfl⟩ := (service.candidatePairs_eq_ok).1 h
  have hin : ∀ id ∈ service.allPairs descriptor part, id ∈ service.allPairs descriptor rows := by
    intro id hid
    obtain ⟨a, ha, b, hb, hrest⟩ := (service.mem_allPairs).1 hid
    exact (service.mem_allPairs).2 ⟨a, hsub a ha, b, hsub b hb, hrest⟩
  have hpairs : (sortedSet (service.allPairs descriptor part)).length ≤
      (sortedSet (service.allPairs descriptor rows)).length :=
    ((nodup_sortedSet _).subperm fun id hid => by simpa using hin id (by simpa using hid)).length_le
  refine ⟨_, (service.candidatePairs_eq_ok).2 ⟨?_, by omega, rfl⟩, by simpa using hin⟩
  intro key hkey
  obtain ⟨row, hrow, hk⟩ := mem_blockKeys.1 hkey
  have hblock := hbound key (mem_blockKeys.2 ⟨row, hsub row hrow, hk⟩)
  have hmembers : (blockMembers part key).length ≤ (blockMembers rows key).length := by
    refine ((nodup_sortedSet _).subperm fun ref href => ?_).length_le
    obtain ⟨a, ha, hka, hra⟩ := mem_blockMembers.1 href
    exact mem_blockMembers.2 ⟨a, hsub a ha, hka, hra⟩
  refine le_trans (Nat.div_le_div_right ?_) hblock
  exact Nat.mul_le_mul hmembers (by omega)

end ScaleService

end DirtyDataOlap.Scale
