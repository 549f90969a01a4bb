import Mathlib.Algebra.GroupWithZero.Nat
import Mathlib.Data.List.Dedup
import Mathlib.Data.List.Perm.Basic

/-!
# Keys, functional dependencies and inclusions of columns

A dependency is measured by counting: the distinct keys, the dependent values of each determinant
beyond the first, and the rows without a partner.  Where the rows are read in two ways, a dependency
that holds for one reading **holds for the other unless two rows tell the readings apart**.
-/
namespace DirtyDataOlap.ColumnDependencies

open List

variable {α β κ κ' μ μ' : Type}

def IsKey (key : α → κ) (rows : List α) : Prop := rows.Pairwise fun a b => key a ≠ key b

/-- Rows with equal determinants have equal dependents. -/
def Determines (lhs : α → κ) (rhs : α → μ) (rows : List α) : Prop :=
  ∀ a ∈ rows, ∀ b ∈ rows, lhs a = lhs b → rhs a = rhs b

/-- Each row on the left has a partner on the right. -/
def Included (left : α → κ) (xs : List α) (right : β → κ) (ys : List β) : Prop :=
  ∀ a ∈ xs, ∃ b ∈ ys, left a = right b

instance [DecidableEq κ] (key : α → κ) (rows : List α) : Decidable (IsKey key rows) :=
  inferInstanceAs (Decidable (rows.Pairwise _))

instance [DecidableEq κ] [DecidableEq μ] (lhs : α → κ) (rhs : α → μ) (rows : List α) :
    Decidable (Determines lhs rhs rows) :=
  inferInstanceAs (Decidable (∀ a ∈ rows, ∀ b ∈ rows, lhs a = lhs b → rhs a = rhs b))

instance [DecidableEq κ] (left : α → κ) (xs : List α) (right : β → κ) (ys : List β) :
    Decidable (Included left xs right ys) :=
  inferInstanceAs (Decidable (∀ a ∈ xs, ∃ b ∈ ys, left a = right b))

/-! ## Counting -/

section

variable [DecidableEq κ] [BEq κ] [LawfulBEq κ] [BEq μ] [LawfulBEq μ]

omit [DecidableEq κ] in
theorem nodup_eraseDups (xs : List κ) : xs.eraseDups.Nodup := by
  induction hn : xs.length using Nat.strongRecOn generalizing xs with
  | ind n ih =>
    cases xs with
    | nil => simp
    | cons x xs =>
      have hle := length_filter_le (fun b => !b == x) xs
      rw [length_cons] at hn
      rw [eraseDups_cons, nodup_cons]
      refine ⟨fun hmem => ?_, ih _ (by omega) _ rfl⟩
      rw [mem_eraseDups] at hmem
      simp at hmem

omit [DecidableEq κ] in
theorem eraseDups_eq_self {xs : List κ} (h : xs.Nodup) : xs.eraseDups = xs := by
  induction xs with
  | nil => rfl
  | cons x xs ih =>
    obtain ⟨hx, hxs⟩ := nodup_cons.1 h
    have hfilter : xs.filter (fun b => !b == x) = xs := by
      refine filter_eq_self.2 fun b hb => ?_
      have hne : b ≠ x := fun heq => hx (heq ▸ hb)
      simpa using hne
    rw [eraseDups_cons, hfilter, ih hxs]

theorem length_eraseDups (xs : List κ) : xs.eraseDups.length = xs.dedup.length := by
  refine List.Perm.length_eq ((perm_ext_iff_of_nodup (nodup_eraseDups xs) xs.nodup_dedup).2 ?_)
  intro a
  rw [mem_eraseDups, mem_dedup]

theorem length_eraseDups_le (xs : List κ) : xs.eraseDups.length ≤ xs.length := by
  rw [length_eraseDups]
  exact (dedup_sublist xs).length_le

/-- There are as many distinct keys as rows exactly if no two rows have the same key. -/
theorem isKey_iff_count {key : α → κ} {rows : List α} :
    IsKey key rows ↔ (rows.map key).eraseDups.length = rows.length := by
  have hnodup : IsKey key rows ↔ (rows.map key).Nodup := (pairwise_map).symm
  rw [hnodup, length_eraseDups]
  constructor
  · intro h
    rw [h.dedup, length_map]
  · intro h
    have heq : (rows.map key).dedup = rows.map key :=
      (dedup_sublist _).eq_of_length (by rw [h, length_map])
    exact dedup_eq_self.1 heq

omit [DecidableEq κ] in
theorem length_eraseDups_le_one {xs : List κ} :
    xs.eraseDups.length ≤ 1 ↔ ∀ a ∈ xs, ∀ b ∈ xs, a = b := by
  constructor
  · intro h a ha b hb
    rw [← mem_eraseDups] at ha hb
    match hxs : xs.eraseDups with
    | [] =>
      rw [hxs] at ha
      cases ha
    | [c] =>
      rw [hxs] at ha hb
      rw [mem_singleton.1 ha, mem_singleton.1 hb]
    | _ :: _ :: _ =>
      rw [hxs] at h
      simp at h
  · intro h
    have hnodup := nodup_eraseDups xs
    match hxs : xs.eraseDups with
    | [] => simp
    | [c] => simp
    | a :: b :: rest =>
      rw [hxs] at hnodup
      have ha : a ∈ xs := mem_eraseDups.1 (hxs ▸ mem_cons_self)
      have hb : b ∈ xs := mem_eraseDups.1 (hxs ▸ mem_cons_of_mem _ mem_cons_self)
      exact absurd (h a ha b hb) (ne_of_not_mem_cons (nodup_cons.1 hnodup).1)

/-- The dependent values beyond the first, over all determinants. -/
def excess (lhs : α → κ) (rhs : α → μ) (rows : List α) : Nat :=
  ((rows.map lhs).eraseDups.map fun k =>
    ((rows.filter (lhs · = k)).map rhs).eraseDups.length - 1).sum

theorem determines_iff_excess {lhs : α → κ} {rhs : α → μ} {rows : List α} :
    Determines lhs rhs rows ↔ excess lhs rhs rows = 0 := by
  unfold excess
  rw [List.sum_eq_zero_iff_forall_eq_nat]
  constructor
  · intro h n hn
    obtain ⟨k, -, rfl⟩ := mem_map.1 hn
    refine Nat.sub_eq_zero_of_le (length_eraseDups_le_one.2 fun x hx y hy => ?_)
    obtain ⟨a, ha, rfl⟩ := mem_map.1 hx
    obtain ⟨b, hb, rfl⟩ := mem_map.1 hy
    simp only [mem_filter, decide_eq_true_eq] at ha hb
    exact h a ha.1 b hb.1 (ha.2.trans hb.2.symm)
  · intro h a ha b hb heq
    have hk : lhs a ∈ (rows.map lhs).eraseDups := mem_eraseDups.2 (mem_map.2 ⟨a, ha, rfl⟩)
    have hzero := h _ (mem_map.2 ⟨lhs a, hk, rfl⟩)
    have hle := length_eraseDups_le_one.1 (Nat.le_of_sub_eq_zero hzero)
    refine hle _ (mem_map.2 ⟨a, ?_, rfl⟩) _ (mem_map.2 ⟨b, ?_, rfl⟩)
    · exact mem_filter.2 ⟨ha, decide_eq_true rfl⟩
    · exact mem_filter.2 ⟨hb, decide_eq_true heq.symm⟩

omit [DecidableEq κ] in
theorem included_iff_orphans {left : α → κ} {right : β → κ} {xs : List α} {ys : List β} :
    Included left xs right ys ↔ (xs.filter (left · ∉ (ys.map right).eraseDups)).length = 0 := by
  rw [length_eq_zero_iff, filter_eq_nil_iff]
  refine forall₂_congr fun a _ => ?_
  rw [decide_eq_true_eq, not_not, mem_eraseDups, mem_map]
  exact exists_congr fun b => and_congr_right fun _ => eq_comm

end

/-- A key of one reading is one of the other exactly if no two rows are alike in the other only. -/
theorem isKey_iff_alike {key : α → κ} {key' : α → κ'} {rows : List α} (h : IsKey key' rows) :
    IsKey key rows ↔ rows.Pairwise fun a b => key a = key b → key' a = key' b := by
  constructor
  · exact fun hkey => hkey.imp fun hne heq => absurd heq hne
  · exact fun halike => halike.imp₂ (fun _ _ himp hne heq => hne (himp heq)) h

/-- Two rows that tell the readings of a functional dependency apart. -/
def Conflict (lhs : α → κ) (rhs : α → μ) (lhs' : α → κ') (rhs' : α → μ') (a b : α) : Prop :=
  lhs a = lhs b ∧ rhs a ≠ rhs b ∧ (lhs' a ≠ lhs' b ∨ rhs' a = rhs' b)

theorem determines_iff_conflict {lhs : α → κ} {rhs : α → μ} {lhs' : α → κ'} {rhs' : α → μ'}
    {rows : List α} (h : Determines lhs' rhs' rows) :
    Determines lhs rhs rows ↔ ∀ a ∈ rows, ∀ b ∈ rows, ¬ Conflict lhs rhs lhs' rhs' a b := by
  constructor
  · exact fun hdetermines a ha b hb hconflict =>
      hconflict.2.1 (hdetermines a ha b hb hconflict.1)
  · intro hnone a ha b hb heq
    by_contra hne
    refine hnone a ha b hb ⟨heq, hne, ?_⟩
    by_cases hsame : lhs' a = lhs' b
    · exact .inr (h a ha b hb hsame)
    · exact .inl hsame

/-- An inclusion of the rows that the other reading keeps is one of all rows exactly if the other
rows, and those with a partner in it, have a partner. -/
theorem included_iff_partners {left : α → κ} {right : β → κ} {left' : α → κ'} {right' : β → κ'}
    {xs : List α} {ys : List β} {p : α → Bool} {q : β → Bool}
    (h : Included left' (xs.filter p) right' (ys.filter q)) : Included left xs right ys ↔
      (∀ a ∈ xs, p a = false → ∃ b ∈ ys, left a = right b) ∧
      ∀ a ∈ xs, ∀ b ∈ ys, p a = true → q b = true → left' a = right' b →
        ∃ c ∈ ys, left a = right c := by
  constructor
  · exact fun hincluded => ⟨fun a ha _ => hincluded a ha, fun a ha _ _ _ _ _ => hincluded a ha⟩
  · rintro ⟨hdropped, hkept⟩ a ha
    cases hp : p a with
    | false => exact hdropped a ha hp
    | true =>
      obtain ⟨b, hb, heq⟩ := h a (mem_filter.2 ⟨ha, hp⟩)
      obtain ⟨hb, hq⟩ := mem_filter.1 hb
      exact hkept a ha b hb hp hq heq

end DirtyDataOlap.ColumnDependencies
