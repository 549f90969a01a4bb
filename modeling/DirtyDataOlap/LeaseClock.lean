import DirtyDataOlap.IsoDates
import DirtyDataOlap.JobContracts
import Mathlib.Data.String.Basic

/-!
# The two clocks of the lease fence

`claim_next_job` and `heartbeat_job` compare the texts of datetimes, the other fences the datetimes.
**Texts are ordered as the wall clocks are, then as the offsets are written** (`isoformat_lt_iff`),
so that both clocks agree as long as every worker writes one offset.
-/
namespace DirtyDataOlap

open List

theorem append_lt_append_iff {α : Type} [LinearOrder α] {as bs rest rest' : List α}
    (h : as.length = bs.length) : as ++ rest < bs ++ rest' ↔ as < bs ∨ as = bs ∧ rest < rest' := by
  induction as generalizing bs with
  | nil =>
    rw [eq_nil_of_length_eq_zero h.symm]
    simp
  | cons a as ih =>
    cases bs with
    | nil => cases h
    | cons b bs =>
      rw [cons_append, cons_append, cons_lt_cons_iff, cons_lt_cons_iff, ih (Nat.succ.inj h),
        List.cons.injEq]
      tauto

namespace Date

theorem valueOf_lt {as bs : List Char} (ha : ∀ c ∈ as, c.isDigit = true)
    (hb : ∀ c ∈ bs, c.isDigit = true) (hlen : as.length = bs.length) {m n : Nat}
    (h : m < n ∨ m = n ∧ as < bs) : valueOf as m < valueOf bs n := by
  induction as generalizing bs m n with
  | nil =>
    rw [eq_nil_of_length_eq_zero hlen.symm] at h ⊢
    simpa using h
  | cons a as ih =>
    cases bs with
    | nil => cases hlen
    | cons b bs =>
      rw [forall_mem_cons] at ha hb
      have hda : 48 ≤ a.toNat ∧ a.toNat ≤ 57 := Char.isDigit_iff_toNat.1 ha.1
      have hdb : 48 ≤ b.toNat ∧ b.toNat ≤ 57 := Char.isDigit_iff_toNat.1 hb.1
      refine ih ha.2 hb.2 (Nat.succ.inj hlen) ?_
      simp only
      rcases h with h | ⟨rfl, h⟩
      · omega
      · rcases cons_lt_cons_iff.1 h with hab | ⟨rfl, hrest⟩
        · have hnat : a.toNat < b.toNat := UInt32.lt_iff_toNat_lt.1 hab
          omega
        · exact .inr ⟨rfl, hrest⟩

theorem padded_append_lt {width m n : Nat} {rest rest' : List Char} (hwidth : 0 < width)
    (hm : m < 10 ^ width) (hn : n < 10 ^ width) :
    (padded width m).toList ++ rest < (padded width n).toList ++ rest' ↔
      m < n ∨ m = n ∧ rest < rest' := by
  have hlength := fun k (hk : k < 10 ^ width) => length_padded hwidth hk
  have hlt : ∀ {j k}, j < 10 ^ width → k < 10 ^ width →
      (padded width j).toList < (padded width k).toList → j < k := by
    intro j k hj hk h
    have := valueOf_lt (fun _ hc => isDigit_padded hc) (fun _ hc => isDigit_padded hc)
      ((hlength j hj).trans (hlength k hk).symm) (.inr ⟨rfl, h⟩) (m := 0)
    rwa [valueOf_padded, valueOf_padded] at this
  have hiff : (padded width m).toList < (padded width n).toList ↔ m < n := by
    refine ⟨hlt hm hn, fun h => ?_⟩
    by_contra hnot
    rcases (not_lt.1 hnot).lt_or_eq with hgt | heq
    · exact (hlt hn hm hgt).asymm h
    · exact h.ne' (padded_injective heq)
  rw [append_lt_append_iff ((hlength m hm).trans (hlength n hn).symm), hiff]
  exact or_congr_right (and_congr_left' ⟨padded_injective, fun h => h ▸ rfl⟩)

/-- The months before a month and the days of it are in the year, and before the next. -/
theorem months_le : ∀ leap : Bool, ∀ m < 13,
    ((List.range (m - 1)).map fun k => monthDays leap (k + 1)).sum + monthDays leap m ≤
      365 + leap.toNat ∧
    ∀ m' < 13, m < m' → 1 ≤ m → ((List.range (m - 1)).map fun k => monthDays leap (k + 1)).sum +
      monthDays leap m ≤ ((List.range (m' - 1)).map fun k => monthDays leap (k + 1)).sum := by
  decide +kernel

theorem daysBeforeYear_succ (y : Nat) :
    daysBeforeYear (y + 1 + 1) = daysBeforeYear (y + 1) + (365 + (isLeap (y + 1)).toNat) := by
  have hle : y / 100 ≤ y / 4 := Nat.div_le_div_left (by decide) (by decide)
  unfold daysBeforeYear isLeap
  simp only [Nat.add_sub_cancel, Nat.succ_div, Nat.dvd_iff_mod_eq_zero]
  by_cases h4 : (y + 1) % 4 = 0 <;> by_cases h100 : (y + 1) % 100 = 0 <;>
    by_cases h400 : (y + 1) % 400 = 0 <;> simp [h4, h100, h400] <;> omega

theorem daysBeforeYear_le {y y' : Nat} (hy : 1 ≤ y) (h : y < y') :
    daysBeforeYear y + (365 + (isLeap y).toNat) ≤ daysBeforeYear y' := by
  obtain ⟨y, rfl⟩ := Nat.exists_eq_add_of_le' hy
  obtain ⟨k, rfl⟩ := Nat.exists_eq_add_of_lt h
  clear h
  induction k with
  | zero => exact (daysBeforeYear_succ y).ge
  | succ k ih => exact ih.trans (Nat.le.intro (daysBeforeYear_succ (y + 1 + k)).symm)

theorem ordinal_lt {d e : Date}
    (h : d.year < e.year ∨ d.year = e.year ∧ (d.month < e.month ∨ d.month = e.month ∧ d.day < e.day)) :
    d.ordinal < e.ordinal := by
  obtain ⟨⟨hy, -, hm, hm12, -, hday⟩, hd⟩ := d.ymd_bounds
  obtain ⟨⟨-, -, -, hm12', hday1, -⟩, he⟩ := e.ymd_bounds
  rw [daysInMonth_eq] at hday
  rw [daysBeforeMonth_eq] at hd he
  obtain ⟨hyear, hmonth⟩ := months_le (isLeap d.year) d.month (by omega)
  rcases h with h | ⟨hyears, h | ⟨hmonths, h⟩⟩
  · have := daysBeforeYear_le hy h
    omega
  · have := hmonth e.month (by omega) h hm
    rw [← hyears] at he
    omega
  · rw [← hyears, ← hmonths] at he
    omega

theorem ymd_lt_iff (d e : Date) {P : Prop} : (d.year < e.year ∨ d.year = e.year ∧
    (d.month < e.month ∨ d.month = e.month ∧ (d.day < e.day ∨ d.day = e.day ∧ P))) ↔
      d.ordinal < e.ordinal ∨ d.ordinal = e.ordinal ∧ P := by
  have hlt := ordinal_lt (d := d) (e := e)
  have hgt := ordinal_lt (d := e) (e := d)
  have heq : d.year = e.year → d.month = e.month → d.day = e.day → d.ordinal = e.ordinal := by
    intro hyear hmonth hday
    have := d.ofYmd_ymd
    rw [hyear, hmonth, hday, e.ofYmd_ymd] at this
    rw [Option.some.inj this]
  have hsame : d.ordinal = e.ordinal → d = e := fun h => ordinal_injective h
  grind

end Date

/-- An aware datetime. -/
structure Moment where
  date : Date
  micros : Nat
  offset : Int
  within : micros < 86400000000

namespace Moment

open Date DateTime

variable (a b : Moment)

def isoformat : String := DateTime.isoformat "T" ⟨a.date, a.micros, some a.offset⟩

def instant : Int := DateTime.instant ⟨a.date, a.micros, some a.offset⟩

/-- Before on the wall clock, or at the same time there with an offset whose text comes first. -/
def Before : Prop := a.instant + a.offset < b.instant + b.offset ∨
  a.instant + a.offset = b.instant + b.offset ∧ zone a.offset < zone b.offset

variable {a b}

theorem fraction_lt {m n : Nat} : fractionText m ++ (zone a.offset).toList <
    fractionText n ++ (zone b.offset).toList ↔ m % 1000000 < n % 1000000 ∨
      m % 1000000 = n % 1000000 ∧ zone a.offset < zone b.offset := by
  have hsign : ∀ offset, signText offset < '.' := by
    intro offset
    unfold signText
    split <;> decide
  unfold fractionText
  split_ifs with hm hn hn
  · rw [hm, hn, String.lt_iff_toList_lt]
    simp
  · -- a fraction comes after an offset
    rw [zone_toList, nil_append, cons_append, cons_lt_cons_iff]
    simp [hsign, hm, Nat.pos_of_ne_zero hn]
  · rw [zone_toList b.offset, nil_append, cons_append, cons_lt_cons_iff]
    simp [(hsign _).asymm, (hsign _).ne', hn, hm]
  · rw [cons_append, cons_append, cons_lt_cons_self, padded_append_lt (by decide) (by omega) (by omega),
      String.lt_iff_toList_lt]

/-- **Texts are ordered as the wall clocks are**, then as the offsets are written. -/
theorem isoformat_lt_iff : a.isoformat < b.isoformat ↔ a.Before b := by
  have htext : ∀ t : Moment, t.isoformat.toList = (padded 4 t.date.year).toList ++ '-' ::
      ((padded 2 t.date.month).toList ++ '-' :: ((padded 2 t.date.day).toList ++ 'T' ::
        ((clock t.micros).toList ++ (zone t.offset).toList))) := by
    intro t
    simp [isoformat, DateTime.isoformat, Date.isoformat, String.toList_append]
  obtain ⟨hay, ham, had, -⟩ := a.date.ymd_spec
  obtain ⟨hby, hbm, hbd, -⟩ := b.date.ymd_spec
  have ha := a.within
  have hb := b.within
  rw [String.lt_iff_toList_lt, htext, htext, clock_toList, clock_toList]
  simp only [append_assoc, cons_append]
  rw [padded_append_lt (by decide) (by omega) (by omega), cons_lt_cons_self,
    padded_append_lt (by decide) (by omega) (by omega), cons_lt_cons_self,
    padded_append_lt (by decide) (by omega) (by omega), cons_lt_cons_self, ymd_lt_iff,
    padded_append_lt (by decide) (by omega) (by omega), cons_lt_cons_self,
    padded_append_lt (by decide) (by omega) (by omega), cons_lt_cons_self,
    padded_append_lt (by decide) (by omega) (by omega), fraction_lt]
  unfold Before instant DateTime.instant
  simp only [Option.getD_some, Int.sub_add_cancel]
  by_cases hzone : zone a.offset < zone b.offset <;> simp only [hzone, and_true, and_false, or_false] <;>
    omega

/-- With one offset the texts are in the order of the instants. -/
theorem before_iff (h : a.offset = b.offset) : a.Before b ↔ a.instant < b.instant := by
  unfold Before
  rw [h]
  simp

end Moment

/-- The lease of a row of jobs; only `claim_next_job` writes RUNNING, with an owner and an expiry. -/
structure LeasedJob where
  jobKind : JobKind
  status : JobStatus
  leaseOwner : Option String
  leaseGeneration : Nat
  leaseExpiresAt : Option Moment
  leased : status = .running → leaseOwner.isSome ∧ leaseExpiresAt.isSome

namespace LeasedJob

section
variable (row : LeasedJob) (workerId : String) (generation : Nat) (now : Moment)

/-- What `claim_next_job` asks of a RUNNING job. -/
def reclaimable : Bool :=
  row.status = .running && row.leaseExpiresAt.any (·.isoformat ≤ now.isoformat)

def held : Bool :=
  row.status = .running && row.leaseOwner = some workerId && row.leaseGeneration = generation

def heartbeatJob : Except String Unit :=
  if row.held workerId generation && row.leaseExpiresAt.any (now.isoformat < ·.isoformat) then .ok ()
  else .error "heartbeat rejected by the current lease fence"

/-- The fence of `ensure_stage_attempt` and `_lease_row`. -/
def fence (kind : Bool) (rejected expired : String) : Except String Unit :=
  if !(kind && row.held workerId generation) then .error rejected
  else if row.leaseExpiresAt.all (·.instant ≤ now.instant) then .error expired
  else .ok ()

def ensureStageAttempt : Except String Unit :=
  row.fence workerId generation now (row.jobKind = .stage)
    "stage start rejected by the current lease fence" "stage start rejected after lease expiry"

def leaseRow : Except String Unit :=
  row.fence workerId generation now true
    "job mutation rejected by the lease fence" "job mutation rejected after lease expiry"

/-- What the fenced mutations begin with. -/
def fences : List (Except String Unit) :=
  [row.heartbeatJob workerId generation now, row.ensureStageAttempt workerId generation now,
    row.leaseRow workerId generation now]

/-- Texts and datetimes decide alike whether a lease has expired, and a RUNNING job may be reclaimed
exactly when nobody's mutation passes. -/
structure ClocksAgree : Prop where
  expiry : ∀ lease, row.leaseExpiresAt = some lease →
    (lease.isoformat ≤ now.isoformat ↔ lease.instant ≤ now.instant)
  reclaim : row.status = .running → (row.reclaimable now ↔
    ∀ workerId generation, ∀ passed ∈ row.fences workerId generation now, passed.isOk = false)

end

/-- **The clocks of the lease fence agree**: with one offset always, and on a lease exactly when it and
the instant are in the same order on the wall clocks as they are in time. -/
theorem clocksAgree_iff (a b : Moment) (row : LeasedJob) (now : Moment) :
    (a.offset = b.offset → (a.isoformat < b.isoformat ↔ a.instant < b.instant)) ∧
      (row.ClocksAgree now ↔ ∀ lease, row.leaseExpiresAt = some lease →
        (now.Before lease ↔ now.instant < lease.instant)) := by
  refine ⟨fun h => Moment.isoformat_lt_iff.trans (Moment.before_iff h), ?_⟩
  have htext : ∀ lease : Moment, lease.isoformat ≤ now.isoformat ↔ ¬ now.Before lease := fun lease =>
    not_lt.symm.trans (not_congr Moment.isoformat_lt_iff)
  constructor
  · intro h lease hlease
    have hexpiry := h.expiry lease hlease
    rw [htext, ← not_lt] at hexpiry
    exact not_iff_not.1 hexpiry
  · intro h
    have hexpiry : ∀ lease, row.leaseExpiresAt = some lease →
        (lease.isoformat ≤ now.isoformat ↔ lease.instant ≤ now.instant) := fun lease hlease => by
      rw [htext, h lease hlease, not_lt]
    refine ⟨hexpiry, fun hrun => ?_⟩
    obtain ⟨howner, hlease⟩ := row.leased hrun
    obtain ⟨owner, howner⟩ := Option.isSome_iff_exists.1 howner
    obtain ⟨lease, hlease⟩ := Option.isSome_iff_exists.1 hlease
    have hexpired := hexpiry lease hlease
    simp only [reclaimable, fences, heartbeatJob, ensureStageAttempt, leaseRow, fence, hrun, hlease,
      decide_true, Bool.true_and, Option.any_some, Option.all_some, decide_eq_true_eq]
    constructor
    · intro hle workerId generation passed hmem
      simp only [decide_eq_false hle.not_gt, Bool.and_false, Bool.false_eq_true, if_false,
        if_pos (hexpired.1 hle), mem_cons, not_mem_nil, or_false] at hmem
      rcases hmem with rfl | rfl | rfl <;> first | rfl | (split <;> rfl)
    · intro hall
      by_contra hle
      have hheartbeat := hall owner row.leaseGeneration _ mem_cons_self
      rw [if_pos (by simp [held, hrun, howner, not_le.1 hle])] at hheartbeat
      cases hheartbeat

/-- So many seconds after midnight of UTC, by a clock so many hours to the east. -/
def demoMoment (hours seconds : Nat) : Moment where
  date := ⟨739000, by decide⟩
  micros := (3600 * hours + seconds) * 1000000 % 86400000000
  offset := 3600000000 * hours
  within := Nat.mod_lt _ (by decide)

def demoJob : LeasedJob where
  jobKind := .stage
  status := .running
  leaseOwner := some "worker-a"
  leaseGeneration := 1
  leaseExpiresAt := some (demoMoment 0 30)
  leased := fun _ => ⟨rfl, rfl⟩

end LeasedJob

end DirtyDataOlap
