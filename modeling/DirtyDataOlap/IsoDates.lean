import DirtyDataOlap.Calendar

/-!
# Dates and their texts

`date.fromisoformat` reads back what `isoformat` writes (`fromisoformat_isoformat`). The calendar part
is arithmetic on the cycles of 400, 100, 4 and 1 years, the text part is about digits.
-/
namespace DirtyDataOlap

open List

namespace Date

/-- What a number is written as: zeros and its digits. -/
theorem padded_toList (width n : Nat) : (padded width n).toList =
    replicate (width - (Nat.toDigits 10 n).length) '0' ++ Nat.toDigits 10 n := by
  have hdigits : (toString n).toList = Nat.toDigits 10 n := by
    rw [Nat.toString_eq_repr, Nat.toList_repr]
  have hlength : (toString n).length = (Nat.toDigits 10 n).length := by
    rw [← hdigits, String.length_toList]
  rw [padded]
  simp only [hlength, String.toList_append, String.toList_ofList, hdigits]

theorem isDigit_padded {width n : Nat} {c : Char} (h : c ∈ (padded width n).toList) :
    c.isDigit = true := by
  rw [padded_toList] at h
  rcases mem_append.1 h with h | h
  · rw [eq_of_mem_replicate h]
    rfl
  · exact Nat.isDigit_of_mem_toDigits (by decide) (by decide) h

/-- The number that digits are read as, after `n`. -/
abbrev valueOf (cs : List Char) (n : Nat) : Nat := cs.foldl (fun n c => 10 * n + (c.toNat - 48)) n

theorem valueOf_padded (width n : Nat) : valueOf (padded width n).toList 0 = n := by
  have hzeros : ∀ (k : Nat) (cs : List Char),
      valueOf (replicate k '0' ++ cs) 0 = valueOf cs 0 := by
    intro k cs
    induction k with
    | zero => rfl
    | succ k ih =>
      rw [replicate_succ, cons_append, valueOf, foldl_cons]
      exact ih
  have h := Nat.ofDigitChars_ten_toDigits (n := n)
  rw [Nat.ofDigitChars_eq_foldl] at h
  rw [padded_toList, hzeros]
  exact h

theorem number_padded (width n : Nat) : number (padded width n).toList = some n := by
  rw [number, if_pos (all_eq_true.2 fun c hc => isDigit_padded hc)]
  exact congrArg some (valueOf_padded width n)

theorem length_padded {width n : Nat} (hwidth : 0 < width) (h : n < 10 ^ width) :
    (padded width n).toList.length = width := by
  have hle : (Nat.toDigits 10 n).length ≤ width :=
    (Nat.length_toDigits_le_iff (by decide) hwidth).2 h
  rw [padded_toList, length_append, length_replicate]
  omega

theorem padded_injective {width m n : Nat}
    (h : (padded width m).toList = (padded width n).toList) : m = n :=
  Option.some.inj ((number_padded width m).symm.trans ((congrArg number h).trans (number_padded width n)))

/-! ## Cycles -/

def monthDays (leap : Bool) (month : Nat) : Nat :=
  match month with
  | 2 => if leap then 29 else 28
  | 4 | 6 | 9 | 11 => 30
  | _ => 31

theorem daysInMonth_eq (year month : Nat) : daysInMonth year month = monthDays (isLeap year) month := by
  rfl

/-- `monthDay`, over the months of a year that is leap or not. -/
def monthDayOf (leap : Bool) : (month fuel : Nat) → (n : Nat) → Nat × Nat
  | month, 0, n => (month, n + 1)
  | month, fuel + 1, n =>
    if n < monthDays leap month then (month, n + 1)
    else monthDayOf leap (month + 1) fuel (n - monthDays leap month)

theorem monthDay_eq (year : Nat) (fuel : Nat) : ∀ month n,
    monthDay year month fuel n = monthDayOf (isLeap year) month fuel n := by
  induction fuel with
  | zero => exact fun _ _ => rfl
  | succ fuel ih =>
    intro month n
    rw [monthDay, monthDayOf, daysInMonth_eq, ih]

theorem monthDayOf_spec : ∀ leap : Bool, ∀ n < 365,
    1 ≤ (monthDayOf leap 1 11 n).1 ∧ (monthDayOf leap 1 11 n).1 ≤ 12 ∧
      1 ≤ (monthDayOf leap 1 11 n).2 ∧
      (monthDayOf leap 1 11 n).2 ≤ monthDays leap (monthDayOf leap 1 11 n).1 ∧
      ((List.range ((monthDayOf leap 1 11 n).1 - 1)).map fun m => monthDays leap (m + 1)).sum +
        (monthDayOf leap 1 11 n).2 = n + 1 := by
  decide +kernel

theorem daysBeforeMonth_eq (year month : Nat) : daysBeforeMonth year month =
    ((List.range (month - 1)).map fun m => monthDays (isLeap year) (m + 1)).sum := by
  unfold daysBeforeMonth
  simp only [daysInMonth_eq]

theorem daysBeforeYear_cycles {a b c e : Nat} (hb : b < 4) (hc : c < 25) (he : e < 4) :
    daysBeforeYear (a * 400 + b * 100 + c * 4 + e + 1) =
      a * 146097 + b * 36524 + c * 1461 + e * 365 := by
  unfold daysBeforeYear
  simp only
  omega

theorem isLeap_of_century (a : Nat) : isLeap (a * 400 + 399 + 1) = true := by
  unfold isLeap
  simp only [Bool.and_eq_true, Bool.or_eq_true, decide_eq_true_eq]
  omega

theorem isLeap_of_cycle {a b c : Nat} (hc : c < 24) :
    isLeap (a * 400 + b * 100 + c * 4 + 3 + 1) = true := by
  unfold isLeap
  simp only [Bool.and_eq_true, Bool.or_eq_true, decide_eq_true_eq, ne_eq]
  omega

theorem ymd_bounds (d : Date) : (1 ≤ d.year ∧ d.year ≤ 9999 ∧ 1 ≤ d.month ∧ d.month ≤ 12 ∧
    1 ≤ d.day ∧ d.day ≤ daysInMonth d.year d.month) ∧
    daysBeforeYear d.year + daysBeforeMonth d.year d.month + d.day = d.ordinal := by
  obtain ⟨ordinal, hlow, hhigh⟩ := d
  unfold maxOrdinal at hhigh
  unfold year month day ymd
  simp only
  generalize ha : (ordinal - 1) / 146097 = a
  generalize hm : (ordinal - 1) % 146097 = m
  generalize hb : m / 36524 = b
  generalize hm2 : m % 36524 = m2
  generalize hc : m2 / 1461 = c
  generalize hm3 : m2 % 1461 = m3
  generalize he : m3 / 365 = e
  generalize hr : m3 % 365 = r
  have hn : ordinal - 1 = a * 146097 + m := by omega
  have hmd : m = b * 36524 + m2 := by omega
  have hm2d : m2 = c * 1461 + m3 := by omega
  have hm3d : m3 = e * 365 + r := by omega
  have hmlt : m < 146097 := by omega
  have hm2lt : m2 < 36524 := by omega
  have hm3lt : m3 < 1461 := by omega
  have hrlt : r < 365 := by omega
  by_cases hlast : e = 4 ∨ b = 4
  · rw [if_pos hlast]
    have hdays : ∀ y, isLeap y = true → daysBeforeMonth y 12 = 335 ∧ daysInMonth y 12 = 31 := by
      intro y hy
      rw [daysBeforeMonth_eq, daysInMonth_eq, hy]
      decide
    by_cases hb4 : b = 4
    · -- the last day of 400 years
      have hyear : a * 400 + b * 100 + c * 4 + e + 1 - 1 = a * 400 + 3 * 100 + 24 * 4 + 3 + 1 := by
        omega
      have hleap := isLeap_of_century a
      obtain ⟨hbefore, hlength⟩ := hdays _ hleap
      have hdby := daysBeforeYear_cycles (a := a) (b := 3) (c := 24) (e := 3) (by omega) (by omega)
        (by omega)
      have hsame : a * 400 + 3 * 100 + 24 * 4 + 3 + 1 = a * 400 + 399 + 1 := by omega
      simp only [hyear]
      rw [hdby, hsame, hbefore, hlength]
      omega
    · -- the last day of 4 years
      have hc24 : c < 24 := by omega
      have hyear : a * 400 + b * 100 + c * 4 + e + 1 - 1 = a * 400 + b * 100 + c * 4 + 3 + 1 := by
        omega
      have hleap := isLeap_of_cycle (a := a) (b := b) hc24
      obtain ⟨hbefore, hlength⟩ := hdays _ hleap
      have hdby := daysBeforeYear_cycles (a := a) (b := b) (c := c) (e := 3) (by omega) (by omega)
        (by omega)
      simp only [hyear]
      rw [hdby, hbefore, hlength]
      omega
  · rw [if_neg hlast]
    have hdby := daysBeforeYear_cycles (a := a) (b := b) (c := c) (e := e) (by omega) (by omega)
      (by omega)
    obtain ⟨h1, h2, h3, h4, h5⟩ := monthDayOf_spec
      (isLeap (a * 400 + b * 100 + c * 4 + e + 1)) r hrlt
    simp only [monthDay_eq, daysBeforeMonth_eq, daysInMonth_eq]
    rw [hdby]
    omega

/-- Year, month and day name the day they are read from. -/
theorem ymd_spec (d : Date) : d.year ≤ 9999 ∧ d.month ≤ 12 ∧ d.day ≤ 31 ∧
    ofYmd d.year d.month d.day = some d := by
  obtain ⟨hbounds, hordinal⟩ := d.ymd_bounds
  refine ⟨hbounds.2.1, hbounds.2.2.2.1, ?_, ?_⟩
  · refine le_trans hbounds.2.2.2.2.2 ?_
    unfold daysInMonth
    split <;> (try split) <;> omega
  · rw [ofYmd, if_pos hbounds, hordinal, ofOrdinal, dif_pos d.bounds]

theorem isoformat_chars (d : Date) : ∃ a b c e m n x y : Char,
    d.isoformat.toList = [a, b, c, e, '-', m, n, '-', x, y] ∧ number [a, b, c, e] = some d.year ∧
      number [m, n] = some d.month ∧ number [x, y] = some d.day := by
  obtain ⟨hyear, hmonth, hday, -⟩ := d.ymd_spec
  have htext : d.isoformat.toList = (padded 4 d.year).toList ++ '-' :: (padded 2 d.month).toList ++
      '-' :: (padded 2 d.day).toList := by
    simp [isoformat, String.toList_append]
  have hylen : (padded 4 d.year).toList.length = 4 := length_padded (by decide) (by omega)
  have hmlen : (padded 2 d.month).toList.length = 2 := length_padded (by decide) (by omega)
  have hdlen : (padded 2 d.day).toList.length = 2 := length_padded (by decide) (by omega)
  have hynum := number_padded 4 d.year
  have hmnum := number_padded 2 d.month
  have hdnum := number_padded 2 d.day
  generalize (padded 4 d.year).toList = ys at htext hylen hynum
  generalize (padded 2 d.month).toList = ms at htext hmlen hmnum
  generalize (padded 2 d.day).toList = ds at htext hdlen hdnum
  obtain ⟨y1, y2, y3, y4, rfl⟩ : ∃ y1 y2 y3 y4, ys = [y1, y2, y3, y4] := by
    rcases ys with _ | ⟨y1, _ | ⟨y2, _ | ⟨y3, _ | ⟨y4, _ | ⟨y5, rest⟩⟩⟩⟩⟩ <;> simp at hylen
    exact ⟨y1, y2, y3, y4, rfl⟩
  obtain ⟨m1, m2, rfl⟩ : ∃ m1 m2, ms = [m1, m2] := length_eq_two.1 hmlen
  obtain ⟨d1, d2, rfl⟩ : ∃ d1 d2, ds = [d1, d2] := length_eq_two.1 hdlen
  exact ⟨y1, y2, y3, y4, m1, m2, d1, d2, htext, hynum, hmnum, hdnum⟩

theorem ofYmd_ymd (d : Date) : ofYmd d.year d.month d.day = some d := d.ymd_spec.2.2.2

end Date

/-! ## Moments -/

namespace DateTime

open Date

/-- The fraction of a second at the end of a clock. -/
def fractionText (micros : Nat) : List Char :=
  if micros % 1000000 = 0 then [] else '.' :: (padded 6 (micros % 1000000)).toList

theorem clock_toList (micros : Nat) : (clock micros).toList =
    (padded 2 (micros / 1000000 / 3600)).toList ++ ':' :: ((padded 2 (micros / 1000000 / 60 % 60)).toList ++
      ':' :: ((padded 2 (micros / 1000000 % 60)).toList ++ fractionText micros)) := by
  unfold clock fractionText
  simp only [String.toList_append]
  split <;> simp

def signText (offset : Int) : Char := if offset < 0 then '-' else '+'

def spanText (micros : Nat) : List Char :=
  if micros % 60000000 = 0 then (padded 2 (micros / 1000000 / 3600)).toList ++
    ':' :: (padded 2 (micros / 1000000 / 60 % 60)).toList
  else (clock micros).toList

theorem zone_toList (offset : Int) : (zone offset).toList = signText offset :: spanText offset.natAbs := by
  unfold zone signText spanText
  simp only
  split_ifs <;> simp [String.toList_append]

end DateTime

end DirtyDataOlap
