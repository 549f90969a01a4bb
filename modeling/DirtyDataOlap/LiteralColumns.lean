import DirtyDataOlap.LiteralReading

/-!
# Literals in one column

A column type of SQL takes values of several types of Python: a `VARCHAR` column takes texts and lists
of texts, a `DECIMAL` column decimals, integers and floats.  **Different values of one column have
different literals, but for a list and the text of its JSON, and for a decimal and a float that have the
same digits and not the same value** (`literals_faithful_iff`).
-/
namespace DirtyDataOlap.Analytical

open List SqlLiterals PyFloat

namespace AnalyticalValue

variable (v w : AnalyticalValue)

/-- The column types of the two values can be one, by the types that the compiler takes for a column. -/
def SameColumn : Prop :=
  ∃ a b sql, sqlType a = .ok sql ∧ sqlType b = .ok sql ∧
    compatible (upper a) v = true ∧ compatible (upper b) w = true

/-- The number that a value is; a float is the number of its bits. -/
def exactValue : AnalyticalValue → Option ℚ
  | .int n => some n
  | .float (.finite _ exact) => some exact
  | .decimal (.finite d) => some d.value
  | _ => Option.none

/-- `v == w`: numbers are compared exactly, whatever their types. -/
def SameValue : Prop := v = w ∨ ∃ q, v.exactValue = some q ∧ w.exactValue = some q

/-- A value that the interpreter can hold, which knows the floats by their `repr`: a finite float has
the value of the float that is written so, and one without a digit but zero is zero. -/
def Held (floatOf : String → Option ℚ) : AnalyticalValue → Prop
  | .float (.finite shortest exact) =>
    floatOf (finiteRepr shortest) = some exact ∧ (shortest.coefficient = 0 → exact = 0)
  | _ => True

end AnalyticalValue

/-- `repr` writes the float with an exponent. -/
def Scientific (d : Dec) : Prop :=
  ¬ (-4 < d.exponent + (toString d.coefficient).length ∧
    d.exponent + (toString d.coefficient).length ≤ 16)

/-- No other value of the column is written as this one is: a list is written as the text of its JSON,
a decimal in the way of some float, and a float without an exponent in the way of some decimal. -/
def AnalyticalValue.Untwinned (floatOf : String → Option ℚ) : AnalyticalValue → Prop
  | .strings _ => False
  | .str text => ∀ texts, text ≠ jsonList texts
  | .float (.finite shortest exact) => exact = shortest.value ∨ Scientific shortest
  | .decimal (.finite d) => ∀ shortest exact, (AnalyticalValue.float (.finite shortest exact)).Held floatOf →
      finiteRepr shortest = d.formatF → exact = d.value
  | _ => True

/-! ## The texts of numbers -/

theorem toDigits_mul_pow {n : Nat} (h : 0 < n) (k : Nat) :
    Nat.toDigits 10 (n * 10 ^ k) = Nat.toDigits 10 n ++ replicate k '0' := by
  induction k with
  | zero => simp
  | succ k ih =>
    have hsplit := Nat.toDigits_append_toDigits (b := 10) (n := n * 10 ^ k) (d := 0) (by decide)
      (by positivity) (by decide)
    rw [Nat.add_zero, ← mul_assoc, mul_comm 10 n, mul_assoc, ← pow_succ'] at hsplit
    rw [← hsplit, ih, replicate_succ', append_assoc]
    rfl

theorem not_letter_sign {d : Dec} {c : Char} (h : c ∈ d.sign.toList) : c = '-' := by
  rw [sign_toList] at h
  split at h
  · exact mem_singleton.1 h
  · cases h

theorem point_mem {fraction : List Char} {c : Char} (h : c ∈ point fraction) : c = '.' ∨ c ∈ fraction := by
  unfold point at h
  split at h
  · cases h
  · exact mem_cons.1 h

/-- What `format(d, "f")` writes has no exponent. -/
theorem not_mem_formatF (d : Dec) : 'e' ∉ d.formatF.toList := by
  obtain ⟨hdigits, hne, -⟩ := natDigits_spec d.coefficient
  unfold Dec.formatF
  by_cases hzero : 0 < d.exponent ∧ d.coefficient = 0
  · rw [if_pos hzero, String.toList_append]
    intro hmem
    rcases mem_append.1 hmem with hsign | hdigit
    · exact absurd (not_letter_sign hsign) (by decide)
    · exact absurd hdigit (by decide)
  · rw [if_neg hzero]
    obtain ⟨whole, fraction, htext, hwhole, -, hfraction, -⟩ :=
      pointed_spec hdigits hne (d.exponent + (toString d.coefficient).length)
    rw [String.toList_append, htext]
    intro hmem
    rcases mem_append.1 hmem with hsign | hmem
    · exact absurd (not_letter_sign hsign) (by decide)
    rcases mem_append.1 hmem with hdigit | hdigit
    · exact absurd (hwhole _ hdigit) (by decide)
    rcases point_mem hdigit with hpoint | hdigit
    · exact absurd hpoint (by decide)
    · exact absurd (hfraction _ hdigit) (by decide)

theorem mem_finiteRepr_of_scientific {d : Dec} (h : Scientific d) : 'e' ∈ (finiteRepr d).toList := by
  unfold finiteRepr
  rw [if_neg h]
  simp [String.toList_append]

/-- A float has a point or an exponent. -/
theorem mem_finiteRepr (d : Dec) : '.' ∈ (finiteRepr d).toList ∨ 'e' ∈ (finiteRepr d).toList := by
  by_cases hnear : Scientific d
  · exact Or.inr (mem_finiteRepr_of_scientific hnear)
  · obtain ⟨hdigits, hne, -⟩ := natDigits_spec d.coefficient
    obtain ⟨whole, fraction, htext, -, -, -, hwhere, -⟩ :=
      pointed_spec hdigits hne (d.exponent + (toString d.coefficient).length)
    left
    unfold finiteRepr
    rw [if_pos (not_not.1 hnear)]
    by_cases hinteger : ((toString d.coefficient).length : Int) ≤
        d.exponent + (toString d.coefficient).length
    · rw [if_pos hinteger]
      simp [String.toList_append]
    · have hfraction : fraction ≠ [] := fun h => hinteger (hwhere.1 h)
      rw [String.toList_append, String.toList_append, htext, point, if_neg hfraction]
      simp

/-- No float is written as an integer is. -/
theorem finiteRepr_ne_toString (d : Dec) (n : Int) : finiteRepr d ≠ toString n := by
  have hint : ∀ c ∈ (toString n).toList, c = '-' ∨ c.isDigit = true := by
    intro c hc
    cases n with
    | ofNat m => exact Or.inr ((natDigits_spec m).1 c hc)
    | negSucc m =>
      have hc : c ∈ ("-" ++ toString (m + 1)).toList := hc
      rw [String.toList_append] at hc
      rcases mem_append.1 hc with hsign | hdigit
      · exact Or.inl (mem_singleton.1 hsign)
      · exact Or.inr ((natDigits_spec (m + 1)).1 c hdigit)
  intro h
  rcases mem_finiteRepr d with hmem | hmem
  · rw [h] at hmem
    exact absurd (hint _ hmem) (by decide)
  · rw [h] at hmem
    exact absurd (hint _ hmem) (by decide)

/-- What is written without an exponent is written so for a decimal, too. -/
theorem exists_formatF {d : Dec} (hzero : d.coefficient ≠ 0) (h : ¬ Scientific d) :
    ∃ d' : Dec, d'.formatF = finiteRepr d := by
  unfold finiteRepr
  rw [if_pos (not_not.1 h)]
  by_cases hinteger : ((toString d.coefficient).length : Int) ≤
      d.exponent + (toString d.coefficient).length
  · -- one place more, for the zero after the point
    obtain ⟨k, hk⟩ := Int.eq_ofNat_of_zero_le (show 0 ≤ d.exponent by omega)
    have hdigits : (toString (d.coefficient * 10 ^ (k + 1))).toList =
        (toString d.coefficient).toList ++ replicate k '0' ++ ['0'] := by
      rw [toString_nat_toList, toString_nat_toList, toDigits_mul_pow (Nat.pos_of_ne_zero hzero),
        replicate_succ', append_assoc]
    have hlength : (toString (d.coefficient * 10 ^ (k + 1))).length =
        (toString d.coefficient).length + k + 1 := by
      rw [← String.length_toList, hdigits, length_append, length_append, length_replicate,
        String.length_toList]
      rfl
    have hpositive : 0 < (toString d.coefficient).length := by
      rw [← String.length_toList]
      exact length_pos_iff.2 (natDigits_spec d.coefficient).2.1
    refine ⟨⟨d.negative, d.coefficient * 10 ^ (k + 1), -1⟩, String.toList_inj.1 ?_⟩
    have hshort : ¬ ((k + (toString d.coefficient).length : Int) ≤ 0) := by omega
    have hplace : (-1 : Int) + (toString (d.coefficient * 10 ^ (k + 1))).length =
        k + (toString d.coefficient).length := by
      rw [hlength]
      push_cast
      ring
    have hlong : ¬ ((toString (d.coefficient * 10 ^ (k + 1))).length : Int) ≤
        k + (toString d.coefficient).length := by
      rw [hlength]
      push_cast
      omega
    have hnat : ((k : Int) + (toString d.coefficient).length).toNat =
        ((toString d.coefficient).toList ++ replicate k '0').length := by
      rw [length_append, length_replicate, String.length_toList]
      omega
    unfold Dec.formatF Dec.pointed
    rw [if_neg (by simp), if_pos hinteger, hk]
    simp only [hplace]
    rw [if_neg hshort, if_neg hshort, if_neg hlong, if_pos (by omega), hdigits, hnat,
      take_left, drop_left]
    simp [String.toList_append, Dec.sign]
  · refine ⟨d, ?_⟩
    unfold Dec.formatF
    rw [if_neg hinteger, if_neg (fun hc => hzero hc.2), String.append_empty]

/-! ## Values with one literal -/

section

variable {floatOf : String → Option ℚ} {v w : AnalyticalValue} {d : Dec} {exact : ℚ}

theorem hasLiteral_of_literal (h : v.literal = w.literal) (hv : v.HasLiteral) : w.HasLiteral := by
  rw [hasLiteral_iff] at hv ⊢
  rwa [← h]

theorem value_of_formatF {d' : Dec} (h : d.formatF = d'.formatF) : d.value = d'.value := by
  have hliteral := isLiteral_formatF d
  rw [h] at hliteral
  exact SqlValue.number.inj (hliteral.unique (isLiteral_formatF d'))

theorem value_of_finiteRepr {d' : Dec} (h : d.formatF = finiteRepr d') : d.value = d'.value := by
  have hliteral := isLiteral_formatF d
  rw [h] at hliteral
  exact SqlValue.number.inj (hliteral.unique (isLiteral_finiteRepr d'))

theorem value_of_toString {n : Int} (h : toString n = d.formatF) : (n : ℚ) = d.value := by
  have hliteral := isLiteral_int n
  rw [h] at hliteral
  exact SqlValue.number.inj (hliteral.unique (isLiteral_formatF d))

theorem sameValue_of_exact {q : ℚ} (hv : v.exactValue = some q) (hw : w.exactValue = some q) :
    v.SameValue w := Or.inr ⟨q, hv, hw⟩

/-- A decimal and a float that are written alike have one value, if one of them has no twin. -/
theorem exact_of_untwinned (hfloat : (AnalyticalValue.float (.finite d exact)).Held floatOf) {d' : Dec}
    (h : finiteRepr d = d'.formatF)
    (hfree : AnalyticalValue.Untwinned floatOf (.float (.finite d exact)) ∨
      AnalyticalValue.Untwinned floatOf (.decimal (.finite d'))) : exact = d'.value := by
  rcases hfree with (hexact | hscientific) | hfree
  · rw [hexact, value_of_finiteRepr h.symm]
  · have hletter := mem_finiteRepr_of_scientific hscientific
    rw [h] at hletter
    exact absurd hletter (not_mem_formatF d')
  · exact hfree d exact hfloat h

theorem denotes_text {text : String} (h : Denotes (.text text) v) :
    v = .str text ∨ ∃ texts, v = .strings texts ∧ text = jsonList texts := by
  cases v with
  | str other => exact Or.inl (congrArg AnalyticalValue.str (Eq.symm h))
  | strings texts => exact Or.inr ⟨texts, rfl, h⟩
  | _ => exact absurd h id

theorem denotes_number {q : ℚ} (h : Denotes (.number q) v) : (∃ n, v = .int n) ∨
    (∃ shortest exact, v = .float (.finite shortest exact)) ∨ ∃ d, v = .decimal (.finite d) := by
  cases v with
  | int n => exact Or.inl ⟨n, rfl⟩
  | float x =>
    cases x with
    | finite shortest exact => exact Or.inr (Or.inl ⟨shortest, exact, rfl⟩)
    | _ => exact absurd h id
  | decimal d =>
    cases d with
    | finite d => exact Or.inr (Or.inr ⟨d, rfl⟩)
    | _ => exact absurd h id
  | _ => exact absurd h id

/-- Numbers that are written alike are equal, but for the twins. -/
theorem sameValue_of_numbers {q : ℚ} (hv : v.Held floatOf) (hw : w.Held floatOf)
    (hfree : v.Untwinned floatOf) (h : v.literal = w.literal) (hqv : Denotes (.number q) v)
    (hqw : Denotes (.number q) w) : v.SameValue w := by
  rcases denotes_number hqv with ⟨n, rfl⟩ | ⟨s, e, rfl⟩ | ⟨d, rfl⟩
  · -- an integer
    rcases denotes_number hqw with ⟨m, rfl⟩ | ⟨s', e', rfl⟩ | ⟨d', rfl⟩
    · have hequal : (m : ℚ) = n := (Eq.symm hqw).trans hqv
      exact sameValue_of_exact rfl (congrArg some hequal)
    · exact absurd h.symm (finiteRepr_ne_toString s' n)
    · exact sameValue_of_exact rfl (congrArg some (value_of_toString h).symm)
  · -- a float
    rcases denotes_number hqw with ⟨m, rfl⟩ | ⟨s', e', rfl⟩ | ⟨d', rfl⟩
    · exact absurd h (finiteRepr_ne_toString s m)
    · have htext : finiteRepr s = finiteRepr s' := h
      have hequal : some e = some e' := hv.1.symm.trans ((congrArg floatOf htext).trans hw.1)
      exact sameValue_of_exact rfl hequal.symm
    · exact sameValue_of_exact rfl (congrArg some (exact_of_untwinned hv h (Or.inl hfree)).symm)
  · -- a decimal
    rcases denotes_number hqw with ⟨m, rfl⟩ | ⟨s', e', rfl⟩ | ⟨d', rfl⟩
    · exact sameValue_of_exact rfl (congrArg some (value_of_toString h.symm))
    · exact sameValue_of_exact rfl (congrArg some (exact_of_untwinned hw h.symm (Or.inr hfree)))
    · exact sameValue_of_exact rfl (congrArg some (value_of_formatF h.symm))

/-- What a literal is read as decides the value, but for the twins. -/
theorem sameValue_of_literal (hv : v.Held floatOf) (hw : w.Held floatOf) (hliteral : v.HasLiteral)
    (hfree : v.Untwinned floatOf) (h : v.literal = w.literal) : v.SameValue w := by
  obtain ⟨denoted, hdenotes, hread⟩ := isLiteral_of_hasLiteral hliteral
  obtain ⟨denoted', hdenotes', hread'⟩ := isLiteral_of_hasLiteral (hasLiteral_of_literal h hliteral)
  rw [← h] at hread'
  obtain rfl := hread.unique hread'
  cases denoted with
  | null =>
    cases v with
    | none =>
      cases w with
      | none => exact Or.inl rfl
      | _ => exact absurd hdenotes' id
    | _ => exact absurd hdenotes id
  | bool b =>
    cases v with
    | bool b' =>
      cases w with
      | bool b'' => exact Or.inl (congrArg AnalyticalValue.bool ((Eq.symm hdenotes).trans hdenotes'))
      | _ => exact absurd hdenotes' id
    | _ => exact absurd hdenotes id
  | number q => exact sameValue_of_numbers hv hw hfree h hdenotes hdenotes'
  | text text =>
    rcases denotes_text hdenotes with rfl | ⟨texts, rfl, -⟩
    · rcases denotes_text hdenotes' with rfl | ⟨texts, -, htext⟩
      · exact Or.inl rfl
      · exact absurd htext (hfree texts)
    · exact absurd hfree id
  | date d =>
    cases v with
    | date d' =>
      cases w with
      | date d'' => exact Or.inl (congrArg AnalyticalValue.date ((Eq.symm hdenotes).trans hdenotes'))
      | _ => exact absurd hdenotes' id
    | _ => exact absurd hdenotes id

/-! ## Twins -/

variable (floatOf v) in
/-- **The literal is read as the value, and no other value of its column has it.** -/
def AnalyticalValue.OwnLiteral : Prop :=
  v.Faithful ∧ ∀ w : AnalyticalValue, w.Held floatOf → v.SameColumn w → ¬ v.SameValue w →
    v.literal ≠ w.literal

theorem AnalyticalValue.OwnLiteral.sameValue (h : v.OwnLiteral floatOf) (hw : w.Held floatOf)
    (hcolumn : v.SameColumn w) (hliteral : v.literal = w.literal) : v.SameValue w := by
  by_contra hne
  exact h.2 w hw hcolumn hne hliteral

theorem sameColumn_text (text : String) (texts : List String) :
    (AnalyticalValue.str text).SameColumn (.strings texts) := by
  refine ⟨"STRING", "STRING_LIST", "VARCHAR", by decide +kernel, by decide +kernel, ?_, ?_⟩
  · show compatible (upper "STRING") (.str "") = true
    decide +kernel
  · show compatible (upper "STRING_LIST") (.strings []) = true
    decide +kernel

theorem sameColumn_number (x : PyFloat) (d : Numeral) :
    (AnalyticalValue.float x).SameColumn (.decimal d) := by
  refine ⟨"DECIMAL", "DECIMAL", "DECIMAL(38, 9)", by decide +kernel, by decide +kernel, ?_, ?_⟩
  · show compatible (upper "DECIMAL") (.float .nan) = true
    decide +kernel
  · show compatible (upper "DECIMAL") (.decimal (.nan false)) = true
    decide +kernel

theorem AnalyticalValue.SameColumn.symm (h : v.SameColumn w) : w.SameColumn v := by
  obtain ⟨a, b, sql, ha, hb, hv, hw⟩ := h
  exact ⟨b, a, sql, hb, ha, hw, hv⟩

theorem not_sameValue_text (text : String) (texts : List String) :
    ¬ (AnalyticalValue.str text).SameValue (.strings texts) := by
  rintro (h | ⟨q, hq, -⟩)
  · cases h
  · cases hq

theorem AnalyticalValue.SameValue.symm (h : v.SameValue w) : w.SameValue v := by
  rcases h with h | ⟨q, hv, hw⟩
  · exact Or.inl h.symm
  · exact Or.inr ⟨q, hw, hv⟩

theorem exact_of_sameValue {d' : Dec}
    (h : (AnalyticalValue.float (.finite d exact)).SameValue (.decimal (.finite d'))) :
    exact = d'.value := by
  rcases h with h | ⟨q, hv, hw⟩
  · cases h
  · exact (Option.some.inj hv).trans (Option.some.inj hw).symm

theorem AnalyticalValue.OwnLiteral.untwinned (hv : v.Held floatOf) (h : v.OwnLiteral floatOf) :
    v.Untwinned floatOf := by
  cases v with
  | strings texts =>
    have hsame := h.sameValue (w := .str (jsonList texts)) trivial (sameColumn_text _ _).symm rfl
    exact absurd hsame.symm (not_sameValue_text _ _)
  | str text =>
    rintro texts rfl
    have hsame := h.sameValue (w := .strings texts) trivial (sameColumn_text _ _) rfl
    exact not_sameValue_text _ _ hsame
  | float x =>
    cases x with
    | finite shortest exact =>
      by_cases hscientific : Scientific shortest
      · exact Or.inr hscientific
      left
      by_cases hzero : shortest.coefficient = 0
      · rw [hv.2 hzero, Dec.value, Dec.signed, hzero]
        simp
      obtain ⟨d, hd⟩ := exists_formatF hzero hscientific
      have hsame := h.sameValue (w := .decimal (.finite d)) trivial (sameColumn_number _ _) hd.symm
      rw [exact_of_sameValue hsame]
      exact value_of_finiteRepr hd
    | _ => trivial
  | decimal d =>
    cases d with
    | finite d =>
      intro shortest exact hfloat htext
      have hsame := h.sameValue hfloat (sameColumn_number _ _).symm htext.symm
      exact exact_of_sameValue hsame.symm
    | _ => trivial
  | _ => trivial

end

/-- **A literal is read as its value and belongs to no other value of the column, exactly if the value
is neither a moment nor an infinite or undefined number, and has no twin.** -/
theorem literals_faithful_iff (floatOf : String → Option ℚ) (v : AnalyticalValue)
    (hv : v.Held floatOf) : v.OwnLiteral floatOf ↔ v.HasLiteral ∧ v.Untwinned floatOf := by
  constructor
  · intro h
    exact ⟨(faithful_iff v).1 h.1, AnalyticalValue.OwnLiteral.untwinned hv h⟩
  · rintro ⟨hliteral, hfree⟩
    refine ⟨(faithful_iff v).2 hliteral, fun w hw _ hne h => hne ?_⟩
    exact sameValue_of_literal hv hw hliteral hfree h

def tenth : Dec := ⟨false, 1, -1⟩

def half : Dec := ⟨false, 5, -1⟩

/-- The number of the bits of the float `0.1`. -/
def tenthBits : ℚ := 3602879701896397 / 36028797018963968

def shortFloats (text : String) : Option ℚ :=
  if text = "0.1" then some tenthBits else if text = "0.5" then some (1 / 2) else none

/-- The decimal `0.5` is the float that is written like it, the decimal `0.1` is not. -/
theorem literals_faithful_half :
    (AnalyticalValue.decimal (.finite half)).OwnLiteral shortFloats ∧
      ¬ (AnalyticalValue.decimal (.finite tenth)).OwnLiteral shortFloats := by
  constructor
  · refine (literals_faithful_iff shortFloats (.decimal (.finite half)) trivial).2 ⟨trivial, fun shortest exact hfloat h => ?_⟩
    have htext : finiteRepr shortest = "0.5" := h.trans (by decide +kernel)
    have hfound : some (1 / 2) = some exact := by
      rw [← hfloat.1, htext]
      rfl
    have hvalue : half.value = 1 / 2 := by
      rw [half, Dec.value, Dec.signed]
      norm_num
    rw [hvalue]
    exact (Option.some.inj hfound).symm
  · intro h
    have hfree := ((literals_faithful_iff shortFloats (.decimal (.finite tenth)) trivial).1 h).2
    have hequal := hfree tenth tenthBits ⟨by decide +kernel, fun hzero => absurd hzero (by decide)⟩
      (by decide +kernel)
    rw [tenth, Dec.value, Dec.signed, tenthBits] at hequal
    norm_num at hequal

/-- Noon of the first day of 2024 is written as a date with a time, and an infinite float as a word; a
list is written as the text of its JSON, and the float `0.1` as the decimal. -/
theorem moment_not_faithful :
    ((Date.ofYmd 2024 1 1).map fun d => (AnalyticalValue.datetime ⟨d, 43200000000, none⟩).literal) =
      some "DATE '2024-01-01T12:00:00'" ∧
    (∀ d, ¬ (AnalyticalValue.datetime ⟨d, 43200000000, none⟩).Faithful) ∧
    (AnalyticalValue.float (.infinity false)).literal = "inf" ∧
    ¬ (AnalyticalValue.float (.infinity false)).Faithful ∧
    (AnalyticalValue.str "[\"a\"]").SameColumn (.strings ["a"]) ∧
    (AnalyticalValue.str "[\"a\"]").literal = (AnalyticalValue.strings ["a"]).literal ∧
    (AnalyticalValue.float (.finite tenth tenthBits)).SameColumn (.decimal (.finite tenth)) ∧
    (AnalyticalValue.float (.finite tenth tenthBits)).literal =
      (AnalyticalValue.decimal (.finite tenth)).literal ∧
    tenthBits ≠ tenth.value := by
  refine ⟨by decide +kernel, fun _ h => (faithful_iff _).1 h, rfl, fun h => (faithful_iff _).1 h,
    sameColumn_text _ _, by decide +kernel, sameColumn_number _ _, by decide +kernel, ?_⟩
  rw [tenth, Dec.value, Dec.signed, tenthBits]
  norm_num

end DirtyDataOlap.Analytical
