import DirtyDataOlap.AnalyticalCompiler
import DirtyDataOlap.SqlLiterals

/-!
# Literals of analytical values

**Every value is read back from its literal, but a moment, which is written as a date, and the
numbers that are not finite, which are written as words** (`faithful_iff`).
-/
namespace DirtyDataOlap.Analytical

open List SqlLiterals

/-! ## `_literal` -/

def jsonChar (c : Char) : String :=
  if c = Char.ofNat 34 then "\\\""
  else if c = '\\' then "\\\\"
  else if c = '\n' then "\\n"
  else if c = '\r' then "\\r"
  else if c = '\t' then "\\t"
  else if c.toNat = 8 then "\\b"
  else if c.toNat = 12 then "\\f"
  else if c.toNat < 32 then "\\u" ++ hexDigits 4 c.toNat
  else String.singleton c

/-- `json.dumps(texts, ensure_ascii=False, separators=(",", ":"))`. -/
def jsonList (texts : List String) : String :=
  "[" ++ String.intercalate "," (texts.map fun text =>
    "\"" ++ String.join (text.toList.map jsonChar) ++ "\"") ++ "]"

def escapeQuote (c : Char) : List Char := if c = Char.ofNat 39 then [c, c] else [c]

def quotedText (text : String) : String :=
  "'" ++ String.ofList (text.toList.flatMap escapeQuote) ++ "'"

def AnalyticalValue.literal : AnalyticalValue → String
  | .none => "NULL"
  | .bool b => if b then "TRUE" else "FALSE"
  | .decimal d => d.formatF
  | .int n => toString n
  | .float x => x.str
  | .date d => "DATE " ++ quotedText d.isoformat
  | .datetime t => "DATE " ++ quotedText (t.isoformat "T")
  | .strings texts => quotedText (jsonList texts)
  | .str text => quotedText text

/-! ## What a literal stands for -/

/-- What a literal stands for is the value; a list is the text of its JSON. -/
def Denotes : SqlValue → AnalyticalValue → Prop
  | .null, .none => True
  | .bool b, .bool b' => b = b'
  | .number q, .int n => q = n
  | .number q, .float (.finite shortest _) => q = shortest.value
  | .number q, .decimal (.finite d) => q = d.value
  | .text text, .str text' => text = text'
  | .text text, .strings texts => text = jsonList texts
  | .date d, .date d' => d = d'
  | _, _ => False

/-- A value that is not a moment and not an infinite or undefined number. -/
def AnalyticalValue.HasLiteral : AnalyticalValue → Prop
  | .datetime _ | .float (.infinity _) | .float .nan | .decimal (.infinity _) | .decimal (.nan _) => False
  | _ => True

def AnalyticalValue.Faithful (value : AnalyticalValue) : Prop :=
  ∃ denoted, Denotes denoted value ∧ IsLiteral value.literal denoted

theorem readKeyword_word (word rest : List Char) (hword : ∀ c ∈ word, c.isAlpha = true)
    (hrest : ∀ c ∈ rest.head?, c.isAlpha = false) :
    (word ++ rest).takeWhile Char.isAlpha = word ∧ (word ++ rest).dropWhile Char.isAlpha = rest := by
  rw [takeWhile_append_of_pos hword, dropWhile_append_of_pos hword]
  cases rest with
  | nil => simp
  | cons c rest =>
    have hc := hrest c rfl
    rw [takeWhile_cons_of_neg (by simp [hc]), dropWhile_cons_of_neg (by simp [hc]),
      append_nil]
    exact ⟨rfl, rfl⟩

theorem Ends.not_alpha {rest : List Char} (h : Ends rest) : ∀ c ∈ rest.head?, c.isAlpha = false := by
  intro c hc
  rcases h c hc with rfl | rfl <;> decide

theorem isLiteral_null : IsLiteral "NULL" .null := by
  intro rest hrest
  obtain ⟨hword, hafter⟩ := readKeyword_word "NULL".toList rest (by simp) (Ends.not_alpha hrest)
  show readKeyword ("NULL".toList ++ rest) = _
  unfold readKeyword
  simp only [hword, hafter]
  rfl

theorem isLiteral_bool (b : Bool) : IsLiteral (if b then "TRUE" else "FALSE") (.bool b) := by
  intro rest hrest
  cases b with
  | true =>
    obtain ⟨hword, hafter⟩ := readKeyword_word "TRUE".toList rest (by simp) (Ends.not_alpha hrest)
    show readKeyword ("TRUE".toList ++ rest) = _
    unfold readKeyword
    simp only [hword, hafter]
    rfl
  | false =>
    obtain ⟨hword, hafter⟩ := readKeyword_word "FALSE".toList rest (by simp) (Ends.not_alpha hrest)
    show readKeyword ("FALSE".toList ++ rest) = _
    unfold readKeyword
    simp only [hword, hafter]
    rfl

theorem isLiteral_text (text : String) : IsLiteral (quotedText text) (.text text) :=
  isLiteral_quoted text

theorem readLiteral_date (text : String) (rest : List Char) (hrest : Ends rest) :
    readLiteral (("DATE " ++ quotedText text).toList ++ rest) =
      (readDate text.toList).map fun d => (.date d, rest) := by
  have hlist : ("DATE " ++ quotedText text).toList ++ rest = "DATE".toList ++
      (' ' :: quote :: (text.toList.flatMap doubled ++ quote :: rest)) := by
    unfold quotedText
    simp [String.toList_append, String.toList_ofList, quote]
    rfl
  rw [hlist]
  show ((readQuoted _).bind fun r => (readDate r.1).bind fun d => some (SqlValue.date d, r.2)) = _
  rw [readQuoted_doubled _ hrest.not_quote, Option.bind_some]
  cases readDate text.toList <;> rfl

theorem isLiteral_date (d : Date) : IsLiteral ("DATE " ++ quotedText d.isoformat) (.date d) := by
  intro rest hrest
  rw [readLiteral_date _ rest hrest]
  obtain ⟨y1, y2, y3, y4, m1, m2, d1, d2, htext, hyear, hmonth, hday⟩ := d.isoformat_chars
  rw [htext, readDate, hyear, hmonth, hday]
  show (Date.ofYmd _ _ _).map _ = _
  rw [d.ofYmd_ymd]
  rfl

/-- A moment is written as a date with more than ten characters, which is none. -/
theorem readDate_moment (t : DateTime) : readDate (t.isoformat "T").toList = none := by
  obtain ⟨_, _, _, _, _, _, _, _, htext, -⟩ := t.date.isoformat_chars
  unfold DateTime.isoformat
  simp only [String.toList_append, htext]
  rfl

/-! ## Numbers -/

/-- The texts of digits with a point are read as the digits, moved by the place of the point. -/
theorem pointed_spec {digits : String} (hdigits : AllDigits digits.toList) (hne : digits.toList ≠ [])
    (place : Int) : ∃ whole fraction, (Dec.pointed digits place).toList = whole ++ point fraction ∧
      AllDigits whole ∧ whole ≠ [] ∧ AllDigits fraction ∧
      (fraction = [] ↔ (digits.length : Int) ≤ place) ∧ ∀ (negative : Bool) (e : Int),
        (⟨negative, natOf (whole ++ fraction), e - fraction.length⟩ : Dec).value =
          (⟨negative, natOf digits.toList, e + (place - digits.length)⟩ : Dec).value := by
  have hlength : digits.toList.length = digits.length := String.length_toList
  have hpositive : 0 < digits.toList.length := length_pos_iff.2 hne
  unfold Dec.pointed
  by_cases hsmall : place ≤ 0
  · -- zeros after the point, then the digits
    rw [if_pos hsmall]
    refine ⟨['0'], replicate (-place).toNat '0' ++ digits.toList, ?_, allDigits_zeros 1, by simp,
      (allDigits_zeros _).append hdigits, ?_, ?_⟩
    · have hnil : replicate (-place).toNat '0' ++ digits.toList ≠ [] := by simp [hne]
      rw [point, if_neg hnil]
      simp [String.toList_append, String.toList_ofList]
    · constructor
      · intro hnil
        exact absurd (append_eq_nil_iff.1 hnil).2 hne
      · intro h
        omega
    · intro negative e
      have hvalue : natOf (['0'] ++ (replicate (-place).toNat '0' ++ digits.toList)) =
          natOf digits.toList := by
        rw [natOf_append, natOf_append, natOf_zeros]
        simp [natOf]
      rw [hvalue, length_append, length_replicate, hlength]
      congr 2
      omega
  · rw [if_neg hsmall]
    by_cases hlarge : (digits.length : Int) ≤ place
    · -- the digits, then zeros
      rw [if_pos hlarge]
      refine ⟨digits.toList ++ replicate (place - digits.length).toNat '0', [], ?_,
        hdigits.append (allDigits_zeros _), by simp [hne], allDigits_zeros 0, by simp [hlarge], ?_⟩
      · simp [point, String.toList_append, String.toList_ofList]
      · intro negative e
        rw [append_nil, natOf_append, natOf_zeros, Nat.add_zero, length_replicate, value_scale]
        congr 2
        simp only [length_nil]
        omega
    · rw [if_neg hlarge]
      have hsplit := take_append_drop place.toNat digits.toList
      have htake : (digits.toList.take place.toNat).length = place.toNat := by
        rw [length_take]
        omega
      have hdrop : (digits.toList.drop place.toNat).length = digits.length - place.toNat := by
        rw [length_drop, hlength]
      refine ⟨digits.toList.take place.toNat, digits.toList.drop place.toNat, ?_,
        fun c hc => hdigits c (mem_of_mem_take hc), ?_, fun c hc => hdigits c (mem_of_mem_drop hc),
        ?_, ?_⟩
      · have hnil : digits.toList.drop place.toNat ≠ [] := by
          rw [← length_pos_iff, hdrop]
          omega
        rw [point, if_neg hnil]
        simp [String.toList_append, String.toList_ofList]
      · rw [← length_pos_iff, htake]
        omega
      · constructor
        · intro hnil
          rw [hnil] at hdrop
          simp only [length_nil] at hdrop
          omega
        · exact fun h => absurd h hlarge
      · intro negative e
        rw [hsplit, hdrop]
        congr 2
        omega

theorem toString_nat_toList (n : Nat) : (toString n).toList = Nat.toDigits 10 n := by
  rw [Nat.toString_eq_repr, Nat.toList_repr]

theorem natDigits_spec (n : Nat) : AllDigits (toString n).toList ∧ (toString n).toList ≠ [] ∧
    natOf (toString n).toList = n := by
  rw [toString_nat_toList]
  exact ⟨allDigits_toDigits n, Nat.toDigits_ne_nil, natOf_toDigits n⟩

theorem sign_toList (d : Dec) : d.sign.toList = if d.negative then ['-'] else [] := by
  unfold Dec.sign
  split <;> rfl

theorem value_pointed {d : Dec} {whole fraction : List Char} {place : Int}
    (hpointed : ∀ (negative : Bool) (e : Int),
      (⟨negative, natOf (whole ++ fraction), e - fraction.length⟩ : Dec).value =
        (⟨negative, natOf (toString d.coefficient).toList,
          e + (place - (toString d.coefficient).length)⟩ : Dec).value)
    (hvalue : natOf (toString d.coefficient).toList = d.coefficient) (e : Int)
    (hplace : e + (place - (toString d.coefficient).length) = d.exponent) :
    d.value = (⟨d.negative, natOf (whole ++ fraction), e - fraction.length⟩ : Dec).value := by
  rw [hpointed, hvalue, hplace]

theorem isLiteral_formatF (d : Dec) : IsLiteral d.formatF (.number d.value) := by
  obtain ⟨hdigits, hne, hvalue⟩ := natDigits_spec d.coefficient
  unfold Dec.formatF
  by_cases hzero : 0 < d.exponent ∧ d.coefficient = 0
  · rw [if_pos hzero]
    have hnumber : d.value = (⟨d.negative, natOf (['0'] ++ []), 0 - (([] : List Char).length : Int)⟩ :
        Dec).value := by
      unfold Dec.value Dec.signed
      rw [hzero.2]
      simp [natOf]
    rw [hnumber]
    refine isLiteral_number d.negative ?_ (allDigits_zeros 1) (by simp) (allDigits_zeros 0) isExponent_nil
    rw [String.toList_append, sign_toList]
    rfl
  · rw [if_neg hzero]
    obtain ⟨whole, fraction, htext, hwhole, hwne, hfraction, -, hpointed⟩ :=
      pointed_spec hdigits hne (d.exponent + (toString d.coefficient).length)
    rw [value_pointed hpointed hvalue 0 (by omega)]
    refine isLiteral_number d.negative ?_ hwhole hwne hfraction isExponent_nil
    rw [String.toList_append, sign_toList, htext]
    simp

theorem isLiteral_int (n : Int) : IsLiteral (toString n) (.number n) := by
  have hvalue : ∀ (negative : Bool) (m : Nat), (⟨negative, natOf ((toString m).toList ++ []),
      0 - (([] : List Char).length : Int)⟩ : Dec).value = if negative then -(m : ℚ) else m := by
    intro negative m
    rw [append_nil, (natDigits_spec m).2.2]
    unfold Dec.value Dec.signed
    cases negative <;> simp
  cases n with
  | ofNat m =>
    obtain ⟨hdigits, hne, -⟩ := natDigits_spec m
    have hnumber := hvalue false m
    rw [if_neg Bool.false_ne_true] at hnumber
    show IsLiteral (toString m) (.number ((m : Int) : ℚ))
    rw [Int.cast_natCast, ← hnumber]
    exact isLiteral_number false (by simp [point]) hdigits hne (by exact nofun) isExponent_nil
  | negSucc m =>
    obtain ⟨hdigits, hne, -⟩ := natDigits_spec (m + 1)
    have hnumber := hvalue true (m + 1)
    rw [if_pos rfl] at hnumber
    show IsLiteral ("-" ++ toString (m + 1)) (.number ((Int.negSucc m : Int) : ℚ))
    rw [Int.cast_negSucc, ← hnumber]
    refine isLiteral_number true ?_ hdigits hne (by exact nofun) isExponent_nil
    simp [point, String.toList_append]

/-- A finite float is written as its shortest digits, with an exponent where the point is far away. -/
theorem isLiteral_finiteRepr (d : Dec) : IsLiteral (PyFloat.finiteRepr d) (.number d.value) := by
  obtain ⟨hdigits, hne, hvalue⟩ := natDigits_spec d.coefficient
  unfold PyFloat.finiteRepr
  by_cases hnear : -4 < d.exponent + (toString d.coefficient).length ∧
      d.exponent + (toString d.coefficient).length ≤ 16
  · rw [if_pos hnear]
    obtain ⟨whole, fraction, htext, hwhole, hwne, hfraction, hwhere, hpointed⟩ :=
      pointed_spec hdigits hne (d.exponent + (toString d.coefficient).length)
    by_cases hinteger : ((toString d.coefficient).length : Int) ≤
        d.exponent + (toString d.coefficient).length
    · -- an integer has a zero after its point
      obtain rfl := hwhere.2 hinteger
      rw [if_pos hinteger, value_pointed hpointed hvalue 0 (by omega)]
      have hzero : (⟨d.negative, natOf (whole ++ []), 0 - (([] : List Char).length : Int)⟩ : Dec).value =
          (⟨d.negative, natOf (whole ++ ['0']), 0 - (['0'].length : Int)⟩ : Dec).value := by
        rw [natOf_append whole ['0'], append_nil]
        have hdigit : natOf ['0'] = 0 := rfl
        rw [hdigit, Nat.add_zero, value_scale]
        rfl
      rw [hzero]
      refine isLiteral_number d.negative ?_ hwhole hwne (allDigits_zeros 1) isExponent_nil
      simp only [String.toList_append, sign_toList, htext]
      simp [point]
    · rw [if_neg hinteger, value_pointed hpointed hvalue 0 (by omega)]
      refine isLiteral_number d.negative ?_ hwhole hwne hfraction isExponent_nil
      simp only [String.toList_append, sign_toList, htext]
      simp
  · rw [if_neg hnear]
    obtain ⟨whole, fraction, htext, hwhole, hwne, hfraction, -, hpointed⟩ := pointed_spec hdigits hne 1
    generalize hexponent : d.exponent + (toString d.coefficient).length - 1 = e
    rw [value_pointed hpointed hvalue e (by omega)]
    have hpadded : (Date.padded 2 e.natAbs).toList ≠ [] := by
      rw [Date.padded_toList]
      exact fun h => Nat.toDigits_ne_nil (append_eq_nil_iff.1 h).2
    have hwritten := isExponent_e (decide (e < 0)) (fun c hc => Date.isDigit_padded hc) hpadded
    rw [natOf_padded] at hwritten
    have hsigned : (if decide (e < 0) = true then -(e.natAbs : Int) else e.natAbs) = e := by
      split_ifs with hneg
      · have := of_decide_eq_true hneg
        omega
      · have := of_decide_eq_false (Bool.not_eq_true _ ▸ hneg)
        omega
    rw [hsigned] at hwritten
    refine isLiteral_number d.negative ?_ hwhole hwne hfraction hwritten
    simp only [String.toList_append, sign_toList, htext]
    by_cases hneg : e < 0 <;> simp [hneg]

/-! ## Lists of texts -/

theorem isLiteral_of_hasLiteral {value : AnalyticalValue} (h : value.HasLiteral) : value.Faithful := by
  cases value with
  | none => exact ⟨.null, trivial, isLiteral_null⟩
  | bool b => exact ⟨.bool b, rfl, isLiteral_bool b⟩
  | int n => exact ⟨.number n, rfl, isLiteral_int n⟩
  | float x =>
    cases x with
    | finite shortest exact_ => exact ⟨.number _, rfl, isLiteral_finiteRepr shortest⟩
    | infinity negative => exact absurd h id
    | nan => exact absurd h id
  | decimal d =>
    cases d with
    | finite d => exact ⟨.number _, rfl, isLiteral_formatF d⟩
    | infinity negative => exact absurd h id
    | nan signaling => exact absurd h id
  | str text => exact ⟨.text text, rfl, isLiteral_text text⟩
  | date d => exact ⟨.date d, rfl, isLiteral_date d⟩
  | datetime t => exact absurd h id
  | strings texts => exact ⟨.text _, rfl, isLiteral_text _⟩

theorem readLiteral_none {value : AnalyticalValue} (h : ¬ value.HasLiteral) :
    readLiteral value.literal.toList = none := by
  cases value with
  | datetime t =>
    have hread := readLiteral_date (t.isoformat "T") [] (fun _ hc => nomatch hc)
    rw [append_nil, readDate_moment] at hread
    exact hread
  | float x =>
    cases x with
    | finite shortest exact_ => exact absurd trivial h
    | infinity negative => cases negative <;> rfl
    | nan => rfl
  | decimal d =>
    cases d with
    | finite d => exact absurd trivial h
    | infinity negative => cases negative <;> rfl
    | nan signaling => cases signaling <;> rfl
  | _ => exact absurd trivial h

/-- **The literal of a value is read as the value exactly if it is neither a moment nor an infinite or
undefined number.** -/
theorem faithful_iff (value : AnalyticalValue) : value.Faithful ↔ value.HasLiteral := by
  refine ⟨?_, isLiteral_of_hasLiteral⟩
  rintro ⟨denoted, -, hliteral⟩
  by_contra hnone
  have hread := hliteral [] fun _ hc => nomatch hc
  rw [append_nil, readLiteral_none hnone] at hread
  cases hread

theorem hasLiteral_iff {value : AnalyticalValue} :
    value.HasLiteral ↔ readLiteral value.literal.toList ≠ none := by
  constructor
  · intro h
    obtain ⟨denoted, -, hliteral⟩ := isLiteral_of_hasLiteral h
    have hread := hliteral [] fun _ hc => nomatch hc
    rw [append_nil] at hread
    rw [hread]
    exact Option.some_ne_none _
  · intro h
    by_contra hnone
    exact h (readLiteral_none hnone)

end DirtyDataOlap.Analytical
