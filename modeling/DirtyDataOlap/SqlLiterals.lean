import DirtyDataOlap.IsoDates
import DirtyDataOlap.Numerals

/-!
# Literals of SQL

A reader for the literals of a statement: `NULL`, `TRUE` and `FALSE`, numbers, quoted texts and dates. It
reads one literal from the front and leaves the rest, so that **a literal is faithful if it is read as its
value in front of whatever may follow it**.
-/
namespace DirtyDataOlap.SqlLiterals

open List

/-- What a literal stands for. -/
inductive SqlValue
  | null
  | bool (b : Bool)
  | number (q : ℚ)
  | text (s : String)
  | date (d : Date)

def quote : Char := Char.ofNat 39

/-- The text after an opening quote. A doubled quote stands for one; any other ends the text. -/
def readQuoted : List Char → Option (List Char × List Char)
  | [] => none
  | [c] => if c = quote then some ([], []) else none
  | c :: d :: cs =>
    if c = quote then
      if d = quote then (readQuoted cs).map fun r => (quote :: r.1, r.2) else some ([], d :: cs)
    else (readQuoted (d :: cs)).map fun r => (c :: r.1, r.2)

/-- What a character is written as between quotes. -/
def doubled (c : Char) : List Char := if c = quote then [c, c] else [c]

theorem readQuoted_cons {c : Char} {cs : List Char} (hc : c ≠ quote) (hcs : cs ≠ []) :
    readQuoted (c :: cs) = (readQuoted cs).map fun r => (c :: r.1, r.2) := by
  cases cs with
  | nil => exact absurd rfl hcs
  | cons d cs => rw [readQuoted, if_neg hc]

variable {rest digits fraction : List Char}

/-- A text with doubled quotes is read back, and cannot end before its closing quote. -/
theorem readQuoted_doubled (text : List Char) (hrest : rest.head? ≠ some quote) :
    readQuoted (text.flatMap doubled ++ quote :: rest) = some (text, rest) := by
  induction text with
  | nil =>
    cases rest with
    | nil => simp [readQuoted]
    | cons d rest =>
      have hd : d ≠ quote := fun h => hrest (by rw [h]; rfl)
      simp [readQuoted, hd]
  | cons c text ih =>
    rw [flatMap_cons, append_assoc]
    by_cases hc : c = quote
    · rw [doubled, if_pos hc, hc]
      show readQuoted (quote :: quote :: (text.flatMap doubled ++ quote :: rest)) = _
      rw [readQuoted, if_pos rfl, if_pos rfl, ih]
      rfl
    · rw [doubled, if_neg hc, singleton_append, readQuoted_cons hc (by simp), ih]
      rfl

/-! ## Numbers -/

def readSign : List Char → Bool × List Char
  | '-' :: cs => (true, cs)
  | '+' :: cs => (false, cs)
  | cs => (false, cs)

/-- The digits at the front, and the rest. -/
def readDigits (cs : List Char) : List Char × List Char :=
  (cs.takeWhile Char.isDigit, cs.dropWhile Char.isDigit)

def natOf (digits : List Char) : Nat := digits.foldl (fun n c => 10 * n + (c.toNat - 48)) 0

def readFraction : List Char → List Char × List Char
  | '.' :: cs => readDigits cs
  | cs => ([], cs)

def readExponent : List Char → Int × List Char
  | [] => (0, [])
  | c :: cs =>
    let (negative, after) := readSign cs
    let (digits, rest) := readDigits after
    if (c = 'e' ∨ c = 'E') ∧ digits ≠ [] then (if negative then -(natOf digits : Int) else natOf digits, rest)
    else (0, c :: cs)

def readNumber (cs : List Char) : Option (ℚ × List Char) :=
  let (negative, cs) := readSign cs
  let (whole, cs) := readDigits cs
  let (fraction, cs) := readFraction cs
  let (e, cs) := readExponent cs
  if whole ++ fraction = [] then none
  else some ((⟨negative, natOf (whole ++ fraction), e - fraction.length⟩ : Dec).value, cs)

def AllDigits (cs : List Char) : Prop := ∀ c ∈ cs, c.isDigit = true

def point (fraction : List Char) : List Char := if fraction = [] then [] else '.' :: fraction

theorem readDigits_append (hdigits : AllDigits digits) (hrest : ∀ c ∈ rest.head?, c.isDigit = false) :
    readDigits (digits ++ rest) = (digits, rest) := by
  unfold readDigits
  rw [takeWhile_append_of_pos hdigits, dropWhile_append_of_pos hdigits]
  cases rest with
  | nil => simp
  | cons c rest =>
    have hc := hrest c rfl
    rw [takeWhile_cons_of_neg (by simp [hc]), dropWhile_cons_of_neg (by simp [hc]),
      append_nil]

theorem readSign_digits (hdigits : AllDigits digits) (hne : digits ≠ []) :
    readSign (digits ++ rest) = (false, digits ++ rest) := by
  cases digits with
  | nil => exact absurd rfl hne
  | cons c digits =>
    have hc := hdigits c mem_cons_self
    unfold readSign
    split
    · rename_i heq
      rw [cons_append, List.cons.injEq] at heq
      rw [heq.1] at hc
      cases hc
    · rename_i heq
      rw [cons_append, List.cons.injEq] at heq
      rw [heq.1] at hc
      cases hc
    · rfl

theorem readFraction_point (hfraction : AllDigits fraction)
    (hrest : ∀ c ∈ rest.head?, c.isDigit = false ∧ c ≠ '.') :
    readFraction (point fraction ++ rest) = (fraction, rest) := by
  unfold point
  by_cases hnil : fraction = []
  · rw [if_pos hnil, hnil]
    unfold readFraction
    split
    · rename_i heq
      exact absurd rfl (hrest '.' (by rw [← nil_append rest, heq]; rfl)).2
    · rfl
  · rw [if_neg hnil]
    show readDigits (fraction ++ rest) = _
    exact readDigits_append hfraction fun c hc => (hrest c hc).1

theorem readNumber_spec (negative : Bool) {whole tail : List Char} {e : Int}
    (hwhole : AllDigits whole) (hne : whole ≠ []) (hfraction : AllDigits fraction)
    (htail : ∀ c ∈ tail.head?, c.isDigit = false ∧ c ≠ '.')
    (hexponent : readExponent tail = (e, rest)) :
    readNumber ((if negative then ['-'] else []) ++ (whole ++ (point fraction ++ tail))) =
      some ((⟨negative, natOf (whole ++ fraction), e - fraction.length⟩ : Dec).value, rest) := by
  have hsign : readSign ((if negative then ['-'] else []) ++ (whole ++ (point fraction ++ tail))) =
      (negative, whole ++ (point fraction ++ tail)) := by
    cases negative with
    | true => rfl
    | false =>
      show readSign ([] ++ (whole ++ (point fraction ++ tail))) = _
      rw [nil_append]
      exact readSign_digits hwhole hne
  have hafter : ∀ c ∈ (point fraction ++ tail).head?, c.isDigit = false := by
    unfold point
    by_cases hnil : fraction = []
    · rw [if_pos hnil]
      exact fun c hc => (htail c hc).1
    · rw [if_neg hnil]
      intro c hc
      cases hc
      rfl
  unfold readNumber
  simp only [hsign, readDigits_append hwhole hafter, readFraction_point hfraction htail, hexponent]
  rw [if_neg]
  exact fun hnil => hne (append_eq_nil_iff.1 hnil).1

theorem natOf_append (a b : List Char) : natOf (a ++ b) = natOf a * 10 ^ b.length + natOf b := by
  have hstep : ∀ (b : List Char) (n : Nat), b.foldl (fun n c => 10 * n + (c.toNat - 48)) n =
      n * 10 ^ b.length + natOf b := by
    intro b
    induction b with
    | nil => intro n; simp [natOf]
    | cons c b ih =>
      intro n
      have hcons : natOf (c :: b) = (c.toNat - 48) * 10 ^ b.length + natOf b := ih (10 * 0 + _) |>.trans (by
        rw [Nat.mul_zero, Nat.zero_add])
      rw [foldl_cons, ih, hcons, length_cons, pow_succ]
      ring
  rw [natOf, foldl_append, hstep]
  rfl

theorem natOf_zeros (k : Nat) : natOf (replicate k '0') = 0 := by
  induction k with
  | zero => rfl
  | succ k ih =>
    rw [replicate_succ, ← singleton_append, natOf_append, ih]
    simp [natOf]

theorem natOf_toDigits (n : Nat) : natOf (Nat.toDigits 10 n) = n := by
  have h := Nat.ofDigitChars_ten_toDigits (n := n)
  rw [Nat.ofDigitChars_eq_foldl] at h
  exact h

theorem natOf_padded (width n : Nat) : natOf (Date.padded width n).toList = n := by
  rw [Date.padded_toList, natOf_append, natOf_zeros, natOf_toDigits]
  omega

theorem allDigits_toDigits (n : Nat) : AllDigits (Nat.toDigits 10 n) := fun _ hc =>
  Nat.isDigit_of_mem_toDigits (by decide) (by decide) hc

theorem allDigits_zeros (k : Nat) : AllDigits (replicate k '0') := fun c hc => by
  rw [eq_of_mem_replicate hc]
  rfl

theorem AllDigits.append {a b : List Char} (ha : AllDigits a) (hb : AllDigits b) : AllDigits (a ++ b) :=
  fun c hc => (mem_append.1 hc).elim (ha c) (hb c)

theorem value_scale (negative : Bool) (m k : Nat) (e : Int) :
    (⟨negative, m * 10 ^ k, e⟩ : Dec).value = (⟨negative, m, e + k⟩ : Dec).value := by
  have hten : (10 : ℚ) ≠ 0 := by norm_num
  unfold Dec.value Dec.signed
  rw [zpow_add₀ hten, zpow_natCast]
  cases negative with
  | true =>
    rw [if_pos rfl, if_pos rfl]
    push_cast
    ring
  | false =>
    rw [if_neg Bool.false_ne_true, if_neg Bool.false_ne_true]
    push_cast
    ring

/-- A date is written with a year of four digits, a month and a day. -/
def readDate : List Char → Option Date
  | [a, b, c, d, '-', m, n, '-', x, y] => do
    Date.ofYmd (← Date.number [a, b, c, d]) (← Date.number [m, n]) (← Date.number [x, y])
  | _ => none

/-- A literal that starts with a keyword. -/
def readKeyword (cs : List Char) : Option (SqlValue × List Char) :=
  let word := String.ofList (cs.takeWhile Char.isAlpha)
  let rest := cs.dropWhile Char.isAlpha
  if word = "NULL" then some (.null, rest)
  else if word = "TRUE" then some (.bool true, rest)
  else if word = "FALSE" then some (.bool false, rest)
  else if word = "DATE" then
    match rest with
    | ' ' :: c :: rest =>
      if c = quote then do
        let (text, rest) ← readQuoted rest
        let d ← readDate text
        return (.date d, rest)
      else none
    | _ => none
  else none

/-- The literal at the front of a text, and the rest. -/
def readLiteral : List Char → Option (SqlValue × List Char)
  | [] => none
  | c :: cs =>
    if c = quote then (readQuoted cs).map fun r => (.text (String.ofList r.1), r.2)
    else if c.isAlpha then readKeyword (c :: cs)
    else (readNumber (c :: cs)).map fun r => (.number r.1, r.2)

/-- A literal is followed by the next one, by the end of the list or by nothing. -/
def Ends (rest : List Char) : Prop := ∀ c ∈ rest.head?, c = ',' ∨ c = ')'

/-- A text is a literal of a value: in front of whatever may follow it, it is read as the value. -/
def IsLiteral (text : String) (value : SqlValue) : Prop :=
  ∀ rest, Ends rest → readLiteral (text.toList ++ rest) = some (value, rest)

theorem IsLiteral.unique {text : String} {value other : SqlValue} (h : IsLiteral text value)
    (h' : IsLiteral text other) : value = other := by
  have hends : Ends [] := fun _ hc => nomatch hc
  exact (Prod.mk.inj (Option.some.inj ((h [] hends).symm.trans (h' [] hends)))).1

theorem Ends.not_quote (h : Ends rest) : rest.head? ≠ some quote := by
  intro hquote
  rcases h quote hquote with h | h <;> cases h

theorem isLiteral_quoted (text : String) :
    IsLiteral ("'" ++ String.ofList (text.toList.flatMap doubled) ++ "'") (.text text) := by
  intro rest hrest
  have hlist : ("'" ++ String.ofList (text.toList.flatMap doubled) ++ "'").toList ++ rest =
      quote :: (text.toList.flatMap doubled ++ quote :: rest) := by
    simp [String.toList_append, String.toList_ofList, quote]
  rw [hlist, readLiteral, if_pos rfl, readQuoted_doubled _ hrest.not_quote]
  simp

theorem isAlpha_of_isDigit {c : Char} (h : c.isDigit = true) : c.isAlpha = false := by
  obtain ⟨-, hu⟩ := Numeral.toNat_of_isDigit h
  have hlt : ∀ d : Char, 57 < d.toNat → ¬ d.val ≤ c.val := by
    intro d hd hle
    have hnat : d.toNat ≤ c.toNat := UInt32.le_iff_toNat_le.1 hle
    omega
  have hA := hlt 'A' (by decide)
  have ha := hlt 'a' (by decide)
  unfold Char.isAlpha Char.isUpper Char.isLower
  rw [decide_eq_false (fun h => hA h.1), decide_eq_false (p := 'a'.val ≤ c.val) ha]
  rfl

theorem Ends.not_digit (h : Ends rest) : ∀ c ∈ rest.head?, c.isDigit = false ∧ c ≠ '.' := by
  intro c hc
  rcases h c hc with rfl | rfl <;> decide

def IsExponent (text : List Char) (e : Int) : Prop :=
  ∀ rest, Ends rest → readExponent (text ++ rest) = (e, rest) ∧
    ∀ c ∈ (text ++ rest).head?, c.isDigit = false ∧ c ≠ '.'

theorem isExponent_nil : IsExponent [] 0 := by
  intro rest hrest
  refine ⟨?_, hrest.not_digit⟩
  cases rest with
  | nil => rfl
  | cons c rest =>
    have hletter : ¬ (c = 'e' ∨ c = 'E') := by
      rcases hrest c rfl with rfl | rfl <;> decide
    show readExponent (c :: rest) = _
    unfold readExponent
    simp only [hletter, false_and, if_false]

theorem isExponent_e (negative : Bool) (hdigits : AllDigits digits) (hne : digits ≠ []) :
    IsExponent ('e' :: (if negative then '-' else '+') :: digits)
      (if negative then -(natOf digits : Int) else natOf digits) := by
  intro rest hrest
  constructor
  · have hsign : readSign ((if negative then '-' else '+') :: (digits ++ rest)) =
        (negative, digits ++ rest) := by
      cases negative <;> rfl
    have hread := readDigits_append hdigits fun c hc => (hrest.not_digit c hc).1
    show readExponent ('e' :: (if negative then '-' else '+') :: (digits ++ rest)) = _
    unfold readExponent
    simp only [hsign, hread]
    rw [if_pos]
    exact ⟨.inl trivial, hne⟩
  · intro c hc
    cases hc
    decide

theorem isLiteral_number {text : String} (negative : Bool) {whole exponent : List Char} {e : Int}
    (htext : text.toList = (if negative then ['-'] else []) ++ (whole ++ (point fraction ++ exponent)))
    (hwhole : AllDigits whole) (hne : whole ≠ []) (hfraction : AllDigits fraction)
    (hexponent : IsExponent exponent e) : IsLiteral text
      (.number (⟨negative, natOf (whole ++ fraction), e - fraction.length⟩ : Dec).value) := by
  intro rest hrest
  obtain ⟨hread, hafter⟩ := hexponent rest hrest
  have hlist : text.toList ++ rest = (if negative then ['-'] else []) ++
      (whole ++ (point fraction ++ (exponent ++ rest))) := by
    rw [htext]
    simp
  rw [hlist]
  -- a number starts with its sign or with a digit
  obtain ⟨c, cs, hcons, hquote, halpha⟩ : ∃ c cs, (if negative then ['-'] else []) ++
      (whole ++ (point fraction ++ (exponent ++ rest))) = c :: cs ∧ c ≠ quote ∧ c.isAlpha = false := by
    cases negative with
    | true => exact ⟨'-', _, rfl, by decide, by decide⟩
    | false =>
      cases whole with
      | nil => exact absurd rfl hne
      | cons d whole =>
        have hd := hwhole d mem_cons_self
        refine ⟨d, _, rfl, ?_, ?_⟩
        · rintro rfl
          cases hd
        · exact isAlpha_of_isDigit hd
  have hnumber := readNumber_spec negative hwhole hne hfraction hafter hread
  rw [hcons] at hnumber ⊢
  rw [readLiteral, if_neg hquote, halpha, if_neg Bool.false_ne_true, hnumber]
  rfl

end DirtyDataOlap.SqlLiterals
