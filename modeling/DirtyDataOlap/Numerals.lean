import DirtyDataOlap.Decimals
import DirtyDataOlap.Calendar

/-!
# Decimal numbers and floats as texts

The numbers of the decimal module with its special values, and binary floats by the shortest decimal
that rounds to them.  Reading is exact: `1` and `1.0` are different numbers of equal value.
-/

namespace DirtyDataOlap

open List Nat String

/-- A number of the decimal module. -/
inductive Numeral
  | finite (d : Dec)
  | infinity (negative : Bool)
  | nan (signaling : Bool)
deriving DecidableEq

/-- A float: the shortest decimal that rounds to it and the exact value of its bits, or one of the
special values. -/
inductive PyFloat
  | finite (shortest : Dec) (exact : ℚ)
  | infinity (negative : Bool)
  | nan
deriving DecidableEq

namespace Dec

def sign (d : Dec) : String := if d.negative then "-" else ""

/-- The digits of the coefficient with a point after the first `place` of them. -/
def pointed (digits : String) (place : Int) : String :=
  let n : Int := digits.length
  if place ≤ 0 then "0." ++ ofList (replicate (-place).toNat '0') ++ digits
  else if n ≤ place then digits ++ ofList (replicate (place - n).toNat '0')
  else ofList (digits.toList.take place.toNat) ++ "." ++
    ofList (digits.toList.drop place.toNat)

def signedInt (n : Int) : String := if n < 0 then toString n else "+" ++ toString n

/-- `str(d)`: scientific notation for large and for very small exponents. -/
def str (d : Dec) : String :=
  let digits := toString d.coefficient
  let left := d.exponent + digits.length
  if d.exponent ≤ 0 ∧ -6 < left then d.sign ++ pointed digits left
  else d.sign ++ pointed digits 1 ++ (if left = 1 then "" else "E" ++ signedInt (left - 1))

/-- `format(d, "f")`: positional notation at the number's own scale. -/
def formatF (d : Dec) : String :=
  let digits := toString d.coefficient
  if 0 < d.exponent ∧ d.coefficient = 0 then d.sign ++ "0"
  else d.sign ++ pointed digits (d.exponent + digits.length)

end Dec

namespace Numeral

/-- `str(d)`. -/
def str : Numeral → String
  | finite d => d.str
  | infinity negative => if negative then "-Infinity" else "Infinity"
  | nan signaling => if signaling then "sNaN" else "NaN"

/-- `format(d, "f")`. -/
def formatF : Numeral → String
  | finite d => d.formatF
  | infinity negative => if negative then "-Infinity" else "Infinity"
  | nan signaling => if signaling then "sNaN" else "NaN"

end Numeral

namespace PyFloat

/-- `repr` of the finite float with these shortest digits. -/
def finiteRepr (d : Dec) : String :=
  let digits := toString d.coefficient
  let left := d.exponent + digits.length
  if -4 < left ∧ left ≤ 16 then
    d.sign ++ Dec.pointed digits left ++ (if digits.length ≤ left then ".0" else "")
  else
    let e := left - 1
    d.sign ++ Dec.pointed digits 1 ++
      "e" ++ (if e < 0 then "-" else "+") ++ Date.padded 2 e.natAbs

/-- `str(x)`. -/
def str : PyFloat → String
  | finite d _ => finiteRepr d
  | infinity negative => if negative then "-inf" else "inf"
  | nan => "nan"

end PyFloat

namespace Numeral

def digitZeros : List Nat :=
  [0x30, 0x660, 0x6f0, 0x7c0, 0x966, 0x9e6, 0xa66, 0xae6, 0xb66, 0xbe6, 0xc66, 0xce6, 0xd66, 0xde6,
    0xe50, 0xed0, 0xf20, 0x1040, 0x1090, 0x17e0, 0x1810, 0x1946, 0x19d0, 0x1a80, 0x1a90, 0x1b50,
    0x1bb0, 0x1c40, 0x1c50, 0xa620, 0xa8d0, 0xa900, 0xa9d0, 0xa9f0, 0xaa50, 0xabf0, 0xff10,
    0x104a0, 0x10d30, 0x11066, 0x110f0, 0x11136, 0x111d0, 0x112f0, 0x11450, 0x114d0, 0x11650,
    0x116c0, 0x11730, 0x118e0, 0x11950, 0x11c50, 0x11d50, 0x11da0, 0x16a60, 0x16ac0, 0x16b50,
    0x1d7ce, 0x1d7d8, 0x1d7e2, 0x1d7ec, 0x1d7f6, 0x1e140, 0x1e2f0, 0x1e950, 0x1fbf0]

/-- The white space of `str.strip`. -/
def isSpace (c : Char) : Bool :=
  let n := c.toNat
  (9 ≤ n && n ≤ 13) || (28 ≤ n && n ≤ 32) || n = 0x85 || n = 0xa0 || n = 0x1680 ||
    (0x2000 ≤ n && n ≤ 0x200a) || n = 0x2028 || n = 0x2029 || n = 0x202f || n = 0x205f || n = 0x3000

/-- The value of a decimal digit. -/
def digit (c : Char) : Option Nat :=
  (digitZeros.find? fun z => z ≤ c.toNat && c.toNat ≤ z + 9).map fun z => c.toNat - z

/-- `text.strip()`. -/
def strip (cs : List Char) : List Char :=
  ((cs.dropWhile isSpace).reverse.dropWhile isSpace).reverse

/-- The digits at the start of a text, and the rest. -/
def digits : List Char → List Nat × List Char
  | [] => ([], [])
  | c :: cs =>
    match digit c with
    | some n => ((n :: (digits cs).1), (digits cs).2)
    | none => ([], c :: cs)

def ofDigits (ds : List Nat) : Nat := ds.foldl (fun n d => 10 * n + d) 0

/-- A sign at the start of a text: whether it is a minus, and the rest. -/
def signed : List Char → Bool × List Char
  | '-' :: cs => (true, cs)
  | '+' :: cs => (false, cs)
  | cs => (false, cs)

/-- The exponent at the end of a number. -/
def exponent : List Char → Option Int
  | [] => some 0
  | c :: cs =>
    if c = 'e' ∨ c = 'E' then
      let (negative, cs) := signed cs
      match digits cs with
      | (ds, []) =>
        if ds = [] then none else some (if negative then -(ofDigits ds : Int) else ofDigits ds)
      | _ => none
    else none

/-- The exponents that the decimal module can represent. -/
def representable (d : Dec) : Bool :=
  d.exponent + (toString d.coefficient).length - 1 ≤ 999999999999999999 &&
    -1999999999999999997 ≤ d.exponent

/-- The number written without a sign. -/
def unsigned (negative : Bool) (cs : List Char) : Option Numeral :=
  let word := ofList (cs.map Char.toLower)
  if word = "inf" ∨ word = "infinity" then some (.infinity negative)
  else if word.startsWith "nan" ∧ (digits (cs.drop 3)).2 = [] then some (.nan false)
  else if word.startsWith "snan" ∧ (digits (cs.drop 4)).2 = [] then some (.nan true)
  else
    let (whole, rest) := digits cs
    let (fraction, rest) := match rest with
      | '.' :: rest => digits rest
      | rest => ([], rest)
    if whole ++ fraction = [] then none
    else do
      let e ← exponent rest
      let d : Dec := ⟨negative, ofDigits (whole ++ fraction), e - fraction.length⟩
      if representable d then some (.finite d) else none

/-- `Decimal(text)`; `none` where it raises `InvalidOperation`. -/
def ofText (text : String) : Option Numeral :=
  let (negative, cs) := signed ((strip text.toList).filter (· ≠ '_'))
  unsigned negative cs

example : ofText " -1_0.50e2 " = some (.finite ⟨true, 1050, 0⟩) := by decide +kernel

/-! ## Reading what was printed -/

theorem toNat_of_isDigit {c : Char} (h : c.isDigit = true) : 48 ≤ c.toNat ∧ c.toNat ≤ 57 := by
  simp only [Char.isDigit, Bool.and_eq_true, decide_eq_true_eq] at h
  exact h

theorem digit_of_isDigit {c : Char} (h : c.isDigit = true) : digit c = some (c.toNat - 48) := by
  obtain ⟨hl, hu⟩ := toNat_of_isDigit h
  simp [digit, digitZeros, hl, hu]

theorem digits_of_isDigit {cs : List Char} (h : ∀ c ∈ cs, c.isDigit = true) :
    digits cs = (cs.map fun c => c.toNat - 48, []) := by
  induction cs with
  | nil => rfl
  | cons c cs ih =>
    rw [forall_mem_cons] at h
    rw [digits, digit_of_isDigit h.1, ih h.2]
    rfl

theorem isSpace_of_isDigit {c : Char} (h : c.isDigit = true) : isSpace c = false := by
  obtain ⟨hl, hu⟩ := toNat_of_isDigit h
  unfold isSpace
  generalize c.toNat = n at hl hu
  interval_cases n <;> rfl

theorem strip_of_isDigit {cs : List Char} (h : ∀ c ∈ cs, c.isDigit = true) : strip cs = cs := by
  have hdrop : ∀ {xs : List Char}, (∀ c ∈ xs, c.isDigit = true) → xs.dropWhile isSpace = xs := by
    intro xs hxs
    cases xs with
    | nil => rfl
    | cons c xs => rw [dropWhile_cons, isSpace_of_isDigit (hxs c mem_cons_self)]; rfl
  rw [strip, hdrop h, hdrop (fun c hc => h c (mem_reverse.1 hc)), reverse_reverse]

theorem signed_of_isDigit {cs : List Char} (h : ∀ c ∈ cs, c.isDigit = true) :
    signed cs = (false, cs) := by
  unfold signed
  split
  · exact absurd (h _ mem_cons_self) (by decide)
  · exact absurd (h _ mem_cons_self) (by decide)
  · rfl

theorem toLower_of_isDigit {c : Char} (h : c.isDigit = true) : c.toLower = c := by
  obtain ⟨-, hu⟩ := toNat_of_isDigit h
  have hnot : ¬ (c.val ≥ 'A'.val ∧ c.val ≤ 'Z'.val) := by
    rintro ⟨hA, -⟩
    have hle : 65 ≤ c.toNat := UInt32.le_iff_toNat_le.1 hA
    omega
  exact dif_neg hnot

theorem not_startsWith_of_isDigit {text : String} (word : String) {c d : Char} {ds : List Char}
    (ht : text.toList.head? = some c) (hc : c.isDigit = true) (hw : word.toList = d :: ds)
    (hd : d.isDigit = false) : text.startsWith word = false := by
  rw [startsWith_string_eq_false_iff, hw]
  rintro ⟨rest, hrest⟩
  rw [← hrest] at ht
  cases ht
  rw [hc] at hd
  cases hd

/-- A number that is printed is read. -/
theorem ofText_toString (n : Nat) : ofText (toString n) =
      if representable ⟨false, n, 0⟩ then some (.finite ⟨false, n, 0⟩) else none := by
  have hdigits : ∀ c ∈ toDigits 10 n, c.isDigit = true := fun c hc =>
    isDigit_of_mem_toDigits (by decide) (by decide) hc
  have hlist : (toString n).toList = toDigits 10 n := toList_repr
  have hfilter : (toDigits 10 n).filter (· ≠ '_') = toDigits 10 n := by
    rw [filter_eq_self]
    intro c hc
    simp only [decide_eq_true_eq]
    rintro rfl
    exact underscore_not_in_toDigits hc
  have hlower : (toDigits 10 n).map Char.toLower = toDigits 10 n :=
    (map_congr_left fun c hc => toLower_of_isDigit (hdigits c hc)).trans (map_id _)
  obtain ⟨c, cs, hcs⟩ := exists_cons_of_ne_nil (toDigits_ne_nil (n := n) (b := 10))
  have hhead : (ofList (toDigits 10 n)).toList.head? = some c := by
    rw [toList_ofList, hcs]
    rfl
  have hcdigit : c.isDigit = true := hdigits c (hcs ▸ mem_cons_self)
  have hnan := not_startsWith_of_isDigit "nan" hhead hcdigit rfl rfl
  have hsnan := not_startsWith_of_isDigit "snan" hhead hcdigit rfl rfl
  have hinf : ¬ (ofList (toDigits 10 n) = "inf" ∨
      ofList (toDigits 10 n) = "infinity") := by
    rintro (h | h) <;> rw [h] at hhead <;> cases hhead <;> cases hcdigit
  rw [ofText, hlist, strip_of_isDigit hdigits, hfilter, signed_of_isDigit hdigits]
  simp only [unsigned, hlower, if_neg hinf, hnan, hsnan, Bool.false_eq_true, false_and, if_false,
    digits_of_isDigit hdigits]
  have hvalue : ofDigits ((toDigits 10 n).map fun c => c.toNat - 48) = n := by
    rw [ofDigits, foldl_map]
    exact ofDigitChars_ten_toDigits
  have hne : ((toDigits 10 n).map fun c => c.toNat - 48) ≠ [] := by simp [hcs]
  simp [hvalue, hne, exponent]

end Numeral

theorem toString_nat_injective {m n : Nat} (h : toString m = toString n) : m = n := by
  have hlist := congrArg toList h
  have hdigits : ∀ k : Nat, (toString k).toList = toDigits 10 k := fun _ => toList_repr
  rw [hdigits, hdigits] at hlist
  rw [← ofDigitChars_ten_toDigits (n := m), hlist, ofDigitChars_ten_toDigits]

end DirtyDataOlap
