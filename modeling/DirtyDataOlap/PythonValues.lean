import DirtyDataOlap.AnalyticalCompiler

/-!
# Values of any type

The values behind `Any`, with the operations of the interpreter on them.  **Equality inside
containers is equality of keys** (`Value.key`): equal numbers of different types are one token, and
a NaN stands for its own object.  The keys of nested mappings are texts.
-/
namespace DirtyDataOlap

open Analytical

namespace Numeral

/-- `a == b`. -/
def decEq (a b : Numeral) : Except Raised Bool :=
  match a, b with
  | .nan true, _ | _, .nan true => .error .invalidOperation
  | .nan false, _ | _, .nan false => .ok false
  | .infinity m, .infinity n => .ok (m == n)
  | .finite d, .finite e => .ok (decide (d.value = e.value))
  | _, _ => .ok false

/-- `a + b` in the default context. -/
def decAdd (a b : Numeral) : Except Raised Numeral :=
  match a, b with
  | .nan true, _ | _, .nan true => .error .invalidOperation
  | .nan false, _ | _, .nan false => .ok (.nan false)
  | .infinity m, .infinity n =>
    if m = n then .ok (.infinity m) else .error .invalidOperation
  | .infinity m, _ | _, .infinity m => .ok (.infinity m)
  | .finite d, .finite e =>
    match Dec.add defaultContext d e with
    | some sum => .ok (.finite sum)
    | none => .error (.overflow "decimal.Overflow")

/-- `a > b`; a NaN cannot be ordered. -/
def decGt (a b : Numeral) : Except Raised Bool :=
  match a, b with
  | .nan _, _ | _, .nan _ => .error .invalidOperation
  | .infinity m, .infinity n => .ok (!m && n)
  | .infinity m, .finite _ => .ok (!m)
  | .finite _, .infinity n => .ok n
  | .finite d, .finite e => .ok (decide (e.value < d.value))

/-- `sum(values, Decimal("0"))`. -/
def decSum (values : List Numeral) : Except Raised Numeral :=
  values.foldlM decAdd (.finite Dec.zero)

/-- `max(values)`, of values that begin with `best`. -/
def decMax (best : Numeral) (values : List Numeral) : Except Raised Numeral :=
  values.foldlM (fun best v => do return if ← decGt v best then v else best) best

end Numeral

namespace Validation

/-- A value of any type. `object` tells apart the objects of a NaN; no other value depends on
it. -/
inductive Value
  | none
  | bool (b : Bool)
  | int (n : Int)
  | float (x : PyFloat) (object : Nat)
  | decimal (d : Numeral) (object : Nat)
  | str (text : String)
  | bytes (data : List UInt8)
  | date (d : Date)
  | datetime (t : DateTime)
  | list (items : List Value)
  | tuple (items : List Value)
  | dict (items : List (String × Value))

/-- What only texts depend on: the printable characters, case folding, the `repr` of moments, and the
texts of the items of the list that `json.loads` reads, where it reads a list. -/
structure Interpreter where
  isPrintable : Char → Bool
  casefold : String → String
  reprDatetime : DateTime → String
  jsonItems : String → Option (List String)

namespace Utf8

/-- A character begun: how many bytes are missing, the range of the next one, and the value of
the bits read. -/
structure Pending where
  missing : Nat
  low : Nat
  high : Nat
  value : Nat

/-- What a byte begins. -/
inductive Lead
  | char (c : Char)
  | pending (p : Pending)
  | bad

/-- What a byte of UTF-8 starts. -/
def lead (b : Nat) : Lead :=
  if b < 0x80 then .char (Char.ofNat b)
  else if b < 0xc2 then .bad
  else if b < 0xe0 then .pending ⟨1, 0x80, 0xbf, b - 0xc0⟩
  else if b < 0xf0 then
    .pending ⟨2, if b = 0xe0 then 0xa0 else 0x80, if b = 0xed then 0x9f else 0xbf, b - 0xe0⟩
  else if b < 0xf5 then
    .pending ⟨3, if b = 0xf0 then 0x90 else 0x80, if b = 0xf4 then 0x8f else 0xbf, b - 0xf0⟩
  else .bad

/-- U+FFFD. -/
def replacement : Char := Char.ofNat 0xfffd

/-- `data.decode("utf-8", errors="replace")`: one replacement for each maximal broken part. -/
def decode : Option Pending → List UInt8 → List Char
  | none, [] => []
  | some _, [] => [replacement]
  | none, b :: bs =>
    match lead b.toNat with
    | .char c => c :: decode none bs
    | .pending p => decode (some p) bs
    | .bad => replacement :: decode none bs
  | some p, b :: bs =>
    if p.low ≤ b.toNat ∧ b.toNat ≤ p.high then
      let value := 64 * p.value + b.toNat % 64
      if p.missing = 1 then Char.ofNat value :: decode none bs
      else decode (some ⟨p.missing - 1, 0x80, 0xbf, value⟩) bs
    else
      match lead b.toNat with
      | .char c => replacement :: c :: decode none bs
      | .pending p => replacement :: decode (some p) bs
      | .bad => replacement :: replacement :: decode none bs

/-- One byte of `repr(data)`. -/
def reprByte (quote : String) (b : UInt8) : String :=
  let text := String.singleton (Char.ofNat b.toNat)
  if text = quote ∨ text = "\\" then "\\" ++ text
  else if b = 10 then "\\n"
  else if b = 13 then "\\r"
  else if b = 9 then "\\t"
  else if 32 ≤ b ∧ b < 127 then text
  else "\\x" ++ hexDigits 2 b.toNat

/-- `repr(data)`. -/
def repr (data : List UInt8) : String :=
  let quote := if 39 ∈ data ∧ 34 ∉ data then "\"" else "'"
  "b" ++ quote ++ String.join (data.map (reprByte quote)) ++ quote

end Utf8

namespace Value

variable (py : Interpreter)

/-- `repr` of a date. -/
def reprDate (d : Date) : String :=
  "datetime.date(" ++ toString d.year ++ ", " ++ toString d.month ++ ", " ++ toString d.day ++ ")"

mutual

/-- `repr(value)`. -/
def repr : Value → String
  | none => "None"
  | bool b => if b then "True" else "False"
  | int n => toString n
  | float x _ => x.str
  | decimal d _ => "Decimal('" ++ d.str ++ "')"
  | str text => reprStr py.isPrintable text
  | bytes data => Utf8.repr data
  | date d => reprDate d
  | datetime t => py.reprDatetime t
  | list items => "[" ++ String.intercalate ", " (reprs items) ++ "]"
  | tuple items => "(" ++ String.intercalate ", " (reprs items) ++
      (if items.length = 1 then ",)" else ")")
  | dict items => "\x7b" ++ String.intercalate ", " (reprItems items) ++ "\x7d"

/-- `repr` of every element. -/
def reprs : List Value → List String
  | [] => []
  | v :: vs => v.repr :: reprs vs

/-- `repr` of every item of a dictionary. -/
def reprItems : List (String × Value) → List String
  | [] => []
  | (key, v) :: items => (reprStr py.isPrintable key ++ ": " ++ v.repr) :: reprItems items

end

/-- `str(value)`. -/
def pyStr : Value → String
  | decimal d _ => d.str
  | str text => text
  | date d => d.isoformat
  | datetime t => t.isoformat " "
  | v => v.repr py

mutual

/-- `_normalize`: values that JSON has not become texts and lists. -/
def normal : Value → Value
  | decimal d _ => str d.formatF
  | date d => str d.isoformat
  | datetime t => str (t.isoformat "T")
  | bytes data => str (String.ofList (Utf8.decode Option.none data))
  | tuple items => tuple (normals items)
  | list items => tuple (normals items)
  | dict items => dict (normalItems items)
  | v => v

/-- The same of every element. -/
def normals : List Value → List Value
  | [] => []
  | v :: vs => v.normal :: normals vs

/-- The same of every item. -/
def normalItems : List (String × Value) → List (String × Value)
  | [] => []
  | (key, v) :: items => (key, v.normal) :: normalItems items

end

/-! ## Equality -/

end Value

/-- A part of the key of a value. -/
inductive Token
  | none
  | number (q : ℚ)
  | infinity (negative : Bool)
  | nan (decimal : Bool) (object : Nat)
  | text (text : String)
  | bytes (data : List UInt8)
  | day (d : Date)
  | moment (aware : Bool) (instant : Int)
  | opened (kind : String)
  | field (name : String)
  | closed
deriving DecidableEq

instance : LawfulBEq (List Token) := inferInstance

namespace Value

mutual

/-- What equality of values in a container depends on. -/
def key : Value → List Token
  | none => [.none]
  | bool b => [.number (if b then 1 else 0)]
  | int n => [.number n]
  | float (.finite _ exact) _ => [.number exact]
  | float (.infinity negative) _ => [.infinity negative]
  | float .nan object => [.nan false object]
  | decimal (.finite d) _ => [.number d.value]
  | decimal (.infinity negative) _ => [.infinity negative]
  | decimal (.nan _) object => [.nan true object]
  | str text => [.text text]
  | bytes data => [.bytes data]
  | date d => [.day d]
  | datetime t => [.moment t.offset.isSome t.instant]
  | list items => .opened "list" :: keys items ++ [.closed]
  | tuple items => .opened "tuple" :: keys items ++ [.closed]
  | dict items => .opened "dict" ::
      (sortedBy Prod.fst (keyItems items)).flatMap (fun item => .field item.1 :: item.2) ++ [.closed]

/-- The keys of all elements. -/
def keys : List Value → List Token
  | [] => []
  | v :: vs => v.key ++ keys vs

/-- The keys of all items. -/
def keyItems : List (String × Value) → List (String × List Token)
  | [] => []
  | (name, v) :: items => (name, v.key) :: keyItems items

/-- `hash` does not raise. -/
def hashable : Value → Bool
  | list _ | dict _ => false
  | decimal (.nan true) _ => false
  | tuple items => hashableAll items
  | _ => true

/-- `hash` raises for no element. -/
def hashableAll : List Value → Bool
  | [] => true
  | v :: vs => v.hashable && hashableAll vs

end

/-- Not a number, of either kind. -/
def isNan : Value → Bool
  | float .nan _ | decimal (.nan _) _ => true
  | _ => false

/-- A signaling NaN, which even `==` refuses. -/
def isSignaling : Value → Bool
  | decimal (.nan true) _ => true
  | _ => false

/-- A value of a numeric type; booleans are. -/
def isNumber : Value → Bool
  | bool _ | int _ | float _ _ | decimal _ _ => true
  | _ => false

/-- `a == b` for values that are no containers of one kind: a signaling NaN cannot be compared with
a number. -/
def scalarEq (a b : Value) : Except Raised Bool :=
  if (a.isSignaling && b.isNumber) || (b.isSignaling && a.isNumber) then .error .invalidOperation
  else .ok (!a.isNan && !b.isNan && decide (a.key = b.key))

mutual

/-- `a == b`. -/
def pyEq : Value → Value → Except Raised Bool
  | list xs, list ys => if xs.length = ys.length then pyEqAll xs ys else .ok false
  | tuple xs, tuple ys => pyEqAll xs ys
  | dict xs, dict ys => if xs.length = ys.length then pyEqItems xs ys else .ok false
  | a, b => scalarEq a b

/-- Equality of the items, each by identity or else by `==`, up to the first difference. -/
def pyEqAll : List Value → List Value → Except Raised Bool
  | [], [] => .ok true
  | x :: xs, y :: ys => do
    let same ← if x.isNan && decide (x.key = y.key) then .ok true else pyEq x y
    if same then pyEqAll xs ys else return false
  | _, _ => .ok false

/-- `==` of two dictionaries. -/
def pyEqItems : List (String × Value) → List (String × Value) → Except Raised Bool
  | [], _ => .ok true
  | (name, x) :: xs, ys =>
    match getItem ys name with
    | Option.none => .ok false
    | some y => do
      let same ← if x.isNan && decide (x.key = y.key) then .ok true else pyEq x y
      if same then pyEqItems xs ys else return false

end

end Value

namespace Value

variable (py : Interpreter)

/-- `Decimal(str(v))`. -/
def numeric (v : Value) : Option Numeral := Numeral.ofText (v.pyStr py)

mutual

/-- `_equal`: mappings and sequences by their parts, numbers by their value whatever their types,
and everything else in normal form. -/
def equal : Value → Value → Except Raised Bool
  | dict xs, dict ys =>
    if xs.all (fun item => item.1 ∈ ys.map Prod.fst) && ys.all (fun item => item.1 ∈ xs.map Prod.fst)
    then equalItems xs ys else .ok false
  | list xs, list ys | list xs, tuple ys | tuple xs, list ys | tuple xs, tuple ys =>
    if xs.length = ys.length then equalAll xs ys else .ok false
  | a, b =>
    match a.numeric py, b.numeric py with
    | some left, some right => left.decEq right
    | _, _ => .ok (decide (a.normal.key = b.normal.key))

/-- `_equal` of two sequences. -/
def equalAll : List Value → List Value → Except Raised Bool
  | x :: xs, y :: ys => do
    if ← equal x y then equalAll xs ys else return false
  | _, _ => .ok true

/-- `_equal` of two dictionaries. -/
def equalItems : List (String × Value) → List (String × Value) → Except Raised Bool
  | [], _ => .ok true
  | (name, x) :: xs, ys => do
    if ← equal x ((getItem ys name).getD none) then equalItems xs ys else return false

end

/-- `_refs`: a list as it is, a text that may be JSON. -/
def asRefs : Value → List String
  | list items | tuple items => items.map (pyStr py)
  | str text => (py.jsonItems text).getD [text]
  | v => [v.pyStr py]

end Value

/-- `a < b` for the keys of values of one kind. -/
def Token.less : Token → Token → Bool
  | .number p, .number q => p < q
  | .infinity m, .infinity n => m && !n
  | .infinity m, .number _ => m
  | .number _, .infinity n => !n
  | .text a, .text b => a < b
  | _, _ => false

/-- Whether values with these keys can be ordered. -/
def Token.orderable : Token → Token → Bool
  | .text _, .text _ => true
  | .number _, .number _ | .number _, .infinity _ | .number _, .nan _ _ => true
  | .infinity _, .number _ | .infinity _, .infinity _ | .infinity _, .nan _ _ => true
  | .nan _ _, .number _ | .nan _ _, .infinity _ | .nan _ _, .nan _ _ => true
  | _, _ => false

namespace Value

mutual

/-- `a < b` for values in normal form. -/
def less : Value → Value → Bool
  | tuple xs, tuple ys => lessAll xs ys
  | a, b =>
    match a.key, b.key with
    | [s], [t] => s.less t
    | _, _ => false

/-- `<` of two sequences: the first difference decides. -/
def lessAll : List Value → List Value → Bool
  | _, [] => false
  | [], _ :: _ => true
  | x :: xs, y :: ys => if x.key = y.key then lessAll xs ys else x.less y

/-- Whether `a < b` has a value, for values in normal form. -/
def orderable : Value → Value → Bool
  | tuple xs, tuple ys => orderableAll xs ys
  | a, b =>
    match a.key, b.key with
    | [s], [t] => s.orderable t
    | _, _ => false

/-- `<` of the two sequences does not raise. -/
def orderableAll : List Value → List Value → Bool
  | x :: xs, y :: ys => if x.key = y.key then orderableAll xs ys else x.orderable y
  | _, _ => true

end

/-- `set`, in the order of the first occurrences. -/
def distinct (vs : List Value) : List Value :=
  vs.foldl (fun seen v => if v.key ∈ seen.map key then seen else seen ++ [v]) []

/-- `sorted(values)`, of distinct values. -/
def sortedValues (vs : List Value) : Except Raised (List Value) :=
  if vs.Pairwise fun a b => a.orderable b = true then
    .ok (vs.insertionSort fun a b => b.less a = false)
  else .error (.typeError "'<' not supported between instances of different types")

/-- A set can be made of the values. -/
def requireHashable (vs : List Value) : Except Raised Unit :=
  if hashableAll vs then .ok () else .error (.typeError "unhashable type")

/-- `for item in value`. -/
def iterate : Value → Except Raised (List Value)
  | list items | tuple items => .ok items
  | dict items => .ok (items.map fun item => str item.1)
  | str text => .ok (text.toList.map fun c => str (String.singleton c))
  | bytes data => .ok (data.map fun b => int b.toNat)
  | _ => .error (.typeError "object is not iterable")

/-- `.items()`. -/
def mapping : Value → Except Raised (List (String × Value))
  | dict items => .ok items
  | _ => .error (.attributeError "object has no such attribute")

/-- `bool(value)`. -/
def truthy : Value → Bool
  | none => false
  | bool b => b
  | int n => n ≠ 0
  | float (.finite _ exact) _ => exact ≠ 0
  | decimal (.finite d) _ => d.coefficient ≠ 0
  | str text => text ≠ ""
  | bytes data => data ≠ []
  | list items | tuple items => !items.isEmpty
  | dict items => !items.isEmpty
  | _ => true

/-- One element of the sequence that `dict` reads its items from. -/
def pair (element : Value) : Except Raised (Value × Value) := do
  match ← iterate element with
  | [key, value] => do
    requireHashable [key]
    return (key, value)
  | _ => throw (.valueError "dictionary update sequence element has a wrong length")

/-- `dict(value)`, by the texts of its keys. -/
def toDict (py : Interpreter) : Value → Except Raised (List (String × Value))
  | dict items => .ok items
  | v => do
    let pairs ← (← iterate v).mapM pair
    return (distinct (pairs.map Prod.fst)).map fun key =>
      (key.pyStr py, (getItem (pairs.map fun p => (p.1.key, p.2)) key.key).getD none)

end Value

end Validation

end DirtyDataOlap
