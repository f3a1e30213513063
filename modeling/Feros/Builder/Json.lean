import Feros.Library.Dict
import Mathlib.Data.List.Infix
import Mathlib.Data.List.Sort
import Mathlib.Data.Rat.Defs
import Mathlib.Data.String.Basic
/-! # JSON values

The agent builder is Python, and takes and returns JSON as Python has it: an object is a dictionary in
insertion order.  Here are the values, and what Python's operations do on them.

* **`PyError`** is what an operation raises.
* **`contains`** is `in`, **`iterate`** is `for`, **`truthy`** is `if`.
* **`getItem`**, **`setItem`**, **`delItem`** are `value[key]`, its assignment and its deletion.
* **`hashKey`** is what a value is in a set. -/

namespace Feros

/-- **A JSON value**; a number with a point or an exponent is a float. -/
inductive JsonValue where
  | null
  | bool (b : Bool)
  | int (n : ℤ)
  | float (q : ℚ)
  | str (s : String)
  | arr (items : List JsonValue)
  | obj (fields : List (String × JsonValue))

/-- A Python exception. -/
inductive PyError where
  | keyError (key : String)
  | valueError (text : String)
  | typeError
  | attributeError
  deriving DecidableEq, Repr

section Except

variable {α β : Type}

/-- What is bound to a value goes on with it. -/
@[simp] theorem ok_bind (a : α) (f : α → Except PyError β) : (Except.ok a >>= f) = f a := rfl

/-- What is bound to an error stays that error. -/
@[simp] theorem error_bind (e : PyError) (f : α → Except PyError β) :
    ((Except.error e : Except PyError α) >>= f) = .error e := rfl

/-- A value that is given back is that value. -/
@[simp] theorem pure_eq_ok (a : α) : (pure a : Except PyError α) = .ok a := rfl

/-- An error that is thrown is that error. -/
@[simp] theorem throw_eq_error (e : PyError) : (throw e : Except PyError α) = .error e := rfl

/-- What succeeds does so step by step. -/
theorem bind_eq_ok {x : Except PyError α} {f : α → Except PyError β} {b : β} :
    (x >>= f) = .ok b ↔ ∃ a, x = .ok a ∧ f a = .ok b := by
  cases x with
  | error e => simp
  | ok a => simp

end Except

/-! ## Strings -/

/-- `sorted`, on strings: by code points. -/
def sortedStr (names : List String) : List String := names.insertionSort (· ≤ ·)

/-- `str.isspace`, on a character. -/
def isSpace (c : Char) : Bool :=
  let n := c.toNat
  (9 ≤ n && n ≤ 13) || (28 ≤ n && n ≤ 32) || n == 0x85 || n == 0xA0 || n == 0x1680 ||
    (0x2000 ≤ n && n ≤ 0x200A) || n == 0x2028 || n == 0x2029 || n == 0x202F || n == 0x205F || n == 0x3000

/-- `str.strip`. -/
def strip (s : String) : String :=
  String.ofList (((s.toList.dropWhile isSpace).reverse.dropWhile isSpace).reverse)

/-- A character of a string's `repr` in these quotes; the printable ones are as they are. -/
def reprChar (quote c : Char) : List Char :=
  let backslash := Char.ofNat 92
  if c = quote ∨ c = backslash then [backslash, c]
  else if c = Char.ofNat 10 then [backslash, 'n']
  else if c = Char.ofNat 13 then [backslash, 'r']
  else if c = Char.ofNat 9 then [backslash, 't']
  else [c]

/-- `repr`, on a string: in single quotes, unless it has one and no double quote. -/
def reprStr (s : String) : String :=
  let single := Char.ofNat 39
  let double := Char.ofNat 34
  let quote := if single ∈ s.toList ∧ double ∉ s.toList then double else single
  String.ofList ([quote] ++ s.toList.flatMap (reprChar quote) ++ [quote])

/-- `repr`, on a list of strings. -/
def reprList (names : List String) : String := "[" ++ ", ".intercalate (names.map reprStr) ++ "]"

/-! ## Operations -/

namespace JsonValue

/-- The name of a value's type. -/
def typeName : JsonValue → String
  | .null => "NoneType"
  | .bool _ => "bool"
  | .int _ => "int"
  | .float _ => "float"
  | .str _ => "str"
  | .arr _ => "list"
  | .obj _ => "dict"

/-- Whether a value is this string. -/
def isStr (value : JsonValue) (s : String) : Bool :=
  match value with
  | .str s' => s' == s
  | _ => false

/-- Whether a value counts as true. -/
def truthy : JsonValue → Bool
  | .null => false
  | .bool b => b
  | .int n => n != 0
  | .float q => q != 0
  | .str s => s != ""
  | .arr items => !items.isEmpty
  | .obj fields => !fields.isEmpty

/-- `s in value`. -/
def contains (value : JsonValue) (s : String) : Except PyError Bool :=
  match value with
  | .arr items => .ok (items.any (isStr · s))
  | .obj fields => .ok (Dict.has fields s)
  | .str s' => .ok (decide (s.toList <:+: s'.toList))
  | _ => .error .typeError

/-- `value.keys()`. -/
def keys : JsonValue → Except PyError (List String)
  | .obj fields => .ok (Dict.keys fields)
  | _ => .error .attributeError

/-- `value[key]`. -/
def getItem (value : JsonValue) (key : String) : Except PyError JsonValue :=
  match value with
  | .obj fields =>
    match Dict.get? fields key with
    | some item => .ok item
    | none => .error (.keyError key)
  | _ => .error .typeError

/-- `value[key] = item`. -/
def setItem (value : JsonValue) (key : String) (item : JsonValue) : Except PyError JsonValue :=
  match value with
  | .obj fields => .ok (.obj (Dict.set fields key item))
  | _ => .error .typeError

/-- `del value[key]`. -/
def delItem (value : JsonValue) (key : String) : Except PyError JsonValue :=
  match value with
  | .obj fields => if Dict.has fields key then .ok (.obj (Dict.erase fields key)) else .error (.keyError key)
  | _ => .error .typeError

/-- `value.update(fields)`. -/
def update (value : JsonValue) (patch : Dict String JsonValue) : Except PyError JsonValue :=
  match value with
  | .obj fields => .ok (.obj (Dict.update fields patch))
  | _ => .error .attributeError

/-- Do something to each of `value.values()`. -/
def forValues (change : JsonValue → JsonValue) : JsonValue → Except PyError JsonValue
  | .obj fields => .ok (.obj (Dict.mapValues change fields))
  | _ => .error .attributeError

/-- The items of a loop over a value. -/
def iterate : JsonValue → Except PyError (List JsonValue)
  | .arr items => .ok items
  | .obj fields => .ok ((Dict.keys fields).map .str)
  | .str s => .ok (s.toList.map fun c => .str c.toString)
  | _ => .error .typeError

/-- A value in a set: Python takes `True` for 1 and 1 for 1.0. -/
inductive HashKey where
  | none
  | number (q : ℚ)
  | string (s : String)
  deriving DecidableEq

/-- What a value is in a set; lists and dictionaries have no hash. -/
def hashKey : JsonValue → Except PyError HashKey
  | .null => .ok .none
  | .bool b => .ok (.number (if b then 1 else 0))
  | .int n => .ok (.number n)
  | .float q => .ok (.number q)
  | .str s => .ok (.string s)
  | _ => .error .typeError

/-- Only an object takes an assignment. -/
theorem setItem_eq_ok {value item result : JsonValue} {key : String} (set : setItem value key item = .ok result) :
    ∃ fields, value = .obj fields ∧ result = .obj (Dict.set fields key item) := by
  cases value with
  | obj fields => exact ⟨fields, rfl, (Except.ok.inj set).symm⟩
  | _ => cases set

/-- Only an object takes a deletion. -/
theorem delItem_eq_ok {value result : JsonValue} {key : String} (deleted : delItem value key = .ok result) :
    ∃ fields, value = .obj fields ∧ result = .obj (Dict.erase fields key) := by
  cases value with
  | obj fields =>
      simp only [delItem] at deleted
      split at deleted
      · exact ⟨fields, rfl, (Except.ok.inj deleted).symm⟩
      · cases deleted
  | _ => cases deleted

/-- A string is the one it equals. -/
@[simp] theorem isStr_str (s s' : String) : isStr (.str s) s' = (s == s') := rfl

/-- A value is a string where it is that string. -/
theorem isStr_iff {value : JsonValue} {s : String} : isStr value s = true ↔ value = .str s := by
  cases value <;> simp [isStr]

end JsonValue

end Feros
