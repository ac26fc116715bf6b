import SplunkOtel.Js.Value

/-!
# Reading JavaScript values

Where the reads of a parsed document throw, and the text of a value.
-/

namespace SplunkOtel.Js

/-- An error that is thrown. -/
structure Thrown where
  name : String
  message : String
deriving DecidableEq

namespace Value

def isNull : Value → Bool
  | null => true
  | _ => false

def isString (value : Value) (s : String) : Bool :=
  match value with
  | string t => t = s
  | _ => false

/-- `value === true` -/
def isTrue : Value → Bool
  | bool b => b
  | _ => false

/-- `value.name`, which throws on `null` and `undefined`. -/
def read (value : Value) (name : String) : Except Thrown Value :=
  match value with
  | undefined =>
    .error ⟨"TypeError", "Cannot read properties of undefined (reading '" ++ name ++ "')"⟩
  | null => .error ⟨"TypeError", "Cannot read properties of null (reading '" ++ name ++ "')"⟩
  | value => .ok (value.property name)

/-- What `for (const item of value)` goes over. -/
def items : Value → Except Thrown (List Value)
  | array items => .ok items
  | string s => .ok (s.toList.map fun c => string (String.singleton c))
  | _ => .error ⟨"TypeError", "value is not iterable"⟩

/-- What `if (value)` asks. -/
def truthy : Value → Bool
  | undefined => false
  | null => false
  | bool b => b
  | number n => n ≠ .nan ∧ n ≠ .finite 0
  | string s => s ≠ ""
  | array _ => true
  | object _ => true

/-- `a || b` -/
def or (a b : Value) : Value := if a.truthy then a else b

/-- `value?.a?.b` for the names in turn. -/
def path (value : Value) (names : List String) : Value := names.foldl property value

/-- `typeof value` -/
def typeof : Value → String
  | undefined => "undefined"
  | null => "object"
  | bool _ => "boolean"
  | number _ => "number"
  | string _ => "string"
  | array _ => "object"
  | object _ => "object"

mutual

/-- `String(value)`. How a number is written is a parameter. -/
def toText (numberToString : Number → String) : Value → String
  | undefined => "undefined"
  | null => "null"
  | bool b => if b then "true" else "false"
  | number n => numberToString n
  | string s => s
  | array items => join (itemTexts numberToString items) ","
  | object _ => "[object Object]"

/-- The texts that `Array.prototype.join` joins: `null` and `undefined` have none. -/
def itemTexts (numberToString : Number → String) : List Value → List String
  | [] => []
  | undefined :: items => "" :: itemTexts numberToString items
  | null :: items => "" :: itemTexts numberToString items
  | item :: items => toText numberToString item :: itemTexts numberToString items

end

/-- `Number(value)` -/
def toNumber (numberToString : Number → String) : Value → Number
  | undefined => .nan
  | null => 0
  | bool b => if b then 1 else 0
  | number n => n
  | string s => stringToNumber s
  | value => stringToNumber (value.toText numberToString)

theorem or_of_truthy {a : Value} (h : a.truthy = true) (b : Value) : a.or b = a := if_pos h

theorem or_of_falsy {a : Value} (h : a.truthy = false) (b : Value) : a.or b = b :=
  if_neg (by simp [h])

theorem read_object (properties : List (String × Value)) (name : String) :
    (object properties).read name = .ok ((object properties).property name) := rfl

@[simp] theorem property_undefined (name : String) : undefined.property name = undefined := rfl

@[simp] theorem property_null (name : String) : null.property name = undefined := rfl

theorem property_single (name : String) (value : Value) :
    (object [(name, value)]).property name = value := by simp [property]

theorem property_single_ne {name other : String} (value : Value) (h : name ≠ other) :
    (object [(name, value)]).property other = undefined := by simp [property, h]

end Value

end SplunkOtel.Js
