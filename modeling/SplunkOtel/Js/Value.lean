import SplunkOtel.Js.Number

/-!
# JavaScript values

The values that a parsed document is made of, and what reads them.
-/

namespace SplunkOtel.Js

inductive Value where
  | undefined
  | null
  | bool (b : Bool)
  | number (n : Number)
  | string (s : String)
  | array (items : List Value)
  | object (properties : List (String × Value))

namespace Value

/-- `value?.[name]` for a name that only plain objects have. The last property of a name counts. -/
def property (value : Value) (name : String) : Value :=
  match value with
  | object properties => ((properties.reverse.find? (·.1 = name)).map Prod.snd).getD undefined
  | _ => undefined

/-- `typeof value === 'object'`, for a value that is not `null`. -/
def isObject : Value → Bool
  | array _ => true
  | object _ => true
  | _ => false

def isUndefined : Value → Bool
  | undefined => true
  | _ => false

/-- The value itself where `typeof value === 'number'`, else `undefined`. -/
def asNumber : Value → Option Number
  | number n => some n
  | _ => none

def ofNumber : Option Number → Value
  | some n => number n
  | none => undefined

/-- `a ?? b` -/
def orElse (a b : Value) : Value :=
  match a with
  | undefined => b
  | null => b
  | a => a

theorem orElse_isUndefined (a b : Value) (h : b.isUndefined = false) :
    (a.orElse b).isUndefined = false := by
  unfold orElse
  split
  · exact h
  · exact h
  · rename_i hundefined _
    unfold isUndefined
    split
    · exact absurd rfl hundefined
    · rfl

end Value

end SplunkOtel.Js
