import SplunkOtel.Js.Text
import SplunkOtel.Lib.Double
import Mathlib.Algebra.Field.Rat
import Mathlib.Data.Rat.Defs

/-!
# Numbers in text

Products and the values of `parseFloat` and `parseInt(string, 16)` are rounded to doubles.
`Number(string)` and `parseInt(string, 10)` are the exact numbers that the text denotes.
-/

open Lib.Double

namespace SplunkOtel.Js

inductive Number where
  | nan
  | infinite (negative : Bool)
  | finite (value : ℚ)
deriving DecidableEq

instance (n : ℕ) : OfNat Number n := ⟨.finite n⟩

/-! ## Operators -/

namespace Number

def neg : Number → Number
  | nan => nan
  | infinite negative => infinite (!negative)
  | finite value => finite (-value)

/-- The number for an exact value. -/
def ofExact (value : ℚ) : Number :=
  if |nearestDouble value| < 2 ^ 1024 then finite (nearestDouble value) else infinite (value < 0)

/-- The product with a positive factor. -/
def scale (factor : ℚ) : Number → Number
  | finite value => ofExact (value * factor)
  | n => n

/-- `n > 0` -/
def positive : Number → Bool
  | nan => false
  | infinite negative => !negative
  | finite value => 0 < value

/-- `a === b`, where `NaN` is not equal to itself. -/
def strictEq (a b : Number) : Bool := a ≠ nan ∧ a = b

end Number

/-! ## Literals -/

def digitValue (c : Char) : Option ℕ :=
  if '0' ≤ c ∧ c ≤ '9' then some (c.toNat - '0'.toNat)
  else if 'a' ≤ c ∧ c ≤ 'z' then some (c.toNat - 'a'.toNat + 10)
  else if 'A' ≤ c ∧ c ≤ 'Z' then some (c.toNat - 'A'.toNat + 10)
  else none

def radixLiteral (base : ℕ) (cs : List Char) : Option ℕ :=
  if cs = [] then none
  else cs.foldlM (fun n c => do
    let d ← digitValue c
    if d < base then some (n * base + d) else none) 0

def exponent : List Char → Option ℤ
  | [] => some 0
  | c :: cs =>
    if c = 'e' ∨ c = 'E' then
      match cs with
      | '-' :: ds => (radixLiteral 10 ds).map fun n => -(n : ℤ)
      | '+' :: ds => (radixLiteral 10 ds).map Int.ofNat
      | ds => (radixLiteral 10 ds).map Int.ofNat
    else none

/-- `StrUnsignedDecimalLiteral`, without `Infinity`. -/
def unsignedDecimal (cs : List Char) : Option ℚ :=
  let (whole, rest) := cs.span Char.isDigit
  let (fraction, rest) := match rest with
    | '.' :: rest => rest.span Char.isDigit
    | rest => ([], rest)
  if whole = [] ∧ fraction = [] then none
  else (exponent rest).map fun e =>
    (Nat.ofDigitChars 10 (whole ++ fraction) 0 : ℚ) * (10 : ℚ) ^ (e - (fraction.length : ℤ))

def unsignedNumber (cs : List Char) : Number :=
  if cs = "Infinity".toList then .infinite false
  else match unsignedDecimal cs with
    | none => .nan
    | some value => .finite value

def stringToNumber (s : String) : Number :=
  let ofRadix (base : ℕ) (cs : List Char) : Number :=
    match radixLiteral base cs with
    | none => .nan
    | some n => .finite n
  match (trim s).toList with
  | [] => .finite 0
  | '0' :: 'x' :: cs => ofRadix 16 cs
  | '0' :: 'X' :: cs => ofRadix 16 cs
  | '0' :: 'o' :: cs => ofRadix 8 cs
  | '0' :: 'O' :: cs => ofRadix 8 cs
  | '0' :: 'b' :: cs => ofRadix 2 cs
  | '0' :: 'B' :: cs => ofRadix 2 cs
  | '-' :: cs => (unsignedNumber cs).neg
  | '+' :: cs => unsignedNumber cs
  | cs => unsignedNumber cs

/-- The digits at the start, after white space and a sign. What follows them is left out. -/
def parseInt (s : String) : Number :=
  let ofDigits (cs : List Char) : Number :=
    match cs.takeWhile Char.isDigit with
    | [] => .nan
    | digits => .finite (Nat.ofDigitChars 10 digits 0)
  match (trimStart s).toList with
  | '-' :: cs => (ofDigits cs).neg
  | '+' :: cs => ofDigits cs
  | cs => ofDigits cs

def hexDigit (c : Char) : Bool := (digitValue c).any (· < 16)

/-- `parseInt(string, 16)`, which leaves out `0x` as well. -/
def parseHex (s : String) : Number :=
  let ofDigits (cs : List Char) : Number :=
    match radixLiteral 16 (cs.takeWhile hexDigit) with
    | none => .nan
    | some n => .ofExact n
  let unsigned (cs : List Char) : Number :=
    match cs with
    | '0' :: 'x' :: cs => ofDigits cs
    | '0' :: 'X' :: cs => ofDigits cs
    | cs => ofDigits cs
  match (trimStart s).toList with
  | '-' :: cs => (unsigned cs).neg
  | '+' :: cs => unsigned cs
  | cs => unsigned cs

/-- The exponent at the start of the text, 0 where there is none. -/
def exponentPrefix : List Char → ℤ
  | [] => 0
  | c :: cs =>
    let ofDigits (ds : List Char) : ℤ := Nat.ofDigitChars 10 (ds.takeWhile Char.isDigit) 0
    if c = 'e' ∨ c = 'E' then
      match cs with
      | '-' :: ds => -ofDigits ds
      | '+' :: ds => ofDigits ds
      | ds => ofDigits ds
    else 0

/-- The longest decimal number at the start, after white space. -/
def parseFloat (s : String) : Number :=
  let unsigned (cs : List Char) : Number :=
    if "Infinity".toList.isPrefixOf cs then .infinite false
    else
      let (whole, rest) := cs.span Char.isDigit
      let (fraction, rest) := match rest with
        | '.' :: rest => rest.span Char.isDigit
        | rest => ([], rest)
      if whole = [] ∧ fraction = [] then .nan
      else .ofExact ((Nat.ofDigitChars 10 (whole ++ fraction) 0 : ℚ) *
        (10 : ℚ) ^ (exponentPrefix rest - (fraction.length : ℤ)))
  match (trimStart s).toList with
  | '-' :: cs => (unsigned cs).neg
  | '+' :: cs => unsigned cs
  | cs => unsigned cs

end SplunkOtel.Js
