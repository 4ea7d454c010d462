import LSystem.Decimal.Numeral
import LSystem.Value.Basic

namespace LSystem

inductive Mismatch where
  | notInteger (s : String)
  | tooManyDigits (count : Nat)
  | unwritten
  | notReal (s : String)
  | undefined
  | outOfRange
  | wrongKind

def Mismatch.message : Mismatch → String
  | .notInteger s =>
    "invalid literal for int() with base 10: " ++ String.ofList ((Text.quoted s).toList.take 200)
  | .tooManyDigits count =>
    "Exceeds the limit (" ++ toString Decimal.maxIntegerDigits
      ++ " digits) for integer string conversion: value has " ++ toString count
      ++ " digits; use sys.set_int_max_str_digits() to increase the limit"
  | .unwritten =>
    "Exceeds the limit (" ++ toString Decimal.maxIntegerDigits
      ++ " digits) for integer string conversion; "
      ++ "use sys.set_int_max_str_digits() to increase the limit"
  | .notReal s => "could not convert string to float: " ++ Text.quoted s
  | .undefined => "cannot convert float NaN to integer"
  | .outOfRange => "number out of range"
  | .wrongKind => "a number is required"

/-- The message about an integer, or that of the fault of writing it. -/
def messageAbout (n : Int) (message : String) : String :=
  if Decimal.isWritten n then message else Mismatch.unwritten.message

def Mismatch.isValueFault : Mismatch → Bool
  | .outOfRange | .wrongKind => false
  | _ => true

namespace Decimal

def whole (x : Float) : Except Mismatch Int :=
  match magnitude x with
  | .finite d => .ok (if isNegative x then -(d.floor : Int) else d.floor)
  | .infinite => .error .outOfRange
  | .undefined => .error .undefined

/-- The least natural number whose nearest double is infinite. -/
def doubleLimit : Nat := Nat.pow 2 1024 - Nat.pow 2 970

def ofInteger (n : Int) : Except Mismatch Float :=
  if n.natAbs < doubleLimit then
    let x := Float.ofScientific n.natAbs false 0
    .ok (if n < 0 then -x else x)
  else .error .outOfRange

end Decimal

namespace Value

def toInteger : Value → Except Mismatch Int
  | .bool b => .ok (if b then 1 else 0)
  | .int n => .ok n
  | .real x => Decimal.whole x
  | .text s => match Decimal.readInteger s with
    | .ok n => .ok n
    | .error .malformed => .error (.notInteger s)
    | .error (.tooLong digits) => .error (.tooManyDigits digits)
  | _ => .error .wrongKind

def toReal : Value → Except Mismatch Float
  | .bool b => .ok (if b then 1 else 0)
  | .int n => Decimal.ofInteger n
  | .real x => .ok x
  | .text s => match Decimal.readReal? s with
    | some x => .ok x
    | none => .error (.notReal s)
  | _ => .error .wrongKind

def halfWord : Nat := 9223372036854775808

def fitsWord (n : Int) : Bool :=
  -(halfWord : Int) ≤ n && n < halfWord

def toWord (v : Value) : Except Mismatch Int := do
  let n ← v.toInteger
  if fitsWord n then .ok n else .error .outOfRange

@[simp] theorem toInteger_int (n : Int) : (int n).toInteger = .ok n := rfl

@[simp] theorem toReal_real (x : Float) : (real x).toReal = .ok x := rfl

end Value

end LSystem
