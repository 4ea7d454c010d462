import LSystem.Decimal.Binary
import LSystem.Decimal.Rounding

namespace LSystem.Decimal

def placePoint (places n : Nat) : List Char :=
  let digits := Nat.toDigits 10 n
  let padded := List.replicate (places + 1 - digits.length) '0' ++ digits
  if places = 0 then padded
  else
    let whole := padded.length - places
    padded.take whole ++ '.' :: padded.drop whole

def Dyadic.units (d : Dyadic) (places : Nat) : Nat :=
  roundDiv (d.numerator places) (d.denominator places)

/-- Whether the double nearest to `n · 10 ^ -places` is zero: a number is nearest to zero up to half
of the least double. -/
def readsAsZero (places n : Nat) : Bool :=
  n * Nat.pow 2 1075 ≤ Nat.pow 10 places

def fixedFinite (places : Nat) (negative : Bool) (d : Dyadic) : List Char :=
  let n := d.units places
  let digits := placePoint places n
  if negative && !readsAsZero places n then '-' :: digits else digits

def fixed (places : Nat) (x : Float) : String :=
  match magnitude x with
  | .finite d => String.ofList (fixedFinite places (isNegative x) d)
  | .infinite => if isNegative x then "-inf" else "inf"
  | .undefined => "nan"

def maxRealDigits : Nat := 1000000000

/-- Whether the text of `n · 10 ^ -places` can be read: neither the digits behind the point nor all
digits from the first that is not zero may be too many. -/
def isRead (places n : Nat) : Bool :=
  places ≤ maxRealDigits && (Nat.toDigits 10 n).length ≤ maxRealDigits

/-- The text that has to be read back before it is known whether its sign stays, if it cannot be. -/
def unread? (places : Nat) (x : Float) : Option String :=
  match magnitude x with
  | .finite d =>
    if isNegative x && !isRead places (d.units places) then
      some (String.ofList ('-' :: placePoint places (d.units places)))
    else none
  | _ => none

end LSystem.Decimal
