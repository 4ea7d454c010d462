import LSystem.Decimal.Binary
import LSystem.Decimal.Layout
import LSystem.Decimal.Rounding

namespace LSystem.Decimal

namespace Dyadic

def reaches (d : Dyadic) (place : Int) : Bool :=
  d.denominator (-place) ≤ d.numerator (-place)

def firstPlace (d : Dyadic) : Int :=
  let guess := ((d.mantissa.log2 : Int) + d.exponent) * 30103 / 100000
  if d.reaches (guess + 1) then guess + 1
  else if d.reaches guess then guess
  else guess - 1

/-- Of the two multiples of `10 ^ place` around `d`, the nearest one that reads back as `d`, as a
number of units. Distances are taken in quarters of the last bit: the numbers that read back as `d`
lie within two quarters of it, and within one below it where the doubles below are closer. -/
def onGrid? (d : Dyadic) (place : Int) : Option Nat :=
  let value := 4 * d.mantissa
  let low := if d.mantissa = leastNormal ∧ -1074 < d.exponent then value - 1 else value - 2
  let high := value + 2
  let unit := Nat.pow 10 place.toNat * Nat.pow 2 (2 - d.exponent).toNat
  let quarter := Nat.pow 2 (d.exponent - 2).toNat * Nat.pow 10 (-place).toNat
  let within (n : Nat) : Bool :=
    if d.mantissa % 2 = 0 then low * quarter ≤ n * unit && n * unit ≤ high * quarter
    else low * quarter < n * unit && n * unit < high * quarter
  let down := value * quarter / unit
  let near := roundDiv (value * quarter) unit
  if within near then some near
  else if within down then some down
  else if within (down + 1) then some (down + 1)
  else none

/-- The units and the place of the first grid, from the coarse to the fine, with a number that reads
back as `d`; `finer` grids are left after that of `10 ^ place`. -/
def shortestFrom (d : Dyadic) (place : Int) : Nat → Nat × Int
  | 0 => ((d.onGrid? place).getD 0, place)
  | finer + 1 =>
    match d.onGrid? place with
    | some n => (n, place)
    | none => d.shortestFrom (place - 1) finer

/-- The fewest digits that read back as `d`, with the place of the last one. Seventeen digits always
do. -/
def shortest (d : Dyadic) : Nat × Int :=
  d.shortestFrom d.firstPlace 16

def significant (d : Dyadic) (count : Nat) : Nat × Int :=
  let last := d.firstPlace - (count - 1)
  (roundDiv (d.numerator (-last)) (d.denominator (-last)), last)

end Dyadic

def written (l : Layout) (choose : Dyadic → Nat × Int) (x : Float) : String :=
  let sign := if isNegative x then ['-'] else []
  match magnitude x with
  | .undefined => "nan"
  | .infinite => String.ofList (sign ++ ['i', 'n', 'f'])
  | .finite d =>
    if d.mantissa = 0 then String.ofList (sign ++ l.render ['0'] 0)
    else
      let (n, last) := choose d
      let digits := Nat.toDigits 10 n
      String.ofList (sign ++ l.render digits (last + (digits.length - 1)))

def exactText (x : Float) : String :=
  written .exact Dyadic.shortest x

def summaryText (x : Float) : String :=
  written .summary (Dyadic.significant · 6) x

end LSystem.Decimal
