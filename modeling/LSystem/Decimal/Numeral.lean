import LSystem.Text.Blank
import LSystem.Text.Digit

/-!
Reading integers and reals from texts.

Digits may be of any script, and one low line may stand between two of them. Blanks around a numeral
are skipped, the information separators excepted.
-/

namespace LSystem.Decimal

open LSystem.Text

def surroundsNumeral (c : Char) : Bool :=
  isBlank c && !(0x1C ≤ c.toNat && c.toNat ≤ 0x1F)

/-- The digits at the front of a text and what follows them; `inside` says that a digit stands
before the text, so that a low line may come first. -/
def takeDigits (inside : Bool) : List Char → List Nat × List Char
  | [] => ([], [])
  | '_' :: c :: rest =>
    if inside && (digit? c).isSome then takeDigits false (c :: rest) else ([], '_' :: c :: rest)
  | c :: rest =>
    match digit? c with
    | some d => let (ds, after) := takeDigits true rest; (d :: ds, after)
    | none => ([], c :: rest)

def ofDigits (ds : List Nat) : Nat :=
  ds.foldl (fun n d => 10 * n + d) 0

/-- Whether a sign asks for the opposite, and what follows the sign. -/
def takeSign : List Char → Bool × List Char
  | '-' :: rest => (true, rest)
  | '+' :: rest => (false, rest)
  | cs => (false, cs)

def maxIntegerDigits : Nat := 4300

@[irreducible]
def leastUnwritten : Nat := Nat.pow 10 maxIntegerDigits

def isWritten (n : Int) : Bool :=
  n.natAbs < leastUnwritten

inductive IntegerFault where
  | malformed
  | tooLong (digits : Nat)
  deriving DecidableEq, Repr

/-- The integer written by `s`. The digits in front are counted before anything behind them is
looked at, a low line excepted. -/
def readInteger (s : String) : Except IntegerFault Int :=
  let (negative, body) := takeSign (trimBy surroundsNumeral s.toList)
  let (ds, rest) := takeDigits false body
  if rest.head? = some '_' then .error .malformed
  else if maxIntegerDigits < ds.length then .error (.tooLong ds.length)
  else if ds.isEmpty || !rest.isEmpty then .error .malformed
  else .ok (if negative then -(ofDigits ds : Int) else ofDigits ds)

def readInteger? (s : String) : Option Int :=
  (readInteger s).toOption

/-- The double nearest to `mantissa · 10 ^ exponent`, where `mantissa` has `count` digits at most.
-/
def nearestFloat (count mantissa : Nat) (exponent : Int) : Float :=
  if mantissa = 0 ∨ count + exponent < -400 then 0
  else if 400 < exponent then 1 / 0
  else if exponent < 0 then Float.ofScientific mantissa true (-exponent).toNat
  else Float.ofScientific mantissa false exponent.toNat

def readExponent? : List Char → Option Int
  | [] => some 0
  | c :: rest =>
    if c = 'e' ∨ c = 'E' then
      let (negative, body) := takeSign rest
      match takeDigits false body with
      | ([], _) => none
      | (ds, []) => some (if negative then -(ofDigits ds : Int) else ofDigits ds)
      | _ => none
    else none

def takeMantissa (cs : List Char) : (List Nat × List Nat) × List Char :=
  match takeDigits false cs with
  | (whole, '.' :: rest) =>
    let (fraction, after) := takeDigits false rest
    ((whole, fraction), after)
  | (whole, after) => ((whole, []), after)

def readReal? (s : String) : Option Float :=
  let (negative, body) := takeSign (trimBy surroundsNumeral s.toList)
  let sign (x : Float) : Float := if negative then -x else x
  let word := String.ofList (body.map Char.toLower)
  if word = "inf" ∨ word = "infinity" then some (sign (1 / 0))
  else if word = "nan" then some (0 / 0)
  else
    let ((whole, fraction), after) := takeMantissa body
    let ds := whole ++ fraction
    if ds.isEmpty then none
    else (readExponent? after).map fun e =>
      sign (nearestFloat ds.length (ofDigits ds) (e - fraction.length))

end LSystem.Decimal
