namespace LSystem.Decimal

structure Layout where
  /-- The least place of a first digit written without an exponent. -/
  lowest : Int
  /-- The least place above it of a first digit written with an exponent. -/
  limit : Int
  /-- Whether a whole number written without an exponent ends in `.0`. -/
  keepsPoint : Bool

def Layout.exact : Layout := ⟨-4, 16, true⟩

def Layout.summary : Layout := ⟨-4, 6, false⟩

def exponentText (e : Int) : List Char :=
  let digits := Nat.toDigits 10 e.natAbs
  'e' :: (if e < 0 then '-' else '+') :: List.replicate (2 - digits.length) '0' ++ digits

def Layout.render (l : Layout) (digits : List Char) (place : Int) : List Char :=
  let digits := match (digits.reverse.dropWhile (· = '0')).reverse with
    | [] => ['0']
    | kept => kept
  if l.lowest ≤ place ∧ place < l.limit then
    if place < 0 then '0' :: '.' :: List.replicate (-place - 1).toNat '0' ++ digits
    else
      let whole := place.toNat + 1
      let fraction := digits.drop whole
      digits.take whole ++ List.replicate (whole - digits.length) '0'
        ++ if fraction.isEmpty then if l.keepsPoint then ['.', '0'] else [] else '.' :: fraction
  else
    match digits with
    | [] => []
    | first :: rest =>
      first :: (if rest.isEmpty then [] else '.' :: rest) ++ exponentText place

end LSystem.Decimal
