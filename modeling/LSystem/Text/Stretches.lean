namespace LSystem.Text

/-- Whether `n` is in the class that begins at the first number of `bounds`, ends before the second,
begins anew at the third, and so on. -/
def inStretches (bounds : Array Nat) (n : Nat) : Bool :=
  (bounds.foldl (fun k bound => if bound ≤ n then k + 1 else k) 0) % 2 == 1

end LSystem.Text
