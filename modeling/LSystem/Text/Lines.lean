import LSystem.Text.Blank

/-!
Texts of several lines.

A line ends at one of ten characters, a carriage return and the line feed after it counting as one
end. What follows the last end is a line only if it is not empty.
-/

namespace LSystem.Text

def endsLine (c : Char) : Bool :=
  let n := c.toNat
  (10 ≤ n && n ≤ 13) || (0x1C ≤ n && n ≤ 0x1E) || n == 0x85 || n == 0x2028 || n == 0x2029

/-- The lines of a text whose first line begins with `start`, which is kept in reverse. -/
def linesFrom (start : List Char) : List Char → List (List Char)
  | [] => if start.isEmpty then [] else [start.reverse]
  | '\r' :: '\n' :: rest => start.reverse :: linesFrom [] rest
  | c :: rest =>
    if endsLine c then start.reverse :: linesFrom [] rest else linesFrom (c :: start) rest

def lines (cs : List Char) : List (List Char) :=
  linesFrom [] cs

@[simp] theorem lines_nil : lines [] = [] := rfl

end LSystem.Text
