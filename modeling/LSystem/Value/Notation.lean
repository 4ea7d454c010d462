import LSystem.Decimal.Numeral
import LSystem.Value.Basic

/-!
The notation in which values are written in documents: braces around the entries of a mapping,
brackets around the items of a list, texts between double quotes, numerals, `true`, `false` and
`null`. A numeral with a point or an exponent is a real, any other one is an integer; the undefined
real and the infinite ones have words of their own. Of two entries with the same key the later one
counts, at the place of the earlier one.
-/

namespace LSystem.Value.Notation

def isGap (c : Char) : Bool :=
  c == ' ' || c == '\n' || c == '\r' || c == '\t'

def skipGap (cs : List Char) : List Char :=
  cs.dropWhile isGap

def hexDigit? (c : Char) : Option Nat :=
  if '0' ≤ c ∧ c ≤ '9' then some (c.toNat - 48)
  else if 'a' ≤ c ∧ c ≤ 'f' then some (c.toNat - 87)
  else if 'A' ≤ c ∧ c ≤ 'F' then some (c.toNat - 55)
  else none

def hexUnit? (a b c d : Char) : Option Nat := do
  let a ← hexDigit? a
  let b ← hexDigit? b
  let c ← hexDigit? c
  let d ← hexDigit? d
  return ((a * 16 + b) * 16 + c) * 16 + d

def escaped? : Char → Option Char
  | '"' => some '"'
  | '\\' => some '\\'
  | '/' => some '/'
  | 'b' => some '\x08'
  | 'f' => some '\x0c'
  | 'n' => some '\n'
  | 'r' => some '\r'
  | 't' => some '\t'
  | _ => none

/-- The rest of a text whose opening quote is read, with `read` read already, in reverse. -/
def takeText (read : List Char) : List Char → Option (String × List Char)
  | '"' :: rest => some (String.ofList read.reverse, rest)
  | '\\' :: 'u' :: a :: b :: c :: d :: rest =>
    match hexUnit? a b c d with
    | none => none
    | some high =>
      if 0xD800 ≤ high ∧ high < 0xDC00 then
        match rest with
        | '\\' :: 'u' :: a :: b :: c :: d :: rest =>
          match hexUnit? a b c d with
          | some low =>
            let n := 0x10000 + (high - 0xD800) * 0x400 + (low - 0xDC00)
            takeText (Char.ofNat n :: read) rest
          | none => none
        | _ => none
      else takeText (Char.ofNat high :: read) rest
  | '\\' :: c :: rest =>
    match escaped? c with
    | some e => takeText (e :: read) rest
    | none => none
  | c :: rest => takeText (c :: read) rest
  | [] => none

def inNumeral (c : Char) : Bool :=
  c.isDigit || c == '-' || c == '+' || c == '.' || c == 'e' || c == 'E'

def number? (cs : List Char) : Option Value :=
  let s := String.ofList cs
  if cs.any fun c => c == '.' || c == 'e' || c == 'E' then (Decimal.readReal? s).map .real
  else (Decimal.readInteger? s).map .int

def put (entries : List (String × Value)) (key : String) (v : Value) : List (String × Value) :=
  if entries.any fun e => e.1 == key then
    entries.map fun e => if e.1 == key then (key, v) else e
  else entries ++ [(key, v)]

mutual

/-- The value at the front of a text and what follows it. The first argument bounds the parts that
the value may have. -/
def takeValue : Nat → List Char → Option (Value × List Char)
  | 0, _ => none
  | fuel + 1, cs =>
    match skipGap cs with
    | 'n' :: 'u' :: 'l' :: 'l' :: rest => some (.null, rest)
    | 't' :: 'r' :: 'u' :: 'e' :: rest => some (.bool true, rest)
    | 'f' :: 'a' :: 'l' :: 's' :: 'e' :: rest => some (.bool false, rest)
    | 'N' :: 'a' :: 'N' :: rest => some (.real (0 / 0), rest)
    | 'I' :: 'n' :: 'f' :: 'i' :: 'n' :: 'i' :: 't' :: 'y' :: rest => some (.real (1 / 0), rest)
    | '-' :: 'I' :: 'n' :: 'f' :: 'i' :: 'n' :: 'i' :: 't' :: 'y' :: rest =>
      some (.real (-1 / 0), rest)
    | '"' :: rest => (takeText [] rest).map fun (s, after) => (.text s, after)
    | '[' :: rest =>
      match skipGap rest with
      | ']' :: after => some (.list [], after)
      | rest => (takeItems fuel [] rest).map fun (items, after) => (.list items, after)
    | '\x7b' :: rest =>
      match skipGap rest with
      | '\x7d' :: after => some (.mapping [], after)
      | rest => (takeEntries fuel [] rest).map fun (entries, after) => (.mapping entries, after)
    | rest => (number? (rest.takeWhile inNumeral)).map fun v => (v, rest.dropWhile inNumeral)

def takeItems : Nat → List Value → List Char → Option (List Value × List Char)
  | 0, _, _ => none
  | fuel + 1, read, cs =>
    match takeValue fuel cs with
    | none => none
    | some (v, rest) =>
      match skipGap rest with
      | ',' :: after => takeItems fuel (v :: read) after
      | ']' :: after => some ((v :: read).reverse, after)
      | _ => none

def takeEntries : Nat → List (String × Value) → List Char →
    Option (List (String × Value) × List Char)
  | 0, _, _ => none
  | fuel + 1, read, cs =>
    match skipGap cs with
    | '"' :: rest =>
      match takeText [] rest with
      | none => none
      | some (key, rest) =>
        match skipGap rest with
        | ':' :: rest =>
          match takeValue fuel rest with
          | none => none
          | some (v, rest) =>
            match skipGap rest with
            | ',' :: after => takeEntries fuel (put read key v) after
            | '\x7d' :: after => some (put read key v, after)
            | _ => none
        | _ => none
    | _ => none

end

def read? (s : String) : Option Value :=
  let cs := s.toList
  match takeValue (cs.length + 1) cs with
  | some (v, rest) => if (skipGap rest).isEmpty then some v else none
  | none => none

def pushChar (out : String) (c : Char) : String :=
  if c == '"' || c == '\\' then (out.push '\\').push c
  else if c.toNat < 32 then
    ((out ++ "\\u00").push (Nat.digitChar (c.toNat / 16))).push (Nat.digitChar (c.toNat % 16))
  else out.push c

def pushText (out s : String) : String :=
  (s.foldl pushChar (out.push '"')).push '"'

def realText (x : Float) : String :=
  if x.isNaN then "NaN"
  else if x.isInf then (if x < 0 then "-Infinity" else "Infinity")
  else Decimal.exactText x

mutual

def push (out : String) : Value → String
  | .null => out ++ "null"
  | .bool true => out ++ "true"
  | .bool false => out ++ "false"
  | .int n => out ++ toString n
  | .real x => out ++ realText x
  | .text s => pushText out s
  | .list items => (pushItems (out.push '[') items).push ']'
  | .mapping entries => (pushEntries (out.push '\x7b') entries).push '\x7d'

def pushItems (out : String) : List Value → String
  | [] => out
  | [v] => push out v
  | v :: w :: rest => pushItems ((push out v).push ',') (w :: rest)

def pushEntries (out : String) : List (String × Value) → String
  | [] => out
  | [(key, v)] => push ((pushText out key).push ':') v
  | (key, v) :: e :: rest =>
    pushEntries ((push ((pushText out key).push ':') v).push ',') (e :: rest)

end

def write (v : Value) : String :=
  push "" v

end LSystem.Value.Notation
