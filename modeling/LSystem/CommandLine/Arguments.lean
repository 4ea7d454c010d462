import LSystem.Text.Digit
import LSystem.Value.Basic

/-!
Command line arguments: options with and without a value.

A long option may be cut short as long as only one begins like that, and takes its value after an
equals sign or as the next argument. A next argument that begins with a dash is a value only if it
is a negative number or holds a space. Two dashes after the equals sign are no value at all: the
option is given an empty list. Short options may be written together behind one dash, with or
without an equals sign after the first.
-/

namespace LSystem.CommandLine

inductive OptionUse where
  | help
  | flag
  | value (read : String → Option Value)

structure OptionSpec where
  long : String
  short : Option Char
  use : OptionUse

inductive Stop where
  | help
  | usage
  deriving DecidableEq, Repr

def Stop.status : Stop → Nat
  | .help => 0
  | .usage => 2

inductive Argument where
  | plain (s : String)
  | separator
  | known (o : OptionSpec) ( isShort : Bool) (attached : Option String)
  | unknown

def isDigit (c : Char) : Bool :=
  (Text.digit? c).isSome

def isDigits (cs : List Char) : Bool :=
  !cs.isEmpty && cs.all isDigit

/-- A dash with digits behind it, which may hold a point but not end in one. One line feed may
follow. -/
def isNegativeNumber : List Char → Bool
  | '-' :: rest =>
    let body := if rest.getLast? = some '\n' then rest.dropLast else rest
    isDigits body
      || match body.dropWhile isDigit with
        | '.' :: fraction => isDigits fraction
        | _ => false
  | _ => false

def cutAtEquals (s : String) : String × Option String :=
  let cs := s.toList
  match cs.dropWhile (· ≠ '=') with
  | [] => (s, none)
  | _ :: value => (String.ofList (cs.takeWhile (· ≠ '=')), some (String.ofList value))

def beginningWith (options : List OptionSpec) (s : String) : List OptionSpec :=
  options.filter fun o => s.toList.isPrefixOf o.long.toList

def shortOption? (options : List OptionSpec) (c : Char) : Option OptionSpec :=
  options.find? fun o => o.short = some c

def strange (s : String) : Argument :=
  if isNegativeNumber s.toList || s.toList.contains ' ' then .plain s else .unknown

def classify (options : List OptionSpec) (s : String) : Except Stop Argument :=
  match s.toList with
  | '-' :: '-' :: _ =>
    let (name, value) := cutAtEquals s
    match options.find? fun o => o.long = name with
    | some o => .ok (.known o false value)
    | none =>
      match beginningWith options name with
      | [] => .ok (strange s)
      | [o] => .ok (.known o false value)
      | _ => .error .usage
  | '-' :: c :: rest =>
    match shortOption? options c with
    | none => .ok (strange s)
    | some o =>
      match rest with
      | [] => .ok (.known o true none)
      | '=' :: text => .ok (.known o true (some (String.ofList text)))
      | _ => .ok (.known o true (some (String.ofList rest)))
  | _ => .ok (.plain s)

def classifyAll (options : List OptionSpec) : List String → Except Stop (List Argument)
  | [] => .ok []
  | "--" :: rest => .ok (.separator :: rest.map .plain)
  | s :: rest => do
    let a ← classify options s
    let others ← classifyAll options rest
    return a :: others

def cluster? (options : List OptionSpec) (letters : String) : Option (List OptionSpec) :=
  if letters = "" then none else letters.toList.mapM (shortOption? options)

structure Given where
  options : List (String × Value)
  stray : Bool

namespace Given

def empty : Given := ⟨[], false⟩

def add (g : Given) (name : String) (value : Value) : Given :=
  { g with options := g.options ++ [(name, value)] }

def addStray (g : Given) : Given :=
  { g with stray := true }

def take (g : Given) (o : OptionSpec) : Except Stop Given :=
  match o.use with
  | .help => .error .help
  | .flag => .ok (g.add o.long (.bool true))
  | .value _ => .error .usage

def takeValue (g : Given) (o : OptionSpec) (text : String) : Except Stop Given :=
  match o.use with
  | .value read => match read text with
    | some v => .ok (g.add o.long v)
    | none => .error .usage
  | _ => .error .usage

/-- Takes an option with what is attached to it. Of options written together none is taken unless
all of them are known. -/
def takeAttached (g : Given) (options : List OptionSpec) (o : OptionSpec) ( isShort : Bool) :
    Option String → Except Stop Given
  | none => g.take o
  | some text =>
    match o.use with
    | .value _ => if text = "--" then .ok (g.add o.long (.list [])) else g.takeValue o text
    | _ =>
      if !isShort then .error .usage
      else match cluster? options text with
        | none => .error .usage
        | some others => (o :: others).foldlM take g

/-- Takes arguments up to the first plain one that is no value of an option, and gives the count of
those after it and itself. -/
def takeOptions (g : Given) (options : List OptionSpec) :
    List Argument → Except Stop (Given × Nat)
  | [] => .ok (g, 0)
  | .plain s :: rest => .ok (g, (Argument.plain s :: rest).length)
  | .separator :: rest => .ok (g, (Argument.separator :: rest).length)
  | .unknown :: rest => g.addStray.takeOptions options rest
  | .known o _ none :: .plain s :: rest =>
    match o.use with
    | .value _ => do (← g.takeValue o s).takeOptions options rest
    | _ => do (← g.take o).takeOptions options (.plain s :: rest)
  | .known o isShort attached :: rest => do
    (← g.takeAttached options o isShort attached).takeOptions options rest

def takeAll (g : Given) (options : List OptionSpec) : List Argument → Except Stop Given
  | [] => .ok g
  | .plain _ :: rest | .separator :: rest | .unknown :: rest => g.addStray.takeAll options rest
  | .known o _ none :: .plain s :: rest =>
    match o.use with
    | .value _ => do (← g.takeValue o s).takeAll options rest
    | _ => do (← g.take o).takeAll options (.plain s :: rest)
  | .known o isShort attached :: rest => do
    (← g.takeAttached options o isShort attached).takeAll options rest

def last? (g : Given) (name : String) : Option Value :=
  (g.options.reverse.find? fun e => e.1 = name).map Prod.snd

def values (g : Given) (name : String) : List Value :=
  (g.options.filter fun e => e.1 = name).map Prod.snd

def has (g : Given) (name : String) : Bool :=
  g.options.any fun e => e.1 = name

end Given

end LSystem.CommandLine
