import LSystem.Grammar.Basic
import LSystem.Rule
import LSystem.Text.Lines
import LSystem.Token.Table

namespace LSystem

inductive RuleError where
  | malformed (rule : String) (fault : RuleFault)
  | unknown (symbol : Char)

def RuleError.message : RuleError → String
  | .malformed rule fault => "規則を解釈できません（" ++ fault.reason ++ "）: " ++ Text.quoted rule
  | .unknown symbol => "未登録の記号です: " ++ Text.quoted symbol.toString

inductive EditError where
  | token (cause : TokenError)
  | rule (cause : RuleError)
  | ruleAt (place : Nat) (rule : String) (cause : RuleError)
  | noMembers

def EditError.message : EditError → String
  | .token cause => cause.message
  | .rule cause => cause.message
  | .ruleAt place text cause =>
    toString (place + 1) ++ " 番目の規則 " ++ Text.quoted text ++ " を追加できません: " ++ cause.message
  | .noMembers => "a list of rules is required"

structure Draft where
  tokens : TokenTable
  start : List Nat
  rules : Dictionary Nat (List Nat)

namespace TokenTable

def resolve (t : TokenTable) (c : Char) : Except RuleError Nat :=
  match t.find? c with
  | some e => .ok e.id
  | none => .error (.unknown c)

def compileRule (t : TokenTable) (text : String) : Except RuleError (Nat × List Nat) :=
  match Rule.parse text with
  | .error fault => .error (.malformed text fault)
  | .ok rule => do
    let id ← t.resolve rule.symbol
    let ids ← rule.replacement.mapM t.resolve
    return (id, ids)

/-- The ids of a text; symbols that are not in the table are left out. -/
def compileText (t : TokenTable) (cs : List Char) : List Nat :=
  cs.filterMap fun c => (t.find? c).map TokenEntry.id

end TokenTable

namespace Draft

def ofTokens (t : TokenTable) : Draft := ⟨t, [], []⟩

def empty : Draft := ofTokens .empty

instance : Inhabited Draft := ⟨empty⟩

/-- Replaces the table and forgets start and rules. If a declaration is refused, the table holds
those before it, and start and rules stay. -/
def setTokens (d : Draft) (declarations : List Declaration) : Outcome Draft EditError Unit :=
  match TokenTable.reset declarations with
  | ⟨t, .ok _⟩ => .ok (ofTokens t) ()
  | ⟨t, .error e⟩ => .fail { d with tokens := t } (.token e)

def addToken (d : Draft) (symbol : Value) (action : Offer Action) : Outcome Draft EditError Unit :=
  match d.tokens.register symbol action with
  | ⟨t, .ok _⟩ => .ok { d with tokens := t } ()
  | ⟨t, .error e⟩ => .fail { d with tokens := t } (.token e)

def removeToken (d : Draft) (symbol : Value) : Outcome Draft EditError (Option TokenEntry) :=
  match d.tokens.remove symbol with
  | ⟨t, .ok e⟩ => .ok { d with tokens := t } e
  | ⟨t, .error e⟩ => .fail { d with tokens := t } (.token e)

/-- Gives the action of `former` to `symbol`, and removes `former` unless they are the same. Answers
whether `former` was in the table; if not, `symbol` is not looked at. -/
def changeToken (d : Draft) (former symbol : Value) : Outcome Draft EditError Bool :=
  match d.tokens.get former with
  | .error cause => .fail d (.token cause)
  | .ok none => .ok d false
  | .ok (some e) =>
    match d.tokens.register symbol (.proper e.action) with
    | ⟨t, .error cause⟩ => .fail { d with tokens := t } (.token cause)
    | ⟨t, .ok _⟩ =>
      let t := if symbol.symbol? = former.symbol? then t else (t.remove former).state
      .ok { d with tokens := t } true

def changeAction (d : Draft) (symbol : Value) (action : Offer Action) :
    Outcome Draft EditError Bool :=
  match d.tokens.get symbol with
  | .error cause => .fail d (.token cause)
  | .ok none => .ok d false
  | .ok (some _) =>
    match d.tokens.register symbol action with
    | ⟨t, .ok _⟩ => .ok { d with tokens := t } true
    | ⟨t, .error e⟩ => .fail { d with tokens := t } (.token e)

def addRule (d : Draft) (text : String) : Outcome Draft RuleError Unit :=
  match d.tokens.compileRule text with
  | .ok (id, ids) => .ok { d with rules := d.rules.put id ids } ()
  | .error e => .fail d e

def addRules (d : Draft) (place : Nat) : List String → Outcome Draft EditError Unit
  | [] => .ok d ()
  | text :: rest =>
    match d.addRule text with
    | ⟨d, .ok _⟩ => d.addRules (place + 1) rest
    | ⟨d, .error e⟩ => .fail d (.ruleAt place text e)

def setRules (d : Draft) (texts : List String) : Outcome Draft EditError Unit :=
  { d with rules := [] }.addRules 0 texts

def setRulesOf (d : Draft) (rules : Value) : Outcome Draft EditError Unit :=
  match rules.members? with
  | some members => d.setRules (members.map Value.toText)
  | none => .fail { d with rules := [] } .noMembers

def rulesOfText (cs : List Char) : List (List Char) :=
  ((Text.lines cs).map Text.trim).filter fun line => line.head?.any (· ≠ '#')

def setRulesText (d : Draft) (text : String) : Outcome Draft EditError Unit :=
  d.setRules ((rulesOfText text.toList).map String.ofList)

def setStart (d : Draft) (text : String) : Draft :=
  { d with start := d.tokens.compileText text.toList }

def build (d : Draft) : Grammar where
  start := d.start.map Int.ofNat
  productions := d.rules.map fun r => (Int.ofNat r.1, r.2.map Int.ofNat)
  alphabet := d.tokens.symbols.map fun c => c.map Char.toString

inductive Command where
  | setTokens (declarations : List Declaration)
  | addToken (symbol : Value) (action : Offer Action)
  | removeToken (symbol : Value)
  | changeToken (former symbol : Value)
  | changeAction (symbol : Value) (action : Offer Action)
  | addRule (rule : Value)
  | setRules (rules : Value)
  | setRulesText (rules : Value)
  | setStart (text : Value)

inductive Reply where
  | done
  | removed (entry : Option TokenEntry)
  | changed (found : Bool)

def perform (d : Draft) : Command → Outcome Draft EditError Reply
  | .setTokens declarations => (d.setTokens declarations).map fun _ => .done
  | .addToken symbol action => (d.addToken symbol action).map fun _ => .done
  | .removeToken symbol => (d.removeToken symbol).map .removed
  | .changeToken former symbol => (d.changeToken former symbol).map .changed
  | .changeAction symbol action => (d.changeAction symbol action).map .changed
  | .addRule rule => match d.addRule rule.toText with
    | ⟨d, .ok _⟩ => .ok d .done
    | ⟨d, .error e⟩ => .fail d (.rule e)
  | .setRules rules => (d.setRulesOf rules).map fun _ => .done
  | .setRulesText rules => (d.setRulesText rules.toText).map fun _ => .done
  | .setStart text => .ok (d.setStart text.toText) .done

end Draft

def Grammar.compile (declarations : List Declaration) (start : String) (rules : Value) :
    Except EditError Grammar := do
  let draft ← (Draft.empty.setTokens declarations).result
  let draft ← ((draft.setStart start).setRulesOf rules).result
  return draft.build

end LSystem
