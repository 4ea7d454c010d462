import LSystem.Action.Parse
import LSystem.Dictionary
import LSystem.Outcome
import LSystem.Value.Key

namespace LSystem

structure TokenEntry where
  id : Nat
  action : Action
  deriving DecidableEq, Repr

structure Declaration where
  symbol : Value
  action : Offer Action

def Declaration.of (c : Char) (a : Action) : Declaration :=
  ⟨.text c.toString, .proper a⟩

inductive TokenError where
  | badSymbol (given : Value)
  | notAction (given : Value)
  | notRegistered (symbol : String)
  | unhashable (given : Value)

def TokenError.message : TokenError → String
  | .badSymbol given => "記号は 1 文字の str である必要があります: " ++ given.literal
  | .notAction given => "action は Action である必要があります: " ++ given.literal
  | .notRegistered symbol => "記号が登録されていません: " ++ Text.quoted symbol
  | .unhashable (.list _) => "unhashable type: 'list'"
  | .unhashable _ => "unhashable type: 'dict'"

structure TokenTable where
  entries : Dictionary Char TokenEntry
  symbols : Array (Option Char)
  actions : Array (Option Action)
  deriving DecidableEq, Repr

namespace TokenTable

def empty : TokenTable := ⟨[], #[], #[]⟩

instance : Inhabited TokenTable := ⟨empty⟩

def find? (t : TokenTable) (c : Char) : Option TokenEntry :=
  t.entries.get? c

def get (t : TokenTable) (symbol : Value) : Except TokenError (Option TokenEntry) :=
  if symbol.isKey then .ok (symbol.symbol?.bind t.find?) else .error (.unhashable symbol)

def contains (t : TokenTable) (symbol : Value) : Except TokenError Bool :=
  (t.get symbol).map Option.isSome

def nextId (t : TokenTable) : Nat :=
  t.symbols.size

def erase (t : TokenTable) (c : Char) : TokenTable :=
  match t.find? c with
  | none => t
  | some e =>
    { entries := t.entries.erase c
      symbols := t.symbols.setIfInBounds e.id none
      actions := t.actions.setIfInBounds e.id none }

def insert (t : TokenTable) (c : Char) (a : Action) : TokenTable :=
  let t := t.erase c
  { entries := t.entries ++ [(c, ⟨t.nextId, a⟩)]
    symbols := t.symbols.push (some c)
    actions := t.actions.push (some a) }

def register (t : TokenTable) (symbol : Value) (action : Offer Action) :
    Outcome TokenTable TokenError Nat :=
  match symbol.symbol?, action with
  | none, _ => .fail t (.badSymbol symbol)
  | some _, .other v => .fail t (.notAction v)
  | some c, .proper a => .ok (t.insert c a) t.nextId

/-- Takes a symbol out of the table and answers its entry. In an empty table nothing is looked up,
so that anything may be asked for. -/
def remove (t : TokenTable) (symbol : Value) : Outcome TokenTable TokenError (Option TokenEntry) :=
  if symbol.isKey || t.entries.isEmpty then
    match symbol.symbol? with
    | none => .ok t none
    | some c => .ok (t.erase c) (t.find? c)
  else .fail t (.unhashable symbol)

def lookup (t : TokenTable) (symbol : Value) : Except TokenError TokenEntry :=
  match t.get symbol with
  | .ok (some e) => .ok e
  | .ok none => .error (.notRegistered symbol.toText)
  | .error e => .error e

def registerAll (t : TokenTable) : List Declaration → Outcome TokenTable TokenError Unit
  | [] => .ok t ()
  | d :: rest =>
    match t.register d.symbol d.action with
    | ⟨t, .ok _⟩ => t.registerAll rest
    | ⟨t, .error e⟩ => .fail t e

def reset (declarations : List Declaration) : Outcome TokenTable TokenError Unit :=
  empty.registerAll declarations

def symbolOf (t : TokenTable) (id : Int) : Option Char :=
  if id < 0 then none else t.symbols[id.toNat]?.join

def actionOf (t : TokenTable) (id : Int) : Option Action :=
  if id < 0 then none else t.actions[id.toNat]?.join

def actionMap (t : TokenTable) : Dictionary Char Action :=
  t.entries.map fun e => (e.1, e.2.action)

def declarations (t : TokenTable) : List Declaration :=
  t.actionMap.map fun e => .of e.1 e.2

def summary (t : TokenTable) : String :=
  let items := t.actionMap.map fun e => Text.quoted e.1.toString ++ ": " ++ e.2.spec
  "TokenRegistry(\x7b" ++ ", ".intercalate items ++ "\x7d)"

theorem get_of_isKey (t : TokenTable) {symbol : Value} (h : symbol.isKey = true) :
    t.get symbol = .ok (symbol.symbol?.bind t.find?) :=
  if_pos h

theorem get_of_not_isKey (t : TokenTable) {symbol : Value} (h : symbol.isKey = false) :
    t.get symbol = .error (.unhashable symbol) := by
  rw [get, h]
  rfl

theorem get_eq_error_iff {t : TokenTable} {symbol : Value} {cause : TokenError} :
    t.get symbol = .error cause ↔ symbol.isKey = false ∧ .unhashable symbol = cause := by
  rw [get]
  cases symbol.isKey <;> simp

theorem get_eq_some_iff {t : TokenTable} {symbol : Value} {e : TokenEntry} :
    t.get symbol = .ok (some e) ↔ ∃ c, symbol.symbol? = some c ∧ t.find? c = some e := by
  cases h : symbol.isKey with
  | false =>
    rw [t.get_of_not_isKey h, Value.symbol?_of_not_isKey h]
    simp
  | true => rw [t.get_of_isKey h, Except.ok.injEq, Option.bind_eq_some_iff]

theorem get_of_symbol? (t : TokenTable) {symbol : Value} {c : Char} (h : symbol.symbol? = some c) :
    t.get symbol = .ok (t.find? c) := by
  rw [t.get_of_isKey (Value.isKey_of_symbol? h), h]
  rfl

theorem remove_of_not_isKey (t : TokenTable) {symbol : Value} (h : symbol.isKey = false)
    (hfull : t.entries ≠ []) : t.remove symbol = .fail t (.unhashable symbol) := by
  rw [remove, h, Bool.false_or, if_neg (mt List.isEmpty_iff.mp hfull)]

theorem remove_of_symbol? (t : TokenTable) {symbol : Value} {c : Char}
    (h : symbol.symbol? = some c) : t.remove symbol = .ok (t.erase c) (t.find? c) := by
  rw [remove, Value.isKey_of_symbol? h, h]
  rfl

@[simp] theorem find?_empty (c : Char) : empty.find? c = none := rfl

theorem erase_of_find?_eq_none {t : TokenTable} {c : Char} (h : t.find? c = none) :
    t.erase c = t := by
  simp [erase, h]

@[simp] theorem entries_erase (t : TokenTable) (c : Char) :
    (t.erase c).entries = t.entries.erase c := by
  unfold erase
  cases h : t.find? c with
  | none =>
    refine (List.filter_eq_self.2 fun e he => ?_).symm
    have := List.find?_eq_none.1 (Option.map_eq_none_iff.1 h) e he
    simpa using this
  | some e => rfl

@[simp] theorem find?_erase_self (t : TokenTable) (c : Char) : (t.erase c).find? c = none := by
  simp [find?]

theorem find?_erase_of_ne (t : TokenTable) {c x : Char} (h : x ≠ c) :
    (t.erase c).find? x = t.find? x := by
  simp [find?, Dictionary.get?_erase_of_ne t.entries h]

@[simp] theorem nextId_erase (t : TokenTable) (c : Char) : (t.erase c).nextId = t.nextId := by
  unfold erase nextId
  cases t.find? c <;> simp

@[simp] theorem nextId_insert (t : TokenTable) (c : Char) (a : Action) :
    (t.insert c a).nextId = t.nextId + 1 := by
  have h : (t.erase c).symbols.size = t.symbols.size := nextId_erase t c
  simp [insert, nextId, h]

@[simp] theorem find?_insert_self (t : TokenTable) (c : Char) (a : Action) :
    (t.insert c a).find? c = some ⟨t.nextId, a⟩ := by
  simp [insert, find?, Dictionary.get?_append, Dictionary.get?_cons]

theorem find?_insert_of_ne (t : TokenTable) {c x : Char} (a : Action) (h : x ≠ c) :
    (t.insert c a).find? x = t.find? x := by
  simp [insert, find?, Dictionary.get?_append, Dictionary.get?_cons,
    Dictionary.get?_erase_of_ne t.entries h, Ne.symm h]

end TokenTable

end LSystem
