namespace LSystem

abbrev Dictionary (κ ν : Type) := List (κ × ν)

namespace Dictionary

variable {κ ν : Type} [DecidableEq κ]

def get? (d : Dictionary κ ν) (k : κ) : Option ν :=
  (d.find? fun e => e.1 = k).map Prod.snd

def erase (d : Dictionary κ ν) (k : κ) : Dictionary κ ν :=
  d.filter fun e => e.1 ≠ k

/-- Sets the value of `k`, which becomes the last key. -/
def put (d : Dictionary κ ν) (k : κ) (v : ν) : Dictionary κ ν :=
  d.erase k ++ [(k, v)]

def override (d e : Dictionary κ ν) : Dictionary κ ν :=
  e.foldl (fun d p => d.put p.1 p.2) d

@[simp] theorem get?_nil (k : κ) : get? ([] : Dictionary κ ν) k = none := rfl

theorem get?_cons (e : κ × ν) (d : Dictionary κ ν) (k : κ) :
    get? (e :: d) k = if e.1 = k then some e.2 else get? d k := by
  by_cases h : e.1 = k <;> simp [get?, h]

theorem get?_append (d e : Dictionary κ ν) (k : κ) :
    get? (d ++ e) k = (get? d k).or (get? e k) := by
  simp [get?, List.find?_append, Option.map_or]

@[simp] theorem get?_erase_self (d : Dictionary κ ν) (k : κ) : (d.erase k).get? k = none := by
  simp [get?, erase]

theorem get?_erase_of_ne (d : Dictionary κ ν) {k l : κ} (h : l ≠ k) :
    (d.erase k).get? l = d.get? l := by
  induction d with
  | nil => rfl
  | cons e d ih =>
    by_cases he : e.1 = k
    · have : erase (e :: d) k = erase d k := by simp [erase, he]
      rw [this, ih, get?_cons, if_neg (fun hl => h (hl.symm.trans he))]
    · have : erase (e :: d) k = e :: erase d k := by simp [erase, he]
      rw [this, get?_cons, get?_cons, ih]

@[simp] theorem get?_put_self (d : Dictionary κ ν) (k : κ) (v : ν) :
    (d.put k v).get? k = some v := by
  simp [put, get?_append, get?_cons]

theorem get?_put_of_ne (d : Dictionary κ ν) {k l : κ} (v : ν) (h : l ≠ k) :
    (d.put k v).get? l = d.get? l := by
  simp [put, get?_append, get?_cons, get?_erase_of_ne d h, Ne.symm h]

theorem mem_erase {d : Dictionary κ ν} {k : κ} {e : κ × ν} :
    e ∈ d.erase k ↔ e ∈ d ∧ e.1 ≠ k := by
  simp [erase]

theorem mem_of_get? {d : Dictionary κ ν} {k : κ} {v : ν} (h : d.get? k = some v) :
    (k, v) ∈ d := by
  simp only [get?, Option.map_eq_some_iff] at h
  obtain ⟨e, he, rfl⟩ := h
  have hk : e.1 = k := by simpa using List.find?_some he
  exact hk ▸ List.mem_of_find?_eq_some he

end Dictionary

end LSystem
