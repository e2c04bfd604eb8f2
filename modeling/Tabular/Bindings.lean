namespace Tabular

structure Bindings (α : Type) where
  entries : List (String × α) := []

namespace Bindings

variable {α : Type}

instance : EmptyCollection (Bindings α) := ⟨⟨[]⟩⟩
instance : Inhabited (Bindings α) := ⟨∅⟩

def get? (b : Bindings α) (name : String) : Option α := b.entries.lookup name

def insert (b : Bindings α) (name : String) (x : α) : Bindings α := ⟨(name, x) :: b.entries⟩

def insertAll (b : Bindings α) (entries : List (String × α)) : Bindings α :=
  entries.foldl (fun b (name, x) => b.insert name x) b

def contains (b : Bindings α) (name : String) : Bool := (b.get? name).isSome

def names (b : Bindings α) : List String := (b.entries.map (·.1)).eraseDups.mergeSort fun s t => !decide (t < s)

@[simp] theorem get?_empty (name : String) : (∅ : Bindings α).get? name = none := rfl

@[simp] theorem get?_insert_self (b : Bindings α) (name : String) (x : α) :
    (b.insert name x).get? name = some x := by
  simp [get?, insert]

theorem get?_insert_of_ne (b : Bindings α) {name other : String} (x : α) (h : other ≠ name) :
    (b.insert name x).get? other = b.get? other := by
  simp [get?, insert, List.lookup_cons, beq_eq_false_iff_ne.2 h]

end Bindings

end Tabular
