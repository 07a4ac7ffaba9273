namespace Workcell

section Table

variable {α β : Type} [DecidableEq α]

def putPair (key : α) (value : β) : List (α × β) → List (α × β)
  | [] => [(key, value)]
  | (k, v) :: r => if k = key then (key, value) :: r else (k, v) :: putPair key value r

theorem map_fst_putPair (key : α) (value : β) (l : List (α × β)) :
    (putPair key value l).map Prod.fst =
      if key ∈ l.map Prod.fst then l.map Prod.fst else l.map Prod.fst ++ [key] := by
  induction l with
  | nil => simp [putPair]
  | cons p r ih =>
      by_cases h : p.1 = key
      · simp [putPair, h]
      · simp only [putPair, h, if_false, List.map_cons, ih, List.mem_cons, Ne.symm h, false_or]
        split <;> simp

theorem nodup_putPair (key : α) (value : β) {l : List (α × β)}
    (h : (l.map Prod.fst).Nodup) : ((putPair key value l).map Prod.fst).Nodup := by
  rw [map_fst_putPair]
  split
  · exact h
  · next hk =>
      rw [List.nodup_append]
      exact ⟨h, by simp, fun a ha b hb hab => hk (by simp_all)⟩

theorem lookup_putPair (key : α) (value : β) (k : α) (l : List (α × β)) :
    (putPair key value l).lookup k = if k = key then some value else l.lookup k := by
  induction l with
  | nil =>
      by_cases h : k = key
      · simp [putPair, h]
      · have : (k == key) = false := by simpa using h
        simp [putPair, List.lookup_cons, h, this]
  | cons p r ih =>
      obtain ⟨a, v⟩ := p
      by_cases ha : a = key
      · subst ha
        by_cases h : k = a
        · simp [putPair, h]
        · have : (k == a) = false := by simpa using h
          simp [putPair, List.lookup_cons, h, this]
      · simp only [putPair, ha, if_false, List.lookup_cons]
        by_cases h : k = a
        · subst h; simp [ha]
        · have : (k == a) = false := by simpa using h
          simp [this, ih]

end Table

/-- An ordered mapping: its pairs in order, no key twice. -/
structure Pairs where
  entries : List (String × String)
  keys_nodup : (entries.map Prod.fst).Nodup

namespace Pairs

instance : DecidableEq Pairs := fun a b =>
  decidable_of_iff (a.entries = b.entries) (by cases a; cases b; simp)

def empty : Pairs := ⟨[], by simp⟩

instance : Inhabited Pairs := ⟨empty⟩

def insert (m : Pairs) (key value : String) : Pairs :=
  ⟨putPair key value m.entries, nodup_putPair key value m.keys_nodup⟩

def keys (m : Pairs) : List String := m.entries.map Prod.fst

def get? (m : Pairs) (key : String) : Option String := m.entries.lookup key

def overlay (m above : Pairs) : Pairs :=
  above.entries.foldl (fun m p => m.insert p.1 p.2) m

def ofList (l : List (String × String)) : Pairs :=
  l.foldl (fun m p => m.insert p.1 p.2) empty

theorem keys_insert (m : Pairs) (key value : String) :
    (m.insert key value).keys = if key ∈ m.keys then m.keys else m.keys ++ [key] :=
  map_fst_putPair key value m.entries

theorem get?_insert (m : Pairs) (key value k : String) :
    (m.insert key value).get? k = if k = key then some value else m.get? k :=
  lookup_putPair key value k m.entries

end Pairs

end Workcell
