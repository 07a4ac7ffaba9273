import Mathlib.Data.List.Nodup
import Workcell.Pairs

namespace Workcell

section Table

variable {α β : Type} [DecidableEq α] {l : List (α × β)} {k : α} {v : β}

theorem lookup_eq_none_of_not_mem (h : k ∉ l.map Prod.fst) : l.lookup k = none := by
  rw [List.lookup_eq_none_iff]
  intro p hp
  have hne : k ≠ p.1 := fun heq => h (heq ▸ List.mem_map_of_mem hp)
  simpa using hne

theorem lookup_eq_some_iff (h : (l.map Prod.fst).Nodup) : l.lookup k = some v ↔ (k, v) ∈ l := by
  induction l with
  | nil => simp
  | cons p r ih =>
      obtain ⟨a, w⟩ := p
      obtain ⟨ha, hr⟩ := List.nodup_cons.1 h
      rw [List.lookup_cons, List.mem_cons, Prod.mk.injEq]
      by_cases hk : k = a
      · have hnot : (k, v) ∉ r := fun hmem => ha (List.mem_map.2 ⟨(k, v), hmem, hk⟩)
        simp [hk, hk ▸ hnot, eq_comm]
      · have hbeq : (k == a) = false := by simpa using hk
        rw [hbeq, ih hr]
        simp [hk]

end Table

namespace Pairs

variable {l : List (String × String)} {k v : String}

theorem get?_eq_some_iff {m : Pairs} : m.get? k = some v ↔ (k, v) ∈ m.entries :=
  lookup_eq_some_iff m.keys_nodup

theorem get?_foldl_insert (h : (l.map Prod.fst).Nodup) (m : Pairs) :
    (l.foldl (fun m p => m.insert p.1 p.2) m).get? k = (l.lookup k).or (m.get? k) := by
  induction l generalizing m with
  | nil => rfl
  | cons p r ih =>
      obtain ⟨a, w⟩ := p
      obtain ⟨ha, hr⟩ := List.nodup_cons.1 h
      rw [List.foldl_cons, ih hr, get?_insert, List.lookup_cons]
      by_cases hk : k = a
      · rw [hk, lookup_eq_none_of_not_mem ha]
        simp
      · have hbeq : (k == a) = false := by simpa using hk
        rw [if_neg hk, hbeq]

theorem keys_foldl_insert (h : (l.map Prod.fst).Nodup) (m : Pairs) :
    (l.foldl (fun m p => m.insert p.1 p.2) m).keys = m.keys ++ (l.map Prod.fst).filter (· ∉ m.keys) := by
  induction l generalizing m with
  | nil => simp
  | cons p r ih =>
      obtain ⟨hp, hr⟩ := List.nodup_cons.1 h
      rw [List.foldl_cons, ih hr, keys_insert, List.map_cons]
      by_cases hk : p.1 ∈ m.keys
      · simp [hk]
      · have hlater : (r.map Prod.fst).filter (· ∉ m.keys ++ [p.1]) =
            (r.map Prod.fst).filter (· ∉ m.keys) := by
          apply List.filter_congr
          intro a ha
          have hne : a ≠ p.1 := fun heq => hp (heq ▸ ha)
          simp [hne]
        rw [if_neg hk, hlater]
        simp [hk]

theorem get?_overlay (m above : Pairs) (k : String) :
    (m.overlay above).get? k = (above.get? k).or (m.get? k) :=
  get?_foldl_insert above.keys_nodup m

theorem keys_overlay (m above : Pairs) :
    (m.overlay above).keys = m.keys ++ above.keys.filter (· ∉ m.keys) :=
  keys_foldl_insert above.keys_nodup m

theorem mem_keys_overlay_iff {m above : Pairs} : k ∈ (m.overlay above).keys ↔ k ∈ m.keys ∨ k ∈ above.keys := by
  rw [keys_overlay]
  by_cases hk : k ∈ m.keys
  · simp [hk]
  · simp [hk]

end Pairs

end Workcell
