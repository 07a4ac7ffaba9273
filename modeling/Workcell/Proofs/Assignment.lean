import Mathlib.Logic.Relation
import Workcell.Assignment
import Workcell.Proofs.Pairs
import Workcell.Proofs.Redaction

namespace Workcell

theorem Text.cutFirst_append {α : Type} [DecidableEq α] {sep : α} {before : List α} (h : sep ∉ before)
    (after : List α) : cutFirst sep (before ++ sep :: after) = some (before, after) := by
  have hbefore : ∀ a ∈ before, decide (a ≠ sep) = true := fun a ha =>
    decide_eq_true fun heq => h (heq ▸ ha)
  rw [cutFirst, List.dropWhile_append_of_pos hbefore, List.takeWhile_append_of_pos hbefore]
  simp

def assignment (p : String × String) : String := p.1 ++ "=" ++ p.2

/-- A key that can be given on a command line, where the first equals sign ends it. -/
def IsKey (key : String) : Prop := key ≠ "" ∧ '=' ∉ key.toList

instance (key : String) : Decidable (IsKey key) := inferInstanceAs (Decidable (_ ∧ _))

theorem splitAssignment_assignment {p : String × String} (h : IsKey p.1) :
    splitAssignment (assignment p) = some p := by
  have htext : (assignment p).toList = p.1.toList ++ '=' :: p.2.toList := by
    simp [assignment]
  have hne : p.1.toList ≠ [] := by simpa using h.1
  rw [splitAssignment, htext, Text.cutFirst_append h.2]
  simp [hne]

theorem readAssignments_map {pairs : List (String × String)} (h : ∀ p ∈ pairs, IsKey p.1) (option : String) :
    readAssignments option (pairs.map assignment) = .ok (.ofList pairs) := by
  unfold readAssignments Pairs.ofList
  generalize Pairs.empty = m
  induction pairs generalizing m with
  | nil => rfl
  | cons p pairs ih =>
      obtain ⟨hp, hpairs⟩ := List.forall_mem_cons.1 h
      rw [List.map_cons, List.foldlM_cons, splitAssignment_assignment hp]
      exact ih hpairs _

namespace Pairs

variable (pairs : List (String × String))

theorem ofList_concat (p : String × String) : ofList (pairs ++ [p]) = (ofList pairs).insert p.1 p.2 := by
  rw [ofList, List.foldl_append]
  rfl

theorem get?_ofList (k : String) : (ofList pairs).get? k = pairs.reverse.lookup k := by
  induction pairs using List.reverseRecOn with
  | nil => rfl
  | append_singleton pairs p ih =>
      rw [ofList_concat, get?_insert, ih, List.reverse_concat, List.lookup_cons]
      by_cases hk : k = p.1
      · simp [hk]
      · have hbeq : (k == p.1) = false := by simpa using hk
        rw [if_neg hk, hbeq]

theorem keys_ofList : (ofList pairs).keys = (pairs.map Prod.fst).eraseDups := by
  induction pairs using List.reverseRecOn with
  | nil => rfl
  | append_singleton pairs p ih =>
      rw [ofList_concat, keys_insert, ih, List.map_append, List.eraseDups_append]
      by_cases hk : p.1 ∈ pairs.map Prod.fst
      · rw [if_pos (List.mem_eraseDups.2 hk)]
        simp [List.removeAll, hk]
      · rw [if_neg (mt List.mem_eraseDups.1 hk)]
        simp [List.removeAll, hk, List.eraseDups_cons]

/-- One occurrence of a key gives way to its value. -/
def Rewrites (m : Pairs) (a b : List Char) : Prop :=
  ∃ src dst before after, src ≠ "" ∧ m.get? src = some dst ∧
    a = before ++ (src.toList ++ after) ∧ b = before ++ (dst.toList ++ after)

variable {m : Pairs} {src dst : String}

theorem Rewrites.append_left {a b : List Char} (h : m.Rewrites a b) (front : List Char) :
    m.Rewrites (front ++ a) (front ++ b) := by
  obtain ⟨src, dst, before, after, hne, hget, rfl, rfl⟩ := h
  exact ⟨src, dst, front ++ before, after, hne, hget, by simp, by simp⟩

theorem rewrites_replaceAll (hne : src ≠ "") (hget : m.get? src = some dst) (cs : List Char) :
    Relation.ReflTransGen m.Rewrites cs (replaceAll src.toList dst.toList cs) := by
  have hsrc : src.toList ≠ [] := by simpa using hne
  induction hn : cs.length using Nat.strongRecOn generalizing cs with
  | ind n ih =>
      rcases replaceAll_cases hsrc dst.toList cs with ⟨-, heq⟩ | ⟨before, tail, rfl, -, heq⟩
      · rw [heq]
      · have hshorter : tail.length < n := by
          have hpos := List.length_pos_of_ne_nil hsrc
          simp only [List.length_append] at hn
          omega
        have htail := ih tail.length hshorter tail rfl
        rw [heq]
        refine .head ⟨src, dst, before, tail, hne, hget, rfl, rfl⟩ ?_
        exact htail.lift (fun cs => before ++ (dst.toList ++ cs)) fun a b hab =>
          (hab.append_left _).append_left _

/-- Whatever is redacted, no text is put in that is not a value of the mapping, and none but for its key. -/
theorem rewrites_redact (m : Pairs) (s : String) :
    Relation.ReflTransGen m.Rewrites s.toList (redact (orderedRedactions m) s).toList := by
  have hall : ∀ p ∈ orderedRedactions m, p.1 ≠ "" ∧ m.get? p.1 = some p.2 := by
    intro p hp
    obtain ⟨hentry, hne⟩ := mem_orderedRedactions.1 hp
    exact ⟨hne, get?_eq_some_iff.2 hentry⟩
  rw [redact, String.toList_ofList]
  generalize s.toList = cs
  generalize orderedRedactions m = replacements at hall
  induction replacements generalizing cs with
  | nil => exact .refl
  | cons p replacements ih =>
      obtain ⟨hp, hall⟩ := List.forall_mem_cons.1 hall
      exact (rewrites_replaceAll hp.1 hp.2 cs).trans (ih _ hall)

end Pairs

end Workcell
