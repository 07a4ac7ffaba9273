import Workcell.Yaml.Document
import Workcell.Proofs.Yaml.Composer
import Workcell.Proofs.Yaml.Construction

namespace Workcell.Yaml

/-- The errors of the nodes of a graph: of malformed ones, of a mapping that stands for itself, and of a scalar whose
text does not fit the tag by which it is read. -/
inductive NodeFault (g : Graph) : Error → Prop
  | malformed : NodeFault g .malformed
  | endless : NodeFault g (.scalar .endless)
  | scalar {t t' : Tag} {id : Nat} {text : ScalarText} {e : Error} : g.node id = .scalar t' text →
      Scalar.read t text = some (.error e) → NodeFault g e

namespace Graph

variable {g : Graph}

theorem nodeFault_of_value {t : Tag} {id : Nat} {e : Error} (h : g.value t id = .error e) : NodeFault g e := by
  rw [value] at h
  split at h
  · next t' text hnode =>
    cases hread : Scalar.read t text with
    | none =>
        rw [hread] at h
        cases h
        exact .malformed
    | some r =>
        rw [hread] at h
        obtain rfl : r = .error e := h
        exact .scalar hnode hread
  · cases h
    exact .malformed

theorem nodeFault_of_construct {root : Nat} {e : Error} (h : g.construct root = .error e) : NodeFault g e := by
  rw [construct] at h
  cases hmade : (Construction.makeAll g.value root).run g.blank with
  | ok r =>
      rw [hmade] at h
      cases h
  | error e' =>
      rw [hmade] at h
      obtain rfl : e' = e := Except.error.inj h
      cases Construction.fault_of_makeAll hmade with
      | malformed => exact .malformed
      | endless => exact .endless
      | value hvalue => exact nodeFault_of_value hvalue

theorem nodeFault_of_datum {e : Error} (h : g.datum = .error e) : NodeFault g e := by
  rw [datum] at h
  split at h
  · cases h
  · next root _ =>
    cases hmade : g.construct root with
    | ok s =>
        rw [hmade] at h
        cases h
    | error e' =>
        rw [hmade] at h
        obtain rfl : e' = e := Except.error.inj h
        exact nodeFault_of_construct hmade

end Graph

/-- What is neither malformed nor has a value names a character that does not exist, or holds a mapping that stands
for itself or a scalar whose text does not fit its tag. -/
theorem scalar_cases {s : String} {e : ScalarError} (h : read s = .error (.scalar e)) :
    (∃ code, 0x10FFFF < code ∧ e = .notCharacter code) ∨
      ∃ g, Graph.ofTokens (tokens s.toList) = .ok g ∧ NodeFault g (.scalar e) := by
  rw [read] at h
  split at h
  · cases hgraph : Graph.ofTokens (tokens s.toList) with
    | error e' =>
        rw [hgraph] at h
        obtain rfl : e' = .scalar e := Except.error.inj h
        cases tokenFault_of_ofTokens (fun _ => tokenFault_of_mem) hgraph with
        | notCharacter hcode => exact .inl ⟨_, hcode, rfl⟩
    | ok g =>
        rw [hgraph] at h
        exact .inr ⟨g, rfl, Graph.nodeFault_of_datum h⟩
  · cases h

end Workcell.Yaml
