import Workcell.Schema.Models

namespace Workcell

namespace Checked

variable {α β : Type} {b : β}

theorem map_eq_valid_iff {f : α → β} {x : Checked α} :
    f <$> x = .valid b ↔ ∃ a, x = .valid a ∧ f a = b := by
  cases x <;> simp [Functor.map, map]

theorem seq_eq_valid_iff {f : Checked (α → β)} {x : Checked α} :
    f <*> x = .valid b ↔ ∃ g a, f = .valid g ∧ x = .valid a ∧ g a = b := by
  cases f <;> cases x <;> simp [Seq.seq, seq, map]

theorem of_seq {P : β → Prop} {f : Checked (α → β)} {x : Checked α}
    (h : ∀ g, f = .valid g → ∀ a, P (g a)) : ∀ b, f <*> x = .valid b → P b := by
  intro b hb
  obtain ⟨g, a, hg, -, rfl⟩ := seq_eq_valid_iff.1 hb
  exact h g hg a

theorem of_map {P : β → Prop} {f : α → β} {x : Checked α} (h : ∀ a, P (f a)) :
    ∀ b, f <$> x = .valid b → P b := by
  intro b hb
  obtain ⟨a, -, rfl⟩ := map_eq_valid_iff.1 hb
  exact h a

theorem within_eq_valid_iff {s : Step} {x : Checked β} : x.within s = .valid b ↔ x = .valid b := by
  cases x <;> simp [within]

theorem andThen_eq_valid_iff {x : Checked α} {f : α → Checked β} :
    x.andThen f = .valid b ↔ ∃ a, x = .valid a ∧ f a = .valid b := by
  cases x <;> simp [andThen]

end Checked

namespace Schema

open Checked

variable {α : Type} {f : Datum → Checked α} {P : α → Prop}

theorem of_optional {o : Option α} {d : Datum} (hf : ∀ d a, f d = .valid a → P a)
    (h : optional f d = .valid o) : ∀ a ∈ o, P a := by
  unfold optional at h
  split at h
  · cases h
    simp
  · obtain ⟨a, ha, rfl⟩ := map_eq_valid_iff.1 h
    rintro _ ⟨⟩
    exact hf _ a ha

theorem of_fieldOr {name : String} {default a : α} {entries : List (Datum × Datum)} (hdefault : P default)
    (hf : ∀ d a, f d = .valid a → P a) (h : fieldOr name default f entries = .valid a) : P a := by
  rw [fieldOr] at h
  split at h
  · exact hf _ a (within_eq_valid_iff.1 h)
  · cases h
    exact hdefault

theorem isPositive_of_positive {d : Datum} {t : Number} (h : positive d = .valid t) : t.isPositive := by
  obtain ⟨x, -, hx⟩ := andThen_eq_valid_iff.1 h
  split at hx
  · cases hx
    assumption
  · cases hx

theorem isPositive_of_settings {d : Datum} {s : Settings} (h : settings d = .valid s) :
    ∀ t ∈ s.timeout, t.isPositive := by
  cases d with
  | mapping entries =>
      obtain ⟨g, timeout, hg, htimeout, rfl⟩ := seq_eq_valid_iff.1 h
      have hkept : ∀ t, (g t).timeout = t := by
        revert g
        iterate 10 refine of_seq ?_
        exact of_map (by intros; rfl)
      rw [hkept]
      exact of_fieldOr (by simp) (fun _ _ => of_optional fun _ _ => isPositive_of_positive) htimeout
  | _ => cases h

end Schema

end Workcell
