import Mathlib.Data.List.TakeWhile
import Workcell.Yaml.Document

namespace Workcell.Yaml

section Decide

variable {p : Char → Prop} [DecidablePred p]

instance decidableForallChars (cs : List Char) : Decidable (∀ c ∈ cs, p c) := List.decidableBAll p cs

instance decidableExistsChar (o : Option Char) : Decidable (∃ c ∈ o, p c) := Option.decidableExistsMem o

end Decide

/-- The text `x` in every place of the character `w`. -/
def fill (w : Char) (x cs : List Char) : List Char := cs.flatMap fun c => if c = w then x else [c]

section Fill

variable {w c : Char} (x : List Char) {a : List Char}

theorem fill_append (w : Char) (a b : List Char) : fill w x (a ++ b) = fill w x a ++ fill w x b :=
  List.flatMap_append

theorem fill_hole (a : List Char) : fill w x (w :: a) = x ++ fill w x a := by simp [fill]

theorem fill_cons (h : c ≠ w) (a : List Char) : fill w x (c :: a) = c :: fill w x a := by simp [fill, h]

theorem fill_of_not_mem (h : w ∉ a) : fill w x a = a := by
  induction a with
  | nil => rfl
  | cons c a ih =>
      rw [List.mem_cons, not_or] at h
      rw [fill_cons x (Ne.symm h.1), ih h.2]

theorem take_fill {n : Nat} (h : w ∉ a.take n) (hn : (a.take n).length = n) : (fill w x a).take n = a.take n := by
  have hfill := fill_append x w (a.take n) (a.drop n)
  rw [List.take_append_drop, fill_of_not_mem x h] at hfill
  rw [hfill, List.take_left' hn]

theorem not_mem_takeWhile {p : Char → Bool} (hw : p w = false) (a : List Char) : w ∉ a.takeWhile p := by
  intro hmem
  rw [List.all_eq_true.1 List.all_takeWhile w hmem] at hw
  cases hw

end Fill

/-- What may stand in the place of a placeholder: a text within one line that neither begins nor ends with a
blank. The placeholder is a character of private use. -/
structure Fillable (w : Char) (x : List Char) : Prop where
  low : 0xE000 ≤ w.toNat
  high : w.toNat ≤ 0xF8FF
  allowed : ∀ c ∈ x, isAllowed c
  inline : ∀ c ∈ x, ¬isBreak c ∧ c ≠ byteOrderMark
  head : ∃ c ∈ x.head?, c ≠ ' ' ∧ c ≠ '\t'
  last : ∃ c ∈ x.getLast?, c ≠ ' ' ∧ c ≠ '\t'

/-- The first character of what replaces a placeholder: it ends neither a word nor a line. -/
structure Inner (x : List Char) (c : Char) : Prop where
  mem : c ∈ x
  head : x.head? = some c
  not_space : c ≠ ' '
  not_tab : c ≠ '\t'
  not_isBreak : isBreak c = false
  not_mark : c ≠ byteOrderMark

theorem Inner.ne_of_isBreak {x : List Char} {c d : Char} (h : Inner x c) (hd : isBreak d) : c ≠ d := by
  rintro rfl
  rw [h.not_isBreak] at hd
  cases hd

theorem Inner.beq_blank {x : List Char} {c : Char} (h : Inner x c) : (c == ' ' || c == '\t') = false := by
  rw [beq_false_of_ne h.not_space, beq_false_of_ne h.not_tab]
  rfl

namespace Fillable

variable {w : Char} {x : List Char} (h : Fillable w x)
include h

theorem ne (c : Char) (hc : c.toNat < 0xE000) : w ≠ c := by
  rintro rfl
  exact absurd h.low (Nat.not_le.2 hc)

theorem not_in_class {p : Char → Bool} (hp : ∀ c, p c → c.toNat < 0xE000) : p w = false := by
  cases hw : p w with
  | false => rfl
  | true => exact absurd h.low (Nat.not_le.2 (hp w hw))

theorem beq_space : (w == ' ') = false := beq_false_of_ne (h.ne ' ' (by decide))

theorem beq_blank : (w == ' ' || w == '\t') = false := by
  rw [h.beq_space, beq_false_of_ne (h.ne '\t' (by decide))]
  rfl

theorem not_isBreak : isBreak w = false := by
  simp [isBreak, h.ne]

theorem ne_byteOrderMark : w ≠ byteOrderMark := by
  rintro rfl
  exact absurd h.high (by decide)

theorem ne_nil : x ≠ [] := by
  obtain ⟨c, hc, -⟩ := h.head
  rintro rfl
  cases hc

theorem length_le (a : List Char) : a.length ≤ (fill w x a).length := by
  have hx : 0 < x.length := List.length_pos_iff.2 h.ne_nil
  induction a with
  | nil => exact Nat.zero_le _
  | cons c a ih =>
      by_cases hc : c = w
      · subst hc
        rw [fill_hole, List.length_append, List.length_cons]
        omega
      · rw [fill_cons x hc]
        exact Nat.succ_le_succ ih

theorem exists_inner : ∃ c r, x = c :: r ∧ Inner x c := by
  obtain ⟨c, hc, hspace, htab⟩ := h.head
  obtain ⟨r, rfl⟩ : ∃ r, x = c :: r := by
    cases x with
    | nil => cases hc
    | cons d r => exact ⟨r, by rw [Option.some.inj hc]⟩
  have hmem : c ∈ c :: r := List.mem_cons_self
  exact ⟨c, r, rfl, hmem, rfl, hspace, htab, by simpa using (h.inline c hmem).1, (h.inline c hmem).2⟩

/-- Filled, a text begins as before, or with what replaces the placeholder. -/
theorem head_fill_cases (a : List Char) : (fill w x a).head? = a.head? ∨
    a.head? = some w ∧ ∃ c, (fill w x a).head? = some c ∧ Inner x c := by
  cases a with
  | nil => exact .inl rfl
  | cons c a =>
      by_cases hc : c = w
      · subst hc
        obtain ⟨d, r, hx, hd⟩ := h.exists_inner
        exact .inr ⟨rfl, d, by rw [fill_hole, hx]; rfl, hd⟩
      · exact .inl (by rw [fill_cons x hc]; rfl)

theorem head_fill_eq_iff {d : Char} (hd : d ≠ w) (hx : ∀ c, Inner x c → c ≠ d) (a : List Char) :
    (fill w x a).head? = some d ↔ a.head? = some d := by
  rcases h.head_fill_cases a with heq | ⟨ha, c, hc, hinner⟩
  · rw [heq]
  · rw [ha, hc]
    simp [hx c hinner, Ne.symm hd]

theorem endsWord_head (a : List Char) : endsWord (fill w x a).head? = endsWord a.head? := by
  rcases h.head_fill_cases a with heq | ⟨ha, c, hc, hinner⟩
  · rw [heq]
  · rw [ha, hc]
    simp [endsWord, beq_false_of_ne hinner.not_space, beq_false_of_ne hinner.not_tab, hinner.not_isBreak,
      h.not_isBreak, beq_false_of_ne (h.ne ' ' (by decide)), beq_false_of_ne (h.ne '\t' (by decide))]

theorem endsLineOrSpace_head (a : List Char) : endsLineOrSpace (fill w x a).head? = endsLineOrSpace a.head? := by
  rcases h.head_fill_cases a with heq | ⟨ha, c, hc, hinner⟩
  · rw [heq]
  · rw [ha, hc]
    simp [endsLineOrSpace, beq_false_of_ne hinner.not_space, hinner.not_isBreak, h.not_isBreak,
      beq_false_of_ne (h.ne ' ' (by decide))]

theorem endsLine_head (a : List Char) : endsLine (fill w x a).head? = endsLine a.head? := by
  rcases h.head_fill_cases a with heq | ⟨ha, c, hc, hinner⟩
  · rw [heq]
  · rw [ha, hc]
    simp [endsLine, hinner.not_isBreak, h.not_isBreak]

/-- What is filled in ends with no blank, so blanks in it have a character after them. -/
theorem exists_after_takeWhile {p : Char → Bool} (hp : ∀ c, p c → c = ' ' ∨ c = '\t') {u : List Char}
    (hu : u <:+ x) (hne : u ≠ []) : ∃ c r, u = u.takeWhile p ++ c :: r ∧ c ∈ x ∧ p c = false := by
  have hlast : p (u.getLast hne) = false := by
    obtain ⟨c, hc, hspace, htab⟩ := h.last
    rw [← Bool.not_eq_true]
    intro htrue
    rw [Option.mem_def, List.getLast?_eq_some_getLast (hu.ne_nil hne), ← hu.getLast hne] at hc
    rw [Option.some.inj hc] at htrue
    exact (hp c htrue).elim hspace htab
  have hdrop : u.dropWhile p ≠ [] := by
    intro hnil
    rw [List.dropWhile_eq_nil_iff] at hnil
    rw [hnil _ (List.getLast_mem hne)] at hlast
    cases hlast
  refine ⟨(u.dropWhile p).head hdrop, (u.dropWhile p).tail, ?_, ?_, List.head_dropWhile_not p hdrop⟩
  · rw [List.cons_head_tail, List.takeWhile_append_dropWhile]
  · exact hu.mem ((List.dropWhile_suffix p).mem (List.head_mem hdrop))

section TakeWhile

variable {p : Char → Bool}

theorem takeWhile_fill (hw : p w) (hx : ∀ c ∈ x, p c) (a : List Char) :
    (fill w x a).takeWhile p = fill w x (a.takeWhile p) := by
  induction a with
  | nil => rfl
  | cons c a ih =>
      by_cases hc : c = w
      · subst hc
        rw [fill_hole, List.takeWhile_append_of_pos hx, ih, List.takeWhile_cons_of_pos hw, fill_hole]
      · rw [fill_cons x hc]
        by_cases hp : p c
        · rw [List.takeWhile_cons_of_pos hp, List.takeWhile_cons_of_pos hp, fill_cons x hc, ih]
        · rw [List.takeWhile_cons_of_neg hp, List.takeWhile_cons_of_neg hp]
          rfl

theorem takeWhile_fill_of_stop (hw : p w = false) {a : List Char}
    (hstop : (a.dropWhile p).head? = some w → ∀ c, Inner x c → p c = false) :
    (fill w x a).takeWhile p = a.takeWhile p := by
  induction a with
  | nil => rfl
  | cons c a ih =>
      by_cases hc : c = w
      · subst hc
        obtain ⟨d, r, hx, hd⟩ := h.exists_inner
        have hp : p d = false := hstop (by simp [hw]) d hd
        rw [fill_hole, hx, List.takeWhile_cons_of_neg (by simp [hw])]
        exact List.takeWhile_cons_of_neg (by simp [hp])
      · rw [fill_cons x hc]
        by_cases hp : p c
        · rw [List.takeWhile_cons_of_pos hp, List.takeWhile_cons_of_pos hp, ih]
          rwa [List.dropWhile_cons_of_pos hp] at hstop
        · rw [List.takeWhile_cons_of_neg hp, List.takeWhile_cons_of_neg hp]

end TakeWhile

end Fillable

end Workcell.Yaml
