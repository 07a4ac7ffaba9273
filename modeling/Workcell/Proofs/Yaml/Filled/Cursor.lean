import Workcell.Proofs.Except
import Workcell.Proofs.Yaml.Filled.Text

namespace Workcell.Yaml

/-- What the left one gives, the right one gives as well, in some relation to it. -/
def Follows {α β : Type} (R : α → β → Prop) : Except Error α → Except Error β → Prop
  | .ok a, y => ∃ b, y = .ok b ∧ R a b
  | .error _, _ => True

namespace Follows

variable {α β γ δ : Type} {R : α → β → Prop} {S : γ → δ → Prop} {x : Except Error α} {y : Except Error β}

theorem bind {f : α → Except Error γ} {g : β → Except Error δ} (hx : Follows R x y)
    (hf : ∀ a b, R a b → Follows S (f a) (g b)) : Follows S (x >>= f) (y >>= g) := by
  cases x with
  | error e => trivial
  | ok a =>
      obtain ⟨b, rfl, hab⟩ := hx
      exact hf a b hab

theorem map {f : α → γ} {g : β → δ} (hx : Follows R x y) (hf : ∀ a b, R a b → S (f a) (g b)) :
    Follows S (x.map f) (y.map g) := by
  cases x with
  | error e => trivial
  | ok a =>
      obtain ⟨b, rfl, hab⟩ := hx
      exact ⟨g b, rfl, hf a b hab⟩

theorem and {Q : α → Prop} (hx : Follows R x y) (hq : ∀ a, x = .ok a → Q a) :
    Follows (fun a b => R a b ∧ Q a) x y := by
  cases x with
  | error e => trivial
  | ok a =>
      obtain ⟨b, hb, hab⟩ := hx
      exact ⟨b, hb, hab, hq a rfl⟩

theorem ite {p q : Prop} [Decidable p] [Decidable q] {x' : Except Error α} {y' : Except Error β} {Q : α → Prop}
    (hpq : q ↔ p) (hQ : ∀ a, (if p then x else x') = .ok a → Q a)
    (hx : p → (∀ a, x = .ok a → Q a) → Follows R x y) (hx' : ¬p → (∀ a, x' = .ok a → Q a) → Follows R x' y') :
    Follows R (if p then x else x') (if q then y else y') := by
  by_cases hp : p
  · rw [if_pos hp] at hQ
    rw [if_pos hp, if_pos (hpq.2 hp)]
    exact hx hp hQ
  · rw [if_neg hp] at hQ
    rw [if_neg hp, if_neg (mt hpq.1 hp)]
    exact hx' hp hQ

end Follows

theorem follows_ok {α β : Type} {R : α → β → Prop} {a : α} {b : β} (h : R a b) : Follows R (.ok a) (.ok b) :=
  ⟨b, rfl, h⟩

namespace Cursor

variable {c : Cursor} {ch : Char} {u r : List Char}

theorem rest_next (c : Cursor) : c.next.rest = c.rest.drop 1 := by
  rw [next]
  split
  · next h => simp [h]
  · next h => split <;> simp [h]

theorem rest_next_of (h : c.rest = ch :: r) : c.next.rest = r := by rw [rest_next, h]; rfl

theorem index_next (h : c.rest = ch :: r) : c.next.index = c.index + 1 := by
  rw [next, h]
  dsimp only
  split <;> rfl

theorem forward_add (c : Cursor) (m n : Nat) : c.forward (m + n) = (c.forward m).forward n := by
  induction m generalizing c with
  | zero => rw [Nat.zero_add]; rfl
  | succ m ih => rw [Nat.succ_add]; exact ih c.next

theorem rest_forward (c : Cursor) (n : Nat) : (c.forward n).rest = c.rest.drop n := by
  induction n generalizing c with
  | zero => rfl
  | succ n ih => rw [forward, ih, rest_next, List.drop_drop, Nat.add_comm]

theorem index_forward {n : Nat} (h : n ≤ c.rest.length) : (c.forward n).index = c.index + n := by
  induction n generalizing c with
  | zero => rfl
  | succ n ih =>
      obtain ⟨ch, r, hr⟩ := List.exists_cons_of_length_pos (Nat.zero_lt_of_lt h)
      rw [forward, ih, index_next hr]
      · omega
      · rw [rest_next, List.length_drop]
        omega

theorem forward_inline (hu : ∀ ch ∈ u, isBreak ch = false ∧ ch ≠ byteOrderMark) (h : c.rest = u ++ r) :
    c.forward u.length = ⟨r, c.index + u.length, c.line, c.column + u.length⟩ := by
  induction u generalizing c with
  | nil => rw [← show c.rest = r from h]; rfl
  | cons ch u ih =>
      obtain ⟨hbreak, hmark⟩ := hu ch List.mem_cons_self
      have hnext : c.next = ⟨u ++ r, c.index + 1, c.line, c.column + 1⟩ := by
        rw [next, h]
        simp [hbreak, hmark]
      rw [List.length_cons, forward, ih (fun ch hch => hu ch (List.mem_cons_of_mem _ hch)) (by rw [hnext]), hnext]
      simp only [Nat.add_assoc, Nat.add_comm 1]

theorem rest_takeWhile (p : Char → Bool) (c : Cursor) : (c.takeWhile p).2.rest = c.rest.dropWhile p := by
  calc (c.takeWhile p).2.rest = c.rest.drop (c.rest.takeWhile p).length := rest_forward _ _
    _ = (c.rest.takeWhile p ++ c.rest.dropWhile p).drop (c.rest.takeWhile p).length := by
      rw [List.takeWhile_append_dropWhile]
    _ = c.rest.dropWhile p := List.drop_left

theorem peek_zero (c : Cursor) : c.peek 0 = c.rest.head? := by
  rw [peek, List.head?_eq_getElem?]

theorem exists_of_peek (h : c.peek 0 = some ch) : ∃ r, c.rest = ch :: r := by
  rw [peek_zero] at h
  exact List.head?_eq_some_iff.1 h

theorem lineBreak?_eq_none (h : ∀ ch ∈ c.rest.head?, isBreak ch = false) : c.lineBreak? = none := by
  rw [lineBreak?]
  split
  · next hr => simpa [isBreak] using h '\r' (by rw [hr]; rfl)
  · next ch r _ hr =>
    have hch := h ch (by rw [hr]; rfl)
    have hseparator : (ch == '\u2028' || ch == '\u2029') = false := by
      simp only [isBreak, Bool.or_eq_false_iff] at hch ⊢
      exact ⟨hch.1.2, hch.2⟩
    simp [hch, hseparator]
  · rfl

theorem lineBreak?_pair (h : c.rest = '\r' :: '\n' :: r) : c.lineBreak? = some ('\n', c.forward 2) := by
  simp [lineBreak?, h]

def breakText (ch : Char) : Char := if ch == '\u2028' || ch == '\u2029' then ch else '\n'

theorem isBreak_breakText (ch : Char) : isBreak (breakText ch) := by
  rw [breakText]
  split
  · next h => rcases Bool.or_eq_true_iff.1 h with h | h <;> rw [beq_iff_eq.1 h] <;> rfl
  · rfl

theorem lineBreak?_of_isBreak (h : c.rest = ch :: r) (hbreak : isBreak ch)
    (hpair : ¬(ch = '\r' ∧ r.head? = some '\n')) : c.lineBreak? = some (breakText ch, c.next) := by
  rw [lineBreak?]
  split
  · next hr =>
    rw [h] at hr
    cases hr
    exact absurd ⟨rfl, rfl⟩ hpair
  · next ch' r' _ hr =>
    rw [h] at hr
    cases hr
    rw [breakText, if_pos hbreak]
    split <;> rfl
  · next hr => simp [h] at hr

theorem exists_lineBreak? (h : c.rest = ch :: r) (hbreak : isBreak ch) : ∃ p, c.lineBreak? = some p := by
  by_cases hpair : ch = '\r' ∧ r.head? = some '\n'
  · obtain ⟨rfl, hr⟩ := hpair
    obtain ⟨r, rfl⟩ := List.head?_eq_some_iff.1 hr
    exact ⟨_, lineBreak?_pair h⟩
  · exact ⟨_, lineBreak?_of_isBreak h hbreak hpair⟩

theorem column_next_of_isBreak (h : c.rest = ch :: r) (hbreak : isBreak ch)
    (hpair : ¬(ch = '\r' ∧ r.head? = some '\n')) : c.next.column = 0 := by
  rw [next, h]
  dsimp only
  rw [if_pos (by simpa [hbreak, ← Decidable.imp_iff_not_or] using hpair)]

theorem column_le_next (h : c.rest = ch :: r) (hbreak : isBreak ch = false) : c.column ≤ c.next.column := by
  rw [next, h]
  dsimp only
  rw [hbreak, Bool.false_and, if_neg Bool.false_ne_true]
  dsimp only
  split <;> omega

theorem length_forward_le (c : Cursor) (n : Nat) : (c.forward n).rest.length ≤ c.rest.length := by
  rw [rest_forward, List.length_drop]
  omega

theorem length_next_lt (h : c.rest = ch :: r) : c.next.rest.length < c.rest.length := by
  rw [rest_next_of h, h]
  exact Nat.lt_succ_self _

theorem takeWhile_append {p : Char → Bool} (hu : ∀ ch ∈ u, p ch) (hch : p ch = false) (h : c.rest = u ++ ch :: r) :
    c.takeWhile p = (u, c.forward u.length) ∧ (c.forward u.length).rest = ch :: r := by
  rw [takeWhile, h, List.takeWhile_append_of_pos hu, List.takeWhile_cons_of_neg (by simp [hch]), List.append_nil,
    rest_forward, h, List.drop_left]
  exact ⟨rfl, rfl⟩

theorem length_takeWhile_le (p : Char → Bool) (c : Cursor) : (c.takeWhile p).2.rest.length ≤ c.rest.length :=
  length_forward_le _ _

theorem length_skipComment_le (c : Cursor) : c.skipComment.rest.length ≤ c.rest.length := by
  rw [skipComment]
  split
  · exact length_takeWhile_le _ c
  · exact Nat.le_refl _

theorem length_takeWhile_lt {p : Char → Bool} (h : c.rest = ch :: r) (hp : p ch) :
    (c.takeWhile p).2.rest.length < c.rest.length := by
  rw [rest_takeWhile, h, List.dropWhile_cons_of_pos hp]
  exact Nat.lt_succ_of_le (List.dropWhile_suffix p).length_le

theorem length_forward_lt {n : Nat} (h : c.rest = ch :: r) : (c.forward (n + 1)).rest.length < c.rest.length := by
  rw [rest_forward, List.length_drop, h, List.length_cons]
  omega

theorem length_lineBreak?_lt {d : Cursor} (h : c.lineBreak? = some (ch, d)) : d.rest.length < c.rest.length := by
  rw [lineBreak?] at h
  split at h
  · next hc =>
    cases h
    exact length_forward_lt hc
  · next ch' r hnot hc =>
    have hlt : c.next.rest.length < c.rest.length := length_forward_lt (n := 0) hc
    split at h
    · cases h
      exact hlt
    · split at h
      · cases h
        exact hlt
      · cases h
  · cases h

theorem peek_one (h : c.rest = ch :: r) : c.peek 1 = r.head? := by
  rw [peek, h, List.head?_eq_getElem?]
  rfl

def after (a : List Char) (n : Nat) : Cursor := (start a).forward n

theorem after_add (a : List Char) (m n : Nat) : after a (m + n) = (after a m).forward n := forward_add _ _ _

theorem rest_after (a : List Char) (n : Nat) : (after a n).rest = a.drop n := rest_forward _ _

/-- Corresponding places of a text with a placeholder and of the filled text, from the place after `m` characters
on. -/
def Aligned (w : Char) (x a : List Char) (m : Nat) (c c' : Cursor) : Prop :=
  ∃ n, m ≤ n ∧ n ≤ a.length ∧ c = after a n ∧ c' = after (fill w x a) (fill w x (a.take n)).length

namespace Aligned

variable {w : Char} {x a : List Char} {m : Nat} {c' : Cursor}

theorem start : Aligned w x a 0 (.start a) (.start (fill w x a)) := ⟨0, Nat.zero_le _, Nat.zero_le _, rfl, rfl⟩

theorem index (h : Aligned w x a m c c') : m ≤ c.index ∧ c.index ≤ a.length ∧
    c'.index = (fill w x (a.take c.index)).length := by
  obtain ⟨n, hm, hn, rfl, rfl⟩ := h
  have hfill := fill_append x w (a.take n) (a.drop n)
  have hindex : (after a n).index = n := (index_forward hn).trans (Nat.zero_add n)
  rw [List.take_append_drop] at hfill
  rw [hindex]
  refine ⟨hm, hn, (index_forward ?_).trans (Nat.zero_add _)⟩
  change _ ≤ (fill w x a).length
  rw [hfill, List.length_append]
  exact Nat.le_add_right _ _

theorem from_le (h : Aligned w x a m c c') {k : Nat} (hk : k ≤ c.index) : Aligned w x a k c c' := by
  obtain ⟨n, -, hn, rfl, hc'⟩ := h
  exact ⟨n, hk.trans_eq ((index_forward hn).trans (Nat.zero_add n)), hn, rfl, hc'⟩

theorem rest (h : Aligned w x a m c c') : c'.rest = fill w x c.rest := by
  obtain ⟨n, -, -, rfl, rfl⟩ := h
  have hfill := fill_append x w (a.take n) (a.drop n)
  rw [List.take_append_drop] at hfill
  rw [rest_after, rest_after, hfill, List.drop_left]

theorem forward (h : Aligned w x a m c c') (hc : c.rest = u ++ r) :
    Aligned w x a m (c.forward u.length) (c'.forward (fill w x u).length) := by
  obtain ⟨n, hm, hn, rfl, rfl⟩ := h
  rw [rest_after] at hc
  have hlength := congrArg List.length hc
  rw [List.length_drop, List.length_append] at hlength
  refine ⟨n + u.length, by omega, by omega, (after_add _ _ _).symm, ?_⟩
  rw [List.take_add, hc, List.take_left, fill_append, List.length_append, after_add]

theorem next (h : Aligned w x a m c c') (hc : c.rest = ch :: r) (hw : ch ≠ w) :
    Aligned w x a m c.next c'.next := by
  have hforward := h.forward (u := [ch]) hc
  rwa [fill_of_not_mem x (by simpa using Ne.symm hw)] at hforward

theorem hole (h : Aligned w x a m c c') (hc : c.rest = w :: r) :
    Aligned w x a m c.next (c'.forward x.length) := by
  have hforward := h.forward (u := [w]) hc
  rwa [fill_hole, show fill w x [] = [] from rfl, List.append_nil] at hforward

/-- What holds at the beginning and is kept by each character holds in all corresponding places. -/
theorem induction {motive : Cursor → Cursor → Prop}
    (start : motive (.start a) (.start (fill w x a)))
    (char : ∀ {c c' ch r}, Aligned w x a 0 c c' → motive c c' → c.rest = ch :: r → ch ≠ w →
      motive c.next c'.next)
    (hole : ∀ {c c' r}, Aligned w x a 0 c c' → motive c c' → c.rest = w :: r →
      motive c.next (c'.forward x.length))
    (h : Aligned w x a m c c') : motive c c' := by
  obtain ⟨n, -, hn, rfl, rfl⟩ := h
  induction n with
  | zero => exact start
  | succ n ih =>
      have halign : Aligned w x a 0 (after a n) (after (fill w x a) (fill w x (a.take n)).length) :=
        ⟨n, Nat.zero_le _, Nat.le_of_succ_le hn, rfl, rfl⟩
      have hmotive := ih (Nat.le_of_succ_le hn)
      have hrest : (after a n).rest = a[n] :: a.drop (n + 1) := by
        rw [rest_after, List.drop_eq_getElem_cons hn]
      have hafter : after a (n + 1) = (after a n).next := after_add a n 1
      have htake : a.take (n + 1) = a.take n ++ [a[n]] := (List.take_append_getElem hn).symm
      rw [hafter, htake, fill_append, List.length_append, after_add]
      by_cases hw : a[n] = w
      · rw [hw] at hrest ⊢
        rw [fill_hole, show fill w x [] = [] from rfl, List.append_nil]
        exact hole halign hmotive hrest
      · rw [show fill w x [a[n]] = [a[n]] from fill_cons x hw []]
        exact char halign hmotive hrest hw

section Fillable

variable (hf : Fillable w x) (h : Aligned w x a m c c')
include hf h

/-- A character that is no placeholder leads to the next line in both texts, or within both lines. -/
theorem next_cases (hc : c.rest = ch :: r) (hw : ch ≠ w) :
    (c.next.line = c.line + 1 ∧ c.next.column = 0 ∧ c'.next.line = c'.line + 1 ∧ c'.next.column = 0) ∨
      ∃ k, c.next.line = c.line ∧ c.next.column = c.column + k ∧
        c'.next.line = c'.line ∧ c'.next.column = c'.column + k := by
  have hc' : c'.rest = ch :: fill w x r := by rw [h.rest, hc, fill_cons x hw]
  have hfeed : ((fill w x r).head? == some '\n') = (r.head? == some '\n') := by
    rw [Bool.eq_iff_iff, beq_iff_eq, beq_iff_eq]
    exact hf.head_fill_eq_iff (hf.ne '\n' (by decide)).symm (fun d hd => hd.ne_of_isBreak rfl) r
  rw [Cursor.next, Cursor.next, hc, hc']
  dsimp only
  rw [hfeed]
  split
  · exact .inl ⟨rfl, rfl, rfl, rfl⟩
  · refine .inr ⟨if ch == byteOrderMark then 0 else 1, rfl, ?_, rfl, ?_⟩ <;> dsimp only <;> split <;> rfl

theorem hole_eq (hc : c.rest = w :: r) : c.next = ⟨r, c.index + 1, c.line, c.column + 1⟩ ∧
    c'.forward x.length = ⟨fill w x r, c'.index + x.length, c'.line, c'.column + x.length⟩ := by
  have hw : ∀ ch ∈ [w], isBreak ch = false ∧ ch ≠ byteOrderMark := by
    simpa using ⟨hf.not_isBreak, hf.ne_byteOrderMark⟩
  refine ⟨forward_inline hw hc, forward_inline (fun d hd => ?_) (by rw [h.rest, hc, fill_hole])⟩
  simpa using hf.inline d hd

theorem position : c'.line = c.line ∧ c.column ≤ c'.column ∧ (c'.column = c.column ∨ 0 < c.column) := by
  refine induction (motive := fun c c' => c'.line = c.line ∧ c.column ≤ c'.column ∧
    (c'.column = c.column ∨ 0 < c.column)) ⟨rfl, Nat.le_refl _, .inl rfl⟩ ?_ ?_ h
  · intro c c' ch r h ⟨hline, hle, heven⟩ hc hw
    rcases h.next_cases hf hc hw with ⟨hl, hk, hl', hk'⟩ | ⟨k, hl, hk, hl', hk'⟩
    · rw [hl, hk, hl', hk', hline]
      exact ⟨rfl, Nat.le_refl _, .inl rfl⟩
    · rw [hl, hk, hl', hk', hline]
      exact ⟨rfl, by omega, by omega⟩
  · intro c c' r h ⟨hline, hle, _⟩ hc
    obtain ⟨hnext, hfill⟩ := h.hole_eq hf hc
    have hx := List.length_pos_iff.2 hf.ne_nil
    rw [hnext, hfill]
    exact ⟨hline, by dsimp only; omega, .inr (Nat.succ_pos _)⟩

theorem index_eq_zero_iff : c'.index = 0 ↔ c.index = 0 := by
  refine induction (motive := fun c c' => c'.index = 0 ↔ c.index = 0) Iff.rfl ?_ ?_ h
  · intro c c' ch r h _ hc hw
    rw [index_next hc, index_next (h.rest.trans (by rw [hc, fill_cons x hw]))]
    exact iff_of_false (Nat.succ_ne_zero _) (Nat.succ_ne_zero _)
  · intro c c' r h _ hc
    obtain ⟨hnext, hfill⟩ := h.hole_eq hf hc
    have hx := List.length_pos_iff.2 hf.ne_nil
    rw [hnext, hfill]
    exact iff_of_false (by dsimp only; omega) (Nat.succ_ne_zero _)

theorem column_next (hc : c.rest = ch :: r) (hw : ch ≠ w) (heven : c'.column = c.column) :
    c'.next.column = c.next.column := by
  rcases h.next_cases hf hc hw with ⟨-, hk, -, hk'⟩ | ⟨k, -, hk, -, hk'⟩ <;> omega

theorem column_forward (hc : c.rest = u ++ r) (hw : w ∉ u) (heven : c'.column = c.column) :
    (c'.forward u.length).column = (c.forward u.length).column := by
  induction u generalizing c c' with
  | nil => exact heven
  | cons ch u ih =>
      rw [List.mem_cons, not_or] at hw
      refine ih (h.next hc (Ne.symm hw.1)) ?_ hw.2 (h.column_next hf hc (Ne.symm hw.1) heven)
      rw [rest_next, hc]
      rfl

end Fillable

section TakeWhile

variable {p : Char → Bool}

theorem takeWhile (hf : Fillable w x) (h : Aligned w x a m c c') (hw : p w) (hx : ∀ d ∈ x, p d) :
    (c'.takeWhile p).1 = fill w x (c.takeWhile p).1 ∧
      Aligned w x a m (c.takeWhile p).2 (c'.takeWhile p).2 := by
  have hrest : c'.rest.takeWhile p = fill w x (c.rest.takeWhile p) := by rw [h.rest, hf.takeWhile_fill hw hx]
  refine ⟨hrest, ?_⟩
  rw [Cursor.takeWhile, Cursor.takeWhile, hrest]
  exact h.forward (List.takeWhile_append_dropWhile).symm

theorem takeWhile_of_stop (hf : Fillable w x) (h : Aligned w x a m c c') (hw : p w = false)
    (hstop : (c.takeWhile p).2.rest.head? = some w → ∀ d, Inner x d → p d = false) :
    (c'.takeWhile p).1 = (c.takeWhile p).1 ∧ Aligned w x a m (c.takeWhile p).2 (c'.takeWhile p).2 := by
  have hmem := not_mem_takeWhile hw c.rest
  have hrest : c'.rest.takeWhile p = c.rest.takeWhile p := by
    rw [h.rest]
    refine hf.takeWhile_fill_of_stop hw ?_
    rwa [rest_takeWhile] at hstop
  refine ⟨hrest, ?_⟩
  have hforward := h.forward (u := c.rest.takeWhile p) (List.takeWhile_append_dropWhile).symm
  rw [fill_of_not_mem x hmem] at hforward
  rwa [Cursor.takeWhile, Cursor.takeWhile, hrest]

end TakeWhile

/-- The end of a line in both texts, what it stands for, and the places after it. -/
structure Newline (w : Char) (x a : List Char) (m : Nat) (c c' : Cursor) (ch : Char) (d d' : Cursor) : Prop where
  left : c.lineBreak? = some (ch, d)
  right : c'.lineBreak? = some (ch, d')
  aligned : Aligned w x a m d d'
  isBreak : isBreak ch
  column : d.column = 0
  column' : d'.column = 0

theorem Newline.ne {d d' : Cursor} (h : Newline w x a m c c' ch d d') (hf : Fillable w x) : w ≠ ch := by
  rintro rfl
  exact absurd h.isBreak (by simp [hf.not_isBreak])

theorem lineBreak?_cases (hf : Fillable w x) (h : Aligned w x a m c c') :
    (c.lineBreak? = none ∧ c'.lineBreak? = none ∧ ∀ ch ∈ c.rest.head?, isBreak ch = false) ∨
      ∃ ch d d', Newline w x a m c c' ch d d' := by
  have hnone (hhead : ∀ ch ∈ c.rest.head?, isBreak ch = false) :
      c.lineBreak? = none ∧ c'.lineBreak? = none ∧ ∀ ch ∈ c.rest.head?, isBreak ch = false := by
    refine ⟨lineBreak?_eq_none hhead, lineBreak?_eq_none fun d hd => ?_, hhead⟩
    rw [h.rest] at hd
    rcases hf.head_fill_cases c.rest with heq | ⟨-, d', hd', hinner⟩
    · exact hhead d (heq ▸ hd)
    · rw [hd'] at hd
      exact Option.some.inj hd ▸ hinner.not_isBreak
  cases hc : c.rest with
  | nil => exact .inl (hc ▸ hnone (by simp [hc]))
  | cons ch r =>
      by_cases hbreak : isBreak ch
      case neg => exact .inl (hc ▸ hnone (by simpa [hc] using hbreak))
      have hw : ch ≠ w := by
        rintro rfl
        exact absurd hbreak (by simp [hf.not_isBreak])
      have hc' : c'.rest = ch :: fill w x r := by rw [h.rest, hc, fill_cons x hw]
      have hfeed := hf.head_fill_eq_iff (hf.ne '\n' (by decide)).symm (fun d hd => hd.ne_of_isBreak rfl) r
      by_cases hpair : ch = '\r' ∧ r.head? = some '\n'
      · obtain ⟨rfl, hr⟩ := hpair
        obtain ⟨r, rfl⟩ := List.head?_eq_some_iff.1 hr
        have hpair' : fill w x ('\n' :: r) = '\n' :: fill w x r := fill_cons x (hf.ne '\n' (by decide)).symm r
        rw [hpair'] at hc'
        have hforward := (h.next hc hw).next (rest_next_of hc) (hf.ne '\n' (by decide)).symm
        exact .inr ⟨_, _, _, lineBreak?_pair hc, lineBreak?_pair hc', hforward, rfl,
          column_next_of_isBreak (rest_next_of hc) rfl (by simp),
          column_next_of_isBreak (rest_next_of hc') rfl (by simp)⟩
      · have hpair' : ¬(ch = '\r' ∧ (fill w x r).head? = some '\n') := by rwa [hfeed]
        exact .inr ⟨_, _, _, lineBreak?_of_isBreak hc hbreak hpair, lineBreak?_of_isBreak hc' hbreak hpair',
          h.next hc hw, isBreak_breakText ch, column_next_of_isBreak hc hbreak hpair,
          column_next_of_isBreak hc' hbreak hpair'⟩

section Skip

variable (hf : Fillable w x) (h : Aligned w x a m c c')
include hf h

theorem fuel_le : c.rest.length + 1 ≤ c'.rest.length + 1 := by
  rw [h.rest]
  exact Nat.succ_le_succ (hf.length_le _)

theorem takeWhile_space : (c'.takeWhile (· == ' ')).1 = (c.takeWhile (· == ' ')).1 ∧
    Aligned w x a m (c.takeWhile (· == ' ')).2 (c'.takeWhile (· == ' ')).2 :=
  h.takeWhile_of_stop hf (p := fun ch => ch == ' ') hf.beq_space fun _ _ hd => beq_false_of_ne hd.not_space

theorem takeWhile_blank :
    (c'.takeWhile fun ch => ch == ' ' || ch == '\t').1 = (c.takeWhile fun ch => ch == ' ' || ch == '\t').1 ∧
      Aligned w x a m (c.takeWhile fun ch => ch == ' ' || ch == '\t').2
        (c'.takeWhile fun ch => ch == ' ' || ch == '\t').2 :=
  h.takeWhile_of_stop hf hf.beq_blank fun _ _ hd => hd.beq_blank

theorem skipSpaces : Aligned w x a m c.skipSpaces c'.skipSpaces := (h.takeWhile_space hf).2

theorem column_skipSpaces (heven : c'.column = c.column) : c'.skipSpaces.column = c.skipSpaces.column := by
  have htake : c'.rest.takeWhile (· == ' ') = c.rest.takeWhile (· == ' ') := (h.takeWhile_space hf).1
  rw [Cursor.skipSpaces, Cursor.skipSpaces, Cursor.skipWhile, Cursor.skipWhile, Cursor.takeWhile, Cursor.takeWhile,
    htake]
  exact h.column_forward hf (List.takeWhile_append_dropWhile).symm
    (not_mem_takeWhile (p := fun ch => ch == ' ') hf.beq_space _) heven

theorem peek_of_not_hole (hhole : c.rest.head? ≠ some w) : c'.peek 0 = c.peek 0 := by
  rw [peek_zero, peek_zero, h.rest]
  exact (hf.head_fill_cases c.rest).resolve_right fun hcases => hhole hcases.1

theorem peek_beq {e : Char} (he : e ≠ w) (hx : ∀ d, Inner x d → d ≠ e) :
    (c'.peek 0 == some e) = (c.peek 0 == some e) := by
  rw [Bool.eq_iff_iff, beq_iff_eq, beq_iff_eq, peek_zero, peek_zero, h.rest]
  exact hf.head_fill_eq_iff he hx c.rest

theorem peek_sharp (hsharp : c.rest.head? = some w → ∀ d, Inner x d → d ≠ '#') :
    (c'.peek 0 == some '#') = (c.peek 0 == some '#') := by
  rw [Bool.eq_iff_iff, beq_iff_eq, beq_iff_eq, peek_zero, peek_zero, h.rest]
  rcases hf.head_fill_cases c.rest with heq | ⟨hc, d, hd, hinner⟩
  · rw [heq]
  · rw [hd, hc]
    simp [hsharp hc d hinner, hf.ne]

theorem skipComment (hsharp : c.rest.head? = some w → ∀ d, Inner x d → d ≠ '#') :
    Aligned w x a m c.skipComment c'.skipComment := by
  rw [Cursor.skipComment, Cursor.skipComment, h.peek_sharp hf hsharp]
  split
  · exact (h.takeWhile hf (by simp [hf.not_isBreak]) fun d hd => by simpa using (hf.inline d hd).1).2
  · exact h

theorem column_skipComment (hsharp : c.rest.head? = some w → ∀ d, Inner x d → d ≠ '#') (heven : c'.column = c.column) :
    c'.skipComment.column = c.skipComment.column ∨ ∀ ch ∈ c.skipComment.rest.head?, isBreak ch := by
  rw [Cursor.skipComment, Cursor.skipComment, h.peek_sharp hf hsharp]
  split
  · refine .inr fun ch hch => ?_
    have hhead := List.head?_dropWhile_not (fun ch => !isBreak ch) c.rest
    rw [skipWhile, rest_takeWhile] at hch
    rw [hch] at hhead
    simpa using hhead
  · exact .inl heven

theorem finishLine?_eq_some {d : Cursor} (hd : c.finishLine? = some d) :
    ∃ d', c'.finishLine? = some d' ∧ Aligned w x a m d d' ∧ (d'.column = d.column ∨ d.rest = []) := by
  rw [finishLine?] at hd
  split at hd
  case isFalse => cases hd
  next hends =>
  obtain rfl := Option.some.inj hd
  have hspaces := h.skipSpaces hf
  have hcomment : Aligned w x a m c.skipSpaces.skipComment c'.skipSpaces.skipComment := by
    refine hspaces.skipComment hf fun hhole => ?_
    rw [Cursor.skipComment, peek_zero c.skipSpaces, hhole, if_neg (by simp [hf.ne]), peek_zero, hhole] at hends
    simp [endsLine, hf.not_isBreak] at hends
  have hends' : endsLine (c'.skipSpaces.skipComment.peek 0) = true := by
    rwa [peek_zero, hcomment.rest, hf.endsLine_head, ← peek_zero]
  rw [finishLine?, if_pos hends']
  refine ⟨_, rfl, ?_⟩
  rcases hcomment.lineBreak?_cases hf with ⟨hnone, hnone', hbreak⟩ | ⟨ch, d, d', hline⟩
  · rw [hnone, hnone']
    refine ⟨hcomment, .inr ?_⟩
    cases hr : c.skipSpaces.skipComment.rest with
    | nil => exact hr
    | cons ch r =>
        rw [peek_zero, hr] at hends
        exact absurd hends (by simpa [endsLine, hr] using hbreak)
  · rw [hline.left, hline.right]
    exact ⟨hline.aligned, .inl (hline.column'.trans hline.column.symm)⟩

end Skip

end Aligned

end Cursor

end Workcell.Yaml
