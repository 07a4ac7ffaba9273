import Mathlib.Data.List.Infix
import Workcell.Proofs.Yaml.Filled.Quoted

namespace Workcell.Yaml

namespace Cursor

variable {w : Char} {x a : List Char} {m : Nat} {c c' d : Cursor} {ch : Char} {u v r : List Char} {inFlow : Bool}
  {indent : Int}
  {fuel fuel' : Nat}

structure Plainable (inFlow : Bool) (x : List Char) : Prop where
  no_tab : '\t' ∉ x
  no_comment : ¬[' ', '#'] <:+: x
  no_value : ¬[':', ' '] <:+: x
  head : x.head? ≠ some '#'
  last : x.getLast? ≠ some ':'
  flow : inFlow → ∀ c ∈ x, c ∉ [',', '?', '[', ']', '{', '}']

instance (inFlow : Bool) (x : List Char) : Decidable (Plainable inFlow x) :=
  decidable_of_iff (_ ∧ _ ∧ _ ∧ _ ∧ _ ∧ _) ⟨fun ⟨h₁, h₂, h₃, h₄, h₅, h₆⟩ => ⟨h₁, h₂, h₃, h₄, h₅, h₆⟩,
    fun ⟨h₁, h₂, h₃, h₄, h₅, h₆⟩ => ⟨h₁, h₂, h₃, h₄, h₅, h₆⟩⟩

def prepend (u : List Char) (p : List Char × Bool × Cursor) : List Char × Bool × Cursor := (u ++ p.1, p.2)

/-- The rest of a plain scalar after a character of it. -/
def plainTail (inFlow : Bool) (indent : Int) (fuel : Nat) (c : Cursor) : List Char × Bool × Cursor :=
  let (blanks, broke, d) := plainBlanks (c.forward (plainRun inFlow c.rest))
  prepend (c.rest.take (plainRun inFlow c.rest)) <|
    if blanks = [] ∨ d.peek 0 = some '#' ∨ (!inFlow ∧ (d.column : Int) < indent) then ([], broke, d)
    else plain inFlow indent fuel blanks broke d

theorem plain_succ (fuel : Nat) (blanks : List Char) (keyAllowed : Bool) (c : Cursor) :
    plain inFlow indent (fuel + 1) blanks keyAllowed c =
      if c.peek 0 == some '#' || plainRun inFlow c.rest = 0 then ([], keyAllowed, c)
      else prepend blanks (plainTail inFlow indent fuel c) := by
  rw [plain, plainTail]
  dsimp only
  split
  · rfl
  · split <;> simp [prepend]

theorem plainRun_eq_zero_iff : plainRun inFlow c.rest = 0 ↔
    ∀ ch ∈ c.rest.head?, interruptsPlain inFlow ch c.rest.tail.head? := by
  cases c.rest with
  | nil => simp [plainRun]
  | cons ch r =>
      rw [plainRun]
      split <;> simp [*]

theorem plainTail_char (fuel : Nat) (hc : c.rest = ch :: r) (hch : interruptsPlain inFlow ch r.head? = false) :
    plainTail inFlow indent fuel c = prepend [ch] (plainTail inFlow indent fuel c.next) := by
  have hrun : plainRun inFlow c.rest = plainRun inFlow c.next.rest + 1 := by
    rw [rest_next_of hc, hc, plainRun, hch]
    rfl
  have htake : c.rest.take (plainRun inFlow c.next.rest + 1) =
      ch :: c.next.rest.take (plainRun inFlow c.next.rest) := by
    rw [rest_next_of hc, hc, List.take_succ_cons]
  rw [plainTail, plainTail, hrun, htake, forward]
  rfl

theorem plainTail_gap (fuel : Nat) (h : plainRun inFlow c.rest = 0) : plainTail inFlow indent fuel c =
    if (plainBlanks c).1 = [] ∨ (plainBlanks c).2.2.peek 0 = some '#' ∨
        (!inFlow ∧ ((plainBlanks c).2.2.column : Int) < indent) then
      ([], (plainBlanks c).2.1, (plainBlanks c).2.2)
    else plain inFlow indent fuel (plainBlanks c).1 (plainBlanks c).2.1 (plainBlanks c).2.2 := by
  rw [plainTail, h]
  rfl

theorem plainBlanks_of_none (h : (c.takeWhile (· == ' ')).2.lineBreak? = none) :
    plainBlanks c = ((c.takeWhile (· == ' ')).1, false, (c.takeWhile (· == ' ')).2) := by
  rw [plainBlanks]
  dsimp only
  rw [h]

theorem plainBlanks_of_some (h : (c.takeWhile (· == ' ')).2.lineBreak? = some (ch, d)) : plainBlanks c =
    if d.atDocumentMark then ([], true, d)
    else match plainBreaks (d.rest.length + 1) d with
      | (none, e) => ([], true, e)
      | (some breaks, e) => (folded ch breaks, true, e) := by
  obtain ⟨breaks, e, hbreaks⟩ : ∃ breaks e, plainBreaks (d.rest.length + 1) d = (breaks, e) := ⟨_, _, rfl⟩
  cases breaks <;> simp [plainBlanks, h, hbreaks]

section Length

theorem length_plainBreaks (fuel : Nat) (c : Cursor) : (plainBreaks fuel c).2.rest.length ≤ c.rest.length := by
  induction fuel generalizing c with
  | zero => exact Nat.le_refl _
  | succ fuel ih =>
      rw [plainBreaks]
      split
      · exact Nat.le_trans (ih c.next) (length_forward_le c 1)
      · split
        · exact Nat.le_refl _
        · next ch d hd =>
          have hlt := Nat.le_of_lt (length_lineBreak?_lt hd)
          split
          · exact hlt
          · exact Nat.le_trans (ih d) hlt

theorem length_plainBlanks (h : (plainBlanks c).1 ≠ []) : (plainBlanks c).2.2.rest.length < c.rest.length := by
  have htake := length_takeWhile_le (· == ' ') c
  cases hbreak : (c.takeWhile (· == ' ')).2.lineBreak? with
  | none =>
      rw [plainBlanks_of_none hbreak] at h ⊢
      obtain ⟨ch, r, hr⟩ : ∃ ch r, c.rest = ch :: r := by
        cases hr : c.rest with
        | nil => exact absurd (by rw [takeWhile, hr]; rfl) h
        | cons ch r => exact ⟨ch, r, rfl⟩
      refine length_takeWhile_lt hr (by_contra fun hch => h ?_)
      rw [takeWhile, hr, List.takeWhile_cons_of_neg (p := fun ch => ch == ' ') hch]
  | some p =>
      obtain ⟨ch, d⟩ := p
      have hlt := length_lineBreak?_lt hbreak
      have hbreaks := length_plainBreaks (d.rest.length + 1) d
      rw [plainBlanks_of_some hbreak]
      split
      · exact Nat.lt_of_lt_of_le hlt htake
      · split <;> next e he =>
          rw [he] at hbreaks
          exact Nat.lt_of_le_of_lt hbreaks (Nat.lt_of_lt_of_le hlt htake)

end Length

section Word

variable (hf : Fillable w x) (hx : Plainable inFlow x)
include hf hx

theorem interruptsPlain_word (hu : ch :: u <:+ x) (hch : ch ≠ ' ') (r : List Char) :
    interruptsPlain inFlow ch (u ++ r).head? = false := by
  have hmem : ch ∈ x := hu.mem List.mem_cons_self
  have hword {e : Char} (he : e ∈ x) (hspace : e ≠ ' ') : endsWord (some e) = false := by
    have htab : e ≠ '\t' := ne_of_mem_of_not_mem he hx.no_tab
    simp [endsWord, beq_false_of_ne hspace, beq_false_of_ne htab, (hf.inline e he).1]
  have hflow : (inFlow && decide (ch ∈ [',', '?', '[', ']', '{', '}'])) = false := by
    cases inFlow with
    | false => rfl
    | true => simpa using hx.flow rfl ch hmem
  have hcolon : (ch == ':' && (endsWord (u ++ r).head? ||
      (inFlow && (u ++ r).head?.any fun d => d ∈ [',', '[', ']', '{', '}']))) = false := by
    by_cases heq : ch = ':'
    · subst heq
      cases u with
      | nil =>
          -- the last character of what is filled in
          have hlast := hu.getLast (List.cons_ne_nil _ _)
          exact absurd (by rw [List.getLast?_eq_some_getLast (hu.ne_nil (List.cons_ne_nil _ _)), ← hlast]; rfl) hx.last
      | cons e u =>
          have he : e ∈ x := hu.mem (by simp)
          have hspace : e ≠ ' ' := by
            rintro rfl
            exact hx.no_value ((List.prefix_append [':', ' '] u).isInfix.trans hu.isInfix)
          have hany (hin : inFlow = true) : e ∉ [',', '[', ']', '{', '}'] := fun hmem =>
            hx.flow hin e he (by grind)
          simpa [hword he hspace] using hany
    · simp [beq_false_of_ne heq]
  rw [interruptsPlain, hword hmem hch, hcolon, hflow]
  rfl

omit hf hx in
theorem forward_spaces (hall : ∀ d ∈ u, d = ' ') (hc : c.rest = u ++ r) :
    c.forward u.length = ⟨r, c.index + u.length, c.line, c.column + u.length⟩ := by
  refine forward_inline (fun d hd => ?_) hc
  rw [hall d hd]
  decide

omit hx in
theorem exists_after_spaces (hu : ' ' :: v <:+ x) :
    ∃ s e v', ' ' :: v = s ++ e :: v' ∧ s ≠ [] ∧ (∀ d ∈ s, d = ' ') ∧ e ≠ ' ' := by
  obtain ⟨e, v', heq, -, hspace⟩ := hf.exists_after_takeWhile (p := (· == ' '))
    (fun d hd => .inl (beq_iff_eq.1 hd)) hu (List.cons_ne_nil _ _)
  refine ⟨_, e, v', heq, ?_, fun d hd => ?_, by simpa using hspace⟩
  · rw [List.takeWhile_cons_of_pos (by rfl)]
    exact List.cons_ne_nil _ _
  · exact beq_iff_eq.1 (List.all_eq_true.1 List.all_takeWhile d hd)

theorem plainTail_spaces (hu : u ++ ch :: v <:+ x) (hne : u ≠ []) (hall : ∀ d ∈ u, d = ' ') (hch : ch ≠ ' ')
    {fuel : Nat} (hc : c.rest = u ++ ch :: (v ++ r)) (hcolumn : inFlow = true ∨ indent ≤ c.column) :
    plainTail inFlow indent (fuel + 1) c = prepend u (plainTail inFlow indent fuel (c.forward u.length)) := by
  have hinner : ch :: v <:+ x := (List.suffix_append u _).trans hu
  have hmem : ch ∈ x := hinner.mem List.mem_cons_self
  obtain ⟨htake, hrest⟩ := takeWhile_append (p := (· == ' ')) (fun d hd => beq_iff_eq.2 (hall d hd))
    (beq_false_of_ne hch) hc
  have hblanks : plainBlanks c = (u, false, c.forward u.length) := by
    have hnone : (c.takeWhile (· == ' ')).2.lineBreak? = none := by
      rw [htake]
      exact lineBreak?_eq_none (by simpa [hrest] using (hf.inline ch hmem).1)
    rw [plainBlanks_of_none hnone, htake]
  have hsharp : ch ≠ '#' := by
    rintro rfl
    refine hx.no_comment (List.IsInfix.trans ?_ hu.isInfix)
    rw [← List.dropLast_concat_getLast hne, hall _ (List.getLast_mem hne)]
    exact ⟨u.dropLast, v, by simp⟩
  have hgap : plainRun inFlow c.rest = 0 := by
    obtain ⟨d, u, rfl⟩ := List.exists_cons_of_ne_nil hne
    rw [plainRun_eq_zero_iff, hc, hall d List.mem_cons_self]
    rintro _ ⟨⟩
    rfl
  have hrun : plainRun inFlow (c.forward u.length).rest ≠ 0 := by
    rw [Ne, plainRun_eq_zero_iff, hrest]
    intro h
    have hinterrupt := h ch rfl
    rw [List.tail_cons, interruptsPlain_word hf hx hinner hch] at hinterrupt
    cases hinterrupt
  have hpeek : (c.forward u.length).peek 0 = some ch := by rw [peek_zero, hrest]; rfl
  rw [plainTail_gap _ hgap, hblanks]
  dsimp only
  rw [if_neg, plain_succ, if_neg]
  · simpa [hpeek, hsharp] using hrun
  · rw [hpeek, forward_spaces hall hc]
    have hnot : ¬(inFlow = false ∧ (c.column : Int) + u.length < indent) := by
      rintro ⟨hin, hlt⟩
      rcases hcolumn with htrue | hle
      · rw [hin] at htrue
        cases htrue
      · omega
    simpa [hne, hsharp] using hnot

/-- A plain scalar goes on with the same text after what is filled in. -/
theorem exists_plainTail (hu : u <:+ x) {fuel : Nat} (hc : c.rest = u ++ r) (hfuel : c.rest.length ≤ fuel)
    (hcolumn : inFlow = true ∨ indent ≤ c.column ∨ (indent ≤ c.column + 1 ∧ u.head? ≠ some ' ')) :
    ∃ fuel', r.length ≤ fuel' ∧ plainTail inFlow indent fuel c =
      prepend u (plainTail inFlow indent fuel' (c.forward u.length)) := by
  induction hn : u.length using Nat.strongRecOn generalizing u fuel c with
  | ind n ih =>
      subst hn
      cases u with
      | nil => exact ⟨fuel, by rwa [hc] at hfuel, rfl⟩
      | cons ch v =>
          have hmem : ch ∈ x := hu.mem List.mem_cons_self
          by_cases hch : ch = ' '
          · subst hch
            obtain ⟨s, e, v', heq, hne, hall, hspace⟩ := exists_after_spaces hf hu
            rw [heq] at hu hc ⊢
            rw [List.append_assoc, List.cons_append] at hc
            have hcol : inFlow = true ∨ indent ≤ c.column := by simpa using hcolumn
            have hspos := List.length_pos_iff.2 hne
            have htotal := congrArg List.length hc
            have hrest : (c.forward s.length).rest = e :: v' ++ r := by rw [rest_forward, hc, List.drop_left]; rfl
            have hcol' : inFlow = true ∨ indent ≤ (c.forward s.length).column := by
              rw [forward_spaces hall hc]
              exact hcol.imp_right fun hle => by dsimp only; omega
            rw [List.length_append, List.length_cons] at htotal
            obtain ⟨fuel, rfl⟩ : ∃ n, fuel = n + 1 := ⟨fuel - 1, by omega⟩
            have hlength : (c.forward s.length).rest.length ≤ fuel := by
              rw [rest_forward, List.length_drop]
              omega
            obtain ⟨fuel', hfuel', h⟩ := ih (e :: v').length (by rw [heq, List.length_append]; omega)
              ((List.suffix_append s _).trans hu) hrest hlength (hcol'.imp_right .inl) rfl
            refine ⟨fuel', hfuel', ?_⟩
            rw [plainTail_spaces hf hx hu hne hall hspace hc hcol, h, List.length_append, forward_add]
            simp [prepend]
          · have hnext : c.next = ⟨v ++ r, c.index + 1, c.line, c.column + 1⟩ :=
              forward_inline (u := [ch]) (by simpa using hf.inline ch hmem) hc
            have hlength : c.next.rest.length ≤ fuel := Nat.le_trans (Nat.le_of_lt (length_next_lt hc)) hfuel
            have hcol : inFlow = true ∨ indent ≤ c.next.column ∨
                (indent ≤ c.next.column + 1 ∧ v.head? ≠ some ' ') := by
              rw [hnext]
              rcases hcolumn with hin | hle | ⟨hle, -⟩
              · exact .inl hin
              · exact .inr (.inl (by dsimp only; omega))
              · exact .inr (.inl (by dsimp only; omega))
            obtain ⟨fuel', hfuel', h⟩ := ih v.length (Nat.lt_succ_self _) ((List.suffix_cons ch v).trans hu)
              (rest_next_of hc) hlength hcol rfl
            exact ⟨fuel', hfuel', by rw [plainTail_char fuel hc (interruptsPlain_word hf hx hu hch r), h]; rfl⟩

end Word

section Filled

variable (hf : Fillable w x) (hmarks : SameMarks w x a)
include hf hmarks

theorem plainBreaks_fill {fuel fuel' : Nat} (hfuel : c.rest.length < fuel) (hle : fuel ≤ fuel')
    (h : Aligned w x a m c c') (hcolumn : c'.column = c.column) :
    (plainBreaks fuel' c').1 = (plainBreaks fuel c).1 ∧ (∀ bs ∈ (plainBreaks fuel c).1, w ∉ bs) ∧
      Aligned w x a m (plainBreaks fuel c).2 (plainBreaks fuel' c').2 ∧
      (plainBreaks fuel' c').2.column = (plainBreaks fuel c).2.column := by
  induction fuel generalizing c c' fuel' with
  | zero => omega
  | succ fuel ih =>
      obtain ⟨fuel', rfl⟩ : ∃ n, fuel' = n + 1 := ⟨fuel' - 1, by omega⟩
      rw [plainBreaks, plainBreaks,
        h.peek_beq hf (hf.ne ' ' (by decide)).symm fun d hd => hd.not_space]
      split
      · next hspace =>
        obtain ⟨r, hr⟩ := exists_of_peek (beq_iff_eq.1 hspace)
        have hw := (hf.ne ' ' (by decide)).symm
        have hlt := length_next_lt hr
        exact ih (by omega) (by omega) (h.next hr hw) (h.column_next hf hr hw hcolumn)
      · rcases h.lineBreak?_cases hf with ⟨hnone, hnone', -⟩ | ⟨first, d, d', hline⟩
        · rw [hnone, hnone']
          exact ⟨rfl, by simp, h, hcolumn⟩
        · have hlt := length_lineBreak?_lt hline.left
          rw [hline.left, hline.right]
          dsimp only
          rw [hmarks.eq hline.aligned hline.column]
          split
          · exact ⟨rfl, nofun, hline.aligned, hline.column'.trans hline.column.symm⟩
          · have hmore : fuel ≤ fuel' := by omega
            obtain ⟨heq, hmem, halign, hcol⟩ := ih (by omega) hmore hline.aligned
              (hline.column'.trans hline.column.symm)
            refine ⟨by rw [heq], fun bs hbs => ?_, halign, hcol⟩
            obtain ⟨more, hmore, rfl⟩ := Option.map_eq_some_iff.1 hbs
            exact List.not_mem_cons_of_ne_of_not_mem (hline.ne hf) (hmem more hmore)

structure SameBlanks (w : Char) (x a : List Char) (m : Nat) (c : Cursor) (p q : List Char × Bool × Cursor) : Prop where
  blanks : q.1 = p.1
  broke : q.2.1 = p.2.1
  not_mem : w ∉ p.1
  aligned : Aligned w x a m p.2.2 q.2.2
  column_broke : p.2.1 = true → q.2.2.column = p.2.2.column
  column_inline : p.2.1 = false → p.2.2.column = c.column + p.1.length

theorem plainBlanks_fill (h : Aligned w x a m c c') : SameBlanks w x a m c (plainBlanks c) (plainBlanks c') := by
  obtain ⟨hspaces, hafter⟩ := h.takeWhile_space hf
  rcases hafter.lineBreak?_cases hf with ⟨hnone, hnone', -⟩ | ⟨first, d, d', hline⟩
  · rw [plainBlanks_of_none hnone, plainBlanks_of_none hnone']
    refine ⟨hspaces, rfl, not_mem_takeWhile (p := fun ch => ch == ' ') hf.beq_space _, hafter, by simp, fun _ => ?_⟩
    have hall : ∀ ch ∈ c.rest.takeWhile (· == ' '), ch = ' ' := fun ch hch =>
      beq_iff_eq.1 (List.all_eq_true.1 List.all_takeWhile ch hch)
    rw [takeWhile, forward_spaces hall (List.takeWhile_append_dropWhile).symm]
  · obtain ⟨heq, hmem, halign, hcol⟩ := plainBreaks_fill hf hmarks (Nat.lt_succ_self _) (hline.aligned.fuel_le hf)
      hline.aligned (hline.column'.trans hline.column.symm)
    rw [plainBlanks_of_some hline.left, plainBlanks_of_some hline.right, hmarks.eq hline.aligned hline.column]
    split
    · exact ⟨rfl, rfl, List.not_mem_nil, hline.aligned, fun _ => hline.column'.trans hline.column.symm, by simp⟩
    · rcases hleft : plainBreaks (d.rest.length + 1) d with ⟨breaks?, e⟩
      rcases hright : plainBreaks (d'.rest.length + 1) d' with ⟨breaks?', e'⟩
      rw [hleft] at heq hmem halign hcol
      rw [hright] at heq halign hcol
      dsimp only at heq hmem halign hcol
      subst heq
      cases breaks?' with
      | none => exact ⟨rfl, rfl, List.not_mem_nil, halign, fun _ => hcol, by simp⟩
      | some breaks =>
          exact ⟨rfl, rfl, not_mem_folded hf (hline.ne hf) (hmem breaks rfl), halign, fun _ => hcol, by simp⟩

omit hmarks

/-- A plain scalar is interrupted before the same character, unless that would be a placeholder after a colon
between brackets. -/
theorem interruptsPlain_fill (hcolon : inFlow = true → ch = ':' → r.head? = some w → Plainable inFlow x) :
    interruptsPlain inFlow ch (fill w x r).head? = interruptsPlain inFlow ch r.head? := by
  have hany : (ch == ':' && (inFlow && (fill w x r).head?.any fun d => d ∈ [',', '[', ']', '{', '}'])) =
      (ch == ':' && (inFlow && r.head?.any fun d => d ∈ [',', '[', ']', '{', '}'])) := by
    rcases hf.head_fill_cases r with heq | ⟨hr, e, he, hinner⟩
    · rw [heq]
    · by_cases hcase : ch = ':' ∧ inFlow = true
      · have hx := hcolon hcase.2 hcase.1 hr
        have hnot : e ∉ [',', '[', ']', '{', '}'] := fun hmem => hx.flow hcase.2 e hinner.mem (by grind)
        rw [hr, he]
        simp only [Option.any_some]
        rw [decide_eq_false hnot, decide_eq_false (by simp [hf.ne])]
      · have hboth : (ch == ':' && inFlow) = false := by simpa [← Bool.not_eq_true] using hcase
        rw [← Bool.and_assoc, ← Bool.and_assoc, hboth]
        rfl
  rw [interruptsPlain, interruptsPlain, hf.endsWord_head, Bool.and_or_distrib_left, Bool.and_or_distrib_left, hany]

/-- Corresponding ends of a plain scalar: the text is filled, and where a key may follow the lines begin alike. -/
structure SamePlain (w : Char) (x a : List Char) (m : Nat) (p q : List Char × Bool × Cursor) : Prop where
  text : q.1 = fill w x p.1
  keyAllowed : q.2.1 = p.2.1
  aligned : Aligned w x a m p.2.2 q.2.2
  column : p.2.1 = true → q.2.2.column = p.2.2.column

omit hf in
theorem SamePlain.prepend {p q : List Char × Bool × Cursor} (h : SamePlain w x a m p q) (u : List Char) :
    SamePlain w x a m (prepend u p) (prepend (fill w x u) q) :=
  ⟨by rw [Cursor.prepend, Cursor.prepend, h.text, fill_append], h.keyAllowed, h.aligned, h.column⟩

theorem interruptsPlain_hole (after : Option Char) : interruptsPlain inFlow w after = false := by
  have hends : endsWord (some w) = false := by
    have hblank := hf.beq_blank
    simpa [endsWord, hf.not_isBreak] using hblank
  rw [interruptsPlain, hends, beq_false_of_ne (hf.ne ':' (by decide))]
  simp [hf.ne]

theorem plainRun_hole (hc : c.rest = w :: r) : plainRun inFlow c.rest ≠ 0 := by
  rw [Ne, plainRun_eq_zero_iff, hc]
  intro h
  have hinterrupt := h w rfl
  rw [interruptsPlain_hole hf] at hinterrupt
  cases hinterrupt

theorem mem_plainTail_hole (fuel : Nat) (hc : c.rest = w :: r) : w ∈ (plainTail inFlow indent fuel c).1 := by
  rw [plainTail_char fuel hc (interruptsPlain_hole hf _)]
  exact List.mem_cons_self

theorem interruptsPlain_colon : interruptsPlain inFlow ':' (some w) = false := by
  have hends : endsWord (some w) = false := by
    have hblank := hf.beq_blank
    simpa [endsWord, hf.not_isBreak] using hblank
  have hcolon : endsWord (some ':') = false := by decide
  rw [interruptsPlain, hends, hcolon]
  simp [hf.ne]

/-- A placeholder after a colon belongs to the scalar, so what is filled in there fits. -/
theorem plainable_of_colon
    (hx : plainRun inFlow c.rest ≠ 0 → w ∈ (plainTail inFlow indent fuel c).1 → Plainable inFlow x)
    (hc : c.rest = ch :: r) (hch : ch = ':') (hr : r.head? = some w) : Plainable inFlow x := by
  obtain ⟨r, rfl⟩ := List.head?_eq_some_iff.1 hr
  subst hch
  refine hx (fun hzero => ?_) ?_
  · rw [plainRun_eq_zero_iff, hc] at hzero
    have hinterrupt := hzero ':' rfl
    rw [List.tail_cons, List.head?_cons, interruptsPlain_colon hf] at hinterrupt
    cases hinterrupt
  · rw [plainTail_char fuel hc (interruptsPlain_colon hf)]
    exact List.mem_cons_of_mem _ (mem_plainTail_hole hf fuel (rest_next_of hc))

theorem plainRun_fill (h : Aligned w x a m c c') (hhole : c.rest.head? ≠ some w)
    (hx : plainRun inFlow c.rest ≠ 0 → w ∈ (plainTail inFlow indent fuel c).1 → Plainable inFlow x) :
    plainRun inFlow c'.rest = 0 ↔ plainRun inFlow c.rest = 0 := by
  rw [plainRun_eq_zero_iff, plainRun_eq_zero_iff, h.rest]
  cases hc : c.rest with
  | nil => rfl
  | cons ch r =>
      have hw : ch ≠ w := fun heq => hhole (by rw [hc, heq]; rfl)
      rw [fill_cons x hw]
      simp only [List.head?_cons, List.tail_cons, Option.mem_def, Option.some.injEq, forall_eq']
      rw [interruptsPlain_fill hf fun _ => plainable_of_colon hf hx hc]

theorem plainRun_word (hx : Plainable inFlow x) (hc : c.rest = x ++ r) :
    (c.peek 0 == some '#' || decide (plainRun inFlow c.rest = 0)) = false := by
  obtain ⟨ch, v, rfl, hinner⟩ := hf.exists_inner
  have hsharp : ch ≠ '#' := fun heq => hx.head (by rw [heq]; rfl)
  have hrun : plainRun inFlow c.rest ≠ 0 := by
    rw [Ne, plainRun_eq_zero_iff, hc]
    intro h
    have hinterrupt := h ch rfl
    rw [List.cons_append, List.tail_cons, interruptsPlain_word hf hx List.suffix_rfl hinner.not_space] at hinterrupt
    cases hinterrupt
  rw [peek_zero, hc] at *
  simpa [hsharp] using hrun

theorem plain_hole (blanks : List Char) (keyAllowed : Bool) (hc : c.rest = w :: r) :
    plain inFlow indent (fuel + 1) blanks keyAllowed c = prepend blanks (plainTail inFlow indent fuel c) := by
  have hgoOn : (c.peek 0 == some '#' || decide (plainRun inFlow c.rest = 0)) = false := by
    have hhead : c.rest.head? = some w := by rw [hc]; rfl
    simp [peek_zero, hhead, hf.ne, plainRun_hole hf hc]
  rw [plain_succ, hgoOn]
  rfl

theorem plain_fill (h : Aligned w x a m c c') {blanks : List Char} (hblanks : w ∉ blanks)
    {keyAllowed : Bool} (hkey : keyAllowed = true → c'.column = c.column)
    (hx : w ∈ (plain inFlow indent (fuel + 1) blanks keyAllowed c).1 → Plainable inFlow x)
    (htail : (w ∈ (plainTail inFlow indent fuel c).1 → Plainable inFlow x) →
      SamePlain w x a m (plainTail inFlow indent fuel c) (plainTail inFlow indent fuel' c')) :
    SamePlain w x a m (plain inFlow indent (fuel + 1) blanks keyAllowed c)
      (plain inFlow indent (fuel' + 1) blanks keyAllowed c') := by
  have hgoOn (hx : w ∈ (plainTail inFlow indent fuel c).1 → Plainable inFlow x) :
      SamePlain w x a m (prepend blanks (plainTail inFlow indent fuel c))
        (prepend blanks (plainTail inFlow indent fuel' c')) := by
    have hprepend := (htail hx).prepend blanks
    rwa [fill_of_not_mem x hblanks] at hprepend
  by_cases hhole : c.rest.head? = some w
  · obtain ⟨r, hr⟩ := List.head?_eq_some_iff.1 hhole
    rw [plain_hole hf blanks keyAllowed hr] at hx ⊢
    have hword := hx (List.mem_append_right _ (mem_plainTail_hole hf fuel hr))
    rw [plain_succ, plainRun_word hf hword (by rw [h.rest, hr, fill_hole])]
    exact hgoOn fun _ => hword
  · rw [plain_succ] at hx
    rw [plain_succ, plain_succ, h.peek_of_not_hole hf hhole]
    by_cases hsharp : (c.peek 0 == some '#') = true
    · simp only [hsharp, Bool.true_or, if_true]
      exact ⟨rfl, rfl, h, hkey⟩
    · have hrun := plainRun_fill hf h hhole fun hne (hmem : w ∈ (plainTail inFlow indent fuel c).1) => hx (by
        rw [if_neg (by simpa [hsharp] using hne)]
        exact List.mem_append_right _ hmem)
      have hzero : decide (plainRun inFlow c'.rest = 0) = decide (plainRun inFlow c.rest = 0) :=
        decide_eq_decide.2 hrun
      rw [hzero]
      split
      · exact ⟨rfl, rfl, h, hkey⟩
      · next hno => exact hgoOn fun hmem => hx (by rw [if_neg hno]; exact List.mem_append_right _ hmem)

theorem gap_ends_fill {blanks : List Char} {broke : Bool} (h : Aligned w x a m d d')
    (hbroke : broke = true → d'.column = d.column) (hinline : broke = false → d.column = c.column + blanks.length)
    (hcolumn : inFlow = true ∨ indent ≤ c.column + 1)
    (hends : blanks = [] ∨ d.peek 0 = some '#' ∨ (!inFlow ∧ (d.column : Int) < indent)) :
    blanks = [] ∨ d'.peek 0 = some '#' ∨ (!inFlow ∧ (d'.column : Int) < indent) := by
  rcases hends with hnil | hsharp | ⟨hin, hlt⟩
  · exact .inl hnil
  · have hhole : d.rest.head? ≠ some w := by
      rw [← peek_zero, hsharp]
      simpa using (hf.ne '#' (by decide)).symm
    exact .inr (.inl ((h.peek_of_not_hole hf hhole).trans hsharp))
  · by_cases hnil : blanks = []
    · exact .inl hnil
    · cases broke with
      | true => exact .inr (.inr ⟨hin, by rwa [hbroke rfl]⟩)
      | false =>
          -- blanks within a line lead to the right
          have hpos := List.length_pos_iff.2 hnil
          have hcol := hinline rfl
          rcases hcolumn with htrue | hle
          · rw [htrue] at hin
            cases hin
          · omega

theorem gap_goesOn_fill {blanks : List Char} (h : Aligned w x a m d d')
    (hhole : d.rest.head? = some w → x.head? ≠ some '#')
    (hnot : ¬(blanks = [] ∨ d.peek 0 = some '#' ∨ (!inFlow ∧ (d.column : Int) < indent))) :
    ¬(blanks = [] ∨ d'.peek 0 = some '#' ∨ (!inFlow ∧ (d'.column : Int) < indent)) := by
  simp only [not_or] at hnot
  obtain ⟨hne, hsharp, hdeep⟩ := hnot
  rintro (hnil | hsharp' | ⟨hin, hlt⟩)
  · exact hne hnil
  · rw [peek_zero] at hsharp hsharp'
    rw [h.rest] at hsharp'
    rcases hf.head_fill_cases d.rest with heq | ⟨hd, e, he, hinner⟩
    · exact hsharp (heq ▸ hsharp')
    · exact hhole hd (hinner.head.trans (he.symm.trans hsharp'))
  · have hle := (h.position hf).2.1
    exact hdeep ⟨hin, by omega⟩

include hmarks

section Step

-- what is read from later places on is read alike
variable (h : Aligned w x a m c c') (hcolumn : inFlow = true ∨ indent ≤ c.column + 1)
  (ih : ∀ d d' fuel fuel', d.rest.length < c.rest.length → Aligned w x a m d d' → d.rest.length ≤ fuel →
    d'.rest.length ≤ fuel' → (inFlow = true ∨ indent ≤ d.column + 1) →
    (w ∈ (plainTail inFlow indent fuel d).1 → Plainable inFlow x) →
    SamePlain w x a m (plainTail inFlow indent fuel d) (plainTail inFlow indent fuel' d'))
include h hcolumn ih

theorem plainTail_fill_gap (hzero : plainRun inFlow c.rest = 0) (hzero' : plainRun inFlow c'.rest = 0)
    (hfuel : c.rest.length ≤ fuel) (hfuel' : c'.rest.length ≤ fuel')
    (hx : w ∈ (plainTail inFlow indent fuel c).1 → Plainable inFlow x) :
    SamePlain w x a m (plainTail inFlow indent fuel c) (plainTail inFlow indent fuel' c') := by
  have hblanks := plainBlanks_fill hf hmarks h
  have hlength := length_plainBlanks (c := c)
  have hlength' := length_plainBlanks (c := c')
  rw [plainTail_gap fuel hzero] at hx ⊢
  rw [plainTail_gap fuel' hzero']
  generalize plainBlanks c = p at *
  generalize plainBlanks c' = q at *
  obtain ⟨blanks, broke, d⟩ := p
  obtain ⟨blanks', broke', d'⟩ := q
  obtain ⟨heq, heq', hmem, halign, hbroke, hinline⟩ := hblanks
  dsimp only at heq heq' hmem halign hbroke hinline hlength hlength' hx ⊢
  subst heq heq'
  by_cases hends : blanks' = [] ∨ d.peek 0 = some '#' ∨ (!inFlow ∧ (d.column : Int) < indent)
  · rw [if_pos hends, if_pos (gap_ends_fill hf halign hbroke hinline hcolumn hends)]
    exact ⟨rfl, rfl, halign, hbroke⟩
  · rw [if_neg hends] at hx ⊢
    have hne : blanks' ≠ [] := fun hnil => hends (.inl hnil)
    have hlt := hlength hne
    have hlt' := hlength' hne
    obtain ⟨fuel, rfl⟩ : ∃ n, fuel = n + 1 := ⟨fuel - 1, by omega⟩
    obtain ⟨fuel', rfl⟩ : ∃ n, fuel' = n + 1 := ⟨fuel' - 1, by omega⟩
    rw [if_neg (gap_goesOn_fill hf halign ?_ hends)]
    · refine plain_fill hf halign hmem hbroke hx fun hx' => ih d d' fuel fuel' hlt halign (by omega) (by omega) ?_ hx'
      cases inFlow with
      | true => exact .inl rfl
      | false => exact .inr (by simp at hends; omega)
    · intro hhole
      obtain ⟨r, hr⟩ := List.head?_eq_some_iff.1 hhole
      rw [plain_hole hf _ _ hr] at hx
      exact (hx (List.mem_append_right _ (mem_plainTail_hole hf fuel hr))).head

omit hmarks in
theorem plainTail_fill_hole (hc : c.rest = w :: r) (hfuel : c.rest.length ≤ fuel) (hfuel' : c'.rest.length ≤ fuel')
    (hx : w ∈ (plainTail inFlow indent fuel c).1 → Plainable inFlow x) :
    SamePlain w x a m (plainTail inFlow indent fuel c) (plainTail inFlow indent fuel' c') := by
  have hword := hx (mem_plainTail_hole hf fuel hc)
  have hrest : c'.rest = x ++ fill w x r := by rw [h.rest, hc, fill_hole]
  have hnext := column_le_next hc hf.not_isBreak
  have hhead : x.head? ≠ some ' ' := by
    obtain ⟨d, v, rfl, hd⟩ := hf.exists_inner
    simpa using hd.not_space
  have hposition := (h.position hf).2.1
  have hcolumn' : inFlow = true ∨ indent ≤ c'.column ∨ indent ≤ c'.column + 1 ∧ x.head? ≠ some ' ' :=
    hcolumn.imp_right fun hle => .inr ⟨by omega, hhead⟩
  obtain ⟨fuel₂, hfuel₂, htail⟩ := exists_plainTail hf hword List.suffix_rfl hrest hfuel' hcolumn'
  have hafter : (c'.forward x.length).rest = fill w x r := by rw [rest_forward, hrest, List.drop_left]
  have hlt := length_next_lt hc
  have hsame := ih _ _ fuel fuel₂ hlt (h.hole hc) (by omega) (by rwa [hafter]) (hcolumn.imp_right fun hle => by omega)
    fun _ => hword
  have hprepend := hsame.prepend [w]
  rw [plainTail_char fuel hc (interruptsPlain_hole hf _), htail]
  rwa [fill_hole, show fill w x [] = [] from rfl, List.append_nil] at hprepend

omit hmarks in
theorem plainTail_fill_char (hhole : c.rest.head? ≠ some w) (hrun : plainRun inFlow c.rest ≠ 0)
    (hfuel : c.rest.length ≤ fuel) (hfuel' : c'.rest.length ≤ fuel')
    (hx : w ∈ (plainTail inFlow indent fuel c).1 → Plainable inFlow x) :
    SamePlain w x a m (plainTail inFlow indent fuel c) (plainTail inFlow indent fuel' c') := by
  rw [Ne, plainRun_eq_zero_iff] at hrun
  obtain ⟨ch, r, hr⟩ : ∃ ch r, c.rest = ch :: r := by
    cases hr : c.rest with
    | nil => simp [hr] at hrun
    | cons ch r => exact ⟨ch, r, rfl⟩
  have hw : ch ≠ w := fun heq => hhole (by rw [hr, heq]; rfl)
  have hr' : c'.rest = ch :: fill w x r := by rw [h.rest, hr, fill_cons x hw]
  have hinterrupt : interruptsPlain inFlow ch r.head? = false := by
    rw [hr] at hrun
    simpa using hrun
  have hinterrupt' : interruptsPlain inFlow ch (fill w x r).head? = false := by
    rw [interruptsPlain_fill hf fun _ => plainable_of_colon hf (fun _ => hx) hr, hinterrupt]
  have hbreak : isBreak ch = false := by
    rw [interruptsPlain, endsWord] at hinterrupt
    simp_all
  have hnext := column_le_next hr hbreak
  have hlt := length_next_lt hr
  have hlt' := length_next_lt hr'
  rw [plainTail_char fuel hr hinterrupt] at hx ⊢
  rw [plainTail_char fuel' hr' hinterrupt']
  have hsame := ih _ _ fuel fuel' hlt (h.next hr hw) (by omega) (by omega) (hcolumn.imp_right fun hle => by omega)
    fun hmem => hx (List.mem_cons_of_mem _ hmem)
  have hprepend := hsame.prepend [ch]
  rwa [fill_of_not_mem x (by simpa using hw.symm)] at hprepend

end Step

/-- What is read of a plain scalar after a character of it. A text between brackets goes on wherever it stands,
another one only right of the collection that it is in. -/
theorem plainTail_fill (h : Aligned w x a m c c') (hfuel : c.rest.length ≤ fuel) (hfuel' : c'.rest.length ≤ fuel')
    (hcolumn : inFlow = true ∨ indent ≤ c.column + 1)
    (hx : w ∈ (plainTail inFlow indent fuel c).1 → Plainable inFlow x) :
    SamePlain w x a m (plainTail inFlow indent fuel c) (plainTail inFlow indent fuel' c') := by
  induction hn : c.rest.length using Nat.strongRecOn generalizing c c' fuel fuel' with
  | ind n ih =>
      subst hn
      have hlater : ∀ d d' fuel fuel', d.rest.length < c.rest.length → Aligned w x a m d d' → d.rest.length ≤ fuel →
          d'.rest.length ≤ fuel' → (inFlow = true ∨ indent ≤ d.column + 1) →
          (w ∈ (plainTail inFlow indent fuel d).1 → Plainable inFlow x) →
          SamePlain w x a m (plainTail inFlow indent fuel d) (plainTail inFlow indent fuel' d') :=
        fun d d' fuel fuel' hlt halign hfuel hfuel' hcol hx => ih _ hlt halign hfuel hfuel' hcol hx rfl
      by_cases hhole : c.rest.head? = some w
      · obtain ⟨r, hr⟩ := List.head?_eq_some_iff.1 hhole
        exact plainTail_fill_hole hf h hcolumn hlater hr hfuel hfuel' hx
      · by_cases hzero : plainRun inFlow c.rest = 0
        · have hzero' := (plainRun_fill hf h hhole fun _ => hx).2 hzero
          exact plainTail_fill_gap hf hmarks h hcolumn hlater hzero hzero' hfuel hfuel' hx
        · exact plainTail_fill_char hf h hcolumn hlater hhole hzero hfuel hfuel' hx

theorem plain_fill_start (h : Aligned w x a m c c') (hcolumn : inFlow = true ∨ indent ≤ c.column + 1)
    (hx : w ∈ (plain inFlow indent (c.rest.length + 1) [] false c).1 → Plainable inFlow x) :
    SamePlain w x a m (plain inFlow indent (c.rest.length + 1) [] false c)
      (plain inFlow indent (c'.rest.length + 1) [] false c') :=
  plain_fill hf h List.not_mem_nil nofun hx
    (plainTail_fill hf hmarks h (Nat.le_refl _) (Nat.le_refl _) hcolumn)

end Filled

end Cursor

end Workcell.Yaml
