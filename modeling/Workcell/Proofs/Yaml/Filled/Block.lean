import Workcell.Proofs.Yaml.Filled.Quoted

namespace Workcell.Yaml

namespace Cursor

variable {w : Char} {x a : List Char} {m : Nat} {c c' d : Cursor} {ch : Char} {u r : List Char} {fuel fuel' : Nat}

structure SameColumn (w : Char) (x a : List Char) (m : Nat) (c c' : Cursor) : Prop where
  aligned : Aligned w x a m c c'
  column : c'.column = c.column ∨ c.rest = []

section Header

variable (hf : Fillable w x)
include hf

theorem follows_finishLine {α β : Type} {R : α → β → Prop} {f : Cursor → α} {g : Cursor → β}
    (h : Aligned w x a m c c') (hfg : ∀ d d', SameColumn w x a m d d' → R (f d) (g d')) :
    Follows R
      (match c.finishLine? with
      | some d => .ok (f d)
      | none => .error .malformed)
      (match c'.finishLine? with
      | some d => .ok (g d)
      | none => .error .malformed) := by
  cases hd : c.finishLine? with
  | none => trivial
  | some d =>
      obtain ⟨d', hd', halign, hcolumn⟩ := h.finishLine?_eq_some hf hd
      rw [hd']
      exact follows_ok (hfg d d' ⟨halign, hcolumn⟩)

theorem follows_blockIndent (h : Aligned w x a m c c') (hhole : c.rest.head? ≠ some w) :
    Follows (fun p q => q.1 = p.1 ∧ Aligned w x a m p.2 q.2) (blockIndent c) (blockIndent c') := by
  rw [blockIndent, blockIndent, h.peek_of_not_hole hf hhole]
  split
  · next ch hch =>
    split
    · trivial
    · split
      · obtain ⟨r, hr⟩ := exists_of_peek hch
        exact follows_ok ⟨rfl, h.next hr fun heq => hhole (by rw [hr, heq]; rfl)⟩
      · exact follows_ok ⟨rfl, h⟩
  · exact follows_ok ⟨rfl, h⟩

theorem chomping?_hole : chomping? (some w) = none := by
  unfold chomping?
  split
  · next h => exact absurd (Option.some.inj h) (hf.ne '+' (by decide))
  · next h => exact absurd (Option.some.inj h) (hf.ne '-' (by decide))
  · rfl

omit hf in
theorem exists_of_chomping? {k : Chomping} (h : chomping? (c.peek 0) = some k) : ∃ ch r, c.rest = ch :: r := by
  cases hr : c.rest with
  | nil =>
      rw [peek_zero, hr] at h
      cases h
  | cons ch r => exact ⟨ch, r, rfl⟩

theorem blockIndent_hole (hhole : c.rest.head? = some w) : blockIndent c = .ok (none, c) := by
  have hdigit : w.isDigit = false := hf.not_in_class fun ch hch => toNat_lt_of_isHex ch (by simp [isHex, hch])
  rw [blockIndent, peek_zero, hhole]
  simp [hf.ne, hdigit]

theorem follows_headerEnd (h : Aligned w x a m c c') (chomping : Chomping) (indent : Option Nat) :
    Follows (fun p q => q.1 = p.1 ∧ q.2.1 = p.2.1 ∧ SameColumn w x a m p.2.2 q.2.2)
      (if endsLineOrSpace (c.peek 0) then
        match c.finishLine? with
        | some d => .ok (chomping, indent, d)
        | none => .error .malformed
      else .error .malformed)
      (if endsLineOrSpace (c'.peek 0) then
        match c'.finishLine? with
        | some d => .ok (chomping, indent, d)
        | none => .error .malformed
      else .error .malformed) := by
  have hends : endsLineOrSpace (c'.peek 0) = endsLineOrSpace (c.peek 0) := by
    rw [peek_zero, peek_zero, h.rest, hf.endsLineOrSpace_head]
  rw [hends]
  split
  · exact follows_finishLine hf h fun d d' hd => ⟨rfl, rfl, hd⟩
  · trivial

theorem endsLineOrSpace_hole (hhole : c.rest.head? = some w) : endsLineOrSpace (c.peek 0) = false := by
  rw [peek_zero, hhole]
  simp [endsLineOrSpace, hf.not_isBreak, hf.beq_space]

theorem follows_blockHeader (h : Aligned w x a m c c') :
    Follows (fun p q => q.1 = p.1 ∧ q.2.1 = p.2.1 ∧ SameColumn w x a m p.2.2 q.2.2) (blockHeader c)
      (blockHeader c') := by
  by_cases hhole : c.rest.head? = some w
  · have hnone : chomping? (c.peek 0) = none := by rw [peek_zero, hhole, chomping?_hole hf]
    rw [blockHeader, hnone, blockIndent_hole hf hhole]
    change Follows _ (if endsLineOrSpace (c.peek 0) then _ else _) _
    rw [endsLineOrSpace_hole hf hhole]
    trivial
  · rw [blockHeader, blockHeader, h.peek_of_not_hole hf hhole]
    split
    · next k hk =>
      obtain ⟨e, r, hr⟩ := exists_of_chomping? hk
      have hnext := h.next hr fun heq => hhole (by rw [hr, heq]; rfl)
      by_cases hhole' : c.next.rest.head? = some w
      · rw [blockIndent_hole hf hhole']
        change Follows _ (if endsLineOrSpace (c.next.peek 0) then _ else _) _
        rw [endsLineOrSpace_hole hf hhole']
        trivial
      · refine (follows_blockIndent hf hnext hhole').bind ?_
        rintro ⟨indent, d⟩ ⟨_, d'⟩ ⟨heq, hd⟩
        dsimp only at heq hd ⊢
        subst heq
        exact follows_headerEnd hf hd _ _
    · refine (follows_blockIndent hf h hhole).bind ?_
      rintro ⟨indent, d⟩ ⟨indent', d'⟩ ⟨heq, hd⟩
      dsimp only at heq hd ⊢
      obtain rfl : indent = indent' := heq.symm
      by_cases hhole' : d.rest.head? = some w
      · have hnone : chomping? (d.peek 0) = none := by rw [peek_zero, hhole', chomping?_hole hf]
        rw [hnone]
        cases indent <;>
        · change Follows _ (if endsLineOrSpace (d.peek 0) then _ else _) _
          rw [endsLineOrSpace_hole hf hhole']
          trivial
      · rw [hd.peek_of_not_hole hf hhole']
        split
        · next hk =>
          obtain ⟨e, r, hr⟩ := exists_of_chomping? hk
          exact follows_headerEnd hf (hd.next hr fun heq => hhole' (by rw [hr, heq]; rfl)) _ _
        · exact follows_headerEnd hf hd _ _

end Header

section Lines

def atBlank (c : Cursor) : Bool := (c.peek 0).any fun ch => ch == ' ' || ch == '\t'

/-- One line of a block scalar and the empty lines after it: its text, its line break, the empty lines and the
place after them. -/
def blockLine (indent : Nat) (c : Cursor) : List Char × List Char × List Char × Cursor :=
  let (text, c) := c.takeWhile fun ch => !isBreak ch
  let (last, c) := match c.lineBreak? with
    | some (ch, c) => ([ch], c)
    | none => ([], c)
  let (breaks, c) := blockBreaks indent (c.rest.length + 1) c
  (text, last, breaks, c)

theorem blockLines_succ (fold : Bool) (indent fuel : Nat) (breaks last : List Char) (c : Cursor) :
    blockLines fold indent (fuel + 1) breaks last c =
      if c.column ≠ indent ∨ c.peek 0 = none then ([], last, breaks, c)
      else match blockLine indent c with
        | (text, last, empty, d) =>
          if d.column = indent ∧ d.peek 0 ≠ none then
            match blockLines fold indent fuel empty last d with
            | (more, r) => (breaks ++ text ++
              (if fold && last == ['\n'] && !c.atBlank && !d.atBlank then if empty = [] then [' '] else []
                else last) ++ more, r)
          else (breaks ++ text, last, empty, d) := by
  rw [blockLines, blockLine]
  rfl

theorem Aligned.Newline.level {d d' : Cursor} (h : Newline w x a m c c' ch d d') : SameColumn w x a m d d' :=
  ⟨h.aligned, .inl (h.column'.trans h.column.symm)⟩

variable (hf : Fillable w x)
include hf

omit hf in
theorem SameColumn.column_of_cons (h : SameColumn w x a m c c') (hc : c.rest = ch :: r) : c'.column = c.column :=
  h.column.resolve_right (by simp [hc])

theorem SameColumn.next (h : SameColumn w x a m c c') (hc : c.rest = ch :: r) (hw : ch ≠ w) :
    SameColumn w x a m c.next c'.next := by
  exact ⟨h.aligned.next hc hw, .inl (h.aligned.column_next hf hc hw (h.column_of_cons hc))⟩

theorem SameColumn.indentTo (h : SameColumn w x a m c c') (indent : Nat) :
    SameColumn w x a m (c.indentTo indent) (c'.indentTo indent) := by
  have hspaces : c'.rest.takeWhile (· == ' ') = c.rest.takeWhile (· == ' ') := (h.aligned.takeWhile_space hf).1
  have hmem := not_mem_takeWhile (p := fun ch => ch == ' ') hf.beq_space c.rest
  have hcount : min (indent - c'.column) (c.rest.takeWhile (· == ' ')).length =
      min (indent - c.column) (c.rest.takeWhile (· == ' ')).length := by
    rcases h.column with heq | hnil
    · rw [heq]
    · simp [hnil]
  rw [Cursor.indentTo, Cursor.indentTo, hspaces, hcount]
  generalize hn : min (indent - c.column) (c.rest.takeWhile (· == ' ')).length = n
  have hlength : ((c.rest.takeWhile (· == ' ')).take n).length = n := by
    rw [List.length_take]
    omega
  have hrest : c.rest = (c.rest.takeWhile (· == ' ')).take n ++
      ((c.rest.takeWhile (· == ' ')).drop n ++ c.rest.dropWhile (· == ' ')) := by
    rw [← List.append_assoc, List.take_append_drop, List.takeWhile_append_dropWhile]
  have hw : w ∉ (c.rest.takeWhile (· == ' ')).take n := fun hw => hmem (List.mem_of_mem_take hw)
  have hforward := h.aligned.forward hrest
  rw [fill_of_not_mem x hw, hlength] at hforward
  refine ⟨hforward, ?_⟩
  rcases h.column with heq | hnil
  · have hcolumn := h.aligned.column_forward hf hrest hw heq
    rw [hlength] at hcolumn
    exact .inl hcolumn
  · exact .inr (by rw [rest_forward, hnil, List.drop_nil])

omit hf in
theorem length_indentTo_le (indent : Nat) (c : Cursor) : (c.indentTo indent).rest.length ≤ c.rest.length :=
  length_forward_le _ _

theorem blockLead_fill (h : SameColumn w x a m c c') (hfuel : c.rest.length < fuel) (hle : fuel ≤ fuel')
    (deepest : Nat) :
    (blockLead fuel' deepest c').1 = (blockLead fuel deepest c).1 ∧
      (blockLead fuel' deepest c').2.1 = (blockLead fuel deepest c).2.1 ∧ w ∉ (blockLead fuel deepest c).1 ∧
      SameColumn w x a m (blockLead fuel deepest c).2.2 (blockLead fuel' deepest c').2.2 := by
  induction fuel generalizing c c' fuel' deepest with
  | zero => omega
  | succ fuel ih =>
      obtain ⟨fuel', rfl⟩ : ∃ n, fuel' = n + 1 := ⟨fuel' - 1, by omega⟩
      rw [blockLead, blockLead, h.aligned.peek_beq hf (hf.ne ' ' (by decide)).symm fun d hd => hd.not_space]
      split
      · next hspace =>
        obtain ⟨r, hr⟩ := exists_of_peek (beq_iff_eq.1 hspace)
        have hlt := length_next_lt hr
        have hnext := h.next hf hr (hf.ne ' ' (by decide)).symm
        have hcolumn := h.aligned.column_next hf hr (hf.ne ' ' (by decide)).symm (h.column_of_cons hr)
        dsimp only
        rw [hcolumn]
        exact ih hnext (by omega) (by omega) _
      · rcases h.aligned.lineBreak?_cases hf with ⟨hnone, hnone', -⟩ | ⟨first, d, d', hline⟩
        · rw [hnone, hnone']
          exact ⟨rfl, rfl, List.not_mem_nil, h⟩
        · have hlt := length_lineBreak?_lt hline.left
          rw [hline.left, hline.right]
          have hmore : fuel ≤ fuel' := by omega
          obtain ⟨heq, hdeepest, hmem, hlevel⟩ := ih hline.level (by omega) hmore deepest
          exact ⟨congrArg (first :: ·) heq, hdeepest,
            List.not_mem_cons_of_ne_of_not_mem (hline.ne hf) hmem, hlevel⟩

theorem blockBreaks_fill (h : SameColumn w x a m c c') (hfuel : c.rest.length < fuel) (hle : fuel ≤ fuel')
    (indent : Nat) :
    (blockBreaks indent fuel' c').1 = (blockBreaks indent fuel c).1 ∧ w ∉ (blockBreaks indent fuel c).1 ∧
      SameColumn w x a m (blockBreaks indent fuel c).2 (blockBreaks indent fuel' c').2 := by
  induction fuel generalizing c c' fuel' with
  | zero => omega
  | succ fuel ih =>
      obtain ⟨fuel', rfl⟩ : ∃ n, fuel' = n + 1 := ⟨fuel' - 1, by omega⟩
      have hindent := h.indentTo hf indent
      have hlength := length_indentTo_le indent c
      rw [blockBreaks, blockBreaks]
      dsimp only
      rcases hindent.aligned.lineBreak?_cases hf with ⟨hnone, hnone', -⟩ | ⟨first, d, d', hline⟩
      · rw [hnone, hnone']
        exact ⟨rfl, List.not_mem_nil, hindent⟩
      · have hlt := length_lineBreak?_lt hline.left
        rw [hline.left, hline.right]
        have hmore : fuel ≤ fuel' := by omega
        obtain ⟨heq, hmem, hlevel⟩ := ih hline.level (by omega) hmore
        exact ⟨congrArg (first :: ·) heq, List.not_mem_cons_of_ne_of_not_mem (hline.ne hf) hmem, hlevel⟩

structure SameLine (w : Char) (x a : List Char) (m : Nat) (p q : List Char × List Char × List Char × Cursor) :
    Prop where
  text : q.1 = fill w x p.1
  last : q.2.1 = p.2.1
  empty : q.2.2.1 = p.2.2.1
  not_mem_last : w ∉ p.2.1
  not_mem_empty : w ∉ p.2.2.1
  level : SameColumn w x a m p.2.2.2 q.2.2.2

theorem blockLine_fill (h : SameColumn w x a m c c') (indent : Nat) :
    SameLine w x a m (blockLine indent c) (blockLine indent c') := by
  obtain ⟨htext, hafter⟩ := h.aligned.takeWhile hf (p := fun ch => !isBreak ch) (by simp [hf.not_isBreak])
    fun d hd => by simpa using (hf.inline d hd).1
  rw [blockLine, blockLine]
  dsimp only
  rcases hafter.lineBreak?_cases hf with ⟨hnone, hnone', hbreak⟩ | ⟨first, d, d', hline⟩
  · rw [hnone, hnone']
    -- a line without an end is the last one
    have hnil : (c.takeWhile fun ch => !isBreak ch).2.rest = [] := by
      cases hr : (c.takeWhile fun ch => !isBreak ch).2.rest with
      | nil => rfl
      | cons e r =>
          have hhead := List.head?_dropWhile_not (fun ch => !isBreak ch) c.rest
          rw [← rest_takeWhile, hr] at hhead
          have hfirst := hbreak e (by rw [hr]; rfl)
          rw [List.head?_cons] at hhead
          simp [hfirst] at hhead
    have hlevel : SameColumn w x a m (c.takeWhile fun ch => !isBreak ch).2 (c'.takeWhile fun ch => !isBreak ch).2 :=
      ⟨hafter, .inr hnil⟩
    obtain ⟨heq, hmem, hlevel'⟩ := blockBreaks_fill hf hlevel (Nat.lt_succ_self _) (hlevel.aligned.fuel_le hf) indent
    exact ⟨htext, rfl, heq, List.not_mem_nil, hmem, hlevel'⟩
  · rw [hline.left, hline.right]
    obtain ⟨heq, hmem, hlevel⟩ := blockBreaks_fill hf hline.level (Nat.lt_succ_self _) (hline.aligned.fuel_le hf) indent
    exact ⟨htext, rfl, heq, by simpa using hline.ne hf, hmem, hlevel⟩

omit hf in
theorem length_blockBreaks (indent fuel : Nat) (c : Cursor) :
    (blockBreaks indent fuel c).2.rest.length ≤ c.rest.length := by
  induction fuel generalizing c with
  | zero => exact Nat.le_refl _
  | succ fuel ih =>
      have hindent := length_indentTo_le indent c
      rw [blockBreaks]
      dsimp only
      split
      · next ch d hd =>
        have hlt := length_lineBreak?_lt hd
        have hrest := ih d
        dsimp only
        omega
      · exact hindent

omit hf in
theorem length_blockLine (hc : c.rest = ch :: r) (indent : Nat) :
    (blockLine indent c).2.2.2.rest.length < c.rest.length := by
  have htake := length_takeWhile_le (fun ch => !isBreak ch) c
  rw [blockLine]
  dsimp only
  split
  · next first d hd =>
    have hlt := length_lineBreak?_lt hd
    exact Nat.lt_of_le_of_lt (length_blockBreaks _ _ _) (Nat.lt_of_lt_of_le hlt htake)
  · next hnone =>
    refine Nat.lt_of_le_of_lt (length_blockBreaks _ _ _) ?_
    by_cases hbreak : isBreak ch = true
    · -- a line break would have been found
      obtain ⟨p, hp⟩ := exists_lineBreak? hc hbreak
      have hstay : c.takeWhile (fun ch => !isBreak ch) = ([], c) := by
        rw [takeWhile, hc, List.takeWhile_cons_of_neg (p := fun ch => !isBreak ch) (by simp [hbreak])]
        rfl
      rw [hstay] at hnone
      exact absurd (hp.symm.trans hnone) (by simp)
    · exact length_takeWhile_lt hc (by simpa using hbreak)

theorem SameColumn.atBlank (h : SameColumn w x a m c c') : c'.atBlank = c.atBlank := by
  rw [Cursor.atBlank, Cursor.atBlank, peek_zero, peek_zero, h.aligned.rest]
  rcases hf.head_fill_cases c.rest with heq | ⟨hc, d, hd, hinner⟩
  · rw [heq]
  · rw [hc, hd, Option.any_some, Option.any_some, hinner.beq_blank, hf.beq_blank]

theorem SameColumn.goesOn_iff (h : SameColumn w x a m c c') (indent : Nat) :
    (c'.column = indent ∧ c'.peek 0 ≠ none) ↔ (c.column = indent ∧ c.peek 0 ≠ none) := by
  rw [Ne, Ne, h.aligned.peek_eq_none_iff hf]
  rcases h.column with heq | hnil
  · rw [heq]
  · simp [peek_zero, hnil]

theorem blockLines_fill (h : SameColumn w x a m c c') (hfuel : c.rest.length < fuel) (hle : fuel ≤ fuel') (fold : Bool)
    (indent : Nat) {breaks last : List Char} (hbreaks : w ∉ breaks) (hlast : w ∉ last) :
    SameLine w x a m (blockLines fold indent fuel breaks last c) (blockLines fold indent fuel' breaks last c') := by
  induction fuel generalizing c c' fuel' breaks last with
  | zero => omega
  | succ fuel ih =>
      obtain ⟨fuel', rfl⟩ : ∃ n, fuel' = n + 1 := ⟨fuel' - 1, by omega⟩
      rw [blockLines_succ, blockLines_succ]
      by_cases hends : c.column = indent ∧ c.peek 0 ≠ none
      · have hends' := (h.goesOn_iff hf indent).2 hends
        obtain ⟨ch, r, hc⟩ : ∃ ch r, c.rest = ch :: r := by
          cases hc : c.rest with
          | nil => exact absurd (by rw [peek_zero, hc]; rfl) hends.2
          | cons ch r => exact ⟨ch, r, rfl⟩
        rw [if_neg (by simpa [not_or] using hends), if_neg (by simpa [not_or] using hends')]
        have hline := blockLine_fill hf h indent
        have hlt := length_blockLine hc indent
        generalize blockLine indent c = p at *
        generalize blockLine indent c' = q at *
        obtain ⟨text, last', empty, d⟩ := p
        obtain ⟨text', last'', empty', d'⟩ := q
        obtain ⟨htext, hlast', hempty, hmem, hmem', hlevel⟩ := hline
        dsimp only at *
        subst htext hlast' hempty
        by_cases hmore : d.column = indent ∧ d.peek 0 ≠ none
        · rw [if_pos hmore, if_pos ((hlevel.goesOn_iff hf indent).2 hmore), h.atBlank hf, hlevel.atBlank hf]
          have hle' : fuel ≤ fuel' := by omega
          have hrest := ih hlevel (by omega) hle' hmem' hmem
          generalize blockLines fold indent fuel empty' last'' d = p at *
          generalize blockLines fold indent fuel' empty' last'' d' = q at *
          have hjoint : w ∉ if fold && last'' == ['\n'] && !c.atBlank && !d.atBlank then
              if empty' = [] then [' '] else [] else last'' := by
            split
            · split
              · simpa using hf.ne ' ' (by decide)
              · exact List.not_mem_nil
            · exact hmem
          refine ⟨?_, hrest.last, hrest.empty, hrest.not_mem_last, hrest.not_mem_empty, hrest.level⟩
          dsimp only
          rw [hrest.text, fill_append, fill_append, fill_append, fill_of_not_mem x hbreaks, fill_of_not_mem x hjoint]
        · rw [if_neg hmore, if_neg (mt (hlevel.goesOn_iff hf indent).1 hmore)]
          exact ⟨by dsimp only; rw [fill_append, fill_of_not_mem x hbreaks], rfl, rfl, hmem, hmem', hlevel⟩
      · have hends' := mt (h.goesOn_iff hf indent).1 hends
        rw [not_and_or, Decidable.not_not] at hends hends'
        rw [if_pos hends, if_pos hends']
        exact ⟨rfl, rfl, rfl, hlast, hbreaks, h⟩

omit hf in
theorem length_blockLead (fuel deepest : Nat) (c : Cursor) :
    (blockLead fuel deepest c).2.2.rest.length ≤ c.rest.length := by
  induction fuel generalizing deepest c with
  | zero => exact Nat.le_refl _
  | succ fuel ih =>
      rw [blockLead]
      split
      · exact Nat.le_trans (ih _ c.next) (length_forward_le c 1)
      · split
        · next ch d hd => exact Nat.le_trans (ih _ d) (Nat.le_of_lt (length_lineBreak?_lt hd))
        · exact Nat.le_refl _

def chompedEnd (chomping : Chomping) (last breaks : List Char) : List Char :=
  match chomping with
  | .strip => []
  | .clip => last
  | .keep => last ++ breaks

omit hf in
theorem not_mem_chompedEnd (chomping : Chomping) {last breaks : List Char} (hlast : w ∉ last) (hbreaks : w ∉ breaks) :
    w ∉ chompedEnd chomping last breaks := by
  cases chomping with
  | strip => exact List.not_mem_nil
  | clip => exact hlast
  | keep => exact fun hw => (List.mem_append.1 hw).elim hlast hbreaks

def chomped (chomping : Chomping) (p : List Char × List Char × List Char × Cursor) : List Char × Cursor :=
  (p.1 ++ chompedEnd chomping p.2.1 p.2.2.1, p.2.2.2)

theorem chomped_fill (h : SameColumn w x a m c c') (hfuel : c.rest.length < fuel) (hle : fuel ≤ fuel')
    (chomping : Chomping)
    (fold : Bool) (width : Nat) {breaks : List Char} (hbreaks : w ∉ breaks) :
    (chomped chomping (blockLines fold width fuel' breaks [] c')).1 =
        fill w x (chomped chomping (blockLines fold width fuel breaks [] c)).1 ∧
      SameColumn w x a m (chomped chomping (blockLines fold width fuel breaks [] c)).2
        (chomped chomping (blockLines fold width fuel' breaks [] c')).2 := by
  obtain ⟨htext, hlast, hempty, hmem, hmem', hafter⟩ :=
    blockLines_fill hf h hfuel hle fold width hbreaks List.not_mem_nil
  refine ⟨?_, hafter⟩
  rw [chomped, chomped, htext, hlast, hempty, fill_append, fill_of_not_mem x (not_mem_chompedEnd chomping hmem hmem')]

/-- The text of a filled block scalar is filled. -/
theorem follows_block (fold : Bool) (indent : Int) (h : Aligned w x a m c c') (hc : c.rest = ch :: r) (hw : ch ≠ w) :
    Follows (fun p q => q.1 = fill w x p.1 ∧ SameColumn w x a m p.2 q.2) (block fold indent c)
      (block fold indent c') := by
  rw [block, block]
  refine (follows_blockHeader hf (h.next hc hw)).bind ?_
  rintro ⟨chomping, given, d⟩ ⟨chomping', given', d'⟩ ⟨hchomping, hgiven, hlevel⟩
  dsimp only at hchomping hgiven hlevel ⊢
  subst hchomping hgiven
  have hle := hlevel.aligned.fuel_le hf
  cases given' with
  | none =>
      obtain ⟨hbreaks, hdeepest, hmem, hlead⟩ := blockLead_fill hf hlevel (Nat.lt_succ_self _) hle 0
      have hlength := length_blockLead (d.rest.length + 1) 0 d
      dsimp only
      rw [hbreaks, hdeepest]
      exact follows_ok (chomped_fill hf hlead (Nat.lt_succ_of_le hlength) hle chomping' fold _ hmem)
  | some n =>
      obtain ⟨hbreaks, hmem, hlead⟩ := blockBreaks_fill hf hlevel (Nat.lt_succ_self _) hle
        ((max (indent + 1) 1).toNat + n - 1)
      have hlength := length_blockBreaks ((max (indent + 1) 1).toNat + n - 1) (d.rest.length + 1) d
      dsimp only
      rw [hbreaks]
      exact follows_ok (chomped_fill hf hlead (Nat.lt_succ_of_le hlength) hle chomping' fold _ hmem)

end Lines

end Cursor

end Workcell.Yaml
