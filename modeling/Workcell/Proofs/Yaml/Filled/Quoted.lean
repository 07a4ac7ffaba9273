import Workcell.Proofs.Yaml.Filled.Cursor
import Workcell.Proofs.Yaml.Scanner

namespace Workcell.Yaml

def ScalarText.fill (w : Char) (x : List Char) (t : ScalarText) : ScalarText :=
  { t with chars := Yaml.fill w x t.chars }

namespace Cursor

variable {w : Char} {x a : List Char} {m : Nat} {c c' d : Cursor} {ch : Char} {u r : List Char}

/-- The same lines are marks of documents in a text and in the filled text. -/
def SameMarks (w : Char) (x a : List Char) : Prop :=
  ∀ c c', Aligned w x a 0 c c' → c.column = 0 → c'.atDocumentMark = c.atDocumentMark

theorem SameMarks.eq (hmarks : SameMarks w x a) (h : Aligned w x a m c c') (hcolumn : c.column = 0) :
    c'.atDocumentMark = c.atDocumentMark :=
  hmarks c c' (h.from_le (Nat.zero_le _)) hcolumn

def Unnamed (w : Char) (a : List Char) : Prop :=
  ∀ n t d, (after a n).rest.head? = some '\\' → escape (after a n) = .ok (t, d) → w ∉ t.chars

def SameRead (w : Char) (x a : List Char) (m : Nat) (p q : List Char × Cursor) : Prop :=
  q.1 = p.1 ∧ w ∉ p.1 ∧ Aligned w x a m p.2 q.2

theorem Aligned.peek_eq_none_iff (hf : Fillable w x) (h : Aligned w x a m c c') :
    c'.peek 0 = none ↔ c.peek 0 = none := by
  rw [peek_zero, peek_zero, h.rest]
  rcases hf.head_fill_cases c.rest with heq | ⟨hc, d, hd, -⟩
  · rw [heq]
  · simp [hc, hd]

theorem toNat_lt_of_isHex (ch : Char) (h : isHex ch) : ch.toNat < 0xE000 := by
  simp only [isHex, Char.isDigit, Bool.or_eq_true, Bool.and_eq_true, decide_eq_true_eq, ge_iff_le, Char.le_def,
    UInt32.le_iff_toNat_le] at h
  simp at h
  omega

section Quoted

def quotedPart (double : Bool) (c : Cursor) : Except Error (Option (ScalarText × Cursor)) :=
  match c.peek 0 with
  | none => .error .malformed
  | some ch =>
    if ch == '\'' && !double then
      if c.peek 1 == some '\'' then .ok (some (⟨['\''], false⟩, c.forward 2)) else .ok none
    else if ch == '"' && double then .ok none
    else if ch == '\\' && double then (escape c).map some
    else if ch == ' ' || ch == '\t' || isBreak ch then
      (quotedBlanks c).map fun (blanks, c) => some (⟨blanks, false⟩, c)
    else .ok (some (⟨[ch], false⟩, c.next))

theorem quoted_succ (double : Bool) (fuel : Nat) (c : Cursor) : quoted double (fuel + 1) c =
    (quotedPart double c).bind fun part => match part with
      | none => .ok (⟨[], false⟩, c.next)
      | some (part, d) => (quoted double fuel d).map fun (t, e) =>
        (⟨part.chars ++ t.chars, part.broken || t.broken⟩, e) := by
  rw [quoted, quotedPart]
  cases c.peek 0 with
  | none => rfl
  | some ch =>
      dsimp only
      split
      · split <;> rfl
      · split
        · rfl
        · split
          · cases escape c <;> rfl
          · split
            · cases quotedBlanks c <;> rfl
            · rfl

section Length

theorem length_quotedBreaks (fuel : Nat) (c : Cursor) :
    Gives (fun _ => True) (fun p => p.2.rest.length ≤ c.rest.length) (quotedBreaks fuel c) := by
  induction fuel generalizing c with
  | zero => trivial
  | succ fuel ih =>
      have htake := length_takeWhile_le (fun ch => ch == ' ' || ch == '\t') c
      rw [quotedBreaks, skipWhile]
      split
      · trivial
      · dsimp only
        split
        · exact htake
        · next ch d hd =>
          have hlt := length_lineBreak?_lt hd
          exact (ih d).map fun p hp => by dsimp only; omega

theorem length_quotedBlanks (hc : c.rest = ch :: r) (hch : ch == ' ' || ch == '\t' || isBreak ch) :
    Gives (fun _ => True) (fun p => p.2.rest.length < c.rest.length) (quotedBlanks c) := by
  have htake := length_takeWhile_le (fun ch => ch == ' ' || ch == '\t') c
  rw [quotedBlanks]
  dsimp only
  split
  · trivial
  · next hd _ =>
    have hlt := length_lineBreak?_lt hd
    exact (length_quotedBreaks _ _).map fun p hp => by dsimp only; omega
  · next hnone _ =>
    by_cases hblank : (ch == ' ' || ch == '\t') = true
    · exact length_takeWhile_lt hc hblank
    · -- a line break would have been found
      obtain ⟨p, hp⟩ := exists_lineBreak? hc (by simpa [hblank] using hch)
      have hstay : c.takeWhile (fun ch => ch == ' ' || ch == '\t') = ([], c) := by
        rw [takeWhile, hc, List.takeWhile_cons_of_neg (p := fun ch => ch == ' ' || ch == '\t') hblank]
        rfl
      rw [hstay] at hnone
      exact absurd (hp.symm.trans hnone) (by simp)

theorem length_escape (hc : c.rest = ch :: r) :
    Gives (fun _ => True) (fun p => p.2.rest.length < c.rest.length) (escape c) := by
  have hlt := length_next_lt hc
  have hnext := length_forward_le c.next 1
  rw [escape]
  dsimp only
  split
  · trivial
  · split
    · exact Nat.lt_of_le_of_lt hnext hlt
    · next width _ _ =>
      have hwidth := length_forward_le c.next.next width
      have hend : (c.next.next.forward width).rest.length < c.rest.length := by
        rw [show c.next.forward 1 = c.next.next from rfl] at hnext
        omega
      split
      · split
        · trivial
        · split <;> exact hend
      · trivial
    · split
      · next hd =>
        have hbreak := length_lineBreak?_lt hd
        exact (length_quotedBreaks _ _).map fun p hp => by dsimp only; omega
      · trivial

theorem length_quotedPart (double : Bool) (c : Cursor) : Gives (fun _ => True)
    (fun part => ∀ p ∈ part, p.2.rest.length < c.rest.length) (quotedPart double c) := by
  rw [quotedPart, peek_zero]
  cases hc : c.rest with
  | nil => trivial
  | cons ch r =>
      dsimp only [List.head?_cons]
      rw [← hc]
      split
      · split
        · rintro _ ⟨⟩
          exact length_forward_lt hc
        · nofun
      · split
        · nofun
        · split
          · refine (length_escape hc).map ?_
            rintro p hp _ ⟨⟩
            exact hp
          · split
            · next hch =>
              refine (length_quotedBlanks hc hch).map ?_
              rintro p hp _ ⟨⟩
              exact hp
            · rintro _ ⟨⟩
              exact length_next_lt hc

end Length

section Filled

variable (hf : Fillable w x)
include hf

theorem not_mem_folded {breaks : List Char} (hch : w ≠ ch) (hbreaks : w ∉ breaks) : w ∉ folded ch breaks := by
  rw [folded]
  split
  · exact List.not_mem_cons_of_ne_of_not_mem hch hbreaks
  · split
    · simpa using hf.ne ' ' (by decide)
    · exact hbreaks

variable (hmarks : SameMarks w x a)
include hmarks

theorem follows_quotedBreaks {fuel fuel' : Nat} (hfuel : fuel ≤ fuel') (h : Aligned w x a m c c')
    (hcolumn : c.column = 0) :
    Follows (SameRead w x a m) (quotedBreaks fuel c) (quotedBreaks fuel' c') := by
  induction fuel generalizing fuel' c c' with
  | zero => trivial
  | succ fuel ih =>
      obtain ⟨fuel', rfl⟩ : ∃ n, fuel' = n + 1 := ⟨fuel' - 1, by omega⟩
      rw [quotedBreaks, quotedBreaks, hmarks.eq h hcolumn, skipWhile, skipWhile]
      split
      · trivial
      · have hblank := (h.takeWhile_blank hf).2
        dsimp only
        rcases hblank.lineBreak?_cases hf with ⟨hnone, hnone', -⟩ | ⟨first, d, d', hline⟩
        · rw [hnone, hnone']
          exact follows_ok ⟨rfl, List.not_mem_nil, hblank⟩
        · rw [hline.left, hline.right]
          refine (ih (by omega) hline.aligned hline.column).map ?_
          rintro p q ⟨heq, hmem, hpq⟩
          refine ⟨?_, ?_, hpq⟩
          · exact congrArg (first :: ·) heq
          · exact List.not_mem_cons_of_ne_of_not_mem (hline.ne hf) hmem

theorem follows_quotedBlanks (h : Aligned w x a m c c') :
    Follows (SameRead w x a m) (quotedBlanks c) (quotedBlanks c') := by
  obtain ⟨hblanks, hafter⟩ := h.takeWhile_blank hf
  have hmem := not_mem_takeWhile (p := fun ch => ch == ' ' || ch == '\t') hf.beq_blank c.rest
  rw [quotedBlanks, quotedBlanks]
  dsimp only
  rw [hblanks]
  cases hpeek : (c.takeWhile fun ch => ch == ' ' || ch == '\t').2.peek 0 with
  | none => trivial
  | some ch =>
      have hpeek' : ∃ ch', (c'.takeWhile fun ch => ch == ' ' || ch == '\t').2.peek 0 = some ch' := by
        rw [← Option.ne_none_iff_exists']
        intro hnone
        rw [(hafter.peek_eq_none_iff hf).1 hnone] at hpeek
        cases hpeek
      obtain ⟨ch', hpeek'⟩ := hpeek'
      rw [hpeek']
      rcases hafter.lineBreak?_cases hf with ⟨hnone, hnone', -⟩ | ⟨first, d, d', hline⟩
      · rw [hnone, hnone']
        exact follows_ok ⟨rfl, hmem, hafter⟩
      · rw [hline.left, hline.right]
        have hle := hline.aligned.fuel_le hf
        refine (follows_quotedBreaks hf hmarks hle hline.aligned hline.column).map ?_
        rintro p q ⟨heq, hp, hpq⟩
        exact ⟨congrArg (folded first) heq, not_mem_folded hf (hline.ne hf) hp, hpq⟩

omit hmarks in
theorem digits_fill (h : Aligned w x a m c c') {width : Nat}
    (hdigits : (c.rest.take width).length = width ∧ (c.rest.take width).all isHex) :
    c'.rest.take width = c.rest.take width ∧ Aligned w x a m (c.forward width) (c'.forward width) := by
  have hmem : w ∉ c.rest.take width := fun hmem => by
    have hhex := List.all_eq_true.1 hdigits.2 w hmem
    rw [hf.not_in_class toNat_lt_of_isHex] at hhex
    cases hhex
  have hforward := h.forward (List.take_append_drop width c.rest).symm
  rw [fill_of_not_mem x hmem, hdigits.1] at hforward
  exact ⟨by rw [h.rest, take_fill x hmem hdigits.1], hforward⟩

theorem follows_escape (h : Aligned w x a m c c') (hc : c.rest = '\\' :: r) :
    Follows (fun p q => q.1 = p.1 ∧ Aligned w x a m p.2 q.2) (escape c) (escape c') := by
  have hnext := h.next hc (hf.ne '\\' (by decide)).symm
  have hr := rest_next_of hc
  rw [escape, escape]
  dsimp only
  cases r with
  | nil =>
      rw [peek_zero, hr]
      trivial
  | cons ch r =>
      rw [peek_zero, peek_zero, hnext.rest, hr]
      by_cases hw : ch = w
      · subst hw
        have hlookup : escapes.lookup ch = none := by
          simp [escapes, List.lookup_cons, beq_false_of_ne (hf.ne _ _)]
        have hwidth : escapeWidth? ch = none := by simp [escapeWidth?, hf.ne]
        have hnone : c.next.lineBreak? = none := lineBreak?_eq_none (by simp [hr, hf.not_isBreak])
        rw [List.head?_cons]
        dsimp only
        rw [hlookup, hwidth, hnone]
        trivial
      · rw [fill_cons x hw]
        dsimp only [List.head?_cons]
        have hnext' := hnext.next hr hw
        cases escapes.lookup ch with
        | some e => exact follows_ok ⟨rfl, hnext'⟩
        | none =>
            cases escapeWidth? ch with
            | some width =>
                dsimp only
                split
                · next hdigits =>
                  obtain ⟨htake, hforward⟩ := digits_fill hf hnext' hdigits
                  rw [htake, if_pos hdigits]
                  split
                  · trivial
                  · split <;> exact follows_ok ⟨rfl, hforward⟩
                · trivial
            | none =>
                dsimp only
                rcases hnext.lineBreak?_cases hf with ⟨hnone, -, -⟩ | ⟨first, d, d', hline⟩
                · rw [hnone]
                  trivial
                · rw [hline.left, hline.right]
                  have hle := hline.aligned.fuel_le hf
                  refine (follows_quotedBreaks hf hmarks hle hline.aligned hline.column).map ?_
                  rintro p q ⟨heq, -, hpq⟩
                  exact ⟨by rw [heq], hpq⟩

variable (hnamed : Unnamed w a)
include hnamed

/-- Parts of a quoted scalar in corresponding places. A quotation mark may end the scalar only if what is
filled in after it does not begin with another one. -/
def SamePart (w : Char) (x a : List Char) (m : Nat) (c : Cursor) : Option (ScalarText × Cursor) →
    Option (ScalarText × Cursor) → Prop
  | some (part, d), q => ∃ d', q = some (part, d') ∧ w ∉ part.chars ∧ Aligned w x a m d d'
  | none, q => (c.next.rest.head? = some w → ∀ d, Inner x d → d ≠ '\'') → q = none

theorem follows_quotedPart (double : Bool) (h : Aligned w x a m c c') (hc : c.rest.head? ≠ some w) :
    Follows (SamePart w x a m c) (quotedPart double c) (quotedPart double c') := by
  rw [quotedPart, quotedPart, peek_zero, peek_zero]
  cases hr : c.rest with
  | nil => trivial
  | cons ch r =>
      have hw : ch ≠ w := fun heq => hc (by rw [hr, heq]; rfl)
      have hr' : c'.rest = ch :: fill w x r := by rw [h.rest, hr, fill_cons x hw]
      rw [hr']
      dsimp only [List.head?_cons]
      split
      · next hquote =>
        rw [peek_one hr, peek_one hr']
        split
        · next hpair =>
          obtain ⟨r, rfl⟩ := List.head?_eq_some_iff.1 (beq_iff_eq.1 hpair)
          have hmark : w ≠ '\'' := hf.ne '\'' (by decide)
          rw [fill_cons x hmark.symm, if_pos (by rfl)]
          exact follows_ok ⟨_, rfl, by simpa using hmark, (h.next hr hw).next (rest_next_of hr) hmark.symm⟩
        · next hend =>
          split
          · next hend' =>
            -- what is filled in begins with a quotation mark
            refine follows_ok fun hopen => ?_
            rcases hf.head_fill_cases r with heq | ⟨hhole, d, hd, hinner⟩
            · exact absurd hend' (heq ▸ hend)
            · rw [hd, beq_iff_eq] at hend'
              exact absurd (Option.some.inj hend') (hopen (by rw [rest_next_of hr, hhole]) d hinner)
          · exact follows_ok fun _ => rfl
      · split
        · exact follows_ok fun _ => rfl
        · split
          · next hescape =>
            have hbackslash : ch = '\\' := beq_iff_eq.1 (Bool.and_eq_true_iff.1 hescape).1
            rw [hbackslash] at hr
            refine ((follows_escape hf hmarks h hr).and (Q := fun p => w ∉ p.1.chars) fun p hp => ?_).map
              fun p q ⟨⟨heq, hpq⟩, hmem⟩ => ⟨q.2, by rw [← heq], hmem, hpq⟩
            obtain ⟨n, -, -, rfl, -⟩ := h
            exact hnamed n p.1 p.2 (by rw [hr]; rfl) hp
          · split
            · exact (follows_quotedBlanks hf hmarks h).map fun p q ⟨heq, hmem, hpq⟩ =>
                ⟨q.2, by rw [heq], hmem, hpq⟩
            · exact follows_ok ⟨_, rfl, by simpa using hw.symm, h.next hr hw⟩

end Filled

def Quotable (double : Bool) (x : List Char) : Prop :=
  if double then '"' ∉ x ∧ '\\' ∉ x else '\'' ∉ x

instance (double : Bool) (x : List Char) : Decidable (Quotable double x) :=
  inferInstanceAs (Decidable (if double = true then _ ∧ _ else _))

section Word

variable {double : Bool} (hf : Fillable w x) (hx : Quotable double x)
include hf

theorem quotedBlanks_word (hu : u <:+ x) (hne : u ≠ []) (hc : c.rest = u ++ r) :
    ∃ s v, u = s ++ v ∧ s = u.takeWhile (fun ch => ch == ' ' || ch == '\t') ∧
      quotedBlanks c = .ok (s, c.forward s.length) := by
  obtain ⟨ch, v, heq, hmem, hch⟩ := hf.exists_after_takeWhile (p := fun ch => ch == ' ' || ch == '\t')
    (fun d hd => by simpa using hd) hu hne
  refine ⟨_, _, heq, rfl, ?_⟩
  rw [heq, List.append_assoc] at hc
  obtain ⟨htake, hrest⟩ := takeWhile_append (List.all_eq_true.1 List.all_takeWhile) hch hc
  have hnone : (c.forward (u.takeWhile fun ch => ch == ' ' || ch == '\t').length).lineBreak? = none :=
    lineBreak?_eq_none (by simpa [hrest] using (hf.inline ch hmem).1)
  rw [quotedBlanks, htake]
  dsimp only
  rw [hnone, peek_zero, hrest]
  rfl

include hx

theorem exists_quotedPart (hu : u <:+ x) (hne : u ≠ []) (hc : c.rest = u ++ r) :
    ∃ s v, u = s ++ v ∧ s ≠ [] ∧ quotedPart double c = .ok (some (⟨s, false⟩, c.forward s.length)) := by
  obtain ⟨ch, v, rfl⟩ := List.exists_cons_of_ne_nil hne
  have hmem : ch ∈ x := hu.mem List.mem_cons_self
  have hbreak : isBreak ch = false := by simpa using (hf.inline ch hmem).1
  have hmarks : (ch == '\'' && !double) = false ∧ (ch == '"' && double) = false ∧
      (ch == '\\' && double) = false := by
    cases double with
    | false => exact ⟨by simpa using ne_of_mem_of_not_mem hmem hx, by simp, by simp⟩
    | true =>
        exact ⟨by simp, by simpa using ne_of_mem_of_not_mem hmem hx.1, by simpa using ne_of_mem_of_not_mem hmem hx.2⟩
  rw [quotedPart, peek_zero, hc]
  dsimp only [List.cons_append, List.head?_cons]
  rw [hmarks.1, hmarks.2.1, hmarks.2.2, hbreak, Bool.or_false]
  simp only [Bool.false_eq_true, if_false]
  split
  · next hblank =>
    obtain ⟨s, v', heq, hs, hblanks⟩ := quotedBlanks_word hf hu hne hc
    refine ⟨s, v', heq, ?_, by rw [hblanks]; rfl⟩
    rw [hs, List.takeWhile_cons_of_pos (p := fun ch => ch == ' ' || ch == '\t') hblank]
    exact List.cons_ne_nil _ _
  · exact ⟨[ch], v, rfl, List.cons_ne_nil _ _, rfl⟩

theorem exists_quoted (hu : u <:+ x) {fuel : Nat} (hc : c.rest = u ++ r) (hfuel : c.rest.length < fuel) :
    ∃ fuel', r.length < fuel' ∧ ∀ t d, quoted double fuel' (c.forward u.length) = .ok (t, d) →
      quoted double fuel c = .ok (⟨u ++ t.chars, t.broken⟩, d) := by
  induction hn : u.length using Nat.strongRecOn generalizing u fuel c with
  | ind n ih =>
      subst hn
      by_cases hne : u = []
      · subst hne
        exact ⟨fuel, by rwa [hc] at hfuel, fun t d h => h⟩
      · obtain ⟨s, v, rfl, hs, hpart⟩ := exists_quotedPart hf hx hu hne hc
        obtain ⟨fuel, rfl⟩ : ∃ n, fuel = n + 1 := ⟨fuel - 1, by omega⟩
        have hspos := List.length_pos_iff.2 hs
        rw [List.append_assoc] at hc
        have htotal := congrArg List.length hc
        rw [List.length_append] at htotal
        have hrest : (c.forward s.length).rest = v ++ r := by rw [rest_forward, hc, List.drop_left]
        have hlength : (c.forward s.length).rest.length < fuel := by
          rw [rest_forward, List.length_drop]
          omega
        obtain ⟨fuel', hfuel', h⟩ := ih v.length (by rw [List.length_append]; omega)
          ((List.suffix_append s v).trans hu) hrest hlength rfl
        refine ⟨fuel', hfuel', fun t d ht => ?_⟩
        rw [List.length_append, forward_add] at ht
        rw [quoted_succ, hpart]
        dsimp only [Except.bind]
        rw [h t d ht]
        simp [Except.map]

end Word

section Whole

variable {double : Bool} (hf : Fillable w x)
include hf

theorem quotedPart_hole (hc : c.rest = w :: r) : quotedPart double c = .ok (some (⟨[w], false⟩, c.next)) := by
  have hquote : (w == '\'') = false := beq_false_of_ne (hf.ne _ (by decide))
  have hdouble : (w == '"') = false := beq_false_of_ne (hf.ne _ (by decide))
  have hescape : (w == '\\') = false := beq_false_of_ne (hf.ne _ (by decide))
  rw [quotedPart, peek_zero, hc]
  simp [hquote, hdouble, hescape, hf.beq_blank, hf.not_isBreak]

omit hf in
theorem exists_of_quotedPart {p : Option (ScalarText × Cursor)} (h : quotedPart double c = .ok p) :
    ∃ ch r, c.rest = ch :: r := by
  cases hr : c.rest with
  | nil =>
      rw [quotedPart, peek_zero, hr] at h
      cases h
  | cons ch r => exact ⟨ch, r, rfl⟩

/-- A quoted scalar that is read is read in the filled text as well, and its text is filled. -/
theorem quoted_of_ok (hmarks : SameMarks w x a) (hnamed : Unnamed w a) (h : Aligned w x a m c c') {fuel fuel' : Nat}
    (hfuel : c'.rest.length < fuel') {t : ScalarText} (ht : quoted double fuel c = .ok (t, d))
    (hx : w ∈ t.chars → Quotable double x) (hopen : d.rest.head? = some w → ∀ e, Inner x e → e ≠ '\'') :
    ∃ d', quoted double fuel' c' = .ok (t.fill w x, d') ∧ Aligned w x a m d d' := by
  induction fuel generalizing c c' fuel' t with
  | zero => cases ht
  | succ fuel ih =>
      obtain ⟨fuel', rfl⟩ : ∃ n, fuel' = n + 1 := ⟨fuel' - 1, by omega⟩
      rw [quoted_succ] at ht
      by_cases hhole : c.rest.head? = some w
      · obtain ⟨r, hr⟩ := List.head?_eq_some_iff.1 hhole
        rw [quotedPart_hole hf hr] at ht
        obtain ⟨⟨t, e⟩, ht, heq⟩ := map_eq_ok_iff.1 ht
        cases heq
        have hrest : c'.rest = x ++ fill w x r := by rw [h.rest, hr, fill_hole]
        obtain ⟨fuel₂, hfuel₂, hword⟩ := exists_quoted hf (hx List.mem_cons_self) List.suffix_rfl hrest hfuel
        have hafter : (c'.forward x.length).rest = fill w x r := by rw [rest_forward, hrest, List.drop_left]
        obtain ⟨d', hd', halign⟩ := ih (h.hole hr) (by rwa [hafter]) ht
          (fun hmem => hx (List.mem_cons_of_mem _ hmem))
        refine ⟨d', (hword _ _ hd').trans ?_, halign⟩
        simp [ScalarText.fill, fill_hole]
      · have hpart := follows_quotedPart hf hmarks hnamed double h hhole
        cases hp : quotedPart double c with
        | error e =>
            rw [hp] at ht
            cases ht
        | ok p =>
            rw [hp] at ht hpart
            obtain ⟨q, hq, hpq⟩ := hpart
            rw [quoted_succ, hq]
            cases p with
            | none =>
                cases ht
                obtain ⟨ch, r, hr⟩ := exists_of_quotedPart hp
                have hw : ch ≠ w := fun heq => hhole (by rw [hr, heq]; rfl)
                rw [hpq hopen]
                exact ⟨c'.next, rfl, h.next hr hw⟩
            | some p =>
                obtain ⟨⟨t, e⟩, ht, heq⟩ := map_eq_ok_iff.1 ht
                cases heq
                obtain ⟨e', rfl, hmem, he⟩ := hpq
                have hlength := length_quotedPart double c'
                rw [hq] at hlength
                obtain ⟨d', hd', halign⟩ := ih he (Nat.lt_of_lt_of_le (hlength _ rfl) (Nat.le_of_lt_succ hfuel)) ht
                  (fun hmem => hx (List.mem_append_right _ hmem))
                refine ⟨d', ?_, halign⟩
                dsimp only [Except.bind]
                rw [hd']
                simp [ScalarText.fill, fill_append, fill_of_not_mem x hmem, Except.map]

end Whole

end Quoted

end Cursor

end Workcell.Yaml
