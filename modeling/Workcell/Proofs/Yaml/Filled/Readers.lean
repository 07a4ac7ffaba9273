import Workcell.Proofs.Yaml.Filled.Block

namespace Workcell.Yaml

theorem toNat_lt_of_isAlphanum (ch : Char) (h : ch.isAlphanum) : ch.toNat < 0xE000 := by
  delta Char.isAlphanum Char.isAlpha Char.isUpper Char.isLower Char.isDigit at h
  simp only [Bool.or_eq_true, Bool.and_eq_true, decide_eq_true_eq, ge_iff_le, UInt32.le_iff_toNat_le] at h
  simp at h
  omega

def Token.fill (w : Char) (x : List Char) : Token → Token
  | .scalar text plain => .scalar (text.fill w x) plain
  | t => t

namespace Scanner

open Cursor

variable {w : Char} {x a : List Char} {m : Nat} {c c' d : Cursor} {ch : Char} {u r : List Char} {fuel fuel' : Nat}

/-- A reader that takes no placeholder: what it reads at one of two corresponding places it reads at the other
one, unless it stops at a placeholder. -/
def Stops {α : Type} (w : Char) (x a : List Char) (m : Nat) (f : Cursor → Scan (α × Cursor)) : Prop :=
  ∀ ⦃c c' v d⦄, Aligned w x a m c c' → f c = .ok (v, d) → d.rest.head? ≠ some w →
    ∃ d', f c' = .ok (v, d') ∧ Aligned w x a m d d'

section Words

variable (hf : Fillable w x)
include hf

theorem isWordChar_hole : isWordChar w = false := by
  refine hf.not_in_class fun ch hch => ?_
  simp only [isWordChar, Bool.or_eq_true, beq_iff_eq] at hch
  rcases hch with (halphanum | rfl) | rfl
  · exact toNat_lt_of_isAlphanum ch halphanum
  · decide
  · decide

theorem isDigit_hole : w.isDigit = false :=
  hf.not_in_class fun ch hch => toNat_lt_of_isAlphanum ch (by simp [Char.isAlphanum, hch])

theorem isUriChar_hole : isUriChar w = false := by
  refine hf.not_in_class fun ch hch => ?_
  simp only [isUriChar, Bool.or_eq_true, decide_eq_true_eq] at hch
  rcases hch with halphanum | hmem
  · exact toNat_lt_of_isAlphanum ch halphanum
  · revert ch
    decide

theorem stops_takeWhile {α : Type} {p : Char → Bool} (hp : p w = false) (make : List Char → α) : Stops w x a m fun c =>
    if (c.takeWhile p).1 = [] then malformed else .ok (make (c.takeWhile p).1, (c.takeWhile p).2) := by
  intro c c' v d h hd hhole
  dsimp only at hd ⊢
  split at hd
  · cases hd
  · next hne =>
    cases hd
    obtain ⟨heq, halign⟩ := h.takeWhile_of_stop hf hp fun hstop => absurd hstop hhole
    rw [heq, if_neg hne]
    exact ⟨_, rfl, halign⟩

theorem stops_name : Stops w x a m name := stops_takeWhile hf (isWordChar_hole hf) String.ofList

theorem stops_digits : Stops w x a m digits :=
  stops_takeWhile hf (isDigit_hole hf) fun cs => (String.ofList cs).toNat?.getD 0

omit hf in
theorem not_hole_of_peek {e : Char} (he : w ≠ e) (h : c.peek 0 = some e) : c.rest.head? ≠ some w := by
  rw [← peek_zero, h]
  simpa using he.symm

theorem stops_tagHandle : Stops w x a m tagHandle := by
  have hbang : w ≠ '!' := hf.ne '!' (by decide)
  intro c c' v d h hd hhole
  rw [tagHandle] at hd ⊢
  split at hd
  · cases hd
  · next hpeek =>
    rw [Decidable.not_not] at hpeek
    obtain ⟨r, hr⟩ := exists_of_peek hpeek
    have hnext := h.next hr hbang.symm
    have hspace := hnext.peek_beq hf (hf.ne ' ' (by decide)).symm fun e he => he.not_space
    rw [Bool.eq_iff_iff, beq_iff_eq, beq_iff_eq] at hspace
    rw [if_neg (by rwa [h.peek_of_not_hole hf (not_hole_of_peek hbang hpeek), Decidable.not_not])]
    dsimp only at hd ⊢
    split at hd
    · next heq =>
      cases hd
      rw [if_pos (hspace.2 heq)]
      exact ⟨_, rfl, hnext⟩
    · next hne =>
      rw [if_neg (mt hspace.1 hne)]
      split at hd
      · next hend =>
        cases hd
        have hhole' := not_hole_of_peek hbang hend
        obtain ⟨heq, halign⟩ := hnext.takeWhile_of_stop hf (isWordChar_hole hf) fun hstop => absurd hstop hhole'
        obtain ⟨r', hr'⟩ := exists_of_peek hend
        rw [heq, if_pos (by rw [halign.peek_of_not_hole hf hhole', hend])]
        exact ⟨_, rfl, halign.next hr' hbang.symm⟩
      · cases hd

theorem stays_uriEscapes {bytes : List UInt8} (hhole : c.rest.head? = some w) (h : uriEscapes fuel c = .ok (bytes, d)) :
    d.rest.head? = some w := by
  cases fuel with
  | zero => cases h
  | succ fuel =>
      rw [uriEscapes, peek_zero, hhole, if_neg (by simpa using hf.ne '%' (by decide))] at h
      cases h
      exact hhole

theorem uriEscapes_fill {bytes : List UInt8} (h : Aligned w x a m c c') (hle : fuel ≤ fuel')
    (hd : uriEscapes fuel c = .ok (bytes, d)) (hhole : d.rest.head? ≠ some w) :
    ∃ d', uriEscapes fuel' c' = .ok (bytes, d') ∧ Aligned w x a m d d' := by
  induction fuel generalizing c c' fuel' bytes with
  | zero => cases hd
  | succ fuel ih =>
      obtain ⟨fuel', rfl⟩ : ∃ n, fuel' = n + 1 := ⟨fuel' - 1, by omega⟩
      have hc : c.rest.head? ≠ some w := fun hc => hhole (stays_uriEscapes hf hc hd)
      rw [uriEscapes] at hd ⊢
      rw [h.peek_of_not_hole hf hc]
      split at hd
      · next hpercent =>
        obtain ⟨r, hr⟩ := exists_of_peek hpercent
        have hnext := h.next hr (hf.ne '%' (by decide)).symm
        dsimp only at hd ⊢
        split at hd
        · next hhex =>
          obtain ⟨htake, hdigits⟩ := digits_fill hf hnext hhex
          have hforward : Aligned w x a m (c.forward 3) (c'.forward 3) := hdigits
          obtain ⟨⟨more, e⟩, hmore, heq⟩ := bind_eq_ok_iff.1 hd
          cases heq
          obtain ⟨d', hd', halign⟩ := ih hforward (Nat.le_of_succ_le_succ hle) hmore
          rw [if_pos hpercent, htake, if_pos hhex, hd']
          exact ⟨d', rfl, halign⟩
        · cases hd
      · next hno =>
        cases hd
        rw [if_neg hno]
        exact ⟨c', rfl, h⟩

theorem stays_uriChars {cs : List Char} (hhole : c.rest.head? = some w) (h : uriChars fuel c = .ok (cs, d)) :
    cs = [] ∧ d.rest.head? = some w := by
  obtain ⟨r, hr⟩ := List.head?_eq_some_iff.1 hhole
  cases fuel with
  | zero => cases h
  | succ fuel =>
      have hstay : c.takeWhile isUriChar = ([], c) := by
        rw [takeWhile, hr, List.takeWhile_cons_of_neg (by simp [isUriChar_hole hf])]
        rfl
      rw [uriChars, hstay] at h
      dsimp only at h
      rw [peek_zero, hhole, if_neg (by simpa using hf.ne '%' (by decide))] at h
      cases h
      exact ⟨rfl, hhole⟩

theorem uriChars_fill {cs : List Char} (h : Aligned w x a m c c') (hle : fuel ≤ fuel')
    (hd : uriChars fuel c = .ok (cs, d)) (hhole : d.rest.head? ≠ some w) :
    ∃ d', uriChars fuel' c' = .ok (cs, d') ∧ Aligned w x a m d d' := by
  induction fuel generalizing c c' fuel' cs with
  | zero => cases hd
  | succ fuel ih =>
      obtain ⟨fuel', rfl⟩ : ∃ n, fuel' = n + 1 := ⟨fuel' - 1, by omega⟩
      rw [uriChars] at hd ⊢
      dsimp only at hd ⊢
      split at hd
      · next hpercent =>
        have hafter := not_hole_of_peek (hf.ne '%' (by decide)) hpercent
        obtain ⟨heq, halign⟩ := h.takeWhile_of_stop hf (isUriChar_hole hf) fun hstop => absurd hstop hafter
        obtain ⟨⟨bytes, e⟩, hbytes, hd⟩ := bind_eq_ok_iff.1 hd
        dsimp only at hd
        split at hd
        · next decoded hdecoded =>
          obtain ⟨⟨more, e'⟩, hmore, heq'⟩ := bind_eq_ok_iff.1 hd
          cases heq'
          have hstop : e.rest.head? ≠ some w := fun hstop => hhole (stays_uriChars hf hstop hmore).2
          obtain ⟨e', he', halign'⟩ := uriEscapes_fill hf halign (halign.fuel_le hf) hbytes hstop
          obtain ⟨d', hd', hend⟩ := ih halign' (Nat.le_of_succ_le_succ hle) hmore
          rw [halign.peek_of_not_hole hf hafter, if_pos hpercent, he', heq]
          refine ⟨d', ?_, hend⟩
          refine bind_eq_ok_iff.2 ⟨_, rfl, ?_⟩
          dsimp only
          rw [hdecoded, hd']
          rfl
        · cases hd
      · next hno =>
        cases hd
        obtain ⟨heq, halign⟩ := h.takeWhile_of_stop hf (isUriChar_hole hf) fun hstop => absurd hstop hhole
        rw [halign.peek_of_not_hole hf hhole, if_neg hno, heq]
        exact ⟨_, rfl, halign⟩

theorem stops_uri : Stops w x a m uri := by
  intro c c' v d h hd hhole
  rw [uri] at hd ⊢
  obtain ⟨⟨cs, e⟩, hcs, hd⟩ := bind_eq_ok_iff.1 hd
  dsimp only at hd
  split at hd
  · cases hd
  · next hne =>
    cases hd
    obtain ⟨d', hd', halign⟩ := uriChars_fill hf h (h.fuel_le hf) hcs hhole
    rw [hd']
    exact ⟨d', if_neg hne, halign⟩

theorem uri_hole (hhole : c.rest.head? = some w) (s : String × Cursor) : uri c ≠ .ok s := by
  intro h
  obtain ⟨⟨cs, d⟩, hcs, h⟩ := bind_eq_ok_iff.1 h
  dsimp only at h
  rw [if_pos (stays_uriChars hf hhole hcs).1] at h
  cases h

end Words

def Same {α : Type} (w : Char) (x a : List Char) (m : Nat) (p q : α × Cursor) :
    Prop := q.1 = p.1 ∧ Aligned w x a m p.2 q.2

/-- What comes after a reader that takes no placeholder follows, if it refuses a placeholder. -/
theorem Stops.bind {α β γ : Type} {f : Cursor → Scan (α × Cursor)} (hs : Stops w x a m f) (h : Aligned w x a m c c')
    {g : α × Cursor → Scan β} {k : α × Cursor → Scan γ} {R : β → γ → Prop}
    (hrefuse : ∀ v d b, d.rest.head? = some w → g (v, d) ≠ .ok b)
    (hfollows : ∀ v d d', Aligned w x a m d d' → d.rest.head? ≠ some w → Follows R (g (v, d)) (k (v, d'))) :
    Follows R (f c >>= g) (f c' >>= k) := by
  cases hf : f c with
  | error e => trivial
  | ok p =>
      obtain ⟨v, d⟩ := p
      by_cases hhole : d.rest.head? = some w
      · change Follows R (g (v, d)) _
        cases hg : g (v, d) with
        | error e => trivial
        | ok b => exact absurd hg (hrefuse v d b hhole)
      · obtain ⟨d', hd', halign⟩ := hs h hf hhole
        rw [hd']
        exact hfollows v d d' halign hhole

section Directives

variable (hf : Fillable w x)
include hf

theorem follows_ends {α : Type} (v : α) (h : Aligned w x a m c c') :
    Follows (Same w x a m) (if endsLineOrSpace (c.peek 0) then pure (v, c) else malformed)
      (if endsLineOrSpace (c'.peek 0) then pure (v, c') else malformed) := by
  have hends : endsLineOrSpace (c'.peek 0) = endsLineOrSpace (c.peek 0) := by
    rw [peek_zero, peek_zero, h.rest, hf.endsLineOrSpace_head]
  rw [hends]
  split
  · exact follows_ok ⟨rfl, h⟩
  · trivial

omit hf in
theorem malformed_ne_ok {α : Type} (b : α) : (malformed : Except Error α) ≠ .ok b := by
  intro h
  cases h

theorem ends_hole {α : Type} (v : α) (b : α × Cursor) (hhole : c.rest.head? = some w) :
    (if endsLineOrSpace (c.peek 0) then pure (v, c) else malformed) ≠ Except.ok b := by
  rw [endsLineOrSpace_hole hf hhole]
  exact malformed_ne_ok b

theorem follows_version (h : Aligned w x a m c c') : Follows (Same w x a m) (version c) (version c') := by
  have hdot : w ≠ '.' := hf.ne '.' (by decide)
  rw [version, version]
  refine (stops_digits hf).bind (h.skipSpaces hf) (fun major d b hhole => ?_) fun major d d' hd hhole => ?_
  · dsimp only
    rw [peek_zero, hhole, if_pos (by simpa using hdot)]
    exact malformed_ne_ok b
  · dsimp only
    rw [hd.peek_of_not_hole hf hhole]
    split
    · trivial
    · next hpeek =>
      obtain ⟨r, hr⟩ := exists_of_peek (Decidable.not_not.1 hpeek)
      exact (stops_digits hf).bind (hd.next hr hdot.symm) (fun _ e b he => ends_hole hf _ b he)
        fun _ e e' he _ => follows_ends hf _ he

theorem follows_tagDirective (h : Aligned w x a m c c') :
    Follows (Same w x a m) (tagDirective c) (tagDirective c') := by
  rw [tagDirective, tagDirective]
  refine (stops_tagHandle hf).bind (h.skipSpaces hf) (fun handle d b hhole => ?_) fun handle d d' hd hhole => ?_
  · dsimp only
    rw [peek_zero, hhole, if_pos (by simpa using hf.ne ' ' (by decide))]
    exact malformed_ne_ok b
  · dsimp only
    rw [hd.peek_of_not_hole hf hhole]
    split
    · trivial
    · exact (stops_uri hf).bind (hd.skipSpaces hf) (fun _ e b he => ends_hole hf _ b he)
        fun _ e e' he _ => follows_ends hf _ he

theorem follows_directiveEnd (h : Aligned w x a m c c') (v : Directive) :
    Follows (fun p q => q.1 = p.1 ∧ SameColumn w x a m p.2 q.2)
      (match c.finishLine? with
      | some d => pure (v, d)
      | none => malformed)
      (match c'.finishLine? with
      | some d => pure (v, d)
      | none => malformed) :=
  follows_finishLine hf h fun _ _ hd => ⟨rfl, hd⟩

theorem follows_directive (h : Aligned w x a m c c') (hc : c.rest = ch :: r) (hw : ch ≠ w) :
    Follows (fun p q => q.1 = p.1 ∧ SameColumn w x a m p.2 q.2) (directive c) (directive c') := by
  rw [directive, directive]
  refine (stops_name hf).bind (h.next hc hw) (fun word d b hhole => ?_) fun word d d' hd hhole => ?_
  · dsimp only
    rw [endsLineOrSpace_hole hf hhole]
    exact malformed_ne_ok b
  · dsimp only
    rw [hd.peek_of_not_hole hf hhole]
    split
    · trivial
    · split
      · refine (follows_version hf hd).bind ?_
        rintro p q ⟨heq, hpq⟩
        rw [show q = (p.1, q.2) from Prod.ext heq rfl]
        exact follows_directiveEnd hf hpq _
      · refine (follows_tagDirective hf hd).bind ?_
        rintro p q ⟨heq, hpq⟩
        rw [show q = (p.1, q.2) from Prod.ext heq rfl]
        exact follows_directiveEnd hf hpq _
      · have hcomment := (hd.takeWhile hf (p := fun ch => !isBreak ch) (by simp [hf.not_isBreak])
          fun e he => by simpa using (hf.inline e he).1).2
        exact follows_directiveEnd hf hcomment _

end Directives

section Properties

variable (hf : Fillable w x)
include hf

theorem follows_anchorName (h : Aligned w x a m c c') (hc : c.rest = ch :: r) (hw : ch ≠ w) :
    Follows (Same w x a m) (anchorName c) (anchorName c') := by
  rw [anchorName, anchorName]
  refine (stops_name hf).bind (h.next hc hw) (fun n d b hhole => ?_) fun n d d' hd hhole => ?_
  · dsimp only
    rw [peek_zero, hhole]
    have hends : endsWord (some w) = false := by
      have hblank := hf.beq_blank
      simpa [endsWord, hf.not_isBreak] using hblank
    simp [hends, hf.ne, malformed]
  · dsimp only
    rw [hd.peek_of_not_hole hf hhole]
    split
    · exact follows_ok ⟨rfl, hd⟩
    · trivial

def Spans (c d : Cursor) : Prop := ∃ u, c.rest = u ++ d.rest ∧ ∀ e ∈ u, isUriChar e ∨ e = '%'

omit hf in
theorem Spans.trans {e : Cursor} (h : Spans c d) (h' : Spans d e) : Spans c e := by
  obtain ⟨u, hu, hall⟩ := h
  obtain ⟨v, hv, hall'⟩ := h'
  refine ⟨u ++ v, by rw [hu, hv, List.append_assoc], fun e he => ?_⟩
  exact (List.mem_append.1 he).elim (hall e) (hall' e)

omit hf in
theorem spans_takeWhile {p : Char → Bool} (hp : ∀ e, p e → isUriChar e) (c : Cursor) : Spans c (c.takeWhile p).2 := by
  refine ⟨c.rest.takeWhile p, ?_, fun e he => .inl (hp e ?_)⟩
  · rw [rest_takeWhile, List.takeWhile_append_dropWhile]
  · exact List.all_eq_true.1 List.all_takeWhile e he

omit hf in
theorem spans_next (hc : c.rest = ch :: r) (hch : isUriChar ch) : Spans c c.next :=
  ⟨[ch], by rw [rest_next_of hc, hc]; rfl, by simpa using .inl hch⟩

omit hf in
theorem isUriChar_of_isWordChar (ch : Char) (h : isWordChar ch) : isUriChar ch := by
  simp only [isWordChar, Bool.or_eq_true, beq_iff_eq] at h
  rcases h with (halphanum | rfl) | rfl
  · simp [isUriChar, halphanum]
  · decide
  · decide

omit hf in
theorem isUriChar_of_isHex (ch : Char) (h : isHex ch) : isUriChar ch := by
  have halphanum : ch.isAlphanum := by
    delta Char.isAlphanum Char.isAlpha Char.isUpper Char.isLower
    simp only [isHex, Char.isDigit, Bool.or_eq_true, Bool.and_eq_true, decide_eq_true_eq, ge_iff_le, Char.le_def,
      UInt32.le_iff_toNat_le] at h ⊢
    simp at h ⊢
    omega
  simp [isUriChar, halphanum]

omit hf in
theorem spans_uriEscapes {bytes : List UInt8} (h : uriEscapes fuel c = .ok (bytes, d)) : Spans c d := by
  induction fuel generalizing c bytes with
  | zero => cases h
  | succ fuel ih =>
      rw [uriEscapes] at h
      split at h
      · next hpercent =>
        obtain ⟨r, hr⟩ := exists_of_peek hpercent
        dsimp only at h
        rw [rest_next_of hr] at h
        split at h
        · next hhex =>
          obtain ⟨⟨more, e⟩, hmore, heq⟩ := bind_eq_ok_iff.1 h
          cases heq
          refine Spans.trans ⟨'%' :: r.take 2, ?_, fun e he => ?_⟩ (ih hmore)
          · rw [rest_forward, hr, List.drop_succ_cons, List.cons_append, List.take_append_drop]
          · rcases List.mem_cons.1 he with rfl | hmem
            · exact .inr rfl
            · exact .inl (isUriChar_of_isHex e (List.all_eq_true.1 hhex.2 e hmem))
        · cases h
      · cases h
        exact ⟨[], rfl, by simp⟩

omit hf in
theorem spans_uriChars {cs : List Char} (h : uriChars fuel c = .ok (cs, d)) : Spans c d := by
  induction fuel generalizing c cs with
  | zero => cases h
  | succ fuel ih =>
      have htake := spans_takeWhile (fun _ => id) c (p := isUriChar)
      rw [uriChars] at h
      dsimp only at h
      split at h
      · obtain ⟨⟨bytes, e⟩, hbytes, h⟩ := bind_eq_ok_iff.1 h
        dsimp only at h
        split at h
        · obtain ⟨⟨more, e'⟩, hmore, heq⟩ := bind_eq_ok_iff.1 h
          cases heq
          exact (htake.trans (spans_uriEscapes hbytes)).trans (ih hmore)
        · cases h
      · cases h
        exact htake

omit hf in
theorem spans_uri {s : String} (h : uri c = .ok (s, d)) : Spans c d := by
  obtain ⟨⟨cs, e⟩, hcs, h⟩ := bind_eq_ok_iff.1 h
  dsimp only at h
  split at h
  · cases h
  · cases h
    exact spans_uriChars hcs

omit hf in
theorem spans_tagHandle {s : String} (h : tagHandle c = .ok (s, d)) : Spans c.next d := by
  rw [tagHandle] at h
  split at h
  · cases h
  · dsimp only at h
    split at h
    · cases h
      exact ⟨[], rfl, by simp⟩
    · split at h
      · next hend =>
        cases h
        obtain ⟨r', hr'⟩ := exists_of_peek hend
        exact (spans_takeWhile isUriChar_of_isWordChar _).trans (spans_next hr' (by decide))
      · cases h

omit hf in
theorem eq_of_spans (hspans : Spans c d) (hend : endsLineOrSpace (d.peek 0) = true) :
    ∃ u, c.rest = u ++ d.rest ∧ (∀ e ∈ u, isUriChar e ∨ e = '%') ∧
      c.rest.takeWhile (fun ch => !(ch == ' ' || isBreak ch)) = u := by
  obtain ⟨u, hu, hall⟩ := hspans
  refine ⟨u, hu, hall, ?_⟩
  have hword : ∀ e ∈ u, (!(e == ' ' || isBreak e)) = true := by
    intro e he
    have hne {b : Char} (hb : isUriChar b = false ∧ b ≠ '%') : e ≠ b := by
      rintro rfl
      exact (hall e he).elim (fun h => by simp [hb.1] at h) hb.2
    have hspace : e ≠ ' ' := hne (by decide)
    simp [isBreak, hspace, hne (b := '\n') (by decide), hne (b := '\r') (by decide), hne (b := '\x85') (by decide),
      hne (b := '\u2028') (by decide), hne (b := '\u2029') (by decide)]
  rw [hu, List.takeWhile_append_of_pos hword]
  cases hd : d.rest with
  | nil => simp
  | cons e r =>
      rw [peek_zero, hd] at hend
      have hstop : ¬(!(e == ' ' || isBreak e)) = true := by rw [show (e == ' ' || isBreak e) = true from hend]; decide
      rw [List.takeWhile_cons_of_neg (p := fun ch => !(ch == ' ' || isBreak ch)) hstop, List.append_nil]

/-- A tag that is read has the handle in the filled text that it has without the filling. -/
theorem hasHandle_fill (h : Aligned w x a m c c') (hspans : Spans c.next d)
    (hend : endsLineOrSpace (d.peek 0) = true) (hc : c.rest = '!' :: r) : hasHandle c' = hasHandle c := by
  obtain ⟨u, hu, hall, htake⟩ := eq_of_spans hspans hend
  have hmem : w ∉ u := fun hw => (hall w hw).elim (fun huri => by simp [isUriChar_hole hf] at huri)
    (hf.ne '%' (by decide))
  have hfill : c'.next.rest = u ++ fill w x d.rest := by
    rw [(h.next hc (hf.ne '!' (by decide)).symm).rest, hu, fill_append, fill_of_not_mem x hmem]
  have hend' : endsLineOrSpace (fill w x d.rest).head? = true := by rwa [hf.endsLineOrSpace_head, ← peek_zero]
  obtain ⟨u', hu', -, htake'⟩ := eq_of_spans (c := c'.next) (d := ⟨fill w x d.rest, 0, 0, 0⟩) ⟨u, hfill, hall⟩
    (by rwa [peek_zero])
  rw [hasHandle, hasHandle, htake, htake', List.append_cancel_right (hu'.symm.trans hfill)]

omit hf in
theorem eq_of_ends {α : Type} {v v' : α} {e : Cursor}
    (h : (if endsLineOrSpace (e.peek 0) then pure (v, e) else malformed : Scan (α × Cursor)) = .ok (v', d)) :
    e = d ∧ endsLineOrSpace (d.peek 0) = true := by
  split at h
  · next hend =>
    cases h
    exact ⟨rfl, hend⟩
  · cases h

omit hf in
theorem tag_of_not_angle (hc : c.rest = '!' :: r) (hangle : r.head? ≠ some '<') : tag c =
    if endsWord r.head? then
      if endsLineOrSpace (c.next.peek 0) then pure (.tag none "!", c.next) else malformed
    else if hasHandle c then
      tagHandle c >>= fun p => uri p.2 >>= fun q =>
        if endsLineOrSpace (q.2.peek 0) then pure (.tag (some p.1) q.1, q.2) else malformed
    else
      uri c.next >>= fun p =>
        if endsLineOrSpace (p.2.peek 0) then pure (.tag (some "!") p.1, p.2) else malformed := by
  rw [tag, peek_one hc]
  split
  · next hhead => exact absurd hhead hangle
  · rfl

omit hf in
theorem spans_of_tag {t : Token} (hc : c.rest = '!' :: r) (hangle : r.head? ≠ some '<')
    (hword : endsWord r.head? = false) (h : tag c = .ok (t, d)) :
    Spans c.next d ∧ endsLineOrSpace (d.peek 0) = true := by
  rw [tag_of_not_angle hc hangle, hword] at h
  simp only [Bool.false_eq_true, if_false] at h
  split at h
  · obtain ⟨⟨name, e⟩, hname, h⟩ := bind_eq_ok_iff.1 h
    obtain ⟨⟨suffix, e'⟩, hsuffix, h⟩ := bind_eq_ok_iff.1 h
    obtain ⟨rfl, hend⟩ := eq_of_ends h
    exact ⟨(spans_tagHandle hname).trans (spans_uri hsuffix), hend⟩
  · obtain ⟨⟨suffix, e⟩, hsuffix, h⟩ := bind_eq_ok_iff.1 h
    obtain ⟨rfl, hend⟩ := eq_of_ends h
    exact ⟨spans_uri hsuffix, hend⟩

def SameToken (w : Char) (x a : List Char) (m : Nat) (p q : Token × Cursor) : Prop :=
  q.1 = p.1.fill w x ∧ Aligned w x a m p.2 q.2

theorem follows_tagEnd (name : Option String) (suffix : String) (h : Aligned w x a m c c') :
    Follows (SameToken w x a m) (if endsLineOrSpace (c.peek 0) then pure (.tag name suffix, c) else malformed)
      (if endsLineOrSpace (c'.peek 0) then pure (.tag name suffix, c') else malformed) := by
  have hends : endsLineOrSpace (c'.peek 0) = endsLineOrSpace (c.peek 0) := by
    rw [peek_zero, peek_zero, h.rest, hf.endsLineOrSpace_head]
  rw [hends]
  split
  · exact follows_ok ⟨rfl, h⟩
  · trivial

theorem follows_tag_angle (h : Aligned w x a m c c') (hc : c.rest = '!' :: '<' :: r) :
    Follows (SameToken w x a m) (tag c) (tag c') := by
  have hbang : w ≠ '!' := hf.ne '!' (by decide)
  have hmark : w ≠ '<' := hf.ne '<' (by decide)
  have hc' : c'.rest = '!' :: '<' :: fill w x r := by rw [h.rest, hc, fill_cons x hbang.symm, fill_cons x hmark.symm]
  rw [tag, tag, peek_one hc, peek_one hc']
  refine (stops_uri hf).bind ((h.next hc hbang.symm).next (rest_next_of hc) hmark.symm) (fun suffix d b hhole => ?_)
    fun suffix d d' hd hhole => ?_
  · dsimp only
    rw [peek_zero, hhole, if_neg (by simpa using hf.ne '>' (by decide))]
    exact malformed_ne_ok b
  · dsimp only
    rw [hd.peek_of_not_hole hf hhole]
    split
    · next hend =>
      obtain ⟨r', hr'⟩ := exists_of_peek hend
      exact follows_tagEnd hf _ _ (hd.next hr' (hf.ne '>' (by decide)).symm)
    · trivial

theorem follows_tag (h : Aligned w x a m c c') (hc : c.rest = '!' :: r) :
    Follows (SameToken w x a m) (tag c) (tag c') := by
  have hbang : w ≠ '!' := hf.ne '!' (by decide)
  have hnext := h.next hc hbang.symm
  have hc' : c'.rest = '!' :: fill w x r := by rw [h.rest, hc, fill_cons x hbang.symm]
  by_cases hangle : r.head? = some '<'
  · obtain ⟨r, rfl⟩ := List.head?_eq_some_iff.1 hangle
    exact follows_tag_angle hf h hc
  cases htag : tag c with
  | error e => trivial
  | ok p =>
      obtain ⟨t, d⟩ := p
      rw [← htag]
      by_cases hhole : r.head? = some w
      · -- nothing can be read of a placeholder here
        have hhole' : c.next.rest.head? = some w := by rw [rest_next_of hc, hhole]
        have hends : endsWord r.head? = false := by
          have hblank := hf.beq_blank
          rw [hhole]
          simpa [endsWord, hf.not_isBreak] using hblank
        obtain ⟨⟨u, hu, hall⟩, hend⟩ := spans_of_tag hc hangle hends htag
        cases u with
        | nil =>
            rw [peek_zero, ← show c.next.rest = d.rest from hu, hhole'] at hend
            simp [endsLineOrSpace, hf.not_isBreak, hf.ne] at hend
        | cons e u =>
            rw [hu] at hhole'
            obtain rfl : e = w := Option.some.inj hhole'
            exact ((hall e List.mem_cons_self).elim (fun huri => by simp [isUriChar_hole hf] at huri)
              (hf.ne '%' (by decide))).elim
      · have hhead : (fill w x r).head? = r.head? :=
          (hf.head_fill_cases r).resolve_right fun hcases => hhole hcases.1
        rw [tag_of_not_angle hc hangle, tag_of_not_angle hc' (by rwa [hhead]), hhead]
        cases hends : endsWord r.head? with
        | true => exact follows_tagEnd hf _ _ hnext
        | false =>
            obtain ⟨hspans, hend⟩ := spans_of_tag hc hangle hends htag
            rw [hasHandle_fill hf h hspans hend hc]
            simp only [Bool.false_eq_true, if_false]
            split
            · refine (stops_tagHandle hf).bind h (fun name e b he hb => ?_) fun name e e' he _ => ?_
              · obtain ⟨q, hq, -⟩ := bind_eq_ok_iff.1 hb
                exact uri_hole hf he q hq
              · exact (stops_uri hf).bind he (fun _ d b hd => ends_hole hf _ b hd) fun _ d d' hd _ =>
                  follows_tagEnd hf _ _ hd
            · exact (stops_uri hf).bind hnext (fun _ d b hd => ends_hole hf _ b hd) fun _ d d' hd _ =>
                follows_tagEnd hf _ _ hd

end Properties

end Scanner

end Workcell.Yaml
