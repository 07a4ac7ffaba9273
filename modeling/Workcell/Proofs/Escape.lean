import Workcell.Proofs.Markup

namespace Workcell.Display

variable {body cs s t r : List Char} {n : Nat}

theorem exists_of_tagBody (h : tagBody? cs = some body) : ∃ r, cs = body ++ ']' :: r ∧ IsTagBody body := by
  cases cs with
  | nil => cases h
  | cons c r =>
      rw [tagBody?] at h
      cases hstart : startsTag c with
      | false => simp [hstart] at h
      | true =>
          rw [hstart, if_pos rfl] at h
          have hsplit := List.takeWhile_append_dropWhile (p := fun d => d ≠ ']' && d ≠ '[') (l := r)
          have hinner : ∀ d ∈ r.takeWhile fun d => d ≠ ']' && d ≠ '[', d ≠ ']' ∧ d ≠ '[' := by
            intro d hd
            simpa using List.mem_takeWhile_imp hd
          cases hrest : r.dropWhile fun d => d ≠ ']' && d ≠ '[' with
          | nil =>
              rw [hrest] at h
              cases h
          | cons d rest =>
              rw [hrest] at h hsplit
              by_cases hd : d = ']'
              · subst hd
                obtain rfl := Option.some.inj h
                refine ⟨rest, by rw [List.cons_append, hsplit], hstart, ?_, ?_⟩
                · exact fun hmem => (hinner _ hmem).1 rfl
                · exact fun hmem => (hinner _ hmem).2 rfl
              · simp [hd] at h

theorem exists_of_tagAhead (h : tagAhead? cs = some (n, body)) :
    ∃ r, cs = List.replicate n '\\' ++ '[' :: (body ++ ']' :: r) ∧ IsTagBody body := by
  have hsplit := List.takeWhile_append_dropWhile (p := (· = '\\')) (l := cs)
  have hcount : cs.takeWhile (· = '\\') = List.replicate (cs.takeWhile (· = '\\')).length '\\' := by
    apply List.eq_replicate_of_mem
    intro d hd
    simpa using List.mem_takeWhile_imp hd
  rw [tagAhead?] at h
  split at h
  · rename_i q hq
    obtain ⟨inner, hinner, heq⟩ := Option.map_eq_some_iff.1 h
    obtain ⟨rfl, rfl⟩ := Prod.mk.inj heq
    obtain ⟨r, rfl, hbody⟩ := exists_of_tagBody hinner
    refine ⟨r, ?_, hbody⟩
    rw [← hcount, ← hq, hsplit]
  · cases h

/-- Texts taken character by character, but each tag, with the backslashes before it, as a whole. -/
@[elab_as_elim]
theorem tagInduction {P : List Char → Prop} (nil : P [])
    (cons : ∀ c r, tagAhead? (c :: r) = none → P r → P (c :: r))
    (tag : ∀ n body r, IsTagBody body → P r → P (List.replicate n '\\' ++ '[' :: (body ++ ']' :: r)))
    (cs : List Char) : P cs := by
  induction hlength : cs.length using Nat.strongRecOn generalizing cs with
  | ind length ih =>
      cases cs with
      | nil => exact nil
      | cons c r =>
          cases hahead : tagAhead? (c :: r) with
          | none => exact cons c r hahead (ih r.length (by simp [← hlength]) r rfl)
          | some found =>
              obtain ⟨r', hcs, hbody⟩ := exists_of_tagAhead hahead
              rw [hcs] at hlength ⊢
              refine tag _ _ _ hbody (ih r'.length ?_ r' rfl)
              simp only [List.length_append, List.length_cons] at hlength
              omega

theorem escapeTags_skip (skip : Nat) (cs : List Char) :
    escapeTags skip cs = cs.take skip ++ escapeTags 0 (cs.drop skip) := by
  induction cs generalizing skip with
  | nil => simp [escapeTags]
  | cons c r ih =>
      cases skip with
      | zero => rfl
      | succ skip => rw [escapeTags, ih, List.take_succ_cons, List.drop_succ_cons, List.cons_append]

theorem escapeTags_cons {c : Char} (h : tagAhead? (c :: r) = none) :
    escapeTags 0 (c :: r) = c :: escapeTags 0 r := by
  rw [escapeTags, h]

theorem escapeTags_tag (hbody : IsTagBody body) (n : Nat) (r : List Char) :
    escapeTags 0 (List.replicate n '\\' ++ '[' :: (body ++ ']' :: r)) =
      List.replicate (2 * n + 1) '\\' ++ '[' :: (body ++ ']' :: escapeTags 0 r) := by
  have htag := tagAhead_of_tag hbody n r
  have hwhole : List.replicate n '\\' ++ '[' :: (body ++ ']' :: r) =
      (List.replicate n '\\' ++ '[' :: (body ++ [']'])) ++ r := by simp
  have hlength : (List.replicate n '\\' ++ '[' :: (body ++ [']'])).length = n + body.length + 1 + 1 := by
    simp only [List.length_append, List.length_replicate, List.length_cons, List.length_nil]
    omega
  cases hcs : List.replicate n '\\' ++ '[' :: (body ++ ']' :: r) with
  | nil => simp at hcs
  | cons c tail =>
      have hsplit : c :: tail.take (n + body.length + 1) ++ escapeTags 0 (tail.drop (n + body.length + 1)) =
          (List.replicate n '\\' ++ '[' :: (body ++ [']'])) ++ escapeTags 0 r := by
        rw [← List.take_succ_cons, ← List.drop_succ_cons (a := c), ← hcs, hwhole,
          List.take_left' hlength, List.drop_left' hlength]
      have hcount : List.replicate (2 * n + 1) '\\' = List.replicate (n + 1) '\\' ++ List.replicate n '\\' := by
        rw [List.replicate_append_replicate]
        congr 1
        omega
      rw [hcs] at htag
      rw [escapeTags, htag]
      dsimp only
      rw [escapeTags_skip, ← List.cons_append, hsplit, hcount]
      simp only [List.append_assoc, List.cons_append, List.nil_append]

def escaped (k : Nat) (cs : List Char) : List Char := escapeTags 0 cs ++ List.replicate k '\\'

variable {k : Nat}

theorem escaped_cons {c : Char} (h : tagAhead? (c :: r) = none) : escaped k (c :: r) = c :: escaped k r := by
  rw [escaped, escapeTags_cons h, List.cons_append, escaped]

theorem escaped_tag (hbody : IsTagBody body) (n : Nat) (r : List Char) :
    escaped k (List.replicate n '\\' ++ '[' :: (body ++ ']' :: r)) =
      List.replicate (2 * n + 1) '\\' ++ '[' :: (body ++ ']' :: escaped k r) := by
  simp [escaped, escapeTags_tag hbody]

theorem tagAhead_eq_none_iff :
    tagAhead? cs = none ↔ ∀ q, cs.dropWhile (· = '\\') = '[' :: q → tagBody? q = none := by
  rw [tagAhead?]
  split
  · rename_i q hq
    rw [hq, Option.map_eq_none_iff]
    constructor
    · rintro h q' heq
      obtain rfl : q = q' := (List.cons.inj heq).2
      exact h
    · intro h
      exact h q rfl
  · rename_i hq
    exact iff_of_true rfl fun q heq => absurd heq (hq q)

theorem dropWhile_escaped (h : tagAhead? cs = none) :
    (escaped k cs).dropWhile (· = '\\') = match cs.dropWhile (· = '\\') with
      | [] => []
      | c :: r => c :: escaped k r := by
  induction cs using tagInduction with
  | nil => simp [escaped, escapeTags]
  | cons c r hahead ih =>
      rw [escaped_cons hahead]
      by_cases hc : c = '\\'
      · subst hc
        have hrest : tagAhead? r = none := by
          rw [tagAhead_eq_none_iff] at hahead ⊢
          simpa using hahead
        simpa using ih hrest
      · simp [hc]
  | tag n body r hbody =>
      rw [tagAhead_of_tag hbody] at h
      cases h

theorem dropWhile_replicate_backslash (p : Char → Bool) (k : Nat) :
    (List.replicate k '\\').dropWhile p = if p '\\' then [] else List.replicate k '\\' := by
  cases hp : p '\\' with
  | true => simp [hp]
  | false => cases k <;> simp [hp]

theorem head_dropWhile_escaped :
    ((escaped k cs).dropWhile fun d => d ≠ ']' && d ≠ '[').head? = some ']' →
      (cs.dropWhile fun d => d ≠ ']' && d ≠ '[').head? = some ']' := by
  induction cs using tagInduction with
  | nil =>
      intro h
      rw [escaped, escapeTags, List.nil_append, dropWhile_replicate_backslash] at h
      simp at h
  | cons c r hahead ih =>
      rw [escaped_cons hahead]
      by_cases hclose : c = ']'
      · simp [hclose]
      · by_cases hopen : c = '['
        · simp [hopen]
        · simpa [hclose, hopen] using ih
  | tag n body r hbody =>
      intro h
      rw [escaped_tag hbody, List.dropWhile_append_of_pos (by simp)] at h
      simp at h

theorem tagBody_cons_eq_none_iff {c : Char} : tagBody? (c :: r) = none ↔
    (startsTag c → (r.dropWhile fun d => d ≠ ']' && d ≠ '[').head? ≠ some ']') := by
  rw [tagBody?]
  cases startsTag c with
  | false => simp
  | true =>
      cases r.dropWhile fun d => d ≠ ']' && d ≠ '[' with
      | nil => simp
      | cons d rest => by_cases hd : d = ']' <;> simp [hd]

theorem tagBody_escaped (h : tagBody? cs = none) : tagBody? (escaped k cs) = none := by
  induction cs using tagInduction with
  | nil =>
      rw [escaped, escapeTags, List.nil_append]
      cases k with
      | zero => rfl
      | succ k => rfl
  | cons c r hahead ih =>
      rw [tagBody_cons_eq_none_iff] at h
      rw [escaped_cons hahead, tagBody_cons_eq_none_iff]
      intro hstart hclose
      exact h hstart (head_dropWhile_escaped hclose)
  | tag n body r hbody =>
      rw [escaped_tag hbody]
      rfl

theorem tagAhead_escaped (h : tagAhead? cs = none) : tagAhead? (escaped k cs) = none := by
  rw [tagAhead_eq_none_iff, dropWhile_escaped h]
  intro q hq
  cases hrest : cs.dropWhile (· = '\\') with
  | nil => simp [hrest] at hq
  | cons c r =>
      rw [hrest] at hq
      obtain ⟨rfl, rfl⟩ := List.cons.inj hq
      exact tagBody_escaped (tagAhead_eq_none_iff.1 h r hrest)

/-- Where a backslash stands directly before an opening bracket, a tag begins. -/
def Bracketed (cs : List Char) : Prop := ∀ r, '\\' :: '[' :: r <:+ cs → tagBody? r ≠ none

def EscapeFree (cs : List Char) : Prop := ¬['\\', '['] <:+: cs

theorem escapeFree_concat {c : Char} (h : EscapeFree s) (hlast : c = '[' → s.getLast? ≠ some '\\') :
    EscapeFree (s ++ [c]) := by
  intro hpair
  rcases List.infix_concat_iff.1 hpair with hsuffix | hwithin
  · obtain ⟨u, hu⟩ := hsuffix
    rw [show u ++ ['\\', '['] = (u ++ ['\\']) ++ ['['] by simp] at hu
    obtain ⟨rfl, hc⟩ := List.append_inj' hu rfl
    exact hlast (List.cons.inj hc).1.symm (by simp)
  · exact h hwithin

theorem escapeFree_backslashes (h : EscapeFree s) (k : Nat) : EscapeFree (s ++ List.replicate k '\\') := by
  induction k with
  | zero => simpa using h
  | succ k ih =>
      rw [List.replicate_succ', ← List.append_assoc]
      exact escapeFree_concat ih (by simp)

theorem escapeFree_of_not_mem (h : '[' ∉ s) : EscapeFree s :=
  fun hpair => h (hpair.mem (by simp))

theorem escapeFree_tag (hbody : IsTagBody body) : EscapeFree ('[' :: (body ++ [']'])) := by
  obtain ⟨c, inner, rfl, hstart, hclose, hopen⟩ := hbody.exists_eq_cons
  intro hpair
  rcases List.infix_cons_iff.1 hpair with hfirst | hrest
  · simp at hfirst
  · have hmem : '[' ∈ c :: inner ++ [']'] := hrest.mem (by simp)
    simp only [List.cons_append, List.mem_cons, List.mem_append, hopen, List.not_mem_nil, or_false,
      false_or] at hmem
    rcases hmem with rfl | hmem
    · cases hstart
    · cases hmem

theorem exists_flush (pending : List Char) : ∃ pieces : List (List Char),
    (if pending = [] then [] else [Part.plain pending.reverse]) = pieces.map .plain ∧
      pieces.flatten = pending.reverse ∧ ∀ p ∈ pieces, p = pending.reverse := by
  by_cases h : pending = []
  · exact ⟨[], by simp [h], by simp [h], by simp⟩
  · exact ⟨[pending.reverse], by simp [h], by simp, by simp⟩

theorem partsFrom_backslashes (k : Nat) (pending : List Char) (position : Nat) :
    partsFrom pending position 0 (List.replicate k '\\') =
      partsFrom (List.replicate k '\\' ++ pending) (position + k) 0 [] := by
  induction k generalizing pending position with
  | zero => rfl
  | succ k ih =>
      have hnone : tagAhead? ('\\' :: List.replicate k '\\') = none := by
        rw [tagAhead_eq_none_iff]
        intro q hq
        simp at hq
      rw [List.replicate_succ, partsFrom_cons hnone, ih, partsFrom, partsFrom]
      have hlast : '\\' :: List.replicate k '\\' = List.replicate k '\\' ++ ['\\'] := List.replicate_succ'
      simp [hlast]

theorem exists_tagParts (position n : Nat) (hbody : IsTagBody body) : ∃ pieces : List (List Char),
    tagParts position (2 * n + 1) body = pieces.map .plain ∧
      pieces.flatten = List.replicate n '\\' ++ '[' :: (body ++ [']']) ∧ ∀ p ∈ pieces, EscapeFree p := by
  obtain ⟨slashes, hslashes, htext, hfree⟩ := exists_flush (List.replicate n '\\')
  rw [List.reverse_replicate] at htext hfree
  refine ⟨slashes ++ ['[' :: (body ++ [']'])], ?_, by simp [htext], fun p hp => ?_⟩
  · have hhalf : (2 * n + 1) / 2 = n := by omega
    have hodd : (2 * n + 1) % 2 = 1 := by omega
    have hnone : 2 * n + 1 < 2 ↔ List.replicate n '\\' = [] := by
      rw [List.replicate_eq_nil_iff]
      omega
    rw [tagParts, List.map_append, ← hslashes, hhalf, if_pos hodd, List.reverse_replicate]
    simp only [hnone]
    rfl
  · rcases List.mem_append.1 hp with hslash | htag
    · rw [hfree p hslash]
      exact escapeFree_of_not_mem (by simp)
    · rw [List.mem_singleton.1 htag]
      exact escapeFree_tag hbody

/-- The parts of an escaped text are all plain, together they are the text as it was, and none holds an
escaped bracket if the text held none. -/
theorem exists_pieces (k : Nat) (cs pending : List Char) (position : Nat) :
    ∃ pieces : List (List Char), partsFrom pending position 0 (escaped k cs) = pieces.map .plain ∧
      pieces.flatten = pending.reverse ++ (cs ++ List.replicate k '\\') ∧
      (Bracketed (pending.reverse ++ cs) → EscapeFree pending.reverse → ∀ p ∈ pieces, EscapeFree p) := by
  induction cs using tagInduction generalizing pending position with
  | nil =>
      obtain ⟨pieces, hparts, hflatten, hfree⟩ := exists_flush (List.replicate k '\\' ++ pending)
      have hreverse : (List.replicate k '\\' ++ pending).reverse =
          pending.reverse ++ List.replicate k '\\' := by
        simp
      refine ⟨pieces, ?_, ?_, ?_⟩
      · rw [escaped, escapeTags, List.nil_append, partsFrom_backslashes, partsFrom]
        exact hparts
      · rw [hflatten, hreverse, List.nil_append]
      · intro _ hpending p hp
        rw [hfree p hp, hreverse]
        exact escapeFree_backslashes hpending k
  | cons c r hahead ih =>
      obtain ⟨pieces, hparts, hflatten, hfree⟩ := ih (c :: pending) (position + 1)
      have hnone : tagAhead? (c :: escaped k r) = none := by
        rw [← escaped_cons hahead]
        exact tagAhead_escaped hahead
      refine ⟨pieces, ?_, ?_, ?_⟩
      · rw [escaped_cons hahead, partsFrom_cons hnone]
        exact hparts
      · simp [hflatten]
      · intro hbracketed hpending
        refine hfree (by simpa using hbracketed) ?_
        rw [List.reverse_cons]
        apply escapeFree_concat hpending
        rintro rfl hlast
        obtain ⟨u, hu⟩ := List.getLast?_eq_some_iff.1 hlast
        refine hbracketed r ⟨u, ?_⟩ ?_
        · rw [hu]
          simp
        · simpa using tagAhead_eq_none_iff.1 hahead r
  | tag n body r hbody ih =>
      obtain ⟨before, hbefore, hbeforeText, hbeforeFree⟩ := exists_flush pending
      obtain ⟨after, hafter, hafterText, hafterFree⟩ := ih [] (position + (2 * n + 1 + body.length + 2))
      obtain ⟨tag, htag, htagText, htagFree⟩ := exists_tagParts position n hbody
      refine ⟨before ++ tag ++ after, ?_, ?_, ?_⟩
      · rw [escaped_tag hbody, partsFrom_tag hbody, hbefore, hafter, htag]
        simp
      · simp [hbeforeText, hafterText, htagText]
      · intro hbracketed hpending p hp
        simp only [List.mem_append] at hp
        rcases hp with (hp | hp) | hp
        · rw [hbeforeFree p hp]
          exact hpending
        · exact htagFree p hp
        · refine hafterFree (fun q hq => hbracketed q (hq.trans ?_)) (escapeFree_of_not_mem (by simp)) p hp
          exact ⟨pending.reverse ++ (List.replicate n '\\' ++ '[' :: (body ++ [']'])), by simp⟩

theorem exists_escape (cs : List Char) : ∃ k, escape cs = escaped k cs := by
  rw [escape]
  split
  · exact ⟨0, by simp [escaped]⟩
  · exact ⟨1, rfl⟩
  · exact ⟨0, by simp [escaped]⟩

theorem getLast_escapeTags (cs : List Char) : (escapeTags 0 cs).getLast? = cs.getLast? := by
  induction cs using tagInduction with
  | nil => rfl
  | cons c r hahead ih => rw [escapeTags_cons hahead, List.getLast?_cons, List.getLast?_cons, ih]
  | tag n body r hbody ih =>
      rw [escapeTags_tag hbody]
      simp [List.getLast?_append, List.getLast?_cons, ih]

theorem escape_of_last (h : cs.getLast? ≠ some '\\') : escape cs = escaped 0 cs := by
  have hlast : (escapeTags 0 cs).reverse.head? ≠ some '\\' := by
    rwa [List.head?_reverse, getLast_escapeTags]
  rw [escape]
  split
  · rename_i r heq
    simp [heq] at hlast
  · rename_i heq
    simp [heq] at hlast
  · simp [escaped]

end Workcell.Display
