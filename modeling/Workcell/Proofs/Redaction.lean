import Workcell.Redaction
import Mathlib.Data.List.Infix

namespace Workcell

/-- A mask and a source do not overlap: neither holds the other, and neither ends as the other
begins. -/
structure Apart (mask src : List Char) : Prop where
  not_within : ¬src <:+: mask
  not_around : ¬mask <:+: src
  not_before : ∀ part ∈ mask.tails, part ≠ [] → ¬part <+: src
  not_after : ∀ part ∈ mask.inits, part ≠ [] → ¬part <:+ src

instance (mask src : List Char) : Decidable (Apart mask src) :=
  decidable_of_iff ((¬src <:+: mask ∧ ¬mask <:+: src) ∧
      (∀ part ∈ mask.tails, part ≠ [] → ¬part <+: src) ∧ ∀ part ∈ mask.inits, part ≠ [] → ¬part <:+ src)
    ⟨fun h => ⟨h.1.1, h.1.2, h.2.1, h.2.2⟩, fun h => ⟨⟨h.1, h.2⟩, h.3, h.4⟩⟩

variable {mask src dst gap rest cs before left right : List Char}

theorem Apart.src_ne_nil (h : Apart mask src) : src ≠ [] := by
  rintro rfl
  exact h.not_within List.nil_infix

/-- A source that begins in a mask would have to lie in it or go on after it. -/
theorem Apart.not_prefix_append (h : Apart mask src) {part : List Char} (hpart : part <:+ mask)
    (hne : part ≠ []) (rest : List Char) : ¬src <+: part ++ rest := by
  intro hsrc
  rcases List.prefix_or_prefix_of_prefix hsrc (List.prefix_append part rest) with hin | hon
  · exact h.not_within (hin.isInfix.trans hpart.isInfix)
  · exact h.not_before part ((List.mem_tails _ _).2 hpart) hne hon

theorem Apart.prefix_of_prefix_append (h : Apart mask src) (before : List Char)
    (hsrc : src <+: before ++ (mask ++ rest)) :
    src <+: before := by
  rcases List.prefix_or_prefix_of_prefix hsrc (List.prefix_append before _) with hin | ⟨tail, htail⟩
  · exact hin
  · by_cases hnil : tail = []
    · rw [← htail, hnil, List.append_nil]
    · rw [← htail, List.prefix_append_right_inj] at hsrc
      have hsuffix : tail <:+ src := ⟨before, htail⟩
      rcases List.prefix_or_prefix_of_prefix hsrc (List.prefix_append mask rest) with hin | hon
      · exact absurd hsuffix (h.not_after tail ((List.mem_inits _ _).2 hin) hnil)
      · exact absurd (hon.isInfix.trans hsuffix.isInfix) h.not_around

theorem Apart.infix_append (h : Apart mask src) (hsrc : src <:+: before ++ (mask ++ rest)) :
    src <:+: before ∨ src <:+: rest := by
  induction before with
  | nil =>
      refine .inr ?_
      have hpart : ∀ part, part <:+ mask → src <:+: part ++ rest → src <:+: rest := by
        intro part hpart
        induction part with
        | nil => exact id
        | cons c part ih =>
            intro hin
            rcases List.infix_cons_iff.1 hin with hprefix | hin
            · exact absurd hprefix (h.not_prefix_append hpart (by simp) rest)
            · exact ih ((List.suffix_cons c part).trans hpart) hin
      exact hpart mask List.suffix_rfl hsrc
  | cons c before ih =>
      rcases List.infix_cons_iff.1 hsrc with hprefix | hin
      · exact .inl (h.prefix_of_prefix_append (c :: before) hprefix).isInfix
      · rcases ih hin with hbefore | hrest
        · exact .inl (hbefore.trans (List.infix_cons List.infix_rfl))
        · exact .inr hrest

theorem replaceFrom_eq_drop (src dst : List Char) (k : Nat) (cs : List Char) :
    replaceFrom src dst k cs = replaceFrom src dst 0 (cs.drop k) := by
  induction k generalizing cs with
  | zero => rfl
  | succ k ih =>
      cases cs with
      | nil => rfl
      | cons c cs => exact ih cs

theorem replaceAll_prefix (hsrc : src ≠ []) (dst tail : List Char) :
    replaceAll src dst (src ++ tail) = dst ++ replaceAll src dst tail := by
  obtain ⟨c, r, rfl⟩ := List.exists_cons_of_ne_nil hsrc
  have hprefix : (c :: r).isPrefixOf (c :: (r ++ tail)) = true :=
    List.isPrefixOf_iff_prefix.2 (List.prefix_append (c :: r) tail)
  rw [replaceAll, List.cons_append, replaceFrom, if_pos hprefix, replaceFrom_eq_drop]
  simp [replaceAll]

theorem replaceAll_cons {c : Char} (h : ¬src <+: c :: cs) (dst : List Char) :
    replaceAll src dst (c :: cs) = c :: replaceAll src dst cs := by
  rw [replaceAll, replaceFrom, if_neg (mt List.isPrefixOf_iff_prefix.1 h), replaceAll]

/-- Replacing leaves a text as it is, or replaces the first occurrence and goes on after it. -/
theorem replaceAll_cases (hsrc : src ≠ []) (dst cs : List Char) :
    (¬src <:+: cs ∧ replaceAll src dst cs = cs) ∨
      ∃ before tail, cs = before ++ (src ++ tail) ∧ ¬src <:+: before ∧
        replaceAll src dst cs = before ++ (dst ++ replaceAll src dst tail) := by
  induction cs with
  | nil => exact .inl ⟨fun h => hsrc (List.infix_nil.1 h), rfl⟩
  | cons c cs ih =>
      by_cases hprefix : src <+: c :: cs
      · obtain ⟨tail, htail⟩ := hprefix
        refine .inr ⟨[], tail, by simpa using htail.symm, fun h => hsrc (List.infix_nil.1 h), ?_⟩
        rw [← htail, replaceAll_prefix hsrc]
        rfl
      · rw [replaceAll_cons hprefix]
        rcases ih with ⟨hnot, heq⟩ | ⟨before, tail, hcs, hnot, heq⟩
        · refine .inl ⟨fun h => ?_, congrArg (c :: ·) heq⟩
          exact (List.infix_cons_iff.1 h).elim hprefix hnot
        · refine .inr ⟨c :: before, tail, by rw [hcs]; rfl, fun h => ?_, congrArg (c :: ·) heq⟩
          rcases List.infix_cons_iff.1 h with hfirst | hin
          · rw [hcs] at hprefix
            exact hprefix (hfirst.trans (List.prefix_append (c :: before) _))
          · exact hnot hin

/-- No occurrence of `src` that begins in `left` goes on in `right`. -/
def Seam (src left right : List Char) : Prop :=
  ∀ i < left.length, src <+: (left ++ right).drop i → i + src.length ≤ left.length

theorem Seam.drop (h : Seam src left right) {n : Nat} (hn : n ≤ left.length) :
    Seam src (left.drop n) right := by
  intro i hi hocc
  rw [List.length_drop] at hi ⊢
  rw [← List.drop_append_of_le_length hn, List.drop_drop] at hocc
  have hend := h (n + i) (by omega) hocc
  omega

theorem replaceAll_append (hsrc : src ≠ []) (h : Seam src left right) (dst : List Char) :
    replaceAll src dst (left ++ right) = replaceAll src dst left ++ replaceAll src dst right := by
  -- on the length of the left text: a source that is replaced takes several characters off it at once
  induction hn : left.length using Nat.strongRecOn generalizing left with
  | _ n ih =>
    cases left with
    | nil => rfl
    | cons c l =>
        by_cases hprefix : src <+: c :: l
        · obtain ⟨tail, htail⟩ := hprefix
          have hpos := List.length_pos_iff.2 hsrc
          have hlength : src.length + tail.length = n := by
            rw [← hn, ← htail, List.length_append]
          have htailSeam : Seam src tail right := by
            have hdrop := h.drop (n := src.length) (by omega)
            rwa [← htail, List.drop_left] at hdrop
          rw [← htail, List.append_assoc, replaceAll_prefix hsrc, replaceAll_prefix hsrc,
            ih tail.length (by omega) htailSeam rfl, List.append_assoc]
        · have hwhole : ¬src <+: c :: (l ++ right) := by
            intro hocc
            have hend := h 0 (by simp) hocc
            exact hprefix (List.prefix_of_prefix_length_le hocc (List.prefix_append (c :: l) right)
              (by omega))
          have htailSeam : Seam src l right := h.drop (n := 1) (by simp)
          rw [List.cons_append, replaceAll_cons hwhole, replaceAll_cons hprefix,
            ih l.length (by simp [← hn]) htailSeam rfl, List.cons_append]

theorem replaceAll_append_of_none (h : ∀ i < left.length, ¬src <+: (left ++ right).drop i)
    (dst : List Char) : replaceAll src dst (left ++ right) = left ++ replaceAll src dst right := by
  induction left with
  | nil => rfl
  | cons c l ih =>
      have hfirst : ¬src <+: c :: (l ++ right) := h 0 (by simp)
      have hlater : ∀ i < l.length, ¬src <+: (l ++ right).drop i := fun i hi =>
        h (i + 1) (by simpa using hi)
      rw [List.cons_append, replaceAll_cons hfirst, ih hlater, List.cons_append]

theorem Apart.not_across (h : Apart mask src) {i : Nat}
    (hocc : src <+: (before ++ (mask ++ rest)).drop i) :
    i + src.length ≤ before.length ∨ before.length + mask.length ≤ i := by
  rcases Nat.le_total i before.length with hi | hi
  · rw [List.drop_append_of_le_length hi] at hocc
    have hbefore := (h.prefix_of_prefix_append _ hocc).length_le
    rw [List.length_drop] at hbefore
    omega
  · obtain ⟨j, rfl⟩ := Nat.exists_eq_add_of_le hi
    by_cases hj : j < mask.length
    · rw [List.drop_length_add_append, List.drop_append_of_le_length hj.le] at hocc
      have hpart : mask.drop j ≠ [] := by simpa using hj
      exact absurd hocc (h.not_prefix_append (List.drop_suffix j mask) hpart rest)
    · exact .inr (by omega)

/-- A mask is no obstacle: what stands before and after it is replaced as if it stood alone. -/
theorem replaceAll_append_mask (h : Apart mask src) (dst gap rest : List Char) :
    replaceAll src dst (gap ++ (mask ++ rest)) =
      replaceAll src dst gap ++ (mask ++ replaceAll src dst rest) := by
  have hseam : Seam src gap (mask ++ rest) := by
    intro i hi hocc
    rcases h.not_across hocc with hend | hstart
    · exact hend
    · omega
  have hmask : ∀ i < mask.length, ¬src <+: (mask ++ rest).drop i := by
    intro i hi hocc
    have hpart : mask.drop i ≠ [] := by simpa using hi
    rw [List.drop_append_of_le_length hi.le] at hocc
    exact h.not_prefix_append (List.drop_suffix i mask) hpart rest hocc
  rw [replaceAll_append h.src_ne_nil hseam, replaceAll_append_of_none hmask]

/-- A text made of masks, and of gaps between them that hold none of some sources. -/
inductive Patched (masks sources : List (List Char)) : List Char → Prop
  | gap {gap : List Char} : (∀ src ∈ sources, ¬src <:+: gap) → Patched masks sources gap
  | mask {gap mask rest : List Char} : (∀ src ∈ sources, ¬src <:+: gap) → mask ∈ masks →
      Patched masks sources rest → Patched masks sources (gap ++ (mask ++ rest))

variable {masks sources : List (List Char)}

theorem Patched.append (h : Patched masks sources before) (hmask : mask ∈ masks)
    (hrest : Patched masks sources rest) : Patched masks sources (before ++ (mask ++ rest)) := by
  induction h with
  | gap hfree => exact .mask hfree hmask hrest
  | @mask gap mask' rest' hfree hmask' _ ih =>
      rw [List.append_assoc, List.append_assoc]
      exact .mask hfree hmask' ih

theorem Patched.not_infix (h : Patched masks sources cs) (hsrc : src ∈ sources)
    (hapart : ∀ mask ∈ masks, Apart mask src) : ¬src <:+: cs := by
  induction h with
  | gap hfree => exact hfree src hsrc
  | mask hfree hmask _ ih =>
      intro hin
      exact ((hapart _ hmask).infix_append hin).elim (hfree src hsrc) ih

theorem patched_replaceAll_gap (hsrc : src ≠ []) (hdst : dst ∈ masks)
    (hfree : ∀ s ∈ sources, ¬s <:+: gap) : Patched masks (src :: sources) (replaceAll src dst gap) := by
  induction hn : gap.length using Nat.strongRecOn generalizing gap with
  | _ n ih =>
    rcases replaceAll_cases hsrc dst gap with ⟨hnot, heq⟩ | ⟨before, tail, hgap, hnot, heq⟩
    · rw [heq]
      exact .gap (List.forall_mem_cons.2 ⟨hnot, hfree⟩)
    · have hlt : tail.length < n := by
        have hpos := List.length_pos_iff.2 hsrc
        rw [← hn, hgap, List.length_append, List.length_append]
        omega
      have hbefore : before <:+: gap := hgap ▸ (List.prefix_append before _).isInfix
      have htail : tail <:+: gap := by
        rw [hgap, ← List.append_assoc]
        exact (List.suffix_append _ tail).isInfix
      rw [heq]
      exact .mask (List.forall_mem_cons.2 ⟨hnot, fun s hs hin => hfree s hs (hin.trans hbefore)⟩) hdst
        (ih _ hlt (fun s hs hin => hfree s hs (hin.trans htail)) rfl)

/-- Replacing one more source keeps a text patched, and frees its gaps of that source too. -/
theorem Patched.replaceAll (h : Patched masks sources cs) (hdst : dst ∈ masks) (hsrc : src ≠ [])
    (hapart : ∀ mask ∈ masks, Apart mask src) :
      Patched masks (src :: sources) (replaceAll src dst cs) := by
  induction h with
  | gap hfree => exact patched_replaceAll_gap hsrc hdst hfree
  | mask hfree hmask _ ih =>
      rw [replaceAll_append_mask (hapart _ hmask)]
      exact (patched_replaceAll_gap hsrc hdst hfree).append hmask ih

theorem Patched.redactChars {replacements : List Replacement} (h : Patched masks sources cs)
    (hmasks : ∀ p ∈ replacements, p.2.toList ∈ masks)
    (hapart : ∀ p ∈ replacements, ∀ mask ∈ masks, Apart mask p.1.toList) :
    Patched masks ((replacements.map fun p => p.1.toList).reverse ++ sources)
      (redactChars replacements cs) := by
  -- each replacement moves its source to those that the gaps are free of
  induction replacements generalizing cs sources with
  | nil => exact h
  | cons p replacements ih =>
      obtain ⟨hmask, hmasks⟩ := List.forall_mem_cons.1 hmasks
      obtain ⟨hp, hapart⟩ := List.forall_mem_cons.1 hapart
      have hnext := ih (h.replaceAll hmask (hp _ hmask).src_ne_nil hp) hmasks hapart
      rw [List.map_cons, List.reverse_cons, List.append_assoc]
      exact hnext

theorem mem_orderedRedactions {redactions : Pairs} {p : Replacement} :
    p ∈ orderedRedactions redactions ↔ p ∈ redactions.entries ∧ p.1 ≠ "" := by
  simp [orderedRedactions, List.mem_mergeSort]

theorem longer_trans (a b c : Replacement) : decide (b.1.length ≤ a.1.length) → decide (c.1.length ≤ b.1.length) →
    decide (c.1.length ≤ a.1.length) := by
  simp only [decide_eq_true_eq]
  omega

theorem longer_total (a b : Replacement) :
    decide (b.1.length ≤ a.1.length) || decide (a.1.length ≤ b.1.length) := by
  simp only [Bool.or_eq_true, decide_eq_true_eq]
  omega

theorem orderedRedactions_pairwise (redactions : Pairs) :
    (orderedRedactions redactions).Pairwise fun a b => b.1.length ≤ a.1.length ∧ a.1 ≠ b.1 := by
  have hlongest : (orderedRedactions redactions).Pairwise fun a b => b.1.length ≤ a.1.length :=
    (List.pairwise_mergeSort longer_trans longer_total _).imp fun h => of_decide_eq_true h
  have hkeys : ((orderedRedactions redactions).map Prod.fst).Nodup := by
    have hperm := (List.mergeSort_perm (redactions.entries.filter fun p => p.1 ≠ "")
      fun a b => b.1.length ≤ a.1.length).map Prod.fst
    rw [orderedRedactions, hperm.nodup_iff]
    exact redactions.keys_nodup.sublist (List.filter_sublist.map Prod.fst)
  exact hlongest.and (List.pairwise_map.1 hkeys)

theorem exists_orderedRedactions {redactions : Pairs} {p : Replacement} (hp : p ∈ redactions.entries)
    (hne : p.1 ≠ "") : ∃ before after, orderedRedactions redactions = before ++ p :: after ∧
      ∀ q ∈ before, p.1.length ≤ q.1.length ∧ q.1 ≠ p.1 := by
  obtain ⟨before, after, hsplit⟩ := List.append_of_mem (mem_orderedRedactions.2 ⟨hp, hne⟩)
  refine ⟨before, after, hsplit, fun q hq => ?_⟩
  have hpairwise := orderedRedactions_pairwise redactions
  rw [hsplit, List.pairwise_append] at hpairwise
  exact hpairwise.2.2 q hq p List.mem_cons_self

/-- Redactions that can be relied on: a source lies within one line, and no mask overlaps a source.
Empty sources are left out of account. -/
structure Guarded (redactions : Pairs) : Prop where
  one_line : ∀ p ∈ redactions.entries, p.1 ≠ "" → '\n' ∉ p.1.toList
  apart : ∀ p ∈ redactions.entries, p.1 ≠ "" → ∀ q ∈ redactions.entries, q.1 ≠ "" →
    Apart p.2.toList q.1.toList

variable {redactions : Pairs} {p : Replacement}

theorem Guarded.not_infix_redact (h : Guarded redactions) (hp : p ∈ redactions.entries) (hne : p.1 ≠ "")
    (s : String) : ¬p.1.toList <:+: (redact (orderedRedactions redactions) s).toList := by
  have hmasks : ∀ q ∈ orderedRedactions redactions, q.2.toList ∈
      (orderedRedactions redactions).map fun q => q.2.toList :=
    fun q hq => List.mem_map_of_mem hq
  have hapart : ∀ q ∈ orderedRedactions redactions,
      ∀ mask ∈ (orderedRedactions redactions).map fun q => q.2.toList, Apart mask q.1.toList := by
    intro q hq mask hmask
    obtain ⟨r, hr, rfl⟩ := List.mem_map.1 hmask
    obtain ⟨hq, hqne⟩ := mem_orderedRedactions.1 hq
    obtain ⟨hr, hrne⟩ := mem_orderedRedactions.1 hr
    exact h.apart r hr hrne q hq hqne
  have hordered : p ∈ orderedRedactions redactions := mem_orderedRedactions.2 ⟨hp, hne⟩
  have hplain : Patched ((orderedRedactions redactions).map fun q => q.2.toList) [] s.toList :=
    .gap (by simp)
  have hpatched := hplain.redactChars hmasks hapart
  rw [redact, String.toList_ofList]
  refine hpatched.not_infix ?_ (hapart p hordered)
  rw [List.append_nil, List.mem_reverse]
  exact List.mem_map_of_mem hordered

theorem apart_feed (hsrc : src ≠ []) (hfeed : '\n' ∉ src) : Apart ['\n'] src where
  not_within hin := by
    obtain ⟨c, r, rfl⟩ := List.exists_cons_of_ne_nil hsrc
    have hc := hin.subset List.mem_cons_self
    simp only [List.mem_singleton] at hc
    exact hfeed (hc ▸ List.mem_cons_self)
  not_around hin := hfeed (hin.subset List.mem_cons_self)
  not_before part hpart hne hin := by
    obtain ⟨c, r, rfl⟩ := List.exists_cons_of_ne_nil hne
    have hc := ((List.mem_tails _ _).1 hpart).subset List.mem_cons_self
    simp only [List.mem_singleton] at hc
    exact hfeed (hc ▸ hin.subset List.mem_cons_self)
  not_after part hpart hne hin := by
    obtain ⟨c, r, rfl⟩ := List.exists_cons_of_ne_nil hne
    have hc := ((List.mem_inits _ _).1 hpart).subset List.mem_cons_self
    simp only [List.mem_singleton] at hc
    exact hfeed (hc ▸ hin.subset List.mem_cons_self)

theorem not_infix_join {lines : List String} (hsrc : src ≠ []) (hfeed : '\n' ∉ src)
    (hlines : ∀ line ∈ lines, ¬src <:+: line.toList) :
    ¬src <:+: (String.join (lines.map (· ++ "\n"))).toList := by
  induction lines with
  | nil =>
      intro hin
      exact hsrc (List.infix_nil.1 (by simpa using hin))
  | cons line lines ih =>
      obtain ⟨hline, hlines⟩ := List.forall_mem_cons.1 hlines
      intro hin
      rw [List.map_cons, String.join_cons, String.toList_append, String.toList_append,
        List.append_assoc] at hin
      exact ((apart_feed hsrc hfeed).infix_append hin).elim hline (ih hlines)

end Workcell
