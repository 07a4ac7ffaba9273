import Workcell.Proofs.Redaction

namespace Workcell

/-- In `left ++ (secret ++ right)` no occurrence of `src` overlaps that of the secret, other than this
itself. -/
def Clear (src secret left right : List Char) : Prop :=
  ∀ i < left.length + secret.length, src <+: (left ++ (secret ++ right)).drop i →
    i + src.length ≤ left.length ∨ src = secret ∧ i = left.length

instance (src secret left right : List Char) : Decidable (Clear src secret left right) :=
  inferInstanceAs (Decidable (∀ i < _, _ → _))

variable {src dst secret mask left right before gap rest cs : List Char}

theorem Clear.seam (h : Clear src secret left right) : Seam src left (secret ++ right) := by
  intro i hi hocc
  rcases h i (by omega) hocc with hend | ⟨-, hi'⟩
  · exact hend
  · omega

theorem Clear.replaceAll_secret (h : Clear src secret left right) (hsrc : src ≠ [])
    (hne : src ≠ secret) (dst : List Char) :
    replaceAll src dst (secret ++ right) = secret ++ replaceAll src dst right := by
  have hpos := List.length_pos_iff.2 hsrc
  refine replaceAll_append_of_none (fun i hi hocc => ?_) dst
  have hdrop : (left ++ (secret ++ right)).drop (left.length + i) = (secret ++ right).drop i :=
    List.drop_length_add_append i
  rcases h (left.length + i) (by omega) (hdrop ▸ hocc) with hend | ⟨heq, -⟩
  · omega
  · exact hne heq

theorem Clear.replaceAll_around (h : Clear src secret left right) (hsrc : src ≠ [])
    (hne : src ≠ secret) (dst : List Char) :
    replaceAll src dst (left ++ (secret ++ right)) =
      replaceAll src dst left ++ (secret ++ replaceAll src dst right) := by
  rw [replaceAll_append hsrc h.seam, h.replaceAll_secret hsrc hne]

theorem Clear.of_suffix (h : Clear src secret (before ++ gap) right) : Clear src secret gap right := by
  intro i hi hocc
  have hlength : (before ++ gap).length = before.length + gap.length := List.length_append
  have hdrop : (before ++ gap ++ (secret ++ right)).drop (before.length + i) =
      (gap ++ (secret ++ right)).drop i := by
    rw [List.append_assoc, List.drop_length_add_append]
  rcases h (before.length + i) (by omega) (hdrop ▸ hocc) with hend | ⟨heq, hi'⟩
  · exact .inl (by omega)
  · exact .inr ⟨heq, by omega⟩

theorem Clear.of_prefix (h : Clear src secret left (gap ++ rest)) : Clear src secret left gap := by
  intro i hi hocc
  have hle : i ≤ (left ++ (secret ++ gap)).length := by simp only [List.length_append]; omega
  have hdrop : (left ++ (secret ++ (gap ++ rest))).drop i = (left ++ (secret ++ gap)).drop i ++ rest := by
    rw [← List.drop_append_of_le_length hle]
    simp only [List.append_assoc]
  exact h i hi (hdrop ▸ hocc.trans (List.prefix_append _ rest))

theorem Clear.mask_left (h : Clear src secret gap right) (hmask : Apart mask src) (before : List Char) :
    Clear src secret (before ++ (mask ++ gap)) right := by
  intro i hi hocc
  simp only [List.append_assoc, List.length_append] at hi hocc ⊢
  rcases hmask.not_across hocc with hend | hstart
  · exact .inl (by omega)
  · obtain ⟨j, rfl⟩ := Nat.exists_eq_add_of_le hstart
    rw [Nat.add_assoc, List.drop_length_add_append, List.drop_length_add_append] at hocc
    rcases h j (by omega) hocc with hend | ⟨heq, hj⟩
    · exact .inl (by omega)
    · exact .inr ⟨heq, by omega⟩

theorem Clear.mask_right (h : Clear src secret left gap) (hmask : Apart mask src) (rest : List Char) :
    Clear src secret left (gap ++ (mask ++ rest)) := by
  intro i hi hocc
  have hassoc : left ++ (secret ++ (gap ++ (mask ++ rest))) =
      (left ++ (secret ++ gap)) ++ (mask ++ rest) := by
    simp only [List.append_assoc]
  have hlength : (left ++ (secret ++ gap)).length = left.length + (secret.length + gap.length) := by
    simp only [List.length_append]
  rw [hassoc] at hocc
  rcases hmask.not_across hocc with hend | hstart
  · rw [List.drop_append_of_le_length (by omega)] at hocc
    refine h i hi (List.prefix_of_prefix_length_le hocc (List.prefix_append _ _) ?_)
    rw [List.length_drop]
    omega
  · omega

theorem exists_last_mask (hsrc : src ≠ []) (dst cs : List Char) :
    replaceAll src dst cs = cs ∨
      ∃ ahead before gap, cs = ahead ++ gap ∧ replaceAll src dst cs = before ++ (dst ++ gap) := by
  induction hn : cs.length using Nat.strongRecOn generalizing cs with
  | _ n ih =>
    rcases replaceAll_cases hsrc dst cs with ⟨-, heq⟩ | ⟨before, tail, hcs, -, heq⟩
    · exact .inl heq
    · have hlt : tail.length < n := by
        have hpos := List.length_pos_iff.2 hsrc
        rw [← hn, hcs, List.length_append, List.length_append]
        omega
      have hahead : cs = (before ++ src) ++ tail := by rw [hcs, List.append_assoc]
      rcases ih _ hlt tail rfl with htail | ⟨ahead, before', gap, htail, heq'⟩
      · exact .inr ⟨before ++ src, before, tail, hahead, by rw [heq, htail]⟩
      · refine .inr ⟨before ++ src ++ ahead, before ++ (dst ++ before'), gap, ?_, ?_⟩
        · rw [hahead, htail, ← List.append_assoc]
        · rw [heq, heq']
          simp only [List.append_assoc]

/-- What is replaced around a secret brings no occurrence to it: one would have to hold a part of a mask. -/
theorem Clear.replaceAll (h : Clear src secret left right) {other : List Char} (hother : other ≠ [])
    (hmask : Apart mask src) :
    Clear src secret (replaceAll other mask left) (replaceAll other mask right) := by
  have hleft : Clear src secret (Workcell.replaceAll other mask left) right := by
    rcases exists_last_mask hother mask left with heq | ⟨ahead, before, gap, hcut, heq⟩
    · rwa [heq]
    · rw [hcut] at h
      rw [heq]
      exact h.of_suffix.mask_left hmask before
  rcases replaceAll_cases hother mask right with ⟨-, heq⟩ | ⟨gap, tail, hcut, -, heq⟩
  · rwa [heq]
  · rw [hcut] at hleft
    rw [heq]
    exact hleft.of_prefix.mask_right hmask _

theorem Clear.redactChars {replacements : List Replacement} (h : Clear src secret left right)
    (hsources : ∀ q ∈ replacements, q.1.toList ≠ [])
    (hmasks : ∀ q ∈ replacements, Apart q.2.toList src) :
    Clear src secret (redactChars replacements left) (redactChars replacements right) := by
  induction replacements generalizing left right with
  | nil => exact h
  | cons q replacements ih =>
      obtain ⟨hq, hsources⟩ := List.forall_mem_cons.1 hsources
      obtain ⟨hmask, hmasks⟩ := List.forall_mem_cons.1 hmasks
      exact ih (h.replaceAll hq hmask) hsources hmasks

theorem redactChars_of_clear {replacements : List Replacement}
    (hapart : ∀ q ∈ replacements, ∀ r ∈ replacements, Apart r.2.toList q.1.toList)
    (hclear : ∀ q ∈ replacements, Clear q.1.toList secret left right)
    (hne : ∀ q ∈ replacements, q.1.toList ≠ secret) :
    redactChars replacements (left ++ (secret ++ right)) =
      redactChars replacements left ++ (secret ++ redactChars replacements right) := by
  induction replacements generalizing left right with
  | nil => rfl
  | cons q replacements ih =>
      obtain ⟨hq, hclear⟩ := List.forall_mem_cons.1 hclear
      obtain ⟨hqne, hne⟩ := List.forall_mem_cons.1 hne
      have hsrc : q.1.toList ≠ [] := (hapart q List.mem_cons_self q List.mem_cons_self).src_ne_nil
      have hrest : ∀ r ∈ replacements, Apart q.2.toList r.1.toList := fun r hr =>
        hapart r (List.mem_cons_of_mem _ hr) q List.mem_cons_self
      have hstep := hq.replaceAll_around hsrc hqne q.2.toList
      have hlater := ih
        (fun r hr s hs => hapart r (List.mem_cons_of_mem _ hr) s (List.mem_cons_of_mem _ hs))
        (fun r hr => (hclear r hr).replaceAll hsrc (hrest r hr)) hne
      calc redactChars (q :: replacements) (left ++ (secret ++ right))
          = redactChars replacements (replaceAll q.1.toList q.2.toList left ++
              (secret ++ replaceAll q.1.toList q.2.toList right)) :=
            congrArg (redactChars replacements) hstep
        _ = redactChars (q :: replacements) left ++
              (secret ++ redactChars (q :: replacements) right) := hlater

theorem redactChars_append_mask {replacements : List Replacement}
    (hapart : ∀ q ∈ replacements, Apart mask q.1.toList) (left right : List Char) :
    redactChars replacements (left ++ (mask ++ right)) =
      redactChars replacements left ++ (mask ++ redactChars replacements right) := by
  induction replacements generalizing left right with
  | nil => rfl
  | cons q replacements ih =>
      obtain ⟨hq, hapart⟩ := List.forall_mem_cons.1 hapart
      have hstep := replaceAll_append_mask hq q.2.toList left right
      calc redactChars (q :: replacements) (left ++ (mask ++ right))
          = redactChars replacements (replaceAll q.1.toList q.2.toList left ++
              (mask ++ replaceAll q.1.toList q.2.toList right)) :=
            congrArg (redactChars replacements) hstep
        _ = redactChars (q :: replacements) left ++
              (mask ++ redactChars (q :: replacements) right) := ih hapart _ _

theorem redactChars_append_cons (before after : List Replacement) (p : Replacement) (cs : List Char) :
    redactChars (before ++ p :: after) cs =
      redactChars after (replaceAll p.1.toList p.2.toList (redactChars before cs)) :=
  List.foldl_append

/-- The sources before the secret leave it as it is, it is found as a whole, and those after it leave its
mask. -/
theorem redactChars_around {before after : List Replacement} {p : Replacement}
    (hapart : ∀ q ∈ before ++ p :: after, ∀ r ∈ before ++ p :: after, Apart r.2.toList q.1.toList)
    (hclear : ∀ q ∈ before, Clear q.1.toList p.1.toList left right)
    (hne : ∀ q ∈ before, q.1.toList ≠ p.1.toList) (hself : Clear p.1.toList p.1.toList left right) :
    redactChars (before ++ p :: after) (left ++ (p.1.toList ++ right)) =
      redactChars (before ++ p :: after) left ++
        (p.2.toList ++ redactChars (before ++ p :: after) right) := by
  have hmem : p ∈ before ++ p :: after := List.mem_append_cons_self
  have hbefore : ∀ q ∈ before, q ∈ before ++ p :: after := fun q hq => List.mem_append_left _ hq
  have hafter : ∀ q ∈ after, Apart p.2.toList q.1.toList := fun q hq =>
    hapart q (List.mem_append_right _ (List.mem_cons_of_mem _ hq)) p hmem
  have hsecret : p.1.toList ≠ [] := (hapart p hmem p hmem).src_ne_nil
  have hkept : redactChars before (left ++ (p.1.toList ++ right)) =
      redactChars before left ++ (p.1.toList ++ redactChars before right) :=
    redactChars_of_clear (fun q hq r hr => hapart q (hbefore q hq) r (hbefore r hr)) hclear hne
  have hreached : Clear p.1.toList p.1.toList (redactChars before left) (redactChars before right) :=
    hself.redactChars (fun q hq => (hapart q (hbefore q hq) q (hbefore q hq)).src_ne_nil)
      fun q hq => hapart p hmem q (hbefore q hq)
  have hmasked : replaceAll p.1.toList p.2.toList
      (redactChars before left ++ (p.1.toList ++ redactChars before right)) =
      replaceAll p.1.toList p.2.toList (redactChars before left) ++
        (p.2.toList ++ replaceAll p.1.toList p.2.toList (redactChars before right)) := by
    rw [replaceAll_append hsecret hreached.seam, replaceAll_prefix hsecret]
  rw [redactChars_append_cons, hkept, hmasked, redactChars_append_mask hafter, redactChars_append_cons,
    redactChars_append_cons]

section Ordered

variable {redactions : Pairs} {p : Replacement}

/-- A secret is masked as a whole where no occurrence of another source of at least its length overlaps it, and
what stands around it is redacted as if it stood alone. Shorter sources within the secret or over its ends
make no difference. -/
theorem redact_around {left right : String}
    (hapart : ∀ q ∈ redactions.entries, q.1 ≠ "" → ∀ r ∈ redactions.entries, r.1 ≠ "" →
      Apart q.2.toList r.1.toList)
    (hp : p ∈ redactions.entries) (hne : p.1 ≠ "")
    (hclear : ∀ q ∈ redactions.entries, p.1.length ≤ q.1.length →
      Clear q.1.toList p.1.toList left.toList right.toList) :
    redact (orderedRedactions redactions) (left ++ p.1 ++ right) =
      redact (orderedRedactions redactions) left ++ p.2 ++ redact (orderedRedactions redactions) right := by
  have hordered : ∀ q ∈ orderedRedactions redactions, ∀ r ∈ orderedRedactions redactions,
      Apart r.2.toList q.1.toList := by
    intro q hq r hr
    obtain ⟨hq, hqne⟩ := mem_orderedRedactions.1 hq
    obtain ⟨hr, hrne⟩ := mem_orderedRedactions.1 hr
    exact hapart r hr hrne q hq hqne
  obtain ⟨before, after, hsplit, hbefore⟩ := exists_orderedRedactions hp hne
  have hentries : ∀ q ∈ before, q ∈ redactions.entries := by
    intro q hq
    refine (mem_orderedRedactions.1 ?_).1
    rw [hsplit]
    exact List.mem_append_left _ hq
  rw [hsplit] at hordered ⊢
  have hchars := redactChars_around hordered
    (fun q hq => hclear q (hentries q hq) (hbefore q hq).1)
    (fun q hq heq => (hbefore q hq).2 (String.toList_inj.1 heq)) (hclear p hp (Nat.le_refl _))
  apply String.toList_inj.1
  simpa only [redact, String.toList_append, String.toList_ofList, List.append_assoc] using hchars

end Ordered

def Pairs.nested : Pairs := .ofList [("key", "***"), ("g o", "+++"), ("keyring", "###")]

theorem orderedRedactions_nested :
    orderedRedactions .nested = [("keyring", "###"), ("key", "***"), ("g o", "+++")] := by
  have hentries : (Pairs.nested.entries.filter fun p => p.1 ≠ "") =
      [("key", "***"), ("g o", "+++"), ("keyring", "###")] := by decide
  have hlengths : "key".length = 3 ∧ "g o".length = 3 ∧ "keyring".length = 7 := by decide
  rw [orderedRedactions, hentries]
  simp [List.mergeSort, List.MergeSort.Internal.splitInTwo, hlengths]

theorem redact_around_nested :
    ("keyring", "###") ∈ Pairs.nested.entries ∧
      (∀ q ∈ Pairs.nested.entries, "keyring".length ≤ q.1.length →
        Clear q.1.toList "keyring".toList "a key, my ".toList " of keyring key".toList) ∧
      redact (orderedRedactions .nested) ("a key, my " ++ "keyring" ++ " of keyring key") =
        "a ***, my " ++ "###" ++ " of ### ***" := by
  have hmem : ("keyring", "###") ∈ Pairs.nested.entries := by decide
  have hclear : ∀ q ∈ Pairs.nested.entries, "keyring".length ≤ q.1.length →
      Clear q.1.toList "keyring".toList "a key, my ".toList " of keyring key".toList := by decide +kernel
  have hapart : ∀ q ∈ Pairs.nested.entries, q.1 ≠ "" → ∀ r ∈ Pairs.nested.entries, r.1 ≠ "" →
      Apart q.2.toList r.1.toList := by decide +kernel
  have hleft : redact (orderedRedactions .nested) "a key, my " = "a ***, my " := by
    rw [orderedRedactions_nested]
    decide
  have hright : redact (orderedRedactions .nested) " of keyring key" = " of ### ***" := by
    rw [orderedRedactions_nested]
    decide
  refine ⟨hmem, hclear, ?_⟩
  rw [redact_around hapart hmem (by decide) hclear, hleft, hright]

end Workcell
