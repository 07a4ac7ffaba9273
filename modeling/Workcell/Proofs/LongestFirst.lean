import Workcell.Proofs.Masking
import Workcell.Proofs.Pairs

namespace Workcell

section Pair

variable {α : Type} {l : List α} {a b : α}

theorem pair_sublist_or (ha : a ∈ l) (hb : b ∈ l) (hne : a ≠ b) : [a, b].Sublist l ∨ [b, a].Sublist l := by
  induction l with
  | nil => cases ha
  | cons c r ih =>
      rcases List.mem_cons.1 ha with rfl | har
      · have hbr : b ∈ r := (List.mem_cons.1 hb).resolve_left hne.symm
        exact .inl ((List.singleton_sublist.2 hbr).cons_cons a)
      · rcases List.mem_cons.1 hb with rfl | hbr
        · exact .inr ((List.singleton_sublist.2 har).cons_cons b)
        · exact (ih har hbr).imp (.cons c) (.cons c)

theorem not_pair_sublist_swap (h : l.Nodup) (hab : [a, b].Sublist l) : ¬[b, a].Sublist l := by
  intro hba
  induction l with
  | nil => cases hab
  | cons c r ih =>
      obtain ⟨hfresh, hr⟩ := List.nodup_cons.1 h
      rcases List.sublist_cons_iff.1 hab with habr | ⟨_, heq, hb⟩
      · rcases List.sublist_cons_iff.1 hba with hbar | ⟨_, heq, -⟩
        · exact ih hr habr hbar
        · obtain ⟨rfl, -⟩ := List.cons.inj heq
          exact hfresh (habr.subset (List.mem_cons_of_mem _ List.mem_cons_self))
      · obtain ⟨rfl, rfl⟩ := List.cons.inj heq
        rcases List.sublist_cons_iff.1 hba with hbar | ⟨_, heq, -⟩
        · exact hfresh (hbar.subset (List.mem_cons_of_mem _ List.mem_cons_self))
        · obtain ⟨rfl, -⟩ := List.cons.inj heq
          exact hfresh (List.singleton_sublist.1 hb)

end Pair

/-- The pairs of a mapping that have a source, the longest source first and those of equal length in the order of
the mapping. -/
structure LongestFirst (redactions : Pairs) (l : List Replacement) : Prop where
  perm : l.Perm (redactions.entries.filter fun p => p.1 ≠ "")
  longest : l.Pairwise fun p q => q.1.length ≤ p.1.length
  stable : ∀ p q, [p, q].Sublist redactions.entries → p.1 ≠ "" → p.1.length = q.1.length → [p, q].Sublist l

section Order

variable {redactions other : Pairs} {l l' : List Replacement} {p q : Replacement}

theorem ne_empty_of_length (h : p.1.length = q.1.length) (hp : p.1 ≠ "") : q.1 ≠ "" := by
  intro hq
  rw [hq, String.length_eq_zero_iff.2 rfl, String.length_eq_zero_iff] at h
  exact hp h

theorem Pairs.nodup_entries (redactions : Pairs) : redactions.entries.Nodup :=
  List.Nodup.of_map Prod.fst redactions.keys_nodup

namespace LongestFirst

theorem nodup (h : LongestFirst redactions l) : l.Nodup :=
  h.perm.nodup_iff.2 (redactions.nodup_entries.filter _)

theorem mem_iff (h : LongestFirst redactions l) : p ∈ l ↔ p ∈ redactions.entries ∧ p.1 ≠ "" := by
  simp [h.perm.mem_iff]

theorem before (h : LongestFirst redactions l) (hpq : [p, q].Sublist l) : q.1.length < p.1.length ∨
    p.1.length = q.1.length ∧ [p, q].Sublist redactions.entries := by
  have hp := h.mem_iff.1 (hpq.subset (by simp : p ∈ [p, q]))
  have hq := h.mem_iff.1 (hpq.subset (by simp : q ∈ [p, q]))
  have hne : p ≠ q := by
    rintro rfl
    exact List.pairwise_iff_forall_sublist.1 h.nodup hpq rfl
  rcases Nat.lt_or_eq_of_le (List.pairwise_iff_forall_sublist.1 h.longest hpq) with hlt | heq
  · exact .inl hlt
  · refine .inr ⟨heq.symm, (pair_sublist_or hp.1 hq.1 hne).resolve_right fun hqp => ?_⟩
    exact not_pair_sublist_swap h.nodup hpq (h.stable q p hqp hq.2 heq)

theorem unique (h : LongestFirst redactions l) (h' : LongestFirst redactions l') : l = l' := by
  refine List.Perm.eq_of_pairwise ?_ (List.pairwise_iff_forall_sublist.2 h.before)
    (List.pairwise_iff_forall_sublist.2 h'.before) (h.perm.trans h'.perm.symm)
  intro p q _ _ hpq hqp
  rcases hpq with hlt | ⟨heq, hpq⟩
  · rcases hqp with hlt' | ⟨heq, -⟩ <;> omega
  · rcases hqp with hlt | ⟨-, hqp⟩
    · omega
    · exact absurd hqp (not_pair_sublist_swap redactions.nodup_entries hpq)

end LongestFirst

theorem longestFirst_ordered (redactions : Pairs) : LongestFirst redactions (orderedRedactions redactions) where
  perm := List.mergeSort_perm _ _
  longest := (orderedRedactions_pairwise redactions).imp And.left
  stable := by
    intro p q hpq hp hlength
    have hkept := hpq.filter fun r : Replacement => r.1 ≠ ""
    rw [List.filter_eq_self.2 (by simp [hp, ne_empty_of_length hlength hp])] at hkept
    exact List.pair_sublist_mergeSort longer_trans longer_total (by simp [hlength]) hkept

theorem ordered_of_infix (hp : p ∈ redactions.entries) (hq : q ∈ redactions.entries) (hne : q.1 ≠ "")
    (hin : q.1.toList <:+: p.1.toList) (hproper : q.1 ≠ p.1) :
    [p, q].Sublist (orderedRedactions redactions) ∧ ¬[q, p].Sublist (orderedRedactions redactions) := by
  have hlt : q.1.length < p.1.length := by
    refine Nat.lt_of_le_of_ne hin.length_le fun heq => hproper (String.toList_inj.1 ?_)
    exact hin.eq_of_length heq
  have hpne : p.1 ≠ "" := by
    intro hp
    simp [hp] at hlt
  have hnot : ¬[q, p].Sublist (orderedRedactions redactions) := by
    intro hqp
    have := List.pairwise_iff_forall_sublist.1 (longestFirst_ordered redactions).longest hqp
    omega
  refine ⟨(pair_sublist_or (mem_orderedRedactions.2 ⟨hp, hpne⟩) (mem_orderedRedactions.2 ⟨hq, hne⟩) ?_).resolve_right
    hnot, hnot⟩
  rintro rfl
  exact hproper rfl

section Alike

variable (hpairs : ∀ p, p ∈ other.entries ↔ p ∈ redactions.entries)
  (halike : ∀ n, (other.keys.filter fun k => k.length = n) = redactions.keys.filter fun k => k.length = n)
include hpairs halike

theorem pair_sublist_of_alike (hpq : [p, q].Sublist redactions.entries) (hlength : p.1.length = q.1.length) :
    [p, q].Sublist other.entries := by
  have hne : p ≠ q := by
    rintro rfl
    exact List.pairwise_iff_forall_sublist.1 redactions.nodup_entries hpq rfl
  have hp := (hpairs p).2 (hpq.subset (by simp))
  have hq := (hpairs q).2 (hpq.subset (by simp))
  refine (pair_sublist_or hp hq hne).resolve_right fun hqp => ?_
  have hkeys : [p.1, q.1].Sublist other.keys := by
    have hkept := (hpq.map Prod.fst).filter fun k => k.length = p.1.length
    rw [List.map_cons, List.map_cons, List.map_nil, List.filter_eq_self.2 (by simp [hlength])] at hkept
    rw [← Pairs.keys, ← halike] at hkept
    exact hkept.trans List.filter_sublist
  exact not_pair_sublist_swap other.keys_nodup hkeys (hqp.map Prod.fst)

theorem longestFirst_of_alike : LongestFirst redactions (orderedRedactions other) where
  perm := by
    have hperm := (List.perm_ext_iff_of_nodup other.nodup_entries redactions.nodup_entries).2 hpairs
    exact (longestFirst_ordered other).perm.trans (hperm.filter _)
  longest := (longestFirst_ordered other).longest
  stable p q hpq hp hlength :=
    (longestFirst_ordered other).stable p q (pair_sublist_of_alike hpairs halike hpq hlength) hp hlength

end Alike

end Order

/-- The replacements are made in the one order that has the longest sources first and keeps the order of the
mapping among sources of equal length. A source that holds another one comes before it, and mappings that differ
only in the order of sources of different length redact every line alike. -/
theorem longest_first (redactions : Pairs) :
    (∀ l, LongestFirst redactions l ↔ l = orderedRedactions redactions) ∧
    (∀ p ∈ redactions.entries, ∀ q ∈ redactions.entries, q.1 ≠ "" → q.1.toList <:+: p.1.toList → q.1 ≠ p.1 →
      [p, q].Sublist (orderedRedactions redactions) ∧ ¬[q, p].Sublist (orderedRedactions redactions)) ∧
    ∀ other : Pairs, (∀ p, p ∈ other.entries ↔ p ∈ redactions.entries) →
      (∀ n, (other.keys.filter fun k => k.length = n) = redactions.keys.filter fun k => k.length = n) →
      orderedRedactions other = orderedRedactions redactions ∧
        ∀ line, redact (orderedRedactions other) line = redact (orderedRedactions redactions) line := by
  refine ⟨fun l => ⟨fun h => h.unique (longestFirst_ordered redactions), ?_⟩,
    fun p hp q hq hne hin hproper => ordered_of_infix hp hq hne hin hproper, fun other hpairs halike => ?_⟩
  · rintro rfl
    exact longestFirst_ordered redactions
  · have heq := (longestFirst_of_alike hpairs halike).unique (longestFirst_ordered redactions)
    exact ⟨heq, fun line => by rw [heq]⟩

theorem longest_first_regrouped :
    let regrouped : Pairs := .ofList [("keyring", "###"), ("key", "***"), ("g o", "+++")]
    (∀ p, p ∈ regrouped.entries ↔ p ∈ Pairs.nested.entries) ∧
      (∀ n, (regrouped.keys.filter fun k => k.length = n) = Pairs.nested.keys.filter fun k => k.length = n) ∧
      [("keyring", "###"), ("key", "***")].Sublist (orderedRedactions .nested) ∧
      orderedRedactions regrouped = orderedRedactions .nested := by
  intro regrouped
  have hpairs : ∀ p, p ∈ regrouped.entries ↔ p ∈ Pairs.nested.entries := by
    intro p
    have hperm : regrouped.entries.Perm Pairs.nested.entries := by decide
    exact hperm.mem_iff
  have hlengths : "key".length = 3 ∧ "g o".length = 3 ∧ "keyring".length = 7 := by decide
  have halike : ∀ n, (regrouped.keys.filter fun k => k.length = n) =
      Pairs.nested.keys.filter fun k => k.length = n := by
    intro n
    have hkeys : regrouped.keys = ["keyring", "key", "g o"] := by decide
    have hkeys' : Pairs.nested.keys = ["key", "g o", "keyring"] := by decide
    rw [hkeys, hkeys']
    by_cases hn : 3 = n
    · simp [← hn, hlengths]
    · simp [List.filter_cons, hlengths, hn]
  obtain ⟨-, hin, halikes⟩ := longest_first .nested
  exact ⟨hpairs, halike, (hin _ (by decide) _ (by decide) (by decide) (by decide) (by decide)).1,
    (halikes _ hpairs halike).1⟩

end Workcell
