import Workcell.Path

namespace Workcell

namespace Text

variable {α : Type} [DecidableEq α] {sep : α}

theorem split_of_not_mem {l : List α} (h : sep ∉ l) : split sep l = [l] := by
  induction l with
  | nil => rfl
  | cons a r ih =>
      rw [List.mem_cons, not_or] at h
      rw [split, if_neg (Ne.symm h.1), ih h.2]

theorem split_append_sep {s : List α} (h : sep ∉ s) (l : List α) :
    split sep (s ++ sep :: l) = s :: split sep l := by
  induction s with
  | nil => rw [List.nil_append, split, if_pos rfl]
  | cons a r ih =>
      rw [List.mem_cons, not_or] at h
      rw [List.cons_append, split, if_neg (Ne.symm h.1), ih h.2]

theorem exists_split_append {s : List α} (h : sep ∉ s) (l : List α) :
    ∃ first more, split sep l = first :: more ∧ split sep (s ++ l) = (s ++ first) :: more := by
  induction s with
  | nil =>
      obtain ⟨first, more, hsplit⟩ := List.exists_cons_of_ne_nil (split_ne_nil sep l)
      exact ⟨first, more, hsplit, hsplit⟩
  | cons a r ih =>
      rw [List.mem_cons, not_or] at h
      obtain ⟨first, more, hl, hsplit⟩ := ih h.2
      refine ⟨first, more, hl, ?_⟩
      rw [List.cons_append, split, if_neg (Ne.symm h.1), hsplit]
      rfl

theorem split_intercalate {segments : List (List α)} (hne : segments ≠ [])
    (h : ∀ s ∈ segments, sep ∉ s) : split sep ([sep].intercalate segments) = segments := by
  induction segments with
  | nil => exact absurd rfl hne
  | cons s rest ih =>
      have hs : sep ∉ s := h s List.mem_cons_self
      cases rest with
      | nil => rw [List.intercalate_singleton, split_of_not_mem hs]
      | cons t rest =>
          rw [List.intercalate_cons_cons, List.append_assoc, List.singleton_append, split_append_sep hs,
            ih (List.cons_ne_nil _ _) fun s' hs' => h s' (List.mem_cons_of_mem _ hs')]

theorem subset_of_mem_split {l segment : List α} (h : segment ∈ split sep l) : segment ⊆ l := by
  induction l generalizing segment with
  | nil => simp_all [split]
  | cons a r ih =>
      obtain ⟨s, rest, hs⟩ := List.exists_cons_of_ne_nil (split_ne_nil sep r)
      rw [split, hs] at h
      rw [hs] at ih
      split at h
      · rcases List.mem_cons.1 h with rfl | h
        · exact List.nil_subset _
        · exact List.subset_cons_of_subset a (ih h)
      · rcases List.mem_cons.1 h with rfl | h
        · exact List.cons_subset_cons a (ih List.mem_cons_self)
        · exact List.subset_cons_of_subset a (ih (List.mem_cons_of_mem _ h))

end Text

theorem subset_of_mem_componentsOf {s c : String} (h : c ∈ componentsOf s) : c.toList ⊆ s.toList := by
  simp only [componentsOf, Text.segments, List.mem_filter, List.mem_map] at h
  obtain ⟨⟨segment, hsegment, rfl⟩, -⟩ := h
  rw [String.toList_ofList]
  exact Text.subset_of_mem_split hsegment

namespace Path

theorem hasNul_ofString {s : String} (h : '\x00' ∉ s.toList) : (ofString s).hasNul = false := by
  simp only [hasNul, List.any_eq_false, List.contains_iff_mem]
  exact fun c hc hnul => h (subset_of_mem_componentsOf hc hnul)

variable (p : Path)

def written : List Char := ['/'].intercalate (p.parts.map String.toList)

theorem toList_text : p.text.toList = match p.root with
    | .relative => if p.parts = [] then ['.'] else p.written
    | .single => '/' :: p.written
    | .double => '/' :: '/' :: p.written := by
  have hbelow : ("/".intercalate p.parts).toList = p.written := String.toList_intercalate
  simp only [text]
  cases p.root with
  | relative =>
      by_cases h : p.parts = []
      · simp only [h, if_true]; rfl
      · simp only [h, if_false, hbelow]
  | single => rw [String.toList_append, hbelow]; rfl
  | double => rw [String.toList_append, hbelow]; rfl

variable {p}

theorem split_written (h : p.parts ≠ []) : Text.split '/' p.written = p.parts.map String.toList := by
  refine Text.split_intercalate (by simpa using h) fun s hs => ?_
  obtain ⟨c, hc, rfl⟩ := List.mem_map.1 hs
  exact (p.isComponent c hc).2.2

theorem exists_written_eq_cons {c : String} {rest : List String} (h : p.parts = c :: rest) :
    ∃ a r, p.written = a :: r ∧ a ≠ '/' := by
  have hc : IsComponent c := p.isComponent c (h ▸ List.mem_cons_self)
  obtain ⟨a, r, hchars⟩ : ∃ a r, c.toList = a :: r :=
    List.exists_cons_of_ne_nil fun hnil => hc.1 (String.toList_eq_nil_iff.1 hnil)
  refine ⟨a, ?_⟩
  have ha : a ≠ '/' := fun ha => hc.2.2 (by rw [hchars, ha]; exact List.mem_cons_self)
  cases rest with
  | nil => exact ⟨r, by simp [written, h, hchars], ha⟩
  | cons d rest => exact ⟨_, by rw [written, h, List.map_cons, List.map_cons,
      List.intercalate_cons_cons, hchars]; rfl, ha⟩

theorem componentsOf_of_split {s : String} (before : List (List Char)) (hbefore : ∀ l ∈ before, l = [])
    (h : Text.split '/' s.toList = before ++ p.parts.map String.toList) : componentsOf s = p.parts := by
  have hdropped : ((before.map String.ofList).filter fun c => c ≠ "" ∧ c ≠ ".") = [] := by
    rw [List.filter_eq_nil_iff]
    intro c hc
    obtain ⟨l, hl, rfl⟩ := List.mem_map.1 hc
    simp [hbefore l hl]
  have hkept : (p.parts.filter fun c => c ≠ "" ∧ c ≠ ".") = p.parts := by
    rw [List.filter_eq_self]
    intro c hc
    have hcomponent := p.isComponent c hc
    simp [hcomponent.1, hcomponent.2.1]
  rw [componentsOf, Text.segments, h, List.map_append, List.filter_append, hdropped, List.map_map,
    show String.ofList ∘ String.toList = id from funext fun c => String.ofList_toList, List.map_id,
    hkept, List.nil_append]

theorem componentsOf_text : componentsOf p.text = p.parts := by
  have htext := p.toList_text
  by_cases hparts : p.parts = []
  · have hnil : p.written = [] := by simp [written, hparts]
    -- without names the text is a dot or slashes alone
    cases hroot : p.root with
    | relative =>
        rw [hroot, hnil] at htext
        simp [componentsOf, Text.segments, htext, hparts, Text.split]
    | single =>
        rw [hroot, hnil] at htext
        simp [componentsOf, Text.segments, htext, hparts, Text.split]
    | double =>
        rw [hroot, hnil] at htext
        simp [componentsOf, Text.segments, htext, hparts, Text.split]
  · have hsplit := split_written hparts
    cases hroot : p.root with
    | relative =>
        simp only [hroot, hparts, if_false] at htext
        exact componentsOf_of_split [] (by simp) (by rw [htext, hsplit]; rfl)
    | single =>
        simp only [hroot] at htext
        exact componentsOf_of_split [[]] (by simp) (by rw [htext, Text.split, hsplit]; rfl)
    | double =>
        simp only [hroot] at htext
        exact componentsOf_of_split [[], []] (by simp)
          (by rw [htext, Text.split, Text.split, hsplit]; rfl)

theorem rootOf_text : rootOf p.text = p.root := by
  have htext := p.toList_text
  cases hparts : p.parts with
  | nil =>
      have hnil : p.written = [] := by simp [written, hparts]
      cases hroot : p.root <;> simp [rootOf, htext, hroot, hparts, hnil]
  | cons c rest =>
      obtain ⟨a, r, hwritten, ha⟩ := exists_written_eq_cons hparts
      cases hroot : p.root <;> simp [rootOf, htext, hroot, hparts, hwritten, ha]

theorem ofString_text (p : Path) : ofString p.text = p := by
  cases p with
  | mk root parts isComponent => simp only [ofString, rootOf_text, componentsOf_text]

theorem text_inj {p q : Path} : p.text = q.text ↔ p = q := by
  constructor
  · intro h
    rw [← ofString_text p, h, ofString_text]
  · exact congrArg text

structure Above (p q : Path) : Prop where
  root : p.root = q.root
  parts : p.parts <+: q.parts
  ne : p ≠ q

theorem intercalate_append {names more : List (List Char)} (hnames : names ≠ []) (hmore : more ≠ []) :
    ['/'].intercalate (names ++ more) = ['/'].intercalate names ++ '/' :: ['/'].intercalate more := by
  induction names with
  | nil => exact absurd rfl hnames
  | cons s rest ih =>
      by_cases hrest : rest = []
      · rw [hrest, List.cons_append, List.nil_append, List.intercalate_cons_of_ne_nil hmore,
          List.intercalate_singleton, List.append_assoc]
        rfl
      · rw [List.cons_append, List.intercalate_cons_of_ne_nil (List.append_ne_nil_of_left_ne_nil hrest more),
          List.intercalate_cons_of_ne_nil hrest, ih hrest, List.append_assoc, List.append_assoc,
          List.append_assoc]

theorem Above.exists_written {q : Path} (h : p.Above q) : ∃ c more, q.written = p.written ++ c :: more := by
  obtain ⟨rest, hrest⟩ := h.parts
  have hne : rest ≠ [] := by
    rintro rfl
    rw [List.append_nil] at hrest
    apply h.ne
    cases p
    cases q
    cases h.root
    cases hrest
    rfl
  by_cases hparts : p.parts = []
  · obtain ⟨name, names, rfl⟩ := List.exists_cons_of_ne_nil hne
    have hq : q.parts = name :: names := by rw [← hrest, hparts, List.nil_append]
    obtain ⟨c, more, hwritten, -⟩ := exists_written_eq_cons hq
    exact ⟨c, more, by rw [hwritten, written, hparts]; rfl⟩
  · refine ⟨'/', ['/'].intercalate (rest.map String.toList), ?_⟩
    rw [written, ← hrest, List.map_append, intercalate_append (by simpa using hparts) (by simpa using hne),
      written]

theorem Above.text_lt {q : Path} (h : p.Above q) (habsolute : p.isAbsolute) : p.text < q.text := by
  obtain ⟨c, more, hwritten⟩ := h.exists_written
  have hlonger : p.written < q.written := by
    have hlt : p.written ++ [] < p.written ++ c :: more := List.append_left_lt (List.nil_lt_cons c more)
    rwa [List.append_nil, ← hwritten] at hlt
  have hlt : p.text.toList < q.text.toList := by
    rw [toList_text, toList_text, ← h.root]
    cases hroot : p.root with
    | relative => simp [isAbsolute, hroot] at habsolute
    | single => exact List.cons_lt_cons_self.2 hlonger
    | double => exact List.cons_lt_cons_self.2 (List.cons_lt_cons_self.2 hlonger)
  exact hlt

end Path

end Workcell
