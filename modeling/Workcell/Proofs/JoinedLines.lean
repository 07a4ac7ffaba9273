import Workcell.Proofs.Redaction

namespace Workcell

def joined (lines : List (List Char)) : List Char := ['\n'].intercalate lines

/-- No occurrence of `src` in the joined lines holds the end of one of them. -/
def WithinLines (src : List Char) (lines : List (List Char)) : Prop :=
  ∀ before after, before ≠ [] → after ≠ [] → lines = before ++ after →
    ∀ i ≤ (joined before).length, src <+: (joined before ++ '\n' :: joined after).drop i →
      i + src.length ≤ (joined before).length

/-- No source, when its turn comes, reaches over the end of a line. -/
def Unbroken : List Replacement → List (List Char) → Prop
  | [], _ => True
  | p :: rest, lines =>
    WithinLines p.1.toList lines ∧ Unbroken rest (lines.map (replaceAll p.1.toList p.2.toList))

variable {src dst line cs : List Char} {lines : List (List Char)} {replacements : List Replacement}

theorem withinLines_iff : WithinLines src lines ↔
    ∀ k < lines.length, 0 < k → ∀ i ≤ (joined (lines.take k)).length,
      src <+: (joined (lines.take k) ++ '\n' :: joined (lines.drop k)).drop i →
        i + src.length ≤ (joined (lines.take k)).length := by
  constructor
  · intro h k hk hpos
    refine h (lines.take k) (lines.drop k) ?_ ?_ (List.take_append_drop k lines).symm
    · rw [← List.length_pos_iff, List.length_take]
      omega
    · rw [← List.length_pos_iff, List.length_drop]
      omega
  · rintro h before after hbefore hafter rfl
    have hcut : before.length < (before ++ after).length := by
      have hpos := List.length_pos_iff.2 hafter
      rw [List.length_append]
      omega
    simpa only [List.take_left, List.drop_left] using h before.length hcut (List.length_pos_iff.2 hbefore)

instance : Decidable (WithinLines src lines) :=
  decidable_of_iff' _ withinLines_iff

instance decidableUnbroken : (replacements : List Replacement) → (lines : List (List Char)) →
    Decidable (Unbroken replacements lines)
  | [], _ => .isTrue trivial
  | p :: rest, lines =>
    have := decidableUnbroken rest (lines.map (replaceAll p.1.toList p.2.toList))
    inferInstanceAs (Decidable (WithinLines p.1.toList lines ∧ Unbroken rest _))

theorem joined_cons (line : List Char) (h : lines ≠ []) :
    joined (line :: lines) = line ++ '\n' :: joined lines := by
  obtain ⟨next, rest, rfl⟩ := List.exists_cons_of_ne_nil h
  rw [joined, List.intercalate_cons_cons, List.append_assoc]
  rfl

theorem WithinLines.tail (h : WithinLines src (line :: lines)) : WithinLines src lines := by
  intro before after hbefore hafter hlines i hi hocc
  have hjoined := joined_cons line hbefore
  have hdrop : (joined (line :: before) ++ '\n' :: joined after).drop (line.length + (i + 1)) =
      (joined before ++ '\n' :: joined after).drop i := by
    rw [hjoined, List.append_assoc, List.drop_length_add_append]
    rfl
  have hend := h (line :: before) after (List.cons_ne_nil _ _) hafter (by rw [hlines]; rfl)
    (line.length + (i + 1)) (by simp [hjoined]; omega) (hdrop ▸ hocc)
  simp only [hjoined, List.length_append, List.length_cons] at hend
  omega

theorem replaceAll_joined (hsrc : src ≠ []) (h : WithinLines src lines) (dst : List Char) :
    replaceAll src dst (joined lines) = joined (lines.map (replaceAll src dst)) := by
  have hpos := List.length_pos_iff.2 hsrc
  induction lines with
  | nil => rfl
  | cons line lines ih =>
      by_cases hnil : lines = []
      · simp [hnil, joined]
      · have hhead : ∀ i ≤ line.length, src <+: (line ++ '\n' :: joined lines).drop i →
            i + src.length ≤ line.length := by
          simpa [joined] using h [line] lines (by simp) hnil rfl
        have hseam : Seam src line ('\n' :: joined lines) := fun i hi hocc => hhead i hi.le hocc
        have hfeed : ¬src <+: '\n' :: joined lines := by
          intro hocc
          have hend := hhead line.length (Nat.le_refl _) (by rwa [List.drop_left])
          omega
        rw [joined_cons line hnil, replaceAll_append hsrc hseam, replaceAll_cons hfeed, ih h.tail,
          List.map_cons, joined_cons _ (by simpa using hnil)]

theorem redactChars_joined (hsources : ∀ p ∈ replacements, p.1.toList ≠ [])
    (h : Unbroken replacements lines) :
    redactChars replacements (joined lines) = joined (lines.map (redactChars replacements)) := by
  induction replacements generalizing lines with
  | nil =>
      rw [show redactChars [] = id from rfl, List.map_id]
      rfl
  | cons p replacements ih =>
      obtain ⟨hp, hsources⟩ := List.forall_mem_cons.1 hsources
      obtain ⟨hwithin, hrest⟩ := h
      calc redactChars (p :: replacements) (joined lines)
          = redactChars replacements (joined (lines.map (replaceAll p.1.toList p.2.toList))) :=
            congrArg (redactChars replacements) (replaceAll_joined hp hwithin _)
        _ = joined (lines.map (redactChars (p :: replacements))) := by
            rw [ih hsources hrest, List.map_map]
            rfl

/-- A source that lies within one line would begin before the line feed, and then ends before it too. -/
theorem withinLines_of_not_mem (hsrc : src ≠ []) (hfeed : '\n' ∉ src) (lines : List (List Char)) :
    WithinLines src lines := by
  intro before after _ _ _ i hi hocc
  have hoccFeed : src <+: (joined before ++ (['\n'] ++ joined after)).drop i := hocc
  rcases (apart_feed hsrc hfeed).not_across hoccFeed with hend | hstart
  · exact hend
  · rw [List.length_singleton] at hstart
    omega

theorem unbroken_of_not_mem
    (h : ∀ p ∈ replacements, p.1.toList ≠ [] ∧ '\n' ∉ p.1.toList) (lines : List (List Char)) :
    Unbroken replacements lines := by
  induction replacements generalizing lines with
  | nil => exact trivial
  | cons p replacements ih =>
      obtain ⟨⟨hsrc, hfeed⟩, h⟩ := List.forall_mem_cons.1 h
      exact ⟨withinLines_of_not_mem hsrc hfeed lines, ih h _⟩

theorem not_mem_replaceAll {c : Char} (hcs : c ∉ cs) (hdst : c ∉ dst) (src : List Char) :
    c ∉ replaceAll src dst cs := by
  have hfrom : ∀ k, c ∉ replaceFrom src dst k cs := by
    induction cs with
    | nil => simp [replaceFrom]
    | cons d cs ih =>
        rw [List.mem_cons, not_or] at hcs
        intro k
        cases k with
        | zero =>
            rw [replaceFrom]
            split
            · simp [hdst, ih hcs.2]
            · simp [hcs.1, ih hcs.2]
        | succ k => exact ih hcs.2 k
  exact hfrom 0

theorem redactChars_filter (hsources : ∀ p ∈ replacements, p.1.toList ≠ [])
    (hmasks : ∀ p ∈ replacements, '\n' ∉ p.2.toList) (hcs : '\n' ∉ cs) :
    redactChars (replacements.filter fun p => '\n' ∉ p.1.toList) cs = redactChars replacements cs := by
  induction replacements generalizing cs with
  | nil => rfl
  | cons p replacements ih =>
      obtain ⟨hp, hsources⟩ := List.forall_mem_cons.1 hsources
      obtain ⟨hmask, hmasks⟩ := List.forall_mem_cons.1 hmasks
      have hrest := ih hsources hmasks (not_mem_replaceAll hcs hmask p.1.toList)
      by_cases hfeed : '\n' ∈ p.1.toList
      · have hkeeps : replaceAll p.1.toList p.2.toList cs = cs := by
          rcases replaceAll_cases hp p.2.toList cs with ⟨-, heq⟩ | ⟨before, tail, heq, -⟩
          · exact heq
          · exact absurd (by simp [heq, hfeed]) hcs
        rw [List.filter_cons_of_neg (by simpa using hfeed)]
        rw [hkeeps] at hrest
        rw [hrest, redactChars, redactChars, List.foldl_cons, hkeeps]
      · rw [List.filter_cons_of_pos (by simpa using hfeed)]
        exact hrest

theorem toList_intercalate_feed (lines : List String) :
    ("\n".intercalate lines).toList = joined (lines.map String.toList) :=
  String.toList_intercalate

theorem intercalate_redact {lines : List String} (hsources : ∀ p ∈ replacements, p.1.toList ≠ [])
    (h : Unbroken replacements (lines.map String.toList)) :
    "\n".intercalate (lines.map (redact replacements)) = redact replacements ("\n".intercalate lines) := by
  have hredact : String.toList ∘ redact replacements = redactChars replacements ∘ String.toList :=
    funext fun line => String.toList_ofList
  apply String.toList_inj.1
  rw [redact, String.toList_ofList, toList_intercalate_feed, toList_intercalate_feed,
    redactChars_joined hsources h, List.map_map, List.map_map, hredact]

section Ordered

variable {redactions : Pairs}

theorem toList_ne_nil_of_mem_ordered :
    ∀ p ∈ orderedRedactions redactions, p.1.toList ≠ [] := by
  intro p hp
  simpa using (mem_orderedRedactions.1 hp).2

theorem orderedRedactions_single {p : Replacement} (h : p.1 ≠ "") :
    orderedRedactions (.ofList [p]) = [p] := by
  have hentries : ((Pairs.ofList [p]).entries.filter fun q => q.1 ≠ "") = [p] :=
    List.filter_cons_of_pos (by simpa using h)
  rw [orderedRedactions, hentries, List.mergeSort_singleton]

theorem unbroken_ordered (h : ∀ p ∈ redactions.entries, p.1 ≠ "" → '\n' ∉ p.1.toList)
    (lines : List (List Char)) : Unbroken (orderedRedactions redactions) lines := by
  apply unbroken_of_not_mem
  intro p hp
  obtain ⟨hentry, hne⟩ := mem_orderedRedactions.1 hp
  exact ⟨toList_ne_nil_of_mem_ordered p hp, h p hentry hne⟩

theorem intercalate_redact_filter {lines : List String} (hlines : ∀ line ∈ lines, '\n' ∉ line.toList)
    (hmasks : ∀ p ∈ redactions.entries, p.1 ≠ "" → '\n' ∉ p.2.toList) :
    "\n".intercalate (lines.map (redact (orderedRedactions redactions))) =
      redact ((orderedRedactions redactions).filter fun p => '\n' ∉ p.1.toList)
        ("\n".intercalate lines) := by
  have hordered : ∀ p ∈ orderedRedactions redactions, '\n' ∉ p.2.toList := by
    intro p hp
    obtain ⟨hp, hne⟩ := mem_orderedRedactions.1 hp
    exact hmasks p hp hne
  have hkept : ∀ p ∈ (orderedRedactions redactions).filter fun p => '\n' ∉ p.1.toList,
      p.1.toList ≠ [] ∧ '\n' ∉ p.1.toList := by
    intro p hp
    obtain ⟨hp, hfeed⟩ := List.mem_filter.1 hp
    exact ⟨toList_ne_nil_of_mem_ordered p hp, by simpa using hfeed⟩
  have hsame : lines.map (redact (orderedRedactions redactions)) =
      lines.map (redact ((orderedRedactions redactions).filter fun p => '\n' ∉ p.1.toList)) := by
    apply List.map_congr_left
    intro line hline
    rw [redact, redact, redactChars_filter toList_ne_nil_of_mem_ordered hordered (hlines line hline)]
  rw [hsame]
  exact intercalate_redact (fun p hp => (hkept p hp).1) (unbroken_of_not_mem hkept _)

end Ordered

/-- Lines redacted one by one are the text that they make redacted at once, if no source holds a line feed, and
also if none, when its turn comes, reaches over the end of a line. Where masks hold no line feeds, the lines
are redacted as the whole text is by those sources alone that hold none. -/
theorem redact_lines (redactions : Pairs) (lines : List String) :
    let ordered := orderedRedactions redactions
    ((∀ p ∈ redactions.entries, p.1 ≠ "" → '\n' ∉ p.1.toList) →
      "\n".intercalate (lines.map (redact ordered)) = redact ordered ("\n".intercalate lines)) ∧
    (Unbroken ordered (lines.map String.toList) →
      "\n".intercalate (lines.map (redact ordered)) = redact ordered ("\n".intercalate lines)) ∧
    ((∀ line ∈ lines, '\n' ∉ line.toList) →
      (∀ p ∈ redactions.entries, p.1 ≠ "" → '\n' ∉ p.2.toList) →
      "\n".intercalate (lines.map (redact ordered)) =
        redact (ordered.filter fun p => '\n' ∉ p.1.toList) ("\n".intercalate lines)) := by
  refine ⟨fun hfree => ?_, intercalate_redact toList_ne_nil_of_mem_ordered, intercalate_redact_filter⟩
  exact intercalate_redact toList_ne_nil_of_mem_ordered (unbroken_ordered hfree _)

def Pairs.ringing : Pairs := .ofList [("ring", "o\no")]

def Pairs.spanning : Pairs := .ofList [("ring", "+++"), ("key\nring", "###")]

theorem orderedRedactions_spanning :
    orderedRedactions .spanning = [("key\nring", "###"), ("ring", "+++")] := by
  have hentries : (Pairs.spanning.entries.filter fun p => p.1 ≠ "") =
      [("ring", "+++"), ("key\nring", "###")] := by decide
  have hlengths : "ring".length = 4 ∧ "key\nring".length = 8 := by decide
  rw [orderedRedactions, hentries]
  simp [List.mergeSort, List.MergeSort.Internal.splitInTwo, hlengths]

theorem redact_lines_spanning :
    (∀ p ∈ Pairs.ringing.entries, p.1 ≠ "" → '\n' ∉ p.1.toList) ∧
      "\n".intercalate (["a ring", "to ring"].map (redact (orderedRedactions .ringing))) =
        "a o\no\nto o\no" ∧
      Unbroken (orderedRedactions .spanning) (["my key", "to ring"].map String.toList) ∧
      "\n".intercalate (["my key", "to ring"].map (redact (orderedRedactions .spanning))) = "my key\nto +++" ∧
      (∀ line ∈ ["my key", "ring"], '\n' ∉ line.toList) ∧
      (∀ p ∈ Pairs.spanning.entries, p.1 ≠ "" → '\n' ∉ p.2.toList) ∧
      "\n".intercalate (["my key", "ring"].map (redact (orderedRedactions .spanning))) = "my key\n+++" := by
  have hfree : ∀ p ∈ Pairs.ringing.entries, p.1 ≠ "" → '\n' ∉ p.1.toList := by decide
  have hunbroken : Unbroken (orderedRedactions .spanning) (["my key", "to ring"].map String.toList) := by
    rw [orderedRedactions_spanning]
    decide +kernel
  have hlines : ∀ line ∈ ["my key", "ring"], '\n' ∉ line.toList := by decide
  have hmasks : ∀ p ∈ Pairs.spanning.entries, p.1 ≠ "" → '\n' ∉ p.2.toList := by decide
  refine ⟨hfree, ?_, hunbroken, ?_, hlines, hmasks, ?_⟩
  · rw [(redact_lines .ringing ["a ring", "to ring"]).1 hfree, Pairs.ringing,
      orderedRedactions_single (by decide)]
    decide
  · rw [(redact_lines .spanning ["my key", "to ring"]).2.1 hunbroken, orderedRedactions_spanning]
    decide
  · rw [(redact_lines .spanning ["my key", "ring"]).2.2 hlines hmasks, orderedRedactions_spanning]
    decide

def Pairs.block : Pairs := .ofList [("key\nring", "***\n***")]

/-- A secret that spans two lines is masked in the text, and not in its lines. -/
theorem lines_not_redacted_at_once :
    (∀ line ∈ ["key", "ring"], '\n' ∉ line.toList) ∧
      "\n".intercalate (["key", "ring"].map (redact (orderedRedactions .block))) = "key\nring" ∧
      redact (orderedRedactions .block) ("\n".intercalate ["key", "ring"]) = "***\n***" ∧
      "\n".intercalate (["key", "ring"].map (redact (orderedRedactions .block))) ≠
        redact (orderedRedactions .block) ("\n".intercalate ["key", "ring"]) := by
  rw [Pairs.block, orderedRedactions_single (by decide)]
  decide

end Workcell
