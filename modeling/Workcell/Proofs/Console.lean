import Workcell.Display.Console
import Workcell.Proofs.Escape
import Workcell.Proofs.Path

namespace Workcell.Display

variable {k : Console} {cs : List Char}

theorem showParts_plain (opened : List OpenTag) (pieces : List (List Char)) :
    showParts k opened (pieces.map .plain) = .ok (pieces.flatMap fun p => shown (dropBracketEscapes p)) := by
  induction pieces with
  | nil => rfl
  | cons p pieces ih =>
      rw [List.map_cons, showParts, ih, List.flatMap_cons]
      rfl

theorem dropBracketEscapes_of_free (h : EscapeFree cs) : dropBracketEscapes cs = cs := by
  fun_induction dropBracketEscapes cs with
  | case1 r ih => exact absurd (List.prefix_append ['\\', '['] r).isInfix h
  | case2 c r hne ih => rw [ih fun hpair => h (hpair.trans (List.suffix_cons c r).isInfix)]
  | case3 => rfl

namespace Emoji

variable {name cs : List Char}

theorem exists_of_nameAhead (h : nameAhead? cs = some name) : ∃ r, cs = name ++ ':' :: r := by
  have hsplit := List.takeWhile_append_dropWhile (p := fun c => c ≠ ':' && !Text.isSpacing c) (l := cs)
  rw [nameAhead?] at h
  split at h
  · rename_i r hr
    obtain rfl := Option.some.inj h
    exact ⟨r, by rw [← hr, hsplit]⟩
  · cases h

theorem replaceFrom_skip (skip : Nat) (cs : List Char) :
    replaceFrom skip cs = replaceFrom 0 (cs.drop skip) := by
  induction cs generalizing skip with
  | nil => simp [replaceFrom]
  | cons c r ih =>
      cases skip with
      | zero => rfl
      | succ skip => rw [replaceFrom, ih, List.drop_succ_cons]

theorem replace_eq_self (h : ∀ name, ':' :: (name ++ [':']) <:+: cs → named? name = none) :
    replace cs = cs := by
  induction hlength : cs.length using Nat.strongRecOn generalizing cs with
  | ind length ih =>
      cases cs with
      | nil => rfl
      | cons c r =>
          have hrest (r' : List Char) (hsuffix : r' <:+ r) : replaceFrom 0 r' = r' := by
            have hle : r'.length < length := by
              have := hsuffix.length_le
              simp only [List.length_cons] at hlength
              omega
            refine ih r'.length hle (fun name hname => h name ?_) rfl
            exact hname.trans (hsuffix.trans (List.suffix_cons c r)).isInfix
          rw [replace, replaceFrom]
          by_cases hc : c = ':'
          · subst hc
            rw [if_pos rfl]
            cases hahead : nameAhead? r with
            | none =>
                dsimp only
                rw [hrest r (List.suffix_refl r)]
            | some name =>
                obtain ⟨r', rfl⟩ := exists_of_nameAhead hahead
                have hnone : named? name = none := h name ⟨[], r', by simp⟩
                have hdrop : (name ++ ':' :: r').drop (name.length + 1) = r' := by simp
                dsimp only
                rw [hnone, replaceFrom_skip, hdrop, hrest r' ⟨name ++ [':'], by simp⟩]
                simp
          · rw [if_neg hc, hrest r (List.suffix_refl r)]

end Emoji

theorem shown_eq_self (hnames : ∀ name, ':' :: (name ++ [':']) <:+: cs → Emoji.named? name = none)
    (hkept : ∀ c ∈ cs, isStripped c = false) : shown cs = cs := by
  rw [shown, Emoji.replace_eq_self hnames, List.filter_eq_self]
  intro c hc
  rw [hkept c hc]
  rfl

structure IsLabelText (cs : List Char) : Prop where
  bracketless : '[' ∉ cs
  nonempty : cs ≠ []
  last : ∀ c ∈ cs.getLast?, c ≠ '\\' ∧ Text.isSpacing c = false
  oneLine : '\n' ∉ cs ∧ '\t' ∉ cs
  unchanged : shown cs = cs

theorem isLabelText_iff : IsLabelText cs ↔ '[' ∉ cs ∧ cs ≠ [] ∧
    cs.getLast?.all (fun c => c ≠ '\\' && !Text.isSpacing c) ∧ ('\n' ∉ cs ∧ '\t' ∉ cs) ∧ shown cs = cs := by
  have hlast : cs.getLast?.all (fun c => c ≠ '\\' && !Text.isSpacing c) ↔
      ∀ c ∈ cs.getLast?, c ≠ '\\' ∧ Text.isSpacing c = false := by
    cases cs.getLast? <;> simp
  rw [hlast]
  exact ⟨fun h => ⟨h.bracketless, h.nonempty, h.last, h.oneLine, h.unchanged⟩, fun ⟨hb, hn, hl, ho, hu⟩ =>
    ⟨hb, hn, hl, ho, hu⟩⟩

instance : DecidablePred IsLabelText := fun _ => decidable_of_iff _ isLabelText_iff.symm

structure Label where
  style : String
  text : String
  isStyleName : IsStyleName style.toList
  isLabelText : IsLabelText text.toList

namespace Label

variable (l : Label)

def markup : String := s!"[{l.style}]{l.text}[/{l.style}]"

theorem toList_markup : l.markup.toList =
    '[' :: (l.style.toList ++ ']' :: (l.text.toList ++ '[' :: (('/' :: l.style.toList) ++ [']']))) := by
  simp [markup, toString]

theorem partsFrom_markup (cs : List Char) : ∃ position position' position'',
    partsFrom [] 0 0 (l.markup.toList ++ cs) = .tag position l.style.toList :: .plain l.text.toList ::
      .tag position' ('/' :: l.style.toList) :: partsFrom [] position'' 0 cs := by
  have hlast : l.text.toList.getLast? ≠ some '\\' := fun h => (l.isLabelText.last _ h).1 rfl
  have htag (pending body r : List Char) (position : Nat) (hbody : IsTagBody body) :
      partsFrom pending position 0 ('[' :: (body ++ ']' :: r)) =
        (if pending = [] then [] else [.plain pending.reverse]) ++ [.tag position body] ++
          partsFrom [] (position + (body.length + 2)) 0 r := by
    simpa [tagParts] using partsFrom_tag hbody pending position 0 r
  have hwhole : l.markup.toList ++ cs = '[' :: (l.style.toList ++ ']' :: (l.text.toList ++
      '[' :: (('/' :: l.style.toList) ++ ']' :: cs))) := by
    simp [toList_markup]
  have hpending : l.text.toList.reverse ++ [] ≠ [] := by simpa using l.isLabelText.nonempty
  rw [hwhole, htag _ _ _ _ l.isStyleName.body,
    partsFrom_tagless (tagless_of_not_mem l.isLabelText.bracketless) (by simp [startsTag]) hlast,
    htag _ _ _ _ l.isStyleName.body_closing, if_pos rfl, if_neg hpending, List.append_nil, List.reverse_reverse]
  exact ⟨_, _, _, rfl⟩

theorem exists_render {n : Nat} (hescape : escape cs = escaped n cs) :
    ∃ pieces : List (List Char), pieces.flatten = ' ' :: (cs ++ List.replicate n '\\') ∧
      (Bracketed cs → ∀ p ∈ pieces, EscapeFree p) ∧
      render k (l.markup.toList ++ ' ' :: escape cs) =
        .ok (l.text.toList ++ pieces.flatMap fun p => shown (dropBracketEscapes p)) := by
  obtain ⟨position, position', position'', hparts⟩ := l.partsFrom_markup (' ' :: escape cs)
  obtain ⟨pieces, hpieces, hflatten, hfree⟩ := exists_pieces n cs [' '] (position'' + 1)
  have hblank : tagAhead? (' ' :: escape cs) = none := by simp [tagAhead?]
  have hbracket : '[' ∈ l.markup.toList ++ ' ' :: escape cs := by simp [toList_markup]
  rw [partsFrom_cons hblank, hescape, hpieces] at hparts
  refine ⟨pieces, hflatten, fun hbracketed => hfree ?_ (escapeFree_of_not_mem (by simp)), ?_⟩
  · intro r hr
    rcases List.suffix_cons_iff.1 hr with heq | hsuffix
    · simp at heq
    · exact hbracketed r hsuffix
  · rw [render, if_pos hbracket, hescape, hparts]
    simp only [showParts, l.isStyleName.openAfter_opening, l.isStyleName.openAfter_closing, showParts_plain,
      dropBracketEscapes_of_free (escapeFree_of_not_mem l.isLabelText.bracketless), l.isLabelText.unchanged]
    rfl

end Label

/-- The lines in which a console that has a cell shows text. -/
def Console.linesOf (k : Console) (cs : List Char) : List String :=
  (Text.split '\n' cs).map fun line => String.ofList (dropExcess k.width (detab line))

theorem front_dropExcess (width : Nat) (hs : ∀ c ∈ s.getLast?, Text.isSpacing c = false) (h : s <+: cs) :
    s <+: dropExcess width cs := by
  obtain ⟨t, rfl⟩ := h
  have hblanks : ((s ++ t).reverse.takeWhile Text.isSpacing).length ≤ t.length := by
    have hkept : s.reverse.takeWhile Text.isSpacing = [] := by
      rw [← List.head?_eq_none_iff, List.head?_takeWhile, List.head?_reverse]
      cases hlast : s.getLast? with
      | none => rfl
      | some c => simp [hs c hlast]
    rw [List.reverse_append, List.takeWhile_append, hkept]
    split
    · simp
    · simpa using (List.takeWhile_prefix Text.isSpacing (l := t.reverse)).length_le
  rw [dropExcess, List.prefix_take_iff]
  refine ⟨List.prefix_append s t, ?_⟩
  simp only [List.length_append]
  omega

theorem dropExcess_eq_self {width : Nat}
    (h : cs.length ≤ width ∨ ∀ c ∈ cs.getLast?, Text.isSpacing c = false) : dropExcess width cs = cs := by
  rcases h with hfits | hlast
  · rw [dropExcess, Nat.sub_eq_zero_of_le hfits, Nat.min_zero, Nat.sub_zero, List.take_length]
  · exact (List.take_prefix _ _).eq_of_length_le (front_dropExcess width hlast (List.prefix_refl cs)).length_le

theorem front_detab (hs : '\t' ∉ s) (h : s <+: cs) : s <+: detab cs := by
  obtain ⟨t, rfl⟩ := h
  rw [detab]
  split
  · obtain ⟨first, more, -, hsplit⟩ := Text.exists_split_append hs t
    rw [hsplit]
    cases more with
    | nil => exact List.prefix_append s first
    | cons next more =>
        simp only [expandTabs, List.append_assoc]
        exact List.prefix_append s _
  · exact List.prefix_append s t

theorem exists_linesOf_cons (hline : '\n' ∉ s) (htab : '\t' ∉ s)
    (hlast : ∀ c ∈ s.getLast?, Text.isSpacing c = false) (cs : List Char) :
    ∃ first more, k.linesOf (s ++ cs) = first :: more ∧ s <+: first.toList := by
  obtain ⟨first, more, -, hsplit⟩ := Text.exists_split_append hline cs
  rw [Console.linesOf, hsplit]
  refine ⟨_, _, rfl, ?_⟩
  rw [String.toList_ofList]
  exact front_dropExcess _ hlast (front_detab htab (List.prefix_append s first))

/-- A text that is shown as it is behind a label: a backslash before an opening bracket is lost unless a tag
follows, one at the end is doubled, names between colons turn into emoji, and some characters and white space
that ends a long line are left out. -/
structure Verbatim (k : Console) (label cs : List Char) : Prop where
  bracketed : Bracketed cs
  last : cs.getLast? ≠ some '\\'
  names : ∀ name, ':' :: (name ++ [':']) <:+: cs → Emoji.named? name = none
  kept : ∀ c ∈ cs, isStripped c = false ∧ c ≠ '\t'
  fits : ∀ line ∈ Text.split '\n' (label ++ ' ' :: cs),
    line.length ≤ k.width ∨ ∀ c ∈ line.getLast?, Text.isSpacing c = false

theorem Verbatim.of_plain {label : List Char} (hbackslash : '\\' ∉ cs) (hcolon : ':' ∉ cs)
    (hkept : cs.all fun c => !isStripped c && c ≠ '\t')
    (hfits : ∀ line ∈ Text.split '\n' (label ++ ' ' :: cs), line.length ≤ k.width) :
    Verbatim k label cs where
  bracketed _ hr := absurd (hr.subset List.mem_cons_self) hbackslash
  last hlast := hbackslash (List.mem_of_getLast? hlast)
  names _ hname := absurd (hname.subset List.mem_cons_self) hcolon
  kept := by simpa using hkept
  fits line hline := .inl (hfits line hline)

namespace Label

variable (l : Label)

theorem printLabelled_eq {text : String} {n : Nat} (hescape : escape text.toList = escaped n text.toList) :
    ∃ pieces : List (List Char), pieces.flatten = ' ' :: (text.toList ++ List.replicate n '\\') ∧
      (Bracketed text.toList → ∀ p ∈ pieces, EscapeFree p) ∧
      k.printLabelled l.markup text = .ok (if k.width = 0 then [] else k.linesOf
        (l.text.toList ++ pieces.flatMap fun p => shown (dropBracketEscapes p))) := by
  obtain ⟨pieces, hflatten, hfree, hrender⟩ := l.exists_render hescape
  refine ⟨pieces, hflatten, hfree, ?_⟩
  rw [Console.printLabelled, Console.printMarkup, hrender]
  rfl

theorem printLabelled_of_no_width (hwidth : k.width = 0) (text : String) :
    k.printLabelled l.markup text = .ok [] := by
  obtain ⟨n, hescape⟩ := exists_escape text.toList
  obtain ⟨pieces, -, -, hprinted⟩ := l.printLabelled_eq (k := k) hescape
  rw [hprinted, if_pos hwidth]

theorem exists_printed (hwidth : 0 < k.width) (text : String) : ∃ first more,
    k.printLabelled l.markup text = .ok (first :: more) ∧ l.text.toList <+: first.toList := by
  obtain ⟨n, hescape⟩ := exists_escape text.toList
  obtain ⟨pieces, -, -, hprinted⟩ := l.printLabelled_eq (k := k) hescape
  obtain ⟨first, more, hlines, hfront⟩ :=
    exists_linesOf_cons (k := k) l.isLabelText.oneLine.1 l.isLabelText.oneLine.2
    (fun c hc => (l.isLabelText.last c hc).2) (pieces.flatMap fun p => shown (dropBracketEscapes p))
  rw [if_neg (by omega), hlines] at hprinted
  exact ⟨first, more, hprinted, hfront⟩

theorem printLabelled_of_verbatim {text : String} (hwidth : 0 < k.width)
    (h : Verbatim k l.text.toList text.toList) : k.printLabelled l.markup text =
      .ok ((Text.split '\n' (l.text.toList ++ ' ' :: text.toList)).map String.ofList) := by
  obtain ⟨pieces, hflatten, hfree, hprinted⟩ := l.printLabelled_eq (escape_of_last h.last)
  rw [List.replicate_zero, List.append_nil] at hflatten
  have hpiece : ∀ p ∈ pieces, shown (dropBracketEscapes p) = p := by
    intro p hp
    have hwithin : p <:+: ' ' :: text.toList := hflatten ▸ List.infix_of_mem_flatten hp
    rw [dropBracketEscapes_of_free (hfree h.bracketed p hp)]
    apply shown_eq_self
    · intro name hname
      rcases List.infix_cons_iff.1 (hname.trans hwithin) with hfirst | hrest
      · simp at hfirst
      · exact h.names name hrest
    · intro c hc
      rcases List.mem_cons.1 (hwithin.subset hc) with rfl | hmem
      · decide
      · exact (h.kept c hmem).1
  have htext : (pieces.flatMap fun p => shown (dropBracketEscapes p)) = ' ' :: text.toList := by
    rw [← hflatten, List.flatMap_def, List.map_congr_left hpiece, List.map_id']
  rw [hprinted, if_neg (by omega), htext, Console.linesOf]
  congr 1
  apply List.map_congr_left
  intro line hline
  have htab : '\t' ∉ line := by
    intro hmem
    rcases List.mem_append.1 (Text.subset_of_mem_split hline hmem) with hlabel | hrest
    · exact l.isLabelText.oneLine.2 hlabel
    · rcases List.mem_cons.1 hrest with heq | hmem'
      · simp at heq
      · exact (h.kept _ hmem').2 rfl
  rw [detab, if_neg htab, dropExcess_eq_self (h.fits line hline)]

theorem isStyleName_styles : ∀ style ∈ ["bold", "red"], IsStyleName style.toList := by
  decide +kernel

theorem isLabelText_texts : ∀ text ∈ ["Command:", "Working directory:", "Settings error:", "Runner error:"],
    IsLabelText text.toList := by
  decide +kernel

def command : Label := ⟨"bold", "Command:", isStyleName_styles _ (by simp), isLabelText_texts _ (by simp)⟩

def directory : Label :=
  ⟨"bold", "Working directory:", isStyleName_styles _ (by simp), isLabelText_texts _ (by simp)⟩

def settingsError : Label :=
  ⟨"red", "Settings error:", isStyleName_styles _ (by simp), isLabelText_texts _ (by simp)⟩

def runnerError : Label :=
  ⟨"red", "Runner error:", isStyleName_styles _ (by simp), isLabelText_texts _ (by simp)⟩

end Label

end Workcell.Display
