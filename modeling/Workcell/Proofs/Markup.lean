import Mathlib.Data.List.TakeWhile
import Workcell.Display.Table
import Workcell.Proofs.Except

namespace Workcell.Display

variable {k : Console} {opened opened' : List OpenTag} {parts : List Part} {body cs s t r : List Char}

/-- What stands in the tags of parts. -/
def bodies (parts : List Part) : List (List Char) :=
  parts.filterMap fun
    | .plain _ => none
    | .tag _ body => some body

theorem bodies_append (ps qs : List Part) : bodies (ps ++ qs) = bodies ps ++ bodies qs := List.filterMap_append

theorem bodies_flush (pending : List Char) :
    bodies (if pending = [] then [] else [.plain pending.reverse]) = [] := by
  split <;> rfl

theorem bodies_tagParts (position n : Nat) (body : List Char) :
    bodies (tagParts position n body) = if n % 2 = 1 then [] else [body] := by
  have hbackslashes : bodies (if n < 2 then [] else [.plain (List.replicate (n / 2) '\\')]) = [] := by
    split <;> rfl
  rw [tagParts, bodies_append, hbackslashes, List.nil_append]
  split <;> rfl

/-- Tags do not depend on what is pending before them, nor on where they stand. -/
theorem bodies_partsFrom (pending : List Char) (position skip : Nat) (cs : List Char) :
    bodies (partsFrom pending position skip cs) = bodies (partsFrom [] 0 skip cs) := by
  induction cs generalizing pending position skip with
  | nil => exact bodies_flush pending
  | cons c r ih =>
      cases skip with
      | succ skip => exact (ih _ _ _).trans (ih [] (0 + 1) _).symm
      | zero =>
          rw [partsFrom, partsFrom]
          cases tagAhead? (c :: r) with
          | none => exact (ih _ _ _).trans (ih _ _ _).symm
          | some tag =>
              simp only [bodies_append, bodies_flush, bodies_tagParts, ih [] (position + 1), ih [] (0 + 1), if_true]
              rfl

theorem partsFrom_skip (pending : List Char) (position : Nat) {skip : Nat} (h : skip ≤ cs.length) :
    partsFrom pending position skip cs = partsFrom pending (position + skip) 0 (cs.drop skip) := by
  induction cs generalizing position skip with
  | nil =>
      obtain rfl : skip = 0 := Nat.le_zero.1 h
      rfl
  | cons c r ih =>
      cases skip with
      | zero => rfl
      | succ skip =>
          rw [partsFrom, ih (position + 1) (by simpa using h), List.drop_succ_cons]
          congr 1
          omega

/-- The tags of a text in their order. -/
def tags (cs : List Char) : List (List Char) := bodies (partsFrom [] 0 0 cs)

theorem partsFrom_cons {c : Char} (h : tagAhead? (c :: r) = none) (pending : List Char) (position : Nat) :
    partsFrom pending position 0 (c :: r) = partsFrom (c :: pending) (position + 1) 0 r := by
  rw [partsFrom, h]

theorem tags_cons {c : Char} (h : tagAhead? (c :: r) = none) : tags (c :: r) = tags r := by
  rw [tags, partsFrom_cons h]
  exact bodies_partsFrom _ _ _ _

def IsTagBody : List Char → Prop
  | [] => False
  | c :: r => startsTag c = true ∧ ']' ∉ r ∧ '[' ∉ r

instance : DecidablePred IsTagBody
  | [] => inferInstanceAs (Decidable False)
  | _ :: _ => inferInstanceAs (Decidable (_ ∧ _ ∧ _))

theorem IsTagBody.exists_eq_cons (h : IsTagBody body) :
    ∃ c r, body = c :: r ∧ startsTag c = true ∧ ']' ∉ r ∧ '[' ∉ r := by
  cases body with
  | nil => cases h
  | cons c r => exact ⟨c, r, rfl, h⟩

theorem tagAhead_of_tag (hbody : IsTagBody body) (n : Nat) (r : List Char) :
    tagAhead? (List.replicate n '\\' ++ '[' :: (body ++ ']' :: r)) = some (n, body) := by
  obtain ⟨c, inner, rfl, hstart, hclose, hopen⟩ := hbody.exists_eq_cons
  have hinner : ∀ d ∈ inner, d ≠ ']' ∧ d ≠ '[' := fun d hd =>
    ⟨fun h => hclose (h ▸ hd), fun h => hopen (h ▸ hd)⟩
  have htake : (inner ++ ']' :: r).takeWhile (fun d => d ≠ ']' && d ≠ '[') = inner := by
    rw [List.takeWhile_append_of_pos (by simpa using hinner)]
    simp
  have hdrop : (inner ++ ']' :: r).dropWhile (fun d => d ≠ ']' && d ≠ '[') = ']' :: r := by
    rw [List.dropWhile_append_of_pos (by simpa using hinner)]
    simp
  have hcount : (List.replicate n '\\' ++ '[' :: (c :: inner ++ ']' :: r)).takeWhile (· = '\\') =
      List.replicate n '\\' := by
    rw [List.takeWhile_append_of_pos (by simp)]
    simp
  have hrest : (List.replicate n '\\' ++ '[' :: (c :: inner ++ ']' :: r)).dropWhile (· = '\\') =
      '[' :: (c :: inner ++ ']' :: r) := by
    rw [List.dropWhile_append_of_pos (by simp)]
    simp
  rw [tagAhead?, hcount, hrest]
  simp only [List.cons_append, tagBody?, hstart, if_true, hdrop, htake, Option.map_some,
    List.length_replicate]

theorem partsFrom_tag (hbody : IsTagBody body) (pending : List Char) (position n : Nat) (r : List Char) :
    partsFrom pending position 0 (List.replicate n '\\' ++ '[' :: (body ++ ']' :: r)) =
      (if pending = [] then [] else [.plain pending.reverse]) ++ tagParts position n body ++
        partsFrom [] (position + (n + body.length + 2)) 0 r := by
  have htag := tagAhead_of_tag hbody n r
  have hlength : (List.replicate n '\\' ++ '[' :: (body ++ ']' :: r)).length =
      n + body.length + 1 + 1 + r.length := by
    simp only [List.length_append, List.length_replicate, List.length_cons]
    omega
  have hdrop : (List.replicate n '\\' ++ '[' :: (body ++ ']' :: r)).drop (n + body.length + 1 + 1) = r := by
    rw [show n + body.length + 1 + 1 = n + (body.length + 2) by omega, ← List.drop_drop,
      List.drop_left' List.length_replicate, List.drop_succ_cons, ← List.drop_drop,
      List.drop_left, List.drop_succ_cons, List.drop_zero]
  cases hcs : List.replicate n '\\' ++ '[' :: (body ++ ']' :: r) with
  | nil =>
      rw [hcs, List.length_nil] at hlength
      omega
  | cons c tail =>
      rw [hcs] at htag hlength hdrop
      rw [List.length_cons] at hlength
      rw [partsFrom, htag]
      dsimp only
      rw [partsFrom_skip _ _ (by omega), ← List.drop_succ_cons, hdrop,
        show position + 1 + (n + body.length + 1) = position + (n + body.length + 2) by omega]

theorem tags_tag (hbody : IsTagBody body) (n : Nat) (r : List Char) :
    tags (List.replicate n '\\' ++ '[' :: (body ++ ']' :: r)) =
      if n % 2 = 1 then tags r else body :: tags r := by
  rw [tags, partsFrom_tag hbody, bodies_append, bodies_append, if_pos rfl, bodies_tagParts, bodies_partsFrom]
  split <;> rfl

/-- Text in which no opening bracket begins a tag. -/
def Tagless (cs : List Char) : Prop := ∀ c r, '[' :: c :: r <:+ cs → startsTag c = false

theorem Tagless.tail {c : Char} (h : Tagless (c :: cs)) : Tagless cs :=
  fun d r hd => h d r (hd.trans (List.suffix_cons _ _))

theorem tagless_of_not_mem (h : '[' ∉ cs) : Tagless cs :=
  fun _ _ hd => absurd (hd.mem List.mem_cons_self) h

theorem tagAhead_of_tagless (hs : Tagless s) (ht : ∀ c ∈ t.head?, startsTag c = false)
    (hplain : ∃ c ∈ s, c ≠ '\\') : tagAhead? (s ++ t) = none := by
  have hne : s.dropWhile (· = '\\') ≠ [] := by
    simpa [List.dropWhile_eq_nil_iff] using hplain
  have hdrop : (s ++ t).dropWhile (· = '\\') = s.dropWhile (· = '\\') ++ t := by
    rw [List.dropWhile_append, if_neg (by simpa using hne)]
  rw [tagAhead?, hdrop]
  split
  · rename_i r hr
    rw [Option.map_eq_none_iff]
    cases r with
    | nil => rfl
    | cons d r =>
        have hd : startsTag d = false := by
          cases hq : s.dropWhile (· = '\\') with
          | nil => exact absurd hq hne
          | cons b q =>
              rw [hq, List.cons_append, List.cons.injEq] at hr
              obtain ⟨rfl, hr⟩ := hr
              cases q with
              | nil => exact ht d (by rw [List.nil_append] at hr; simp [hr])
              | cons e q =>
                  obtain ⟨rfl, -⟩ := List.cons.inj hr
                  exact hs e q (hq ▸ List.dropWhile_suffix _)
        rw [tagBody?, hd]
        rfl
  · rfl

theorem partsFrom_tagless (hs : Tagless s) (ht : ∀ c ∈ t.head?, startsTag c = false)
    (hlast : s.getLast? ≠ some '\\') (pending : List Char) (position : Nat) :
    partsFrom pending position 0 (s ++ t) = partsFrom (s.reverse ++ pending) (position + s.length) 0 t := by
  induction s generalizing pending position with
  | nil => rfl
  | cons c r ih =>
      -- the last character is no backslash, so what is left is never of backslashes alone
      have hplain : ∃ d ∈ c :: r, d ≠ '\\' :=
        ⟨(c :: r).getLast (List.cons_ne_nil _ _), List.getLast_mem _, fun h =>
          hlast (by rw [List.getLast?_eq_some_getLast (List.cons_ne_nil c r), h])⟩
      have hnone : tagAhead? (c :: (r ++ t)) = none := tagAhead_of_tagless hs ht hplain
      have hrest : r.getLast? ≠ some '\\' := by
        intro hr
        apply hlast
        rw [List.getLast?_cons, hr]
        rfl
      have hplace : position + 1 + r.length = position + (c :: r).length := by
        rw [List.length_cons]
        omega
      rw [List.cons_append, partsFrom_cons hnone, ih hs.tail hrest, hplace]
      simp

theorem tags_tagless_append (hs : Tagless s) (ht : ∀ c ∈ t.head?, startsTag c = false)
    (hlast : s.getLast? ≠ some '\\') : tags (s ++ t) = tags t := by
  rw [tags, partsFrom_tagless hs ht hlast]
  exact bodies_partsFrom _ _ _ _

/-- Backslashes at the end of a text belong to the tag behind it. -/
theorem exists_tags_tagless_append (hs : Tagless s) (ht : ∀ c ∈ t.head?, startsTag c = false) :
    ∃ n, tags (s ++ t) = tags (List.replicate n '\\' ++ t) := by
  induction s with
  | nil => exact ⟨0, rfl⟩
  | cons c r ih =>
      by_cases hplain : ∃ d ∈ c :: r, d ≠ '\\'
      · have hnone : tagAhead? (c :: (r ++ t)) = none := tagAhead_of_tagless hs ht hplain
        rw [List.cons_append, tags_cons hnone]
        exact ih hs.tail
      · have hall : c :: r = List.replicate (c :: r).length '\\' :=
          List.eq_replicate_iff.2 ⟨rfl, fun d hd => by simpa using fun hne => hplain ⟨d, hd, hne⟩⟩
        exact ⟨(c :: r).length, by rw [← hall]⟩

theorem tags_backslashes (n : Nat) (ht : ∀ c ∈ t.head?, c ≠ '[' ∧ c ≠ '\\') :
    tags (List.replicate n '\\' ++ t) = tags t := by
  induction n with
  | zero => rfl
  | succ n ih =>
      have hdrop : (List.replicate (n + 1) '\\' ++ t).dropWhile (· = '\\') = t := by
        rw [List.dropWhile_append_of_pos (by simp)]
        cases t with
        | nil => rfl
        | cons c r => rw [List.dropWhile_cons_of_neg (by simpa using (ht c rfl).2)]
      have hnone : tagAhead? (List.replicate (n + 1) '\\' ++ t) = none := by
        rw [tagAhead?, hdrop]
        cases t with
        | nil => rfl
        | cons c r =>
            split
            · rename_i r' h
              exact absurd (List.cons.inj h).1 (ht c rfl).1
            · rfl
      exact (tags_cons hnone).trans ih

theorem tags_of_tagless (hs : Tagless s) : tags s = [] := by
  obtain ⟨n, hn⟩ := exists_tags_tagless_append (t := []) hs (by simp)
  rw [List.append_nil] at hn
  rw [hn, tags_backslashes n (by simp)]
  rfl

/-- Tags that can be read one after the other while some are open. -/
def Opens (k : Console) : List OpenTag → List (List Char) → Prop
  | _, [] => True
  | opened, body :: r => ∃ opened', openAfter k opened 0 body = .ok opened' ∧ Opens k opened' r

theorem openAfter_eq_ok_iff (position : Nat) :
    openAfter k opened position body = .ok opened' ↔ openAfter k opened 0 body = .ok opened' := by
  simp only [openAfter]
  cases roleOf body with
  | error e => simp
  | ok role => cases role with
    | opening name => rfl
    | closing name => cases hclose : opened.find? (·.isClosedBy name) <;> simp [hclose]

theorem exists_showParts_iff : (∃ out, showParts k opened parts = .ok out) ↔ Opens k opened (bodies parts) := by
  induction parts generalizing opened with
  | nil => exact iff_of_true ⟨[], rfl⟩ trivial
  | cons part r ih =>
      cases part with
      | plain cs =>
          refine Iff.trans ?_ ih
          rw [showParts]
          cases showParts k opened r <;> simp [Except.map]
      | tag position body =>
          change _ ↔ ∃ opened', openAfter k opened 0 body = .ok opened' ∧ Opens k opened' (bodies r)
          simp only [showParts, ← ih, ← openAfter_eq_ok_iff position]
          cases openAfter k opened position body <;> simp

/-- A text can be shown while some tags are open. -/
def Shows (k : Console) (opened : List OpenTag) (cs : List Char) : Prop := Opens k opened (tags cs)

theorem shows_nil : Shows k opened [] := trivial

theorem shows_of_tagless (hs : Tagless s) : Shows k opened s := by
  rw [Shows, tags_of_tagless hs]
  trivial

/-- What is wrong with a tag as the style of the text in it. -/
def tagFault? (body : List Char) : Option MarkupError :=
  match roleOf body with
  | .ok (.opening name) => (OpenTag.span ⟨name, tagParameters body⟩ 0 0).fault?
  | _ => none

/-- A tag that is written as the normal form of its style. -/
structure IsStyleName (name : List Char) : Prop where
  body : IsTagBody name
  opening : name.head? ≠ some '/'
  noValue : '=' ∉ name
  trimmed : Text.trim Text.isSpacing name = name
  normal : Style.normalize name = .ok name
  sound : tagFault? name = none

theorem isStyleName_iff {name : List Char} : IsStyleName name ↔
    IsTagBody name ∧ name.head? ≠ some '/' ∧ '=' ∉ name ∧ Text.trim Text.isSpacing name = name ∧
      Style.normalize name = .ok name ∧ tagFault? name = none :=
  ⟨fun h => ⟨h.body, h.opening, h.noValue, h.trimmed, h.normal, h.sound⟩,
    fun ⟨hb, ho, hv, ht, hn, hs⟩ => ⟨hb, ho, hv, ht, hn, hs⟩⟩

instance : DecidablePred IsStyleName := fun _ => decidable_of_iff _ isStyleName_iff.symm

theorem tagName_of_not_mem (h : '=' ∉ body) : tagName body = body := by
  rw [tagName, List.takeWhile_eq_self_iff]
  intro c hc
  have hne : c ≠ '=' := fun heq => h (heq ▸ hc)
  simpa using hne

theorem isTagBody_closing {name : List Char} (hclose : ']' ∉ name) (hopen : '[' ∉ name) :
    IsTagBody ('/' :: name) :=
  ⟨by decide, hclose, hopen⟩

theorem tagParameters_of_not_mem (h : '=' ∉ body) : tagParameters body = [] := by
  rw [tagParameters, List.dropWhile_eq_nil_iff.2]
  · rfl
  · intro c hc
    have hne : c ≠ '=' := fun heq => h (heq ▸ hc)
    simpa using hne

/-- There is something for a closing tag to close. -/
def Closes (opened : List OpenTag) (name : List Char) : Prop :=
  ∃ t ∈ opened, Text.trim Text.isSpacing name = [] ∨
    Style.normalize (Text.trim Text.isSpacing name) = .ok t.name

theorem tagName_closing (name : List Char) (h : '=' ∉ name) : tagName ('/' :: name) = '/' :: name :=
  tagName_of_not_mem (by simpa using h)

theorem closes_of_openAfter {position : Nat} {name : List Char} (hvalue : '=' ∉ name)
    (h : openAfter k opened position ('/' :: name) = .ok opened') : Closes opened name := by
  simp only [openAfter, roleOf, tagName_closing name hvalue] at h
  by_cases hname : Text.trim Text.isSpacing name = []
  · rw [if_pos hname] at h
    dsimp only at h
    cases hfind : opened.find? (·.isClosedBy none) with
    | none => simp [hfind] at h
    | some t => exact ⟨t, List.mem_of_find?_eq_some hfind, .inl hname⟩
  · rw [if_neg hname] at h
    cases hnormal : Style.normalize (Text.trim Text.isSpacing name) with
    | error e => simp [hnormal, Except.map] at h
    | ok n =>
        rw [hnormal] at h
        simp only [Except.map] at h
        cases hfind : opened.find? (·.isClosedBy (some n)) with
        | none => simp [hfind] at h
        | some t =>
            have hclosed := List.find?_some hfind
            obtain rfl : t.name = n := by simpa [OpenTag.isClosedBy] using hclosed
            exact ⟨t, List.mem_of_find?_eq_some hfind, .inr hnormal⟩

theorem Console.closing_of_no_parameters (name : List Char) :
    k.closing ⟨name, []⟩ opened = .ok opened := by
  simp [Console.closing]

theorem tagFault_closing (name : List Char) : tagFault? ('/' :: name) = none := by
  have htag : tagName ('/' :: name) = '/' :: tagName name := List.takeWhile_cons_of_pos (by decide)
  rw [tagFault?, roleOf, htag]
  by_cases hname : Text.trim Text.isSpacing (tagName name) = []
  · simp only [hname, if_true]
  · simp only [hname, if_false]
    cases Style.normalize (Text.trim Text.isSpacing (tagName name)) <;> rfl

namespace IsStyleName

variable {name : List Char}

theorem roleOf_opening (h : IsStyleName name) : roleOf name = .ok (.opening name) := by
  have hopening := h.opening
  simp only [roleOf, tagName_of_not_mem h.noValue]
  split
  · exact absurd rfl hopening
  · rw [h.normal]
    rfl

theorem openAfter_opening (h : IsStyleName name) (position : Nat) :
    openAfter k opened position name = .ok (⟨name, []⟩ :: opened) := by
  rw [openAfter, h.roleOf_opening, tagParameters_of_not_mem h.noValue]

theorem openAfter_closing (h : IsStyleName name) (position : Nat) :
    openAfter k (⟨name, []⟩ :: opened) position ('/' :: name) = .ok opened := by
  have hne : name ≠ [] := by
    obtain ⟨c, r, rfl, -⟩ := h.body.exists_eq_cons
    exact List.cons_ne_nil _ _
  simp [openAfter, roleOf, tagName_closing name h.noValue, h.trimmed, hne, h.normal, Except.map,
    OpenTag.isClosedBy, Console.closing_of_no_parameters]

theorem body_closing (h : IsStyleName name) : IsTagBody ('/' :: name) := by
  obtain ⟨c, r, rfl, hstart, hclose, hopen⟩ := h.body.exists_eq_cons
  refine isTagBody_closing (List.not_mem_cons_of_ne_of_not_mem ?_ hclose)
    (List.not_mem_cons_of_ne_of_not_mem ?_ hopen)
  · rintro rfl
    exact absurd hstart (by decide)
  · rintro rfl
    exact absurd hstart (by decide)

theorem tags_opening (h : IsStyleName name) (r : List Char) : tags ('[' :: (name ++ ']' :: r)) = name :: tags r := by
  have htag : tags (List.replicate 0 '\\' ++ '[' :: (name ++ ']' :: r)) = _ := tags_tag h.body 0 r
  simpa using htag

theorem shows_opening_iff (h : IsStyleName name) :
    Shows k opened ('[' :: (name ++ ']' :: r)) ↔ Shows k (⟨name, []⟩ :: opened) r := by
  rw [Shows, h.tags_opening, Opens, h.openAfter_opening]
  simp [Shows]

/-- A closing tag is shown as it is behind an odd number of backslashes. -/
theorem shows_closing_iff (h : IsStyleName name) (n : Nat) :
    Shows k (⟨name, []⟩ :: opened) (List.replicate n '\\' ++ '[' :: ('/' :: name ++ ']' :: r)) ↔
      if n % 2 = 1 then Shows k (⟨name, []⟩ :: opened) r else Shows k opened r := by
  rw [Shows, tags_tag h.body_closing]
  split
  · rfl
  · rw [Opens, h.openAfter_closing]
    simp [Shows]

end IsStyleName

/-- The first tag in the text closes something that is not open. -/
def ClosesUnopened (opened : List OpenTag) (cs : List Char) : Prop :=
  ∃ s name r, cs = s ++ '[' :: ('/' :: name ++ ']' :: r) ∧ Tagless s ∧ s.getLast? ≠ some '\\' ∧
    ']' ∉ name ∧ '[' ∉ name ∧ '=' ∉ name ∧ ¬Closes opened name

theorem ClosesUnopened.not_shows (h : ClosesUnopened opened cs) (t : List Char) :
    ¬Shows k opened (cs ++ t) := by
  obtain ⟨s, name, r, rfl, hs, hlast, hclose, hopen, hvalue, hcloses⟩ := h
  have hbody : IsTagBody ('/' :: name) := isTagBody_closing hclose hopen
  have hassoc : s ++ '[' :: ('/' :: name ++ ']' :: r) ++ t =
      s ++ (List.replicate 0 '\\' ++ '[' :: ('/' :: name ++ ']' :: (r ++ t))) := by
    simp
  rw [Shows, hassoc, tags_tagless_append hs (by simp [startsTag]) hlast, tags_tag hbody, if_neg (by decide), Opens]
  rintro ⟨opened', hafter, -⟩
  exact hcloses (closes_of_openAfter hvalue hafter)

theorem exists_render_iff : (∃ out, render k cs = .ok out) ↔ Shows k [] cs := by
  rw [render]
  by_cases h : '[' ∈ cs
  · rw [if_pos h]
    exact exists_showParts_iff
  · simp [h, shows_of_tagless (tagless_of_not_mem h)]

/-- A console with room for text beside the frame of a table. -/
def Console.HasRoom (k : Console) : Prop := frameWidth + padding < k.width

instance : Decidable k.HasRoom := inferInstanceAs (Decidable (_ < _))

theorem exists_cells_iff {column : List String} :
    (∃ out, k.cells column = .ok out) ↔ (k.HasRoom → ∀ s ∈ column, Shows k [] s.toList) := by
  rw [Console.cells, Console.HasRoom]
  by_cases hroom : k.width - frameWidth ≤ padding
  · rw [if_pos hroom]
    exact iff_of_true ⟨_, rfl⟩ fun h => absurd h (by omega)
  · rw [if_neg hroom, forall_prop_of_true (by omega)]
    induction column with
    | nil => simp [pure, Except.pure]
    | cons s rest ih =>
        rw [List.mapM_cons, List.forall_mem_cons, ← ih, ← exists_render_iff, Console.cell]
        cases render k s.toList with
        | error e => simp [bind, Except.bind, Except.map]
        | ok out => cases rest.mapM k.cell with
          | error e => simp [bind, Except.bind, Except.map]
          | ok outs => simp [bind, Except.bind, Except.map, pure, Except.pure]

/-- Where text of a table is shown, no style that it is in is at fault. -/
def Table.Sound (k : Console) (t : Table) : Prop :=
  ∀ keys values, k.cells (t.rows.map (·.1)) = .ok keys → k.cells (t.rows.map (·.2)) = .ok values →
    rowsFault? (cellWidths k keys values) (keys.zip values) = none

/-- A table is shown if its markup can be read, where there is room for its text, and no style in it is at
fault. -/
theorem exists_lines_iff {table : Table} : (∃ lines, table.lines k = .ok lines) ↔
    (k.HasRoom → ∀ row ∈ table.rows, Shows k [] row.1.toList ∧ Shows k [] row.2.toList) ∧ table.Sound k := by
  have hcells (cell : String × String → String) :
      (∃ out, k.cells (table.rows.map cell) = .ok out) ↔
        (k.HasRoom → ∀ row ∈ table.rows, Shows k [] (cell row).toList) := by
    rw [exists_cells_iff, List.forall_mem_map]
  rw [forall₂_and, imp_and, ← hcells (·.1), ← hcells (·.2), Table.Sound, Table.lines]
  cases k.cells (table.rows.map (·.1)) with
  | error e => simp
  | ok keys => cases k.cells (table.rows.map (·.2)) with
    | error e => simp
    | ok values => cases hfault : rowsFault? (cellWidths k keys values) (keys.zip values) <;> simp [hfault]

section Sound

/-- A span is in the style of a tag. -/
theorem fault_of_spansFrom {length : Nat} {stack : List (Nat × OpenTag)}
    (hstack : ∀ o ∈ stack, ∀ start stop, (o.2.span start stop).fault? = none)
    (hparts : ∀ body ∈ bodies parts, tagFault? body = none) :
    ∀ span ∈ spansFrom length stack parts, span.fault? = none := by
  induction parts generalizing length stack with
  | nil =>
      intro span hspan
      obtain ⟨o, ho, rfl⟩ := List.mem_map.1 hspan
      exact hstack o ho _ _
  | cons part r ih =>
      cases part with
      | plain cs => exact ih hstack hparts
      | tag position body =>
          have hbody : tagFault? body = none := hparts body List.mem_cons_self
          have hrest : ∀ body ∈ bodies r, tagFault? body = none := fun b hb => hparts b (List.mem_cons_of_mem _ hb)
          rw [spansFrom]
          rw [tagFault?] at hbody
          split
          · simp
          · next name hrole =>
            rw [hrole] at hbody
            refine ih (List.forall_mem_cons.2 ⟨fun _ _ => hbody, hstack⟩) hrest
          · next name hrole =>
            refine List.forall_mem_append.2 ⟨fun span hspan => ?_, ih (fun o ho => ?_) hrest⟩
            · obtain ⟨o, ho, rfl⟩ := Option.map_eq_some_iff.1 (Option.mem_toList.1 hspan)
              exact hstack o (List.mem_of_find?_eq_some ho) _ _
            · exact hstack o (List.mem_of_mem_eraseP ho)

theorem fault_of_spans (h : ∀ body ∈ tags cs, tagFault? body = none) : ∀ span ∈ spans cs, span.fault? = none := by
  intro span hspan
  rw [spans] at hspan
  split at hspan
  · rw [List.mem_mergeSort, List.mem_reverse] at hspan
    exact fault_of_spansFrom (by simp) h span hspan
  · cases hspan

theorem Cell.fault_of_spans {c : Cell} (h : ∀ span ∈ c.spans, span.fault? = none) (width : Nat) :
    c.fault? width = none := by
  have hlines (line : List Span) (hline : line ∈ c.spanLines (width - padding)) : ∀ span ∈ line, span ∈ c.spans := by
    rw [spanLines] at hline
    split at hline
    · obtain rfl := List.mem_singleton.1 hline
      exact fun span hspan => (List.mem_filter.1 hspan).1
    · obtain ⟨places, -, rfl⟩ := List.mem_map.1 hline
      exact fun span hspan => (List.mem_filter.1 hspan).1
  rw [Cell.fault?]
  split
  · rfl
  · rw [List.findSome?_eq_none_iff]
    intro line hline
    exact List.findSome?_eq_none_iff.2 fun span hspan => h span (hlines line hline span hspan)

theorem fault_of_cells {column : List String} {cells : List Cell} (h : k.cells column = .ok cells)
    (hcolumn : k.HasRoom → ∀ s ∈ column, ∀ body ∈ tags s.toList, tagFault? body = none) :
    ∀ c ∈ cells, ∀ width, c.fault? width = none := by
  rw [Console.cells] at h
  split at h
  · obtain rfl := Except.ok.inj h
    intro c hc
    obtain ⟨s, -, rfl⟩ := List.mem_map.1 hc
    exact Cell.fault_of_spans (by simp [Cell.blank])
  · next hroom =>
    replace hcolumn := hcolumn (by rw [Console.HasRoom]; omega)
    induction column generalizing cells with
    | nil =>
        obtain rfl := Except.ok.inj h
        simp
    | cons s column ih =>
        rw [List.forall_mem_cons] at hcolumn
        rw [List.mapM_cons] at h
        obtain ⟨c, hc, h⟩ := bind_eq_ok_iff.1 h
        obtain ⟨rest, hrest, h⟩ := bind_eq_ok_iff.1 h
        obtain rfl := Except.ok.inj h
        obtain ⟨text, -, rfl⟩ := map_eq_ok_iff.1 hc
        exact List.forall_mem_cons.2
          ⟨Cell.fault_of_spans (fault_of_spans hcolumn.1), ih hrest hcolumn.2⟩

theorem Table.sound_of_tags {table : Table} (h : k.HasRoom → ∀ row ∈ table.rows, ∀ s ∈ [row.1, row.2],
    ∀ body ∈ tags s.toList, tagFault? body = none) : table.Sound k := by
  intro keys values hkeys hvalues
  have hcells (cell : String × String → String) (hcell : ∀ row, cell row ∈ [row.1, row.2]) {cells : List Cell}
      (hcells : k.cells (table.rows.map cell) = .ok cells) : ∀ c ∈ cells, ∀ width, c.fault? width = none :=
    fault_of_cells hcells fun hroom => List.forall_mem_map.2 fun row hrow => h hroom row hrow _ (hcell row)
  rw [rowsFault?, List.findSome?_eq_none_iff]
  intro row hrow
  rw [List.findSome?_eq_none_iff]
  rintro ⟨width, c⟩ hc
  have hmem : c ∈ [row.1, row.2] := (List.of_mem_zip hc).2
  rw [List.mem_cons, List.mem_singleton] at hmem
  rcases hmem with rfl | rfl
  · exact hcells (·.1) (by simp) hkeys _ (List.of_mem_zip hrow).1 _
  · exact hcells (·.2) (by simp) hvalues _ (List.of_mem_zip hrow).2 _

theorem lines_of_no_width (table : Table) (hwidth : k.width = 0) : table.lines k = .ok [] := by
  have hroom : ¬k.HasRoom := by
    rw [Console.HasRoom]
    omega
  obtain ⟨lines, hlines⟩ := exists_lines_iff.2
    ⟨fun h => absurd h hroom, Table.sound_of_tags fun h => absurd h hroom⟩
  rw [hlines]
  simp only [Table.lines, hwidth, if_true] at hlines
  split at hlines
  · cases hlines
  · cases hlines
  · split at hlines
    · cases hlines
    · exact hlines.symm

end Sound

end Workcell.Display
