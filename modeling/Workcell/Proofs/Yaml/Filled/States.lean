import Workcell.Proofs.Yaml.Filled.Plain
import Workcell.Proofs.Yaml.Filled.Readers

namespace Workcell.Yaml

namespace Scanner

open Cursor

variable {w : Char} {x a : List Char} {i j l m : Nat} {k k' : KeyCandidate} {ps ps' : List (Nat × KeyCandidate)}
  {s s' : Scanner} {c c' d : Cursor} {ch : Char} {u r : List Char} {fuel fuel' : Nat}

section Keys

def TooLong (w : Char) (x a : List Char) (i j : Nat) : Prop := longestKey < (fill w x ((a.take j).drop i)).length

instance (w : Char) (x a : List Char) (i j : Nat) : Decidable (TooLong w x a i j) := Nat.decLt _ _

theorem take_eq_append (h : i ≤ j) (a : List Char) : a.take j = a.take i ++ (a.take j).drop i :=
  calc a.take j = (a.take j).take i ++ (a.take j).drop i := (List.take_append_drop i _).symm
    _ = a.take i ++ (a.take j).drop i := by rw [List.take_take, Nat.min_eq_left h]

theorem TooLong.mono (h : TooLong w x a i j) (hj : j ≤ m) : TooLong w x a i m := by
  refine Nat.lt_of_lt_of_le h ?_
  rw [take_eq_append hj a, List.drop_append, fill_append, List.length_append]
  exact Nat.le_add_right _ _

theorem length_between (i j : Nat) :
    (fill w x (a.take j)).length - (fill w x (a.take i)).length = (fill w x ((a.take j).drop i)).length := by
  by_cases hle : i ≤ j
  · have hlength := congrArg (fun u => (fill w x u).length) (take_eq_append hle a)
    rw [fill_append, List.length_append] at hlength
    omega
  · have hdrop : (a.take j).drop i = [] := List.drop_eq_nil_of_le (by rw [List.length_take]; omega)
    rw [hdrop, take_eq_append (Nat.le_of_not_le hle) a, fill_append, List.length_append]
    exact Nat.sub_eq_zero_of_le (Nat.le_add_right _ _)

/-- Corresponding places where a key may have begun. Between brackets columns do not matter. -/
structure SameKey (w : Char) (x a : List Char) (level : Nat) (k k' : KeyCandidate) : Prop where
  tokens : k'.tokens = k.tokens
  required : k'.required = k.required
  line : k'.line = k.line
  column : level = 0 → k'.column = k.column
  index_le : k.index ≤ a.length
  index : k'.index = (fill w x (a.take k.index)).length

/-- Where keys may have begun, seen from the place `j` of the text. In the filled text a place may be too far back
already. -/
inductive SameKeys (w : Char) (x a : List Char) (j : Nat) :
    List (Nat × KeyCandidate) → List (Nat × KeyCandidate) → Prop
  | nil : SameKeys w x a j [] []
  | both {l : Nat} {k k' : KeyCandidate} {ps ps' : List (Nat × KeyCandidate)} : SameKey w x a l k k' →
      (∀ p ∈ ps, p.1 ≠ l) → SameKeys w x a j ps ps' → SameKeys w x a j ((l, k) :: ps) ((l, k') :: ps')
  | lost {l : Nat} {k : KeyCandidate} {ps ps' : List (Nat × KeyCandidate)} : k.required = false →
      TooLong w x a k.index j → (∀ p ∈ ps, p.1 ≠ l) → SameKeys w x a j ps ps' → SameKeys w x a j ((l, k) :: ps) ps'

namespace SameKeys

theorem mono (h : SameKeys w x a j ps ps') (hj : j ≤ m) : SameKeys w x a m ps ps' := by
  induction h with
  | nil => exact .nil
  | both hk hps _ ih => exact .both hk hps ih
  | lost hrequired hlong hps _ ih => exact .lost hrequired (hlong.mono hj) hps ih

/-- In both lists candidates are given up alike, or one is given up in the filled text alone. -/
theorem filter (h : SameKeys w x a j ps ps') {p p' : Nat × KeyCandidate → Bool}
    (hp : ∀ l k k', (l, k) ∈ ps → SameKey w x a l k k' →
      p' (l, k') = p (l, k) ∨ p' (l, k') = false ∧ k.required = false ∧ TooLong w x a k.index j) :
    SameKeys w x a j (ps.filter p) (ps'.filter p') := by
  induction h with
  | nil => exact .nil
  | @both l k k' ps ps' hk hps _ ih =>
      have hrest := ih fun l k k' hmem => hp l k k' (List.mem_cons_of_mem _ hmem)
      have hlevel : ∀ q ∈ ps.filter p, q.1 ≠ l := fun q hq => hps q ((List.mem_filter.1 hq).1)
      rw [List.filter_cons, List.filter_cons]
      rcases hp l k k' List.mem_cons_self hk with heq | ⟨hdrop, hrequired, hlong⟩
      · rw [heq]
        split
        · exact .both hk hlevel hrest
        · exact hrest
      · rw [hdrop, if_neg Bool.false_ne_true]
        split
        · exact .lost hrequired hlong hlevel hrest
        · exact hrest
  | @lost l k ps ps' hrequired hlong hps _ ih =>
      have hrest := ih fun l k k' hmem => hp l k k' (List.mem_cons_of_mem _ hmem)
      rw [List.filter_cons]
      split
      · exact .lost hrequired hlong (fun q hq => hps q ((List.mem_filter.1 hq).1)) hrest
      · exact hrest

theorem exists_of_mem (h : SameKeys w x a j ps ps') (hk : (l, k') ∈ ps') : ∃ k, (l, k) ∈ ps ∧ SameKey w x a l k k' := by
  induction h with
  | nil => cases hk
  | both hsame _ _ ih =>
      rcases List.mem_cons.1 hk with heq | hmem
      · cases heq
        exact ⟨_, List.mem_cons_self, hsame⟩
      · obtain ⟨k, hmem, hsame⟩ := ih hmem
        exact ⟨k, List.mem_cons_of_mem _ hmem, hsame⟩
  | lost _ _ _ _ ih =>
      obtain ⟨k, hmem, hsame⟩ := ih hk
      exact ⟨k, List.mem_cons_of_mem _ hmem, hsame⟩

theorem filter_level (h : SameKeys w x a j ps ps') (l : Nat) :
    SameKeys w x a j (ps.filter (·.1 ≠ l)) (ps'.filter (·.1 ≠ l)) :=
  h.filter fun _ _ _ _ _ => .inl rfl

theorem lookup_cases (h : SameKeys w x a j ps ps') (l : Nat) :
    (ps.lookup l = none ∧ ps'.lookup l = none) ∨
      ∃ k, ps.lookup l = some k ∧ (l, k) ∈ ps ∧
        ((∃ k', ps'.lookup l = some k' ∧ SameKey w x a l k k') ∨
          ps'.lookup l = none ∧ k.required = false ∧ TooLong w x a k.index j) := by
  induction h with
  | nil => exact .inl ⟨rfl, rfl⟩
  | @both l' k k' ps ps' hk _ _ ih =>
      rw [List.lookup_cons, List.lookup_cons]
      split
      · next heq =>
        obtain rfl := beq_iff_eq.1 heq
        exact .inr ⟨k, rfl, List.mem_cons_self, .inl ⟨k', rfl, hk⟩⟩
      · refine ih.imp_right ?_
        rintro ⟨k, hlookup, hmem, hcases⟩
        exact ⟨k, hlookup, List.mem_cons_of_mem _ hmem, hcases⟩
  | @lost l' k ps ps' hrequired hlong hps hrest ih =>
      rw [List.lookup_cons]
      split
      · next heq =>
        obtain rfl := beq_iff_eq.1 heq
        refine .inr ⟨k, rfl, List.mem_cons_self, .inr ⟨?_, hrequired, hlong⟩⟩
        rw [List.lookup_eq_none_iff]
        rintro ⟨l', k'⟩ hmem
        obtain ⟨k, hk, -⟩ := hrest.exists_of_mem hmem
        simpa using (hps _ hk).symm
      · refine ih.imp_right ?_
        rintro ⟨k, hlookup, hmem, hcases⟩
        exact ⟨k, hlookup, List.mem_cons_of_mem _ hmem, hcases⟩

end SameKeys

end Keys

def withoutKey (s : Scanner) : Scanner := { s with candidates := s.candidates.filter (·.1 ≠ s.flowLevel) }

theorem withoutKey_of_lookup (h : s.candidates.lookup s.flowLevel = none) : s.withoutKey = s := by
  rw [withoutKey, List.filter_eq_self.2]
  intro p hp
  exact decide_eq_true (bne_iff_ne.1 (List.lookup_eq_none_iff.1 h p hp)).symm

/-- States after corresponding parts of a text with a placeholder and of the filled text. -/
structure Similar (w : Char) (x a : List Char) (s s' : Scanner) : Prop where
  aligned : Aligned w x a 0 s.cursor s'.cursor
  tokens : s'.tokens = s.tokens.map (Token.fill w x)
  indent : s'.indent = s.indent
  indents : s'.indents = s.indents
  flowLevel : s'.flowLevel = s.flowLevel
  keyAllowed : s'.keyAllowed = s.keyAllowed
  candidates : SameKeys w x a s.cursor.index s.candidates s'.candidates
  column : s'.cursor.column = s.cursor.column ∨ s.cursor.rest = [] ∨ s.inFlow ∨ s.keyAllowed = false

theorem similar_start : Similar w x a (.start a) (.start (fill w x a)) :=
  ⟨.start, rfl, rfl, rfl, rfl, rfl, .nil, .inl rfl⟩

namespace Similar

variable (h : Similar w x a s s')
include h

theorem inFlow : s'.inFlow = s.inFlow := by
  rw [Scanner.inFlow, Scanner.inFlow, h.flowLevel]

theorem length : s'.tokens.length = s.tokens.length := by rw [h.tokens, List.length_map]

theorem here : Aligned w x a s.cursor.index s.cursor s'.cursor := h.aligned.from_le (Nat.le_refl _)

theorem candidates_from (hd : Aligned w x a s.cursor.index c c') :
    SameKeys w x a c.index s.candidates s'.candidates :=
  h.candidates.mono hd.index.1

theorem push (t : Token) : Similar w x a (s.push t) (s'.push (t.fill w x)) :=
  ⟨h.aligned, by rw [Scanner.push, Scanner.push, h.tokens, List.map_cons], h.indent, h.indents, h.flowLevel,
    h.keyAllowed, h.candidates, h.column⟩

theorem insertAt (n : Nat) (t : Token) : Similar w x a (s.insertAt n t) (s'.insertAt n (t.fill w x)) := by
  refine ⟨h.aligned, ?_, h.indent, h.indents, h.flowLevel, h.keyAllowed, h.candidates, h.column⟩
  rw [Scanner.insertAt, Scanner.insertAt, h.length, h.tokens]
  simp [List.map_take, List.map_drop]

theorem withoutKey : Similar w x a s.withoutKey s'.withoutKey := by
  refine ⟨h.aligned, h.tokens, h.indent, h.indents, h.flowLevel, h.keyAllowed, ?_, h.column⟩
  rw [Scanner.withoutKey, Scanner.withoutKey, h.flowLevel]
  exact h.candidates.filter_level _

theorem column_eq (hc : s.cursor.rest = ch :: r) (hflow : s.inFlow = false) (hkey : s.keyAllowed = true) :
    s'.cursor.column = s.cursor.column := by
  rcases h.column with heq | hnil | hin | hno
  · exact heq
  · simp [hc] at hnil
  · rw [hflow] at hin
    cases hin
  · rw [hkey] at hno
    cases hno

theorem openBlock (column : Nat) (at? : Option Nat) (t : Token) :
    Similar w x a (s.openBlock column at? t) (s'.openBlock column at? (t.fill w x)) := by
  have hdeeper : Similar w x a { s with indent := column, indents := s.indent :: s.indents }
      { s' with indent := column, indents := s'.indent :: s'.indents } :=
    ⟨h.aligned, h.tokens, rfl, by rw [h.indent, h.indents], h.flowLevel, h.keyAllowed, h.candidates, h.column⟩
  rw [Scanner.openBlock, Scanner.openBlock, h.indent]
  split
  · cases at? with
    | none => exact h.indent ▸ hdeeper.push t
    | some n => exact h.indent ▸ hdeeper.insertAt n t
  · exact h

theorem unwind (column : Int) (fuel : Nat) : Similar w x a (s.unwind column fuel) (s'.unwind column fuel) := by
  induction fuel generalizing s s' with
  | zero => exact h
  | succ fuel ih =>
      rw [Scanner.unwind, Scanner.unwind, h.inFlow, h.indent]
      split
      · exact h
      · refine ih ⟨h.aligned, ?_, ?_, ?_, h.flowLevel, h.keyAllowed, h.candidates, h.column⟩
        · rw [h.tokens]
          rfl
        · rw [h.indents]
        · rw [h.indents]

theorem unwindTo (column : Int) : Similar w x a (s.unwindTo column) (s'.unwindTo column) := by
  rw [Scanner.unwindTo, Scanner.unwindTo, h.indents]
  exact h.unwind _ _

theorem follows_dropCandidate :
    Follows (fun t t' => Similar w x a t t' ∧ t = s.withoutKey) s.dropCandidate s'.dropCandidate := by
  have hlookup : s'.candidates.lookup s'.flowLevel = s'.candidates.lookup s.flowLevel := by rw [h.flowLevel]
  rw [dropCandidate, dropCandidate, hlookup]
  rcases h.candidates.lookup_cases s.flowLevel with ⟨hnone, hnone'⟩ | ⟨k, hk, -, ⟨k', hk', hsame⟩ | ⟨hnone', hfree, -⟩⟩
  · rw [hnone, hnone']
    exact follows_ok ⟨h, (withoutKey_of_lookup hnone).symm⟩
  · rw [hk, hk']
    dsimp only
    rw [hsame.required]
    split
    · trivial
    · exact follows_ok ⟨h.withoutKey, rfl⟩
  · rw [hk, hnone']
    dsimp only
    rw [hfree, if_neg Bool.false_ne_true]
    -- in the filled text it was given up before
    have hwithout := h.withoutKey
    rw [withoutKey_of_lookup (hlookup.trans hnone')] at hwithout
    exact follows_ok ⟨hwithout, rfl⟩

end Similar

section Unwind

variable {column column' : Int}

theorem exists_unwindTo (s : Scanner) (column : Int) :
    ∃ ts n ns, s.unwindTo column = { s with tokens := ts, indent := n, indents := ns } := by
  rw [unwindTo]
  generalize s.indents.length + 1 = fuel
  induction fuel generalizing s with
  | zero => exact ⟨_, _, _, rfl⟩
  | succ fuel ih =>
      rw [unwind]
      split
      · exact ⟨_, _, _, rfl⟩
      · obtain ⟨ts, n, ns, heq⟩ := ih { s with
          tokens := .blockEnd :: s.tokens, indent := s.indents.headD (-1), indents := s.indents.drop 1 }
        exact ⟨ts, n, ns, heq⟩

theorem cursor_unwindTo (s : Scanner) (column : Int) : (s.unwindTo column).cursor = s.cursor := by
  obtain ⟨ts, n, ns, heq⟩ := s.exists_unwindTo column
  rw [heq]

theorem unwind_of_le (h : s.inFlow ∨ s.indent ≤ column) (fuel : Nat) : s.unwind column fuel = s := by
  cases fuel with
  | zero => rfl
  | succ fuel => rw [unwind, if_pos h]

def close (s : Scanner) : Scanner :=
  { s with tokens := .blockEnd :: s.tokens, indent := s.indents.headD (-1), indents := s.indents.drop 1 }

theorem unwind_succ (h : ¬(s.inFlow ∨ s.indent ≤ column)) (fuel : Nat) :
    s.unwind column (fuel + 1) = s.close.unwind column fuel := by
  rw [unwind, if_neg h]
  rfl

theorem unwind_close_of_nil (hcolumn : -1 ≤ column) (h : s.indents = []) (fuel : Nat) :
    s.close.unwind column fuel = s.close := by
  refine unwind_of_le (.inr ?_) fuel
  rw [close, h]
  exact hcolumn

theorem length_close (s : Scanner) : s.close.indents.length = s.indents.length - 1 := List.length_drop

theorem unwindTo_close (hcolumn : -1 ≤ column) (h : ¬(s.inFlow ∨ s.indent ≤ column)) :
    s.unwindTo column = s.close.unwindTo column := by
  rw [unwindTo, unwind_succ h, unwindTo, length_close]
  cases hindents : s.indents with
  | nil => rw [unwind_close_of_nil hcolumn hindents, unwind_close_of_nil hcolumn hindents]
  | cons n ns => rfl

theorem unwind_unwind (hcolumn : -1 ≤ column) (hle : column ≤ column') (hfuel : s.indents.length < fuel) :
    (s.unwind column' fuel).unwindTo column = s.unwindTo column := by
  induction fuel generalizing s with
  | zero => omega
  | succ fuel ih =>
      by_cases hstop : s.inFlow ∨ s.indent ≤ column'
      · rw [unwind_of_le hstop]
      · rw [unwind_succ hstop, unwindTo_close hcolumn fun h => hstop (h.imp_right fun h => Int.le_trans h hle)]
        by_cases hindents : s.indents = []
        · rw [unwind_close_of_nil (Int.le_trans hcolumn hle) hindents]
        · have hpos := List.length_pos_iff.2 hindents
          exact ih (by rw [length_close]; omega)

theorem unwindTo_unwindTo (hcolumn : -1 ≤ column) (hle : column ≤ column') :
    (s.unwindTo column').unwindTo column = s.unwindTo column :=
  unwind_unwind hcolumn hle (Nat.lt_succ_self _)

theorem unwind_le (hcolumn : -1 ≤ column) (hfuel : s.indents.length < fuel) :
    (s.unwind column fuel).inFlow ∨ (s.unwind column fuel).indent ≤ column := by
  induction fuel generalizing s with
  | zero => omega
  | succ fuel ih =>
      by_cases hstop : s.inFlow ∨ s.indent ≤ column
      · rwa [unwind_of_le hstop]
      · rw [unwind_succ hstop]
        by_cases hindents : s.indents = []
        · rw [unwind_close_of_nil hcolumn hindents, close, hindents]
          exact .inr hcolumn
        · have hpos := List.length_pos_iff.2 hindents
          exact ih (by rw [length_close]; omega)

theorem unwindTo_le (hcolumn : -1 ≤ column) : (s.unwindTo column).inFlow ∨ (s.unwindTo column).indent ≤ column :=
  unwind_le hcolumn (Nat.lt_succ_self _)

end Unwind

def stale (c : Cursor) (k : KeyCandidate) : Bool := k.line ≠ c.line || longestKey < c.index - k.index

theorem dropStale_eq (s : Scanner) : s.dropStale =
    if s.candidates.any fun p => stale s.cursor p.2 && p.2.required then malformed
    else .ok { s with candidates := s.candidates.filter fun p => !stale s.cursor p.2 } := rfl

theorem SameKey.stale_cases (hf : Fillable w x) (hc : Aligned w x a m c c') (h : SameKey w x a l k k') :
    stale c' k' = stale c k ∨ stale c k = false ∧ stale c' k' = true ∧ TooLong w x a k.index c.index := by
  obtain ⟨hline, -⟩ := hc.position hf
  obtain ⟨-, hindex, hindex'⟩ := hc.index
  rw [stale, stale, h.line, hline, hindex', h.index, length_between]
  by_cases hsame : k.line = c.line
  · have hlength := hf.length_le ((a.take c.index).drop k.index)
    rw [List.length_drop, List.length_take, Nat.min_eq_left hindex] at hlength
    by_cases hlong : longestKey < c.index - k.index
    · rw [decide_eq_true hlong, decide_eq_true (Nat.lt_of_lt_of_le hlong hlength)]
      exact .inl rfl
    · rw [decide_eq_false hlong, TooLong, decide_eq_false (not_not.2 hsame)]
      by_cases hfilled : longestKey < (fill w x ((a.take c.index).drop k.index)).length
      · exact .inr ⟨rfl, decide_eq_true hfilled, hfilled⟩
      · exact .inl (congrArg (false || ·) (decide_eq_false hfilled))
  · rw [decide_eq_true hsame]
    exact .inl rfl

namespace Similar

variable (hf : Fillable w x) (h : Similar w x a s s')
include hf h

theorem skipMark : Similar w x a s.skipMark s'.skipMark := by
  have hindex : (s'.cursor.index == 0) = (s.cursor.index == 0) := by
    rw [Bool.eq_iff_iff, beq_iff_eq, beq_iff_eq, h.aligned.index_eq_zero_iff hf]
  have hmark := h.aligned.peek_beq hf hf.ne_byteOrderMark.symm fun d hd => hd.not_mark
  rw [Scanner.skipMark, Scanner.skipMark, hindex, hmark]
  split
  · next hboth =>
    rw [Bool.and_eq_true, beq_iff_eq, beq_iff_eq] at hboth
    obtain ⟨r, hr⟩ := exists_of_peek hboth.2
    have hnext := h.here.next hr hf.ne_byteOrderMark.symm
    exact ⟨hnext.from_le (Nat.zero_le _), h.tokens, h.indent, h.indents, h.flowLevel, h.keyAllowed,
      h.candidates_from hnext,
      h.column.imp (h.aligned.column_next hf hr hf.ne_byteOrderMark.symm) (.imp (by simp [hr]) id)⟩
  · exact h

theorem skipBetween (hfuel : s.cursor.rest.length < fuel) (hle : fuel ≤ fuel')
    (hsharp : (s.skipBetween fuel).cursor.rest.head? = some w → ∀ e, Inner x e → e ≠ '#') :
    Similar w x a (s.skipBetween fuel) (s'.skipBetween fuel') := by
  induction fuel generalizing s s' fuel' with
  | zero => omega
  | succ fuel ih =>
      obtain ⟨fuel', rfl⟩ : ∃ n, fuel' = n + 1 := ⟨fuel' - 1, by omega⟩
      have hspaces := h.here.skipSpaces hf
      have hopen : s.cursor.skipSpaces.rest.head? = some w → ∀ e, Inner x e → e ≠ '#' := by
        intro hhole
        have hstay : s.cursor.skipSpaces.skipComment = s.cursor.skipSpaces := by
          rw [skipComment, peek_zero, hhole, if_neg (by simp [hf.ne])]
        have hnone : s.cursor.skipSpaces.lineBreak? = none :=
          lineBreak?_eq_none (by simp [hhole, hf.not_isBreak])
        refine hsharp ?_
        rw [Scanner.skipBetween, hstay, hnone]
        exact hhole
      have hcomment := hspaces.skipComment hf hopen
      have hlength := Nat.le_trans (length_skipComment_le s.cursor.skipSpaces) (length_takeWhile_le _ s.cursor)
      rw [Scanner.skipBetween] at hsharp ⊢
      rw [Scanner.skipBetween]
      rcases hcomment.lineBreak?_cases hf with ⟨hnone, hnone', hbreak⟩ | ⟨first, d, d', hline⟩
      · rw [hnone, hnone']
        refine ⟨hcomment.from_le (Nat.zero_le _), h.tokens, h.indent, h.indents, h.flowLevel, h.keyAllowed,
          h.candidates_from hcomment, ?_⟩
        rcases h.column with heven | hnil | hrest
        · rcases hspaces.column_skipComment hf hopen (h.aligned.column_skipSpaces hf heven) with heq | hend
          · exact .inl heq
          · refine .inr (.inl ?_)
            cases hr : s.cursor.skipSpaces.skipComment.rest with
            | nil => rfl
            | cons ch r =>
                have hfirst := hend ch (by rw [hr]; rfl)
                rw [hbreak ch (by rw [hr]; rfl)] at hfirst
                cases hfirst
        · refine .inr (.inl (List.eq_nil_of_length_eq_zero ?_))
          rw [hnil] at hlength
          exact Nat.le_zero.1 hlength
        · exact .inr (.inr hrest)
      · rw [hline.left] at hsharp ⊢
        rw [hline.right]
        have hlt := length_lineBreak?_lt hline.left
        refine ih ⟨hline.aligned.from_le (Nat.zero_le _), h.tokens, h.indent, h.indents, h.flowLevel, ?_,
          h.candidates_from hline.aligned, .inl (hline.column'.trans hline.column.symm)⟩ ?_ (by omega) hsharp
        · dsimp only
          rw [h.keyAllowed, Scanner.inFlow, Scanner.inFlow, h.flowLevel]
        · dsimp only
          omega

/-- In the filled text a place of a key is given up where it is given up without the filling, or where the text
since has become too long. -/
theorem follows_dropStale (hkeys : ∀ t, s.dropStale = .ok t → ∀ p ∈ t.candidates, p.2.required = true →
    ¬TooLong w x a p.2.index t.cursor.index) : Follows (Similar w x a) s.dropStale s'.dropStale := by
  rw [dropStale_eq] at hkeys ⊢
  rw [dropStale_eq]
  by_cases hany : (s.candidates.any fun p => stale s.cursor p.2 && p.2.required) = true
  · rw [if_pos hany]
    trivial
  rw [if_neg hany] at hkeys ⊢
  have hshort : ∀ p ∈ s.candidates, stale s.cursor p.2 = false → p.2.required = true →
      ¬TooLong w x a p.2.index s.cursor.index := fun p hp hfresh =>
    hkeys _ rfl p (List.mem_filter.2 ⟨hp, by rw [hfresh]; rfl⟩)
  have hany' : ¬(s'.candidates.any fun p => stale s'.cursor p.2 && p.2.required) = true := by
    rw [List.any_eq_true]
    rintro ⟨⟨l, k'⟩, hmem, hboth⟩
    rw [Bool.and_eq_true] at hboth
    obtain ⟨k, hk, hsame⟩ := h.candidates.exists_of_mem hmem
    have hrequired : k.required = true := hsame.required ▸ hboth.2
    rcases hsame.stale_cases hf h.aligned with heq | ⟨hfresh, -, hlong⟩
    · refine hany (List.any_eq_true.2 ⟨_, hk, ?_⟩)
      rw [← heq, hrequired]
      exact Bool.and_eq_true_iff.2 ⟨hboth.1, rfl⟩
    · exact hshort _ hk hfresh hrequired hlong
  rw [if_neg hany']
  refine follows_ok ⟨h.aligned, h.tokens, h.indent, h.indents, h.flowLevel, h.keyAllowed, ?_, h.column⟩
  refine h.candidates.filter fun l k k' hmem hsame => ?_
  rcases hsame.stale_cases hf h.aligned with heq | ⟨hfresh, hstale, hlong⟩
  · exact .inl (by rw [heq])
  · refine .inr ⟨by rw [hstale]; rfl, ?_, hlong⟩
    exact Bool.eq_false_iff.2 fun hrequired => hshort _ hmem hfresh hrequired hlong

theorem follows_noteCandidate (hc : s.cursor.rest = ch :: r) :
    Follows (fun t t' => Similar w x a t t' ∧ ∃ ps, t = { s with candidates := ps })
      s.noteCandidate s'.noteCandidate := by
  rw [noteCandidate, noteCandidate, h.keyAllowed]
  split
  · next hkey =>
    have hrequired : (!s'.inFlow && s'.indent == s'.cursor.column) = (!s.inFlow && s.indent == s.cursor.column) := by
      rw [h.inFlow, h.indent]
      cases hflow : s.inFlow with
      | true => rfl
      | false => rw [h.column_eq hc hflow hkey]
    dsimp only
    rw [hrequired]
    refine h.follows_dropCandidate.bind ?_
    rintro t t' ⟨ht, rfl⟩
    obtain ⟨-, hindex, hindex'⟩ := ht.aligned.index
    refine follows_ok ⟨⟨ht.aligned, ht.tokens, ht.indent, ht.indents, ht.flowLevel, ht.keyAllowed, ?_, ht.column⟩,
      _, rfl⟩
    rw [ht.flowLevel]
    refine .both ⟨ht.length, rfl, (ht.aligned.position hf).1, fun hlevel => ?_, hindex, hindex'⟩ (fun p hp => ?_)
      ht.candidates
    · exact ht.column_eq hc (by rw [Scanner.inFlow, hlevel]; rfl) hkey
    · exact of_decide_eq_true (List.mem_filter.1 hp).2
  · exact follows_ok ⟨h, s.candidates, rfl⟩

end Similar

end Scanner

end Workcell.Yaml
