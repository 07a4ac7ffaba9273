import Workcell.Proofs.Yaml.Filled.Steps

namespace Workcell.Yaml

inductive Style
  | plain (inFlow : Bool)
  | quoted (double : Bool)
  | block

def OpensPlain (inFlow : Bool) : List Char → Prop
  | [] => False
  | [c] => c ∉ Scanner.indicators
  | c :: d :: _ => c ∉ Scanner.indicators ∨
    endsWord (some d) = false ∧ (c = '-' ∨ inFlow = false ∧ (c = '?' ∨ c = ':'))

instance (inFlow : Bool) : (x : List Char) → Decidable (OpensPlain inFlow x)
  | [] => .isFalse id
  | [c] => inferInstanceAs (Decidable (c ∉ Scanner.indicators))
  | c :: d :: _ => inferInstanceAs (Decidable (c ∉ Scanner.indicators ∨
    endsWord (some d) = false ∧ (c = '-' ∨ inFlow = false ∧ (c = '?' ∨ c = ':'))))

/-- Whether a text may stand for the placeholder in a scalar of some style. -/
def Style.Admits (w : Char) (x text : List Char) : Style → Prop
  | plain inFlow => Cursor.Plainable inFlow x ∧ (text.head? = some w → OpensPlain inFlow x)
  | quoted double => Cursor.Quotable double x
  | block => True

instance (w : Char) (x text : List Char) : (s : Style) → Decidable (s.Admits w x text)
  | .plain inFlow =>
    inferInstanceAs (Decidable (Cursor.Plainable inFlow x ∧ (text.head? = some w → OpensPlain inFlow x)))
  | .quoted double => inferInstanceAs (Decidable (Cursor.Quotable double x))
  | .block => .isTrue trivial

def Token.scalar? : Token → Option (ScalarText × Bool)
  | .scalar text plain => some (text, plain)
  | _ => none

namespace Scanner

open Cursor

variable {w : Char} {x a : List Char} {s s' b b' t : Scanner} {c c' d : Cursor} {ch : Char} {u r : List Char}
  {ended : Bool}

def begin (s : Scanner) : Scan Scanner := (s.skipMark.skipBetween (s.cursor.rest.length + 1)).dropStale

def style (b : Scanner) (plain : Bool) : Style :=
  if plain then .plain b.inFlow
  else if b.cursor.peek 0 = some '"' then .quoted true
  else if b.cursor.peek 0 = some '\'' then .quoted false
  else .block

/-- What is filled in fits the scalar that is read between two states, and the keys before it. -/
structure Admits (w : Char) (x a : List Char) (b t : Scanner) : Prop where
  scalar : ∀ q ∈ t.tokens.head?.bind Token.scalar?, w ∈ q.1.chars → (b.style q.2).Admits w x q.1.chars
  key : ∀ p ∈ b.candidates, p.2.required = true ∨ b.cursor.peek 0 = some ':' ∧ p.1 = b.flowLevel →
    ¬TooLong w x a p.2.index b.cursor.index

instance (w : Char) (x a : List Char) (b t : Scanner) : Decidable (Admits w x a b t) :=
  decidable_of_iff (_ ∧ _) ⟨fun h => ⟨h.1, h.2⟩, fun h => ⟨h.scalar, h.key⟩⟩

theorem Admits.of_head {plain : Bool} {text : ScalarText} (h : Admits w x a b t)
    (hhead : t.tokens.head? = some (.scalar text plain)) (hmem : w ∈ text.chars) :
    (b.style plain).Admits w x text.chars :=
  h.scalar (text, plain) (by rw [hhead]; rfl) hmem

/-- No token stands left of the collection that it is in without beginning a line, and commas are between
brackets. -/
structure Orderly (b : Scanner) : Prop where
  column : b.cursor.rest = [] ∨ b.inFlow = true ∨ b.keyAllowed = true ∨ b.indent ≤ b.cursor.column
  comma : b.cursor.peek 0 = some ',' → b.inFlow = true

instance (b : Scanner) : Decidable b.Orderly :=
  decidable_of_iff (_ ∧ _) ⟨fun h => ⟨h.1, h.2⟩, fun h => ⟨h.column, h.comma⟩⟩

theorem step_eq (s : Scanner) : s.step = s.begin >>= fun b =>
    match b.cursor.peek 0 with
    | none => (b.unwindTo (-1)).dropCandidate >>= fun t => pure (t.push .streamEnd, true)
    | some ch => (b.unwindTo b.cursor.column).token ch >>= fun t => pure (t, false) := by
  rw [step]
  change s.begin >>= _ = _
  congr 1
  funext b
  have hunwound : (b.unwindTo b.cursor.column).unwindTo (-1) = b.unwindTo (-1) :=
    unwindTo_unwindTo (Int.le_refl _) (by omega)
  cases hpeek : b.cursor.peek 0 <;> simp [cursor_unwindTo, hpeek, hunwound]

theorem step_of_begin (hb : s.begin = .ok b) : s.step = match b.cursor.peek 0 with
    | none => (b.unwindTo (-1)).dropCandidate >>= fun t => pure (t.push .streamEnd, true)
    | some ch => (b.unwindTo b.cursor.column).token ch >>= fun t => pure (t, false) := by
  rw [step_eq, hb]
  rfl

theorem token_of_startsPlain (h : s.startsPlain ch = true)
    (hmark : ¬(s.cursor.column = 0 ∧ s.cursor.atDocumentMark = true)) : s.token ch = s.plainScalar := by
  have hstart := h
  rw [startsPlain, Bool.or_eq_true, Bool.and_eq_true, decide_eq_true_eq] at hstart
  unfold token
  dsimp only
  rcases hstart with ⟨-, hmem⟩ | hword
  · simp only [indicators, List.mem_cons, not_or] at hmem
    simp only [hmem, hmark, h, false_and, if_false, if_true]
  · rw [Bool.and_eq_true, Bool.not_eq_true'] at hword
    obtain ⟨hends, hch⟩ := hword
    simp only [Bool.or_eq_true, Bool.and_eq_true, beq_iff_eq, Bool.not_eq_true'] at hch
    rcases hch with rfl | ⟨hflow, rfl | rfl⟩
    · simp [hmark, h, hends]
    · simp [hmark, h, hends, hflow]
    · simp [hmark, h, hends, hflow]

section Hole

variable (hf : Fillable w x)
include hf

theorem startsPlain_hole (s : Scanner) : s.startsPlain w = true := by
  have hends : endsWord (some w) = false := by
    have hblank := hf.beq_blank
    simpa [endsWord, hf.not_isBreak] using hblank
  have hmem : w ∉ indicators := by simp [indicators, hf.ne]
  rw [startsPlain, hends, decide_eq_true hmem]
  rfl

theorem not_atDocumentMark_hole (hr : c.rest = w :: r) : ¬c.atDocumentMark = true := by
  intro hmark
  obtain ⟨u, r', hu, hlength, hall⟩ := exists_of_atDocumentMark hmark
  cases u with
  | nil => cases hlength
  | cons e u =>
      rw [hr] at hu
      have he := hall e List.mem_cons_self
      rw [← (List.cons.inj hu).1] at he
      exact he.elim (hf.ne '-' (by decide)) (hf.ne '.' (by decide))

theorem plain_of_hole (hr : s.cursor.rest = w :: r) (ht : s.plainScalar = .ok t) :
    ∃ text, t.tokens.head? = some (.scalar text true) ∧ text.chars.head? = some w := by
  rw [plainScalar_eq] at ht
  obtain ⟨v, hv, rfl⟩ := map_eq_ok_iff.1 ht
  obtain ⟨ps, rfl⟩ := exists_of_noteCandidate hv
  refine ⟨_, rfl, ?_⟩
  rw [plainHere, plain_hole hf [] false hr, plainTail_char _ hr (interruptsPlain_hole hf _)]
  rfl

end Hole

theorem startsPlain_of_opens (hf : Fillable w x) (hx : OpensPlain s.inFlow x) (hr : s.cursor.rest = x ++ r) :
    ∃ ch v, x = ch :: v ∧ s.startsPlain ch = true := by
  obtain ⟨ch, v, rfl, hinner⟩ := hf.exists_inner
  refine ⟨ch, v, rfl, ?_⟩
  have hends : endsWord (some ch) = false := by
    simp [endsWord, hinner.not_space, hinner.not_tab, hinner.not_isBreak]
  have hcases : ch ∉ indicators ∨ endsWord (s.cursor.peek 1) = false ∧
      (ch = '-' ∨ s.inFlow = false ∧ (ch = '?' ∨ ch = ':')) := by
    rw [peek_one hr]
    cases v with
    | nil => exact .inl hx
    | cons d v => exact hx
  rw [startsPlain, hends]
  rcases hcases with hmem | ⟨hword, rfl | ⟨hflow, rfl | rfl⟩⟩
  · rw [decide_eq_true hmem]
    rfl
  · simp [hword]
  · simp [hword, hflow]
  · simp [hword, hflow]

theorem ne_of_opens {inFlow : Bool} (hopens : OpensPlain inFlow x) {e : Char} (he : Inner x e) :
    e ≠ '#' ∧ e ≠ '\'' := by
  have hhead := he.head
  cases x with
  | nil => cases hhead
  | cons ch v =>
      obtain rfl := Option.some.inj hhead
      have hcases : ch ∉ indicators ∨ ch = '-' ∨ ch = '?' ∨ ch = ':' := by
        cases v with
        | nil => exact .inl hopens
        | cons d v => exact hopens.imp_right fun h => h.2.imp_right And.right
      rcases hcases with hmem | rfl | rfl | rfl
      · constructor
        · rintro rfl
          exact hmem (by decide)
        · rintro rfl
          exact hmem (by decide)
      all_goals decide

theorem cursor_dropStale (h : s.dropStale = .ok t) : t.cursor = s.cursor := by
  rw [dropStale_eq] at h
  split at h
  · cases h
  · cases h
    rfl

theorem length_skipMark_le (s : Scanner) : s.skipMark.cursor.rest.length ≤ s.cursor.rest.length := by
  rw [skipMark]
  split
  · exact length_forward_le _ _
  · exact Nat.le_refl _

section Step

variable (hf : Fillable w x) (hmarks : SameMarks w x a)
include hf

theorem opens_of_hole (hr : b.cursor.rest = w :: r) (ht : (b.unwindTo b.cursor.column).token w = .ok t)
    (hadmits : Admits w x a b t) : OpensPlain b.inFlow x := by
  rw [token_of_startsPlain (startsPlain_hole hf _)
    fun hmark => not_atDocumentMark_hole hf (by rw [cursor_unwindTo, hr]) hmark.2] at ht
  obtain ⟨text, hhead, hstart⟩ := plain_of_hole hf (by rw [cursor_unwindTo, hr]) ht
  exact (hadmits.of_head hhead (List.mem_of_mem_head? hstart)).2 hstart

theorem opens_of_step (hb : s.begin = .ok b) (ht : s.step = .ok (t, ended)) (hadmits : Admits w x a b t)
    (hhole : b.cursor.rest.head? = some w) : OpensPlain b.inFlow x := by
  obtain ⟨r, hr⟩ := List.head?_eq_some_iff.1 hhole
  rw [step_of_begin hb, peek_zero, hhole] at ht
  obtain ⟨v, hv, heq⟩ := bind_eq_ok_iff.1 ht
  cases heq
  exact opens_of_hole hf hr hv hadmits

theorem follows_begin (h : Similar w x a s s')
    (hkeys : ∀ b, s.begin = .ok b → ∀ p ∈ b.candidates, p.2.required = true → ¬TooLong w x a p.2.index b.cursor.index)
    (hsharp : ∀ b, s.begin = .ok b → b.cursor.rest.head? = some w → ∀ e, Inner x e → e ≠ '#') :
    Follows (Similar w x a) s.begin s'.begin := by
  cases hb : s.begin with
  | error e => trivial
  | ok b =>
      rw [← hb]
      have hcursor := cursor_dropStale hb
      have hlength := length_skipMark_le s
      have hle := h.aligned.fuel_le hf
      refine ((h.skipMark hf).skipBetween hf (by omega) (by omega) ?_).follows_dropStale hf (hkeys)
      rw [← hcursor]
      exact hsharp b hb

omit hf in
theorem unwindTo_column_le (b : Scanner) : (b.unwindTo b.cursor.column).inFlow = true ∨
    (b.unwindTo b.cursor.column).indent ≤ (b.unwindTo b.cursor.column).cursor.column := by
  rw [cursor_unwindTo]
  exact unwindTo_le (by omega)

omit hf in
theorem inFlow_unwindTo (s : Scanner) (column : Int) : (s.unwindTo column).inFlow = s.inFlow := by
  obtain ⟨ts, n, ns, heq⟩ := s.exists_unwindTo column
  rw [heq]
  rfl

theorem similar_unwindTo_column (h : Similar w x a b b') (horderly : Orderly b) (hr : b.cursor.rest ≠ []) :
    Similar w x a (b.unwindTo b.cursor.column) (b'.unwindTo b'.cursor.column) := by
  have hstay (hleft : b.inFlow = true ∨ b.indent ≤ b.cursor.column)
      (hright : b'.inFlow = true ∨ b'.indent ≤ b'.cursor.column) :
      Similar w x a (b.unwindTo b.cursor.column) (b'.unwindTo b'.cursor.column) := by
    rw [unwindTo, unwindTo, unwind_of_le hleft, unwind_of_le hright]
    exact h
  obtain ⟨-, hle, -⟩ := h.aligned.position hf
  rcases h.column with heq | hnil | hin | hno
  · rw [heq]
    exact h.unwindTo _
  · exact absurd hnil hr
  · exact hstay (.inl hin) (.inl (h.inFlow.trans hin))
  · rcases horderly.column with hnil | hin | hkey | hindent
    · exact absurd hnil hr
    · exact hstay (.inl hin) (.inl (h.inFlow.trans hin))
    · rw [hno] at hkey
      cases hkey
    · refine hstay (.inr hindent) (.inr ?_)
      rw [h.indent]
      omega

include hmarks

theorem follows_hole (h : Similar w x a s s') (hr : s.cursor.rest = w :: r)
    (hcolumn : s.inFlow = true ∨ s.indent ≤ s.cursor.column) (hopens : OpensPlain s.inFlow x)
    (hx : ∀ t, s.plainScalar = .ok t → ∀ text, t.tokens.head? = some (.scalar text true) →
      w ∈ text.chars → Plainable s.inFlow x) :
    ∃ e, s'.cursor.peek 0 = some e ∧ Follows (Similar w x a) (s.token w) (s'.token e) := by
  have hr' : s'.cursor.rest = x ++ fill w x r := by rw [h.aligned.rest, hr, fill_hole]
  obtain ⟨e, v, hxe, hstarts⟩ := startsPlain_of_opens hf (h.inFlow.symm ▸ hopens) hr'
  refine ⟨e, by rw [peek_zero, hr', hxe]; rfl, ?_⟩
  rw [token_of_startsPlain (startsPlain_hole hf _) fun hmark => not_atDocumentMark_hole hf hr hmark.2,
    token_of_startsPlain hstarts fun hmark => ?_]
  · exact follows_plainScalar hf h hmarks hr hcolumn hx
  · have hzero : s.cursor.column = 0 := Nat.le_zero.1 (hmark.1 ▸ (h.aligned.position hf).2.1)
    exact not_atDocumentMark_hole hf hr (hmarks.eq h.aligned hzero ▸ hmark.2)

theorem follows_tokenAt_hole (h : Similar w x a b b') (hr : b.cursor.rest = w :: r)
    (ht : (b.unwindTo b.cursor.column).token w = .ok t) (hadmits : Admits w x a b t) (horderly : Orderly b) :
    ∃ e t', b'.cursor.peek 0 = some e ∧ (b'.unwindTo b'.cursor.column).token e = .ok t' ∧ Similar w x a t t' := by
  have hr' : (b.unwindTo b.cursor.column).cursor.rest = w :: r := by rw [cursor_unwindTo, hr]
  have hflow := inFlow_unwindTo b b.cursor.column
  have hopens := opens_of_hole hf hr ht hadmits
  have hplain : (b.unwindTo b.cursor.column).token w = (b.unwindTo b.cursor.column).plainScalar :=
    token_of_startsPlain (startsPlain_hole hf _) fun hmark => not_atDocumentMark_hole hf hr' hmark.2
  have hfits : ∀ v, (b.unwindTo b.cursor.column).plainScalar = .ok v → ∀ text,
      v.tokens.head? = some (.scalar text true) → w ∈ text.chars →
        Plainable (b.unwindTo b.cursor.column).inFlow x := by
    intro v hv text hhead hmem
    rw [← hplain, ht] at hv
    cases hv
    rw [hflow]
    exact (hadmits.of_head hhead hmem).1
  obtain ⟨e, he, hfollows⟩ := follows_hole hf hmarks
    (similar_unwindTo_column hf h horderly (by simp [hr])) hr' (unwindTo_column_le b) (hflow ▸ hopens) hfits
  rw [ht] at hfollows
  obtain ⟨t', ht', hsimilar⟩ := hfollows
  exact ⟨e, t', by rwa [cursor_unwindTo] at he, ht', hsimilar⟩

theorem follows_tokenAt_char (hnamed : Unnamed w a) (h : Similar w x a b b') (hr : b.cursor.rest = ch :: r)
    (hw : ch ≠ w) (ht : (b.unwindTo b.cursor.column).token ch = .ok t) (hadmits : Admits w x a b t)
    (horderly : Orderly b) (hnext : t.cursor.rest.head? = some w → ∀ e, Inner x e → e ≠ '\'') :
    ∃ t', (b'.unwindTo b'.cursor.column).token ch = .ok t' ∧ Similar w x a t t' := by
  have hr' : (b.unwindTo b.cursor.column).cursor.rest = ch :: r := by rw [cursor_unwindTo, hr]
  have hpeek : b.cursor.peek 0 = some ch := by rw [peek_zero, hr]; rfl
  have hflow := inFlow_unwindTo b b.cursor.column
  have hfollows := follows_token hf (similar_unwindTo_column hf h horderly (by simp [hr])) hmarks hnamed hr' hw
    (unwindTo_column_le b) ?comma ?keys ?scalar
  case comma =>
    rintro rfl
    rw [hflow]
    exact horderly.comma hpeek
  case keys =>
    rintro rfl k hk
    rw [cursor_unwindTo]
    obtain ⟨ts, n, ns, heq⟩ := b.exists_unwindTo b.cursor.column
    rw [heq] at hk
    exact hadmits.key (b.flowLevel, k) hk (.inr ⟨hpeek, rfl⟩)
  case scalar =>
    intro v hv
    rw [ht] at hv
    cases hv
    refine ⟨fun text hhead hmem => ?_, fun text double hch hhead hmem => ?_, hnext⟩
    · rw [hflow]
      exact (hadmits.of_head hhead hmem).1
    · have hstyle := hadmits.of_head hhead hmem
      cases double with
      | true => rwa [style, if_neg Bool.false_ne_true, if_pos (by rw [hpeek, hch]; rfl)] at hstyle
      | false => rwa [style, if_neg Bool.false_ne_true, if_neg (by rw [hpeek, hch]; decide),
          if_pos (by rw [hpeek, hch]; rfl)] at hstyle
  rw [ht] at hfollows
  exact hfollows

/-- The token at a character, read from states in which the collections before it are closed. -/
theorem follows_tokenAt (hnamed : Unnamed w a) (h : Similar w x a b b') (hr : b.cursor.rest = ch :: r)
    (ht : (b.unwindTo b.cursor.column).token ch = .ok t) (hadmits : Admits w x a b t) (horderly : Orderly b)
    (hnext : t.cursor.rest.head? = some w → ∀ e, Inner x e → e ≠ '\'') :
    ∃ e t', b'.cursor.peek 0 = some e ∧ (b'.unwindTo b'.cursor.column).token e = .ok t' ∧ Similar w x a t t' := by
  by_cases hw : ch = w
  · subst hw
    exact follows_tokenAt_hole hf hmarks h hr ht hadmits horderly
  · obtain ⟨t', ht', hsimilar⟩ := follows_tokenAt_char hf hmarks hnamed h hr hw ht hadmits horderly hnext
    have hr' : b'.cursor.rest = ch :: fill w x r := by rw [h.aligned.rest, hr, fill_cons x hw]
    exact ⟨ch, t', by rw [peek_zero, hr']; rfl, ht', hsimilar⟩

theorem step_fill (hnamed : Unnamed w a) (h : Similar w x a s s') (hb : s.begin = .ok b)
    (ht : s.step = .ok (t, ended)) (hadmits : Admits w x a b t) (horderly : Orderly b)
    (hnext : t.cursor.rest.head? = some w → ∀ e, Inner x e → e ≠ '\'') :
    ∃ t', s'.step = .ok (t', ended) ∧ Similar w x a t t' := by
  have hfollows := follows_begin hf h
    (fun v hv p hp hrequired => by
      rw [hb] at hv
      cases hv
      exact hadmits.key p hp (.inl hrequired))
    (fun v hv hhole e he => by
      rw [hb] at hv
      cases hv
      exact (ne_of_opens (opens_of_step hf hb ht hadmits hhole) he).1)
  rw [hb] at hfollows
  obtain ⟨b', hb', hsimilar⟩ := hfollows
  rw [step_of_begin hb] at ht
  rw [step_of_begin hb']
  cases hr : b.cursor.rest with
  | nil =>
      have hr' : b'.cursor.rest = [] := by rw [hsimilar.aligned.rest, hr]; rfl
      rw [peek_zero, hr] at ht
      rw [peek_zero, hr']
      obtain ⟨v, hv, heq⟩ := bind_eq_ok_iff.1 ht
      cases heq
      have hdrop := (hsimilar.unwindTo (-1)).follows_dropCandidate
      rw [hv] at hdrop
      obtain ⟨v', hv', hsimilar', -⟩ := hdrop
      exact ⟨v'.push .streamEnd, bind_eq_ok_iff.2 ⟨v', hv', rfl⟩, hsimilar'.push .streamEnd⟩
  | cons ch r =>
      rw [peek_zero, hr] at ht
      obtain ⟨v, hv, heq⟩ := bind_eq_ok_iff.1 ht
      cases heq
      obtain ⟨e, t', he, ht', hsimilar'⟩ := follows_tokenAt hf hmarks hnamed hsimilar hr hv hadmits horderly hnext
      rw [he]
      exact ⟨t', bind_eq_ok_iff.2 ⟨t', ht', rfl⟩, hsimilar'⟩

end Step

section Run

theorem cursor_dropCandidate (h : s.dropCandidate = .ok t) : t.cursor = s.cursor := by
  rw [dropCandidate] at h
  split at h
  · split at h
    · cases h
    · cases h
      rfl
  · cases h
    rfl

theorem rest_of_ended (hb : s.begin = .ok b) (h : s.step = .ok (t, true)) : t.cursor.rest = [] := by
  rw [step_of_begin hb] at h
  cases hpeek : b.cursor.peek 0 with
  | none =>
      rw [hpeek] at h
      obtain ⟨v, hv, heq⟩ := bind_eq_ok_iff.1 h
      cases heq
      rw [peek_zero, List.head?_eq_none_iff] at hpeek
      change v.cursor.rest = []
      rw [cursor_dropCandidate hv, cursor_unwindTo, hpeek]
  | some ch =>
      rw [hpeek] at h
      obtain ⟨v, -, heq⟩ := bind_eq_ok_iff.1 h
      cases heq

theorem cursor_begin_of_hole (hf : Fillable w x) (hhole : s.cursor.rest.head? = some w) (hb : s.begin = .ok b) :
    b.cursor = s.cursor := by
  obtain ⟨r, hr⟩ := List.head?_eq_some_iff.1 hhole
  have hmark : s.skipMark = s := by
    rw [skipMark, peek_zero, hhole, if_neg (by simp [hf.ne_byteOrderMark])]
  have hspaces : s.cursor.skipSpaces = s.cursor := by
    rw [skipSpaces, skipWhile, takeWhile, hr, List.takeWhile_cons_of_neg (by simp [hf.ne])]
    rfl
  have hcomment : s.cursor.skipComment = s.cursor := by
    rw [skipComment, peek_zero, hhole, if_neg (by simp [hf.ne])]
  have hbreak : s.cursor.lineBreak? = none := lineBreak?_eq_none (by simp [hhole, hf.not_isBreak])
  rw [begin, hmark, skipBetween, hspaces, hcomment, hbreak] at hb
  exact cursor_dropStale hb

/-- The steps over a text: for each the state in which its token begins and the state after it. -/
def stepsFrom : (fuel : Nat) → Scanner → Scan (List (Scanner × Scanner))
  | 0, _ => malformed
  | fuel + 1, s => do
    let b ← s.begin
    let (t, ended) ← s.step
    if ended then pure [(b, t)] else (stepsFrom fuel t).map ((b, t) :: ·)

theorem stepsFrom_cases {fuel : Nat} {ps : List (Scanner × Scanner)} (h : stepsFrom (fuel + 1) s = .ok ps) :
    ∃ b t ended more, s.begin = .ok b ∧ s.step = .ok (t, ended) ∧ ps = (b, t) :: more ∧
      (ended = true ∧ more = [] ∨ ended = false ∧ stepsFrom fuel t = .ok more) := by
  rw [stepsFrom] at h
  obtain ⟨b, hb, h⟩ := bind_eq_ok_iff.1 h
  obtain ⟨⟨t, ended⟩, ht, h⟩ := bind_eq_ok_iff.1 h
  cases ended with
  | true =>
      cases h
      exact ⟨b, t, true, [], hb, ht, rfl, .inl ⟨rfl, rfl⟩⟩
  | false =>
      obtain ⟨more, hmore, rfl⟩ := map_eq_ok_iff.1 h
      exact ⟨b, t, false, more, hb, ht, rfl, .inr ⟨rfl, hmore⟩⟩

variable (hf : Fillable w x) (hmarks : SameMarks w x a) (hnamed : Unnamed w a)
include hf

/-- Where a token ends at a placeholder, the next one is a scalar that it opens. -/
theorem opens_next {fuel : Nat} {ps : List (Scanner × Scanner)} (h : stepsFrom fuel s = .ok ps)
    (hadmits : ∀ p ∈ ps, Admits w x a p.1 p.2) (hhole : s.cursor.rest.head? = some w) :
    ∃ inFlow, OpensPlain inFlow x := by
  cases fuel with
  | zero => cases h
  | succ fuel =>
      obtain ⟨b, t, ended, more, hb, ht, rfl, -⟩ := stepsFrom_cases h
      exact ⟨b.inFlow, opens_of_step hf hb ht (hadmits _ List.mem_cons_self)
        (by rwa [cursor_begin_of_hole hf hhole hb])⟩

include hmarks hnamed

/-- The tokens of a filled text are the tokens of the text, filled. The induction is on the steps; their states stay
similar. -/
theorem run_fill {fuel fuel' : Nat} (hle : fuel ≤ fuel') {ps : List (Scanner × Scanner)} (h : Similar w x a s s')
    (hsteps : stepsFrom fuel s = .ok ps) (hadmits : ∀ p ∈ ps, Admits w x a p.1 p.2) (horderly : ∀ p ∈ ps, Orderly p.1) :
    s'.run fuel' = (s.run fuel).map (Token.fill w x) := by
  induction fuel generalizing s s' fuel' ps with
  | zero => cases hsteps
  | succ fuel ih =>
      obtain ⟨fuel', rfl⟩ : ∃ n, fuel' = n + 1 := ⟨fuel' - 1, by omega⟩
      obtain ⟨b, t, ended, more, hb, ht, rfl, hcases⟩ := stepsFrom_cases hsteps
      rw [List.forall_mem_cons] at hadmits horderly
      have hnext : t.cursor.rest.head? = some w → ∀ e, Inner x e → e ≠ '\'' := by
        intro hhole e he
        rcases hcases with ⟨rfl, -⟩ | ⟨-, hmore⟩
        · rw [rest_of_ended hb ht] at hhole
          cases hhole
        · obtain ⟨inFlow, hopens⟩ := opens_next hf hmore hadmits.2 hhole
          exact (ne_of_opens hopens he).2
      obtain ⟨t', ht', hsimilar⟩ := step_fill hf hmarks hnamed h hb ht hadmits.1 horderly.1 hnext
      rw [run, run, ht, ht']
      rcases hcases with ⟨rfl, -⟩ | ⟨rfl, hmore⟩
      · exact hsimilar.tokens
      · exact ih (by omega) hsimilar hmore hadmits.2 horderly.2

end Run

def steps (a : List Char) : Scan (List (Scanner × Scanner)) := stepsFrom (a.length + 2) (.start a)

end Scanner

open Scanner in
theorem tokens_fill {w : Char} {x a : List Char} (hf : Fillable w x) (hmarks : Cursor.SameMarks w x a)
    (hnamed : Cursor.Unnamed w a) {ps : List (Scanner × Scanner)} (hsteps : steps a = .ok ps)
    (hadmits : ∀ p ∈ ps, Admits w x a p.1 p.2) (horderly : ∀ p ∈ ps, Orderly p.1) :
    tokens (fill w x a) = (tokens a).map (Token.fill w x) := by
  have hle := hf.length_le a
  rw [tokens, tokens, run_fill hf hmarks hnamed (by omega) similar_start hsteps hadmits horderly, List.map_reverse]

end Workcell.Yaml
