import Workcell.Proofs.Yaml.Filled.States

namespace Workcell.Yaml

namespace Scanner

open Cursor

variable {w : Char} {x a : List Char} {s s' t t' : Scanner} {c c' d : Cursor} {ch : Char} {u r : List Char}
  {token : Token}

theorem cursor_openBlock (s : Scanner) (column : Nat) (at? : Option Nat) (t : Token) :
    (s.openBlock column at? t).cursor = s.cursor := by
  rw [openBlock]
  split
  · cases at? <;> rfl
  · rfl

theorem exists_of_noteCandidate (h : s.noteCandidate = .ok t) : ∃ ps, t = { s with candidates := ps } := by
  rw [noteCandidate] at h
  split at h
  · obtain ⟨v, hv, heq⟩ := bind_eq_ok_iff.1 h
    cases heq
    rw [dropCandidate] at hv
    split at hv
    · split at hv
      · cases hv
      · cases hv
        exact ⟨_, rfl⟩
    · cases hv
      exact ⟨_, rfl⟩
  · cases h
    exact ⟨s.candidates, rfl⟩

theorem dropCandidate_allow (s : Scanner) (b : Bool) :
    { s with keyAllowed := b }.dropCandidate = s.dropCandidate.map fun t => { t with keyAllowed := b } := by
  rw [dropCandidate, dropCandidate]
  dsimp only
  split
  · split <;> rfl
  · rfl

def plainHere (s : Scanner) : List Char × Bool × Cursor :=
  s.cursor.plain s.inFlow (s.indent + 1) (s.cursor.rest.length + 1) [] false

def readPlain (s : Scanner) (p : List Char × Bool × Cursor) : Scanner :=
  { s with cursor := p.2.2, keyAllowed := p.2.1, tokens := .scalar ⟨p.1, false⟩ true :: s.tokens }

theorem plainScalar_eq (s : Scanner) : s.plainScalar = s.noteCandidate.map fun t => t.readPlain t.plainHere := by
  rw [plainScalar]
  cases s.noteCandidate <;> rfl

theorem exists_of_atDocumentMark (h : c.atDocumentMark = true) :
    ∃ u r, c.rest = u ++ r ∧ u.length = 3 ∧ ∀ e ∈ u, e = '-' ∨ e = '.' := by
  rw [atDocumentMark, Bool.and_eq_true, Bool.or_eq_true] at h
  rcases h.1 with h | h
  · obtain ⟨r, hr⟩ := List.isPrefixOf_iff_prefix.1 h
    exact ⟨_, r, hr.symm, rfl, by simp⟩
  · obtain ⟨r, hr⟩ := List.isPrefixOf_iff_prefix.1 h
    exact ⟨_, r, hr.symm, rfl, by simp⟩

section Steps

variable (hf : Fillable w x) (h : Similar w x a s s')
include h

theorem Similar.allow (b : Bool)
    (hcolumn : b = true → s'.cursor.column = s.cursor.column ∨ s.cursor.rest = [] ∨ s.inFlow) :
    Similar w x a { s with keyAllowed := b } { s' with keyAllowed := b } := by
  refine ⟨h.aligned, h.tokens, h.indent, h.indents, h.flowLevel, rfl, h.candidates, ?_⟩
  cases b with
  | false => exact .inr (.inr (.inr rfl))
  | true => exact (hcolumn rfl).imp_right (.imp_right .inl)

theorem Similar.forbid : Similar w x a { s with keyAllowed := false } { s' with keyAllowed := false } :=
  h.allow false nofun

theorem Similar.read (hd : Aligned w x a s.cursor.index c c') (token : Token) : Similar w x a
    { s with cursor := c, keyAllowed := false, tokens := token :: s.tokens }
    { s' with cursor := c', keyAllowed := false, tokens := token.fill w x :: s'.tokens } :=
  ⟨hd.from_le (Nat.zero_le _), by rw [h.tokens]; rfl, h.indent, h.indents, h.flowLevel, rfl, h.candidates_from hd,
    .inr (.inr (.inr rfl))⟩

include hf

theorem Similar.advance (hc : s.cursor.rest = u ++ r) (hw : w ∉ u) :
    Similar w x a (s.advance u.length) (s'.advance u.length) := by
  have hforward := h.here.forward hc
  rw [fill_of_not_mem x hw] at hforward
  refine ⟨hforward.from_le (Nat.zero_le _), h.tokens, h.indent, h.indents, h.flowLevel, h.keyAllowed,
    h.candidates_from hforward, ?_⟩
  refine h.column.imp (h.aligned.column_forward hf hc hw) (.imp_left fun hnil => ?_)
  rw [Scanner.advance, rest_forward, hnil, List.drop_nil]

theorem Similar.over (hc : s.cursor.rest = ch :: r) (hw : ch ≠ w) (htoken : token.fill w x = token) :
    Similar w x a ((s.advance 1).push token) ((s'.advance 1).push token) := by
  have hadvance := h.advance hf (u := [ch]) hc (by simpa using hw.symm)
  have hpush := hadvance.push token
  rwa [htoken] at hpush

theorem follows_documentMark (hc : s.cursor.rest = u ++ r) (hu : u.length = 3) (hw : w ∉ u)
    (htoken : token.fill w x = token) : Follows (Similar w x a) (s.documentMark token) (s'.documentMark token) := by
  refine (h.unwindTo (-1)).follows_dropCandidate.bind ?_
  rintro t t' ⟨ht, rfl⟩
  have hrest : (s.unwindTo (-1)).withoutKey.cursor.rest = u ++ r := by
    rw [withoutKey, cursor_unwindTo, hc]
  have hpush := (ht.forbid.advance hf hrest hw).push token
  rw [htoken, hu] at hpush
  exact follows_ok hpush

theorem follows_openFlow (hc : s.cursor.rest = ch :: r) (hw : ch ≠ w) (htoken : token.fill w x = token) :
    Follows (Similar w x a) (s.openFlow token) (s'.openFlow token) := by
  refine (h.follows_noteCandidate hf hc).bind ?_
  rintro t t' ⟨ht, ps, rfl⟩
  have hinside : Similar w x a
      { s with flowLevel := s.flowLevel + 1, keyAllowed := true, candidates := ps }
      { t' with flowLevel := t'.flowLevel + 1, keyAllowed := true } :=
    ⟨ht.aligned, ht.tokens, ht.indent, ht.indents, congrArg (· + 1) ht.flowLevel, rfl, ht.candidates,
      .inr (.inr (.inl (decide_eq_true (Nat.succ_pos _))))⟩
  exact follows_ok (hinside.over hf hc hw htoken)

theorem follows_closeFlow (hc : s.cursor.rest = ch :: r) (hw : ch ≠ w) (htoken : token.fill w x = token) :
    Follows (Similar w x a) (s.closeFlow token) (s'.closeFlow token) := by
  refine h.follows_dropCandidate.bind ?_
  rintro t t' ⟨ht, rfl⟩
  have houtside : Similar w x a
      { s.withoutKey with flowLevel := s.withoutKey.flowLevel - 1, keyAllowed := false }
      { t' with flowLevel := t'.flowLevel - 1, keyAllowed := false } :=
    ⟨ht.aligned, ht.tokens, ht.indent, ht.indents, congrArg (· - 1) ht.flowLevel, rfl, ht.candidates,
      .inr (.inr (.inr rfl))⟩
  by_cases hzero : s.withoutKey.flowLevel = 0
  · rw [if_pos hzero]
    trivial
  · rw [if_neg hzero, if_neg (by rwa [ht.flowLevel])]
    exact follows_ok (houtside.over hf hc hw htoken)

theorem follows_flowEntry (hc : s.cursor.rest = ch :: r) (hw : ch ≠ w) (hflow : s.inFlow = true) :
    Follows (Similar w x a) s.flowEntry s'.flowEntry := by
  refine (h.allow true fun _ => .inr (.inr hflow)).follows_dropCandidate.bind ?_
  rintro t t' ⟨ht, rfl⟩
  exact follows_ok (ht.over hf hc hw rfl)

omit hf in
/-- Outside of brackets a collection begins only where a key may, so in the same column. -/
theorem follows_openBlockHere (hc : s.cursor.rest = ch :: r) (htoken : token.fill w x = token) :
    Follows (fun t t' => Similar w x a t t' ∧ t.cursor = s.cursor ∧
        (t'.cursor.column = t.cursor.column ∨ t.inFlow = true))
      (s.openBlockHere token) (s'.openBlockHere token) := by
  rw [openBlockHere, openBlockHere, h.inFlow, h.keyAllowed]
  cases hflow : s.inFlow with
  | true => exact follows_ok ⟨h, rfl, .inr hflow⟩
  | false =>
      cases hkey : s.keyAllowed with
      | false => trivial
      | true =>
          have hcolumn := h.column_eq hc hflow hkey
          have hopen := h.openBlock s.cursor.column none token
          rw [htoken] at hopen
          rw [hcolumn]
          exact follows_ok ⟨hopen, cursor_openBlock _ _ _ _, .inl (by rw [cursor_openBlock, cursor_openBlock, hcolumn])⟩

theorem follows_blockEntry (hc : s.cursor.rest = ch :: r) (hw : ch ≠ w) :
    Follows (Similar w x a) s.blockEntry s'.blockEntry := by
  refine (follows_openBlockHere h hc rfl).bind ?_
  rintro t t' ⟨ht, hcursor, hcolumn⟩
  refine (ht.allow true fun _ => hcolumn.imp_right .inr).follows_dropCandidate.bind ?_
  rintro v v' ⟨hv, rfl⟩
  exact follows_ok (hv.over hf (hcursor ▸ hc) hw rfl)

theorem follows_mark (hc : s.cursor.rest = ch :: r) (hw : ch ≠ w) (htoken : token.fill w x = token) :
    Follows (Similar w x a)
      (s.openBlockHere .blockMappingStart >>= fun s =>
        { s with keyAllowed := !s.inFlow }.dropCandidate >>= fun s => pure ((s.advance 1).push token))
      (s'.openBlockHere .blockMappingStart >>= fun s =>
        { s with keyAllowed := !s.inFlow }.dropCandidate >>= fun s => pure ((s.advance 1).push token)) := by
  refine (follows_openBlockHere h hc rfl).bind ?_
  rintro t t' ⟨ht, hcursor, hcolumn⟩
  rw [ht.inFlow]
  refine (ht.allow (!t.inFlow) fun _ => hcolumn.imp_right .inr).follows_dropCandidate.bind ?_
  rintro v v' ⟨hv, rfl⟩
  exact follows_ok (hv.over hf (hcursor ▸ hc) hw htoken)

theorem follows_explicitKey (hc : s.cursor.rest = ch :: r) (hw : ch ≠ w) :
    Follows (Similar w x a) s.explicitKey s'.explicitKey :=
  follows_mark hf h hc hw rfl

/-- A colon makes a key of a candidate that is not too long. -/
theorem follows_value (hc : s.cursor.rest = ch :: r) (hw : ch ≠ w)
    (hkeys : ∀ k, (s.flowLevel, k) ∈ s.candidates → ¬TooLong w x a k.index s.cursor.index) :
    Follows (Similar w x a) s.value s'.value := by
  have hlookup : s'.candidates.lookup s'.flowLevel = s'.candidates.lookup s.flowLevel := by rw [h.flowLevel]
  rw [value, value, hlookup]
  rcases h.candidates.lookup_cases s.flowLevel with
    ⟨hnone, hnone'⟩ | ⟨k, hk, hmem, ⟨k', hk', hsame⟩ | ⟨-, -, hlong⟩⟩
  · rw [hnone, hnone']
    exact follows_mark hf h hc hw rfl
  · rw [hk, hk']
    have hkey : Similar w x a (s.withoutKey.insertAt k.tokens .key) (s'.withoutKey.insertAt k'.tokens .key) := by
      rw [hsame.tokens]
      exact h.withoutKey.insertAt k.tokens .key
    have hopen : Similar w x a
        (if (s.withoutKey.insertAt k.tokens .key).inFlow then s.withoutKey.insertAt k.tokens .key
          else (s.withoutKey.insertAt k.tokens .key).openBlock k.column (some k.tokens) .blockMappingStart)
        (if (s'.withoutKey.insertAt k'.tokens .key).inFlow then s'.withoutKey.insertAt k'.tokens .key
          else (s'.withoutKey.insertAt k'.tokens .key).openBlock k'.column (some k'.tokens) .blockMappingStart) := by
      rw [hkey.inFlow]
      by_cases hflow : (s.withoutKey.insertAt k.tokens .key).inFlow = true
      · rw [if_pos hflow, if_pos hflow]
        exact hkey
      · have hlevel : s.flowLevel = 0 := by
          have hle : ¬0 < s.flowLevel := fun hlt => hflow (decide_eq_true hlt)
          omega
        have hkey' := hkey.openBlock k.column (some k.tokens) .blockMappingStart
        rw [if_neg hflow, if_neg hflow, hsame.column hlevel]
        rw [hsame.tokens] at hkey' ⊢
        exact hkey'
    have hcursor : (if (s.withoutKey.insertAt k.tokens .key).inFlow then s.withoutKey.insertAt k.tokens .key
          else (s.withoutKey.insertAt k.tokens .key).openBlock k.column (some k.tokens) .blockMappingStart).cursor =
        s.cursor := by
      split
      · rfl
      · rw [cursor_openBlock]
        rfl
    exact follows_ok (hopen.forbid.over hf (hcursor ▸ hc) hw rfl)
  · exact absurd hlong (hkeys k hmem)

theorem follows_candidateToken (hc : s.cursor.rest = ch :: r) {read : Cursor → Scan (Token × Cursor)}
    (hread : ∀ c', Aligned w x a s.cursor.index s.cursor c' →
      Follows (SameToken w x a s.cursor.index) (read s.cursor) (read c')) :
    Follows (Similar w x a) (s.candidateToken read) (s'.candidateToken read) := by
  refine (h.follows_noteCandidate hf hc).bind ?_
  rintro t t' ⟨ht, ps, rfl⟩
  refine (hread _ ht.here).bind ?_
  rintro ⟨token, d⟩ ⟨token', d'⟩ ⟨htoken, hd⟩
  dsimp only at htoken hd ⊢
  rw [htoken]
  exact follows_ok (ht.read hd token)

theorem follows_blockScalar (hc : s.cursor.rest = ch :: r) (hw : ch ≠ w) (fold : Bool) :
    Follows (Similar w x a) (s.blockScalar fold) (s'.blockScalar fold) := by
  rw [blockScalar, blockScalar, dropCandidate_allow s, dropCandidate_allow s']
  refine (h.follows_dropCandidate.map (S := fun t t' => ∃ v v', Similar w x a v v' ∧ v = s.withoutKey ∧
    t = { v with keyAllowed := true } ∧ t' = { v' with keyAllowed := true })
    fun v v' hv => ⟨v, v', hv.1, hv.2, rfl, rfl⟩).bind ?_
  rintro _ _ ⟨_, v, hv, rfl, rfl, rfl⟩
  dsimp only
  rw [hv.indent]
  refine (follows_block hf fold s.withoutKey.indent hv.here hc hw).bind ?_
  rintro ⟨text, d⟩ ⟨text', d'⟩ ⟨htext, hd⟩
  dsimp only at htext hd ⊢
  rw [htext]
  refine follows_ok ⟨hd.aligned.from_le (Nat.zero_le _), ?_, rfl, hv.indents, hv.flowLevel, rfl,
    hv.candidates_from hd.aligned, hd.column.imp_right .inl⟩
  rw [hv.tokens]
  rfl

theorem follows_quotedScalar (hmarks : SameMarks w x a) (hnamed : Unnamed w a) (hc : s.cursor.rest = ch :: r)
    (hw : ch ≠ w)
    (double : Bool) (hx : ∀ t, s.quotedScalar double = .ok t →
      (∀ text, t.tokens.head? = some (.scalar text false) → w ∈ text.chars → Quotable double x) ∧
      (t.cursor.rest.head? = some w → ∀ e, Inner x e → e ≠ '\'')) :
    Follows (Similar w x a) (s.quotedScalar double) (s'.quotedScalar double) := by
  cases hleft : s.quotedScalar double with
  | error e => trivial
  | ok t =>
      obtain ⟨hquotable, hopen⟩ := hx t hleft
      obtain ⟨v, hv, hread⟩ := bind_eq_ok_iff.1 hleft
      obtain ⟨ps, rfl⟩ := exists_of_noteCandidate hv
      obtain ⟨⟨token, d⟩, hread, heq⟩ := bind_eq_ok_iff.1 hread
      obtain ⟨⟨text, d⟩, htext, heq'⟩ := bind_eq_ok_iff.1 hread
      cases heq'
      cases heq
      rw [← hleft]
      refine follows_candidateToken hf h hc fun c' hc' => ?_
      have hlength : c'.next.rest.length < c'.rest.length := by
        have hrest : c'.rest = ch :: fill w x r := by rw [hc'.rest, hc, fill_cons x hw]
        exact length_next_lt hrest
      obtain ⟨d', hd', halign⟩ := quoted_of_ok hf hmarks hnamed (hc'.next hc hw) hlength htext
        (hquotable text rfl) hopen
      dsimp only at htext
      rw [htext, hd']
      exact follows_ok ⟨rfl, halign⟩

theorem follows_plainScalar (hmarks : SameMarks w x a) (hc : s.cursor.rest = ch :: r)
    (hcolumn : s.inFlow = true ∨ s.indent ≤ s.cursor.column)
    (hx : ∀ t, s.plainScalar = .ok t → ∀ text, t.tokens.head? = some (.scalar text true) →
      w ∈ text.chars → Plainable s.inFlow x) :
    Follows (Similar w x a) s.plainScalar s'.plainScalar := by
  rw [plainScalar_eq] at hx ⊢
  rw [plainScalar_eq]
  refine ((h.follows_noteCandidate hf hc).and (Q := fun t => s.noteCandidate = .ok t) fun _ ht => ht).map ?_
  rintro t t' ⟨⟨ht, ps, rfl⟩, hnote⟩
  rw [hnote] at hx
  have hplain : SamePlain w x a s.cursor.index { s with candidates := ps }.plainHere t'.plainHere := by
    rw [plainHere, plainHere, ht.inFlow, ht.indent]
    exact plain_fill_start hf hmarks ht.here (hcolumn.imp_right fun hle => by dsimp only; omega) (hx _ rfl _ rfl)
  refine ⟨hplain.aligned.from_le (Nat.zero_le _), ?_, ht.indent, ht.indents, ht.flowLevel, hplain.keyAllowed,
    ht.candidates_from hplain.aligned, ?_⟩
  · rw [readPlain, hplain.text, ht.tokens]
    rfl
  · cases hkey : ({ s with candidates := ps } : Scanner).plainHere.2.1 with
    | true => exact .inl (hplain.column hkey)
    | false => exact .inr (.inr (.inr hkey))

theorem follows_directiveToken (hc : s.cursor.rest = ch :: r) (hw : ch ≠ w) :
    let read := fun s : Scanner => (s.unwindTo (-1)).dropCandidate >>= fun s => do
      let (d, c) ← directive s.cursor
      pure { s with cursor := c, keyAllowed := false, tokens := .directive d :: s.tokens }
    Follows (Similar w x a) (read s) (read s') := by
  refine (h.unwindTo (-1)).follows_dropCandidate.bind ?_
  rintro t t' ⟨ht, rfl⟩
  have hrest : (s.unwindTo (-1)).withoutKey.cursor.rest = ch :: r := by
    rw [withoutKey, cursor_unwindTo, hc]
  refine (follows_directive hf ht.here hrest hw).bind ?_
  rintro ⟨d, e⟩ ⟨d', e'⟩ ⟨heq, hd⟩
  dsimp only at heq hd ⊢
  rw [heq]
  exact follows_ok (ht.read hd.aligned (.directive d))

theorem follows_named (hc : s.cursor.rest = ch :: r) (hw : ch ≠ w) {make : String → Token}
    (hmake : ∀ n, (make n).fill w x = make n) :
    let read := fun c => (anchorName c).map fun (n, c) => (make n, c)
    Follows (Similar w x a) (s.candidateToken read) (s'.candidateToken read) := by
  refine follows_candidateToken hf h hc fun c' hc' => (follows_anchorName hf hc' hc hw).map ?_
  rintro ⟨n, d⟩ ⟨n', d'⟩ ⟨heq, hd⟩
  refine ⟨?_, hd⟩
  dsimp only at heq ⊢
  rw [heq, hmake]

theorem follows_token (hmarks : SameMarks w x a) (hnamed : Unnamed w a) (hc : s.cursor.rest = ch :: r) (hw : ch ≠ w)
    (hcolumn : s.inFlow = true ∨ s.indent ≤ s.cursor.column) (hcomma : ch = ',' → s.inFlow = true)
    (hkeys : ch = ':' → ∀ k, (s.flowLevel, k) ∈ s.candidates → ¬TooLong w x a k.index s.cursor.index)
    (hx : ∀ t, s.token ch = .ok t →
      (∀ text, t.tokens.head? = some (.scalar text true) → w ∈ text.chars → Plainable s.inFlow x) ∧
      (∀ text double, ch = (if double then '"' else '\'') → t.tokens.head? = some (.scalar text false) →
        w ∈ text.chars → Quotable double x) ∧
      (t.cursor.rest.head? = some w → ∀ e, Inner x e → e ≠ '\'')) :
    Follows (Similar w x a) (s.token ch) (s'.token ch) := by
  have hc' : s'.cursor.rest = ch :: fill w x r := by rw [h.aligned.rest, hc, fill_cons x hw]
  obtain ⟨-, hle, hzero⟩ := h.aligned.position hf
  have hstart : s'.cursor.column = 0 ↔ s.cursor.column = 0 := by omega
  have hmark : (s'.cursor.column = 0 ∧ s'.cursor.atDocumentMark = true) ↔
      s.cursor.column = 0 ∧ s.cursor.atDocumentMark = true := by
    rw [hstart]
    exact and_congr_right fun hcol => by rw [hmarks.eq h.aligned hcol]
  have hends : endsWord (s'.cursor.peek 1) = endsWord (s.cursor.peek 1) := by
    rw [peek_one hc, peek_one hc', hf.endsWord_head]
  have hstarts : s'.startsPlain ch = s.startsPlain ch := by
    rw [startsPlain, startsPlain, hends, h.inFlow]
  unfold token at hx ⊢
  dsimp only at hx ⊢
  refine .ite (by rw [hstart]) hx (fun hp _ => ?directive) fun _ hx =>
    .ite hmark hx (fun hp _ => ?document) fun _ hx =>
    .ite Iff.rfl hx (fun hp _ => ?openSequence) fun _ hx =>
    .ite Iff.rfl hx (fun hp _ => ?openMapping) fun _ hx =>
    .ite Iff.rfl hx (fun hp _ => ?closeSequence) fun _ hx =>
    .ite Iff.rfl hx (fun hp _ => ?closeMapping) fun _ hx =>
    .ite Iff.rfl hx (fun hp _ => ?flowEntry) fun _ hx =>
    .ite (by rw [hends]) hx (fun hp _ => ?blockEntry) fun _ hx =>
    .ite (by rw [hends, h.inFlow]) hx (fun hp _ => ?key) fun _ hx =>
    .ite (by rw [hends, h.inFlow]) hx (fun hp _ => ?value) fun _ hx =>
    .ite Iff.rfl hx (fun hp _ => ?reference) fun _ hx =>
    .ite Iff.rfl hx (fun hp _ => ?anchor) fun _ hx =>
    .ite Iff.rfl hx (fun hp _ => ?tag) fun _ hx =>
    .ite (by rw [h.inFlow]) hx (fun hp _ => ?literal) fun _ hx =>
    .ite (by rw [h.inFlow]) hx (fun hp _ => ?folded) fun _ hx =>
    .ite Iff.rfl hx (fun hp hx => ?single) fun _ hx =>
    .ite Iff.rfl hx (fun hp hx => ?double) fun _ hx =>
    .ite (by rw [hstarts]) hx (fun hp hx => ?plain) fun _ _ => trivial
  case directive => exact follows_directiveToken hf h hc hw
  case document =>
    obtain ⟨u, r, hu, hlength, hall⟩ := exists_of_atDocumentMark hp.2
    refine follows_documentMark hf h hu hlength (fun hmem => ?_) (by split <;> rfl)
    exact (hall w hmem).elim (hf.ne '-' (by decide)) (hf.ne '.' (by decide))
  case openSequence => exact follows_openFlow hf h hc hw rfl
  case openMapping => exact follows_openFlow hf h hc hw rfl
  case closeSequence => exact follows_closeFlow hf h hc hw rfl
  case closeMapping => exact follows_closeFlow hf h hc hw rfl
  case flowEntry => exact follows_flowEntry hf h hc hw (hcomma hp)
  case blockEntry => exact follows_blockEntry hf h hc hw
  case key => exact follows_explicitKey hf h hc hw
  case value => exact follows_value hf h hc hw (hkeys hp.1)
  case reference => exact follows_named hf h hc hw fun _ => rfl
  case anchor => exact follows_named hf h hc hw fun _ => rfl
  case tag => exact follows_candidateToken hf h hc fun c' hc' => follows_tag hf hc' (hp ▸ hc)
  case literal => exact follows_blockScalar hf h hc hw false
  case folded => exact follows_blockScalar hf h hc hw true
  case single =>
    exact follows_quotedScalar hf h hmarks hnamed hc hw false fun t ht =>
      ⟨fun text => (hx t ht).2.1 text false hp, (hx t ht).2.2⟩
  case double =>
    exact follows_quotedScalar hf h hmarks hnamed hc hw true fun t ht =>
      ⟨fun text => (hx t ht).2.1 text true hp, (hx t ht).2.2⟩
  case plain => exact follows_plainScalar hf h hmarks hc hcolumn fun t ht => (hx t ht).1

end Steps

end Scanner

end Workcell.Yaml
