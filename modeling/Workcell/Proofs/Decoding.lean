import Workcell.Line
import Workcell.Proofs.Utf8
import Workcell.Text.Split
import Mathlib.Data.List.Induction

namespace Workcell

namespace Utf8

open String (utf8EncodeChar)

def Begins (bytes : List UInt8) : Prop := ∃ c, bytes <+: utf8EncodeChar c

/-- No character stands at the front of `part ++ r`, and `part` is as much of it as begins one, a single byte at
least. -/
structure MaximalFault (part r : List UInt8) : Prop where
  ne_nil : part ≠ []
  begins : part.length = 1 ∨ Begins part
  no_char : ∀ c, ¬utf8EncodeChar c <+: part ++ r
  longest : ∀ longer, longer <+: part ++ r → Begins longer → longer.length ≤ part.length

inductive Shows : List UInt8 → List Char → Prop
  | nil : Shows [] []
  | char (c : Char) {r : List UInt8} {cs : List Char} : Shows r cs → Shows (utf8EncodeChar c ++ r) (c :: cs)
  | fault {part r : List UInt8} {cs : List Char} : MaximalFault part r → Shows r cs →
      Shows (part ++ r) ('\uFFFD' :: cs)

structure Pending (bytes : List UInt8) (p : Partial) : Prop where
  reads : ∀ r, pieces (bytes ++ r) = piecesFrom (some p) r
  fits : p.low ≤ p.high

theorem pieces_char_append (c : Char) (r : List UInt8) : pieces (utf8EncodeChar c ++ r) = .char c :: pieces r := by
  obtain ⟨bytes, h⟩ := Encoding.exists_of_char c
  rw [h.encode_eq, h.pieces_append]

theorem decodeLossy_char_append (c : Char) (r : List UInt8) :
    decodeLossy (utf8EncodeChar c ++ r) = c :: decodeLossy r := by
  rw [decodeLossy, pieces_char_append]
  rfl

theorem eq_of_pieces_char {bytes : List UInt8} {c : Char} (h : pieces bytes = [.char c]) :
    bytes = utf8EncodeChar c := by
  rw [eq_encode_of_pieces (show pieces bytes = [c].map .char from h), encode, List.flatMap_singleton]

theorem decodeLossy_encode (cs : List Char) : decodeLossy (encode cs) = cs := by
  rw [decodeLossy, pieces_encode, List.map_map]
  exact List.map_id cs

theorem lead_cases (a : UInt8) :
    (∃ c, lead a = ([.char c], none)) ∨ lead a = ([.fault 1 .badStart], none) ∨
      ∃ p : Partial, lead a = ([], some p) ∧ 0x80 ≤ p.low.toNat ∧ p.low ≤ p.high := by
  by_cases hone : a.toNat < 0x80
  · exact .inl ⟨_, lead_one hone⟩
  by_cases hbad : a.toNat < 0xC2 ∨ 0xF4 < a.toNat
  · exact .inr (.inl (lead_bad (by omega) hbad))
  refine .inr (.inr ?_)
  by_cases htwo : a.toNat < 0xE0
  · exact ⟨_, lead_two (by omega) htwo, Nat.le_refl 0x80, show (0x80 : UInt8) ≤ 0xBF by decide⟩
  by_cases hthree : a.toNat < 0xF0
  · refine ⟨_, lead_three (by omega) hthree, ?_, ?_⟩
    · simp only [toNat_lowThree]
      split <;> omega
    · simp only [UInt8.le_iff_toNat_le, toNat_lowThree, toNat_highThree]
      split <;> split <;> omega
  · refine ⟨_, lead_four (by omega) (by omega), ?_, ?_⟩
    · simp only [toNat_lowFour]
      split <;> omega
    · simp only [UInt8.le_iff_toNat_le, toNat_lowFour, toNat_highFour]
      split <;> split <;> omega

section Fault

variable {bytes r : List UInt8} {p : Partial} {x : UInt8}

theorem piecesFrom_of_not_between (h : ¬(p.low ≤ x ∧ x ≤ p.high)) (r : List UInt8) :
    piecesFrom (some p) (x :: r) = .fault p.taken .badContinuation :: pieces (x :: r) := by
  simp only [pieces, piecesFrom, feed, h, if_false, List.cons_append]

theorem exists_completion (fits : p.low ≤ p.high) : ∃ more c, piecesFrom (some p) more = [.char c] := by
  induction howed : p.owed generalizing p with
  | zero => exact ⟨[p.low], _, piecesFrom_last howed (Nat.le_refl _) (UInt8.le_iff_toNat_le.1 fits)⟩
  | succ n ih =>
      obtain ⟨more, c, hmore⟩ := @ih ⟨p.payload * 64 + p.low.toNat % 64, p.taken + 1, n, 0x80, 0xBF⟩
        (show (0x80 : UInt8) ≤ 0xBF by decide) rfl
      exact ⟨p.low :: more, c,
        (piecesFrom_next howed (Nat.le_refl _) (UInt8.le_iff_toNat_le.1 fits)).trans hmore⟩

namespace Pending

theorem begins (h : Pending bytes p) : Begins bytes := by
  obtain ⟨more, c, hmore⟩ := exists_completion h.fits
  refine ⟨c, more, ?_⟩
  apply eq_of_pieces_char
  rw [h.reads, hmore]

theorem not_char (h : Pending bytes p) (c : Char) : ¬utf8EncodeChar c <+: bytes := by
  rintro ⟨s, rfl⟩
  have hpieces := h.reads []
  rw [List.append_nil, pieces_char_append] at hpieces
  cases hpieces

theorem not_begins_concat (h : Pending bytes p) (hx : ¬(p.low ≤ x ∧ x ≤ p.high)) : ¬Begins (bytes ++ [x]) := by
  rintro ⟨c, s, hs⟩
  have hchar := pieces_char_append c []
  rw [List.append_nil, ← hs, List.append_assoc, h.reads, List.singleton_append, piecesFrom_of_not_between hx] at hchar
  cases hchar

theorem concat {n : Nat} (h : Pending bytes p) (hx : p.low ≤ x ∧ x ≤ p.high) (howed : p.owed = n + 1) :
    Pending (bytes ++ [x]) ⟨p.payload * 64 + x.toNat % 64, p.taken + 1, n, 0x80, 0xBF⟩ := by
  refine ⟨fun r => ?_, show (0x80 : UInt8) ≤ 0xBF by decide⟩
  rw [List.append_assoc, h.reads, List.singleton_append]
  exact piecesFrom_next howed (UInt8.le_iff_toNat_le.1 hx.1) (UInt8.le_iff_toNat_le.1 hx.2)

/-- Where an unfinished character cannot go on, its bytes are a fault by themselves. -/
theorem maximalFault (h : Pending bytes p) (hne : bytes ≠ [])
    (hstop : ∀ y ∈ r.head?, ¬(p.low ≤ y ∧ y ≤ p.high)) : MaximalFault bytes r := by
  have hlongest (longer : List UInt8) (hwithin : longer <+: bytes ++ r) (hbegins : Begins longer) :
      longer.length ≤ bytes.length := by
    by_contra hlonger
    obtain ⟨s, rfl⟩ : bytes <+: longer :=
      List.prefix_of_prefix_length_le (List.prefix_append _ _) hwithin (by omega)
    obtain ⟨y, s, rfl⟩ : ∃ y s', s = y :: s' := List.exists_cons_of_ne_nil (by rintro rfl; simp at hlonger)
    obtain ⟨t, rfl⟩ := (List.prefix_append_right_inj bytes).1 hwithin
    obtain ⟨c, hc⟩ := hbegins
    have hfront : bytes ++ [y] <+: bytes ++ y :: s := by simp
    exact h.not_begins_concat (hstop y rfl) ⟨c, hfront.trans hc⟩
  refine ⟨hne, .inr h.begins, fun c hc => ?_, hlongest⟩
  refine h.not_char c (List.prefix_of_prefix_length_le hc (List.prefix_append _ _) ?_)
  exact hlongest _ hc ⟨c, List.prefix_refl _⟩

end Pending

def Opens (bytes : List UInt8) : Prop :=
  (∃ c r, bytes = utf8EncodeChar c ++ r) ∨
    ∃ part r, bytes = part ++ r ∧ MaximalFault part r ∧ decodeLossy bytes = '\uFFFD' :: decodeLossy r

theorem Pending.opens (h : Pending bytes p) (hne : bytes ≠ []) (r : List UInt8) : Opens (bytes ++ r) := by
  induction r generalizing bytes p with
  | nil =>
      refine .inr ⟨bytes, [], rfl, h.maximalFault hne (by simp), ?_⟩
      rw [decodeLossy, h.reads]
      rfl
  | cons x r ih =>
      by_cases hx : p.low ≤ x ∧ x ≤ p.high
      · cases howed : p.owed with
        | zero =>
            have hpieces := h.reads [x]
            rw [piecesFrom_last howed (UInt8.le_iff_toNat_le.1 hx.1) (UInt8.le_iff_toNat_le.1 hx.2)] at hpieces
            have hchar := eq_of_pieces_char hpieces
            exact .inl ⟨_, r, by rw [← hchar, List.append_assoc, List.singleton_append]⟩
        | succ n =>
            have hopens := ih (h.concat hx howed) (by simp)
            rwa [List.append_assoc] at hopens
      · refine .inr ⟨bytes, x :: r, rfl, h.maximalFault hne (by simpa using hx), ?_⟩
        rw [decodeLossy, h.reads, piecesFrom_of_not_between hx]
        rfl

theorem opens_of_ne_nil (hne : bytes ≠ []) : Opens bytes := by
  obtain ⟨a, r, rfl⟩ := List.exists_cons_of_ne_nil hne
  rcases lead_cases a with ⟨c, hlead⟩ | hlead | ⟨p, hlead, -, hfits⟩
  · have hchar : [a] = utf8EncodeChar c := eq_of_pieces_char (pieces_cons hlead [])
    exact .inl ⟨c, r, by rw [← hchar]; rfl⟩
  · have hpieces (s : List UInt8) : pieces (a :: s) = .fault 1 .badStart :: pieces s := pieces_cons hlead s
    have hbegins (c : Char) : ¬[a] <+: utf8EncodeChar c := by
      rintro ⟨s, hs⟩
      have hchar := pieces_char_append c []
      rw [List.append_nil, ← hs, List.singleton_append, hpieces] at hchar
      cases hchar
    have hlongest (longer : List UInt8) (hwithin : longer <+: a :: r) (h : Begins longer) : longer = [] := by
      cases longer with
      | nil => rfl
      | cons b longer =>
          obtain ⟨rfl, -⟩ := List.cons_prefix_cons.1 hwithin
          obtain ⟨c, hc⟩ := h
          have hfront : [b] <+: b :: longer := by simp
          exact absurd (hfront.trans hc) (hbegins c)
    refine .inr ⟨[a], r, rfl, ⟨by simp, .inl rfl, fun c hc => ?_, fun longer hwithin h => ?_⟩, ?_⟩
    · have hnil := hlongest _ hc ⟨c, List.prefix_refl _⟩
      have hchar := pieces_char_append c []
      rw [hnil] at hchar
      cases hchar
    · rw [hlongest longer hwithin h]
      exact Nat.zero_le _
    · rw [decodeLossy, hpieces]
      rfl
  · exact Pending.opens ⟨fun s => pieces_cons hlead s, hfits⟩ (List.cons_ne_nil a []) r

theorem MaximalFault.eq {part part' r r' : List UInt8} (h : MaximalFault part r) (h' : MaximalFault part' r')
    (heq : part ++ r = part' ++ r') : part = part' ∧ r = r' := by
  have hle {part part' r r' : List UInt8} (h : MaximalFault part r) (h' : MaximalFault part' r')
      (heq : part ++ r = part' ++ r') : part.length ≤ part'.length := by
    rcases h.begins with hone | hbegins
    · rw [hone]
      exact List.length_pos_iff.2 h'.ne_nil
    · exact h'.longest part (heq ▸ List.prefix_append part r) hbegins
  exact List.append_inj heq (Nat.le_antisymm (hle h h' heq) (hle h' h heq.symm))

theorem shows_decodeLossy (bytes : List UInt8) : Shows bytes (decodeLossy bytes) := by
  induction hn : bytes.length using Nat.strongRecOn generalizing bytes with
  | _ n ih =>
    by_cases hne : bytes = []
    · subst hne
      exact .nil
    rcases opens_of_ne_nil hne with ⟨c, r, rfl⟩ | ⟨part, r, rfl, hfault, hshown⟩
    · rw [decodeLossy_char_append]
      refine .char c (ih _ ?_ r rfl)
      have hpos := String.length_utf8EncodeChar c ▸ c.utf8Size_pos
      rw [← hn, List.length_append]
      omega
    · rw [hshown]
      refine .fault hfault (ih _ ?_ r rfl)
      have hpos := List.length_pos_iff.2 hfault.ne_nil
      rw [← hn, List.length_append]
      omega

/-- Bytes are shown in one way only, the one that the decoder finds. -/
theorem shows_iff {cs : List Char} : Shows bytes cs ↔ decodeLossy bytes = cs := by
  constructor
  · intro h
    induction h with
    | nil => rfl
    | char c _ ih => rw [decodeLossy_char_append, ih]
    | @fault part r cs hfault _ ih =>
        rcases opens_of_ne_nil (List.append_ne_nil_of_left_ne_nil hfault.ne_nil r) with
          ⟨c, s, heq⟩ | ⟨part', r', heq, hfault', hshown⟩
        · exact absurd (heq ▸ List.prefix_append _ s) (hfault.no_char c)
        · obtain ⟨-, rfl⟩ := hfault.eq hfault' heq
          rw [hshown, ih]
  · rintro rfl
    exact shows_decodeLossy bytes

end Fault

section Separator

variable {b : UInt8}

theorem low_of_feed {q : Option Partial} {x : UInt8} (hq : ∀ p ∈ q, 0x80 ≤ p.low.toNat) :
    ∀ p ∈ (feed q x).2, 0x80 ≤ p.low.toNat := by
  have hlead : ∀ p ∈ (lead x).2, 0x80 ≤ p.low.toNat := by
    rcases lead_cases x with ⟨c, h⟩ | h | ⟨p, h, hlow, -⟩ <;> rw [h]
    · simp
    · simp
    · simpa using hlow
  cases q with
  | none => exact hlead
  | some p =>
      rw [feed]
      split
      · cases p.owed with
        | zero => simp
        | succ n => simp
      · exact hlead

theorem shown_piecesFrom_append (hb : b.toNat < 0x80) {q : Option Partial} (hq : ∀ p ∈ q, 0x80 ≤ p.low.toNat)
    (front r : List UInt8) : (piecesFrom q (front ++ b :: r)).map Piece.shown =
      (piecesFrom q front).map Piece.shown ++ Char.ofNat b.toNat :: decodeLossy r := by
  induction front generalizing q with
  | nil =>
      have hpieces : pieces (b :: r) = .char (Char.ofNat b.toNat) :: pieces r := pieces_cons (lead_one hb) r
      cases q with
      | none =>
          change (pieces (b :: r)).map Piece.shown = _
          rw [hpieces]
          rfl
      | some p =>
          have hlow : ¬(p.low ≤ b ∧ b ≤ p.high) := by
            have hp := hq p rfl
            rw [UInt8.le_iff_toNat_le]
            omega
          rw [List.nil_append, piecesFrom_of_not_between hlow, hpieces]
          rfl
  | cons x front ih =>
      simp only [List.cons_append, piecesFrom, List.map_append, ih (low_of_feed hq), List.append_assoc]

theorem decodeLossy_append_cons (hb : b.toNat < 0x80) (front r : List UInt8) :
    decodeLossy (front ++ b :: r) = decodeLossy front ++ Char.ofNat b.toNat :: decodeLossy r :=
  shown_piecesFrom_append hb (by simp) front r

theorem decodeLossy_join (hb : b.toNat < 0x80) (parts : List (List UInt8)) :
    decodeLossy (Text.join b parts) = Text.join (Char.ofNat b.toNat) (parts.map decodeLossy) := by
  fun_induction Text.join b parts with
  | case1 => rfl
  | case2 part => rfl
  | case3 part next rest ih =>
      rw [decodeLossy_append_cons hb, ih]
      rfl

theorem getLast?_of_encode {cs : List Char} (hb : b.toNat < 0x80) (h : (encode cs).getLast? = some b) :
    cs.getLast? = some (Char.ofNat b.toNat) := by
  cases cs using List.reverseRecOn with
  | nil => cases h
  | append_singleton cs c =>
      obtain ⟨bytes, hbytes⟩ := Encoding.exists_of_char c
      have hencode : encode (cs ++ [c]) = encode cs ++ bytes := by
        rw [encode, List.flatMap_append, List.flatMap_singleton, hbytes.encode_eq]
        rfl
      rw [hencode] at h
      rw [List.getLast?_concat]
      cases hbytes with
      | one => simp only [List.getLast?_concat, Option.some.injEq] at h; rw [h]
      | two | three | four =>
          simp at h
          subst h
          omega

end Separator

end Utf8

namespace Line

theorem dropLastByte_concat (b : UInt8) (bytes : List UInt8) : dropLastByte b (bytes ++ [b]) = bytes := by
  rw [dropLastByte, List.getLast?_concat, if_pos rfl, List.dropLast_concat]

theorem dropLastByte_of_ne {b : UInt8} {bytes : List UInt8} (h : bytes.getLast? ≠ some b) :
    dropLastByte b bytes = bytes := if_neg h

end Line

/-- Decoding line by line is decoding at once. The text of bytes is the one of their characters and maximal
faults. A text of one line is read back from its encoding, with whatever ends the line. -/
theorem lines_decoded :
    (∀ bytes, Text.join '\n' ((Text.split Line.feed bytes).map Utf8.decodeLossy) = Utf8.decodeLossy bytes) ∧
      (∀ bytes cs, Utf8.Shows bytes cs ↔ Utf8.decodeLossy bytes = cs) ∧
      ∀ t : String, '\n' ∉ t.toList → t.toList.getLast? ≠ some '\r' →
        ∀ terminator ∈ [[Line.feed], [Line.carriageReturn, Line.feed], []],
          Line.text (Utf8.encode t.toList ++ terminator) = t := by
  refine ⟨fun bytes => ?_, fun bytes cs => Utf8.shows_iff, ?_⟩
  · have hjoin := Utf8.decodeLossy_join (b := Line.feed) (by decide) (Text.split Line.feed bytes)
    rw [Text.join_split] at hjoin
    exact hjoin.symm
  · intro t hfeed hreturn terminator hterminator
    have hlastReturn : (Utf8.encode t.toList).getLast? ≠ some Line.carriageReturn := fun h =>
      hreturn (Utf8.getLast?_of_encode (by decide) h)
    have hlastFeed : (Utf8.encode t.toList).getLast? ≠ some Line.feed := fun h =>
      hfeed (List.mem_of_getLast? (Utf8.getLast?_of_encode (by decide) h))
    have hwhole : Line.dropLastByte Line.carriageReturn
        (Line.dropLastByte Line.feed (Utf8.encode t.toList ++ terminator)) = Utf8.encode t.toList := by
      simp only [List.mem_cons, List.not_mem_nil, or_false] at hterminator
      rcases hterminator with rfl | rfl | rfl
      · rw [Line.dropLastByte_concat, Line.dropLastByte_of_ne hlastReturn]
      · have hpair : Utf8.encode t.toList ++ [Line.carriageReturn, Line.feed] =
            (Utf8.encode t.toList ++ [Line.carriageReturn]) ++ [Line.feed] := by simp
        rw [hpair, Line.dropLastByte_concat, Line.dropLastByte_concat]
      · rw [List.append_nil, Line.dropLastByte_of_ne hlastFeed, Line.dropLastByte_of_ne hlastReturn]
    rw [Line.text, hwhole, Utf8.decodeLossy_encode, String.ofList_toList]

theorem lines_decoded_returned :
    '\n' ∉ "a\ré".toList ∧ "a\ré".toList.getLast? ≠ some '\r' ∧
      [Line.carriageReturn, Line.feed] ∈ [[Line.feed], [Line.carriageReturn, Line.feed], []] ∧
      Line.text [0x61, 0x0D, 0xC3, 0xA9, 0x0D, 0x0A] = "a\ré" := by
  have hfeed : '\n' ∉ "a\ré".toList := by decide
  have hreturn : "a\ré".toList.getLast? ≠ some '\r' := by decide
  have hterminator : [Line.carriageReturn, Line.feed] ∈
      [[Line.feed], [Line.carriageReturn, Line.feed], []] := by decide
  exact ⟨hfeed, hreturn, hterminator, lines_decoded.2.2 _ hfeed hreturn _ hterminator⟩

end Workcell
