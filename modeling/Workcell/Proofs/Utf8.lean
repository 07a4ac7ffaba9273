import Workcell.Text.Utf8
import Mathlib.Data.List.Basic

namespace Workcell.Utf8

open String (utf8EncodeChar)

def lowThree (a : UInt8) : UInt8 := if a.toNat = 0xE0 then 0xA0 else 0x80
def highThree (a : UInt8) : UInt8 := if a.toNat = 0xED then 0x9F else 0xBF

def lowFour (a : UInt8) : UInt8 := if a.toNat = 0xF0 then 0x90 else 0x80
def highFour (a : UInt8) : UInt8 := if a.toNat = 0xF4 then 0x8F else 0xBF

section Lead

variable {a : UInt8}

theorem lead_one (h : a.toNat < 0x80) : lead a = ([.char (Char.ofNat a.toNat)], none) := by
  simp only [lead, h, if_true]

theorem lead_two (h : 0xC2 ≤ a.toNat) (h' : a.toNat < 0xE0) :
    lead a = ([], some ⟨a.toNat % 0x20, 1, 0, 0x80, 0xBF⟩) := by
  simp only [lead, if_neg (show ¬a.toNat < 0x80 by omega), if_neg (show ¬a.toNat < 0xC2 by omega), h', if_true]

theorem lead_three (h : 0xE0 ≤ a.toNat) (h' : a.toNat < 0xF0) :
    lead a = ([], some ⟨a.toNat % 0x10, 1, 1, lowThree a, highThree a⟩) := by
  simp only [lead, if_neg (show ¬a.toNat < 0x80 by omega), if_neg (show ¬a.toNat < 0xC2 by omega),
    if_neg (show ¬a.toNat < 0xE0 by omega), lowThree, highThree]
  by_cases hlow : a.toNat = 0xE0
  · simp [hlow]
  · by_cases hhigh : a.toNat = 0xED
    · simp [hhigh]
    · simp [hlow, hhigh, h']

theorem lead_four (h : 0xF0 ≤ a.toNat) (h' : a.toNat ≤ 0xF4) :
    lead a = ([], some ⟨a.toNat % 8, 1, 2, lowFour a, highFour a⟩) := by
  simp only [lead, if_neg (show ¬a.toNat < 0x80 by omega), if_neg (show ¬a.toNat < 0xC2 by omega),
    if_neg (show ¬a.toNat < 0xE0 by omega), if_neg (show ¬a.toNat = 0xE0 by omega),
    if_neg (show ¬a.toNat = 0xED by omega), if_neg (show ¬a.toNat < 0xF0 by omega), lowFour, highFour]
  by_cases hlow : a.toNat = 0xF0
  · simp [hlow]
  · by_cases hhigh : a.toNat = 0xF4
    · simp [hhigh]
    · simp [hlow, hhigh, show a.toNat < 0xF4 by omega]

theorem lead_bad (h : 0x80 ≤ a.toNat) (h' : a.toNat < 0xC2 ∨ 0xF4 < a.toNat) :
    lead a = ([.fault 1 .badStart], none) := by
  simp only [lead, if_neg (show ¬a.toNat < 0x80 by omega)]
  rcases h' with hlow | hhigh
  · simp only [hlow, if_true]
  · simp only [if_neg (show ¬a.toNat < 0xC2 by omega), if_neg (show ¬a.toNat < 0xE0 by omega),
      if_neg (show ¬a.toNat = 0xE0 by omega), if_neg (show ¬a.toNat = 0xED by omega),
      if_neg (show ¬a.toNat < 0xF0 by omega), if_neg (show ¬a.toNat = 0xF0 by omega),
      if_neg (show ¬a.toNat < 0xF4 by omega), if_neg (show ¬a.toNat = 0xF4 by omega)]

end Lead

theorem toNat_lowThree (a : UInt8) : (lowThree a).toNat = if a.toNat = 0xE0 then 0xA0 else 0x80 := by
  rw [lowThree]
  split <;> rfl

theorem toNat_highThree (a : UInt8) : (highThree a).toNat = if a.toNat = 0xED then 0x9F else 0xBF := by
  rw [highThree]
  split <;> rfl

theorem toNat_lowFour (a : UInt8) : (lowFour a).toNat = if a.toNat = 0xF0 then 0x90 else 0x80 := by
  rw [lowFour]
  split <;> rfl

theorem toNat_highFour (a : UInt8) : (highFour a).toNat = if a.toNat = 0xF4 then 0x8F else 0xBF := by
  rw [highFour]
  split <;> rfl

section Pieces

variable {p : Partial} {b : UInt8} {r : List UInt8}

theorem piecesFrom_last (howed : p.owed = 0) (hlow : p.low.toNat ≤ b.toNat) (hhigh : b.toNat ≤ p.high.toNat) :
    piecesFrom (some p) (b :: r) = .char (Char.ofNat (p.payload * 64 + b.toNat % 64)) :: piecesFrom none r := by
  have hbounds : p.low ≤ b ∧ b ≤ p.high := ⟨UInt8.le_iff_toNat_le.2 hlow, UInt8.le_iff_toNat_le.2 hhigh⟩
  simp only [piecesFrom, feed, hbounds, and_self, if_true, howed, List.singleton_append]

theorem piecesFrom_next {n : Nat} (howed : p.owed = n + 1) (hlow : p.low.toNat ≤ b.toNat)
    (hhigh : b.toNat ≤ p.high.toNat) : piecesFrom (some p) (b :: r) =
      piecesFrom (some ⟨p.payload * 64 + b.toNat % 64, p.taken + 1, n, 0x80, 0xBF⟩) r := by
  have hbounds : p.low ≤ b ∧ b ≤ p.high := ⟨UInt8.le_iff_toNat_le.2 hlow, UInt8.le_iff_toNat_le.2 hhigh⟩
  simp only [piecesFrom, feed, hbounds, and_self, if_true, howed, List.nil_append]

theorem piecesFrom_tail {payload taken n : Nat} (hlow : 0x80 ≤ b.toNat) (hhigh : b.toNat ≤ 0xBF) :
    piecesFrom (some ⟨payload, taken, n + 1, 0x80, 0xBF⟩) (b :: r) =
      piecesFrom (some ⟨payload * 64 + b.toNat % 64, taken + 1, n, 0x80, 0xBF⟩) r :=
  piecesFrom_next rfl hlow hhigh

def Faulty (ps : List Piece) : Prop := ∃ length reason more, ps = .fault length reason :: more

/-- An unfinished character is a fault unless a byte follows that may follow. -/
theorem faulty_or_cons (p : Partial) (r : List UInt8) : Faulty (piecesFrom (some p) r) ∨
    ∃ b r', r = b :: r' ∧ p.low.toNat ≤ b.toNat ∧ b.toNat ≤ p.high.toNat := by
  cases r with
  | nil => exact .inl ⟨_, _, [], rfl⟩
  | cons b r' =>
      by_cases hbounds : p.low ≤ b ∧ b ≤ p.high
      · exact .inr ⟨b, r', rfl, UInt8.le_iff_toNat_le.1 hbounds.1, UInt8.le_iff_toNat_le.1 hbounds.2⟩
      · refine .inl ⟨p.taken, .badContinuation, (lead b).1 ++ piecesFrom (lead b).2 r', ?_⟩
        simp only [piecesFrom, feed, hbounds, if_false, List.cons_append]

end Pieces

theorem pieces_cons {a : UInt8} {ps : List Piece} {q : Option Partial} (h : lead a = (ps, q))
    (r : List UInt8) : pieces (a :: r) = ps ++ piecesFrom q r := by
  simp only [pieces, piecesFrom, feed, h]

/-- The bytes of one character: the first tells their number, and bounds those that may follow it. -/
inductive Encoding : Char → List UInt8 → Prop
  | one {a : UInt8} : a.toNat < 0x80 → Encoding (Char.ofNat a.toNat) [a]
  | two {a b : UInt8} : 0xC2 ≤ a.toNat → a.toNat < 0xE0 → 0x80 ≤ b.toNat → b.toNat ≤ 0xBF →
      Encoding (Char.ofNat (a.toNat % 0x20 * 64 + b.toNat % 64)) [a, b]
  | three {a b c : UInt8} : 0xE0 ≤ a.toNat → a.toNat < 0xF0 → (lowThree a).toNat ≤ b.toNat →
      b.toNat ≤ (highThree a).toNat → 0x80 ≤ c.toNat → c.toNat ≤ 0xBF →
      Encoding (Char.ofNat ((a.toNat % 0x10 * 64 + b.toNat % 64) * 64 + c.toNat % 64)) [a, b, c]
  | four {a b c d : UInt8} : 0xF0 ≤ a.toNat → a.toNat ≤ 0xF4 → (lowFour a).toNat ≤ b.toNat →
      b.toNat ≤ (highFour a).toNat → 0x80 ≤ c.toNat → c.toNat ≤ 0xBF → 0x80 ≤ d.toNat → d.toNat ≤ 0xBF →
      Encoding (Char.ofNat (((a.toNat % 8 * 64 + b.toNat % 64) * 64 + c.toNat % 64) * 64 + d.toNat % 64))
        [a, b, c, d]

namespace Encoding

variable {ch : Char} {bytes : List UInt8}

theorem pieces_append (h : Encoding ch bytes) (r : List UInt8) :
    pieces (bytes ++ r) = .char ch :: pieces r := by
  cases h with
  | one ha => exact pieces_cons (lead_one ha) r
  | two ha ha' hb hb' => exact (pieces_cons (lead_two ha ha') _).trans (piecesFrom_last rfl hb hb')
  | three ha ha' hb hb' hc hc' =>
      refine (pieces_cons (lead_three ha ha') _).trans ((piecesFrom_next rfl hb hb').trans ?_)
      exact piecesFrom_last rfl hc hc'
  | four ha ha' hb hb' hc hc' hd hd' =>
      refine (pieces_cons (lead_four ha ha') _).trans ((piecesFrom_next rfl hb hb').trans ?_)
      exact (piecesFrom_tail hc hc').trans (piecesFrom_last rfl hd hd')

theorem toNat_val_ofNat {v : Nat} (h : v.isValidChar) : (Char.ofNat v).val.toNat = v := by
  rw [Char.ofNat, dif_pos h]
  rfl

theorem ofNat_eq {a : UInt8} {n : Nat} (h : n = a.toNat) : UInt8.ofNat n = a := by
  rw [h, UInt8.ofNat_toNat]

theorem bounds_three {a b : UInt8} (hb : (lowThree a).toNat ≤ b.toNat) (hb' : b.toNat ≤ (highThree a).toNat) :
    0x80 ≤ b.toNat ∧ b.toNat ≤ 0xBF ∧ (a.toNat = 0xE0 → 0xA0 ≤ b.toNat) ∧
      (a.toNat = 0xED → b.toNat ≤ 0x9F) := by
  rw [toNat_lowThree] at hb
  rw [toNat_highThree] at hb'
  split at hb <;> split at hb' <;> omega

theorem bounds_four {a b : UInt8} (hb : (lowFour a).toNat ≤ b.toNat) (hb' : b.toNat ≤ (highFour a).toNat) :
    0x80 ≤ b.toNat ∧ b.toNat ≤ 0xBF ∧ (a.toNat = 0xF0 → 0x90 ≤ b.toNat) ∧
      (a.toNat = 0xF4 → b.toNat ≤ 0x8F) := by
  rw [toNat_lowFour] at hb
  rw [toNat_highFour] at hb'
  split at hb <;> split at hb' <;> omega

theorem encode_eq (h : Encoding ch bytes) : utf8EncodeChar ch = bytes := by
  cases h with
  | @one a ha =>
      have hv := toNat_val_ofNat (v := a.toNat) (.inl (by omega))
      simp only [utf8EncodeChar, hv]
      rw [if_pos (by omega), UInt8.ofNat_toNat]
  | @two a b ha ha' hb hb' =>
      have hv := toNat_val_ofNat (v := a.toNat % 0x20 * 64 + b.toNat % 64) (.inl (by omega))
      simp only [utf8EncodeChar, hv]
      rw [if_neg (by omega), if_pos (by omega), ofNat_eq (a := a) (by omega), ofNat_eq (a := b) (by omega)]
  | @three a b c ha ha' hb hb' hc hc' =>
      obtain ⟨hlow, hhigh, hlong, hsurrogate⟩ := bounds_three hb hb'
      have hv := toNat_val_ofNat (v := (a.toNat % 0x10 * 64 + b.toNat % 64) * 64 + c.toNat % 64) (by omega)
      simp only [utf8EncodeChar, hv]
      rw [if_neg (by omega), if_neg (by omega), if_pos (by omega), ofNat_eq (a := a) (by omega),
        ofNat_eq (a := b) (by omega), ofNat_eq (a := c) (by omega)]
  | @four a b c d ha ha' hb hb' hc hc' hd hd' =>
      obtain ⟨hlow, hhigh, hlong, hlarge⟩ := bounds_four hb hb'
      have hv := toNat_val_ofNat (v := ((a.toNat % 8 * 64 + b.toNat % 64) * 64 + c.toNat % 64) * 64 +
        d.toNat % 64) (by omega)
      simp only [utf8EncodeChar, hv]
      rw [if_neg (by omega), if_neg (by omega), if_neg (by omega), ofNat_eq (a := a) (by omega),
        ofNat_eq (a := b) (by omega), ofNat_eq (a := c) (by omega), ofNat_eq (a := d) (by omega)]

theorem exists_byte {n : Nat} (h : n < 256) : ∃ a : UInt8, a.toNat = n :=
  ⟨UInt8.ofNat n, UInt8.toNat_ofNat_of_lt' h⟩

theorem exists_of_char (ch : Char) : ∃ bytes, Encoding ch bytes := by
  have hvalid : ch.val.toNat < 0xD800 ∨ 0xDFFF < ch.val.toNat ∧ ch.val.toNat < 0x110000 := ch.valid
  have hch : Char.ofNat ch.val.toNat = ch := Char.ofNat_toNat ch
  generalize ch.val.toNat = v at hvalid hch
  subst hch
  obtain ⟨last, hlast⟩ := exists_byte (n := v % 64 + 0x80) (by omega)
  obtain ⟨second, hsecond⟩ := exists_byte (n := v / 64 % 64 + 0x80) (by omega)
  obtain ⟨third, hthird⟩ := exists_byte (n := v / 4096 % 64 + 0x80) (by omega)
  by_cases hone : v < 0x80
  · obtain ⟨a, ha⟩ := exists_byte (n := v) (by omega)
    exact ⟨_, ha ▸ one (by omega)⟩
  by_cases htwo : v < 0x800
  · obtain ⟨a, ha⟩ := exists_byte (n := v / 64 + 0xC0) (by omega)
    have hv : a.toNat % 0x20 * 64 + last.toNat % 64 = v := by omega
    exact ⟨_, hv ▸ two (by omega) (by omega) (by omega) (by omega)⟩
  by_cases hthree : v < 0x10000
  · obtain ⟨a, ha⟩ := exists_byte (n := v / 4096 + 0xE0) (by omega)
    have hv : (a.toNat % 0x10 * 64 + second.toNat % 64) * 64 + last.toNat % 64 = v := by omega
    have hlow : (lowThree a).toNat ≤ second.toNat := by
      rw [toNat_lowThree]
      split <;> omega
    have hhigh : second.toNat ≤ (highThree a).toNat := by
      rw [toNat_highThree]
      split <;> omega
    exact ⟨_, hv ▸ three (by omega) (by omega) hlow hhigh (by omega) (by omega)⟩
  · obtain ⟨a, ha⟩ := exists_byte (n := v / 262144 + 0xF0) (by omega)
    have hv : ((a.toNat % 8 * 64 + third.toNat % 64) * 64 + second.toNat % 64) * 64 + last.toNat % 64 = v := by
      omega
    have hlow : (lowFour a).toNat ≤ third.toNat := by
      rw [toNat_lowFour]
      split <;> omega
    have hhigh : third.toNat ≤ (highFour a).toNat := by
      rw [toNat_highFour]
      split <;> omega
    exact ⟨_, hv ▸ four (by omega) (by omega) hlow hhigh (by omega) (by omega) (by omega) (by omega)⟩

end Encoding

/-- Encoded text is read back. -/
theorem pieces_encode (cs : List Char) : pieces (encode cs) = cs.map .char := by
  induction cs with
  | nil => rfl
  | cons ch cs ih =>
      obtain ⟨bytes, h⟩ := Encoding.exists_of_char ch
      rw [encode, List.flatMap_cons, h.encode_eq, h.pieces_append, List.map_cons, ← ih, encode]

theorem faulty_or_encoding {bytes : List UInt8} (hne : bytes ≠ []) :
    Faulty (pieces bytes) ∨ ∃ ch front r, bytes = front ++ r ∧ Encoding ch front := by
  obtain ⟨a, r, rfl⟩ := List.exists_cons_of_ne_nil hne
  by_cases hone : a.toNat < 0x80
  · exact .inr ⟨_, [a], r, rfl, .one hone⟩
  by_cases hbad : a.toNat < 0xC2 ∨ 0xF4 < a.toNat
  · exact .inl ⟨_, _, _, pieces_cons (lead_bad (by omega) hbad) r⟩
  by_cases htwo : a.toNat < 0xE0
  · rw [pieces_cons (lead_two (by omega) htwo), List.nil_append]
    rcases faulty_or_cons _ r with hfault | ⟨b, r, rfl, hb, hb'⟩
    · exact .inl hfault
    · exact .inr ⟨_, [a, b], r, rfl, .two (by omega) htwo hb hb'⟩
  by_cases hthree : a.toNat < 0xF0
  · rw [pieces_cons (lead_three (by omega) hthree), List.nil_append]
    rcases faulty_or_cons _ r with hfault | ⟨b, r, rfl, hb, hb'⟩
    · exact .inl hfault
    rw [piecesFrom_next rfl hb hb']
    rcases faulty_or_cons _ r with hfault | ⟨c, r, rfl, hc, hc'⟩
    · exact .inl hfault
    · exact .inr ⟨_, [a, b, c], r, rfl, .three (by omega) hthree hb hb' hc hc'⟩
  · rw [pieces_cons (lead_four (by omega) (by omega)), List.nil_append]
    rcases faulty_or_cons _ r with hfault | ⟨b, r, rfl, hb, hb'⟩
    · exact .inl hfault
    rw [piecesFrom_next rfl hb hb']
    rcases faulty_or_cons _ r with hfault | ⟨c, r, rfl, hc, hc'⟩
    · exact .inl hfault
    rw [piecesFrom_next rfl hc hc']
    rcases faulty_or_cons _ r with hfault | ⟨d, r, rfl, hd, hd'⟩
    · exact .inl hfault
    · exact .inr ⟨_, [a, b, c, d], r, rfl, .four (by omega) (by omega) hb hb' hc hc' hd hd'⟩

theorem chars_eq_ok_iff {offset : Nat} {ps : List Piece} {cs : List Char} :
    Piece.chars? offset ps = .ok cs ↔ ps = cs.map .char := by
  induction ps generalizing offset cs with
  | nil => simp [Piece.chars?, eq_comm]
  | cons p ps ih =>
      cases p with
      | fault length reason => cases cs <;> simp [Piece.chars?]
      | char c =>
          rw [Piece.chars?]
          cases hrest : Piece.chars? (offset + c.utf8Size) ps with
          | error e =>
              refine iff_of_false (by simp [Except.map]) ?_
              intro heq
              cases cs with
              | nil => cases heq
              | cons c' cs =>
                  rw [List.map_cons, List.cons.injEq] at heq
                  rw [ih.2 heq.2] at hrest
                  cases hrest
          | ok cs' =>
              have htail : ps = cs'.map .char := ih.1 hrest
              cases cs with
              | nil => simp [Except.map]
              | cons c' cs =>
                  have hinj : cs'.map Piece.char = cs.map .char ↔ cs' = cs :=
                    List.map_inj_right fun _ _ h => Piece.char.inj h
                  simp [Except.map, htail, hinj]

theorem eq_encode_of_pieces {bytes : List UInt8} {cs : List Char} (h : pieces bytes = cs.map .char) :
    bytes = encode cs := by
  induction cs generalizing bytes with
  | nil =>
      by_contra hne
      rcases faulty_or_encoding hne with ⟨length, reason, more, hfault⟩ | ⟨ch, front, r, rfl, hch⟩
      · simp [h] at hfault
      · simp [hch.pieces_append] at h
  | cons c cs ih =>
      have hne : bytes ≠ [] := by
        rintro rfl
        cases h
      rcases faulty_or_encoding hne with ⟨length, reason, more, hfault⟩ | ⟨ch, front, r, rfl, hch⟩
      · simp [h] at hfault
      · rw [hch.pieces_append, List.map_cons, List.cons.injEq, Piece.char.injEq] at h
        obtain ⟨rfl, hrest⟩ := h
        rw [encode, List.flatMap_cons, hch.encode_eq, ih hrest, encode]

/-- Bytes are decoded exactly if they are the UTF-8 of a text, which is then what is decoded. -/
theorem decode_eq_ok_iff {bytes : List UInt8} {cs : List Char} :
    decode bytes = .ok cs ↔ bytes = encode cs := by
  have hchars : decode bytes = .ok cs ↔ pieces bytes = cs.map .char := by
    rw [← @chars_eq_ok_iff 0, decode]
    cases Piece.chars? 0 (pieces bytes) <;> simp [Except.mapError]
  rw [hchars]
  refine ⟨eq_encode_of_pieces, ?_⟩
  rintro rfl
  exact pieces_encode cs

end Workcell.Utf8
