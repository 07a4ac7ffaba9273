import Workcell.Schema.Models

namespace Workcell

def IsAscii (cs : List Char) : Prop := ∀ d ∈ cs, d.toNat < 0x80

instance (cs : List Char) : Decidable (IsAscii cs) := List.decidableBAll _ cs

theorem IsAscii.not_mem {cs : List Char} (h : IsAscii cs) {c : Char} (hc : 0x80 ≤ c.toNat) : c ∉ cs := by
  intro hmem
  have hlow := h c hmem
  omega

theorem mem_dropWhile_of_not {α : Type} {p : α → Bool} {a : α} {l : List α} (h : a ∈ l) (ha : p a = false) :
    a ∈ l.dropWhile p := by
  have hmem := List.takeWhile_append_dropWhile (p := p) (l := l) ▸ h
  rcases List.mem_append.1 hmem with htake | hdrop
  · have hp := List.all_eq_true.1 List.all_takeWhile a htake
    rw [ha] at hp
    cases hp
  · exact hdrop

namespace Number

open Text

variable {c : Char} (hc : 0x80 ≤ c.toNat)
include hc

theorem ne_of_toNat_lt {d : Char} (hd : d.toNat < 0x80) : c ≠ d := by
  rintro rfl
  omega

theorem isDigit_eq_false : c.isDigit = false := by
  rw [← Bool.not_eq_true]
  intro hdigit
  simp only [Char.isDigit, Bool.and_eq_true, decide_eq_true_eq, ge_iff_le, UInt32.le_iff_toNat_le] at hdigit
  have hle : c.toNat ≤ 57 := hdigit.2
  omega

theorem mem_takeSign {cs : List Char} (h : c ∈ cs) : c ∈ (takeSign cs).2 := by
  unfold takeSign
  split
  · exact (List.mem_cons.1 h).resolve_left (ne_of_toNat_lt hc (by decide))
  · exact (List.mem_cons.1 h).resolve_left (ne_of_toNat_lt hc (by decide))
  · exact h

theorem mem_takeDigits {cs : List Char} (h : c ∈ cs) : c ∈ (takeDigits cs).2 :=
  mem_dropWhile_of_not h (isDigit_eq_false hc)

theorem toLower_eq_self : c.toLower = c := by
  refine dif_neg fun h => ?_
  have hle : c.toNat ≤ 90 := h.2
  omega

theorem not_mem_of_lower {cs word : List Char} (hword : IsAscii word) (h : cs.map Char.toLower = word) : c ∉ cs := by
  intro hmem
  exact hword.not_mem hc (h ▸ toLower_eq_self hc ▸ List.mem_map_of_mem hmem)

theorem not_mem_of_readExponent {cs : List Char} {n : Int} (h : readExponent cs = some n) : c ∉ cs := by
  intro hmem
  cases cs with
  | nil => cases hmem
  | cons e r =>
      rw [readExponent] at h
      split at h
      case isFalse => cases h
      next he =>
      have hne : c ≠ e := by
        rcases he with rfl | rfl <;> exact ne_of_toNat_lt hc (by decide)
      have hrest := mem_takeDigits hc (mem_takeSign hc ((List.mem_cons.1 hmem).resolve_left hne))
      dsimp only at h
      split at h
      · cases h
      · next digits hdigits =>
        rw [hdigits] at hrest
        cases hrest
      · cases h

theorem not_mem_of_readDecimal {cs : List Char} {y : Double} (h : readDecimal cs = some y) : c ∉ cs := by
  intro hmem
  have hsign := mem_takeSign hc hmem
  rw [readDecimal] at h
  dsimp only at h
  split at h
  · next hword =>
    rcases hword with hword | hword
    · exact not_mem_of_lower hc (by decide) hword hsign
    · exact not_mem_of_lower hc (by decide) hword hsign
  split at h
  · next hword => exact not_mem_of_lower hc (by decide) hword hsign
  have hunits := mem_takeDigits hc hsign
  have hend {p : Prop} [Decidable p] {f : Int → Double} {r : List Char} (hr : c ∈ r)
      (h : (if p then none else (readExponent r).map f) = some y) : False := by
    split at h
    · cases h
    · obtain ⟨n, hn, -⟩ := Option.map_eq_some_iff.1 h
      exact not_mem_of_readExponent hc hn hr
  split at h
  · next r hr =>
    rw [hr] at hunits
    exact hend (mem_takeDigits hc ((List.mem_cons.1 hunits).resolve_left (ne_of_toNat_lt hc (by decide)))) h
  · exact hend hunits h

theorem mem_of_dropUnderscores {p : Char → Bool} {before : Bool} {cs rs : List Char}
    (h : dropUnderscores p before cs = some rs) (hmem : c ∈ cs) : c ∈ rs := by
  fun_induction dropUnderscores p before cs generalizing rs with
  | case1 => cases hmem
  | case2 before d r hd ih =>
      exact ih h ((List.mem_cons.1 hmem).resolve_left (ne_of_toNat_lt hc (by decide)))
  | case3 => cases h
  | case4 => cases h
  | case5 before d r hd ih =>
      obtain ⟨more, hmore, rfl⟩ := Option.map_eq_some_iff.1 h
      rcases List.mem_cons.1 hmem with rfl | hrest
      · exact List.mem_cons_self
      · exact List.mem_cons_of_mem _ (ih hmore hrest)

theorem not_mem_of_readLenient {s : String} {y : Double} (hblank : isBlank c = false) (h : readLenient s = some y) :
    c ∉ s.toList := by
  intro hmem
  rw [readLenient] at h
  split at h
  · next x hx =>
    refine not_mem_of_readDecimal hc hx ?_
    rw [trim, trimEnd, List.mem_reverse]
    exact mem_dropWhile_of_not (List.mem_reverse.2 (mem_dropWhile_of_not hmem hblank)) hblank
  · split at h
    · obtain ⟨cs, hcs, hdecimal⟩ := Option.bind_eq_some_iff.1 h
      exact not_mem_of_readDecimal hc hdecimal (mem_of_dropUnderscores hc hcs hmem)
    · cases h

end Number

theorem Schema.not_mem_of_boolOfWord {c : Char} (hc : 0x80 ≤ c.toNat) {s : String} {b : Bool}
    (h : boolOfWord s = .valid b) : c ∉ s.toList := by
  have hwords : ∀ word ∈ falseWords ++ trueWords, IsAscii word.toList := by decide
  have hword : s.map Char.toLower ∈ falseWords ++ trueWords := by
    rw [boolOfWord] at h
    split at h
    · next hmem => exact List.mem_append_left _ hmem
    · split at h
      · next hmem => exact List.mem_append_right _ hmem
      · cases h
  exact Number.not_mem_of_lower hc (hwords _ hword) (String.toList_map).symm

end Workcell
