import Mathlib.Data.Finset.Card
import Mathlib.Data.Finset.Filter
import Mathlib.Order.Monotone.Basic
import Workcell.Canonical

namespace Workcell.Filesystem

variable {fs : Filesystem} {depth depth' : Nat} {base place : Place} {todo : List String}

/-- What the link at a place leads to, if less than `depth` links are nested in each other. -/
def follow (fs : Filesystem) : (depth : Nat) → Place → Except Unresolved Place
  | 0, _ => .error .unreachable
  | depth + 1, place => match fs.entry? place with
    | some (.link target) =>
      fs.resolve depth (if (Path.ofString target).isAbsolute then [] else place.dropLast) (componentsOf target)
    | _ => .error .unreachable

theorem resolve_nil (fs : Filesystem) (depth : Nat) (base : Place) : fs.resolve depth base [] = .ok base := by
  rw [resolve]

theorem resolve_up (fs : Filesystem) (depth : Nat) (base : Place) (rest : List String) :
    fs.resolve depth base (".." :: rest) = fs.resolve depth base.dropLast rest := by
  rw [resolve, if_pos rfl]

theorem resolve_name {c : String} (hc : c ≠ "..") (rest : List String) :
    fs.resolve depth base (c :: rest) =
      if '\x00' ∈ c.toList then .error .nul
      else if longestName < c.utf8ByteSize ∨ fs.entry? base ≠ some .directory then .error .unreachable
      else match fs.entry? (base ++ [c]) with
        | none => .error .unreachable
        | some (.link _) => (fs.follow depth (base ++ [c])).bind fun place => fs.resolve depth place rest
        | some _ => fs.resolve depth (base ++ [c]) rest := by
  rw [resolve, if_neg hc]
  split
  · rfl
  · split
    · rfl
    · cases hentry : fs.entry? (base ++ [c]) with
      | none => rfl
      | some e =>
          cases e with
          | link target =>
              cases depth with
              | zero => rfl
              | succ depth =>
                  simp only [follow, hentry, List.dropLast_concat]
                  split <;> simp_all [Except.bind]
          | _ => rfl

theorem resolve_congr (h : ∀ place, fs.follow depth place = fs.follow depth' place) (base : Place)
    (todo : List String) : fs.resolve depth base todo = fs.resolve depth' base todo := by
  induction todo generalizing base with
  | nil => rw [resolve_nil, resolve_nil]
  | cons c rest ih =>
      by_cases hc : c = ".."
      · rw [hc, resolve_up, resolve_up, ih]
      · simp only [resolve_name hc, h, ih]

theorem follow_congr (h : ∀ place, fs.follow depth place = fs.follow depth' place) (place : Place) :
    fs.follow (depth + 1) place = fs.follow (depth' + 1) place := by
  simp only [follow, resolve_congr h]

theorem resolve_mono (h : ∀ place, fs.follow depth place ≠ .error .unreachable →
    fs.follow depth' place = fs.follow depth place) {base : Place} {todo : List String}
    (hresolve : fs.resolve depth base todo ≠ .error .unreachable) :
    fs.resolve depth' base todo = fs.resolve depth base todo := by
  induction todo generalizing base with
  | nil => rw [resolve_nil, resolve_nil]
  | cons c rest ih =>
      by_cases hc : c = ".."
      · rw [hc, resolve_up] at hresolve
        rw [hc, resolve_up, resolve_up, ih hresolve]
      · rw [resolve_name hc] at hresolve
        rw [resolve_name hc, resolve_name hc]
        by_cases hnul : '\x00' ∈ c.toList
        · rw [if_pos hnul, if_pos hnul]
        · rw [if_neg hnul] at hresolve
          rw [if_neg hnul, if_neg hnul]
          by_cases hstop : longestName < c.utf8ByteSize ∨ fs.entry? base ≠ some .directory
          · rw [if_pos hstop, if_pos hstop]
          · rw [if_neg hstop] at hresolve
            rw [if_neg hstop, if_neg hstop]
            cases hentry : fs.entry? (base ++ [c]) with
            | none => rfl
            | some e =>
                rw [hentry] at hresolve
                cases e with
                | link target =>
                    -- a link that is settled stays settled, and so does what follows it
                    dsimp only at hresolve ⊢
                    cases hfollow : fs.follow depth (base ++ [c]) with
                    | error e =>
                        rw [hfollow] at hresolve
                        rw [h _ (hfollow ▸ hresolve), hfollow]
                        rfl
                    | ok place =>
                        rw [hfollow] at hresolve
                        rw [h _ (by simp [hfollow]), hfollow]
                        exact ih hresolve
                | directory => exact ih hresolve
                | file => exact ih hresolve
                | denied => exact ih hresolve

theorem follow_succ {place : Place} (h : fs.follow depth place ≠ .error .unreachable) :
    fs.follow (depth + 1) place = fs.follow depth place := by
  induction depth generalizing place with
  | zero => exact absurd rfl h
  | succ depth ih =>
      rw [follow] at h ⊢
      rw [follow]
      split at h
      · exact resolve_mono (fun _ => ih) h
      · exact absurd rfl h

theorem follow_of_le (hle : depth ≤ depth') {place : Place}
    (h : fs.follow depth place ≠ .error .unreachable) : fs.follow depth' place = fs.follow depth place := by
  induction hle with
  | refl => rfl
  | step _ ih => rw [follow_succ (ih ▸ h), ih]

def places (fs : Filesystem) : Finset Place := (fs.entries.map Prod.fst).toFinset

theorem card_places_le (fs : Filesystem) : fs.places.card ≤ fs.entries.length := by
  have hle := List.toFinset_card_le (fs.entries.map Prod.fst)
  rwa [List.length_map] at hle

theorem mem_places_of_follow (h : fs.follow depth place ≠ .error .unreachable) : place ∈ fs.places := by
  cases depth with
  | zero => exact absurd rfl h
  | succ depth =>
      rw [follow] at h
      split at h
      · next target hlink =>
        cases place with
        | nil => simp [ entry?] at hlink
        | cons c rest =>
            obtain ⟨before, after, hsplit, -⟩ := List.lookup_eq_some_iff.1 hlink
            simp [places, hsplit]
      · exact absurd rfl h

open Classical in
/-- The links that lead somewhere, or to a name that no call accepts, within a bound. -/
noncomputable def settledLinks (fs : Filesystem) (depth : Nat) : Finset Place :=
  fs.places.filter fun place => fs.follow depth place ≠ .error .unreachable

theorem mem_settledLinks_iff : place ∈ fs.settledLinks depth ↔ fs.follow depth place ≠ .error .unreachable := by
  rw [settledLinks, Finset.mem_filter]
  exact ⟨And.right, fun h => ⟨mem_places_of_follow h, h⟩⟩

theorem settledLinks_mono (hle : depth ≤ depth') : fs.settledLinks depth ⊆ fs.settledLinks depth' := by
  intro place hplace
  rw [mem_settledLinks_iff] at hplace ⊢
  rwa [follow_of_le hle hplace]

theorem follow_eq_of_settledLinks (hle : depth ≤ depth') (h : fs.settledLinks depth = fs.settledLinks depth')
    (place : Place) : fs.follow depth place = fs.follow depth' place := by
  by_cases hplace : place ∈ fs.settledLinks depth
  · exact (follow_of_le hle (mem_settledLinks_iff.1 hplace)).symm
  · have hdeep := h ▸ hplace
    rw [mem_settledLinks_iff, ne_eq, Decidable.not_not] at hplace hdeep
    rw [hplace, hdeep]

/-- A round of nesting that settles no link is followed by none that settles one. -/
theorem settledLinks_stable (h : (fs.settledLinks depth).card = (fs.settledLinks (depth + 1)).card) :
    (fs.settledLinks (depth + 1)).card = (fs.settledLinks (depth + 2)).card := by
  have heq : fs.settledLinks depth = fs.settledLinks (depth + 1) :=
    Finset.eq_of_subset_of_card_le (settledLinks_mono depth.le_succ) h.ge
  have hfollow := follow_congr (follow_eq_of_settledLinks depth.le_succ heq)
  congr 1
  ext place
  rw [mem_settledLinks_iff, mem_settledLinks_iff, hfollow]

theorem follow_of_deep (hdepth : fs.entries.length ≤ depth) (place : Place) :
    fs.follow depth place = fs.follow fs.entries.length place := by
  have hcard : (fs.settledLinks depth).card = (fs.settledLinks fs.entries.length).card := by
    refine Nat.stabilises_of_monotone (fun _ _ hle => Finset.card_le_card (settledLinks_mono hle))
      (fun _ => ?_) (fun _ => settledLinks_stable) hdepth
    exact (Finset.card_filter_le _ _).trans fs.card_places_le
  have heq : fs.settledLinks fs.entries.length = fs.settledLinks depth :=
    Finset.eq_of_subset_of_card_le (settledLinks_mono hdepth) hcard.le
  exact (follow_eq_of_settledLinks hdepth heq place).symm

theorem resolve_of_deep (hdepth : fs.entries.length ≤ depth) (base : Place) (todo : List String) :
    fs.resolve depth base todo = fs.resolve fs.entries.length base todo :=
  resolve_congr (follow_of_deep hdepth) base todo

end Workcell.Filesystem
