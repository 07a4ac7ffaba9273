namespace Workcell.Text

variable {α : Type} [DecidableEq α]

/-- The segments between the occurrences of `sep`; there is one more of them than occurrences. -/
def split (sep : α) : List α → List (List α)
  | [] => [[]]
  | a :: r =>
    if a = sep then [] :: split sep r
    else match split sep r with
      | [] => [[a]]
      | s :: rest => (a :: s) :: rest

def join (sep : α) : List (List α) → List α
  | [] => []
  | [s] => s
  | s :: t :: rest => s ++ sep :: join sep (t :: rest)

theorem split_ne_nil (sep : α) (l : List α) : split sep l ≠ [] := by
  cases l with
  | nil => simp [split]
  | cons a r =>
      simp only [split]
      split
      · simp
      · split <;> simp

theorem join_split (sep : α) (l : List α) : join sep (split sep l) = l := by
  induction l with
  | nil => rfl
  | cons a r ih =>
      simp only [split]
      obtain ⟨s, rest, hs⟩ := List.exists_cons_of_ne_nil (split_ne_nil sep r)
      rw [hs] at ih ⊢
      split
      · next h => simp [join, ih, h]
      · cases rest with
        | nil => simpa [join] using ih
        | cons t rest => simpa [join] using ih

theorem not_mem_of_mem_split {sep : α} {l s : List α} (h : s ∈ split sep l) : sep ∉ s := by
  induction l generalizing s with
  | nil => simp [split] at h; simp [h]
  | cons a r ih =>
      simp only [split] at h
      obtain ⟨t, rest, ht⟩ := List.exists_cons_of_ne_nil (split_ne_nil sep r)
      rw [ht] at h ih
      split at h
      · rcases List.mem_cons.1 h with rfl | h
        · simp
        · exact ih h
      · next ha =>
          rcases List.mem_cons.1 h with rfl | h
          · simpa [Ne.symm ha] using ih (by simp)
          · exact ih (List.mem_cons_of_mem _ h)

def segments (sep : Char) (s : String) : List String :=
  (split sep s.toList).map String.ofList

def cutLast (sep : α) (l : List α) : Option (List α × List α) :=
  match l.reverse.dropWhile (· ≠ sep) with
  | [] => none
  | _ :: before => some (before.reverse, (l.reverse.takeWhile (· ≠ sep)).reverse)

def cutFirst (sep : α) (l : List α) : Option (List α × List α) :=
  match l.dropWhile (· ≠ sep) with
  | [] => none
  | _ :: after => some (l.takeWhile (· ≠ sep), after)

end Workcell.Text
