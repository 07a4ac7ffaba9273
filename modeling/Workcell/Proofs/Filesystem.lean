import Workcell.Filesystem
import Mathlib.Data.List.Basic

namespace Workcell.Filesystem

variable {fs fs' : Filesystem} {place base p : Place} {path : Path} {content bytes : List UInt8}
  {executable : Bool} {e : Entry}

theorem entry_set (fs : Filesystem) (hplace : place ≠ []) (e : Entry) (p : Place) :
    Filesystem.entry? (fs.set place e) p = if p = place then some e else fs.entry? p := by
  cases p with
  | nil => rw [if_neg (Ne.symm hplace)]; rfl
  | cons c p =>
      by_cases h : c :: p = place
      · simp [ entry?, set, h]
      · have hbeq : (c :: p == place) = false := beq_eq_false_iff_ne.2 h
        simp [ entry?, set, List.lookup_cons, h, hbeq]

theorem entry_append_nil (fs : Filesystem) (place p : Place) :
    Filesystem.entry? (fs.append place []) p = fs.entry? p := by
  unfold append
  split
  · next content executable he =>
      have hplace : place ≠ [] := by
        rintro rfl
        cases he
      rw [List.append_nil, entry_set fs hplace]
      by_cases hp : p = place
      · rw [if_pos hp, hp, he]
      · rw [if_neg hp]
  · rfl

def Fileable (fs : Filesystem) (place : Place) : Prop :=
  fs.entry? place = none ∨ ∃ content executable, fs.entry? place = some (.file content executable)

theorem Fileable.ne_nil (h : fs.Fileable place) : place ≠ [] := by
  rintro rfl
  simp [Fileable, entry?] at h

/-- What is neither a directory nor a link ends a path: it is led to by its last component only. -/
theorem walk_stop {budget : Nat} {c : String} (hc : c ≠ "..") (hlength : ¬longestName < c.utf8ByteSize)
    (hdirectory : fs.entry? (base ++ [c]) ≠ some .directory)
    (hlink : ∀ target, fs.entry? (base ++ [c]) ≠ some (.link target)) (rest : List String) :
    fs.walk budget base (c :: rest) = .ok p ↔ rest = [] ∧ base ++ [c] = p := by
  rw [walk, if_neg hc, if_neg hlength]
  split
  · split <;> simp_all
  · next target h => exact absurd h (hlink target)
  · next h => exact absurd h hdirectory
  · split <;> simp_all

theorem walk_last {budget : Nat} {c : String} (hc : c ≠ "..") (hlength : ¬longestName < c.utf8ByteSize)
    (hdirectory : fs.entry? (base ++ [c]) ≠ some .directory)
    (hlink : ∀ target, fs.entry? (base ++ [c]) ≠ some (.link target)) :
    fs.walk budget base [c] = .ok (base ++ [c]) :=
  (walk_stop hc hlength hdirectory hlink []).2 ⟨rfl, rfl⟩

/-- The file systems differ at most where both have a file or nothing. -/
def Alike (fs fs' : Filesystem) : Prop :=
  ∀ p, fs'.entry? p = fs.entry? p ∨ fs.Fileable p ∧ fs'.Fileable p

namespace Alike

theorem refl (fs : Filesystem) : fs.Alike fs := fun _ => .inl rfl

theorem trans {fs'' : Filesystem} (h : fs.Alike fs') (h' : fs'.Alike fs'') : fs.Alike fs'' := by
  intro p
  rcases h p with hsame | ⟨hfile, hfile'⟩ <;> rcases h' p with hsame' | ⟨hmid, hlast⟩
  · exact .inl (hsame'.trans hsame)
  · exact .inr ⟨by rwa [Fileable, ← hsame], hlast⟩
  · exact .inr ⟨hfile, by rwa [Fileable, hsame']⟩
  · exact .inr ⟨hfile, hlast⟩

theorem entry_of_ne_file (h : fs.Alike fs') (he : fs.entry? p = some e)
    (hfile : ∀ content executable, e ≠ .file content executable) :
    Filesystem.entry? fs' p = some e := by
  rcases h p with hsame | ⟨hnone | ⟨content, executable, hsome⟩, -⟩
  · exact hsame.trans he
  · simp [hnone] at he
  · exact absurd (Option.some.inj (he.symm.trans hsome)) (hfile content executable)

theorem stops (h : fs.Alike fs') (hdirectory : fs.entry? p ≠ some .directory)
    (hlink : ∀ target, fs.entry? p ≠ some (.link target)) :
    fs'.entry? p ≠ some .directory ∧ ∀ target, fs'.entry? p ≠ some (.link target) := by
  rcases h p with hsame | ⟨-, hnone | ⟨content, executable, hsome⟩⟩
  · rw [hsame]
    exact ⟨hdirectory, hlink⟩
  · simp [hnone]
  · simp [hsome]

/-- A path leads to the same place in file systems that are alike: a file in its middle stops it just as
nothing does, and at its end both are led to. -/
theorem walk (h : fs.Alike fs') {budget : Nat} {todo : List String} :
    fs'.walk budget base todo = .ok p ↔ fs.walk budget base todo = .ok p := by
  have hstop {budget : Nat} {base : Place} {c : String} (rest : List String) (hc : c ≠ "..")
      (hlength : ¬longestName < c.utf8ByteSize)
      (hdirectory : fs.entry? (base ++ [c]) ≠ some .directory)
      (hlink : ∀ target, fs.entry? (base ++ [c]) ≠ some (.link target)) :
      fs'.walk budget base (c :: rest) = .ok p ↔ rest = [] ∧ base ++ [c] = p :=
    walk_stop hc hlength (h.stops hdirectory hlink).1 (h.stops hdirectory hlink).2 rest
  fun_induction Filesystem.walk fs budget base todo with
  | case1 => simp [Filesystem.walk]
  | case2 budget base rest ih => simpa [Filesystem.walk] using ih
  | case3 budget base c rest hc hlength => simp [Filesystem.walk, hc, hlength]
  | case4 budget base c hc hlength hnone =>
      rw [hstop [] hc hlength (by simp [hnone]) (by simp [hnone])]
      simp
  | case5 budget base c rest hc hlength hnone hrest =>
      rw [hstop rest hc hlength (by simp [hnone]) (by simp [hnone])]
      simp [hrest]
  | case6 base c rest hc hlength target hlink =>
      rw [Filesystem.walk, if_neg hc, if_neg hlength, h.entry_of_ne_file hlink (by simp)]
  | case7 base c rest hc hlength target hlink budget base' ih =>
      rw [Filesystem.walk, if_neg hc, if_neg hlength, h.entry_of_ne_file hlink (by simp)]
      exact ih
  | case8 budget base c rest hc hlength hdirectory ih =>
      rw [Filesystem.walk, if_neg hc, if_neg hlength, h.entry_of_ne_file hdirectory (by simp)]
      exact ih
  | case9 budget base c hc hlength e hlink hdirectory he =>
      rw [hstop [] hc hlength (fun h => hdirectory (Option.some.inj (he.symm.trans h)))
        fun target h => hlink target (Option.some.inj (he.symm.trans h))]
      simp
  | case10 budget base c rest hc hlength e hlink hdirectory he hrest =>
      rw [hstop rest hc hlength (fun h => hdirectory (Option.some.inj (he.symm.trans h)))
        fun target h => hlink target (Option.some.inj (he.symm.trans h))]
      simp [hrest]

theorem locate (h : fs.Alike fs') : fs'.locate base path = .ok p ↔ fs.locate base path = .ok p :=
  h.walk

end Alike

def bytesAt (fs : Filesystem) (place : Place) : List UInt8 :=
  match fs.entry? place with
  | some (.file content _) | some (.denied content) => content
  | _ => []

theorem contentAt_getD (hlocate : fs.locate base path = .ok place) :
    (fs.contentAt base path).getD [] = fs.bytesAt place := by
  simp only [Filesystem.contentAt, lookup, hlocate, bytesAt]
  cases fs.entry? place with
  | none => rfl
  | some e => cases e <;> rfl

/-- Bytes were added at the end of the file at a place, which was made if nothing stood there. -/
structure Gains (fs : Filesystem) (place : Place) (bytes : List UInt8) (fs' : Filesystem) : Prop where
  fileable : fs.Fileable place
  entry : ∃ executable, fs'.entry? place = some (.file (fs.bytesAt place ++ bytes) executable)
  frame : ∀ p, p ≠ place → fs'.entry? p = fs.entry? p

namespace Gains

theorem alike (h : fs.Gains place bytes fs') : fs.Alike fs' := by
  intro p
  by_cases hp : p = place
  · subst hp
    obtain ⟨executable, he⟩ := h.entry
    exact .inr ⟨h.fileable, .inr ⟨_, executable, he⟩⟩
  · exact .inl (h.frame p hp)

theorem bytesAt (h : fs.Gains place bytes fs') (p : Place) :
    fs'.bytesAt p = fs.bytesAt p ++ if p = place then bytes else [] := by
  by_cases hp : p = place
  · subst hp
    obtain ⟨executable, he⟩ := h.entry
    rw [Filesystem.bytesAt, he, if_pos rfl]
  · rw [Filesystem.bytesAt, h.frame p hp, if_neg hp, List.append_nil]
    rfl

theorem contentAt (h : fs.Gains place bytes fs') (hlocate : fs.locate base path = .ok place) :
    fs'.contentAt base path = some ((fs.contentAt base path).getD [] ++ bytes) := by
  obtain ⟨executable, he⟩ := h.entry
  rw [contentAt_getD hlocate]
  simp only [Filesystem.contentAt, lookup, h.alike.locate.2 hlocate, he]

theorem append (h : fs.Gains place bytes fs') (more : List UInt8) :
    fs.Gains place (bytes ++ more) (fs'.append place more) := by
  obtain ⟨executable, he⟩ := h.entry
  have happend : fs'.append place more =
      fs'.set place (.file (fs.bytesAt place ++ bytes ++ more) executable) := by
    rw [Filesystem.append, he]
  have hentry := entry_set fs' h.fileable.ne_nil
    (.file (fs.bytesAt place ++ bytes ++ more) executable)
  rw [happend]
  refine ⟨h.fileable, ⟨executable, ?_⟩, fun p hp => ?_⟩
  · rw [hentry, if_pos rfl, List.append_assoc]
  · rw [hentry, if_neg hp, h.frame p hp]

end Gains

theorem openAppend_eq_ok (h : fs.openAppend base path = .ok (fs', place)) :
    fs.locate base path = .ok place ∧
      (fs.entry? place = none ∧ fs' = fs.set place (.file [] false) ∨
        (∃ content executable, fs.entry? place = some (.file content executable)) ∧ fs' = fs) := by
  unfold openAppend at h
  cases hlocate : fs.locate base path with
  | error e => simp [hlocate] at h
  | ok q =>
      simp only [hlocate] at h
      cases he : fs.entry? q with
      | none =>
          simp only [he, Except.ok.injEq, Prod.mk.injEq] at h
          obtain ⟨rfl, rfl⟩ := h
          exact ⟨rfl, .inl ⟨he, rfl⟩⟩
      | some e =>
          cases e with
          | file content executable =>
              simp only [he, Except.ok.injEq, Prod.mk.injEq] at h
              obtain ⟨rfl, rfl⟩ := h
              exact ⟨rfl, .inr ⟨⟨content, executable, he⟩, rfl⟩⟩
          | _ => simp [he] at h

theorem gains_of_openAppend (h : fs.openAppend base path = .ok (fs', place)) :
    fs.locate base path = .ok place ∧ fs.Gains place [] fs' := by
  obtain ⟨hlocate, ⟨hnone, rfl⟩ | ⟨⟨content, executable, he⟩, rfl⟩⟩ := openAppend_eq_ok h
  · have hfileable : fs.Fileable place := .inl hnone
    have hentry := entry_set fs hfileable.ne_nil (.file [] false)
    refine ⟨hlocate, hfileable, ⟨false, ?_⟩, fun p hp => ?_⟩
    · rw [hentry, if_pos rfl, Filesystem.bytesAt, hnone]
      rfl
    · rw [hentry, if_neg hp]
  · refine ⟨hlocate, .inr ⟨content, executable, he⟩, ⟨executable, ?_⟩, fun p _ => rfl⟩
    rw [Filesystem.bytesAt, he, List.append_nil]

theorem openAppend_of_missing (hlocate : fs.locate base path = .ok place)
    (hmissing : fs.entry? place = none) :
    fs.openAppend base path = .ok (fs.set place (.file [] false), place) := by
  simp only [openAppend, hlocate, hmissing]

end Workcell.Filesystem
