import Workcell.Proofs.Container

namespace Workcell.Backend

variable {a b : Mount} {mounts mounts' : List Mount} {options options' rest rest' : List String}

theorem mountOption_readWrite (h : b.mode = .readWrite) :
    mountOption b = s!"{b.path.text}:{b.path.text}" :=
  mountOption_eq_iff.2 ⟨rfl, h⟩

theorem mountOption_inj : mountOption a = mountOption b ↔ a.path.text = b.path.text ∧ a.mode = b.mode := by
  constructor
  · intro h
    cases hb : b.mode with
    | readWrite => exact mountOption_eq_iff.1 (h.trans (mountOption_readWrite hb))
    | readOnly =>
        cases ha : a.mode with
        | readWrite =>
            have hmode := (mountOption_eq_iff.1 (h.symm.trans (mountOption_readWrite ha))).2
            rw [hb] at hmode
            cases hmode
        | readOnly =>
            have hchars : a.path.text.toList ++ ':' :: (a.path.text.toList ++ ":ro".toList) =
                b.path.text.toList ++ ':' :: (b.path.text.toList ++ ":ro".toList) := by
              simpa [mountOption, ha, hb, toString] using congrArg String.toList h
            have hlength := congrArg List.length hchars
            simp only [List.length_append, List.length_cons] at hlength
            exact ⟨String.toList_inj.1 (List.append_inj_left hchars (by omega)), rfl⟩
  · rintro ⟨htext, hmode⟩
    simp only [mountOption, htext, hmode]

def mountWords (options : List String) : List String := options.flatMap fun option => ["-v", option]

theorem mountWords_cons (option : String) (options : List String) :
    mountWords (option :: options) = "-v" :: option :: mountWords options := rfl

theorem mountWords_append_inj :
    mountWords options ++ "-w" :: rest = mountWords options' ++ "-w" :: rest' ↔
      options = options' ∧ rest = rest' := by
  constructor
  · intro h
    induction options generalizing options' with
    | nil =>
        cases options' with
        | nil => exact ⟨rfl, (List.cons.inj h).2⟩
        | cons option' options' => exact absurd (List.cons.inj h).1 (by decide)
    | cons option options ih =>
        cases options' with
        | nil => exact absurd (List.cons.inj h).1 (by decide)
        | cons option' options' =>
            rw [mountWords_cons, mountWords_cons, List.cons_append, List.cons_append, List.cons_append,
              List.cons_append, List.cons.injEq, List.cons.injEq] at h
            obtain ⟨-, rfl, h⟩ := h
            obtain ⟨rfl, hrest⟩ := ih h
            exact ⟨rfl, hrest⟩
  · rintro ⟨rfl, rfl⟩
    rfl

/-- The words for mounts and for the working directory do not begin as if the network were taken away. -/
theorem mountWords_append_ne {words : List String} :
    mountWords options ++ "-w" :: rest ≠ "--network=none" :: words := by
  intro h
  cases options with
  | nil => exact absurd (List.cons.inj h).1 (by decide)
  | cons option options => exact absurd (List.cons.inj h).1 (by decide)

theorem networkWords_append_inj {network network' : Bool} :
    (if network then [] else ["--network=none"]) ++ (mountWords options ++ "-w" :: rest) =
        (if network' then [] else ["--network=none"]) ++ (mountWords options' ++ "-w" :: rest') ↔
      network = network' ∧ mountWords options ++ "-w" :: rest = mountWords options' ++ "-w" :: rest' := by
  cases network with
  | true =>
      cases network' with
      | true => simp
      | false => simpa using mountWords_append_ne
  | false =>
      cases network' with
      | true => simpa using mountWords_append_ne.symm
      | false => simp

theorem map_mountOption_inj : mounts.map mountOption = mounts'.map mountOption ↔
    mounts.map (fun mount => (mount.path.text, mount.mode)) =
      mounts'.map fun mount => (mount.path.text, mount.mode) := by
  induction mounts generalizing mounts' with
  | nil => cases mounts' <;> simp
  | cons a mounts ih =>
      cases mounts' with
      | nil => simp
      | cons b mounts' =>
          rw [List.map_cons, List.map_cons, List.map_cons, List.map_cons, List.cons.injEq, List.cons.injEq,
            mountOption_inj, ih, Prod.mk.injEq]

theorem engineArguments_eq (m : Machine) (c : Container) (i : Invocation) :
    engineArguments m c i =
      ["run", "--rm"] ++ ((if m.posix then ["--user", s!"{m.user}:{m.group}"] else []) ++
        ((if c.network then [] else ["--network=none"]) ++
          (mountWords (i.mounts.map mountOption) ++ "-w" :: i.workDir.text :: c.image :: i.words))) := by
  simp only [engineArguments, mountWords, List.flatMap_map, List.append_assoc, List.cons_append,
    List.nil_append]

/-- Two requests give an engine the same arguments if and only if they agree on the network, on the mounts in
their order, as far as path and mode go, on the working directory, on the image and on the words of the
command. -/
theorem engineArguments_eq_iff {m : Machine} {c c' : Container} {i i' : Invocation} :
    engineArguments m c i = engineArguments m c' i' ↔
      c.network = c'.network ∧
      i.mounts.map (fun mount => (mount.path.text, mount.mode)) =
        i'.mounts.map (fun mount => (mount.path.text, mount.mode)) ∧
      i.workDir.text = i'.workDir.text ∧ c.image = c'.image ∧ i.words = i'.words := by
  rw [engineArguments_eq, engineArguments_eq, List.append_right_inj, List.append_right_inj,
    networkWords_append_inj, mountWords_append_inj, map_mountOption_inj, List.cons.injEq, List.cons.injEq]

end Workcell.Backend
