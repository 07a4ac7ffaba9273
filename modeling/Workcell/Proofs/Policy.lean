import Workcell.Policy
import Workcell.Proofs.Path

namespace Workcell

inductive Access
  | readExecute
  | readWrite
  | read
  deriving DecidableEq, Repr

namespace Access

def all : List Access := [readExecute, readWrite, read]

def option : Access → String
  | readExecute => Policy.readExecuteOption
  | readWrite => Policy.readWriteOption
  | read => Policy.readOption

def ofOption? (word : String) : Option Access := all.find? fun a => a.option = word

theorem ofOption_option (a : Access) : ofOption? a.option = some a := by
  cases a <;> decide

theorem ofOption_eq_none_iff {word : String} : ofOption? word = none ↔ ∀ a : Access, word ≠ a.option := by
  simp only [ofOption?, List.find?_eq_none, decide_eq_true_eq]
  constructor
  · intro h a ha
    exact h a (by cases a <;> decide) ha.symm
  · intro h a _ ha
    exact h a ha.symm

theorem option_ne_network (a : Access) : a.option ≠ Policy.networkOption := by
  cases a <;> decide

end Access

namespace Policy

variable (p : Policy)

def paths : Access → List Path
  | .readExecute => p.readExecute
  | .readWrite => p.readWrite
  | .read => p.read

def granted : List (Access × Path) := Access.all.flatMap fun a => (p.paths a).map (a, ·)

theorem granted_eq : p.granted = p.readExecute.map (.readExecute, ·) ++
    (p.readWrite.map (.readWrite, ·) ++ p.read.map (.read, ·)) := by
  simp [granted, Access.all, paths]

theorem arguments_eq : p.arguments = (if p.network then [networkOption] else []) ++
    p.granted.flatMap fun g => [g.1.option, g.2.text] := by
  simp [arguments, granted_eq, grants, Access.option, List.flatMap_map]

def ofGrants (network : Bool) (grants : List (Access × Path)) : Policy :=
  let paths := fun a : Access => (grants.filter (·.1 = a)).map Prod.snd
  ⟨network, paths .read, paths .readExecute, paths .readWrite⟩

theorem paths_of_map (a b : Access) (paths : List Path) :
    ((paths.map (a, ·)).filter (·.1 = b)).map Prod.snd = if a = b then paths else [] := by
  split <;> simp_all [List.filter_map, Function.comp_def]

theorem ofGrants_granted : ofGrants p.network p.granted = p := by
  simp only [ofGrants, granted_eq, List.filter_append, List.map_append, paths_of_map]
  simp

section Directory

variable {p} {directory : Path}

@[simp] theorem network_withDirectory : (p.withDirectory directory).network = p.network := by
  rw [withDirectory]; split <;> rfl

theorem readWrite_withDirectory : (p.withDirectory directory).readWrite =
    p.readWrite ++ if directory ∈ p.readWrite then [] else [directory] := by
  rw [withDirectory]; split <;> simp

theorem withDirectory_eq : p.withDirectory directory =
    { p with readWrite := (p.withDirectory directory).readWrite } := by
  rw [withDirectory]; split <;> rfl

theorem mem_readWrite_iff : directory ∈ p.readWrite ↔ (.readWrite, directory) ∈ p.granted := by
  simp [granted_eq]

/-- A directory that is added is granted for writing if it was not, and all else is granted as often as
before. -/
theorem count_granted_withDirectory (g : Access × Path) :
    (p.withDirectory directory).granted.count g =
      if g = (.readWrite, directory) then max 1 (p.granted.count g) else p.granted.count g := by
  have hgranted : (p.withDirectory directory).granted.count g = p.granted.count g +
      if directory ∈ p.readWrite then 0 else if g = (.readWrite, directory) then 1 else 0 := by
    rw [withDirectory_eq, readWrite_withDirectory, granted_eq, granted_eq]
    by_cases h : directory ∈ p.readWrite
    · simp [h]
    · by_cases hg : g = (.readWrite, directory)
      · subst hg
        simp [h]
        omega
      · simp [h, hg, Ne.symm hg]
  rw [hgranted]
  by_cases hg : g = (.readWrite, directory)
  · subst hg
    by_cases h : directory ∈ p.readWrite
    · have hpos := List.count_pos_iff.2 (mem_readWrite_iff.1 h)
      simp only [h, if_true]
      omega
    · have hzero := List.count_eq_zero.2 (mt mem_readWrite_iff.2 h)
      simp [h, hzero]
  · simp [hg]

theorem granted_withDirectory_ne_nil : (p.withDirectory directory).granted ≠ [] := by
  have hcount : 0 < (p.withDirectory directory).granted.count (.readWrite, directory) := by
    rw [count_granted_withDirectory, if_pos rfl]
    omega
  exact List.ne_nil_of_mem (List.count_pos_iff.1 hcount)

theorem foldl_withDirectory (directories : List Path) : directories.foldl withDirectory p =
    { p with readWrite := p.readWrite ++ (directories.filter (· ∉ p.readWrite)).eraseDups } := by
  induction directories generalizing p with
  | nil => simp
  | cons d rest ih =>
      have hbeq : ∀ e : Path, (e == d) = decide (e = d) := fun _ => rfl
      rw [List.foldl_cons, ih, withDirectory_eq, readWrite_withDirectory]
      by_cases h : d ∈ p.readWrite
      · simp [h]
      · simp [h, List.eraseDups_cons, List.filter_filter, hbeq, Bool.and_comm]

end Directory

end Policy

structure LauncherArguments where
  network : Bool
  grants : List (Access × Path)
  command : List String
  deriving DecidableEq

namespace LauncherArguments

/-- Reads options with their paths for as long as the next word is such an option; the other words are the
command. None if an option comes without a path. -/
def readGrants : List String → Option (List (Access × Path) × List String)
  | [] => some ([], [])
  | [word] => match Access.ofOption? word with
    | none => some ([], [word])
    | some _ => none
  | word :: path :: r => match Access.ofOption? word with
    | none => some ([], word :: path :: r)
    | some a => (readGrants r).map fun x => ((a, .ofString path) :: x.1, x.2)

def read (words : List String) : Option LauncherArguments :=
  let network := decide (words.head? = some Policy.networkOption)
  (readGrants (if network then words.tail else words)).map fun x => ⟨network, x.1, x.2⟩

def policy (r : LauncherArguments) : Policy := .ofGrants r.network r.grants

theorem readGrants_of_command {words : List String} (h : ∀ a : Access, words.head? ≠ some a.option) :
    readGrants words = some ([], words) := by
  cases words with
  | nil => rfl
  | cons word r =>
      have hword : Access.ofOption? word = none :=
        Access.ofOption_eq_none_iff.2 fun a ha => h a (congrArg some ha)
      cases r <;> simp [readGrants, hword]

theorem readGrants_append (grants : List (Access × Path)) (words : List String) :
    readGrants ((grants.flatMap fun g => [g.1.option, g.2.text]) ++ words) =
      (readGrants words).map fun x => (grants ++ x.1, x.2) := by
  induction grants with
  | nil => simp
  | cons g rest ih =>
      simp only [List.flatMap_cons, List.cons_append, List.nil_append, readGrants, Access.ofOption_option,
        ih, Path.ofString_text, Option.map_map, Function.comp_def]

/-- The arguments of a policy with a command behind them: what the policy grants is read first, and then
what the command itself begins with. -/
theorem read_arguments {p : Policy} (hne : p.granted ≠ []) (words : List String) :
    read (p.arguments ++ words) =
      (readGrants words).map fun x => ⟨p.network, p.granted ++ x.1, x.2⟩ := by
  have hread := readGrants_append p.granted words
  rw [Policy.arguments_eq]
  cases hnetwork : p.network with
  | true =>
      simp only [if_true, List.cons_append, List.nil_append, read, List.head?_cons, decide_true,
        List.tail_cons, hread, Option.map_map, Function.comp_def]
  | false =>
      obtain ⟨g, rest, hgranted⟩ := List.exists_cons_of_ne_nil hne
      have hhead : ((p.granted.flatMap fun g => [g.1.option, g.2.text]) ++ words).head? ≠
          some Policy.networkOption := by
        simpa [hgranted] using g.1.option_ne_network
      simp only [Bool.false_eq_true, if_false, List.nil_append, read, hhead, decide_false, hread,
        Option.map_map, Function.comp_def]

end LauncherArguments

end Workcell
