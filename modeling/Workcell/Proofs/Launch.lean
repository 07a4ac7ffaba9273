import Workcell.Proofs.Path
import Workcell.Proofs.Sandbox

namespace Workcell

theorem Text.split_append {α : Type} [DecidableEq α] (sep : α) (a b : List α) :
    split sep (a ++ sep :: b) = split sep a ++ split sep b := by
  induction a with
  | nil => simp [split]
  | cons x a ih =>
      obtain ⟨s, rest, hs⟩ := List.exists_cons_of_ne_nil (split_ne_nil sep a)
      rw [List.cons_append, split, split, ih, hs]
      split <;> rfl

namespace Path

variable {p : Path} {front : List String} {name : String}

theorem suffix_text (h : p.parts = front ++ [name]) : name.toList <:+ p.text.toList := by
  have hwritten : name.toList <:+ p.written := by
    rw [written, h, List.map_append]
    by_cases hfront : front = []
    · simp [hfront]
    · rw [intercalate_append (by simpa using hfront) (by simp)]
      simp only [List.map_cons, List.map_nil, List.intercalate_singleton]
      apply List.IsSuffix.trans (List.suffix_cons '/' name.toList)
      apply List.suffix_append
  have hparts : p.parts ≠ [] := by simp [h]
  rw [toList_text]
  cases p.root with
  | relative => simpa [hparts] using hwritten
  | single => exact hwritten.trans (List.suffix_cons _ _)
  | double => exact hwritten.trans ((List.suffix_cons _ _).trans (List.suffix_cons _ _))

theorem slash_mem_text (h : p.parts = front ++ [name]) (hdown : p.isAbsolute = true ∨ front ≠ []) :
    '/' ∈ p.text.toList := by
  have hparts : p.parts ≠ [] := by simp [h]
  rw [toList_text]
  cases hroot : p.root with
  | relative =>
      have hfront : front ≠ [] := hdown.resolve_left (by simp [isAbsolute, hroot])
      dsimp only
      rw [if_neg hparts, written, h, List.map_append, intercalate_append (by simpa using hfront) (by simp)]
      simp
  | single => exact List.mem_cons_self
  | double => exact List.mem_cons_self

theorem text_of_relative (h : p.parts = [name]) (hrelative : p.isAbsolute = false) : p.text = name := by
  have hroot : p.root = .relative := by simpa [isAbsolute] using hrelative
  apply String.toList_inj.1
  simp [toList_text, hroot, written, h]

theorem isAbsolute_ofString (s : String) : (ofString s).isAbsolute = (s.toList.head? == some '/') := by
  simp only [isAbsolute, ofString, rootOf]
  split
  · next h => rw [h]; rfl
  · next h => rw [h]; rfl
  · next h => rw [h]; rfl
  · next h =>
    cases hchars : s.toList with
    | nil => rfl
    | cons c r =>
        have hc : c ≠ '/' := fun hc => h r (by rw [hchars, hc])
        simp [hc]

end Path

namespace Machine

def searchDirectories (m : Machine) : List String :=
  let searchPath := (m.environ.get? "PATH").getD defaultSearchPath
  if searchPath.isEmpty then [] else Text.segments ':' searchPath

def runnable? (m : Machine) (directory : Place) (s : String) : Option Place :=
  if s.isEmpty || asksForDirectory s then none
  else match m.files.lookup directory (Path.ofString s) with
    | .ok (place, .file _ true) => some place
    | _ => none

/-- The file that runs when a child in a directory starts a program: the one at its path if it holds a slash, and
otherwise the first one in the directories of the search path of the child. -/
def started? (m : Machine) (directory : Place) (environ : Pairs) (program : String) : Option Place :=
  if '/' ∈ program.toList then m.runnable? directory program
  else (Text.segments ':' ((environ.get? "PATH").getD defaultSearchPath)).findSome? fun d =>
    m.runnable? directory (inDirectory d program)

variable {m : Machine} {d s name : String} {directory place : Place}

theorem isExecutable_iff : m.isExecutable s = true ↔ ∃ place, m.runnable? m.base s = some place := by
  simp only [isExecutable, stat?, runnable?]
  by_cases hempty : s.isEmpty
  · simp [hempty]
  · cases m.files.lookup m.base (Path.ofString s) with
    | error e => simp [hempty]
    | ok found =>
        obtain ⟨place, e⟩ := found
        cases e with
        | file content executable =>
            cases executable <;> by_cases hasks : asksForDirectory s <;> simp [hempty, hasks]
        | _ => by_cases hasks : asksForDirectory s <;> simp [hempty, hasks]

theorem endsWith_iff {t : String} : s.endsWith t = true ↔ t.toList <:+ s.toList := by
  rw [← String.endsWith_toSlice, String.Slice.endsWith_string_iff, String.copy_toSlice]

theorem asksForDirectory_of_suffix (hname : IsComponent name) (h : name.toList <:+ s.toList) :
    s.isEmpty = false ∧ asksForDirectory s = false := by
  obtain ⟨hne, hdot, hslash⟩ := hname
  have hchars : name.toList ≠ [] := by simpa using hne
  have hapart (l : List Char) (hl : '/' ∈ l) (hlonger : ¬name.toList <:+ l) : ¬l <:+ s.toList := fun hls =>
    (List.suffix_or_suffix_of_suffix hls h).elim (fun hin => hslash (hin.subset hl)) hlonger
  have hroot : ¬name.toList <:+ ['/'] := by
    rw [List.suffix_cons_iff, List.suffix_nil]
    rintro (heq | heq)
    · simp [heq] at hslash
    · exact hchars heq
  have hself : ¬name.toList <:+ ['/', '.'] := by
    rw [List.suffix_cons_iff, List.suffix_cons_iff, List.suffix_nil]
    rintro (heq | heq | heq)
    · simp [heq] at hslash
    · exact hdot (String.toList_inj.1 heq)
    · exact hchars heq
  refine ⟨String.isEmpty_eq_false_iff.2 ?_, ?_⟩
  · rintro rfl
    exact hchars (List.suffix_nil.1 h)
  · rw [asksForDirectory, Bool.or_eq_false_iff, Bool.eq_false_iff, Bool.eq_false_iff, Ne, Ne, endsWith_iff,
      endsWith_iff]
    exact ⟨hapart ['/'] (by simp) hroot, hapart ['/', '.'] (by simp) hself⟩

theorem runnable_text {p : Path} {front : List String} (hname : IsComponent name) (hs : name.toList <:+ s.toList)
    (hpath : Path.ofString s = p) (hparts : p.parts = front ++ [name]) (directory : Place) :
    m.runnable? directory p.text = m.runnable? directory s := by
  have htext := asksForDirectory_of_suffix hname (Path.suffix_text hparts)
  have hgiven := asksForDirectory_of_suffix hname hs
  simp only [runnable?, htext.1, htext.2, hgiven.1, hgiven.2, Path.ofString_text, hpath]

theorem runnable_of_absolute (h : (Path.ofString s).isAbsolute = true) (directory directory' : Place) :
    m.runnable? directory s = m.runnable? directory' s := by
  simp only [runnable?, Filesystem.lookup, Filesystem.locate, h, if_true]

theorem inDirectory_cases (d name : String) : d = "" ∧ inDirectory d name = name ∨
    ∃ l, (inDirectory d name).toList = l ++ '/' :: name.toList ∧
      (d.toList = l ∧ l ≠ [] ∨ d.toList = l ++ ['/']) := by
  rw [inDirectory]
  rcases List.eq_nil_or_concat' d.toList with hnil | ⟨l, c, hlast⟩
  · left
    simp [String.toList_eq_nil_iff.1 hnil]
  · right
    by_cases hc : c = '/'
    · exact ⟨l, by simp [hlast, hc], .inr (by rw [hlast, hc])⟩
    · exact ⟨d.toList, by simp [hlast, hc], .inl ⟨rfl, by simp [hlast]⟩⟩

theorem componentsOf_inDirectory (hname : IsComponent name) (d : String) :
    componentsOf (inDirectory d name) = componentsOf d ++ [name] := by
  have hsplit : Text.split '/' name.toList = [name.toList] := Text.split_of_not_mem hname.2.2
  have hkept : ([name].filter fun c => c ≠ "" ∧ c ≠ ".") = [name] := by simp [hname.1, hname.2.1]
  rcases inDirectory_cases d name with ⟨rfl, hin⟩ | ⟨l, hin, ⟨hl, -⟩ | hl⟩
  · have hnone : componentsOf "" = [] := by decide
    rw [hin, hnone, componentsOf, Text.segments, hsplit]
    simpa using hkept
  · simp only [componentsOf, Text.segments, hin, hl, Text.split_append, hsplit, List.map_append, List.filter_append]
    simpa using hkept
  · simp only [componentsOf, Text.segments, hin, hl, Text.split_append, hsplit, List.map_append, List.filter_append]
    simpa [Text.split] using hkept

theorem isAbsolute_inDirectory (hname : IsComponent name) (d : String) :
    (Path.ofString (inDirectory d name)).isAbsolute = (Path.ofString d).isAbsolute := by
  rw [Path.isAbsolute_ofString, Path.isAbsolute_ofString]
  rcases inDirectory_cases d name with ⟨rfl, hin⟩ | ⟨l, hin, ⟨hl, hne⟩ | hl⟩
  · have hhead : name.toList.head? ≠ some '/' := fun h => hname.2.2 (List.mem_of_head? h)
    rw [hin]
    simpa using hhead
  · rw [hin, hl, List.head?_append_of_ne_nil _ hne]
  · rw [hin, hl]
    cases l <;> rfl

theorem suffix_inDirectory (d name : String) : name.toList <:+ (inDirectory d name).toList := by
  rcases inDirectory_cases d name with ⟨-, hin⟩ | ⟨l, hin, -⟩
  · rw [hin]
  · rw [hin]
    exact (List.suffix_cons _ _).trans (List.suffix_append _ _)

theorem findExecutable_eq_some {tool : Path} (hslash : '/' ∉ name.toList) (h : m.findExecutable name = some tool) :
    ∃ before d after place, m.searchDirectories = before ++ d :: after ∧
      (∀ other ∈ before, m.runnable? m.base (inDirectory other name) = none) ∧
      m.runnable? m.base (inDirectory d name) = some place ∧ tool = .ofString (inDirectory d name) := by
  have hcandidates : ((m.searchDirectories.map (inDirectory · name)).find? m.isExecutable).map Path.ofString =
      some tool := by
    rw [← h, findExecutable, if_neg hslash, searchDirectories]
    dsimp only
    split <;> rfl
  rw [List.find?_map, Option.map_map, Option.map_eq_some_iff] at hcandidates
  obtain ⟨d, hfind, rfl⟩ := hcandidates
  obtain ⟨hd, before, after, hdirectories, hbefore⟩ := List.find?_eq_some_iff_append.1 hfind
  obtain ⟨place, hplace⟩ := isExecutable_iff.1 hd
  refine ⟨before, d, after, place, hdirectories, fun other hother => ?_, hplace, rfl⟩
  rw [Option.eq_none_iff_forall_ne_some]
  intro place hsome
  have hexecutable : m.isExecutable (inDirectory other name) = true := isExecutable_iff.2 ⟨place, hsome⟩
  simpa [hexecutable] using hbefore other hother

end Machine

/-- The launcher that a sandbox starts. It was found through the first directory `d` of the search path in which
such a file may be run, and the program of the command is its path there, tidied. If `d` is absolute the program is,
and it is that file which runs, whatever the directory and the environment of the child. If `d` is relative, so is
the program: it is looked up from the directory of the child, or, if nothing is left of `d`, on the search path of
the child. -/
theorem launcher_found {m : Machine} {i : Invocation} {description : String} {render : Path → List String}
    {command : Command} (h : (Backend.build m i (.sandbox description render)).result = .ok command) :
    ∃ before d after place, m.searchDirectories = before ++ d :: after ∧
      (∀ other ∈ before, m.runnable? m.base (Machine.inDirectory other Backend.sandboxTool) = none) ∧
      m.runnable? m.base (Machine.inDirectory d Backend.sandboxTool) = some place ∧
      command.program = (Path.ofString (Machine.inDirectory d Backend.sandboxTool)).text ∧
      (Path.ofString command.program).isAbsolute = (Path.ofString d).isAbsolute ∧
      ((Path.ofString d).isAbsolute = true → ∀ directory environ,
        m.started? directory environ command.program = some place) ∧
      ((Path.ofString d).isAbsolute = false → componentsOf d ≠ [] → ∀ directory environ,
        m.started? directory environ command.program =
          m.runnable? directory (Machine.inDirectory d Backend.sandboxTool)) ∧
      ((Path.ofString d).isAbsolute = false → componentsOf d = [] → command.program = Backend.sandboxTool) := by
  have hname : IsComponent Backend.sandboxTool := by decide
  simp only [Backend.build, Backend.buildSandbox] at h
  cases htool : m.findExecutable Backend.sandboxTool with
  | none => simp [htool] at h
  | some tool =>
      rw [htool] at h
      obtain rfl := Except.ok.inj h
      obtain ⟨before, d, after, place, hdirectories, hbefore, hplace, rfl⟩ :=
        Machine.findExecutable_eq_some hname.2.2 htool
      have hparts : (Path.ofString (Machine.inDirectory d Backend.sandboxTool)).parts =
          componentsOf d ++ [Backend.sandboxTool] := Machine.componentsOf_inDirectory hname d
      have habsolute := Machine.isAbsolute_inDirectory hname d
      have hsuffix := Machine.suffix_inDirectory d Backend.sandboxTool
      have hrunnable := Machine.runnable_text (m := m) hname hsuffix rfl hparts
      refine ⟨before, d, after, place, hdirectories, hbefore, hplace, rfl, ?_, ?_, ?_, ?_⟩
      · rw [Backend.commandOf, Path.ofString_text, habsolute]
      · intro hd directory environ
        have hslash := Path.slash_mem_text hparts (.inl (habsolute.trans hd))
        rw [Backend.commandOf, Machine.started?, if_pos hslash, hrunnable,
          Machine.runnable_of_absolute (habsolute.trans hd) directory m.base, hplace]
      · intro _ hne directory environ
        rw [Backend.commandOf, Machine.started?, if_pos (Path.slash_mem_text hparts (.inr hne)), hrunnable]
      · intro hd hnone
        rw [hnone, List.nil_append] at hparts
        exact Path.text_of_relative hparts (habsolute.trans hd)

theorem launcher_found_launching :
    ∃ command place, (Backend.build .launching ⟨"make", [], .ofString "/w", .empty, []⟩
        (.sandbox "" fun _ => [])).result = .ok command ∧ command.program = "/rattler-sandbox" ∧
      ∀ directory environ, Machine.launching.started? directory environ command.program = some place := by
  have hprogram : (Path.ofString "/rattler-sandbox").text = "/rattler-sandbox" := by decide
  have hbuilt : (Backend.build .launching ⟨"make", [], .ofString "/w", .empty, []⟩
      (.sandbox "" fun _ => [])).result = .ok (Backend.commandOf "/rattler-sandbox" ["make"]
        ⟨"make", [], .ofString "/w", .empty, []⟩) := by
    simp only [Backend.build, Backend.buildSandbox, Machine.launching_tool, hprogram]
    rfl
  obtain ⟨before, d, after, place, hdirectories, -, -, -, -, hstarted, -⟩ := launcher_found hbuilt
  have hd : d ∈ Machine.launching.searchDirectories := by
    rw [hdirectories]
    exact List.mem_append_right _ List.mem_cons_self
  have hsearch : Machine.launching.searchDirectories = ["/"] := by decide
  obtain rfl : d = "/" := by simpa [hsearch] using hd
  exact ⟨_, place, hbuilt, rfl, hstarted (by decide)⟩

def Machine.straying : Machine := { Machine.bare with
  files := ⟨[(["home"], .directory), (["home", "bin"], .directory),
    (["home", "bin", "rattler-sandbox"], .file [] true), (["w"], .directory), (["w", "bin"], .directory),
    (["w", "bin", "rattler-sandbox"], .file [0x21] true)]⟩
  cwd := .ofString "/home"
  environ := .ofList [("PATH", "bin")] }

namespace Machine

theorem straying_entries : straying.files.entry? ["home", "bin"] = some .directory ∧
    straying.files.entry? ["home", "bin", "rattler-sandbox"] = some (.file [] true) ∧
    straying.files.entry? ["w", "bin"] = some .directory ∧
    straying.files.entry? ["w", "bin", "rattler-sandbox"] = some (.file [0x21] true) := by
  decide

theorem straying_names : (Path.ofString "bin/rattler-sandbox").parts = ["bin", "rattler-sandbox"] ∧
    (Path.ofString "bin/rattler-sandbox").isAbsolute = false ∧ ¬longestName < "bin".utf8ByteSize ∧
    ¬longestName < "rattler-sandbox".utf8ByteSize := by
  decide

theorem straying_runnable {directory : Place} (h : directory = ["home"] ∨ directory = ["w"]) :
    straying.runnable? directory "bin/rattler-sandbox" = some (directory ++ ["bin", "rattler-sandbox"]) := by
  have hlookup : ∃ content, straying.files.lookup directory (.ofString "bin/rattler-sandbox") =
      .ok (directory ++ ["bin", "rattler-sandbox"], .file content true) := by
    rcases h with rfl | rfl <;>
      simp [Filesystem.lookup, Filesystem.locate, Filesystem.walk, straying_entries, straying_names]
  obtain ⟨content, hlookup⟩ := hlookup
  have hasks := @asksForDirectory_of_suffix "bin/rattler-sandbox" "rattler-sandbox" (by decide) (by decide)
  simp [runnable?, hasks, hlookup]

end Machine

/-- What a child starts is not what was found. -/
theorem launcher_strays :
    ∃ command, (Backend.build .straying ⟨"make", [], .ofString "/w", .empty, []⟩
        (.sandbox "" fun _ => [])).result = .ok command ∧
      (Path.ofString command.program).isAbsolute = false ∧
      Machine.straying.findExecutable Backend.sandboxTool = some (.ofString "bin/rattler-sandbox") ∧
      Machine.straying.runnable? Machine.straying.base "bin/rattler-sandbox" =
        some ["home", "bin", "rattler-sandbox"] ∧
      Machine.straying.started? ["w"] Machine.straying.environ command.program =
        some ["w", "bin", "rattler-sandbox"] := by
  have hfound : Machine.straying.findExecutable Backend.sandboxTool = some (.ofString "bin/rattler-sandbox") :=
    Machine.findExecutable_of_candidates (by decide)
      (show Machine.straying.environ.get? "PATH" = some "bin" by decide) (by decide) (by decide)
      (Machine.isExecutable_iff.2 ⟨_, Machine.straying_runnable (.inl rfl)⟩)
  have hprogram : (Path.ofString "bin/rattler-sandbox").text = "bin/rattler-sandbox" := by decide
  have hbuilt : (Backend.build .straying ⟨"make", [], .ofString "/w", .empty, []⟩
      (.sandbox "" fun _ => [])).result = .ok (Backend.commandOf "bin/rattler-sandbox" ["make"]
        ⟨"make", [], .ofString "/w", .empty, []⟩) := by
    simp only [Backend.build, Backend.buildSandbox, hfound, hprogram]
    rfl
  refine ⟨_, hbuilt, by decide, hfound, Machine.straying_runnable (.inl rfl), ?_⟩
  rw [Backend.commandOf, Machine.started?, if_pos (by decide)]
  exact Machine.straying_runnable (.inr rfl)

end Workcell
