import Workcell.Proofs.Container
import Workcell.Proofs.Markup

namespace Workcell

namespace Display

/-- A text set into marked-up text: the tags that are open where it stands, and what follows it, which can
be shown behind any number of backslashes. -/
structure Inset where
  opened : List OpenTag
  text : String
  rest : List Char
  rest_head : ∀ c ∈ rest.head?, startsTag c = false
  rest_shows : ∀ k n, Shows k opened (List.replicate n '\\' ++ rest)
  rest_sound : ∀ n, ∀ body ∈ tags (List.replicate n '\\' ++ rest), tagFault? body = none

namespace Inset

variable {k : Console} {x : Inset}

def Shown (k : Console) (x : Inset) : Prop := Shows k x.opened (x.text.toList ++ x.rest)

theorem shown_of_tagless (h : Tagless x.text.toList) : x.Shown k := by
  obtain ⟨n, hn⟩ := exists_tags_tagless_append h x.rest_head
  rw [Shown, Shows, hn]
  exact x.rest_shows k n

theorem sound_of_tagless (h : Tagless x.text.toList) :
    ∀ body ∈ tags (x.text.toList ++ x.rest), tagFault? body = none := by
  obtain ⟨n, hn⟩ := exists_tags_tagless_append h x.rest_head
  rw [hn]
  exact x.rest_sound n

theorem not_shown_of_closesUnopened (h : ClosesUnopened x.opened x.text.toList) : ¬x.Shown k :=
  h.not_shows x.rest

end Inset

theorem isStyleName_table : ∀ name ∈ ["bold cyan", "cyan", "dim", "green"], IsStyleName name.toList := by
  decide +kernel

variable {k : Console} {opened : List OpenTag} {name : String} {s r : List Char}

theorem opens_enclosed {name : List Char} (hname : IsStyleName name) : Opens k opened [name, '/' :: name] :=
  ⟨_, hname.openAfter_opening 0, _, hname.openAfter_closing 0, trivial⟩

theorem sound_enclosed {name : List Char} (hname : IsStyleName name) :
    ∀ body ∈ [name, '/' :: name], tagFault? body = none := by
  simp [hname.sound, tagFault_closing]

def accessText : AccessMode → String
  | .readOnly => " [dim](read-only)[/dim]"
  | .readWrite => " [dim](read-write)[/dim]"

theorem tags_accessText (mode : AccessMode) :
    tags (accessText mode).toList = ["dim".toList, '/' :: "dim".toList] := by
  cases mode <;> decide +kernel

theorem head_accessText (mode : AccessMode) : (accessText mode).toList.head? = some ' ' := by
  cases mode <;> rfl

/-- The closing tag of a style, behind backslashes that another text ends in. -/
theorem shows_backslashes_closing (hname : IsStyleName name.toList) (hr : ∀ opened, Shows k opened r)
    (n : Nat) :
    Shows k (⟨name.toList, []⟩ :: opened)
      (List.replicate n '\\' ++ '[' :: ('/' :: name.toList ++ ']' :: r)) := by
  rw [hname.shows_closing_iff]
  split
  · exact hr _
  · exact hr _

theorem sound_backslashes_closing (hname : IsStyleName name.toList)
    (hr : ∀ body ∈ tags r, tagFault? body = none) (n : Nat) :
    ∀ body ∈ tags (List.replicate n '\\' ++ '[' :: ('/' :: name.toList ++ ']' :: r)),
      tagFault? body = none := by
  rw [tags_tag hname.body_closing]
  split
  · exact hr
  · exact List.forall_mem_cons.2 ⟨tagFault_closing _, hr⟩

namespace Inset

theorem shows_accessText (mode : AccessMode) : Shows k opened (accessText mode).toList := by
  rw [Shows, tags_accessText]
  exact opens_enclosed (isStyleName_table "dim" (by simp))

theorem sound_accessText (mode : AccessMode) : ∀ body ∈ tags (accessText mode).toList, tagFault? body = none := by
  rw [tags_accessText]
  exact sound_enclosed (isStyleName_table "dim" (by simp))

theorem tags_backslashes_accessText (n : Nat) (mode : AccessMode) :
    tags (List.replicate n '\\' ++ (accessText mode).toList) = tags (accessText mode).toList :=
  tags_backslashes n (by simp [head_accessText])

def ofImage (c : Container) : Inset where
  opened := [⟨"bold cyan".toList, []⟩]
  text := c.image
  rest := "[/bold cyan]".toList
  rest_head := by simp [startsTag]
  rest_shows _ := shows_backslashes_closing (isStyleName_table "bold cyan" (by simp)) fun _ => shows_nil
  rest_sound := sound_backslashes_closing (isStyleName_table "bold cyan" (by simp)) nofun

def ofEngine (c : Container) : Inset where
  opened := []
  text := c.engine
  rest := []
  rest_head := by simp
  rest_shows _ n := by
    rw [Shows, tags_backslashes n (by simp)]
    trivial
  rest_sound n := by
    rw [tags_backslashes n (by simp)]
    nofun

def ofLabel (label : String) (mode : AccessMode) : Inset where
  opened := [⟨"cyan".toList, []⟩]
  text := label
  rest := "[/cyan]".toList ++ (accessText mode).toList
  rest_head := by simp [startsTag]
  rest_shows _ :=
    shows_backslashes_closing (isStyleName_table "cyan" (by simp)) fun _ => shows_accessText mode
  rest_sound := sound_backslashes_closing (isStyleName_table "cyan" (by simp)) (sound_accessText mode)

def ofPath (p : Path) (mode : AccessMode) : Inset where
  opened := []
  text := p.text
  rest := (accessText mode).toList
  rest_head := by simp [head_accessText, startsTag]
  rest_shows _ n := by
    rw [Shows, tags_backslashes_accessText]
    exact shows_accessText mode
  rest_sound n := by
    rw [tags_backslashes_accessText]
    exact sound_accessText mode

def ofMount (m : Mount) : Inset :=
  match m.shownLabel with
  | some label => ofLabel label m.mode
  | none => ofPath m.path m.mode

def all (c : Container) (mounts : List Mount) : List Inset :=
  ofImage c :: ofEngine c :: mounts.map ofMount

/-- The cell of a table in which a text is set. -/
structure IsCell (x : Inset) (cs : List Char) : Prop where
  shows_iff : ∀ k, Shows k [] cs ↔ x.Shown k
  sound : Tagless x.text.toList → ∀ body ∈ tags cs, tagFault? body = none

theorem isCell_plain (x : Inset) (h : x.opened = []) : x.IsCell (x.text.toList ++ x.rest) where
  shows_iff k := by rw [Shown, h]
  sound := sound_of_tagless

theorem isCell_styled (x : Inset) (hname : IsStyleName name.toList) (h : x.opened = [⟨name.toList, []⟩]) :
    x.IsCell ('[' :: (name.toList ++ ']' :: (x.text.toList ++ x.rest))) where
  shows_iff k := by rw [hname.shows_opening_iff, Shown, h]
  sound htext := by
    rw [hname.tags_opening]
    exact List.forall_mem_cons.2 ⟨hname.sound, sound_of_tagless htext⟩

end Inset

theorem isCell_image (c : Container) :
    (Inset.ofImage c).IsCell s!"[bold cyan]{c.image}[/bold cyan]".toList := by
  have htext : s!"[bold cyan]{c.image}[/bold cyan]".toList =
      '[' :: ("bold cyan".toList ++ ']' :: (c.image.toList ++ "[/bold cyan]".toList)) := by
    simp [toString]
  rw [htext]
  exact (Inset.ofImage c).isCell_styled (isStyleName_table "bold cyan" (by simp)) rfl

theorem isCell_engine (c : Container) : (Inset.ofEngine c).IsCell c.engine.toList := by
  have hcell := (Inset.ofEngine c).isCell_plain rfl
  rwa [Inset.ofEngine, List.append_nil] at hcell

theorem toList_mountText (m : Mount) : (mountText m).toList = match m.shownLabel with
    | some label => '[' :: ("cyan".toList ++ ']' ::
        (label.toList ++ ("[/cyan]".toList ++ (accessText m.mode).toList)))
    | none => m.path.text.toList ++ (accessText m.mode).toList := by
  rw [mountText]
  cases m.shownLabel <;> cases m.mode <;> simp [toString, accessText]

theorem isCell_mountText (m : Mount) : (Inset.ofMount m).IsCell (mountText m).toList := by
  rw [toList_mountText, Inset.ofMount]
  cases m.shownLabel with
  | none => exact (Inset.ofPath m.path m.mode).isCell_plain rfl
  | some label => exact (Inset.ofLabel label m.mode).isCell_styled (isStyleName_table "cyan" (by simp)) rfl

theorem shows_forLog_iff {cs : List Char} : Shows k.forLog opened cs ↔ Shows k opened cs := by
  have hopens (bodies : List (List Char)) : ∀ opened, Opens k.forLog opened bodies ↔ Opens k opened bodies := by
    induction bodies with
    | nil => exact fun _ => Iff.rfl
    | cons body r ih => exact fun opened => exists_congr fun opened' => and_congr Iff.rfl (ih opened')
  exact hopens _ _

theorem Console.hasRoom_forLog (k : Console) : k.forLog.HasRoom :=
  show frameWidth + padding < 100 by decide

theorem tags_network (network : Bool) :
    tags (if network then "[green]Enabled[/green]" else "[dim]Isolated (--network=none)[/dim]").toList =
      if network then ["green".toList, '/' :: "green".toList] else ["dim".toList, '/' :: "dim".toList] := by
  cases network <;> decide +kernel

theorem sound_of_tagless (hs : Tagless s) : ∀ body ∈ tags s, tagFault? body = none := by
  simp [tags_of_tagless hs]

theorem sound_of_bracketless {text : String} (h : '[' ∉ text.toList) :
    ∀ body ∈ tags text.toList, tagFault? body = none :=
  sound_of_tagless (tagless_of_not_mem h)

/-- The table of a container is shown if each text set into it can be, and no style in which one of them is shown
is at fault. -/
theorem exists_containerTable_iff {c : Container} {mounts : List Mount} :
    (∃ lines, (containerTable c mounts).lines k = .ok lines) ↔
      (k.HasRoom → ∀ x ∈ Inset.all c mounts, x.Shown k) ∧ (containerTable c mounts).Sound k := by
  have hplain (text : String) (h : '[' ∉ text.toList) : Shows k [] text.toList :=
    shows_of_tagless (tagless_of_not_mem h)
  have hnetwork : Shows k []
      (if c.network then "[green]Enabled[/green]" else "[dim]Isolated (--network=none)[/dim]").toList := by
    rw [Shows, tags_network]
    split
    · exact opens_enclosed (isStyleName_table "green" (by simp))
    · exact opens_enclosed (isStyleName_table "dim" (by simp))
  have hmounts : Shows k [] (if mounts = [] then "-" else "").toList := by
    split
    · exact hplain "-" (by decide)
    · exact shows_nil
  -- of the cells only those of image, engine and mounts are left
  rw [exists_lines_iff]
  refine and_congr_left fun _ => ?_
  simp only [containerTable, List.forall_mem_append, List.forall_mem_cons, List.forall_mem_map,
    (isCell_image c).shows_iff, (isCell_engine c).shows_iff, (isCell_mountText _).shows_iff, hnetwork, hmounts,
    hplain "Image:" (by decide), hplain "Network:" (by decide), hplain "Engine:" (by decide),
    hplain "Volume Mounts:" (by decide), hplain "  •" (by decide), Inset.all, true_and, and_true,
    List.not_mem_nil, IsEmpty.forall_iff, implies_true, and_assoc]

theorem containerTable_sound {c : Container} {mounts : List Mount}
    (h : ∀ x ∈ Inset.all c mounts, Tagless x.text.toList) : (containerTable c mounts).Sound k := by
  rw [Inset.all, List.forall_mem_cons, List.forall_mem_cons, List.forall_mem_map] at h
  obtain ⟨himage, hengine, hmount⟩ := h
  have hnetwork : ∀ body ∈ tags (if c.network then "[green]Enabled[/green]"
      else "[dim]Isolated (--network=none)[/dim]").toList, tagFault? body = none := by
    rw [tags_network]
    split
    · exact sound_enclosed (isStyleName_table "green" (by simp))
    · exact sound_enclosed (isStyleName_table "dim" (by simp))
  have hmounts : ∀ body ∈ tags (if mounts = [] then "-" else "").toList, tagFault? body = none := by
    split
    · exact sound_of_bracketless (by decide)
    · nofun
  have hplain (text : String) (h : '[' ∉ text.toList) := sound_of_bracketless h
  refine Table.sound_of_tags fun _ => ?_
  simp only [containerTable, List.forall_mem_append, List.forall_mem_cons, List.forall_mem_map,
    List.not_mem_nil, IsEmpty.forall_iff, implies_true, and_true]
  refine ⟨⟨⟨hplain "Image:" (by decide), (isCell_image c).sound himage⟩,
    ⟨hplain "Network:" (by decide), hnetwork⟩, ⟨hplain "Engine:" (by decide), (isCell_engine c).sound hengine⟩,
    ⟨hplain "Volume Mounts:" (by decide), hmounts⟩⟩, fun m hm =>
    ⟨hplain "  •" (by decide), (isCell_mountText m).sound (hmount m hm)⟩⟩

end Display

def EngineCheck.passes : EngineCheck → Bool
  | .exits code _ _ => code = 0
  | .fails _ => false
  | .hangs => false

namespace Backend

variable {m : Machine} {c : Container} {i : Invocation}

theorem engineComplaint_eq_none_iff {engine : String} {check : EngineCheck} :
    engineComplaint? engine check = none ↔ check.passes := by
  cases check with
  | exits code stdout stderr =>
      by_cases h : code = 0
      · simp [engineComplaint?, EngineCheck.passes, h]
      · simp [engineComplaint?, EngineCheck.passes, h]
  | fails e => simp [engineComplaint?, EngineCheck.passes]
  | hangs => simp [engineComplaint?, EngineCheck.passes]

theorem buildContainer_of_missing (hwindows : m.windows = false) (htool : m.findExecutable c.engine = none) :
    (buildContainer m c i).result = .error (.runner (.toolMissing c.engine engineRemedy)) := by
  simp [buildContainer, hwindows, htool]

theorem buildContainer_of_broken (hwindows : m.windows = false)
    (htool : m.findExecutable c.engine ≠ none) (hbroken : m.engineCheck.passes = false) :
    ∃ complaint, engineComplaint? c.engine m.engineCheck = some complaint ∧
      (buildContainer m c i).result =
        .error (.runner (.toolMissing c.engine s!"{engineRemedy} ({complaint})")) := by
  cases hcheck : engineComplaint? c.engine m.engineCheck with
  | none => simp [engineComplaint_eq_none_iff.1 hcheck] at hbroken
  | some complaint => exact ⟨complaint, rfl, by simp [buildContainer, hwindows, htool, hcheck]⟩

/-- The checks made before a command is built are passed. -/
def Ready (m : Machine) (c : Container) : Prop :=
  m.windows = false ∧ m.findExecutable c.engine ≠ none ∧ m.engineCheck.passes

theorem Ready.result_eq_ok_iff (h : Ready m c) :
    (buildContainer m c i).result = .ok (commandOf c.engine (engineArguments m c i) i) ↔
      (∀ x ∈ Display.Inset.all c i.mounts, x.Shown m.console.forLog) ∧
        (Display.containerTable c i.mounts).Sound m.console.forLog := by
  obtain ⟨hwindows, htool, hpasses⟩ := h
  have htable : (∃ lines, (Display.containerTable c i.mounts).lines m.console.forLog = .ok lines) ↔
      (∀ x ∈ Display.Inset.all c i.mounts, x.Shown m.console.forLog) ∧
        (Display.containerTable c i.mounts).Sound m.console.forLog := by
    rw [Display.exists_containerTable_iff, forall_prop_of_true m.console.hasRoom_forLog]
  rw [buildContainer_eq_ok_iff, ← htable]
  simp [hwindows, Option.isSome_iff_ne_none, htool, engineComplaint_eq_none_iff.2 hpasses]

theorem Ready.result_of_tagless (h : Ready m c)
    (htexts : ∀ x ∈ Display.Inset.all c i.mounts, Display.Tagless x.text.toList) :
    (buildContainer m c i).result = .ok (commandOf c.engine (engineArguments m c i) i) :=
  h.result_eq_ok_iff.2
    ⟨fun x hx => Display.Inset.shown_of_tagless (htexts x hx), Display.containerTable_sound htexts⟩

theorem Ready.result_of_fault (h : Ready m c) {e : MarkupError}
    (hlines : (Display.containerTable c i.mounts).lines m.console.forLog = .error e) :
    (buildContainer m c i).result = .error (.markup e) := by
  obtain ⟨hwindows, htool, hpasses⟩ := h
  simp [buildContainer, hwindows, htool, engineComplaint_eq_none_iff.2 hpasses, hlines]

theorem Ready.result_cases (h : Ready m c) :
    (buildContainer m c i).result = .ok (commandOf c.engine (engineArguments m c i) i) ∨
      ∃ e, (buildContainer m c i).result = .error (.markup e) := by
  cases hlines : (Display.containerTable c i.mounts).lines m.console.forLog with
  | error e => exact .inr ⟨e, h.result_of_fault hlines⟩
  | ok lines =>
      obtain ⟨hshown, hsound⟩ := Display.exists_containerTable_iff.1 ⟨lines, hlines⟩
      exact .inl (h.result_eq_ok_iff.2 ⟨hshown m.console.hasRoom_forLog, hsound⟩)

end Backend

/-- Building a command of a container fails on Windows, and else if the engine is missing or does not work.
When it gets past these checks it gives the command, or fails by the markup of the table that is logged on
the way: the command if the markup of each text set into this table can be read and no style in which some of it
is shown is at fault. So it does not fail if no text holds a tag, but always if one of them closes a tag that is
not open where it stands. -/
theorem container_outcome (m : Machine) (c : Container) (i : Invocation) :
    let result := (Backend.build m i (.container c)).result
    let command := Backend.commandOf c.engine (Backend.engineArguments m c i) i
    let texts := Display.Inset.all c i.mounts
    (m.windows → result = .error (.runner (.unsupportedPlatform "Windows" Backend.windowsRemedy))) ∧
    (m.windows = false → m.findExecutable c.engine = none →
      result = .error (.runner (.toolMissing c.engine Backend.engineRemedy))) ∧
    (m.windows = false → m.findExecutable c.engine ≠ none → m.engineCheck.passes = false →
      ∃ complaint, Backend.engineComplaint? c.engine m.engineCheck = some complaint ∧
        result = .error (.runner (.toolMissing c.engine s!"{Backend.engineRemedy} ({complaint})"))) ∧
    (Backend.Ready m c →
      (result = .ok command ∨ ∃ e, result = .error (.markup e)) ∧
      (result = .ok command ↔ (∀ x ∈ texts, x.Shown m.console.forLog) ∧
        (Display.containerTable c i.mounts).Sound m.console.forLog) ∧
      ((∀ x ∈ texts, Display.Tagless x.text.toList) → result = .ok command) ∧
      ((∃ x ∈ texts, Display.ClosesUnopened x.opened x.text.toList) → ∃ e, result = .error (.markup e))) := by
  intro result command texts
  refine ⟨fun hwindows => ?_, Backend.buildContainer_of_missing, Backend.buildContainer_of_broken,
    fun hready => ?_⟩
  · simp [result, Backend.build, Backend.buildContainer, hwindows]
  · have hcases : result = .ok command ∨ ∃ e, result = .error (.markup e) := hready.result_cases
    have hshown : result = .ok command ↔ (∀ x ∈ texts, x.Shown m.console.forLog) ∧
        (Display.containerTable c i.mounts).Sound m.console.forLog := hready.result_eq_ok_iff
    refine ⟨hcases, hshown, hready.result_of_tagless, ?_⟩
    rintro ⟨x, hx, hcloses⟩
    exact hcases.resolve_left fun hok =>
      Display.Inset.not_shown_of_closesUnopened hcloses ((hshown.1 hok).1 x hx)

theorem Backend.ready_linked (c : Container) (h : c.engine = defaultEngine) : Ready .linked c := by
  refine ⟨rfl, ?_, by decide⟩
  rw [h]
  exact Option.isSome_iff_ne_none.1 Machine.linked_engine

def Invocation.make : Invocation := ⟨"make", [], .ofString "/data/real", .empty, []⟩

theorem container_outcome_isolated :
    Backend.Ready .linked .isolated ∧
      (∀ x ∈ Display.Inset.all .isolated [], Display.Tagless x.text.toList) ∧
      (Backend.build .linked .make (.container .isolated)).result =
        .ok ⟨"docker", ["run", "--rm", "--user", "1000:1000", "--network=none", "-w", "/data/real",
          "ubuntu:24.04", "make"], .ofString "/data/real", .ofList [("PWD", "/data/real")]⟩ := by
  have hready : Backend.Ready .linked .isolated := Backend.ready_linked _ rfl
  have htexts : ∀ x ∈ Display.Inset.all .isolated [], Display.Tagless x.text.toList := by
    have hplain : ∀ x ∈ Display.Inset.all .isolated [], '[' ∉ x.text.toList := by decide
    exact fun x hx => Display.tagless_of_not_mem (hplain x hx)
  obtain ⟨-, -, -, hbuilt⟩ := container_outcome .linked .isolated .make
  refine ⟨hready, htexts, ((hbuilt hready).2.2.1 htexts).trans ?_⟩
  decide

def Container.closing : Container := ⟨"[/x]", false, defaultEngine, by decide, defaultEngine_ne⟩

/-- A command that is not built, though the engine is there and works. -/
theorem image_closes_nothing :
    Backend.Ready .linked .closing ∧
      (Backend.build .linked .make (.container .closing)).result =
        .error (.markup (.unmatched "[/x]" 11)) := by
  have hready : Backend.Ready .linked .closing := Backend.ready_linked _ rfl
  have hfault : (Display.containerTable .closing []).lines Machine.linked.console.forLog =
      .error (.unmatched "[/x]" 11) := by
    decide +kernel
  exact ⟨hready, hready.result_of_fault hfault⟩

end Workcell
