import Workcell.Proofs.CommandLine.Assignments
import Workcell.Proofs.Settings

namespace Workcell

theorem Double.isNaN_iff {x : Double} : x.isNaN ↔ x = .nan := by
  cases x <;> simp [Double.isNaN]

theorem Schema.settings_timeout (x : Double) : settings (.mapping [(.text "timeout", .double x)]) =
    if x.isPositive then .valid { Settings.default with timeout := some (.double x) }
    else .invalid [⟨.greaterThan, [.name "timeout"]⟩] := by
  have hfield : settings (.mapping [(.text "timeout", .double x)]) =
      (fun timeout => { Settings.default with timeout }) <$>
        (some <$> positive (.double x)).within (.name "timeout") := by
    rfl
  have hpositive : positive (.double x) =
      if x.isPositive then .valid (.double x) else Checked.fail .greaterThan := rfl
  rw [hfield, hpositive]
  split <;> rfl

theorem Settings.isPositive_of_ofFile {m : Machine} {p : Path} {s : Settings} (h : ofFile m p = .ok s) :
    ∀ t ∈ s.timeout, t.isPositive := by
  have hp : p.hasNul = false := by
    rw [← Bool.not_eq_true]
    intro hnul
    simp [ofFile, ofFileBy, textOf, hnul] at h
  obtain ⟨_, _, _, -, -, -, hvalid⟩ := (ofFileBy_eq_ok_iff hp).1 h
  exact Schema.isPositive_of_settings hvalid

namespace CommandLine

variable {m : Machine} {words values : List String} {r : Request} {order : Order}

namespace Options

variable {o o' : Options} {option : ExecOption} {name text : String} {x : Double}

theorem seconds_eq_ok_iff : seconds name text = .ok x ↔
    Number.readTyped text = some x ∧ (x.isPositive ∨ x = .nan) := by
  rw [seconds]
  cases Number.readTyped text with
  | none => simp [badValue]
  | some y =>
      dsimp only
      rw [← Double.isNaN_iff, ← Bool.or_eq_true]
      split
      · next h =>
        refine ⟨fun heq => ?_, fun ⟨heq, _⟩ => congrArg _ (Option.some.inj heq)⟩
        obtain rfl := Except.ok.inj heq
        exact ⟨rfl, h⟩
      · next h =>
        refine iff_of_false nofun ?_
        rintro ⟨heq, hx⟩
        obtain rfl := Option.some.inj heq
        exact h hx

theorem timeout_of_set (h : o.set m option values = .ok o') :
    if option = .timeout then ∃ x, seconds "--timeout" (values.getLastD "") = .ok x ∧ o'.timeout = some x
    else o'.timeout = o.timeout := by
  cases option with
  | timeout =>
      obtain ⟨x, hx, rfl⟩ := map_eq_ok_iff.1 h
      exact ⟨x, hx, rfl⟩
  | config | directory =>
      obtain ⟨-, -, rfl⟩ := map_eq_ok_iff.1 h
      rfl
  | _ =>
      cases h
      rfl

theorem timeout_of_request (hrequest : request m words = .ok r) (hvalues : Gives words .timeout values) :
    (∃ text x, values.getLast? = some text ∧ seconds "--timeout" text = .ok x ∧ r.options.timeout = some x) ∨
      values = [] ∧ r.options.timeout = .none := by
  rcases sets_of_request (fun values t => ∃ x, seconds "--timeout" (values.getLastD "") = .ok x ∧ t = some x)
    timeout_of_set hrequest hvalues with ⟨x, hx, htimeout⟩ | hnone
  · refine .inl ⟨values.getLastD "", x, ?_, hx, htimeout⟩
    -- no value at all would be read as an empty one, which is no number
    have hne : values ≠ [] := by
      rintro rfl
      obtain ⟨hread, -⟩ := seconds_eq_ok_iff.1 hx
      have hempty : Number.readTyped "" = .none := by decide
      simp [hempty] at hread
    rw [List.getLastD_eq_getLast?, List.getLast?_eq_some_getLast hne]
    rfl
  · exact .inr hnone

end Options

theorem isPositive_of_loadSettings {o : Options} {s : Settings} (h : loadSettings m o = .ok s) :
    ∀ t ∈ s.timeout, t.isPositive := by
  rw [loadSettings] at h
  split at h
  · exact Settings.isPositive_of_ofFile h
  · obtain rfl := Except.ok.inj h
    intro t ht
    cases ht

theorem timeout_of_arrange (harrange : r.arrange m = .ok order) : ∃ loaded,
    loadSettings m r.options = .ok loaded ∧
      order.task.timeout = (r.options.timeout.map Number.double).or loaded.timeout := by
  obtain ⟨_, loaded, _, _, -, hloaded, -, -, htask⟩ := exists_of_arrange harrange
  exact ⟨loaded, hloaded, by rw [htask]; rfl⟩

end CommandLine

def Machine.timed : Machine := .configured (Utf8.encode "timeout: 20\n".toList)

namespace CommandLine

theorem awaits_timeout : Awaits "--timeout" .timeout :=
  awaits_of_find (by decide) (by decide) (by decide) rfl rfl rfl

def Request.timed (x : Double) : Request :=
  ⟨{ Options.none with config := some Machine.settingsPath, timeout := some x }, ["make"]⟩

def Order.timed (x : Double) : Order :=
  ⟨.host, ⟨["make"], .ofString "/", .empty, .empty, some (.double x), false⟩⟩

theorem gives_timed (text : String) :
    Gives ["--config", "/settings.yaml", "--timeout", text, "make"] .timeout [text] := by
  have hcommand := gives_command (isOption_eq_false_iff.2 (by decide)) (by decide : "make" ≠ "--") [] .timeout
  exact (hcommand.behindValue awaits_timeout text).behindValue awaits_config "/settings.yaml"

theorem request_timed (content : List UInt8) {text : String} {x : Double}
    (h : Options.seconds "--timeout" text = .ok x) :
    request (.configured content) ["--config", "/settings.yaml", "--timeout", text, "make"] = .ok (.timed x) := by
  have hread : readWords execOptions true ["--config", "/settings.yaml", "--timeout", text, "make"] =
      .ok ⟨[(.config, some "/settings.yaml"), (.timeout, some text)], ["make"]⟩ := by
    rw [awaits_config.readWords, awaits_timeout.readWords,
      readWords_of_word _ _ (isOption_eq_false_iff.2 (by decide)) (by decide)]
    rfl
  have hgrouped : grouped [(.config, some "/settings.yaml"), (.timeout, some text)] =
      [(ExecOption.config, ["/settings.yaml"]), (.timeout, [text])] := rfl
  have hconfig : Options.none.set (.configured content) .config ["/settings.yaml"] =
      .ok { Options.none with config := some Machine.settingsPath } :=
    map_eq_ok_iff.2 ⟨_, filePath_configured content, rfl⟩
  have htimeout : { Options.none with config := some Machine.settingsPath }.set (.configured content) .timeout
      [text] = .ok (Request.timed x).options :=
    map_eq_ok_iff.2 ⟨x, h, rfl⟩
  have hgiven : Options.ofGiven (.configured content) [(.config, some "/settings.yaml"), (.timeout, some text)] =
      .ok (Request.timed x).options := by
    rw [Options.ofGiven, hgrouped, ← Options.setAll, Options.setAll_cons_of_ok hconfig,
      Options.setAll_cons_of_ok htimeout]
    rfl
  exact request_eq_ok_iff.2 ⟨_, hread, by simp, hgiven, rfl, by simp [Request.timed]⟩

variable (x : Double)

set_option maxRecDepth 10000 in
theorem loadSettings_timed : loadSettings .timed (Request.timed x).options =
    .ok { Settings.default with timeout := some (.double (.ofInt 20)) } :=
  Machine.ofFile_settings rfl rfl (by decide +kernel)

theorem arrange_timed : (Request.timed x).arrange .timed = .ok (.timed x) := by
  rw [Request.arrange, loadSettings_timed]
  rfl

end CommandLine

open CommandLine in
/-- The timeout of a run is the last one that the command line gives, else that of the settings, and it is greater
than zero unless the command line gives not-a-number. Every other number that the command line may give is one that
settings take. -/
theorem timeout_in_force {m : Machine} {line words values : List String} (hnames : Names line words)
    (hvalues : Gives words .timeout values) {r : Request} (hrequest : request m words = .ok r)
    (hdry : r.options.dryRun = false) {order : Order} (harrange : r.arrange m = .ok order) (script : Script) :
    run m line script = order.task.run m order.configuration script (r.outset m) ∧
    ((∀ t ∈ order.task.timeout, t.isPositive) ↔ ∀ text ∈ values.getLast?, Number.readTyped text ≠ some .nan) ∧
    (∀ text ∈ values.getLast?, ∃ x, Number.readTyped text = some x ∧ order.task.timeout = some (.double x) ∧
      (x.isPositive ∨ x = .nan) ∧
      ((∃ s, Schema.settings (.mapping [(.text "timeout", .double x)]) = .valid s) ↔ x ≠ .nan)) ∧
    (values = [] → ∃ loaded, loadSettings m r.options = .ok loaded ∧ order.task.timeout = loaded.timeout) := by
  obtain ⟨loaded, hloaded, htimeout⟩ := timeout_of_arrange harrange
  refine ⟨(hnames.run_eq m script).trans (execWords_of_run hrequest harrange hdry), ?_⟩
  rcases Options.timeout_of_request hrequest hvalues with ⟨text, x, hlast, hx, hgiven⟩ | ⟨rfl, hnone⟩
  · obtain ⟨hread, hsign⟩ := Options.seconds_eq_ok_iff.1 hx
    have hforce : order.task.timeout = some (.double x) := by rw [htimeout, hgiven]; rfl
    have hpositive : x.isPositive ↔ x ≠ .nan := by
      refine ⟨?_, fun hne => hsign.resolve_right hne⟩
      rintro h rfl
      cases h
    rw [hlast, hforce]
    refine ⟨by simpa [hread, Number.isPositive] using hpositive, ?_, ?_⟩
    · rintro _ ⟨⟩
      refine ⟨x, hread, rfl, hsign, ?_⟩
      rw [Schema.settings_timeout, ← hpositive]
      split
      · next h => exact iff_of_true ⟨_, rfl⟩ h
      · next h => exact iff_of_false (by simp) h
    · rintro rfl
      cases hlast
  · have hforce : order.task.timeout = loaded.timeout := by rw [htimeout, hnone]; rfl
    rw [hforce]
    exact ⟨by simpa using isPositive_of_loadSettings hloaded, by simp, fun _ => ⟨loaded, hloaded, rfl⟩⟩

open CommandLine in
theorem timeout_in_force_overriding :
    let words := ["--config", "/settings.yaml", "--timeout", "2", "make"]
    let two := Double.ofInt 2
    Names ("exec" :: words) words ∧ Gives words .timeout ["2"] ∧ request .timed words = .ok (.timed two) ∧
      (Request.timed two).options.dryRun = false ∧ (Request.timed two).arrange .timed = .ok (.timed two) ∧
      (∀ t ∈ (Order.timed two).task.timeout, t.isPositive) ∧
      loadSettings .timed (Request.timed two).options =
        .ok { Settings.default with timeout := some (.double (.ofInt 20)) } := by
  intro words two
  have hread : Number.readTyped "2" = some two := by decide +kernel
  have hrequest : request .timed words = .ok (.timed two) :=
    request_timed _ (Options.seconds_eq_ok_iff.2 ⟨hread, .inl rfl⟩)
  obtain ⟨-, hpositive, -, -⟩ :=
    timeout_in_force (names_exec _) (gives_timed "2") hrequest rfl (arrange_timed two) ⟨[.exits 0], .works, none⟩
  have htwo : two ≠ .nan := by decide
  have hgiven : ∀ text ∈ ["2"].getLast?, Number.readTyped text ≠ some .nan := by simpa [hread] using htwo
  exact ⟨names_exec _, gives_timed "2", hrequest, rfl, arrange_timed two, hpositive.2 hgiven,
    loadSettings_timed two⟩

open CommandLine in
/-- Not-a-number is put over a timeout of the settings too, which would refuse it, and has run out at once. -/
theorem nan_in_force :
    let words := ["--config", "/settings.yaml", "--timeout", "nan", "make"]
    request .timed words = .ok (.timed .nan) ∧ (Request.timed .nan).arrange .timed = .ok (.timed .nan) ∧
      (∀ script, run .timed ("exec" :: words) script =
        (Order.timed .nan).task.run .timed .host script ((Request.timed .nan).outset .timed)) ∧
      (Order.timed .nan).task.timeout = some (.double .nan) ∧ (Number.double .nan).isPositive = false ∧
      Schema.settings (.mapping [(.text "timeout", .double .nan)]) =
        .invalid [⟨.greaterThan, [.name "timeout"]⟩] ∧
      dueAt (some (.double .nan)) = some 0 := by
  intro words
  have hread : Number.readTyped "nan" = some .nan := by decide +kernel
  have hrequest : request .timed words = .ok (.timed .nan) :=
    request_timed _ (Options.seconds_eq_ok_iff.2 ⟨hread, .inr rfl⟩)
  have hrun (script : Script) := ((names_exec words).run_eq .timed script).trans
    (execWords_of_run hrequest (arrange_timed .nan) rfl)
  exact ⟨hrequest, arrange_timed .nan, hrun, rfl, rfl, Schema.settings_timeout .nan, rfl⟩

end Workcell
