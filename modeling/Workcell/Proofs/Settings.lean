import Workcell.Proofs.CommandLine.Stages
import Workcell.Proofs.Filesystem
import Workcell.Proofs.Run.Execute
import Workcell.Proofs.Schema
import Workcell.Proofs.Utf8
import Workcell.Proofs.Yaml.Document

namespace Workcell

namespace Settings

def yamlOf (m : Machine) (cs : List Char) : String :=
  String.ofList (Text.expand m.environ.get? (Text.unifyBreaks cs))

/-- There are settings, or an error of the settings. -/
def Reported : Except LoadFailure Settings → Prop
  | .ok _ | .error .halfPair => True
  | .error (.settings _) => True
  | .error _ => False

variable (read : String → Except Yaml.Error Datum) (m : Machine) (p : Path)

/-- The bytes of a file are no text. -/
def Undecodable : Prop := ∃ bytes, m.files.read m.base p = .ok bytes ∧ ∀ cs, bytes ≠ Utf8.encode cs

/-- The YAML of a file has no value, though nothing in its form is wrong. -/
def Misfits (e : Yaml.ScalarError) : Prop :=
  ∃ cs, m.files.read m.base p = .ok (Utf8.encode cs) ∧ read (yamlOf m cs) = .error (.scalar e)

variable {read m p}

section OfText

variable {text : String}

theorem ofDatum_reported (d : Datum) : Reported (ofDatum d) := by
  rw [ofDatum]
  split
  · trivial
  · split
    · trivial
    · split <;> trivial

theorem ofTextBy_eq_scalar_iff {e : Yaml.ScalarError} :
    ofTextBy read text = .error (.scalar e) ↔ read text = .error (.scalar e) := by
  rw [ofTextBy]
  split
  · next h => simp [h]
  · next h => simp [h]
  · next d h =>
    refine iff_of_false (fun heq => ?_) (by simp [h])
    have hreported := ofDatum_reported d
    rw [heq] at hreported
    exact hreported

theorem reported_or_scalar (read : String → Except Yaml.Error Datum) (text : String) :
    Reported (ofTextBy read text) ∨ ∃ e, ofTextBy read text = .error (.scalar e) := by
  rw [ofTextBy]
  split
  · exact .inl trivial
  · exact .inr ⟨_, rfl⟩
  · exact .inl (ofDatum_reported _)

theorem ofDatum_eq_ok_iff {d : Datum} {s : Settings} : ofDatum d = .ok s ↔ ∃ entries,
    entriesOf d = .ok entries ∧ Schema.settings (.mapping entries) = .valid s := by
  rw [ofDatum]
  split
  · next e he => simp [he]
  · next entries he =>
    split
    · next s' hs => simp [he, hs]
    · next problems hs => split <;> simp [he, hs]

theorem ofDatum_eq_halfPair_iff {d : Datum} : ofDatum d = .error .halfPair ↔ ∃ entries problems,
    entriesOf d = .ok entries ∧ Schema.settings (.mapping entries) = .invalid problems ∧
      ∀ q ∈ problems, q.fault = .halfPair := by
  rw [ofDatum]
  split
  · next e he => simp [he]
  · next entries he =>
    split
    · next s' hs => simp [he, hs]
    · next problems hs =>
      split
      · next hnone => simpa [he, hs] using hnone
      · next hsome => simpa [he, hs] using hsome

theorem ofTextBy_eq_ok_iff {s : Settings} : ofTextBy read text = .ok s ↔ ∃ d entries, read text = .ok d ∧
    entriesOf d = .ok entries ∧ Schema.settings (.mapping entries) = .valid s := by
  rw [ofTextBy]
  split
  · next h => simp [h]
  · next h => simp [h]
  · next d h => simp [h, ofDatum_eq_ok_iff]

theorem ofTextBy_eq_halfPair_iff : ofTextBy read text = .error .halfPair ↔ ∃ d entries problems,
    read text = .ok d ∧ entriesOf d = .ok entries ∧ Schema.settings (.mapping entries) = .invalid problems ∧
      ∀ q ∈ problems, q.fault = .halfPair := by
  rw [ofTextBy]
  split
  · next h => simp [h]
  · next h => simp [h]
  · next d h => simp [h, ofDatum_eq_halfPair_iff]

end OfText

section OfFile

variable (hp : p.hasNul = false)
include hp

theorem ofFileBy_of_unread {e : Errno} (h : m.files.read m.base p = .error e) :
    ofFileBy read m p = .error (.settings (.unreadable p e)) := by
  simp [ofFileBy, textOf, hp, h]

theorem ofFileBy_of_undecoded {bytes : List UInt8} {f : Utf8.Fault} (h : m.files.read m.base p = .ok bytes)
    (hdecode : Utf8.decode bytes = .error f) : ofFileBy read m p = .error (.notUtf8 f) := by
  simp [ofFileBy, textOf, hp, h, hdecode]

theorem ofFileBy_of_text {cs : List Char} (h : m.files.read m.base p = .ok (Utf8.encode cs)) :
    ofFileBy read m p = ofTextBy read (yamlOf m cs) := by
  simp [ofFileBy, textOf, hp, h, Utf8.decode_eq_ok_iff.2 rfl, yamlOf]

theorem ofFileBy_cases (read : String → Except Yaml.Error Datum) (m : Machine) :
    (∃ e, m.files.read m.base p = .error e ∧ ofFileBy read m p = .error (.settings (.unreadable p e))) ∨
      (∃ f, Undecodable m p ∧ ofFileBy read m p = .error (.notUtf8 f)) ∨
      ∃ cs, m.files.read m.base p = .ok (Utf8.encode cs) ∧ ofFileBy read m p = ofTextBy read (yamlOf m cs) := by
  cases hread : m.files.read m.base p with
  | error e => exact .inl ⟨e, rfl, ofFileBy_of_unread hp hread⟩
  | ok bytes =>
      cases hdecode : Utf8.decode bytes with
      | error f =>
          refine .inr (.inl ⟨f, ⟨bytes, hread, fun cs heq => ?_⟩, ofFileBy_of_undecoded hp hread hdecode⟩)
          rw [Utf8.decode_eq_ok_iff.2 heq] at hdecode
          cases hdecode
      | ok cs =>
          obtain rfl := Utf8.decode_eq_ok_iff.1 hdecode
          exact .inr (.inr ⟨cs, rfl, ofFileBy_of_text hp hread⟩)

theorem undecodable_iff : (∃ f, ofFileBy read m p = .error (.notUtf8 f)) ↔ Undecodable m p := by
  constructor
  · rintro ⟨f, h⟩
    rcases ofFileBy_cases hp read m with ⟨e, -, heq⟩ | ⟨f', hundecodable, -⟩ | ⟨cs, -, heq⟩
    · simp [heq] at h
    · exact hundecodable
    · have hscalar := reported_or_scalar read (yamlOf m cs)
      simp [← heq, h, Reported] at hscalar
  · rintro ⟨bytes, hread, hno⟩
    cases hdecode : Utf8.decode bytes with
    | error f => exact ⟨f, ofFileBy_of_undecoded hp hread hdecode⟩
    | ok cs => exact absurd (Utf8.decode_eq_ok_iff.1 hdecode) (hno cs)

theorem misfits_iff {e : Yaml.ScalarError} : ofFileBy read m p = .error (.scalar e) ↔ Misfits read m p e := by
  constructor
  · intro h
    rcases ofFileBy_cases hp read m with ⟨e', -, heq⟩ | ⟨f, -, heq⟩ | ⟨cs, hread, heq⟩
    · simp [heq] at h
    · simp [heq] at h
    · exact ⟨cs, hread, ofTextBy_eq_scalar_iff.1 (heq.symm.trans h)⟩
  · rintro ⟨cs, hread, hyaml⟩
    rw [ofFileBy_of_text hp hread]
    exact ofTextBy_eq_scalar_iff.2 hyaml

theorem reported_iff : Reported (ofFileBy read m p) ↔ ¬Undecodable m p ∧ ∀ e, ¬Misfits read m p e := by
  constructor
  · intro h
    refine ⟨fun hundecodable => ?_, fun e hmisfits => ?_⟩
    · obtain ⟨f, heq⟩ := (undecodable_iff hp).2 hundecodable
      rw [heq] at h
      exact h
    · rw [(misfits_iff hp).2 hmisfits] at h
      exact h
  · rintro ⟨hdecodable, hfits⟩
    rcases ofFileBy_cases hp read m with ⟨e, -, heq⟩ | ⟨f, hundecodable, -⟩ | ⟨cs, -, heq⟩
    · rw [heq]
      trivial
    · exact absurd hundecodable hdecodable
    · rcases reported_or_scalar read (yamlOf m cs) with hreported | ⟨e, hscalar⟩
      · rwa [heq]
      · exact absurd ((misfits_iff hp).1 (heq.trans hscalar)) (hfits e)

theorem ofFileBy_eq_iff {r : Except LoadFailure Settings}
    (hunread : ∀ e, .error (.settings (.unreadable p e)) ≠ r)
    (hundecoded : ∀ f, .error (.notUtf8 f) ≠ r) : ofFileBy read m p = r ↔ ∃ cs,
      m.files.read m.base p = .ok (Utf8.encode cs) ∧ ofTextBy read (yamlOf m cs) = r := by
  constructor
  · intro h
    rcases ofFileBy_cases hp read m with ⟨e, -, heq⟩ | ⟨f, -, heq⟩ | ⟨cs, hread, heq⟩
    · exact absurd (heq.symm.trans h) (hunread e)
    · exact absurd (heq.symm.trans h) (hundecoded f)
    · exact ⟨cs, hread, heq.symm.trans h⟩
  · rintro ⟨cs, hread, h⟩
    rw [ofFileBy_of_text hp hread, h]

theorem ofFileBy_eq_ok_iff {s : Settings} : ofFileBy read m p = .ok s ↔ ∃ cs d entries,
    m.files.read m.base p = .ok (Utf8.encode cs) ∧ read (yamlOf m cs) = .ok d ∧
      entriesOf d = .ok entries ∧ Schema.settings (.mapping entries) = .valid s := by
  refine (ofFileBy_eq_iff hp (by simp) (by simp)).trans ?_
  simp only [ofTextBy_eq_ok_iff, exists_and_left]

theorem ofFileBy_eq_halfPair_iff : ofFileBy read m p = .error .halfPair ↔ ∃ cs d entries problems,
    m.files.read m.base p = .ok (Utf8.encode cs) ∧ read (yamlOf m cs) = .ok d ∧ entriesOf d = .ok entries ∧
      Schema.settings (.mapping entries) = .invalid problems ∧ ∀ q ∈ problems, q.fault = .halfPair := by
  refine (ofFileBy_eq_iff hp (by simp) (by simp)).trans ?_
  simp only [ofTextBy_eq_halfPair_iff, exists_and_left]

theorem ofFile_of_text {cs : List Char} (h : m.files.read m.base p = .ok (Utf8.encode cs)) :
    ofFile m p = ofText (yamlOf m cs) :=
  ofFileBy_of_text hp h

end OfFile

end Settings

namespace CommandLine

variable {m : Machine} {words : List String} {script : Script} {r : Request} {p : Path}

theorem execWords_of_unloaded (hrequest : request m words = .ok r) (hconfig : r.options.config = some p)
    {provider : Option TracerProvider} (htracing : startTracing m r.options = .ok provider) {f : LoadFailure}
    (h : Settings.ofFile m p = .error f) :
    execWords m words script = (r.outset m).halt m.console (.load f) := by
  refine execWords_of_halted hrequest ?_
  rw [Request.arrange, htracing, loadSettings, hconfig]
  dsimp only
  rw [h]

end CommandLine

def Machine.configured (content : List UInt8) : Machine :=
  { Machine.bare with files := Filesystem.empty.set ["settings.yaml"] (.file content false) }

namespace Machine

variable (content : List UInt8)

def settingsPath : Path := .ofString "/settings.yaml"

theorem hasNul_settingsPath : settingsPath.hasNul = false := by decide +kernel

theorem lookup_configured : (configured content).files.lookup (configured content).base settingsPath =
    .ok (["settings.yaml"], .file content false) := by
  have hentry : (configured content).files.entry? ["settings.yaml"] = some (.file content false) := by rfl
  have hwalk : (configured content).files.walk linkBudget [] ["settings.yaml"] = .ok ["settings.yaml"] :=
    Filesystem.walk_last (by decide) (by decide) (by simp [hentry]) (by simp [hentry])
  have hparts : settingsPath.parts = ["settings.yaml"] := by decide +kernel
  have hlocate : (configured content).files.locate (configured content).base settingsPath =
      .ok ["settings.yaml"] := by
    rw [Filesystem.locate, hparts]
    exact hwalk
  rw [Filesystem.lookup, hlocate]
  dsimp only
  rw [hentry]

theorem read_configured : (configured content).files.read (configured content).base settingsPath =
    .ok content := by
  rw [Filesystem.read, lookup_configured]

theorem ofFile_settings {m : Machine} {text : List Char} {s : Settings}
    (hfiles : m.files = (configured (Utf8.encode text)).files) (hcwd : m.cwd = bare.cwd)
    (h : (Settings.ofText (Settings.yamlOf m text)).toOption = some s) :
    Settings.ofFile m settingsPath = .ok s := by
  have hread : m.files.read m.base settingsPath = .ok (Utf8.encode text) := by
    rw [hfiles, Machine.base, hcwd]
    exact read_configured _
  rw [Settings.ofFile_of_text hasNul_settingsPath hread]
  cases hload : Settings.ofText (Settings.yamlOf m text) with
  | error e => simp [hload, Except.toOption] at h
  | ok s' => simpa [hload, Except.toOption] using h

theorem stat_configured : (configured content).stat? "/settings.yaml" = some (.file content false) := by
  have hlookup := lookup_configured content
  rw [settingsPath] at hlookup
  rw [stat?, if_neg (by decide), hlookup]
  exact if_neg (by decide +kernel)

end Machine

namespace CommandLine

def Request.configured : Request := ⟨{ Options.none with config := some Machine.settingsPath }, ["make"]⟩

theorem awaits_config : Awaits "--config" .config :=
  awaits_of_find (by decide) (by decide) (by decide) rfl rfl rfl

theorem filePath_configured (content : List UInt8) :
    Options.filePath (.configured content) "--config" "/settings.yaml" = .ok Machine.settingsPath := by
  rw [Options.filePath, if_neg (by decide), Machine.stat_configured]
  rfl

theorem request_configured (content : List UInt8) :
    request (.configured content) ["--config", "/settings.yaml", "make"] = .ok .configured := by
  have hread : readWords execOptions true ["--config", "/settings.yaml", "make"] =
      .ok ⟨[(.config, some "/settings.yaml")], ["make"]⟩ := by
    rw [awaits_config.readWords, readWords_of_word _ _ (isOption_eq_false_iff.2 (by decide)) (by decide)]
    rfl
  refine request_eq_ok_iff.2 ⟨_, hread, by simp, ?_, rfl, by simp [Request.configured]⟩
  change (((Options.filePath _ "--config" "/settings.yaml").map _).bind _) = _
  rw [filePath_configured]
  rfl

end CommandLine

open CommandLine Settings Display in
/-- By any reader of YAML, a file gives settings that satisfy the schema, or an error of the settings, unless its
bytes are no text or the reader finds no value in YAML that is in form. (Settings in which half of a surrogate pair is
all that is out of place are settings too, but their texts are none here.) An error of the settings ends an invocation
with one and a report. Any other fault is not reported. -/
theorem settings_loaded (read : String → Except Yaml.Error Datum) (m : Machine) {p : Path}
    (hp : p.hasNul = false) :
    let loaded := ofFileBy read m p
    (∀ s, loaded = .ok s ↔ ∃ cs d entries, m.files.read m.base p = .ok (Utf8.encode cs) ∧
      read (yamlOf m cs) = .ok d ∧ entriesOf d = .ok entries ∧ Schema.settings (.mapping entries) = .valid s) ∧
    (loaded = .error .halfPair ↔ ∃ cs d entries problems, m.files.read m.base p = .ok (Utf8.encode cs) ∧
      read (yamlOf m cs) = .ok d ∧ entriesOf d = .ok entries ∧
        Schema.settings (.mapping entries) = .invalid problems ∧ ∀ q ∈ problems, q.fault = .halfPair) ∧
    (∀ s, loaded = .ok s → ∀ t ∈ s.timeout, t.isPositive) ∧
    (Reported loaded ↔ ¬Undecodable m p ∧ ∀ e, ¬Misfits read m p e) ∧
    ((∃ f, loaded = .error (.notUtf8 f)) ↔ Undecodable m p) ∧
    (∀ e, loaded = .error (.scalar e) ↔ Misfits read m p e) ∧
    ∀ line words r provider script, Names line words → request m words = .ok r → r.options.config = some p →
      startTracing m r.options = .ok provider →
      let o := run m line script
      (∀ e, ofFile m p = .error (.settings e) →
        (0 < m.console.width → Label.settingsError.text.toList <+: o.output.toList) ∧ o.exitCode = 1 ∧
          o.complaint = none ∧ o.escaped = none ∧ o.spawned = [] ∧ o.files = m.files) ∧
      ∀ f, ofFile m p = .error f → ¬Reported (ofFile m p) →
        o.output = "" ∧ o.exitCode = 1 ∧ o.complaint = none ∧ o.escaped = some (.load f) ∧ o.spawned = [] ∧
          o.files = m.files := by
  intro loaded
  refine ⟨fun s => ofFileBy_eq_ok_iff hp, ofFileBy_eq_halfPair_iff hp, fun s hs => ?_, reported_iff hp,
    undecodable_iff hp, fun e => misfits_iff hp, fun line words r provider script hnames hrequest hconfig htracing =>
      ⟨fun e he => ?_, fun f hf hunreported => ?_⟩⟩
  · obtain ⟨_, _, _, -, -, -, hvalid⟩ := (ofFileBy_eq_ok_iff hp).1 hs
    exact Schema.isPositive_of_settings hvalid
  · obtain ⟨lines, hfront, hreport⟩ := (r.outset m).exists_settings m.console e
    rw [hnames.run_eq, execWords_of_unloaded hrequest hconfig htracing he, hreport]
    have houtput : ((r.outset m).write (unlines lines)).output = unlines lines := String.empty_append
    exact ⟨fun hwidth => by rw [houtput]; exact hfront hwidth, rfl, rfl, rfl, rfl, rfl⟩
  · rw [hnames.run_eq, execWords_of_unloaded hrequest hconfig htracing hf]
    rw [hf] at hunreported
    cases f with
    | settings e => exact absurd trivial hunreported
    | _ => exact ⟨rfl, rfl, rfl, rfl, rfl, rfl⟩

open CommandLine Settings Machine in
theorem settings_loaded_malformed :
    settingsPath.hasNul = false ∧
      ofFile (configured [0x01]) settingsPath = .error (.settings .malformed) ∧
      Names ["exec", "--config", "/settings.yaml", "make"] ["--config", "/settings.yaml", "make"] ∧
      request (configured [0x01]) ["--config", "/settings.yaml", "make"] = .ok .configured ∧
      (run (configured [0x01]) ["exec", "--config", "/settings.yaml", "make"]
        ⟨[.exits 0], .works, none⟩).exitCode = 1 := by
  -- a control character, which no document may hold
  have hread : (configured [0x01]).files.read (configured [0x01]).base settingsPath =
      .ok (Utf8.encode ['\x01']) := read_configured _
  have hmalformed : ofFile (configured [0x01]) settingsPath = .error (.settings .malformed) :=
    (ofFile_of_text hasNul_settingsPath hread).trans (by rfl)
  obtain ⟨-, -, -, -, -, -, hexec⟩ := settings_loaded Yaml.read (configured [0x01]) hasNul_settingsPath
  obtain ⟨hreported, -⟩ :=
    hexec _ _ _ none ⟨[.exits 0], .works, none⟩ (names_exec _) (request_configured _) rfl rfl
  exact ⟨hasNul_settingsPath, hmalformed, names_exec _, request_configured _, (hreported _ hmalformed).2.1⟩

open CommandLine Settings Machine in
/-- Bytes that are no text are not reported as an error of the settings. -/
theorem undecodable_not_reported :
    settingsPath.hasNul = false ∧
      ofFile (configured [0xFF]) settingsPath = .error (.notUtf8 ⟨0, 1, 0xFF, .badStart⟩) ∧
      ¬Reported (ofFile (configured [0xFF]) settingsPath) ∧
      (run (configured [0xFF]) ["exec", "--config", "/settings.yaml", "make"]
        ⟨[.exits 0], .works, none⟩).output = "" := by
  have hload : ofFile (configured [0xFF]) settingsPath = .error (.notUtf8 ⟨0, 1, 0xFF, .badStart⟩) :=
    ofFileBy_of_undecoded hasNul_settingsPath (read_configured _) (by rfl)
  refine ⟨hasNul_settingsPath, hload, by rw [hload]; exact id, ?_⟩
  rw [(names_exec _).run_eq, execWords_of_unloaded (request_configured _) rfl rfl hload]
  rfl

end Workcell
