import Workcell.Proofs.Redaction
import Workcell.Proofs.Run.Execute

namespace Workcell

variable {limit : Nat} {m : Machine} {c : Command} {workDir : Path} {redactions : Pairs}
  {timeout : Option Number} {script : Script} {p : Replacement}

def Handling.Handles (h : Handling) (lines : List String) : Prop :=
  ∀ line ∈ lines, ∃ bytes, line = h.textOf bytes

theorem Handling.handles_map {α : Type} (h : Handling) (f : α → List UInt8) (l : List α) :
    h.Handles (l.map fun a => h.textOf (f a)) := by
  intro line hline
  obtain ⟨a, -, rfl⟩ := List.mem_map.1 hline
  exact ⟨f a, rfl⟩

theorem Handling.handles_nil (h : Handling) : h.Handles [] := by simp [Handling.Handles]

/-- Whatever a run shows, adds to the build log or returns is made of lines as they are handled. -/
theorem exists_lines_of_executeWithin (limit : Nat) (m : Machine) (c : Command) (workDir : Path)
    (redactions : Pairs) (timeout : Option Number) (script : Script) :
    ∃ added : List String, (m.handling redactions).Handles added ∧
      ((executeWithin limit m c workDir redactions timeout script).2.contentAt m.base
          (workDir.child logName)).getD [] =
        (m.files.contentAt m.base (workDir.child logName)).getD [] ++ added.flatMap BuildLog.lineBytes ∧
      (m.handling redactions).Handles
        (executeWithin limit m c workDir redactions timeout script).1.steps.flatten ∧
      ∀ r, (executeWithin limit m c workDir redactions timeout script).1.result = .ok r →
        ∃ out err, (m.handling redactions).Handles out ∧ (m.handling redactions).Handles err ∧
          r.stdout = String.join (out.map (· ++ "\n")) ∧
          r.stderr = String.join (err.map (· ++ "\n")) := by
  rcases idle_or_spawned limit c redactions timeout with
    ⟨⟨failure, hfailure⟩, hsteps, -, hcontent⟩ | ⟨log, files, hopen, hspawn⟩
  · rw [hfailure, hsteps, hcontent]
    exact ⟨[], Handling.handles_nil _, (List.append_nil _).symm, Handling.handles_nil _, by simp⟩
  · have hshown : (m.handling redactions).Handles
        (executeWithin limit m c workDir redactions timeout script).1.steps.flatten := by
      rw [(sinks_of_spawn limit c redactions timeout hopen hspawn).1, Handling.recordOf_shown]
      exact Handling.handles_map _ Prod.snd _
    obtain ⟨added, hadded, hcontent⟩ := exists_added limit c redactions timeout hopen
    refine ⟨added, fun line hline => hshown line (hadded.subset hline), hcontent, hshown, fun r hr => ?_⟩
    · rw [executeWithin_of_spawn _ _ _ _ hopen hspawn] at hr
      obtain ⟨hout, herr⟩ := captured_of_resultOf timeout hr
      rw [Handling.recordOf_captured] at hout herr
      exact ⟨_, _, Handling.handles_map _ id _, Handling.handles_map _ id _, hout, herr⟩

section Guarded

variable (h : Guarded redactions) (hp : p ∈ redactions.entries) (hne : p.1 ≠ "") {lines : List String}
  (hlines : (m.handling redactions).Handles lines)
include h hp hne hlines

theorem Guarded.not_infix_of_mem : ∀ line ∈ lines, ¬p.1.toList <:+: line.toList := by
  intro line hline
  obtain ⟨bytes, rfl⟩ := hlines line hline
  exact h.not_infix_redact hp hne _

theorem Guarded.not_infix_join : ¬p.1.toList <:+: (String.join (lines.map (· ++ "\n"))).toList := by
  have hsrc : p.1.toList ≠ [] := by simpa using hne
  exact Workcell.not_infix_join hsrc (h.one_line p hp hne) (h.not_infix_of_mem hp hne hlines)

end Guarded

/-- No source occurs in what a run shows, adds to the build log or returns. -/
theorem not_infix_of_guarded (limit : Nat) (m : Machine) (c : Command) (workDir : Path)
    (timeout : Option Number) (script : Script) (h : Guarded redactions) :
    ∃ added : String,
      ((executeWithin limit m c workDir redactions timeout script).2.contentAt m.base
          (workDir.child logName)).getD [] =
        (m.files.contentAt m.base (workDir.child logName)).getD [] ++ Utf8.encode added.toList ∧
      ∀ p ∈ redactions.entries, p.1 ≠ "" →
        ¬p.1.toList <:+: added.toList ∧
        (∀ line ∈ (executeWithin limit m c workDir redactions timeout script).1.steps.flatten,
          ¬p.1.toList <:+: line.toList) ∧
        ∀ r, (executeWithin limit m c workDir redactions timeout script).1.result = .ok r →
          ¬p.1.toList <:+: r.stdout.toList ∧ ¬p.1.toList <:+: r.stderr.toList := by
  obtain ⟨added, hadded, hcontent, hshown, hcaptured⟩ :=
    exists_lines_of_executeWithin limit m c workDir redactions timeout script
  rw [BuildLog.flatMap_lineBytes] at hcontent
  refine ⟨_, hcontent, fun p hp hne =>
    ⟨h.not_infix_join hp hne hadded, h.not_infix_of_mem hp hne hshown, ?_⟩⟩
  intro r hr
  obtain ⟨out, err, hout, herr, hstdout, hstderr⟩ := hcaptured r hr
  rw [hstdout, hstderr]
  exact ⟨h.not_infix_join hp hne hout, h.not_infix_join hp hne herr⟩

def Pairs.keyring : Pairs := .ofList [("key", "***"), ("", "-"), ("keyring", "###")]

def Script.keyring : Script :=
  ⟨[.bytes .out "kkeyri".toUTF8.toList, .sleeps 1, .bytes .err "key".toUTF8.toList,
    .bytes .out "ngey\n".toUTF8.toList, .fails .err "gone", .sleeps 2, .cancels], .notPermitted, none⟩

theorem not_infix_of_guarded_keyring :
    Guarded .keyring ∧
      ∀ line ∈ (executeWithin 2 .bare .bare (.ofString "/") .keyring (some (.whole 3))
        .keyring).1.steps.flatten, ¬"keyring".toList <:+: line.toList := by
  have h : Guarded .keyring := ⟨by decide +kernel, by decide +kernel⟩
  obtain ⟨added, -, hall⟩ := not_infix_of_guarded 2 .bare .bare (.ofString "/")
    (some (.whole 3)) .keyring h
  exact ⟨h, (hall ("keyring", "###") (by decide +kernel) (by decide)).2.1⟩

end Workcell
