import Workcell.Proofs.Decoding
import Workcell.Proofs.Run.Capture

namespace Workcell

namespace Line

/-- Every carriage return before a line feed is left out. -/
def normalize : List UInt8 → List UInt8
  | [] => []
  | b :: r => if b = carriageReturn ∧ r.head? = some feed then normalize r else b :: normalize r

def terminated (bytes : List UInt8) : List UInt8 :=
  if bytes = [] ∨ bytes.getLast? = some feed then bytes else bytes ++ [feed]

variable {a b bytes body : List UInt8}

theorem normalize_append (h : ¬(a.getLast? = some carriageReturn ∧ b.head? = some feed)) :
    normalize (a ++ b) = normalize a ++ normalize b := by
  induction a with
  | nil => rfl
  | cons x a ih =>
      cases a with
      | nil =>
          have hx : ¬(x = carriageReturn ∧ b.head? = some feed) := by simpa using h
          simp [normalize, hx]
      | cons y a =>
          have htail := ih (by rwa [List.getLast?_cons_cons] at h)
          have hstep (r : List UInt8) : normalize (x :: y :: r) =
              if x = carriageReturn ∧ y = feed then normalize (y :: r) else x :: normalize (y :: r) := by
            simp [normalize]
          rw [hstep]
          refine (hstep (a ++ b)).trans ?_
          split
          · exact htail
          · exact congrArg (x :: ·) htail

theorem normalize_of_not_mem (h : feed ∉ bytes) : normalize bytes = bytes := by
  induction bytes with
  | nil => rfl
  | cons x bytes ih =>
      rw [List.mem_cons, not_or] at h
      have hhead : bytes.head? ≠ some feed := fun hhead => h.2 (List.mem_of_head? hhead)
      rw [normalize, if_neg (fun hpair => hhead hpair.2), ih h.2]

theorem normalize_feed (bytes : List UInt8) : normalize (feed :: bytes) = feed :: normalize bytes := by
  rw [normalize, if_neg]
  rintro ⟨h, -⟩
  cases h

theorem normalize_line (hbody : feed ∉ body) (r : List UInt8) :
    normalize (body ++ feed :: r) = dropLastByte carriageReturn body ++ feed :: normalize r := by
  by_cases hreturn : body.getLast? = some carriageReturn
  · obtain ⟨front, rfl⟩ := List.getLast?_eq_some_iff.1 hreturn
    have hfront : feed ∉ front := fun h => hbody (List.mem_append_left _ h)
    rw [dropLastByte_concat, List.append_assoc, List.singleton_append, normalize_append, normalize_of_not_mem hfront,
      normalize, if_pos ⟨rfl, rfl⟩, normalize_feed]
    rintro ⟨-, h⟩
    cases h
  · rw [normalize_append fun h => hreturn h.1, normalize_of_not_mem hbody, dropLastByte_of_ne hreturn, normalize_feed]

theorem getLast?_normalize (bytes : List UInt8) : (normalize bytes).getLast? = bytes.getLast? := by
  induction bytes with
  | nil => rfl
  | cons x bytes ih =>
      rw [normalize]
      split
      · next hpair =>
        obtain ⟨r, rfl⟩ := List.head?_eq_some_iff.1 hpair.2
        rw [ih, List.getLast?_cons_cons]
      · rw [List.getLast?_cons, List.getLast?_cons, ih]

theorem normalize_terminated (h : bytes.getLast? ≠ some carriageReturn) :
    normalize (terminated bytes) = terminated (normalize bytes) := by
  have hnil : normalize bytes = [] ↔ bytes = [] := by
    rw [← List.getLast?_eq_none_iff, getLast?_normalize, List.getLast?_eq_none_iff]
  simp only [terminated, hnil, getLast?_normalize]
  split
  · rfl
  · rw [normalize_append fun hpair => h hpair.1, normalize_feed]
    rfl

theorem decodeLossy_terminated_iff :
    Utf8.decodeLossy (normalize (terminated bytes)) = Utf8.decodeLossy (terminated (normalize bytes)) ↔
      bytes.getLast? ≠ some carriageReturn := by
  refine ⟨fun heq h => ?_, fun h => by rw [normalize_terminated h]⟩
  obtain ⟨front, rfl⟩ := List.getLast?_eq_some_iff.1 h
  have hfront : normalize (front ++ [carriageReturn]) = normalize front ++ [carriageReturn] :=
    normalize_append fun hpair => absurd hpair.2 (by decide)
  have hpair : normalize (front ++ [carriageReturn] ++ [feed]) = normalize front ++ [feed] := by
    rw [List.append_assoc, normalize_append fun hpair => absurd hpair.2 (by decide)]
    rfl
  have hended (l : List UInt8) : terminated (l ++ [carriageReturn]) = l ++ carriageReturn :: [feed] := by
    rw [terminated, List.getLast?_concat, if_neg (by simp; decide), List.append_assoc]
    rfl
  rw [hfront, hended, hended, List.append_cons, hpair, Utf8.decodeLossy_append_cons (by decide),
    Utf8.decodeLossy_append_cons (by decide), List.append_cancel_left_eq, List.cons.injEq] at heq
  exact absurd heq.1 (by decide)

theorem text_line (hbody : feed ∉ body) :
    text (body ++ [feed]) = text body ∧
      text body = String.ofList (Utf8.decodeLossy (dropLastByte carriageReturn body)) := by
  have hlast : body.getLast? ≠ some feed := fun h => hbody (List.mem_of_getLast? h)
  rw [text, text, dropLastByte_concat, dropLastByte_of_ne hlast]
  exact ⟨rfl, rfl⟩

/-- The texts of lines, each with a line feed, are the text of the lines put together. -/
theorem decodeLossy_normalize (bodies : List (List UInt8)) (hbodies : ∀ body ∈ bodies, feed ∉ body) :
    String.ofList (Utf8.decodeLossy (normalize (bodies.flatMap (· ++ [feed])))) =
      String.join (bodies.map fun body => text body ++ "\n") := by
  induction bodies with
  | nil => rfl
  | cons body bodies ih =>
      obtain ⟨hbody, hbodies⟩ := List.forall_mem_cons.1 hbodies
      rw [List.flatMap_cons, List.append_assoc, List.singleton_append, normalize_line hbody,
        Utf8.decodeLossy_append_cons (by decide), List.map_cons, String.join_cons, ← ih hbodies, (text_line hbody).2,
        List.append_cons, String.ofList_append, String.ofList_append]
      rfl

end Line

namespace Stream

theorem captured_of_no_failure (s : Stream) (hend : s.failure = none) :
    s.captured [] = String.ofList (Utf8.decodeLossy (Line.normalize (Line.terminated s.bytes))) := by
  obtain ⟨bodies, rest, hbytes, hbodies, hrest, hlines⟩ := s.exists_segments
  have hredact (line : String) : redact [] line = line := String.ofList_toList
  have htexts : (bodies.map (· ++ [Line.feed])).map (fun line => redact [] (Line.text line) ++ "\n") =
      bodies.map fun body => Line.text body ++ "\n" := by
    rw [List.map_map]
    refine List.map_congr_left fun body hbody => ?_
    simp only [Function.comp_apply, hredact, (Line.text_line (hbodies body hbody)).1]
  rw [captured, hlines]
  by_cases hnil : rest = []
  · have hterminated : Line.terminated s.bytes = bodies.flatMap (· ++ [Line.feed]) := by
      rw [hnil, List.append_nil] at hbytes
      rw [Line.terminated, hbytes, List.flatMap_def, if_pos]
      rcases List.eq_nil_or_concat' bodies with rfl | ⟨front, body, rfl⟩
      · exact .inl rfl
      · simp
    rw [if_neg (fun h => h.2 hnil), List.append_nil, htexts, hterminated, Line.decodeLossy_normalize _ hbodies]
  · have hterminated : Line.terminated s.bytes = (bodies ++ [rest]).flatMap (· ++ [Line.feed]) := by
      have hlast : s.bytes.getLast? = rest.getLast? := by
        rw [hbytes, List.getLast?_append, Option.or_of_isSome]
        simpa using hnil
      have hnot : ¬(s.bytes = [] ∨ s.bytes.getLast? = some Line.feed) := by
        rw [hlast]
        rintro (h | h)
        · exact hnil (List.append_eq_nil_iff.1 (hbytes.symm.trans h)).2
        · exact hrest (List.mem_of_getLast? h)
      rw [Line.terminated, if_neg hnot, hbytes, List.flatMap_append, List.flatMap_singleton, List.flatMap_def,
        List.append_assoc]
    have hall : ∀ body ∈ bodies ++ [rest], Line.feed ∉ body := by
      simpa [or_imp, forall_and] using ⟨hbodies, hrest⟩
    rw [if_pos ⟨hend, hnil⟩, List.map_append, htexts, hterminated, Line.decodeLossy_normalize _ hall,
      List.map_append]
    simp [hredact]

end Stream

def Result.output (r : Result) : Channel → String
  | .out => r.stdout
  | .err => r.stderr

variable {m : Machine} {workDir : Path} {timeout : Option Number} {script : Script}
  {streams : PerChannel Stream} {code : Int}

/-- What is captured of a pipe that was read to its end, with no redactions. Its last line is ended first, and then
the carriage return is dropped from every line ending. This is the same as dropping them from the bytes as they came
and then ending the last line, unless the bytes end in a carriage return. -/
theorem output_normalized (limit : Nat) (c : Command) (h : RunsThrough m workDir timeout script streams code) :
    ∃ result, (executeWithin limit m c workDir .empty timeout script).1.result = .ok result ∧
      ∀ channel, (streams.get channel).failure = none →
        result.output channel =
          String.ofList (Utf8.decodeLossy (Line.normalize (Line.terminated (streams.get channel).bytes))) ∧
        (result.output channel =
            String.ofList (Utf8.decodeLossy (Line.terminated (Line.normalize (streams.get channel).bytes))) ↔
          (streams.get channel).bytes.getLast? ≠ some Line.carriageReturn) := by
  refine ⟨_, h.result_eq limit c .empty, fun channel hend => ?_⟩
  have hnone : orderedRedactions .empty = [] := by simp [orderedRedactions, Pairs.empty]
  have hcaptured : Result.output ⟨code, streams.out.captured [], streams.err.captured []⟩ channel =
      (streams.get channel).captured [] := by
    cases channel <;> rfl
  rw [hnone, hcaptured, Stream.captured_of_no_failure _ hend]
  exact ⟨rfl, String.ofList_inj.trans Line.decodeLossy_terminated_iff⟩

def Script.rewound : Script :=
  ⟨[.bytes .out [0x61, 0x0D], .bytes .out [0x62, 0x0D], .ends .out, .ends .err, .exits 0], .works, none⟩

def PerChannel.rewound : PerChannel Stream := ⟨⟨[[0x61, 0x0D], [0x62, 0x0D]], none⟩, ⟨[], none⟩⟩

theorem Script.rewound_runsThrough : RunsThrough .bare (.ofString "/") none .rewound .rewound 0 :=
  ⟨Machine.bare_opens, rfl, by decide +kernel, fun c => by cases c <;> decide +kernel, rfl⟩

theorem output_normalized_rewound :
    RunsThrough .bare (.ofString "/") none .rewound .rewound 0 ∧ (PerChannel.rewound.get .out).failure = none ∧
      ∃ result, (executeWithin 1 .bare .bare (.ofString "/") .empty none .rewound).1.result = .ok result ∧
        result.output .out = "a\rb\n" := by
  obtain ⟨result, hresult, houtput⟩ := output_normalized 1 .bare Script.rewound_runsThrough
  refine ⟨Script.rewound_runsThrough, rfl, result, hresult, (houtput .out rfl).1.trans ?_⟩
  decide +kernel

/-- A carriage return that no line feed follows is missing from the output. -/
theorem return_dropped :
    (executeWithin 1 .bare .bare (.ofString "/") .empty none .rewound).1.result = .ok ⟨0, "a\rb\n", ""⟩ ∧
      String.ofList (Utf8.decodeLossy (Line.terminated (Line.normalize (PerChannel.rewound.get .out).bytes))) =
        "a\rb\r\n" := by
  refine ⟨(Script.rewound_runsThrough.result_eq 1 .bare .empty).trans ?_, ?_⟩
  · decide +kernel
  · decide +kernel

end Workcell
