import Workcell.Yaml.Token

namespace Workcell.Yaml

def Gives {α : Type} (E : Error → Prop) (Q : α → Prop) : Except Error α → Prop
  | .ok a => Q a
  | .error e => E e

namespace Gives

variable {α β : Type} {E : Error → Prop} {Q : α → Prop} {R : β → Prop} {x : Except Error α}

theorem bind {f : α → Except Error β} (hx : Gives E Q x) (hf : ∀ a, Q a → Gives E R (f a)) :
    Gives E R (x >>= f) := by
  cases x with
  | error e => exact hx
  | ok a => exact hf a hx

theorem ite {c : Prop} [Decidable c] {y : Except Error α} (hx : Gives E Q x) (hy : Gives E Q y) :
    Gives E Q (if c then x else y) := by
  split
  · exact hx
  · exact hy

theorem map {f : α → β} (hx : Gives E Q x) (hf : ∀ a, Q a → R (f a)) : Gives E R (x.map f) := by
  cases x with
  | error e => exact hx
  | ok a => exact hf a hx

end Gives

inductive TokenFault : Error → Prop
  | malformed : TokenFault .malformed
  | notCharacter {code : Nat} : 0x10FFFF < code → TokenFault (.scalar (.notCharacter code))

abbrev Reads {α : Type} (x : Except Error α) : Prop := Gives TokenFault (fun _ => True) x

theorem reads_ok {α : Type} (a : α) : Reads (.ok a) := trivial

theorem reads_malformed {α : Type} : Reads (.error .malformed : Except Error α) := .malformed

namespace Cursor

theorem reads_quotedBreaks (fuel : Nat) (c : Cursor) : Reads (quotedBreaks fuel c) := by
  induction fuel generalizing c with
  | zero => exact reads_malformed
  | succ fuel ih =>
      rw [quotedBreaks]
      split
      · exact reads_malformed
      · dsimp only
        split
        · exact reads_ok _
        · exact (ih _).map fun _ _ => trivial

theorem reads_quotedBlanks (c : Cursor) : Reads (quotedBlanks c) := by
  rw [quotedBlanks]
  dsimp only
  split
  · exact reads_malformed
  · exact (reads_quotedBreaks _ _).map fun _ _ => trivial
  · exact reads_ok _

theorem reads_escape (c : Cursor) : Reads (escape c) := by
  rw [escape]
  dsimp only
  split
  · exact reads_malformed
  · split
    · exact reads_ok _
    · split
      · split
        · next hcode => exact .notCharacter hcode
        · split <;> exact reads_ok _
      · exact reads_malformed
    · split
      · exact (reads_quotedBreaks _ _).map fun _ _ => trivial
      · exact reads_malformed

theorem reads_quoted (double : Bool) (fuel : Nat) (c : Cursor) : Reads (quoted double fuel c) := by
  induction fuel generalizing c with
  | zero => exact reads_malformed
  | succ fuel ih =>
      have hrest (f : ScalarText × Cursor → ScalarText × Cursor) (c : Cursor) :
          Reads ((quoted double fuel c).map f) :=
        (ih c).map fun _ _ => trivial
      rw [quoted]
      dsimp only
      split
      · exact reads_malformed
      · split
        · split
          · exact hrest _ _
          · exact reads_ok _
        · split
          · exact reads_ok _
          · split
            · have hescape := reads_escape c
              split
              · exact hrest _ _
              · next e he => rwa [he] at hescape
            · split
              · have hblanks := reads_quotedBlanks c
                split
                · exact hrest _ _
                · next e he => rwa [he] at hblanks
              · exact hrest _ _

theorem reads_blockIndent (c : Cursor) : Reads (blockIndent c) := by
  rw [blockIndent]
  split
  · split
    · exact reads_malformed
    · split <;> exact reads_ok _
  · exact reads_ok _

theorem reads_finishLine {α : Type} (f : Cursor → α) (c : Cursor) : Reads
    (match c.finishLine? with
    | some c => .ok (f c)
    | none => .error .malformed) := by
  split
  · exact reads_ok _
  · exact reads_malformed

theorem reads_blockHeader (c : Cursor) : Reads (blockHeader c) := by
  rw [blockHeader]
  split
  · refine (reads_blockIndent _).bind fun _ _ => ?_
    dsimp only
    exact .ite (reads_finishLine _ _) reads_malformed
  · refine (reads_blockIndent _).bind fun ⟨indent, c⟩ _ => ?_
    dsimp only
    split
    · exact .ite (reads_finishLine _ _) reads_malformed
    · exact .ite (reads_finishLine _ _) reads_malformed

theorem reads_block (fold : Bool) (indent : Int) (c : Cursor) : Reads (block fold indent c) := by
  rw [block]
  exact (reads_blockHeader _).bind fun _ _ => reads_ok _

end Cursor

namespace Scanner

section Cursors

variable (c : Cursor)

theorem reads_name : Reads (name c) := by
  rw [name]
  dsimp only
  split
  · exact reads_malformed
  · exact reads_ok _

theorem reads_digits : Reads (digits c) := by
  rw [digits]
  dsimp only
  split
  · exact reads_malformed
  · exact reads_ok _

theorem reads_tagHandle : Reads (tagHandle c) := by
  rw [tagHandle]
  dsimp only
  split
  · exact reads_malformed
  · split
    · exact reads_ok _
    · split
      · exact reads_ok _
      · exact reads_malformed

theorem reads_uriEscapes (fuel : Nat) : Reads (uriEscapes fuel c) := by
  induction fuel generalizing c with
  | zero => exact reads_malformed
  | succ fuel ih =>
      rw [uriEscapes]
      dsimp only
      split
      · split
        · exact (ih _).bind fun _ _ => reads_ok _
        · exact reads_malformed
      · exact reads_ok _

theorem reads_uriChars (fuel : Nat) : Reads (uriChars fuel c) := by
  induction fuel generalizing c with
  | zero => exact reads_malformed
  | succ fuel ih =>
      rw [uriChars]
      dsimp only
      split
      · refine (reads_uriEscapes _ _).bind fun ⟨bytes, c⟩ _ => ?_
        dsimp only
        split
        · exact (ih _).bind fun _ _ => reads_ok _
        · exact reads_malformed
      · exact reads_ok _

theorem reads_uri : Reads (uri c) := by
  rw [uri]
  refine (reads_uriChars _ _).bind fun ⟨cs, c⟩ _ => ?_
  dsimp only
  split
  · exact reads_malformed
  · exact reads_ok _

theorem reads_version : Reads (version c) := by
  rw [version]
  refine (reads_digits _).bind fun ⟨major, c⟩ _ => ?_
  dsimp only
  split
  · exact reads_malformed
  · refine (reads_digits _).bind fun ⟨minor, c⟩ _ => ?_
    dsimp only
    split
    · exact reads_ok _
    · exact reads_malformed

theorem reads_tagDirective : Reads (tagDirective c) := by
  rw [tagDirective]
  refine (reads_tagHandle _).bind fun ⟨handle, c⟩ _ => ?_
  dsimp only
  split
  · exact reads_malformed
  · refine (reads_uri _).bind fun ⟨expansion, c⟩ _ => ?_
    dsimp only
    split
    · exact reads_ok _
    · exact reads_malformed

theorem reads_directive : Reads (directive c) := by
  rw [directive]
  refine (reads_name _).bind fun ⟨word, c⟩ _ => ?_
  dsimp only
  split
  · exact reads_malformed
  · split
    · exact (reads_version _).bind fun _ _ => Cursor.reads_finishLine _ _
    · exact (reads_tagDirective _).bind fun _ _ => Cursor.reads_finishLine _ _
    · exact Cursor.reads_finishLine _ _

theorem reads_anchorName : Reads (anchorName c) := by
  rw [anchorName]
  refine (reads_name _).bind fun ⟨n, c⟩ _ => ?_
  dsimp only
  split
  · exact reads_ok _
  · exact reads_malformed

def NoFault (t : Token × Cursor) : Prop := ∀ e, t.1 ≠ .fault e

theorem gives_named (make : String → Token) (hmake : ∀ n e, make n ≠ .fault e) :
    Gives TokenFault NoFault ((anchorName c).map fun (n, c) => (make n, c)) :=
  (reads_anchorName c).map fun _ _ => hmake _

theorem gives_tag : Gives TokenFault NoFault (tag c) := by
  have hend (prefixed : Option String) (suffix : String) (c : Cursor) : Gives TokenFault NoFault
      (if endsLineOrSpace (c.peek 0) then pure (.tag prefixed suffix, c) else malformed) := by
    split
    · exact fun _ => Token.noConfusion
    · exact .malformed
  rw [tag]
  split
  · refine (reads_uri _).bind fun ⟨suffix, c⟩ _ => ?_
    dsimp only
    split
    · exact hend _ _ _
    · exact .malformed
  · split
    · exact hend _ _ _
    · split
      · exact (reads_tagHandle _).bind fun _ _ => (reads_uri _).bind fun _ _ => hend _ _ _
      · exact (reads_uri _).bind fun _ _ => hend _ _ _

end Cursors

def Sound (s : Scanner) : Prop := ∀ e, .fault e ∈ s.tokens → TokenFault e

namespace Sound

variable {s : Scanner} {t : Token}

theorem cons (hs : s.Sound) (ht : ∀ e, t ≠ .fault e) : ∀ e, .fault e ∈ t :: s.tokens → TokenFault e := by
  intro e he
  rcases List.mem_cons.1 he with heq | hmem
  · exact absurd heq.symm (ht e)
  · exact hs e hmem

theorem insertAt (hs : s.Sound) (ht : ∀ e, t ≠ .fault e) (n : Nat) : (s.insertAt n t).Sound := by
  intro e he
  rcases List.mem_append.1 he with hmem | hmem
  · exact hs e (List.mem_of_mem_take hmem)
  · rcases List.mem_cons.1 hmem with heq | hmem
    · exact absurd heq.symm (ht e)
    · exact hs e (List.mem_of_mem_drop hmem)

theorem unwind (hs : s.Sound) (column : Int) (fuel : Nat) : (s.unwind column fuel).Sound := by
  induction fuel generalizing s with
  | zero => exact hs
  | succ fuel ih =>
      rw [Scanner.unwind]
      split
      · exact hs
      · exact ih (hs.cons fun _ => Token.noConfusion)

theorem openBlock (hs : s.Sound) (ht : ∀ e, t ≠ .fault e) (column : Nat) (at? : Option Nat) :
    (s.openBlock column at? t).Sound := by
  rw [Scanner.openBlock]
  split
  · split
    · exact insertAt hs ht _
    · exact hs.cons ht
  · exact hs

theorem skipBetween (hs : s.Sound) (fuel : Nat) : (s.skipBetween fuel).Sound := by
  induction fuel generalizing s with
  | zero => exact hs
  | succ fuel ih =>
      rw [Scanner.skipBetween]
      split
      · exact ih hs
      · exact hs

theorem skipMark (hs : s.Sound) : s.skipMark.Sound := by
  rw [Scanner.skipMark]
  split <;> exact hs

end Sound

abbrev Keeps (x : Scan Scanner) : Prop := Gives TokenFault Sound x

section Steps

variable {s : Scanner} (hs : s.Sound)
include hs

theorem keeps_dropCandidate : Keeps s.dropCandidate := by
  rw [dropCandidate]
  split
  · split
    · exact .malformed
    · exact hs
  · exact hs

theorem keeps_dropStale : Keeps s.dropStale := by
  rw [dropStale]
  split
  · exact .malformed
  · exact hs

theorem keeps_noteCandidate : Keeps s.noteCandidate := by
  rw [noteCandidate]
  split
  · exact (keeps_dropCandidate hs).bind fun _ hs' => hs'
  · exact hs

theorem keeps_documentMark {t : Token} (ht : ∀ e, t ≠ .fault e) : Keeps (s.documentMark t) :=
  (keeps_dropCandidate (hs.unwind _ _)).bind fun _ hs' => hs'.cons ht

theorem keeps_openFlow {t : Token} (ht : ∀ e, t ≠ .fault e) : Keeps (s.openFlow t) :=
  (keeps_noteCandidate hs).bind fun _ hs' => hs'.cons ht

theorem keeps_closeFlow {t : Token} (ht : ∀ e, t ≠ .fault e) : Keeps (s.closeFlow t) := by
  refine (keeps_dropCandidate hs).bind fun s' hs' => ?_
  split
  · exact .malformed
  · exact hs'.cons ht

theorem keeps_flowEntry : Keeps s.flowEntry :=
  (@keeps_dropCandidate { s with keyAllowed := true } hs).bind fun _ hs' =>
    hs'.cons fun _ => Token.noConfusion

theorem keeps_openBlockHere {t : Token} (ht : ∀ e, t ≠ .fault e) : Keeps (s.openBlockHere t) := by
  rw [openBlockHere]
  split
  · exact hs
  · split
    · exact hs.openBlock ht _ _
    · exact .malformed

theorem keeps_blockEntry : Keeps s.blockEntry :=
  (keeps_openBlockHere hs fun _ => Token.noConfusion).bind fun s' hs' =>
    (@keeps_dropCandidate { s' with keyAllowed := true } hs').bind fun _ hs'' =>
      hs''.cons fun _ => Token.noConfusion

theorem keeps_explicitKey : Keeps s.explicitKey :=
  (keeps_openBlockHere hs fun _ => Token.noConfusion).bind fun s' hs' =>
    (@keeps_dropCandidate { s' with keyAllowed := !s'.inFlow } hs').bind fun _ hs'' =>
      hs''.cons fun _ => Token.noConfusion

theorem keeps_value : Keeps s.value := by
  have hend (s' : Scanner) (hs' : s'.Sound) : Keeps (pure ((s'.advance 1).push .value)) :=
    hs'.cons fun _ => Token.noConfusion
  rw [value]
  split
  · next k _ =>
    have hkey : (({ s with candidates := s.candidates.filter (·.1 ≠ s.flowLevel) } : Scanner).insertAt k.tokens
        .key).Sound := Sound.insertAt hs (fun _ => Token.noConfusion) _
    refine hend _ ?_
    split
    · exact hkey
    · exact hkey.openBlock (fun _ => Token.noConfusion) _ _
  · exact (keeps_openBlockHere hs fun _ => Token.noConfusion).bind fun s' hs' =>
      (@keeps_dropCandidate { s' with keyAllowed := !s'.inFlow } hs').bind hend

theorem keeps_candidateToken {read : Cursor → Scan (Token × Cursor)}
    (hread : ∀ c, Gives TokenFault NoFault (read c)) : Keeps (s.candidateToken read) :=
  (keeps_noteCandidate hs).bind fun _ hs' => (hread _).bind fun _ ht => hs'.cons ht

theorem keeps_blockScalar (fold : Bool) : Keeps (s.blockScalar fold) :=
  (@keeps_dropCandidate { s with keyAllowed := true } hs).bind fun _ hs' =>
    (Cursor.reads_block _ _ _).bind fun _ _ => hs'.cons fun _ => Token.noConfusion

theorem keeps_quotedScalar (double : Bool) : Keeps (s.quotedScalar double) :=
  keeps_candidateToken hs fun _ => (Cursor.reads_quoted _ _ _).bind fun _ _ _ => Token.noConfusion

theorem keeps_plainScalar : Keeps s.plainScalar :=
  (keeps_noteCandidate hs).bind fun _ hs' => hs'.cons fun _ => Token.noConfusion

theorem keeps_token (ch : Char) : Keeps (s.token ch) := by
  rw [token]
  refine Gives.ite ?directive <| .ite ?document <| .ite ?openSequence <| .ite ?openMapping <|
    .ite ?closeSequence <| .ite ?closeMapping <| .ite ?flowEntry <| .ite ?blockEntry <| .ite ?key <|
    .ite ?value <| .ite ?reference <| .ite ?anchor <| .ite ?tag <| .ite ?literal <| .ite ?folded <|
    .ite ?single <| .ite ?double <| .ite ?plain .malformed
  case directive =>
    exact (keeps_dropCandidate (hs.unwind _ _)).bind fun _ hs' => (reads_directive _).bind fun _ _ =>
      hs'.cons fun _ => Token.noConfusion
  case document =>
    apply keeps_documentMark hs
    intro e
    split <;> exact Token.noConfusion
  case openSequence => exact keeps_openFlow hs fun _ => Token.noConfusion
  case openMapping => exact keeps_openFlow hs fun _ => Token.noConfusion
  case closeSequence => exact keeps_closeFlow hs fun _ => Token.noConfusion
  case closeMapping => exact keeps_closeFlow hs fun _ => Token.noConfusion
  case flowEntry => exact keeps_flowEntry hs
  case blockEntry => exact keeps_blockEntry hs
  case key => exact keeps_explicitKey hs
  case value => exact keeps_value hs
  case reference => exact keeps_candidateToken hs fun _ => gives_named _ .alias fun _ _ => Token.noConfusion
  case anchor => exact keeps_candidateToken hs fun _ => gives_named _ .anchor fun _ _ => Token.noConfusion
  case tag => exact keeps_candidateToken hs gives_tag
  case literal => exact keeps_blockScalar hs false
  case folded => exact keeps_blockScalar hs true
  case single => exact keeps_quotedScalar hs false
  case double => exact keeps_quotedScalar hs true
  case plain => exact keeps_plainScalar hs

theorem keeps_step : Gives TokenFault (fun r => r.1.Sound) s.step := by
  rw [step]
  refine (keeps_dropStale (hs.skipMark.skipBetween _)).bind fun s' hs' => ?_
  have hunwound := hs'.unwind s'.cursor.column (s'.indents.length + 1)
  dsimp only
  split
  · exact (keeps_dropCandidate (hunwound.unwind _ _)).bind fun _ hs'' => hs''.cons fun _ => Token.noConfusion
  · exact (keeps_token hunwound _).bind fun _ hs'' => hs''

end Steps

theorem Sound.cons_fault {s : Scanner} (hs : s.Sound) {e : Error} (he : TokenFault e) {ts : List Token}
    (hts : ts ⊆ s.tokens) : ∀ e', .fault e' ∈ .fault e :: ts → TokenFault e' := by
  intro e' he'
  rcases List.mem_cons.1 he' with heq | hmem
  · rwa [Token.fault.inj heq]
  · exact hs e' (hts hmem)

theorem sound_run (fuel : Nat) {s : Scanner} (hs : s.Sound) : ∀ e, .fault e ∈ s.run fuel → TokenFault e := by
  induction fuel generalizing s with
  | zero => exact hs.cons_fault .malformed (List.Subset.refl _)
  | succ fuel ih =>
      have hstep := keeps_step hs
      rw [run]
      cases hnext : s.step with
      | error e =>
          rw [hnext] at hstep
          exact hs.cons_fault hstep (List.drop_subset _ _)
      | ok next =>
          obtain ⟨s', ended⟩ := next
          rw [hnext] at hstep
          cases ended with
          | true => exact hstep
          | false => exact ih hstep

end Scanner

/-- The faults among the tokens of a text. -/
theorem tokenFault_of_mem {cs : List Char} {e : Error} (h : .fault e ∈ tokens cs) : TokenFault e := by
  have hstart : (Scanner.start cs).Sound := fun _ he => nomatch he
  exact Scanner.sound_run _ hstart e (List.mem_reverse.1 h)

end Workcell.Yaml
