import Workcell.Text.Utf8
import Workcell.Yaml.ScalarText

namespace Workcell.Yaml

inductive Directive
  | version (major : Nat)
  | tag (handle expansion : String)
  | other
  deriving DecidableEq, Repr

inductive Token
  | directive (d : Directive)
  | documentStart
  | documentEnd
  | streamEnd
  | blockSequenceStart
  | blockMappingStart
  | blockEnd
  | flowSequenceStart
  | flowSequenceEnd
  | flowMappingStart
  | flowMappingEnd
  | blockEntry
  | flowEntry
  | key
  | value
  | alias (name : String)
  | anchor (name : String)
  | tag (handle : Option String) (suffix : String)
  | scalar (text : ScalarText) (plain : Bool)
  /-- The text cannot be cut any further. -/
  | fault (e : Error)
  deriving Repr

/-- A place where a key may have begun: the number of tokens before it, whether it must turn out to be a
key, and where it stands. -/
structure KeyCandidate where
  tokens : Nat
  required : Bool
  index : Nat
  line : Nat
  column : Nat
  deriving Repr

def longestKey : Nat := 1024

structure Scanner where
  cursor : Cursor
  /-- The tokens so far, latest first. -/
  tokens : List Token
  indent : Int
  indents : List Int
  flowLevel : Nat
  keyAllowed : Bool
  /-- The candidates by flow level. -/
  candidates : List (Nat × KeyCandidate)

namespace Scanner

abbrev Scan (α : Type) := Except Error α

def malformed {α : Type} : Scan α := .error .malformed

def start (cs : List Char) : Scanner := ⟨.start cs, [], -1, [], 0, true, []⟩

def inFlow (s : Scanner) : Bool := 0 < s.flowLevel

def push (s : Scanner) (t : Token) : Scanner := { s with tokens := t :: s.tokens }

def insertAt (s : Scanner) (n : Nat) (t : Token) : Scanner :=
  let later := s.tokens.length - n
  { s with tokens := s.tokens.take later ++ t :: s.tokens.drop later }

def advance (s : Scanner) (n : Nat) : Scanner := { s with cursor := s.cursor.forward n }

def unwind (column : Int) : (fuel : Nat) → Scanner → Scanner
  | 0, s => s
  | fuel + 1, s =>
    if s.inFlow ∨ s.indent ≤ column then s
    else
      unwind column fuel { s with
        tokens := .blockEnd :: s.tokens, indent := s.indents.headD (-1), indents := s.indents.drop 1 }

def unwindTo (column : Int) (s : Scanner) : Scanner := unwind column (s.indents.length + 1) s

def openBlock (s : Scanner) (column : Nat) (at? : Option Nat) (t : Token) : Scanner :=
  if s.indent < column then
    let s := { s with indent := column, indents := s.indent :: s.indents }
    match at? with
    | some n => s.insertAt n t
    | none => s.push t
  else s

def dropCandidate (s : Scanner) : Scan Scanner :=
  match s.candidates.lookup s.flowLevel with
  | some k =>
    if k.required then malformed
    else .ok { s with candidates := s.candidates.filter (·.1 ≠ s.flowLevel) }
  | none => .ok s

def isStale (s : Scanner) (k : KeyCandidate) : Bool :=
  k.line ≠ s.cursor.line || longestKey < s.cursor.index - k.index

def dropStale (s : Scanner) : Scan Scanner :=
  if s.candidates.any fun p => s.isStale p.2 && p.2.required then malformed
  else .ok { s with candidates := s.candidates.filter fun p => !s.isStale p.2 }

/-- The number of tokens that can be taken before another one is read: those before the first candidate. -/
def settled (s : Scanner) : Nat :=
  ((s.candidates.filter fun p => !s.isStale p.2).map fun p => p.2.tokens).foldl min s.tokens.length

def noteCandidate (s : Scanner) : Scan Scanner :=
  if s.keyAllowed then do
    let required := !s.inFlow && s.indent == s.cursor.column
    let s ← s.dropCandidate
    let k : KeyCandidate := ⟨s.tokens.length, required, s.cursor.index, s.cursor.line, s.cursor.column⟩
    pure { s with candidates := (s.flowLevel, k) :: s.candidates }
  else .ok s

def skipBetween : (fuel : Nat) → Scanner → Scanner
  | 0, s => s
  | fuel + 1, s =>
    let c := s.cursor.skipSpaces.skipComment
    match c.lineBreak? with
    | some (_, c) =>
      skipBetween fuel { s with cursor := c, keyAllowed := s.keyAllowed || !s.inFlow }
    | none => { s with cursor := c }

def skipMark (s : Scanner) : Scanner :=
  if s.cursor.index == 0 && s.cursor.peek 0 == some byteOrderMark then s.advance 1 else s

def isWordChar (c : Char) : Bool := c.isAlphanum || c == '-' || c == '_'

def name (c : Cursor) : Scan (String × Cursor) :=
  let (cs, c) := c.takeWhile isWordChar
  if cs = [] then malformed else .ok (String.ofList cs, c)

def digits (c : Cursor) : Scan (Nat × Cursor) :=
  let (cs, c) := c.takeWhile Char.isDigit
  if cs = [] then malformed else .ok ((String.ofList cs).toNat?.getD 0, c)

def tagHandle (c : Cursor) : Scan (String × Cursor) :=
  if c.peek 0 ≠ some '!' then malformed
  else
    let c := c.next
    if c.peek 0 = some ' ' then .ok ("!", c)
    else
      let (cs, c) := c.takeWhile isWordChar
      if c.peek 0 = some '!' then .ok (String.ofList ('!' :: cs ++ ['!']), c.next) else malformed

def isUriChar (c : Char) : Bool :=
  c.isAlphanum || c ∈ ['-', ';', '/', '?', ':', '@', '&', '=', '+', '$', ',', '_', '.', '!', '~', '*',
    '\'', '(', ')', '[', ']']

def uriEscapes : (fuel : Nat) → Cursor → Scan (List UInt8 × Cursor)
  | 0, _ => malformed
  | fuel + 1, c =>
    if c.peek 0 = some '%' then
      let hex := c.next.rest.take 2
      if hex.length = 2 ∧ hex.all Cursor.isHex then do
        let (bytes, c) ← uriEscapes fuel (c.forward 3)
        pure (UInt8.ofNat (Cursor.hexValue hex) :: bytes, c)
      else malformed
    else .ok ([], c)

def uriChars : (fuel : Nat) → Cursor → Scan (List Char × Cursor)
  | 0, _ => malformed
  | fuel + 1, c =>
    let (cs, c) := c.takeWhile isUriChar
    if c.peek 0 = some '%' then do
      let (bytes, c) ← uriEscapes (c.rest.length + 1) c
      match Utf8.decode bytes with
      | .ok decoded => do
        let (more, c) ← uriChars fuel c
        pure (cs ++ decoded ++ more, c)
      | .error _ => malformed
    else .ok (cs, c)

def uri (c : Cursor) : Scan (String × Cursor) := do
  let (cs, c) ← uriChars (c.rest.length + 1) c
  if cs = [] then malformed else pure (String.ofList cs, c)

def version (c : Cursor) : Scan (Directive × Cursor) := do
  let (major, c) ← digits c.skipSpaces
  if c.peek 0 ≠ some '.' then malformed
  else
    let (_, c) ← digits c.next
    if endsLineOrSpace (c.peek 0) then pure (.version major, c) else malformed

def tagDirective (c : Cursor) : Scan (Directive × Cursor) := do
  let (handle, c) ← tagHandle c.skipSpaces
  if c.peek 0 ≠ some ' ' then malformed
  else
    let (expansion, c) ← uri c.skipSpaces
    if endsLineOrSpace (c.peek 0) then pure (.tag handle expansion, c) else malformed

def directive (c : Cursor) : Scan (Directive × Cursor) := do
  let (word, c) ← name c.next
  if !endsLineOrSpace (c.peek 0) then malformed
  else
    let (d, c) ← match word with
      | "YAML" => version c
      | "TAG" => tagDirective c
      | _ => pure (Directive.other, c.skipWhile fun ch => !isBreak ch)
    match c.finishLine? with
    | some c => pure (d, c)
    | none => malformed

def anchorName (c : Cursor) : Scan (String × Cursor) := do
  let (n, c) ← name c.next
  let ended := endsWord (c.peek 0) ||
    (c.peek 0).any fun ch => ch ∈ ['?', ':', ',', ']', '}', '%', '@', '\x60']
  if ended then pure (n, c) else malformed

def hasHandle (c : Cursor) : Bool :=
  (c.next.rest.takeWhile fun ch => !(ch == ' ' || isBreak ch)).any (· == '!')

def tag (c : Cursor) : Scan (Token × Cursor) := do
  let (t, c) ← match c.peek 1 with
    | some '<' => do
      let (suffix, c) ← uri (c.forward 2)
      if c.peek 0 = some '>' then pure (Token.tag none suffix, c.next) else malformed
    | after =>
      if endsWord after then pure (Token.tag none "!", c.next)
      else if hasHandle c then do
        let (handle, c) ← tagHandle c
        let (suffix, c) ← uri c
        pure (Token.tag (some handle) suffix, c)
      else do
        let (suffix, c) ← uri c.next
        pure (Token.tag (some "!") suffix, c)
  if endsLineOrSpace (c.peek 0) then pure (t, c) else malformed

def documentMark (s : Scanner) (t : Token) : Scan Scanner := do
  let s ← (s.unwindTo (-1)).dropCandidate
  pure (({ s with keyAllowed := false }.advance 3).push t)

def openFlow (s : Scanner) (t : Token) : Scan Scanner := do
  let s ← s.noteCandidate
  pure (({ s with flowLevel := s.flowLevel + 1, keyAllowed := true }.advance 1).push t)

def closeFlow (s : Scanner) (t : Token) : Scan Scanner := do
  let s ← s.dropCandidate
  if s.flowLevel = 0 then malformed
  else pure (({ s with flowLevel := s.flowLevel - 1, keyAllowed := false }.advance 1).push t)

def flowEntry (s : Scanner) : Scan Scanner := do
  let s ← { s with keyAllowed := true }.dropCandidate
  pure ((s.advance 1).push .flowEntry)

def openBlockHere (s : Scanner) (t : Token) : Scan Scanner :=
  if s.inFlow then .ok s
  else if s.keyAllowed then .ok (s.openBlock s.cursor.column none t)
  else malformed

def blockEntry (s : Scanner) : Scan Scanner := do
  let s ← s.openBlockHere .blockSequenceStart
  let s ← { s with keyAllowed := true }.dropCandidate
  pure ((s.advance 1).push .blockEntry)

def explicitKey (s : Scanner) : Scan Scanner := do
  let s ← s.openBlockHere .blockMappingStart
  let s ← { s with keyAllowed := !s.inFlow }.dropCandidate
  pure ((s.advance 1).push .key)

/-- A colon makes a key of the candidate of its level. -/
def value (s : Scanner) : Scan Scanner := do
  let s ← match s.candidates.lookup s.flowLevel with
    | some k =>
      let s := { s with candidates := s.candidates.filter (·.1 ≠ s.flowLevel) }.insertAt k.tokens .key
      let s := if s.inFlow then s else s.openBlock k.column (some k.tokens) .blockMappingStart
      pure { s with keyAllowed := false }
    | none => do
      let s ← s.openBlockHere .blockMappingStart
      { s with keyAllowed := !s.inFlow }.dropCandidate
  pure ((s.advance 1).push .value)

def candidateToken (s : Scanner) (read : Cursor → Scan (Token × Cursor)) : Scan Scanner := do
  let s ← s.noteCandidate
  let (t, c) ← read s.cursor
  pure { s with cursor := c, keyAllowed := false, tokens := t :: s.tokens }

def blockScalar (s : Scanner) (fold : Bool) : Scan Scanner := do
  let s ← { s with keyAllowed := true }.dropCandidate
  let (text, c) ← s.cursor.block fold s.indent
  pure { s with cursor := c, tokens := .scalar ⟨text, false⟩ false :: s.tokens }

def quotedScalar (s : Scanner) (double : Bool) : Scan Scanner :=
  s.candidateToken fun c => do
    let (text, c) ← c.next.quoted double c.rest.length
    pure (.scalar text false, c)

def plainScalar (s : Scanner) : Scan Scanner := do
  let s ← s.noteCandidate
  let (text, keyAllowed, c) := s.cursor.plain s.inFlow (s.indent + 1) (s.cursor.rest.length + 1) [] false
  pure { s with cursor := c, keyAllowed := keyAllowed, tokens := .scalar ⟨text, false⟩ true :: s.tokens }

def indicators : List Char := ['-', '?', ':', ',', '[', ']', '{', '}', '#', '&', '*', '!', '|', '>', '\'',
  '"', '%', '@', '\x60']

def startsPlain (s : Scanner) (ch : Char) : Bool :=
  (!endsWord (some ch) && ch ∉ indicators) ||
    (!endsWord (s.cursor.peek 1) && (ch == '-' || (!s.inFlow && (ch == '?' || ch == ':'))))

def token (s : Scanner) (ch : Char) : Scan Scanner :=
  let c := s.cursor
  let wordEnds := endsWord (c.peek 1)
  if ch = '%' ∧ c.column = 0 then do
    let s ← (s.unwindTo (-1)).dropCandidate
    let (d, c) ← directive s.cursor
    pure { s with cursor := c, keyAllowed := false, tokens := .directive d :: s.tokens }
  else if c.column = 0 ∧ c.atDocumentMark then
    s.documentMark (if ch = '-' then .documentStart else .documentEnd)
  else if ch = '[' then s.openFlow .flowSequenceStart
  else if ch = '{' then s.openFlow .flowMappingStart
  else if ch = ']' then s.closeFlow .flowSequenceEnd
  else if ch = '}' then s.closeFlow .flowMappingEnd
  else if ch = ',' then s.flowEntry
  else if ch = '-' ∧ wordEnds then s.blockEntry
  else if ch = '?' ∧ (s.inFlow ∨ wordEnds) then s.explicitKey
  else if ch = ':' ∧ (s.inFlow ∨ wordEnds) then s.value
  else if ch = '*' then s.candidateToken fun c => (anchorName c).map fun (n, c) => (.alias n, c)
  else if ch = '&' then s.candidateToken fun c => (anchorName c).map fun (n, c) => (.anchor n, c)
  else if ch = '!' then s.candidateToken tag
  else if ch = '|' ∧ !s.inFlow then s.blockScalar false
  else if ch = '>' ∧ !s.inFlow then s.blockScalar true
  else if ch = '\'' then s.quotedScalar false
  else if ch = '"' then s.quotedScalar true
  else if s.startsPlain ch then s.plainScalar
  else malformed

/-- One step: what stands between tokens is dropped, collections are closed, and a token is read. -/
def step (s : Scanner) : Scan (Scanner × Bool) := do
  let s ← (s.skipMark.skipBetween (s.cursor.rest.length + 1)).dropStale
  let s := s.unwindTo s.cursor.column
  match s.cursor.peek 0 with
  | none => do
    let s ← (s.unwindTo (-1)).dropCandidate
    pure (s.push .streamEnd, true)
  | some ch => do
    let s ← s.token ch
    pure (s, false)

/-- All tokens, latest first; a fault ends them. It shows as soon as the next token is asked for that has to be read
ahead of. -/
def run : (fuel : Nat) → Scanner → List Token
  | 0, s => .fault .malformed :: s.tokens
  | fuel + 1, s => match s.step with
    | .error e => .fault e :: s.tokens.drop (s.tokens.length - s.settled)
    | .ok (s, true) => s.tokens
    | .ok (s, false) => run fuel s

end Scanner

def tokens (cs : List Char) : List Token := (Scanner.run (cs.length + 2) (.start cs)).reverse

end Workcell.Yaml
