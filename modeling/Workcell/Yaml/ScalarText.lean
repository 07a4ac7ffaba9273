import Workcell.Yaml.Cursor
import Workcell.Yaml.Error

namespace Workcell.Yaml

/-- The text of a scalar. `broken` tells that an escape gave half of a surrogate pair, which stands as
U+FFFD in the text. -/
structure ScalarText where
  chars : List Char
  broken : Bool
  deriving Repr

namespace Cursor

def isHex (c : Char) : Bool :=
  c.isDigit || ('a' ≤ c && c ≤ 'f') || ('A' ≤ c && c ≤ 'F')

def hexValue (cs : List Char) : Nat :=
  cs.foldl (fun n c => 16 * n +
    (if c.isDigit then c.toNat - 48 else if 'a' ≤ c then c.toNat - 87 else c.toNat - 55)) 0

def escapes : List (Char × Char) := [
  ('0', '\x00'), ('a', '\x07'), ('b', '\x08'), ('t', '\t'), ('\t', '\t'), ('n', '\n'), ('v', '\x0b'),
  ('f', '\x0c'), ('r', '\r'), ('e', '\x1b'), (' ', ' '), ('"', '"'), ('\\', '\\'), ('/', '/'),
  ('N', '\x85'), ('_', '\xa0'), ('L', '\u2028'), ('P', '\u2029')]

def escapeWidth? (c : Char) : Option Nat :=
  if c = 'x' then some 2 else if c = 'u' then some 4 else if c = 'U' then some 8 else none

def quotedBreaks : (fuel : Nat) → Cursor → Except Error (List Char × Cursor)
  | 0, _ => .error .malformed
  | fuel + 1, c =>
    if c.atDocumentMark then .error .malformed
    else
      let c := c.skipWhile fun ch => ch == ' ' || ch == '\t'
      match c.lineBreak? with
      | none => .ok ([], c)
      | some (ch, c) => (quotedBreaks fuel c).map fun (cs, c) => (ch :: cs, c)

def folded (first : Char) (breaks : List Char) : List Char :=
  if first ≠ '\n' then first :: breaks else if breaks = [] then [' '] else breaks

def quotedBlanks (c : Cursor) : Except Error (List Char × Cursor) :=
  let (blanks, c) := c.takeWhile fun ch => ch == ' ' || ch == '\t'
  match c.peek 0, c.lineBreak? with
  | none, _ => .error .malformed
  | _, some (first, c) =>
    (quotedBreaks (c.rest.length + 1) c).map fun (breaks, c) => (folded first breaks, c)
  | _, none => .ok (blanks, c)

def escape (c : Cursor) : Except Error (ScalarText × Cursor) :=
  let c := c.next
  match c.peek 0 with
  | none => .error .malformed
  | some ch =>
    match escapes.lookup ch, escapeWidth? ch with
    | some d, _ => .ok (⟨[d], false⟩, c.next)
    | none, some width =>
      let c := c.next
      let digits := c.rest.take width
      if digits.length = width ∧ digits.all isHex then
        let code := hexValue digits
        if 0x10FFFF < code then .error (.scalar (.notCharacter code))
        else if 0xD800 ≤ code ∧ code < 0xE000 then .ok (⟨['\ufffd'], true⟩, c.forward width)
        else .ok (⟨[Char.ofNat code], false⟩, c.forward width)
      else .error .malformed
    | none, none => match c.lineBreak? with
      | some (_, c) =>
        (quotedBreaks (c.rest.length + 1) c).map fun (breaks, c) => (⟨breaks, false⟩, c)
      | none => .error .malformed

def quoted (double : Bool) : (fuel : Nat) → Cursor → Except Error (ScalarText × Cursor)
  | 0, _ => .error .malformed
  | fuel + 1, c =>
    let continueWith (part : ScalarText) (c : Cursor) : Except Error (ScalarText × Cursor) :=
      (quoted double fuel c).map fun (t, c) => (⟨part.chars ++ t.chars, part.broken || t.broken⟩, c)
    match c.peek 0 with
    | none => .error .malformed
    | some ch =>
      if ch == '\'' && !double then
        if c.peek 1 == some '\'' then continueWith ⟨['\''], false⟩ (c.forward 2)
        else .ok (⟨[], false⟩, c.next)
      else if ch == '"' && double then .ok (⟨[], false⟩, c.next)
      else if ch == '\\' && double then
        match escape c with
        | .ok (part, c) => continueWith part c
        | .error e => .error e
      else if ch == ' ' || ch == '\t' || isBreak ch then
        match quotedBlanks c with
        | .ok (blanks, c) => continueWith ⟨blanks, false⟩ c
        | .error e => .error e
      else continueWith ⟨[ch], false⟩ c.next

def interruptsPlain (inFlow : Bool) (ch : Char) (after : Option Char) : Bool :=
  endsWord (some ch) ||
    (ch == ':' && (endsWord after || (inFlow && after.any fun d => d ∈ [',', '[', ']', '{', '}']))) ||
    (inFlow && ch ∈ [',', '?', '[', ']', '{', '}'])

def plainRun (inFlow : Bool) : List Char → Nat
  | [] => 0
  | ch :: r => if interruptsPlain inFlow ch r.head? then 0 else plainRun inFlow r + 1

/-- The line breaks after a line break in a plain scalar. The result is none where a document begins or
ends. -/
def plainBreaks : (fuel : Nat) → Cursor → Option (List Char) × Cursor
  | 0, c => (some [], c)
  | fuel + 1, c =>
    if c.peek 0 == some ' ' then plainBreaks fuel c.next
    else match c.lineBreak? with
      | none => (some [], c)
      | some (ch, c) =>
        if c.atDocumentMark then (none, c)
        else
          let (breaks, c) := plainBreaks fuel c
          (breaks.map (ch :: ·), c)

def plainBlanks (c : Cursor) : List Char × Bool × Cursor :=
  let (blanks, c) := c.takeWhile (· == ' ')
  match c.lineBreak? with
  | none => (blanks, false, c)
  | some (first, c) =>
    if c.atDocumentMark then ([], true, c)
    else match plainBreaks (c.rest.length + 1) c with
      | (none, c) => ([], true, c)
      | (some breaks, c) => (folded first breaks, true, c)

/-- A plain scalar that goes on after some blanks: its text, whether a key may stand after it, and the
place after it. -/
def plain (inFlow : Bool) (indent : Int) : (fuel : Nat) → (blanks : List Char) → (keyAllowed : Bool) →
    Cursor → List Char × Bool × Cursor
  | 0, _, keyAllowed, c => ([], keyAllowed, c)
  | fuel + 1, blanks, keyAllowed, c =>
    let length := plainRun inFlow c.rest
    if c.peek 0 == some '#' || length = 0 then ([], keyAllowed, c)
    else
      let part := blanks ++ c.rest.take length
      let (blanks, broke, c) := plainBlanks (c.forward length)
      if blanks = [] ∨ c.peek 0 = some '#' ∨ (!inFlow ∧ (c.column : Int) < indent) then (part, broke, c)
      else
        let (more, keyAllowed, c) := plain inFlow indent fuel blanks broke c
        (part ++ more, keyAllowed, c)

inductive Chomping
  | clip
  | strip
  | keep
  deriving DecidableEq, Repr

def chomping? : Option Char → Option Chomping
  | some '+' => some .keep
  | some '-' => some .strip
  | _ => none

def blockIndent (c : Cursor) : Except Error (Option Nat × Cursor) :=
  match c.peek 0 with
  | some ch =>
    if ch = '0' then .error .malformed
    else if ch.isDigit then .ok (some (ch.toNat - 48), c.next)
    else .ok (none, c)
  | none => .ok (none, c)

def blockHeader (c : Cursor) : Except Error (Chomping × Option Nat × Cursor) := do
  let (chomping, indent, c) ← match chomping? (c.peek 0) with
    | some k => do
      let (indent, c) ← blockIndent c.next
      pure (k, indent, c)
    | none => do
      let (indent, c) ← blockIndent c
      match indent.isSome, chomping? (c.peek 0) with
      | true, some k => pure (k, indent, c.next)
      | _, _ => pure (Chomping.clip, indent, c)
  if endsLineOrSpace (c.peek 0) then
    match c.finishLine? with
    | some c => pure (chomping, indent, c)
    | none => .error .malformed
  else .error .malformed

def blockLead : (fuel : Nat) → (deepest : Nat) → Cursor → List Char × Nat × Cursor
  | 0, deepest, c => ([], deepest, c)
  | fuel + 1, deepest, c =>
    if c.peek 0 == some ' ' then
      let c := c.next
      blockLead fuel (max deepest c.column) c
    else match c.lineBreak? with
      | some (ch, c) =>
        let (breaks, deepest, c) := blockLead fuel deepest c
        (ch :: breaks, deepest, c)
      | none => ([], deepest, c)

def indentTo (indent : Nat) (c : Cursor) : Cursor :=
  c.forward (min (indent - c.column) (c.rest.takeWhile (· == ' ')).length)

def blockBreaks (indent : Nat) : (fuel : Nat) → Cursor → List Char × Cursor
  | 0, c => ([], c)
  | fuel + 1, c =>
    let c := c.indentTo indent
    match c.lineBreak? with
    | some (ch, c) =>
      let (breaks, c) := blockBreaks indent fuel c
      (ch :: breaks, c)
    | none => ([], c)

def blockLines (fold : Bool) (indent : Nat) : (fuel : Nat) → (breaks : List Char) → (last : List Char) →
    Cursor → List Char × List Char × List Char × Cursor
  | 0, breaks, last, c => ([], last, breaks, c)
  | fuel + 1, breaks, last, c =>
    if c.column ≠ indent ∨ c.peek 0 = none then ([], last, breaks, c)
    else
      let blank (c : Cursor) : Bool := (c.peek 0).any fun ch => ch == ' ' || ch == '\t'
      let leading := !blank c
      let (text, c) := c.takeWhile fun ch => !isBreak ch
      let (last, c) := match c.lineBreak? with
        | some (ch, c) => ([ch], c)
        | none => ([], c)
      let text := breaks ++ text
      let (breaks, c) := blockBreaks indent (c.rest.length + 1) c
      if c.column = indent ∧ c.peek 0 ≠ none then
        let joint :=
          if fold && last == ['\n'] && leading && !blank c then if breaks = [] then [' '] else []
          else last
        let (more, last, breaks, c) := blockLines fold indent fuel breaks last c
        (text ++ joint ++ more, last, breaks, c)
      else (text, last, breaks, c)

def block (fold : Bool) (indent : Int) (c : Cursor) : Except Error (List Char × Cursor) := do
  let (chomping, given, c) ← blockHeader c.next
  let least := (max (indent + 1) 1).toNat
  let fuel := c.rest.length + 1
  let (breaks, width, c) := match given with
    | none =>
      let (breaks, deepest, c) := blockLead fuel 0 c
      (breaks, max least deepest, c)
    | some n =>
      let width := least + n - 1
      let (breaks, c) := blockBreaks width fuel c
      (breaks, width, c)
  let (text, last, breaks, c) := blockLines fold width fuel breaks [] c
  let tail := match chomping with
    | .strip => []
    | .clip => last
    | .keep => last ++ breaks
  .ok (text ++ tail, c)

end Cursor

end Workcell.Yaml
