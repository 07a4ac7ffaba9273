import Workcell.Display.Emoji
import Workcell.Display.Style
import Workcell.Failure

namespace Workcell.Display

def startsTag (c : Char) : Bool := ('a' ≤ c && c ≤ 'z') || c == '#' || c == '/' || c == '@'

/-- The inside of a tag, when the text after an opening bracket is one: it ends at the first closing
bracket, and no other bracket opens before. -/
def tagBody? : List Char → Option (List Char)
  | [] => none
  | c :: r =>
    if startsTag c then
      let body := r.takeWhile fun d => d ≠ ']' && d ≠ '['
      match r.dropWhile fun d => d ≠ ']' && d ≠ '[' with
      | ']' :: _ => some (c :: body)
      | _ => none
    else none

def tagAhead? (cs : List Char) : Option (Nat × List Char) :=
  match cs.dropWhile (· = '\\') with
  | '[' :: r => (tagBody? r).map fun body => ((cs.takeWhile (· = '\\')).length, body)
  | _ => none

/-- Doubles the backslashes before every tag and adds one, so that the tag is shown; a single backslash at
the end is doubled, since a tag may follow. -/
def escapeTags : (skip : Nat) → List Char → List Char
  | _, [] => []
  | skip + 1, c :: r => c :: escapeTags skip r
  | 0, c :: r =>
    match tagAhead? (c :: r) with
    | some (n, body) =>
      List.replicate (n + 1) '\\' ++ c :: escapeTags (n + body.length + 1) r
    | none => c :: escapeTags 0 r

def escape (cs : List Char) : List Char :=
  let escaped := escapeTags 0 cs
  match escaped.reverse with
  | '\\' :: '\\' :: _ => escaped
  | '\\' :: _ => escaped ++ ['\\']
  | _ => escaped

inductive Part
  | plain (cs : List Char)
  | tag (position : Nat) (body : List Char)
  deriving DecidableEq, Repr

/-- The parts of a tag with backslashes before it. Each pair of them stands for one; an odd one makes the
tag plain text. -/
def tagParts (position n : Nat) (body : List Char) : List Part :=
  (if n < 2 then [] else [.plain (List.replicate (n / 2) '\\')]) ++
    [if n % 2 = 1 then .plain ('[' :: body ++ [']']) else .tag (position + n) body]

def partsFrom (pending : List Char) : (position skip : Nat) → List Char → List Part
  | _, _, [] => if pending = [] then [] else [.plain pending.reverse]
  | position, skip + 1, _ :: r => partsFrom pending (position + 1) skip r
  | position, 0, c :: r =>
    match tagAhead? (c :: r) with
    | some (n, body) =>
      (if pending = [] then [] else [.plain pending.reverse]) ++ tagParts position n body ++
        partsFrom [] (position + 1) (n + body.length + 1) r
    | none => partsFrom (c :: pending) (position + 1) 0 r

/-- An opening bracket needs no backslash where no tag follows, and loses it there. -/
def dropBracketEscapes : List Char → List Char
  | '\\' :: '[' :: r => '[' :: dropBracketEscapes r
  | c :: r => c :: dropBracketEscapes r
  | [] => []

def isStripped (c : Char) : Bool :=
  c == '\x07' || c == '\x08' || c == '\x0b' || c == '\x0c' || c == '\x0d'

def shown (cs : List Char) : List Char := (Emoji.replace cs).filter fun c => !isStripped c

def tagName (body : List Char) : List Char := body.takeWhile (· ≠ '=')

def tagParameters (body : List Char) : List Char := (body.dropWhile (· ≠ '=')).tail

structure OpenTag where
  name : List Char
  parameters : List Char
  deriving DecidableEq, Repr

/-- Where texts are shown: how many cells a line has, and what is wrong with the parameters of a handler that have
no value. -/
structure Console where
  width : Nat
  parameterFault? : List Char → Option String

/-- What a tag does: it opens a style under a name, or closes one, the latest if it says no name. -/
inductive TagRole
  | opening (name : List Char)
  | closing (name : Option (List Char))

def roleOf (body : List Char) : Except MarkupError TagRole :=
  match tagName body with
  | '/' :: name =>
    if Text.trim Text.isSpacing name = [] then .ok (.closing none)
    else (Style.normalize (Text.trim Text.isSpacing name)).map fun name => .closing (some name)
  | name => (Style.normalize name).map .opening

def OpenTag.isClosedBy (name : Option (List Char)) (t : OpenTag) : Bool := name.all (t.name == ·)

/-- What is left open when a tag is closed. The parameters of a handler are evaluated at that. -/
def Console.closing (k : Console) (t : OpenTag) (opened : List OpenTag) : Except MarkupError (List OpenTag) :=
  if t.name.head? = some '@' ∧ t.parameters ≠ [] then
    match k.parameterFault? t.parameters with
    | some fault => .error (.badParameters fault)
    | none => .ok opened
  else .ok opened

def openAfter (k : Console) (opened : List OpenTag) (position : Nat) (body : List Char) :
    Except MarkupError (List OpenTag) :=
  match roleOf body with
  | .error e => .error e
  | .ok (.opening name) => .ok (⟨name, tagParameters body⟩ :: opened)
  | .ok (.closing name) => match opened.find? (·.isClosedBy name) with
    | some t => k.closing t (opened.eraseP (·.isClosedBy name))
    | none => .error (if name.isNone then .nothingToClose "[/]" position
      else .unmatched (String.ofList ('[' :: body ++ [']'])) position)

def showParts (k : Console) (opened : List OpenTag) : List Part → Except MarkupError (List Char)
  | [] => .ok []
  | .plain cs :: r => (showParts k opened r).map (shown (dropBracketEscapes cs) ++ ·)
  | .tag position body :: r => match openAfter k opened position body with
    | .error e => .error e
    | .ok opened => showParts k opened r

def render (k : Console) (cs : List Char) : Except MarkupError (List Char) :=
  if '[' ∈ cs then showParts k [] (partsFrom [] 0 0 cs) else .ok (shown cs)

/-- A stretch of shown text, and the definition of its style. -/
structure Span where
  start : Nat
  stop : Nat
  style : List Char
  deriving DecidableEq, Repr

/-- The name of a tag with its parameters is looked at as a style once more when text is put into it. -/
def OpenTag.span (t : OpenTag) (start stop : Nat) : Span := ⟨start, stop, t.name ++ ' ' :: t.parameters⟩

def Span.fault? (s : Span) : Option MarkupError :=
  match Style.parse s.style with
  | .error e => some e
  | .ok _ => none

/-- The spans of markup that can be shown, in the order in which they end; the first one is `length` characters
in. Without a closing tag a span goes on to the end. -/
def spansFrom : (length : Nat) → (opened : List (Nat × OpenTag)) → List Part → List Span
  | length, opened, [] => opened.map fun (start, t) => t.span start length
  | length, opened, .plain cs :: r => spansFrom (length + (shown (dropBracketEscapes cs)).length) opened r
  | length, opened, .tag _ body :: r => match roleOf body with
    | .error _ => []
    | .ok (.opening name) => spansFrom length ((length, ⟨name, tagParameters body⟩) :: opened) r
    | .ok (.closing name) =>
      ((opened.find? (·.2.isClosedBy name)).map fun (start, t) => t.span start length).toList ++
        spansFrom length (opened.eraseP (·.2.isClosedBy name)) r

/-- The spans of markup from left to right. -/
def spans (cs : List Char) : List Span :=
  if '[' ∈ cs then ((spansFrom 0 [] (partsFrom [] 0 0 cs)).reverse).mergeSort fun s t => s.start ≤ t.start else []

end Workcell.Display
