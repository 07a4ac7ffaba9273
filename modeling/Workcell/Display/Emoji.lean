import Workcell.Display.EmojiNames
import Workcell.Text.Blank
import Workcell.Text.Lower
import Workcell.Text.Split

namespace Workcell.Display.Emoji

def ofHex (digits : List Char) : Nat :=
  digits.foldl (fun n c => 16 * n + (if c.isDigit then c.toNat - 48 else c.toNat - 87)) 0

def entry? (cs : List Char) : Option (List Char × List Char) :=
  (Text.cutFirst '=' cs).map fun (name, codes) =>
    (name, (Text.split '-' codes).map fun code => Char.ofNat (ofHex code))

def table : List (List Char × List Char) :=
  (Text.split '\n' emojiNames.toList).flatMap fun line => (Text.split ' ' line).filterMap entry?

def splitForm (name : List Char) : List Char × List Char :=
  if name.reverse.take 6 = "-emoji".toList.reverse then (name.take (name.length - 6), ['\ufe0f'])
  else if name.reverse.take 5 = "-text".toList.reverse then (name.take (name.length - 5), ['\ufe0e'])
  else (name, [])

def named? (name : List Char) : Option (List Char) :=
  let (base, selector) := splitForm name
  (table.lookup (Text.lower base)).map (· ++ selector)

def nameAhead? (cs : List Char) : Option (List Char) :=
  let name := cs.takeWhile fun c => c ≠ ':' && !Text.isSpacing c
  match cs.dropWhile fun c => c ≠ ':' && !Text.isSpacing c with
  | ':' :: _ => some name
  | _ => none

/-- Replaces names between colons from left to right. Words between colons that are no name stay, and
their second colon begins no name. -/
def replaceFrom : (skip : Nat) → List Char → List Char
  | _, [] => []
  | skip + 1, _ :: r => replaceFrom skip r
  | 0, c :: r =>
    if c = ':' then match nameAhead? r with
      | some name =>
        ((named? name).getD (':' :: name ++ [':'])) ++ replaceFrom (name.length + 1) r
      | none => c :: replaceFrom 0 r
    else c :: replaceFrom 0 r

def replace (cs : List Char) : List Char := replaceFrom 0 cs

end Workcell.Display.Emoji
