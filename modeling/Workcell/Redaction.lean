import Workcell.Pairs

namespace Workcell

/-- Replaces the occurrences of `src` from left to right, none overlapping the one before. The counter is
the number of characters that still belong to the occurrence replaced last. -/
def replaceFrom (src dst : List Char) : Nat → List Char → List Char
  | _, [] => []
  | k + 1, _ :: r => replaceFrom src dst k r
  | 0, c :: r =>
    if src.isPrefixOf (c :: r) then dst ++ replaceFrom src dst (src.length - 1) r
    else c :: replaceFrom src dst 0 r

def replaceAll (src dst cs : List Char) : List Char := replaceFrom src dst 0 cs

abbrev Replacement := String × String

/-- The replacements in the order in which they are made: longest source first, sources of equal length in
the order of the mapping. Empty sources are dropped. -/
def orderedRedactions (redactions : Pairs) : List Replacement :=
  (redactions.entries.filter fun p => p.1 ≠ "").mergeSort fun a b => b.1.length ≤ a.1.length

def redactChars (replacements : List Replacement) (cs : List Char) : List Char :=
  replacements.foldl (fun cs p => replaceAll p.1.toList p.2.toList cs) cs

def redact (replacements : List Replacement) (s : String) : String :=
  String.ofList (redactChars replacements s.toList)

end Workcell
