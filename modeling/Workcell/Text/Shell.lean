namespace Workcell.Text

def isShellSafe (c : Char) : Bool :=
  c.isAlphanum || c ∈ ['@', '%', '+', '=', ':', ',', '.', '/', '-', '_']

/-- A word as a shell reads it back. -/
def shellWord (cs : List Char) : List Char :=
  if cs ≠ [] ∧ cs.all isShellSafe then cs
  else '\'' :: (cs.flatMap fun c => if c = '\'' then ['\'', '"', '\'', '"', '\''] else [c]) ++ ['\'']

def shellJoin (words : List String) : String :=
  " ".intercalate (words.map fun w => String.ofList (shellWord w.toList))

end Workcell.Text
