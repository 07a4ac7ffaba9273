import Workcell.Failure
import Workcell.Text.Blank
import Workcell.Text.Digit
import Workcell.Text.Lower
import Workcell.Text.Split

namespace Workcell.Display

def styleAttributes : List (List String) := [
  ["bold", "b"], ["dim", "d"], ["italic", "i"], ["underline", "u"], ["blink"], ["blink2"],
  ["reverse", "r"], ["conceal", "c"], ["strike", "s"], ["underline2", "uu"], ["frame"], ["encircle"],
  ["overline", "o"]]

def colorNames : List String := [
  "black", "red", "green", "yellow", "blue", "magenta", "cyan", "white", "bright_black", "bright_red",
  "bright_green", "bright_yellow", "bright_blue", "bright_magenta", "bright_cyan", "bright_white",
  "grey0", "gray0", "navy_blue", "dark_blue", "blue3", "blue1", "dark_green", "deep_sky_blue4",
  "dodger_blue3", "dodger_blue2", "green4", "spring_green4", "turquoise4", "deep_sky_blue3",
  "dodger_blue1", "green3", "spring_green3", "dark_cyan", "light_sea_green", "deep_sky_blue2",
  "deep_sky_blue1", "spring_green2", "cyan3", "dark_turquoise", "turquoise2", "green1",
  "spring_green1", "medium_spring_green", "cyan2", "cyan1", "dark_red", "deep_pink4", "purple4",
  "purple3", "blue_violet", "orange4", "grey37", "gray37", "medium_purple4", "slate_blue3",
  "royal_blue1", "chartreuse4", "dark_sea_green4", "pale_turquoise4", "steel_blue", "steel_blue3",
  "cornflower_blue", "chartreuse3", "cadet_blue", "sky_blue3", "steel_blue1", "pale_green3",
  "sea_green3", "aquamarine3", "medium_turquoise", "chartreuse2", "sea_green2", "sea_green1",
  "aquamarine1", "dark_slate_gray2", "dark_magenta", "dark_violet", "purple", "light_pink4", "plum4",
  "medium_purple3", "slate_blue1", "yellow4", "wheat4", "grey53", "gray53", "light_slate_grey",
  "light_slate_gray", "medium_purple", "light_slate_blue", "dark_olive_green3", "dark_sea_green",
  "light_sky_blue3", "sky_blue2", "dark_sea_green3", "dark_slate_gray3", "sky_blue1", "chartreuse1",
  "light_green", "pale_green1", "dark_slate_gray1", "red3", "medium_violet_red", "magenta3",
  "dark_orange3", "indian_red", "hot_pink3", "medium_orchid3", "medium_orchid", "medium_purple2",
  "dark_goldenrod", "light_salmon3", "rosy_brown", "grey63", "gray63", "medium_purple1", "gold3",
  "dark_khaki", "navajo_white3", "grey69", "gray69", "light_steel_blue3", "light_steel_blue",
  "yellow3", "dark_sea_green2", "light_cyan3", "light_sky_blue1", "green_yellow", "dark_olive_green2",
  "dark_sea_green1", "pale_turquoise1", "deep_pink3", "magenta2", "hot_pink2", "orchid",
  "medium_orchid1", "orange3", "light_pink3", "pink3", "plum3", "violet", "light_goldenrod3", "tan",
  "misty_rose3", "thistle3", "plum2", "khaki3", "light_goldenrod2", "light_yellow3", "grey84",
  "gray84", "light_steel_blue1", "yellow2", "dark_olive_green1", "honeydew2", "light_cyan1", "red1",
  "deep_pink2", "deep_pink1", "magenta1", "orange_red1", "indian_red1", "hot_pink", "dark_orange",
  "salmon1", "light_coral", "pale_violet_red1", "orchid2", "orchid1", "orange1", "sandy_brown",
  "light_salmon1", "light_pink1", "pink1", "plum1", "gold1", "navajo_white1", "misty_rose1",
  "thistle1", "yellow1", "light_goldenrod1", "khaki1", "wheat1", "cornsilk1", "grey100", "gray100",
  "grey3", "gray3", "grey7", "gray7", "grey11", "gray11", "grey15", "gray15", "grey19", "gray19",
  "grey23", "gray23", "grey27", "gray27", "grey30", "gray30", "grey35", "gray35", "grey39", "gray39",
  "grey42", "gray42", "grey46", "gray46", "grey50", "gray50", "grey54", "gray54", "grey58", "gray58",
  "grey62", "gray62", "grey66", "gray66", "grey70", "gray70", "grey74", "gray74", "grey78", "gray78",
  "grey82", "gray82", "grey85", "gray85", "grey89", "gray89", "grey93", "gray93"]

/-- A style: the attributes that are set or cleared, the colours of text and ground, and a link. -/
structure Style where
  attributes : List (String × Bool)
  color : Option String
  ground : Option String
  link : Option String
  deriving DecidableEq, Repr

namespace Style

def plain : Style := ⟨[], none, none, none⟩

def attribute? (word : String) : Option String :=
  (styleAttributes.find? fun names => word ∈ names).bind List.head?

def isHexDigit (c : Char) : Bool := c.isDigit || ('a' ≤ c && c ≤ 'f')

def argument? (opening : String) (word : List Char) : Option (List Char) :=
  if opening.toList.isPrefixOf word && word.getLast? == some ')' then
    some (word.drop opening.length).dropLast
  else none

/-- Whether three numbers make a colour. A number that is missing or too long to be read is a fault of the
markup. -/
def isMixture (cs : List Char) : Except MarkupError Bool :=
  let components := Text.split ',' cs
  let isReadable := fun ds : List Char => ds ≠ [] && ds.length ≤ MarkupError.mostDigits
  if !(cs.all fun c => (Text.digit? c).isSome || c == ',') || components.length ≠ 3 then .ok false
  else match components.find? fun ds => !isReadable ds with
    | some ds => .error (.notNumber (String.ofList ds))
    | none => .ok (components.all fun ds => Text.ofDigits (ds.filterMap Text.digit?) ≤ 255)

def isColor (word : String) : Except MarkupError Bool :=
  if word == "default" || word ∈ colorNames then .ok true
  else match word.toList with
    | '#' :: digits => .ok (digits.length == 6 && digits.all isHexDigit)
    | cs => match argument? "color(" cs, argument? "rgb(" cs with
      | some n, _ => .ok (n ≠ [] && n.length ≤ 3 && n.all Char.isDigit &&
          Text.ofDigits (n.filterMap Text.asciiDigit?) ≤ 255)
      | none, some components => if components = [] then .ok false else isMixture components
      | none, none => .ok false

def set (s : Style) (name : String) (value : Bool) : Style :=
  { s with attributes := (name, value) :: s.attributes.filter (·.1 ≠ name) }

def ofWords? (s : Style) : List String → Except MarkupError (Option Style)
  | [] => .ok (some s)
  | [word] => ofWord s word
  | word :: next :: rest =>
    if Text.lowerText word == "on" then
      match isColor (Text.lowerText next) with
      | .error e => .error e
      | .ok true => ofWords? { s with ground := some (Text.lowerText next) } rest
      | .ok false => .ok none
    else if Text.lowerText word == "not" then
      match attribute? next with
      | some a => ofWords? (s.set a false) rest
      | none => .ok none
    else if Text.lowerText word == "link" then ofWords? { s with link := some next } rest
    else match ofWord s word with
      | .ok (some s) => ofWords? s (next :: rest)
      | fault => fault
where
  /-- A word that needs no other after it. -/
  ofWord (s : Style) (word : String) : Except MarkupError (Option Style) :=
    match attribute? (Text.lowerText word) with
    | some a => .ok (some (s.set a true))
    | none => (isColor (Text.lowerText word)).map fun color =>
      if color then some { s with color := some (Text.lowerText word) } else none

def text (s : Style) : String :=
  let attributes := styleAttributes.filterMap fun names => names.head?.bind fun name =>
    (s.attributes.lookup name).map fun value => if value then name else s!"not {name}"
  let words := attributes ++ s.color.toList ++ (s.ground.map fun c => s!"on {c}").toList ++
    (s.link.map fun l => s!"link {l}").toList
  if words = [] then "none" else " ".intercalate words

def wordsOf (cs : List Char) : List String :=
  ((Text.split ' ' (cs.map fun c => if Text.isSpacing c then ' ' else c)).filter (· ≠ [])).map
    String.ofList

/-- The style that a definition stands for, if it has a meaning. -/
def parse (definition : List Char) : Except MarkupError (Option Style) :=
  match wordsOf definition with
  | [] | ["none"] => .ok (some plain)
  | words => ofWords? plain words

/-- The normal form of the name of a style; a name without meaning is only put into lower case. -/
def normalize (name : List Char) : Except MarkupError (List Char) :=
  (parse name).map fun
    | some s => s.text.toList
    | none => Text.lower (Text.trim Text.isSpacing name)

end Style

end Workcell.Display
