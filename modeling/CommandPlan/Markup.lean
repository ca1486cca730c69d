/-! Colour markup in messages. A mark such as `!txtgrn!` names a text style and
a colour; it becomes a terminal escape, or nothing on a terminal without
colours. Marks are replaced one after another over the whole text, in the
order of `marks`, so a mark that only appears once an earlier one is gone is
replaced as well if its turn is still to come. -/
namespace CommandPlan.Markup

inductive Style where
  | regular
  | bold
  | underlined
deriving DecidableEq, Repr

namespace Style

def code : Style → String
  | regular => "txt"
  | bold => "bld"
  | underlined => "und"

/-- The terminal's number for the style. -/
def weight : Style → Char
  | regular => '0'
  | bold => '1'
  | underlined => '4'

def all : List Style := [regular, bold, underlined]

end Style

inductive Colour where
  | black
  | red
  | green
  | yellow
  | blue
  | purple
  | cyan
  | white
deriving DecidableEq, Repr

namespace Colour

def code : Colour → String
  | black => "blk"
  | red => "red"
  | green => "grn"
  | yellow => "ylw"
  | blue => "blu"
  | purple => "pur"
  | cyan => "cyn"
  | white => "wht"

/-- The terminal's number for the colour. -/
def index : Colour → Char
  | black => '0'
  | red => '1'
  | green => '2'
  | yellow => '3'
  | blue => '4'
  | purple => '5'
  | cyan => '6'
  | white => '7'

def all : List Colour := [black, red, green, yellow, blue, purple, cyan, white]

end Colour

inductive Mark where
  | reset
  | paint (style : Style) (colour : Colour)
deriving DecidableEq, Repr

namespace Mark

/-- How the mark is written in a message. -/
def text : Mark → List Char
  | reset => "!txtrst!".toList
  | paint style colour => ['!'] ++ style.code.toList ++ colour.code.toList ++ ['!']

/-- What a colour terminal receives in its place. -/
def escape : Mark → List Char
  | reset => ['\x1b', '[', '0', 'm']
  | paint style colour => ['\x1b', '[', style.weight, ';', '3', colour.index, 'm']

end Mark

/-- Every mark, in the order in which they are replaced. -/
def marks : List Mark :=
  .reset :: Style.all.flatMap fun style => Colour.all.map fun colour => .paint style colour

/-- Replaces the occurrences of a non-empty pattern from left to right; `skip`
counts the characters of the current occurrence that are still to be passed. -/
def replaceFrom (pattern replacement : List Char) (skip : Nat) : List Char → List Char
  | [] => []
  | c :: rest =>
    match skip with
    | skip + 1 => replaceFrom pattern replacement skip rest
    | 0 =>
      if pattern.isPrefixOf (c :: rest) then
        replacement ++ replaceFrom pattern replacement (pattern.length - 1) rest
      else c :: replaceFrom pattern replacement 0 rest

def replaceAll (pattern replacement text : List Char) : List Char :=
  replaceFrom pattern replacement 0 text

def replaceMark (enabled : Bool) (text : List Char) (mark : Mark) : List Char :=
  replaceAll mark.text (if enabled then mark.escape else []) text

/-- The text with its marks turned into escapes, or removed. -/
def replaceMarks (enabled : Bool) (text : List Char) : List Char :=
  marks.foldl (replaceMark enabled) text

def colorize (enabled : Bool) (text : String) : String :=
  String.ofList (replaceMarks enabled text.toList)

/-- A name painted in green, as messages show it. -/
def highlight (name : String) : String :=
  "!txtgrn!" ++ name ++ "!txtrst!"

end CommandPlan.Markup
