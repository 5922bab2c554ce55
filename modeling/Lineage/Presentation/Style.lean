/-!
# Styles of terminal text

A style is switched on by a control sequence in front of a text and off by another one behind it.
Where a text itself switches its style off, the style around it is switched on again.
-/

namespace Lineage

/-- A colour of the terminal. -/
inductive Colour where
  | red
  | green
  | yellow
  | blue
  | cyan
deriving DecidableEq, Repr

/-- The code of a colour. -/
def Colour.code : Colour → String
  | .red => "31"
  | .green => "32"
  | .yellow => "33"
  | .blue => "34"
  | .cyan => "36"

/-- A way to show a text. -/
inductive Style where
  | bold
  | dimmed
  | colour (colour : Colour)
  | boldColour (colour : Colour)
deriving DecidableEq, Repr

namespace Style

/-- The codes of a style. -/
def code : Style → String
  | .bold => "1"
  | .dimmed => "2"
  | .colour hue => hue.code
  | .boldColour hue => "1;" ++ hue.code

/-- The sequence that switches a style on. -/
def opening (style : Style) : List Char :=
  '\x1b' :: '[' :: (style.code ++ "m").toList

/-- The sequence that switches all styles off. -/
def reset : List Char :=
  ['\x1b', '[', '0', 'm']

/-- The text with a style switched on again wherever it was switched off. -/
def reopen (opening : List Char) : List Char → List Char
  | '\x1b' :: '[' :: '0' :: 'm' :: rest => reset ++ opening ++ reopen opening rest
  | c :: rest => c :: reopen opening rest
  | [] => []

/-- The text in a style. -/
def apply (style : Style) (text : String) : String :=
  String.ofList (style.opening ++ reopen style.opening text.toList ++ reset)

end Style

/-- Whether texts are shown in styles. -/
structure Palette where
  styled : Bool

/-- The text as a palette shows it in a style. -/
def Palette.show (palette : Palette) (style : Style) (text : String) : String :=
  if palette.styled then style.apply text else text

end Lineage
