import Concierge.Number.Reading
import Concierge.Text.Lower

/-!
# Styles

A style is written as words: attributes, which `not` switches off, colours, of which one behind `on`
is that of the background, and a link. Two spellings name one style when their normal forms agree,
which list the parts in a fixed order. Words that make no style are a name of their own.
-/

namespace Concierge.Console

/-- The attributes of a style, in the order in which a normal form lists them. -/
def attributeNames : List (List Char) :=
  ["bold", "dim", "italic", "underline", "blink", "blink2", "reverse", "conceal", "strike",
   "underline2", "frame", "encircle", "overline"].map String.toList

/-- The short names of attributes. -/
def shortAttributes : List (List Char × List Char) :=
  [("b", "bold"), ("d", "dim"), ("i", "italic"), ("u", "underline"), ("r", "reverse"),
   ("c", "conceal"), ("s", "strike"), ("uu", "underline2"), ("o", "overline")].map
    fun (short, name) => (short.toList, name.toList)

/-- The attribute that a word names. -/
def attribute? (word : List Char) : Option (List Char) :=
  if attributeNames.contains word then some word else shortAttributes.lookup word

/-- The names of colours, several in a row. -/
def colourRows : List String :=
  ["black red green yellow blue magenta cyan white bright_black bright_red bright_green",
   "bright_yellow bright_blue bright_magenta bright_cyan bright_white grey0 gray0 navy_blue",
   "dark_blue blue3 blue1 dark_green deep_sky_blue4 dodger_blue3 dodger_blue2 green4",
   "spring_green4 turquoise4 deep_sky_blue3 dodger_blue1 green3 spring_green3 dark_cyan",
   "light_sea_green deep_sky_blue2 deep_sky_blue1 spring_green2 cyan3 dark_turquoise turquoise2",
   "green1 spring_green1 medium_spring_green cyan2 cyan1 dark_red deep_pink4 purple4 purple3",
   "blue_violet orange4 grey37 gray37 medium_purple4 slate_blue3 royal_blue1 chartreuse4",
   "dark_sea_green4 pale_turquoise4 steel_blue steel_blue3 cornflower_blue chartreuse3",
   "cadet_blue sky_blue3 steel_blue1 pale_green3 sea_green3 aquamarine3 medium_turquoise",
   "chartreuse2 sea_green2 sea_green1 aquamarine1 dark_slate_gray2 dark_magenta dark_violet",
   "purple light_pink4 plum4 medium_purple3 slate_blue1 yellow4 wheat4 grey53 gray53",
   "light_slate_grey light_slate_gray medium_purple light_slate_blue dark_olive_green3",
   "dark_sea_green light_sky_blue3 sky_blue2 dark_sea_green3 dark_slate_gray3 sky_blue1",
   "chartreuse1 light_green pale_green1 dark_slate_gray1 red3 medium_violet_red magenta3",
   "dark_orange3 indian_red hot_pink3 medium_orchid3 medium_orchid medium_purple2 dark_goldenrod",
   "light_salmon3 rosy_brown grey63 gray63 medium_purple1 gold3 dark_khaki navajo_white3 grey69",
   "gray69 light_steel_blue3 light_steel_blue yellow3 dark_sea_green2 light_cyan3",
   "light_sky_blue1 green_yellow dark_olive_green2 dark_sea_green1 pale_turquoise1 deep_pink3",
   "magenta2 hot_pink2 orchid medium_orchid1 orange3 light_pink3 pink3 plum3 violet",
   "light_goldenrod3 tan misty_rose3 thistle3 plum2 khaki3 light_goldenrod2 light_yellow3 grey84",
   "gray84 light_steel_blue1 yellow2 dark_olive_green1 honeydew2 light_cyan1 red1 deep_pink2",
   "deep_pink1 magenta1 orange_red1 indian_red1 hot_pink dark_orange salmon1 light_coral",
   "pale_violet_red1 orchid2 orchid1 orange1 sandy_brown light_salmon1 light_pink1 pink1 plum1",
   "gold1 navajo_white1 misty_rose1 thistle1 yellow1 light_goldenrod1 khaki1 wheat1 cornsilk1",
   "grey100 gray100 grey3 gray3 grey7 gray7 grey11 gray11 grey15 gray15 grey19 gray19 grey23",
   "gray23 grey27 gray27 grey30 gray30 grey35 gray35 grey39 gray39 grey42 gray42 grey46 gray46",
   "grey50 gray50 grey54 gray54 grey58 gray58 grey62 gray62 grey66 gray66 grey70 gray70 grey74",
   "gray74 grey78 gray78 grey82 gray82 grey85 gray85 grey89 gray89 grey93 gray93"]

/-- The names of colours. -/
def colourNames : List (List Char) :=
  ['d', 'e', 'f', 'a', 'u', 'l', 't'] :: colourRows.flatMap fun row => Text.words row.toList

/-- A small hexadecimal digit. -/
def isSmallHex (c : Char) : Bool := ('0' ≤ c && c ≤ '9') || ('a' ≤ c && c ≤ 'f')

/-- What stands in the parentheses behind a word, when the text is such a call. -/
def argumentsOf? (word : String) (cs : List Char) : Option (List Char) :=
  let opening := word.toList ++ ['(']
  if opening.isPrefixOf cs && cs.getLast? == some ')' then some ((cs.drop opening.length).dropLast)
  else none

/-- The text is the number of one of the 256 colours of a terminal. -/
def isColourNumber (cs : List Char) : Bool :=
  !cs.isEmpty && cs.length ≤ 3 && cs.all (fun c => '0' ≤ c && c ≤ '9') &&
    Reading.ofDigits (cs.map fun c => c.toNat - '0'.toNat) ≤ 255

/-- The text holds the three components of a colour, each at most 255. A component that is no number
is an error. -/
def areComponents (cs : List Char) : Except NumberError Bool :=
  if !cs.isEmpty && cs.all (fun c => c == ',' || Text.isDigit c) then
    match Text.split (· == ',') cs with
    | [red, green, blue] => do
      let ns ← [red, green, blue].mapM fun part => Reading.integer (String.ofList part)
      return ns.all (· ≤ 255)
    | _ => .ok false
  else .ok false

/-- The colour that a word names, in small letters. -/
def colour? (word : List Char) : Except NumberError (Option (List Char)) := do
  let word := Text.strip (Text.small word)
  if colourNames.contains word then return some word
  match word with
  | '#' :: digits => return if digits.length == 6 && digits.all isSmallHex then some word else none
  | _ =>
    match argumentsOf? "color" word, argumentsOf? "rgb" word with
    | some number, _ => return if isColourNumber number then some word else none
    | none, some components => return if ← areComponents components then some word else none
    | none, none => return none

/-- The parts of a style. -/
structure Style where
  /-- The attributes that are switched on or off; of one name the last counts. -/
  attributes : List (List Char × Bool) := []
  colour : Option (List Char) := none
  background : Option (List Char) := none
  link : Option (List Char) := none

namespace Style

/-- Reads the words of a style; nothing when one of them has no meaning. -/
def ofWords (s : Style) : List (List Char) → Except NumberError (Option Style)
  | [] => .ok (some s)
  | word :: rest =>
    let small := Text.small word
    if small == "on".toList then
      match rest with
      | [] => .ok none
      | name :: rest => do
        match ← colour? name with
        | some c => ofWords { s with background := some c } rest
        | none => return none
    else if small == "not".toList then
      match rest with
      | [] => .ok none
      | name :: rest =>
        match attribute? name with
        | some a => ofWords { s with attributes := (a, false) :: s.attributes } rest
        | none => .ok none
    else if small == "link".toList then
      match rest with
      | [] => .ok none
      | link :: rest => ofWords { s with link := some link } rest
    else
      match attribute? small with
      | some a => ofWords { s with attributes := (a, true) :: s.attributes } rest
      | none => do
        match ← colour? small with
        | some c => ofWords { s with colour := some c } rest
        | none => return none

/-- The words of the normal form. -/
def words (s : Style) : List (List Char) :=
  let attributes := attributeNames.filterMap fun a =>
    (s.attributes.lookup a).map fun on => if on then a else "not ".toList ++ a
  attributes ++ s.colour.toList ++ (s.background.map fun c => "on ".toList ++ c).toList ++
    (s.link.map fun l => "link ".toList ++ l).toList

/-- The normal form of a style. -/
def normal (s : Style) : List Char :=
  if s.words.isEmpty then "none".toList else List.intercalate [' '] s.words

/-- The normal form of the words of a style; that of other words are their small letters. -/
def normalized (cs : List Char) : Except NumberError (List Char) := do
  if Text.strip cs == "none".toList then return "none".toList
  match ← ofWords {} (Text.words cs) with
  | some s => return s.normal
  | none => return Text.small (Text.strip cs)

end Style

end Concierge.Console
