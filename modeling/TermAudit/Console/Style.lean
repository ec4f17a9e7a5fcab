import TermAudit.Number.Reading
import TermAudit.Text.Case

/-!
# `TermAudit.Console.Style`: definitions of styles

A style is defined by words: attributes such as `bold`, `not bold`, a color, `on` and a color for
the ground, `link` and an address. `Style.parse` reads a definition. One style has many definitions;
`Style.normalForm` gives the same text for those of one style, and any text that is no definition
stands for itself in small letters.
-/

set_option autoImplicit false

namespace TermAudit

/-- How letters can look, in the order in which a normal form lists it. -/
inductive TextAttribute where
  | bold
  | dim
  | italic
  | underline
  | blink
  | fastBlink
  | reverse
  | conceal
  | strike
  | doubleUnderline
  | frame
  | encircle
  | overline
deriving DecidableEq

namespace TextAttribute

/-- All attributes. -/
def all : List TextAttribute :=
  [.bold, .dim, .italic, .underline, .blink, .fastBlink, .reverse, .conceal, .strike,
   .doubleUnderline, .frame, .encircle, .overline]

/-- The word for an attribute. -/
def word : TextAttribute → Text
  | .bold => "bold"
  | .dim => "dim"
  | .italic => "italic"
  | .underline => "underline"
  | .blink => "blink"
  | .fastBlink => "blink2"
  | .reverse => "reverse"
  | .conceal => "conceal"
  | .strike => "strike"
  | .doubleUnderline => "underline2"
  | .frame => "frame"
  | .encircle => "encircle"
  | .overline => "overline"

/-- The short word for an attribute, if it has one. -/
def shortWord? : TextAttribute → Option Text
  | .bold => some "b"
  | .dim => some "d"
  | .italic => some "i"
  | .underline => some "u"
  | .reverse => some "r"
  | .conceal => some "c"
  | .strike => some "s"
  | .doubleUnderline => some "uu"
  | .overline => some "o"
  | .blink | .fastBlink | .frame | .encircle => none

/-- The attribute that a word names. -/
def ofWord? (w : Text) : Option TextAttribute :=
  all.find? fun a => a.word = w || a.shortWord? = some w

end TextAttribute

/-- Why a text is no definition of a style. -/
inductive StyleError where
  /-- It is made of other words. -/
  | unknownWord
  /-- A part of a color is no number, which is not only no definition but stops the program. -/
  | unreadableNumber
deriving DecidableEq

/-- What a definition says. -/
structure Style where
  /-- The attributes that are on or off; the first entry of an attribute counts. -/
  attributes : List (TextAttribute × Bool)
  color : Option Text
  ground : Option Text
  link : Option Text
deriving DecidableEq

namespace Style

/-- The names of colors, apart by blanks. -/
def colorWords : String :=
  "black red green yellow blue magenta cyan white bright_black bright_red bright_green
bright_yellow bright_blue bright_magenta bright_cyan bright_white grey0 gray0 navy_blue
dark_blue blue3 blue1 dark_green deep_sky_blue4 dodger_blue3 dodger_blue2 green4 spring_green4
turquoise4 deep_sky_blue3 dodger_blue1 green3 spring_green3 dark_cyan light_sea_green
deep_sky_blue2 deep_sky_blue1 spring_green2 cyan3 dark_turquoise turquoise2 green1 spring_green1
medium_spring_green cyan2 cyan1 dark_red deep_pink4 purple4 purple3 blue_violet orange4 grey37
gray37 medium_purple4 slate_blue3 royal_blue1 chartreuse4 dark_sea_green4 pale_turquoise4
steel_blue steel_blue3 cornflower_blue chartreuse3 cadet_blue sky_blue3 steel_blue1 pale_green3
sea_green3 aquamarine3 medium_turquoise chartreuse2 sea_green2 sea_green1 aquamarine1
dark_slate_gray2 dark_magenta dark_violet purple light_pink4 plum4 medium_purple3 slate_blue1
yellow4 wheat4 grey53 gray53 light_slate_grey light_slate_gray medium_purple light_slate_blue
dark_olive_green3 dark_sea_green light_sky_blue3 sky_blue2 dark_sea_green3 dark_slate_gray3
sky_blue1 chartreuse1 light_green pale_green1 dark_slate_gray1 red3 medium_violet_red magenta3
dark_orange3 indian_red hot_pink3 medium_orchid3 medium_orchid medium_purple2 dark_goldenrod
light_salmon3 rosy_brown grey63 gray63 medium_purple1 gold3 dark_khaki navajo_white3 grey69
gray69 light_steel_blue3 light_steel_blue yellow3 dark_sea_green2 light_cyan3 light_sky_blue1
green_yellow dark_olive_green2 dark_sea_green1 pale_turquoise1 deep_pink3 magenta2 hot_pink2
orchid medium_orchid1 orange3 light_pink3 pink3 plum3 violet light_goldenrod3 tan misty_rose3
thistle3 plum2 khaki3 light_goldenrod2 light_yellow3 grey84 gray84 light_steel_blue1 yellow2
dark_olive_green1 honeydew2 light_cyan1 red1 deep_pink2 deep_pink1 magenta1 orange_red1
indian_red1 hot_pink dark_orange salmon1 light_coral pale_violet_red1 orchid2 orchid1 orange1
sandy_brown light_salmon1 light_pink1 pink1 plum1 gold1 navajo_white1 misty_rose1 thistle1
yellow1 light_goldenrod1 khaki1 wheat1 cornsilk1 grey100 gray100 grey3 gray3 grey7 gray7 grey11
gray11 grey15 gray15 grey19 gray19 grey23 gray23 grey27 gray27 grey30 gray30 grey35 gray35
grey39 gray39 grey42 gray42 grey46 gray46 grey50 gray50 grey54 gray54 grey58 gray58 grey62
gray62 grey66 gray66 grey70 gray70 grey74 gray74 grey78 gray78 grey82 gray82 grey85 gray85
grey89 gray89 grey93 gray93"

/-- The names of colors. -/
def colorNames : List Text :=
  (Text.ofString colorWords).words

/-- What is inside of `name(...)`. -/
def inParentheses? (name w : Text) : Option Text :=
  match w.dropStart? (name ++ ("(" : Text)) with
  | none => none
  | some rest => if rest.getLast? = some ')' then some rest.dropLast else none

/-- Whether the word, in small letters, is `#` and six hexadecimal digits. -/
def isHexColor (w : Text) : Bool :=
  match w with
  | c :: digits =>
    c = '#' && digits.length == 6
      && digits.all fun d => d.digitValue?.any (· < 16)
  | [] => false

/-- Whether the word is `color` and the number of a color of the palette in parentheses. -/
def isPaletteColor (w : Text) : Bool :=
  match inParentheses? "color" w with
  | some digits => digits.length ≤ 3 && (digits.digits? 10).any (· ≤ 255)
  | none => false

/-- Judges the word as `rgb` and three numbers in parentheses. -/
def checkMixedColor (w : Text) : Except StyleError Unit :=
  match inParentheses? "rgb" w with
  | none => .error .unknownWord
  | some inside =>
    let isPart (c : CodePoint) : Bool := c.digit?.isSome || c = ','
    let parts := inside.splitAll ','
    if inside.all isPart && parts.length == 3 then
      match parts.mapM (Text.toInt? 10) with
      | none => .error .unreadableNumber
      | some numbers => if numbers.all (· ≤ 255) then .ok () else .error .unknownWord
    else .error .unknownWord

/-- The name of the color that a word denotes. -/
def colorOf (w : Text) : Except StyleError Text :=
  let name := w.lower
  if name = Text.ofString "default" || colorNames.contains name || isHexColor name
      || isPaletteColor name then
    .ok name
  else (checkMixedColor name).map fun _ => name

/-- Adds what words say to a style. -/
def addWords (s : Style) : List Text → Except StyleError Style
  | [] => .ok s
  | w :: rest =>
    let word := w.lower
    if word = Text.ofString "on" then
      match rest with
      | [] => .error .unknownWord
      | next :: rest => do addWords { s with ground := some (← colorOf next) } rest
    else if word = Text.ofString "not" then
      match rest with
      | [] => .error .unknownWord
      | next :: rest =>
        match TextAttribute.ofWord? next with
        | some a => addWords { s with attributes := (a, false) :: s.attributes } rest
        | none => .error .unknownWord
    else if word = Text.ofString "link" then
      match rest with
      | [] => .error .unknownWord
      | next :: rest => addWords { s with link := some next } rest
    else
      match TextAttribute.ofWord? word with
      | some a => addWords { s with attributes := (a, true) :: s.attributes } rest
      | none => do addWords { s with color := some (← colorOf word) } rest

/-- The style that says nothing. -/
def plain : Style :=
  ⟨[], none, none, none⟩

/-- The style with a definition. -/
def parse (definition : Text) : Except StyleError Style :=
  if definition.strip = Text.ofString "none" then .ok plain else plain.addWords definition.words

/-- The words of a style in a fixed order. -/
def shownWords (s : Style) : List Text :=
  let attributes := TextAttribute.all.flatMap fun a =>
    match s.attributes.lookup a with
    | some true => [a.word]
    | some false => [Text.ofString "not", a.word]
    | none => []
  let ground := s.ground.toList.flatMap fun c => [Text.ofString "on", c]
  let link := s.link.toList.flatMap fun l => [Text.ofString "link", l]
  attributes ++ s.color.toList ++ ground ++ link

/-- The definition that stands for all definitions of the style. -/
def shown (s : Style) : Text :=
  match s.shownWords with
  | [] => "none"
  | ws => Text.joinWith " " ws

/-- The text that stands for all definitions of the style that the text defines. -/
def normalForm (definition : Text) : Except StyleError Text :=
  match parse definition with
  | .ok s => .ok s.shown
  | .error .unknownWord => .ok definition.strip.lower
  | .error .unreadableNumber => .error .unreadableNumber

end Style

end TermAudit
