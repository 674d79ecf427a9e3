/-
# HookAudit.Terminal.Style — how a style is spelled.

A style names attributes, at most one colour and one background, and a link, in any order and with
short forms.  Two spellings of the same style have the same normal form, which is what decides
whether a closing tag belongs to an opening one.  A definition that is no style is its own normal
form, letter case and surrounding space aside.
-/
import HookAudit.Text.Blank
import HookAudit.Text.Case
import HookAudit.Text.Number

namespace HookAudit.Terminal

/-! ## Words of a style -/

/-- The attributes, in the order in which a normal form lists them. -/
def attributes : List Text :=
  ["bold", "dim", "italic", "underline", "blink", "blink2", "reverse", "conceal", "strike",
   "underline2", "frame", "encircle", "overline"]

/-- Short forms of attributes. -/
def shortAttributes : List (Text × Text) :=
  [("b", "bold"), ("d", "dim"), ("i", "italic"), ("u", "underline"), ("r", "reverse"),
   ("c", "conceal"), ("s", "strike"), ("uu", "underline2"), ("o", "overline")]

/-- The attribute that a word names. -/
def attribute? (word : Text) : Option Text :=
  if attributes.contains word then some word else shortAttributes.lookup word

/-- The colours with names. -/
def colorNames : List Text := Text.words <| Text.ofString
  "aquamarine1 aquamarine3 black blue blue1 blue3 blue_violet bright_black bright_blue
   bright_cyan bright_green bright_magenta bright_red bright_white bright_yellow cadet_blue
   chartreuse1 chartreuse2 chartreuse3 chartreuse4 cornflower_blue cornsilk1 cyan cyan1 cyan2
   cyan3 dark_blue dark_cyan dark_goldenrod dark_green dark_khaki dark_magenta
   dark_olive_green1 dark_olive_green2 dark_olive_green3 dark_orange dark_orange3 dark_red
   dark_sea_green dark_sea_green1 dark_sea_green2 dark_sea_green3 dark_sea_green4
   dark_slate_gray1 dark_slate_gray2 dark_slate_gray3 dark_turquoise dark_violet deep_pink1
   deep_pink2 deep_pink3 deep_pink4 deep_sky_blue1 deep_sky_blue2 deep_sky_blue3
   deep_sky_blue4 default dodger_blue1 dodger_blue2 dodger_blue3 gold1 gold3 gray0 gray100
   gray11 gray15 gray19 gray23 gray27 gray3 gray30 gray35 gray37 gray39 gray42 gray46 gray50
   gray53 gray54 gray58 gray62 gray63 gray66 gray69 gray7 gray70 gray74 gray78 gray82 gray84
   gray85 gray89 gray93 green green1 green3 green4 green_yellow grey0 grey100 grey11 grey15
   grey19 grey23 grey27 grey3 grey30 grey35 grey37 grey39 grey42 grey46 grey50 grey53 grey54
   grey58 grey62 grey63 grey66 grey69 grey7 grey70 grey74 grey78 grey82 grey84 grey85 grey89
   grey93 honeydew2 hot_pink hot_pink2 hot_pink3 indian_red indian_red1 khaki1 khaki3
   light_coral light_cyan1 light_cyan3 light_goldenrod1 light_goldenrod2 light_goldenrod3
   light_green light_pink1 light_pink3 light_pink4 light_salmon1 light_salmon3
   light_sea_green light_sky_blue1 light_sky_blue3 light_slate_blue light_slate_gray
   light_slate_grey light_steel_blue light_steel_blue1 light_steel_blue3 light_yellow3 magenta
   magenta1 magenta2 magenta3 medium_orchid medium_orchid1 medium_orchid3 medium_purple
   medium_purple1 medium_purple2 medium_purple3 medium_purple4 medium_spring_green
   medium_turquoise medium_violet_red misty_rose1 misty_rose3 navajo_white1 navajo_white3
   navy_blue orange1 orange3 orange4 orange_red1 orchid orchid1 orchid2 pale_green1
   pale_green3 pale_turquoise1 pale_turquoise4 pale_violet_red1 pink1 pink3 plum1 plum2 plum3
   plum4 purple purple3 purple4 red red1 red3 rosy_brown royal_blue1 salmon1 sandy_brown
   sea_green1 sea_green2 sea_green3 sky_blue1 sky_blue2 sky_blue3 slate_blue1 slate_blue3
   spring_green1 spring_green2 spring_green3 spring_green4 steel_blue steel_blue1 steel_blue3
   tan thistle1 thistle3 turquoise2 turquoise4 violet wheat1 wheat4 white yellow yellow1
   yellow2 yellow3 yellow4"

/-- What stands between a word with an opening bracket and a closing bracket. -/
def between? (opening word : Text) : Option Text :=
  if word.startsWith opening && word.endsWith (")" : Text) then
    some ((word.drop opening.length).dropLast)
  else none

/-- Whether a word is a colour: by name, by six hexadecimal digits, by its number or by the
amounts of red, green and blue. -/
def isColor (word : Text) : Bool :=
  colorNames.contains word ||
  (match word with
    | c :: digits => c.is '#' && digits.length == 6 && digits.all (·.hexDigit?.isSome)
    | [] => false) ||
  (match between? "color(" word with
    | some digits => digits.length ≤ 3 && digits.all CodePoint.isAsciiDigit
        && (match digits.toInt? with | some n => n ≤ 255 | none => false)
    | none => false) ||
  (match between? "rgb(" word with
    | some amounts =>
      let parts := amounts.splitOn ','
      parts.length == 3 && parts.all fun part =>
        part.all CodePoint.isDigit && (match part.toInt? with | some n => n ≤ 255 | none => false)
    | none => false)

/-! ## Definitions -/

/-- What a style says. -/
structure Style where
  /-- Attributes, each on or off; a later setting counts. -/
  settings : List (Text × Bool) := []
  color : Option Text := none
  background : Option Text := none
  link : Option Text := none

namespace Style

/-- Reads the words of a definition, two at a time where one needs the next. -/
def read : List Text → Style → Option Style
  | [], s => some s
  | [word], s =>
    let w := word.lower
    match attribute? w with
    | some a => some { s with settings := (a, true) :: s.settings }
    | none => if isColor w then some { s with color := some w } else none
  | word :: next :: rest, s =>
    let w := word.lower
    if w == ("on" : Text) then
      if isColor next.lower then read rest { s with background := some next.lower } else none
    else if w == ("not" : Text) then
      match attribute? next with
      | some a => read rest { s with settings := (a, false) :: s.settings }
      | none => none
    else if w == ("link" : Text) then read rest { s with link := some next }
    else match attribute? w with
      | some a => read (next :: rest) { s with settings := (a, true) :: s.settings }
      | none =>
        if isColor w then read (next :: rest) { s with color := some w } else none

/-- The words of a style in normal order. -/
def words (s : Style) : List Text :=
  attributes.flatMap (fun a => match s.settings.lookup a with
    | some true => [a]
    | some false => ["not", a]
    | none => []) ++
  s.color.toList ++
  (match s.background with
    | some color => ["on", color]
    | none => []) ++
  (match s.link with
    | some target => ["link", target]
    | none => [])

/-- The normal form of a definition. -/
def normalize (definition : Text) : Text :=
  let none? : Text := "none"
  if definition.strip == none? then none?
  else match read (Text.words definition) {} with
    | some s => if s.words.isEmpty then none? else Text.join " " s.words
    | none => definition.strip.lower

end Style

end HookAudit.Terminal
