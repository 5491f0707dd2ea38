import EnvoySidecar.Numeral
import EnvoySidecar.Text.Words

/-! Names of styles. One style has several names: attributes have short forms, and their order makes
no difference. A name that denotes no style is only trimmed and put into lower case. -/

namespace EnvoySidecar.Console

open Text

namespace Style

def colorNames : String := "
black red green yellow blue magenta cyan white bright_black bright_red bright_green
bright_yellow bright_blue bright_magenta bright_cyan bright_white grey0 gray0 navy_blue
dark_blue blue3 blue1 dark_green deep_sky_blue4 dodger_blue3 dodger_blue2 green4 spring_green4
turquoise4 deep_sky_blue3 dodger_blue1 green3 spring_green3 dark_cyan light_sea_green
deep_sky_blue2 deep_sky_blue1 spring_green2 cyan3 dark_turquoise turquoise2 green1 spring_green1
medium_spring_green cyan2 cyan1 dark_red deep_pink4 purple4 purple3 blue_violet orange4 grey37
gray37 medium_purple4 slate_blue3 royal_blue1 chartreuse4 dark_sea_green4 pale_turquoise4
steel_blue steel_blue3 cornflower_blue chartreuse3 cadet_blue sky_blue3 steel_blue1 pale_green3
sea_green3 aquamarine3 medium_turquoise chartreuse2 sea_green2 sea_green1 aquamarine1
dark_slate_gray2 dark_magenta dark_violet purple light_pink4 plum4 medium_purple3 slate_blue1
yellow4 wheat4 grey53 gray53 light_slate_grey light_slate_gray medium_purple light_slate_blue
dark_olive_green3 dark_sea_green light_sky_blue3 sky_blue2 dark_sea_green3 dark_slate_gray3
sky_blue1 chartreuse1 light_green pale_green1 dark_slate_gray1 red3 medium_violet_red magenta3
dark_orange3 indian_red hot_pink3 medium_orchid3 medium_orchid medium_purple2 dark_goldenrod
light_salmon3 rosy_brown grey63 gray63 medium_purple1 gold3 dark_khaki navajo_white3 grey69
gray69 light_steel_blue3 light_steel_blue yellow3 dark_sea_green2 light_cyan3 light_sky_blue1
green_yellow dark_olive_green2 dark_sea_green1 pale_turquoise1 deep_pink3 magenta2 hot_pink2
orchid medium_orchid1 orange3 light_pink3 pink3 plum3 violet light_goldenrod3 tan misty_rose3
thistle3 plum2 khaki3 light_goldenrod2 light_yellow3 grey84 gray84 light_steel_blue1 yellow2
dark_olive_green1 honeydew2 light_cyan1 red1 deep_pink2 deep_pink1 magenta1 orange_red1
indian_red1 hot_pink dark_orange salmon1 light_coral pale_violet_red1 orchid2 orchid1 orange1
sandy_brown light_salmon1 light_pink1 pink1 plum1 gold1 navajo_white1 misty_rose1 thistle1
yellow1 light_goldenrod1 khaki1 wheat1 cornsilk1 grey100 gray100 grey3 gray3 grey7 gray7 grey11
gray11 grey15 gray15 grey19 gray19 grey23 gray23 grey27 gray27 grey30 gray30 grey35 gray35
grey39 gray39 grey42 gray42 grey46 gray46 grey50 gray50 grey54 gray54 grey58 gray58 grey62
gray62 grey66 gray66 grey70 gray70 grey74 gray74 grey78 gray78 grey82 gray82 grey85 gray85
grey89 gray89 grey93 gray93
"

def attributes : List (String × List String) :=
  [("bold", ["b"]), ("dim", ["d"]), ("italic", ["i"]), ("underline", ["u"]), ("blink", []),
    ("blink2", []), ("reverse", ["r"]), ("conceal", ["c"]), ("strike", ["s"]),
    ("underline2", ["uu"]), ("frame", []), ("encircle", []), ("overline", ["o"])]

def attribute? (word : String) : Option String :=
  (attributes.find? fun a => a.1 == word || a.2.contains word).map (·.1)

/-- Why a text denotes no style. A number that cannot be read is not the style's fault, and nothing
is put in its place. -/
inductive Fault where
  | unknown
  | number (fault : Numeral.Fault)
deriving DecidableEq, Repr

def argument? (name : String) (word : List Char) : Option (List Char) :=
  let opening := name.toList ++ ['(']
  if opening.isPrefixOf word && word.getLast? = some ')' then
    some ((word.drop opening.length).dropLast)
  else none

def maxComponent : Nat := 255

def isColor (word : List Char) : Bool :=
  word = "default".toList || (words colorNames.toList).contains word ||
    (match word with
      | '#' :: ds => ds.length = 6 && ds.all isHexDigit
      | _ => false) ||
    (argument? "color" word).any fun ds =>
      !ds.isEmpty && ds.length ≤ 3 && ds.all isDigit && ofDigits 10 ds ≤ maxComponent

def isComponentList (ds : List Char) : Bool :=
  !ds.isEmpty && ds.all fun c => c = ',' || (decimalValue? c).isSome

def mixture (ds : List Char) : Except Fault Unit := do
  let parts := (String.ofList ds).splitOn ","
  if parts.length ≠ 3 then throw .unknown
  let ns ← parts.mapM fun p => (Numeral.read 10 p.toList).mapError Fault.number
  if ns.all (· ≤ (maxComponent : Int)) then return () else throw .unknown

def checkColor (word : List Char) : Except Fault Unit :=
  if isColor word then .ok ()
  else
    match argument? "rgb" word with
    | some ds => if isComponentList ds then mixture ds else .error .unknown
    | none => .error .unknown

structure Definition where
  attributes : List (String × Bool) := []
  color : Option (List Char) := none
  background : Option (List Char) := none
  link : Option (List Char) := none

def Definition.set (d : Definition) (name : String) (on : Bool) : Definition :=
  { d with attributes := (name, on) :: d.attributes }

def Definition.word (d : Definition) (w : List Char) : Except Fault Definition :=
  match attribute? (String.ofList w) with
  | some a => .ok (d.set a true)
  | none => (checkColor w).map fun _ => { d with color := some w }

def Definition.phrase? (d : Definition) (w next : List Char) : Option (Except Fault Definition) :=
  match String.ofList w with
  | "on" => some ((checkColor (lower next)).map fun _ => { d with background := some (lower next) })
  | "not" =>
    some (match attribute? (String.ofList next) with
      | some a => .ok (d.set a false)
      | none => .error .unknown)
  | "link" => some (.ok { d with link := some next })
  | _ => none

def read : Definition → List (List Char) → Except Fault Definition
  | d, [] => .ok d
  | d, [w] => d.word (lower w)
  | d, w :: next :: rest =>
    match d.phrase? (lower w) next with
    | some made => made.bind fun d => read d rest
    | none => (d.word (lower w)).bind fun d => read d (next :: rest)

def Definition.name (d : Definition) : List Char :=
  let set := Style.attributes.filterMap fun a =>
    (d.attributes.find? fun e => e.1 == a.1).map fun e =>
      if e.2 then a.1.toList else "not ".toList ++ a.1.toList
  let color := d.color.toList
  let background := d.background.toList.flatMap fun b => ["on".toList, b]
  let link := d.link.toList.flatMap fun l => ["link".toList, l]
  let all := set ++ color ++ background ++ link
  if all.isEmpty then "none".toList else [' '].intercalate all

/-- One name for all that denote the same style. -/
def normalize (name : List Char) : Except Numeral.Fault (List Char) :=
  if trimWith isBlank name = "none".toList then .ok "none".toList
  else
    match read {} (words name) with
    | .ok d => .ok d.name
    | .error .unknown => .ok (lower (trimWith isBlank name))
    | .error (.number fault) => .error fault

end Style

end EnvoySidecar.Console
