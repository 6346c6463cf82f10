import CommandGrammar.Text.Case
import CommandGrammar.Text.Digits

/-!
Styles written in words: attributes, a color, a background after "on" and a link after "link". Words
in another order may come to the same style, which has one canonical text.
-/

namespace CommandGrammar

/-! ### Colors -/

/-- Why a word is no color. -/
inductive ColorError where
  | unknown (word : String)
  /-- The number of a color is too high. -/
  | number (word : String)
  /-- There are not three components. -/
  | components (word : String)
  /-- A component is too high. -/
  | component (word : String)
  /-- A component is no integer. -/
  | integer (e : Text.IntegerError)
deriving DecidableEq, Repr

namespace ColorError

/-- What is wrong, in words. -/
def message : ColorError → String
  | unknown word => Text.quoted word ++ " is not a valid color"
  | number word => "color number must be <= 255 in " ++ Text.quoted word
  | components word => "expected three components in " ++ Text.quoted word
  | component word => "color components must be <= 255 in " ++ Text.quoted word
  | integer e => e.message

end ColorError

namespace Color

/-- The names of colors. -/
def names : List String := Text.blankSeparated "
  aquamarine1 aquamarine3 black blue blue1 blue3 blue_violet bright_black bright_blue bright_cyan
  bright_green bright_magenta bright_red bright_white bright_yellow cadet_blue chartreuse1
  chartreuse2 chartreuse3 chartreuse4 cornflower_blue cornsilk1 cyan cyan1 cyan2 cyan3 dark_blue
  dark_cyan dark_goldenrod dark_green dark_khaki dark_magenta dark_olive_green1 dark_olive_green2
  dark_olive_green3 dark_orange dark_orange3 dark_red dark_sea_green dark_sea_green1 dark_sea_green2
  dark_sea_green3 dark_sea_green4 dark_slate_gray1 dark_slate_gray2 dark_slate_gray3 dark_turquoise
  dark_violet deep_pink1 deep_pink2 deep_pink3 deep_pink4 deep_sky_blue1 deep_sky_blue2
  deep_sky_blue3 deep_sky_blue4 dodger_blue1 dodger_blue2 dodger_blue3 gold1 gold3 gray0 gray100
  gray11 gray15 gray19 gray23 gray27 gray3 gray30 gray35 gray37 gray39 gray42 gray46 gray50 gray53
  gray54 gray58 gray62 gray63 gray66 gray69 gray7 gray70 gray74 gray78 gray82 gray84 gray85 gray89
  gray93 green green1 green3 green4 green_yellow grey0 grey100 grey11 grey15 grey19 grey23 grey27
  grey3 grey30 grey35 grey37 grey39 grey42 grey46 grey50 grey53 grey54 grey58 grey62 grey63 grey66
  grey69 grey7 grey70 grey74 grey78 grey82 grey84 grey85 grey89 grey93 honeydew2 hot_pink hot_pink2
  hot_pink3 indian_red indian_red1 khaki1 khaki3 light_coral light_cyan1 light_cyan3
  light_goldenrod1 light_goldenrod2 light_goldenrod3 light_green light_pink1 light_pink3 light_pink4
  light_salmon1 light_salmon3 light_sea_green light_sky_blue1 light_sky_blue3 light_slate_blue
  light_slate_gray light_slate_grey light_steel_blue light_steel_blue1 light_steel_blue3
  light_yellow3 magenta magenta1 magenta2 magenta3 medium_orchid medium_orchid1 medium_orchid3
  medium_purple medium_purple1 medium_purple2 medium_purple3 medium_purple4 medium_spring_green
  medium_turquoise medium_violet_red misty_rose1 misty_rose3 navajo_white1 navajo_white3 navy_blue
  orange1 orange3 orange4 orange_red1 orchid orchid1 orchid2 pale_green1 pale_green3 pale_turquoise1
  pale_turquoise4 pale_violet_red1 pink1 pink3 plum1 plum2 plum3 plum4 purple purple3 purple4 red
  red1 red3 rosy_brown royal_blue1 salmon1 sandy_brown sea_green1 sea_green2 sea_green3 sky_blue1
  sky_blue2 sky_blue3 slate_blue1 slate_blue3 spring_green1 spring_green2 spring_green3
  spring_green4 steel_blue steel_blue1 steel_blue3 tan thistle1 thistle3 turquoise2 turquoise4
  violet wheat1 wheat4 white yellow yellow1 yellow2 yellow3 yellow4"

/-- What stands between an opening and a closing text. -/
def between? (opening closing : String) (cs : List Char) : Option (List Char) :=
  if opening.toList.isPrefixOf cs then
    let rest := cs.drop opening.length
    if closing.toList.isSuffixOf rest then some (rest.take (rest.length - closing.length)) else none
  else none

/-- The characters are six hexadecimal digits. -/
def isHex (cs : List Char) : Bool :=
  cs.length == 6 && cs.all fun c => c.isDigit || ('a' ≤ c && c ≤ 'f')

/-- The number of a color, of one to three digits. -/
def number? (cs : List Char) : Option Nat :=
  if 1 ≤ cs.length && cs.length ≤ 3 && cs.all Char.isDigit then (String.ofList cs).toNat? else none

/-- The components of a color, if the characters look like some. -/
def components? (cs : List Char) : Option (List String) :=
  if !cs.isEmpty && cs.all fun c => (Text.digit? c).isSome || c == ',' then
    some ((String.ofList cs).splitOn ",")
  else none

/-- Checks the three components of a color. -/
def checkComponents (word : String) (components : List String) : Except ColorError Unit := do
  if components.length ≠ 3 then throw (.components word)
  let values ← components.mapM fun s => (Text.readInteger s).mapError .integer
  unless values.all (· ≤ 255) do throw (.component word)

/-- The color that a word stands for, as its name: a name of the list, or a color by its
hexadecimal digits, its number or its components. -/
def parse (word : String) : Except ColorError String := do
  let name := Text.lower word
  let cs := name.toList
  if name == "default" || names.contains name then return name
  if ((between? "#" "" cs).map isHex).getD false then return name
  if let some n := (between? "color(" ")" cs).bind number? then
    if 255 < n then throw (.number name)
    return name
  if let some components := (between? "rgb(" ")" cs).bind components? then
    checkComponents word components
    return name
  throw (.unknown word)

end Color

/-! ### Attributes -/

/-- What a style may turn on or off. -/
inductive Attribute where
  | bold
  | dim
  | italic
  | underline
  | blink
  | blink2
  | reverse
  | conceal
  | strike
  | underline2
  | frame
  | encircle
  | overline
deriving DecidableEq, Repr

namespace Attribute

/-- The attributes, in the order of the canonical text. -/
def all : List Attribute :=
  [bold, dim, italic, underline, blink, blink2, reverse, conceal, strike, underline2, frame,
    encircle, overline]

/-- The attribute's name. -/
def name : Attribute → String
  | bold => "bold"
  | dim => "dim"
  | italic => "italic"
  | underline => "underline"
  | blink => "blink"
  | blink2 => "blink2"
  | reverse => "reverse"
  | conceal => "conceal"
  | strike => "strike"
  | underline2 => "underline2"
  | frame => "frame"
  | encircle => "encircle"
  | overline => "overline"

/-- The attribute's short name, if it has one. -/
def shortName? : Attribute → Option String
  | bold => some "b"
  | dim => some "d"
  | italic => some "i"
  | underline => some "u"
  | reverse => some "r"
  | conceal => some "c"
  | strike => some "s"
  | underline2 => some "uu"
  | overline => some "o"
  | blink | blink2 | frame | encircle => none

/-- The attribute of that name. -/
def ofWord? (word : String) : Option Attribute :=
  all.find? fun a => a.name == word || a.shortName? == some word

end Attribute

/-! ### Styles -/

/-- A style: attributes that are turned on or off, the last one first, colors and a link. -/
structure Style where
  attributes : List (Attribute × Bool) := []
  color : Option String := none
  background : Option String := none
  link : Option String := none
deriving DecidableEq, Repr

/-- Why words are no style. -/
inductive StyleError where
  | noBackground
  | background (word : String) (e : ColorError)
  | color (word : String) (e : ColorError)
  | negated (word : String)
  | noLink
deriving DecidableEq, Repr

namespace StyleError

/-- What is wrong, in words. -/
def message : StyleError → String
  | noBackground => "color expected after 'on'"
  | background word e =>
    "unable to parse " ++ Text.quoted word ++ " as background color; " ++ e.message
  | color word e => "unable to parse " ++ Text.quoted word ++ " as color; " ++ e.message
  | negated word => "expected style attribute after 'not', found " ++ Text.quoted word
  | noLink => "URL expected after 'link'"

/-- The integer that could not be read, if that is what is wrong. -/
def integer? : StyleError → Option Text.IntegerError
  | background _ (.integer e) | color _ (.integer e) => some e
  | _ => none

end StyleError

namespace Style

/-- The style with what words add to it. -/
def addWords (style : Style) : List String → Except StyleError Style
  | [] => .ok style
  | first :: rest =>
    let word := Text.lower first
    if word == "on" then
      match rest with
      | [] => .error .noBackground
      | name :: rest =>
        match Color.parse name with
        | .ok color => addWords { style with background := some color } rest
        | .error e => .error (.background name e)
    else if word == "not" then
      match rest with
      | [] => .error (.negated "")
      | name :: rest =>
        match Attribute.ofWord? name with
        | some a => addWords { style with attributes := (a, false) :: style.attributes } rest
        | none => .error (.negated name)
    else if word == "link" then
      match rest with
      | [] => .error .noLink
      | url :: rest => addWords { style with link := some url } rest
    else
      match Attribute.ofWord? word with
      | some a => addWords { style with attributes := (a, true) :: style.attributes } rest
      | none =>
        match Color.parse word with
        | .ok color => addWords { style with color := some color } rest
        | .error e => .error (.color word e)

/-- The style that a text says; "none" is the style that changes nothing. -/
def parse (s : String) : Except StyleError Style :=
  if Text.trim s == "none" then .ok {} else addWords {} (Text.blankSeparated s)

/-- The words for an attribute, where the style turns it on or off. -/
def attributeWords (style : Style) (a : Attribute) : List String :=
  match style.attributes.lookup a with
  | some true => [a.name]
  | some false => ["not", a.name]
  | none => []

/-- The words of the style in canonical order. -/
def words (style : Style) : List String :=
  Attribute.all.flatMap style.attributeWords ++ style.color.toList ++
    (match style.background with
      | some color => ["on", color]
      | none => []) ++
    match style.link with
    | some url => ["link", url]
    | none => []

/-- The canonical text of the style. -/
def canonical (style : Style) : String :=
  if style.words.isEmpty then "none" else String.intercalate " " style.words

/-- The text by which styles that say the same are known: the canonical text, or the text itself
where it says no style. -/
def nameOf (s : String) : Except Text.IntegerError String :=
  match parse s with
  | .ok style => .ok style.canonical
  | .error e =>
    match e.integer? with
    | some e => .error e
    | none => .ok (Text.lower (Text.trim s))

/-! ### Styles of a terminal -/

/-- Names under which a terminal knows styles, besides the words for them. -/
def themed : List String := Text.blankSeparated "
  bar.back bar.complete bar.finished bar.pulse bright code emphasize inspect.async_def inspect.attr
  inspect.attr.dunder inspect.callable inspect.class inspect.def inspect.doc inspect.equals
  inspect.error inspect.help inspect.value.border iso8601.date iso8601.time iso8601.timezone
  json.bool_false json.bool_true json.brace json.key json.null json.number json.str
  layout.tree.column layout.tree.row live.ellipsis log.level log.message log.path log.time
  logging.keyword logging.level.critical logging.level.debug logging.level.error logging.level.info
  logging.level.notset logging.level.warning markdown.block_quote markdown.code markdown.code_block
  markdown.em markdown.emph markdown.h1 markdown.h1.border markdown.h2 markdown.h3 markdown.h4
  markdown.h5 markdown.h6 markdown.h7 markdown.hr markdown.item markdown.item.bullet
  markdown.item.number markdown.kbd markdown.link markdown.link_url markdown.list markdown.paragraph
  markdown.s markdown.strong markdown.table.border markdown.table.header markdown.text pretty
  progress.data.speed progress.description progress.download progress.elapsed progress.filesize
  progress.filesize.total progress.percentage progress.remaining progress.spinner prompt
  prompt.choices prompt.default prompt.invalid prompt.invalid.choice repr.attrib_equal
  repr.attrib_name repr.attrib_value repr.bool_false repr.bool_true repr.brace repr.call repr.comma
  repr.ellipsis repr.error repr.eui48 repr.eui64 repr.filename repr.indent repr.ipv4 repr.ipv6
  repr.none repr.number repr.number_complex repr.path repr.str repr.tag_contents repr.tag_end
  repr.tag_name repr.tag_start repr.url repr.uuid reset rule.line rule.text scope.border
  scope.equals scope.key scope.key.special status.spinner strong table.caption table.cell
  table.footer table.header table.title traceback.border traceback.border.syntax_error
  traceback.error traceback.error_range traceback.exc_type traceback.exc_value
  traceback.group.border traceback.note traceback.offset traceback.text traceback.title tree
  tree.line"

end Style

end CommandGrammar
