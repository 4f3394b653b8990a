import Wirelog.Pattern.CharClass
import Wirelog.Pattern.Table.Category
import Wirelog.Pattern.Table.Property
import Wirelog.Pattern.Table.Script
/-!
Classes of characters by name: general categories, scripts, and properties. Names are compared
without regard to case, blanks, `-`, `_` and a leading `is`.
-/
namespace Wirelog.Pattern

/-- A name in the form in which names are compared. -/
def foldName (s : List Char) : List Char :=
  let core (s : List Char) : List Char :=
    (s.filter fun c => c != ' ' && c != '-' && c != '_' && c.toNat < 128).map Char.toLower
  match s.map Char.toLower with
  | 'i' :: 's' :: _ => if core (s.drop 2) == ['c'] then ['i', 's', 'c'] else core (s.drop 2)
  | _ => core s

/-- Tables by their folded names. -/
abbrev NamedTables := List (List Char × Array (Nat × Nat))

/-- Reads rows of a table of tables. -/
def readTables (rows : List (String × List String)) : NamedTables :=
  rows.map fun (name, ranges) => (foldName name.toList, Text.parseRanges ranges)

/-- The general categories by their short names. -/
def categories : NamedTables :=
  readTables Table.categories

/-- The scripts by their long names. -/
def scripts : NamedTables :=
  readTables Table.scripts

/-- The properties by their long names. -/
def properties : NamedTables :=
  readTables Table.properties

/-- The table of a name. -/
def tableOf (tables : NamedTables) (name : String) : CharClass :=
  match tables.find? (·.1 == name.toList) with
  | some (_, ranges) => .table ranges
  | none => .none

/-- The union of some tables. -/
def unionOf (tables : NamedTables) (names : List String) : CharClass :=
  names.foldr (fun name rest => .union (tableOf tables name) rest) .none

/-- The short names of the categories that a short name covers. -/
def leafCategories : String → List String
  | "c" => ["cc", "cf", "co", "cn"]
  | "l" => ["lu", "ll", "lt", "lm", "lo"]
  | "lc" => ["lu", "ll", "lt"]
  | "m" => ["mn", "mc", "me"]
  | "n" => ["nd", "nl", "no"]
  | "p" => ["pc", "pd", "ps", "pe", "pi", "pf", "po"]
  | "s" => ["sm", "sc", "sk", "so"]
  | "z" => ["zs", "zl", "zp"]
  | name => [name]

/-- Long names of categories with their short ones. -/
def categoryNames : List (String × String) :=
  [ ("other", "c"), ("control", "cc"), ("cntrl", "cc"), ("format", "cf"), ("unassigned", "cn"),
    ("privateuse", "co"), ("letter", "l"), ("casedletter", "lc"), ("lowercaseletter", "ll"),
    ("modifierletter", "lm"), ("otherletter", "lo"), ("titlecaseletter", "lt"),
    ("uppercaseletter", "lu"), ("mark", "m"), ("combiningmark", "m"), ("spacingmark", "mc"),
    ("enclosingmark", "me"), ("nonspacingmark", "mn"), ("number", "n"), ("decimalnumber", "nd"),
    ("digit", "nd"), ("letternumber", "nl"), ("othernumber", "no"), ("punctuation", "p"),
    ("punct", "p"), ("connectorpunctuation", "pc"), ("dashpunctuation", "pd"),
    ("closepunctuation", "pe"), ("finalpunctuation", "pf"), ("initialpunctuation", "pi"),
    ("otherpunctuation", "po"), ("openpunctuation", "ps"), ("symbol", "s"),
    ("currencysymbol", "sc"), ("modifiersymbol", "sk"), ("mathsymbol", "sm"),
    ("othersymbol", "so"), ("separator", "z"), ("lineseparator", "zl"),
    ("paragraphseparator", "zp"), ("spaceseparator", "zs") ]

/-- Characters that have a category other than "unassigned". -/
def assigned : CharClass :=
  unionOf categories
    (["c", "l", "m", "n", "p", "s", "z"].flatMap leafCategories |>.filter (· != "cn"))

/-- The class of a category by its folded name. -/
def category? (name : String) : Option CharClass :=
  match name with
  | "any" => some (.range 0 0x10FFFF)
  | "assigned" => some assigned
  | "ascii" => some (.range 0 0x7F)
  | "cn" | "unassigned" => some (.compl assigned)
  | "c" | "other" =>
    some (.union (unionOf categories ["cc", "cf", "co"]) (.compl assigned))
  | _ =>
    let short := match categoryNames.find? (·.1 == name) with
      | some (_, short) => short
      | none => name
    let leaves := leafCategories short
    if leaves.all fun n => categories.any (·.1 == n.toList) then some (unionOf categories leaves)
    else none

/-- Four-letter codes of scripts with their long names. -/
def scriptCodes : List (String × String) :=
  [ ("adlm", "adlam"), ("aghb", "caucasianalbanian"), ("arab", "arabic"), ("armi",
    "imperialaramaic"), ("armn", "armenian"), ("avst", "avestan"), ("bali", "balinese"), ("bamu",
    "bamum"), ("bass", "bassavah"), ("batk", "batak"), ("beng", "bengali"), ("berf", "beriaerfe"),
    ("bhks", "bhaiksuki"), ("bopo", "bopomofo"), ("brah", "brahmi"), ("brai", "braille"), ("bugi",
    "buginese"), ("buhd", "buhid"), ("cakm", "chakma"), ("cans", "canadianaboriginal"), ("cari",
    "carian"), ("cher", "cherokee"), ("chrs", "chorasmian"), ("copt", "coptic"), ("cpmn",
    "cyprominoan"), ("cprt", "cypriot"), ("cyrl", "cyrillic"), ("deva", "devanagari"), ("diak",
    "divesakuru"), ("dogr", "dogra"), ("dsrt", "deseret"), ("dupl", "duployan"), ("egyp",
    "egyptianhieroglyphs"), ("elba", "elbasan"), ("elym", "elymaic"), ("ethi", "ethiopic"),
    ("gara", "garay"), ("geor", "georgian"), ("glag", "glagolitic"), ("gong", "gunjalagondi"),
    ("gonm", "masaramgondi"), ("goth", "gothic"), ("gran", "grantha"), ("grek", "greek"), ("gujr",
    "gujarati"), ("gukh", "gurungkhema"), ("guru", "gurmukhi"), ("hang", "hangul"), ("hani",
    "han"), ("hano", "hanunoo"), ("hatr", "hatran"), ("hebr", "hebrew"), ("hira", "hiragana"),
    ("hluw", "anatolianhieroglyphs"), ("hmng", "pahawhhmong"), ("hmnp", "nyiakengpuachuehmong"),
    ("hung", "oldhungarian"), ("ital", "olditalic"), ("java", "javanese"), ("kali", "kayahli"),
    ("kana", "katakana"), ("khar", "kharoshthi"), ("khmr", "khmer"), ("khoj", "khojki"), ("kits",
    "khitansmallscript"), ("knda", "kannada"), ("krai", "kiratrai"), ("kthi", "kaithi"), ("lana",
    "taitham"), ("laoo", "lao"), ("latn", "latin"), ("lepc", "lepcha"), ("limb", "limbu"),
    ("lina", "lineara"), ("linb", "linearb"), ("lyci", "lycian"), ("lydi", "lydian"), ("mahj",
    "mahajani"), ("maka", "makasar"), ("mand", "mandaic"), ("mani", "manichaean"), ("marc",
    "marchen"), ("medf", "medefaidrin"), ("mend", "mendekikakui"), ("merc", "meroiticcursive"),
    ("mero", "meroitichieroglyphs"), ("mlym", "malayalam"), ("mong", "mongolian"), ("mroo",
    "mro"), ("mtei", "meeteimayek"), ("mult", "multani"), ("mymr", "myanmar"), ("nagm",
    "nagmundari"), ("nand", "nandinagari"), ("narb", "oldnortharabian"), ("nbat", "nabataean"),
    ("nkoo", "nko"), ("nshu", "nushu"), ("ogam", "ogham"), ("olck", "olchiki"), ("onao",
    "olonal"), ("orkh", "oldturkic"), ("orya", "oriya"), ("osge", "osage"), ("osma", "osmanya"),
    ("ougr", "olduyghur"), ("palm", "palmyrene"), ("pauc", "paucinhau"), ("perm", "oldpermic"),
    ("phag", "phagspa"), ("phli", "inscriptionalpahlavi"), ("phlp", "psalterpahlavi"), ("phnx",
    "phoenician"), ("plrd", "miao"), ("prti", "inscriptionalparthian"), ("rjng", "rejang"),
    ("rohg", "hanifirohingya"), ("runr", "runic"), ("samr", "samaritan"), ("sarb",
    "oldsoutharabian"), ("saur", "saurashtra"), ("sgnw", "signwriting"), ("shaw", "shavian"),
    ("shrd", "sharada"), ("sidd", "siddham"), ("sidt", "sidetic"), ("sind", "khudawadi"), ("sinh",
    "sinhala"), ("sogd", "sogdian"), ("sogo", "oldsogdian"), ("sora", "sorasompeng"), ("soyo",
    "soyombo"), ("sund", "sundanese"), ("sunu", "sunuwar"), ("sylo", "sylotinagri"), ("syrc",
    "syriac"), ("tagb", "tagbanwa"), ("takr", "takri"), ("tale", "taile"), ("talu", "newtailue"),
    ("taml", "tamil"), ("tang", "tangut"), ("tavt", "taiviet"), ("tayo", "taiyo"), ("telu",
    "telugu"), ("tfng", "tifinagh"), ("tglg", "tagalog"), ("thaa", "thaana"), ("tibt", "tibetan"),
    ("tirh", "tirhuta"), ("tnsa", "tangsa"), ("todr", "todhri"), ("tols", "tolongsiki"), ("tutg",
    "tulutigalari"), ("ugar", "ugaritic"), ("vaii", "vai"), ("vith", "vithkuqi"), ("wara",
    "warangciti"), ("wcho", "wancho"), ("xpeo", "oldpersian"), ("xsux", "cuneiform"), ("yezi",
    "yezidi"), ("yiii", "yi"), ("zanb", "zanabazarsquare"), ("zinh", "inherited"), ("zyyy",
    "common"), ("qaac", "coptic"), ("qaai", "inherited") ]

/-- The class of a script by its folded name or code. -/
def script? (name : String) : Option CharClass :=
  let long := match scriptCodes.find? (·.1 == name) with
    | some (_, long) => long
    | none => name
  (scripts.find? (·.1 == long.toList)).map fun t => .table t.2

/-- Short names of properties with their long ones. -/
def propertyNames : List (String × String) :=
  [ ("ahex", "asciihexdigit"), ("alpha", "alphabetic"), ("bidic", "bidicontrol"),
    ("bidim", "bidimirrored"), ("ci", "caseignorable"), ("dep", "deprecated"),
    ("di", "defaultignorablecodepoint"), ("dia", "diacritic"), ("ecomp", "emojicomponent"),
    ("emod", "emojimodifier"), ("ebase", "emojimodifierbase"), ("epres", "emojipresentation"),
    ("extpict", "extendedpictographic"), ("ext", "extender"), ("hex", "hexdigit"),
    ("idsb", "idsbinaryoperator"), ("idst", "idstrinaryoperator"), ("idc", "idcontinue"),
    ("ids", "idstart"), ("ideo", "ideographic"), ("joinc", "joincontrol"),
    ("loe", "logicalorderexception"), ("lower", "lowercase"), ("nchar", "noncharactercodepoint"),
    ("patsyn", "patternsyntax"), ("patws", "patternwhitespace"), ("qmark", "quotationmark"),
    ("ri", "regionalindicator"), ("sterm", "sentenceterminal"), ("sd", "softdotted"),
    ("term", "terminalpunctuation"), ("uideo", "unifiedideograph"), ("upper", "uppercase"),
    ("vs", "variationselector"), ("space", "whitespace"), ("wspace", "whitespace") ]

/-- Characters of identifiers whose compatibility forms do not belong to identifiers. -/
def unstable : List String :=
  ["37A 309B-309C FC5E-FC63 FDFA-FDFB FE70 FE72 FE74 FE76 FE78 FE7A FE7C FE7E"]

/-- Those that matter at the start of an identifier only. -/
def unstableAtStart : List String :=
  ["E33 EB3 FF9E-FF9F"]

/-- A property without the characters of some ranges. -/
def narrowed (name : String) (ranges : List String) : CharClass :=
  .diff (tableOf properties name) (.table (Text.parseRanges ranges))

/-- The class of a property by its folded name. -/
def property? (name : String) : Option CharClass :=
  match name with
  | "xidstart" | "xids" => some (narrowed "idstart" (unstable ++ unstableAtStart))
  | "xidcontinue" | "xidc" => some (narrowed "idcontinue" unstable)
  | _ =>
    let long := match propertyNames.find? (·.1 == name) with
      | some (_, long) => long
      | none => name
    (properties.find? (·.1 == long.toList)).map fun t => .table t.2

/-- The class of a name: a property, a category, or a script, in this order. Three short names mean
categories although properties bear them too. -/
def classOf? (name : List Char) : Option CharClass :=
  let folded := String.ofList (foldName name)
  let property := if ["cf", "sc", "lc"].contains folded then none else property? folded
  (property.or (category? folded)).or (script? folded)

/-- The class of a value of a named property. -/
def classOfValue? (name value : List Char) : Option CharClass :=
  let folded := String.ofList (foldName value)
  match String.ofList (foldName name) with
  | "generalcategory" | "gc" => category? folded
  | "script" | "sc" | "scriptextensions" | "scx" => script? folded
  | _ => none

/-! ### Classes that escapes stand for -/

/-- Decimal digits of all scripts. -/
def digitClass : CharClass :=
  tableOf categories "nd"

/-- White space of all scripts. -/
def spaceClass : CharClass :=
  tableOf properties "whitespace"

/-- Letters, marks, digits, connectors and joiners: the characters of words. -/
def wordClass : CharClass :=
  .union (unionOf properties ["alphabetic", "joincontrol"])
    (unionOf categories ["mn", "mc", "me", "nd", "pc"])

/-- Digits, letters and the underscore of ASCII. -/
def asciiWordClass : CharClass :=
  .ofRanges [('0', '9'), ('A', 'Z'), ('a', 'z'), ('_', '_')]

/-- Letters of all scripts, in the sense of the alphabetic property. -/
def isAlphabetic (c : Char) : Bool :=
  (tableOf properties "alphabetic").mem c

/-- Numbers of all scripts. -/
def isNumeric (c : Char) : Bool :=
  (unionOf categories ["nd", "nl", "no"]).mem c

end Wirelog.Pattern
