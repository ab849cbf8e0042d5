import Precedence.Character.Property
import Precedence.Character.Script

namespace Precedence

/-- The characters with a property, by its name in plain form. -/
def Charset.having (name : String) : Charset := (ofProperty? name).getD empty

/-- The characters of a list of ranges such as `41-5a,5f`. -/
def Charset.listed (text : String) : Charset := ofText text.toList

/-- The marks and modifiers that stand within the grapheme of the character before them. -/
def Charset.modifiers : Charset := graphemeExtend.union (having "emojimodifier")

/-- The characters that stand in front of a number and are read with its digits. -/
def Charset.numberSigns : Charset := (having "prependedconcatenationmark").diff (single '\u070f')

/-- The Hangul syllables that end in a vowel: one begins each row of twenty-eight. -/
def Charset.openSyllables : Charset :=
  ⟨(List.range 399).map fun row => (0xac00 + 28 * row, 0xac00 + 28 * row)⟩

/-- The characters of a class in the division of text into graphemes, by the plain name of the
class. -/
def Charset.ofGraphemeBreak? (value : String) : Option Charset :=
  match value with
  | "cr" => some (single '\r')
  | "lf" => some (single '\n')
  | "cn" | "control" =>
    let hidden := (ofCategories ["Cn"]).inter (having "di")
    some (((((ofCategories ["Cc", "Cf", "Zl", "Zp"]).union hidden).diff
      (listed "a,d,200c-200d")).diff (having "prependedconcatenationmark")).diff modifiers)
  | "ex" | "extend" => some modifiers
  | "zwj" => some (single '\u200d')
  | "ri" | "regionalindicator" => some (having "ri")
  | "pp" | "prepend" =>
    some ((having "prependedconcatenationmark").union
      (listed "d4e,111c2-111c3,113d1,1193f,11941,11a3a,11a84-11a89,11d46,11f02"))
  | "sm" | "spacingmark" =>
    let apart := (listed "102b-102c,1038,1062-1064,1067-106d,1083,1087-108c,108f,109a-109c").union
      (listed "1a61,1a63-1a64,aa7b,aa7d,11720-11721")
    some ((((ofCategories ["Mc"]).union (listed "e33,eb3")).diff modifiers).diff apart)
  | "l" => some (listed "1100-115f,a960-a97c")
  | "v" => some (listed "1160-11a7,d7b0-d7c6,16d63,16d67-16d6a")
  | "t" => some (listed "11a8-11ff,d7cb-d7fb")
  | "lv" => some openSyllables
  | "lvt" => some ((listed "ac00-d7a3").diff openSyllables)
  | _ => none

/-- The letters and like characters that join into words, in scripts that set words apart. -/
def Charset.wordLetters : Charset :=
  let signs := (listed "2c2-2c5,2d2-2d7,2de-2df,2e5-2eb,2ed,2ef-2ff,55a-55c,55e,58a,5f3,70f").union
    (listed "a708-a716,a720-a721,a789-a78a,ab5b")
  let unspaced :=
    ["Hira", "Thai", "Laoo", "Mymr", "Khmr", "Tale", "Talu", "Lana", "Tavt", "Ahom"]
  (((having "alphabetic").union signs).diff (having "ideographic")).diff
    (ofRuns scriptText unspaced)

/-- The characters of a class in the division of text into words, by the plain name of the
class. -/
def Charset.ofWordBreak? (value : String) : Option Charset :=
  let extenders := (modifiers.union (ofCategories ["Mc"])).diff (single '\u200d')
  let katakana := (ofRuns scriptText ["Kana"]).union
    (listed "3031-3035,309b-309c,30a0,30fc,ff70")
  let hebrew := (ofRuns scriptText ["Hebr"]).inter (ofCategories ["Lo"])
  match value with
  | "cr" => some (single '\r')
  | "lf" => some (single '\n')
  | "nl" | "newline" => some (listed "b-c,85,2028-2029")
  | "zwj" => some (single '\u200d')
  | "ri" | "regionalindicator" => some (having "ri")
  | "extend" => some extenders
  | "fo" | "format" =>
    some ((((ofCategories ["Cf"]).diff (listed "200b-200d")).diff extenders).diff
      (having "prependedconcatenationmark"))
  | "ka" | "katakana" => some katakana
  | "hl" | "hebrewletter" => some hebrew
  | "le" | "aletter" => some (((wordLetters.diff katakana).diff extenders).diff hebrew)
  | "sq" | "singlequote" => some (single '\'')
  | "dq" | "doublequote" => some (single '"')
  | "mb" | "midnumlet" => some (listed "2e,2018-2019,2024,fe52,ff07,ff0e")
  | "ml" | "midletter" => some (listed "3a,b7,387,55f,5f4,2027,fe13,fe55,ff1a")
  | "mn" | "midnum" =>
    some (listed "2c,3b,37e,589,60c-60d,66c,7f8,2044,fe10,fe14,fe50,fe54,ff0c,ff1b")
  | "nu" | "numeric" => some (((ofCategories ["Nd"]).union (single '\u066b')).union numberSigns)
  | "ex" | "extendnumlet" => some ((ofCategories ["Pc"]).union (single '\u202f'))
  | "wsegspace" => some ((ofCategories ["Zs"]).diff (listed "a0,2007,202f"))
  | _ => none

/-- The characters of a class in the division of text into sentences, by the plain name of the
class. -/
def Charset.ofSentenceBreak? (value : String) : Option Charset :=
  let extenders := (graphemeExtend.union (ofCategories ["Mc"])).union (single '\u200d')
  let lower := (lowercase.diff graphemeExtend).diff (listed "10d0-10fa,10fd-10ff")
  let upper := ((ofCategories ["Lt"]).union uppercase).diff (listed "1c90-1cba,1cbd-1cbf")
  let stops := listed "2e,2024,fe52,ff0e"
  let ends := (having "sentenceterminal").diff stops
  match value with
  | "cr" => some (single '\r')
  | "lf" => some (single '\n')
  | "se" | "sep" => some (listed "85,2028-2029")
  | "sp" => some ((having "whitespace").diff (listed "a,d,85,2028-2029"))
  | "ex" | "extend" => some extenders
  | "fo" | "format" =>
    some ((((ofCategories ["Cf"]).diff (listed "200c-200d")).diff extenders).diff numberSigns)
  | "lo" | "lower" => some lower
  | "up" | "upper" => some upper
  | "le" | "oletter" =>
    some (((((having "alphabetic").union (single '\u05f3')).diff lower).diff upper).diff extenders)
  | "nu" | "numeric" =>
    some (((ofCategories ["Nd"]).union (listed "66b-66c")).union numberSigns)
  | "at" | "aterm" => some stops
  | "st" | "sterm" => some ends
  | "sc" | "scontinue" =>
    some ((listed "2c-2d,3a-3b,37e,55d,60c-60d,7f8,1802,1808,2013-2014,3001,fe10-fe11").union
      (listed "fe13-fe14,fe31-fe32,fe50-fe51,fe54-fe55,fe58,fe63,ff0c-ff0d,ff1a-ff1b,ff64"))
  | "cl" | "close" =>
    let quotes := listed "22,27,275b-2760,2e00-2e01,2e06-2e08,2e0b,1f676-1f678"
    some (((((ofCategories ["Ps", "Pe", "Pi", "Pf"]).union quotes).diff (single '\u05f3')).diff
      stops).diff ends)
  | _ => none

end Precedence
