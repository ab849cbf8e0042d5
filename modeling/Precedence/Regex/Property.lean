import Precedence.Character.Age
import Precedence.Character.Property
import Precedence.Character.Script
import Precedence.Character.Segment
import Precedence.Regex.Flags

namespace Precedence

/-- The characters that a name in braces after `\p` stands for: a property, or else a general
category, or else a script. Three names are those of categories even though they are short names
of properties too. -/
def Charset.named? (name : String) : Option Charset :=
  (if ["cf", "sc", "lc"].contains name then none else ofProperty? name).or
    ((ofCategoryName? name).or ((scriptCode? name).map ofScript))

/-- The characters for which a property has a value. -/
def Charset.valued? (property value : String) : Option Charset :=
  match property with
  | "gc" | "generalcategory" => ofCategoryName? value
  | "sc" | "script" => (scriptCode? value).map ofScript
  | "scx" | "scriptextensions" => (scriptCode? value).map ofScriptUse
  | "age" => ofAge? value
  | "gcb" | "graphemeclusterbreak" => ofGraphemeBreak? value
  | "wb" | "wordbreak" => ofWordBreak? value
  | "sb" | "sentencebreak" => ofSentenceBreak? value
  | _ => none

/-- Splits a text in two at the first place where a mark stands. -/
def splitAt? (mark : List Char) : List Char → Option (List Char × List Char)
  | [] => none
  | c :: rest =>
    if mark.isPrefixOf (c :: rest) then some ([], (c :: rest).drop mark.length)
    else (splitAt? mark rest).map fun (before, after) => (c :: before, after)

/-- The characters that the text in braces asks for. It is a name, or a property and its value
with a mark between them; all three marks mean the same. -/
def Charset.ofQuery? (query : List Char) : Option Charset :=
  match (splitAt? ['!', '='] query).or ((splitAt? [':'] query).or (splitAt? ['='] query)) with
  | some (property, value) => valued? (plainName property) (plainName value)
  | none => named? (plainName query)

/-- Reads on to the closing brace; the text is gathered backwards. -/
def readQuery? (flags : Flags) : Nat → List Char → List Char → Option (List Char × List Char)
  | 0, _, _ => none
  | _ + 1, _, [] => none
  | fuel + 1, query, c :: rest =>
    if c = '\x7d' then some (query.reverse, rest)
    else readQuery? flags fuel (c :: query) (flags.skip rest)

/-- Reads what follows `\p` or `\P`: text in braces or a name of one letter. Case is dealt with
before the negation. -/
def readProperty? (flags : Flags) (negated : Bool) (text : List Char) :
    Option (Charset × List Char) :=
  let query? : Option (List Char × List Char) :=
    match flags.skip text with
    | '\x7b' :: rest => readQuery? flags text.length [] (flags.skip rest)
    | '\\' :: _ => none
    | c :: rest => some ([c], rest)
    | [] => none
  query?.bind fun (query, rest) =>
    if flags.unicode then
      (Charset.ofQuery? query).bind fun chars =>
        (flags.negated? negated (flags.foldSet chars)).map (·, rest)
    else none

end Precedence
