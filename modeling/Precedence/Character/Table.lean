import Precedence.Character.Charset
import Precedence.Character.Hex

/-!
Tables of characters that are kept as text. In a list of ranges, such as `30-39,5f`, the ranges
stand between commas. In a table of runs, such as `Lu:1a Po`, each word holds a label and how many
code points in a row have it, one if no number is given; the runs begin at zero and leave nothing
out. All numbers are hexadecimal.
-/

namespace Precedence

/-- The pieces of a text between the places where a mark stands. -/
def piecesBetween (mark : Char) (text : List Char) : List (List Char) :=
  let add (c : Char) (pieces : List (List Char)) : List (List Char) :=
    if c = mark then [] :: pieces
    else (c :: pieces.headD []) :: pieces.tail
  text.foldr add [[]]

/-- Reads one code point or one range. -/
def rangeOfText (text : List Char) : Nat × Nat :=
  match piecesBetween '-' text with
  | [low, high] => (hexNumber low, hexNumber high)
  | _ => (hexNumber text, hexNumber text)

/-- Reads a list of ranges. -/
def Charset.ofText (text : List Char) : Charset :=
  ofRanges (((piecesBetween ',' text).filter (!·.isEmpty)).map rangeOfText)

/-- One stretch of code points that share a label. -/
structure Run where
  label : String
  range : Nat × Nat
deriving DecidableEq, Repr

/-- Reads a table of runs that begins at the code point `start`. -/
def runsFrom (start : Nat) : List (List Char) → List Run
  | [] => []
  | word :: rest =>
    match piecesBetween ':' word with
    | [label, length] =>
      let next := start + hexNumber length
      ⟨String.ofList label, start, next - 1⟩ :: runsFrom next rest
    | _ => ⟨String.ofList word, start, start⟩ :: runsFrom (start + 1) rest

/-- The code points whose label in a table of runs is one of those given. -/
def Charset.ofRuns (table : String) (labels : List String) : Charset :=
  let runs := runsFrom 0 (piecesBetween ' ' table.toList)
  ofRanges ((runs.filter fun run => labels.contains run.label).map (·.range))

/-- The plain form of a name, in which names are compared: in small letters, without blanks,
underscores, dashes and whatever is not ASCII, and without `is` in front. As `isc` is the short
name of a comment, the `is` before a lone `c` stays. -/
def plainName (name : List Char) : String :=
  let rest := if (name.take 2).map Char.toLower = ['i', 's'] then name.drop 2 else name
  let kept := rest.filter fun c => c != ' ' && c != '_' && c != '-' && decide (c.toNat < 128)
  let plain := kept.map Char.toLower
  String.ofList (if rest.length < name.length ∧ plain = ['c'] then ['i', 's', 'c'] else plain)

/-- The rows of a table of names and ranges: each word holds names, and after them the ranges of
what they stand for. -/
def rowsOf (table : String) : List (List (List Char)) :=
  (piecesBetween ' ' table.toList).map (piecesBetween ':')

end Precedence
