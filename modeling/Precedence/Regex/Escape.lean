import Precedence.Character.Hex
import Precedence.Regex.Property

namespace Precedence

/-- What a single character or an escape stands for in a pattern. -/
inductive Atom where
  | literal (c : Char)
  | set (chars : Charset)
  | boundary (condition : Boundary)
deriving DecidableEq, Repr

/-- The character with a code point, if there is one. -/
def charAt? (n : Nat) : Option Char :=
  if n.isValidChar then some (Char.ofNat n) else none

/-- Reads a given number of hexadecimal digits. -/
def readDigits? (flags : Flags) : Nat → Nat → List Char → Option (Nat × List Char)
  | 0, value, text => some (value, text)
  | _ + 1, _, [] => none
  | count + 1, value, c :: rest =>
    (hexDigit? c).bind fun digit => readDigits? flags count (16 * value + digit) (flags.skip rest)

/-- Reads hexadecimal digits up to the closing brace. The value counts the digits read too, so
that an empty pair of braces is told from a zero. -/
def readBraced? (flags : Flags) : Nat → Nat × Nat → List Char → Option ((Nat × Nat) × List Char)
  | 0, _, _ => none
  | _ + 1, _, [] => none
  | fuel + 1, (count, value), c :: rest =>
    if c = '\x7d' then some ((count, value), flags.skip rest)
    else (hexDigit? c).bind fun digit =>
      readBraced? flags fuel (count + 1, 16 * value + digit) (flags.skip rest)

/-- Reads the code point after `\x`, `\u` or `\U`: so many digits, or any number in braces. Without
Unicode, two digits write a byte, which is a character in ASCII only. -/
def readCodePoint? (flags : Flags) (digits : Nat) (text : List Char) : Option (Char × List Char) :=
  match text with
  | '\x7b' :: rest =>
    (readBraced? flags text.length (0, 0) (flags.skip rest)).bind fun ((count, value), rest) =>
      if count = 0 then none else (charAt? value).map (·, rest)
  | _ =>
    (readDigits? flags digits 0 text).bind fun (value, rest) =>
      if digits = 2 ∧ !flags.unicode ∧ 0x80 ≤ value then none else (charAt? value).map (·, rest)

/-- The conditions that are named in braces after `\b`. -/
def namedEdge? (name : String) : Option WordPlace :=
  match name with
  | "start" => some .start
  | "end" => some .stop
  | "start-half" => some .startHalf
  | "end-half" => some .stopHalf
  | _ => none

def isEdgeChar (c : Char) : Bool := c.isAlpha || c == '-'

/-- Reads the name of a word edge up to its closing brace; the name is gathered backwards. -/
def readEdge? (flags : Flags) : Nat → List Char → List Char → Option (WordPlace × List Char)
  | 0, _, _ => none
  | _ + 1, _, [] => none
  | fuel + 1, name, c :: rest =>
    if isEdgeChar c then readEdge? flags fuel (c :: name) (flags.skip rest)
    else if c = '\x7d' then (namedEdge? (String.ofList name.reverse)).map (·, rest)
    else none

/-- Reads what follows `\b`. A brace begins a name when a letter or a dash comes after it;
otherwise it begins a counted repetition, which is left to be read. -/
def readWordEdge? (flags : Flags) (text : List Char) : Option (WordPlace × List Char) :=
  match text with
  | '\x7b' :: rest =>
    match flags.skip rest with
    | [] => none
    | c :: named =>
      if isEdgeChar c then readEdge? flags text.length [] (c :: named)
      else some (.edge, text)
  | _ => some (.edge, text)

/-- Any punctuation, blank or control character of ASCII may be escaped to stand for itself,
save the angle brackets, which stand for the edges of words. -/
def isEscapable (c : Char) : Bool :=
  decide (c.toNat < 128) && !c.isAlphanum && c != '<' && c != '>'

/-- Reads what follows a backslash. -/
def readEscape? (flags : Flags) : List Char → Option (Atom × List Char)
  | [] => none
  | c :: rest =>
    match c with
    | 'x' => (readCodePoint? flags 2 (flags.skip rest)).map fun (c, rest) => (.literal c, rest)
    | 'u' => (readCodePoint? flags 4 (flags.skip rest)).map fun (c, rest) => (.literal c, rest)
    | 'U' => (readCodePoint? flags 8 (flags.skip rest)).map fun (c, rest) => (.literal c, rest)
    | 'd' => some (.set flags.decimal, rest)
    | 'D' => (flags.compl? flags.decimal).map (.set ·, rest)
    | 's' => some (.set flags.space, rest)
    | 'S' => (flags.compl? flags.space).map (.set ·, rest)
    | 'w' => some (.set flags.word, rest)
    | 'W' => (flags.compl? flags.word).map (.set ·, rest)
    | 'p' => (readProperty? flags false rest).map fun (chars, rest) => (.set chars, rest)
    | 'P' => (readProperty? flags true rest).map fun (chars, rest) => (.set chars, rest)
    | 'a' => some (.literal '\x07', rest)
    | 'f' => some (.literal '\x0c', rest)
    | 't' => some (.literal '\t', rest)
    | 'n' => some (.literal '\n', rest)
    | 'r' => some (.literal '\r', rest)
    | 'v' => some (.literal '\x0b', rest)
    | 'A' => some (.boundary .textStart, rest)
    | 'z' => some (.boundary .textEnd, rest)
    | 'b' =>
      (readWordEdge? flags rest).map fun (place, rest) =>
        (.boundary (flags.wordBoundary place), rest)
    | 'B' => some (.boundary (flags.wordBoundary .inside), rest)
    | '<' => some (.boundary (flags.wordBoundary .start), rest)
    | '>' => some (.boundary (flags.wordBoundary .stop), rest)
    | _ => if isEscapable c then some (.literal c, rest) else none

end Precedence
