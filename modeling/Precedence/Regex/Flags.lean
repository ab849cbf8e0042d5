import Precedence.Character.Case
import Precedence.Character.Number
import Precedence.Character.Space
import Precedence.Regex.Boundary

namespace Precedence

/-- How the text of a pattern is to be read. Without Unicode, classes and cases are those of
ASCII. -/
structure Flags where
  ignoreCase : Bool := false
  multiLine : Bool := false
  dotAll : Bool := false
  lazyFirst : Bool := false
  spaced : Bool := false
  crlf : Bool := false
  unicode : Bool := true
deriving DecidableEq, Repr

/-- Drops blanks and comments, each of which runs from `#` to the end of its line. -/
def skipSpaced (inComment : Bool) : List Char → List Char
  | [] => []
  | c :: rest =>
    if inComment then skipSpaced (c ≠ '\n') rest
    else if isSpace c then skipSpaced false rest
    else if c = '#' then skipSpaced true rest
    else c :: rest

/-- What is left of a pattern once the text without meaning in front of it is dropped. -/
def Flags.skip (flags : Flags) (text : List Char) : List Char :=
  if flags.spaced then skipSpaced false text else text

theorem length_skipSpaced_le {inComment : Bool} {text : List Char} :
    (skipSpaced inComment text).length ≤ text.length := by
  induction text generalizing inComment with
  | nil => simp [skipSpaced]
  | cons c rest ih =>
    simp only [skipSpaced]
    split
    · exact Nat.le_succ_of_le ih
    · split
      · exact Nat.le_succ_of_le ih
      · split
        · exact Nat.le_succ_of_le ih
        · exact Nat.le_refl _

theorem Flags.length_skip_le {flags : Flags} {text : List Char} :
    (flags.skip text).length ≤ text.length := by
  unfold Flags.skip
  split
  · exact length_skipSpaced_le
  · exact Nat.le_refl _

/-- The letters of `(?…)` and what each switches. -/
def Flags.switch? (flags : Flags) (letter : Char) (on : Bool) : Option Flags :=
  match letter with
  | 'i' => some { flags with ignoreCase := on }
  | 'm' => some { flags with multiLine := on }
  | 's' => some { flags with dotAll := on }
  | 'U' => some { flags with lazyFirst := on }
  | 'x' => some { flags with spaced := on }
  | 'R' => some { flags with crlf := on }
  | 'u' => some { flags with unicode := on }
  | _ => none

/-- Reads the letters of a flag group up to the `:` or `)` that ends them. No letter may come
twice; one `-` may stand before the letters to be switched off, and some letter must follow it.
The answer holds the new flags, the end mark, whether any letter was read, and the rest. -/
def Flags.read? (flags : Flags) (seen : List Char) (dashed : Bool) :
    List Char → Option (Flags × Char × Bool × List Char)
  | [] => none
  | c :: rest =>
    if c = ':' ∨ c = ')' then
      if seen.head? = some '-' then none else some (flags, c, !seen.isEmpty, rest)
    else if seen.contains c then none
    else if c = '-' then flags.read? ('-' :: seen) true rest
    else (flags.switch? c !dashed).bind fun switched => switched.read? (c :: seen) dashed rest

/-- Whether a character may be a member of a set. -/
def Flags.admits (flags : Flags) (c : Char) : Bool := flags.unicode || decide (c.toNat < 0x80)

def Flags.foldSet (flags : Flags) (chars : Charset) : Charset :=
  if flags.ignoreCase then (if flags.unicode then chars.anyCase else chars.anyAsciiCase) else chars

/-- The characters outside of a set. Without Unicode there is no such set, because it would hold
bytes that are no characters. -/
def Flags.compl? (flags : Flags) (chars : Charset) : Option Charset :=
  if flags.unicode then some chars.compl else none

def Flags.negated? (flags : Flags) (negated : Bool) (chars : Charset) : Option Charset :=
  if negated then flags.compl? chars else some chars

def Flags.decimal (flags : Flags) : Charset :=
  if flags.unicode then ⟨decimalRanges⟩ else .range '0' '9'

def Flags.space (flags : Flags) : Charset :=
  if flags.unicode then ⟨spaceRanges⟩ else .ofList ['\t', '\n', '\x0b', '\x0c', '\r', ' ']

def Flags.word (flags : Flags) : Charset :=
  if flags.unicode then ⟨wordRanges⟩
  else .ofRanges [(0x30, 0x39), (0x41, 0x5a), (0x5f, 0x5f), (0x61, 0x7a)]

/-- What a dot stands for. -/
def Flags.dot? (flags : Flags) : Option Charset :=
  flags.compl? <|
    if flags.dotAll then .empty else .ofList (if flags.crlf then ['\n', '\r'] else ['\n'])

def Flags.lineStart (flags : Flags) : Boundary :=
  if flags.multiLine then (if flags.crlf then .lineStartCrlf else .lineStart) else .textStart

def Flags.lineEnd (flags : Flags) : Boundary :=
  if flags.multiLine then (if flags.crlf then .lineEndCrlf else .lineEnd) else .textEnd

def Flags.wordBoundary (flags : Flags) (place : WordPlace) : Boundary := .word place !flags.unicode

end Precedence
