import Precedence.Regex.Escape
import Precedence.Regex.Nested

namespace Precedence

/-- How two operands inside brackets are combined. -/
inductive SetOp where
  | inter
  | diff
  | symmDiff
deriving DecidableEq, Repr

def SetOp.apply : SetOp → Charset → Charset → Charset
  | inter, left, right => left.inter right
  | diff, left, right => left.diff right
  | symmDiff, left, right => left.symmDiff right

/-- One open bracket: what stands before its latest operator, and the union of the items read
since then, with their number. -/
structure Bracket where
  negated : Bool
  pending? : Option (Nested Charset × SetOp)
  items : Nested Charset
  count : Nat
deriving DecidableEq, Repr

def Bracket.start (negated : Bool) : Bracket := ⟨negated, none, .flat .empty, 0⟩

def Bracket.add (bracket : Bracket) (item : Nested Charset) : Bracket :=
  { bracket with
    items := ⟨bracket.items.value.union item.value, max bracket.items.height item.height⟩
    count := bracket.count + 1 }

/-- The items since the latest operator. More than one of them make a level of their own. -/
def Bracket.union (bracket : Bracket) : Nested Charset :=
  if bracket.count ≤ 1 then bracket.items else ⟨bracket.items.value, bracket.items.height + 1⟩

/-- Operators have one rank and group to the left. -/
def Bracket.operand (flags : Flags) (bracket : Bracket) : Nested Charset :=
  let right := bracket.union
  match bracket.pending? with
  | none => right
  | some (left, op) =>
    ⟨op.apply (flags.foldSet left.value) (flags.foldSet right.value),
      max left.height right.height + 1⟩

def Bracket.operate (flags : Flags) (bracket : Bracket) (op : SetOp) : Bracket :=
  { bracket with
    pending? := some (bracket.operand flags, op)
    items := .flat .empty
    count := 0 }

/-- The set of a closed bracket; case is dealt with before the negation. -/
def Bracket.close? (flags : Flags) (bracket : Bracket) : Option (Nested Charset) :=
  let operand := bracket.operand flags
  (flags.negated? bracket.negated (flags.foldSet operand.value)).map (⟨·, operand.height + 1⟩)

/-- Reads the dashes that stand for themselves at the front of a bracket. -/
def readDashes (flags : Flags) : Nat → Bracket → List Char → Bracket × List Char
  | 0, bracket, text => (bracket, text)
  | fuel + 1, bracket, text =>
    match text with
    | '-' :: rest => readDashes flags fuel (bracket.add (.flat (.single '-'))) (flags.skip rest)
    | _ => (bracket, text)

/-- Reads the front of a bracket, after its `[`. A caret negates it, and a closing bracket in
first place stands for itself. -/
def openBracket? (flags : Flags) (text : List Char) : Option (Bracket × List Char) :=
  let (negated, text) :=
    match flags.skip text with
    | '^' :: rest => (true, flags.skip rest)
    | text => (false, text)
  let (bracket, text) := readDashes flags text.length (.start negated) text
  match text with
  | [] => none
  | ']' :: rest =>
    if 0 < bracket.count then some (bracket, text)
    else if flags.skip rest = [] then none
    else some (bracket.add (.flat (.single ']')), flags.skip rest)
  | _ => some (bracket, text)

/-- The classes of ASCII characters that are named as in `[:alpha:]`. -/
def namedSet? (name : String) : Option Charset :=
  let digit := Charset.range '0' '9'
  let lower := Charset.range 'a' 'z'
  let upper := Charset.range 'A' 'Z'
  match name with
  | "alnum" => some (digit.union (upper.union lower))
  | "alpha" => some (upper.union lower)
  | "ascii" => some (.range '\x00' '\x7f')
  | "blank" => some (.ofList ['\t', ' '])
  | "cntrl" => some ((Charset.range '\x00' '\x1f').union (.single '\x7f'))
  | "digit" => some digit
  | "graph" => some (.range '!' '~')
  | "lower" => some lower
  | "print" => some (.range ' ' '~')
  | "punct" => some ((Charset.range '!' '~').diff (digit.union (upper.union lower)))
  | "space" => some ((Charset.range '\t' '\r').union (.single ' '))
  | "upper" => some upper
  | "word" => some ((digit.union (.single '_')).union (upper.union lower))
  | "xdigit" => some (digit.union ((Charset.range 'A' 'F').union (.range 'a' 'f')))
  | _ => none

/-- Reads a named class such as `[:alpha:]` or `[:^alpha:]`, from its `[`. Text of any other form
is not one, and is then read as a bracket; a class that is one may still have no set. -/
def readNamedSet? (flags : Flags) (text : List Char) : Option (Option Charset × List Char) :=
  match text with
  | '[' :: ':' :: rest =>
    let (negated, rest) :=
      match rest with
      | '^' :: rest => (true, rest)
      | _ => (false, rest)
    match rest.dropWhile (· != ':') with
    | ':' :: ']' :: after =>
      (namedSet? (String.ofList (rest.takeWhile (· != ':')))).map fun chars =>
        (flags.negated? negated (flags.foldSet chars), after)
    | _ => none
  | _ => none

/-- Reads one character or escape inside a bracket. -/
def readItem? (flags : Flags) : List Char → Option (Atom × List Char)
  | [] => none
  | '\\' :: rest => readEscape? flags rest
  | c :: rest => some (.literal c, rest)

def Atom.charset? (flags : Flags) : Atom → Option Charset
  | literal c => if flags.admits c then some (.single c) else none
  | set chars => some chars
  | boundary _ => none

/-- The next character that means something, seen from inside a bracket. Of a comment, only its
`#` and the blanks after it are passed over. -/
def Flags.peek? (flags : Flags) (text : List Char) : Option Char :=
  if flags.spaced then
    match text.dropWhile isSpace with
    | '#' :: rest => (rest.dropWhile isSpace).head?
    | rest => rest.head?
  else text.head?

/-- Reads a range or a single item. A dash before the closing bracket or before another dash
makes no range. -/
def readRange? (flags : Flags) (text : List Char) : Option (Charset × List Char) :=
  (readItem? flags text).bind fun (first, rest) =>
    match flags.skip rest with
    | [] => none
    | '-' :: after =>
      if flags.peek? after = some ']' ∨ flags.peek? after = some '-' then
        (first.charset? flags).map (·, '-' :: after)
      else
        (readItem? flags (flags.skip after)).bind fun (last, rest) =>
          match first, last with
          | .literal low, .literal high =>
            if low ≤ high && flags.admits high then some (.range low high, rest) else none
          | _, _ => none
    | rest => (first.charset? flags).map (·, rest)

/-- Reads on to the end of the outermost bracket; `outer` holds the brackets around the one that
is open. -/
def readBracketFrom? (flags : Flags) :
    Nat → Bracket → List Bracket → List Char → Option (Nested Charset × List Char)
  | 0, _, _, _ => none
  | fuel + 1, bracket, outer, text =>
    match flags.skip text with
    | [] => none
    | '[' :: rest =>
      match readNamedSet? flags ('[' :: rest) with
      | some (chars?, rest) =>
        chars?.bind fun chars => readBracketFrom? flags fuel (bracket.add (.flat chars)) outer rest
      | none =>
        (openBracket? flags rest).bind fun (inner, rest) =>
          readBracketFrom? flags fuel inner (bracket :: outer) rest
    | ']' :: rest =>
      (bracket.close? flags).bind fun closed =>
        match outer with
        | [] => some (closed, rest)
        | around :: outer => readBracketFrom? flags fuel (around.add closed) outer rest
    | '&' :: '&' :: rest => readBracketFrom? flags fuel (bracket.operate flags .inter) outer rest
    | '-' :: '-' :: rest => readBracketFrom? flags fuel (bracket.operate flags .diff) outer rest
    | '~' :: '~' :: rest => readBracketFrom? flags fuel (bracket.operate flags .symmDiff) outer rest
    | text =>
      (readRange? flags text).bind fun (chars, rest) =>
        readBracketFrom? flags fuel (bracket.add (.flat chars)) outer rest

/-- Reads a bracketed set, after its `[`. -/
def readBracket? (flags : Flags) (text : List Char) : Option (Nested Charset × List Char) :=
  (openBracket? flags text).bind fun (bracket, rest) =>
    readBracketFrom? flags (rest.length + 1) bracket [] rest

end Precedence
