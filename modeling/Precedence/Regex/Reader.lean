import Precedence.Character.Alphabetic
import Precedence.Regex.Bracket
import Precedence.Regex.Simplify

namespace Precedence

/-- What has been read of one group: its earlier alternatives and the items of the current one,
each latest first. A change of flags is an item that nothing can repeat. -/
structure Branches where
  earlier : List (Nested Regex)
  items : List (Option (Nested Regex))
deriving DecidableEq, Repr

def Branches.start : Branches := ⟨[], []⟩

def Branches.push (branches : Branches) (item : Nested Regex) : Branches :=
  { branches with items := some item :: branches.items }

/-- The expression of the current alternative. More than one item make a level of their own. -/
def Branches.current (branches : Branches) : Nested Regex :=
  let items := branches.items.filterMap id
  ⟨Regex.concat (items.reverse.map (·.value)),
    Nested.tallest items + if branches.items.length ≤ 1 then 0 else 1⟩

def Branches.divide (branches : Branches) : Branches :=
  ⟨branches.current :: branches.earlier, []⟩

/-- The expression of a whole group. More than one alternative make a level of their own. -/
def Branches.close (branches : Branches) : Nested Regex :=
  let all := branches.current :: branches.earlier
  ⟨Regex.choice (all.reverse.map (·.value)),
    Nested.tallest all + if branches.earlier.isEmpty then 0 else 1⟩

/-- What an open parenthesis does besides to hold a part of the pattern together: it may mark what
the part takes, with a name or without. -/
inductive GroupKind where
  | plain
  | marked (name? : Option String)
deriving DecidableEq, Repr

def GroupKind.wrap : GroupKind → Regex → Regex
  | plain, body => body
  | marked name?, body => .group name? body

/-- An open group, what surrounds it, and the flags that hold again after it. -/
structure OpenGroup where
  kind : GroupKind
  around : Branches
  flags : Flags
deriving DecidableEq, Repr

/-- A pattern that is read in part. -/
structure RegexReader where
  rest : List Char
  flags : Flags
  branches : Branches
  groups : List OpenGroup
  names : List String
deriving DecidableEq, Repr

namespace RegexReader

def ofText (text : List Char) : RegexReader := ⟨text, {}, .start, [], []⟩

def push (reader : RegexReader) (item : Nested Regex) (rest : List Char) : RegexReader :=
  { reader with branches := reader.branches.push item, rest }

/-- Repeats the item read last, if there is one that can be repeated. -/
def repeatLast? (reader : RegexReader) (least : Nat) (most? : Option Nat) (greedy : Bool)
    (rest : List Char) : Option RegexReader :=
  match reader.branches.items with
  | some last :: items =>
    let repeated := last.value.repeated least most? (greedy != reader.flags.lazyFirst)
    let item := ⟨repeated, last.height + 1⟩
    some { reader with branches := { reader.branches with items := some item :: items }, rest }
  | _ => none

/-- A `?` right after a repetition makes it prefer fewer rounds. -/
def readLazy : List Char → Bool × List Char
  | '?' :: rest => (false, rest)
  | rest => (true, rest)

/-- Reads decimal digits and gathers their value. -/
def readDecimalFrom (flags : Flags) : Nat → Option Nat → List Char → Option Nat × List Char
  | 0, value?, text => (value?, text)
  | fuel + 1, value?, text =>
    match text with
    | c :: rest =>
      if '0' ≤ c ∧ c ≤ '9' then
        let value := 10 * value?.getD 0 + (c.toNat - '0'.toNat)
        readDecimalFrom flags fuel (some value) (flags.skip rest)
      else (value?, text)
    | [] => (value?, [])

/-- Reads a bound of a counted repetition, which may have blanks around it. The bound is missing
when no digit stands there or when it takes more than 32 bits. -/
def readBound (flags : Flags) (text : List Char) : Option Nat × List Char :=
  let text := text.dropWhile isSpace
  let (value?, rest) := readDecimalFrom flags text.length none text
  (value?.filter (· ≤ 0xffffffff), flags.skip (rest.dropWhile isSpace))

/-- Reads the bounds of a counted repetition, after its `{`, and the `}` that ends it. -/
def readBounds? (flags : Flags) (text : List Char) : Option (Nat × Option Nat × List Char) :=
  match readBound flags (flags.skip text) with
  | (some least, ',' :: rest) =>
    match flags.skip rest with
    | '\x7d' :: rest => some (least, none, rest)
    | rest =>
      match readBound flags rest with
      | (some most, '\x7d' :: rest) => if least ≤ most then some (least, some most, rest) else none
      | _ => none
  | (some least, '\x7d' :: rest) => some (least, some least, rest)
  | _ => none

def isNameStart (c : Char) : Bool := c == '_' || isAlphabetic c

def isNameChar (c : Char) : Bool :=
  c == '_' || c == '.' || c == '[' || c == ']' || isAlphabetic c || isNumber c

/-- Reads the name of a group up to its `>`. -/
def readName? (text : List Char) : Option (String × List Char) :=
  match text.span (· != '>') with
  | (first :: more, '>' :: rest) =>
    if isNameStart first && more.all isNameChar then some (String.ofList (first :: more), rest)
    else none
  | _ => none

def openGroup (reader : RegexReader) (kind : GroupKind) (flags : Flags) (rest : List Char) :
    RegexReader :=
  { reader with
    rest, flags
    branches := .start
    groups := ⟨kind, reader.branches, reader.flags⟩ :: reader.groups }

/-- Opens a named group; no two groups may share a name. -/
def openNamed? (reader : RegexReader) (text : List Char) : Option RegexReader :=
  (readName? text).bind fun (name, rest) =>
    if reader.names.contains name then none
    else
      let opened := reader.openGroup (.marked (some name)) reader.flags rest
      some { opened with names := name :: reader.names }

/-- Reads what follows `(`: a name, flags, or the group itself. Conditions on the text around a
place are not part of the language. -/
def readGroup? (reader : RegexReader) (text : List Char) : Option RegexReader :=
  match reader.flags.skip text with
  | '?' :: '=' :: _ => none
  | '?' :: '!' :: _ => none
  | '?' :: '<' :: '=' :: _ => none
  | '?' :: '<' :: '!' :: _ => none
  | '?' :: 'P' :: '<' :: rest => reader.openNamed? rest
  | '?' :: '<' :: rest => reader.openNamed? rest
  | '?' :: rest =>
    match reader.flags.read? [] false rest with
    | some (flags, ':', _, rest) => some (reader.openGroup .plain flags rest)
    | some (flags, _, true, rest) =>
      some { reader with
        rest, flags, branches := { reader.branches with items := none :: reader.branches.items } }
    | _ => none
  | rest => some (reader.openGroup (.marked none) reader.flags rest)

/-- Closes the group that was opened last. -/
def closeGroup? (reader : RegexReader) (rest : List Char) : Option RegexReader :=
  match reader.groups with
  | [] => none
  | group :: groups =>
    let body := reader.branches.close
    let item := ⟨group.kind.wrap body.value, body.height + 1⟩
    some { reader with rest, groups, flags := group.flags, branches := group.around.push item }

/-- The expression of a single character or escape. -/
def atom (flags : Flags) : Atom → Regex
  | .literal c => .set (flags.foldSet (.single c))
  | .set chars => .set chars
  | .boundary condition => .boundary condition

/-- Reads one item from the front of what is left, which is not empty. -/
def step? (reader : RegexReader) (c : Char) (rest : List Char) : Option RegexReader :=
  match c with
  | '(' => reader.readGroup? rest
  | ')' => reader.closeGroup? rest
  | '|' => some { reader with rest, branches := reader.branches.divide }
  | '[' =>
    (readBracket? reader.flags rest).map fun (chars, rest) =>
      reader.push ⟨.set chars.value, chars.height⟩ rest
  | '?' => let (greedy, rest) := readLazy rest; reader.repeatLast? 0 (some 1) greedy rest
  | '*' => let (greedy, rest) := readLazy rest; reader.repeatLast? 0 none greedy rest
  | '+' => let (greedy, rest) := readLazy rest; reader.repeatLast? 1 none greedy rest
  | '\x7b' =>
    (readBounds? reader.flags rest).bind fun (least, most?, rest) =>
      let (greedy, rest) := readLazy (reader.flags.skip rest)
      reader.repeatLast? least most? greedy rest
  | '\\' =>
    (readEscape? reader.flags rest).map fun (item, rest) =>
      reader.push (.flat (atom reader.flags item)) rest
  | '.' => reader.flags.dot?.map fun chars => reader.push (.flat (.set chars)) rest
  | '^' => some (reader.push (.flat (.boundary reader.flags.lineStart)) rest)
  | '$' => some (reader.push (.flat (.boundary reader.flags.lineEnd)) rest)
  | c => some (reader.push (.flat (atom reader.flags (.literal c))) rest)

/-- Reads on to the end of the pattern, where no group may be open. -/
def read? : Nat → RegexReader → Option (Nested Regex)
  | 0, _ => none
  | fuel + 1, reader =>
    match reader.flags.skip reader.rest with
    | [] => if reader.groups.isEmpty then some reader.branches.close else none
    | c :: rest => (reader.step? c rest).bind (read? fuel)

end RegexReader

/-- The expression that a pattern text describes, if it is well formed and not nested too deeply. -/
def Regex.ofText? (text : List Char) : Option Regex :=
  ((RegexReader.ofText text).read? (text.length + 1)).bind fun whole =>
    if whole.height ≤ maxNesting then some whole.value else none

end Precedence
