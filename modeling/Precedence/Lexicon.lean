import Precedence.Regex.Extent.Growth
import Precedence.Regex.Reader
import Precedence.Regex.Search
import Precedence.Text.Bytes

namespace Precedence

/-- Why a pattern describes no lexicon. -/
inductive LexiconError where
  | malformed
  | unnamed (source : String)
deriving DecidableEq, Repr

/-- The message for a pattern without named groups. A malformed pattern has none. -/
def LexiconError.message? : LexiconError → Option String
  | malformed => none
  | unnamed source => some ("Token pattern '" ++ source ++ "' has no named alternatives")

/-- The words of a language, given by one pattern. Each of its named groups is a kind of token,
and what it matches outside of them is passed over. -/
structure Lexicon where
  source : String
  kinds : List String
  program : Program
deriving DecidableEq

/-- The whole expression that is matched: the pattern, held to the start of the text. -/
def Lexicon.anchoredText (source : String) : List Char :=
  ['^', '(', '?', ':'] ++ source.toList ++ [')']

def Lexicon.ofSource (source : String) : Except LexiconError Lexicon :=
  match Regex.ofText? (anchoredText source) with
  | none => .error .malformed
  | some regex =>
    if !regex.fits then .error .malformed
    else if regex.groupNames = [] then .error (.unnamed source)
    else .ok ⟨source, regex.groupNames, regex.program⟩

/-- What a lexicon finds at the front of a text: how many bytes the match takes, and the kind and
text of the token in it, if it is one. -/
structure Hit where
  length : Nat
  word? : Option (String × String)
deriving DecidableEq, Repr

/-- The stretch of a text between two places, counted in characters. -/
def stretch (text : List Char) (start stop : Nat) : List Char :=
  (text.drop start).take (stop - start)

/-- Of the groups that took part in a match, the one that opens first gives the kind. -/
def Lexicon.wordOf? (lexicon : Lexicon) (text : List Char) (captures : Captures) :
    Option (String × String) :=
  lexicon.kinds.findSome? fun kind =>
    (captures.taken.lookup kind).map fun (start, stop) =>
      (kind, String.ofList (stretch text start stop))

def Lexicon.match? (lexicon : Lexicon) (text : List Char) : Option Hit :=
  (lexicon.program.search? text).map fun found =>
    ⟨byteLength (stretch text found.start found.stop), lexicon.wordOf? text found.captures⟩

theorem Lexicon.wordOf?_kind_mem {lexicon : Lexicon} {text : List Char} {captures : Captures}
    {kind value : String} (found : lexicon.wordOf? text captures = some (kind, value)) :
    kind ∈ lexicon.kinds := by
  obtain ⟨name, member, taken⟩ := List.exists_of_findSome?_eq_some found
  obtain ⟨range, _, same⟩ := Option.map_eq_some_iff.mp taken
  simp only [Prod.mk.injEq] at same
  exact same.1 ▸ member

/-- A token that is found has one of the kinds of the lexicon. -/
theorem Lexicon.match?_kind_mem {lexicon : Lexicon} {text : List Char} {hit : Hit}
    {kind value : String} (found : lexicon.match? text = some hit)
    (word : hit.word? = some (kind, value)) : kind ∈ lexicon.kinds := by
  obtain ⟨place, _, same⟩ := Option.map_eq_some_iff.mp found
  subst same
  exact lexicon.wordOf?_kind_mem word

end Precedence
