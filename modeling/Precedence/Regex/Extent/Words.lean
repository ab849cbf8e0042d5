import Precedence.Regex.Extent.Basic

/-!
The part of an automaton that takes one of several words, which are lists of bytes. Words that
begin alike share the states for what they have in common, as long as no word that ends earlier
stands between them.
-/

namespace Precedence

namespace Words

/-- Of the words that are used up before any other, only one counts. -/
def dropRepeated : List (List Nat) → List (List Nat)
  | [] :: [] :: rest => dropRepeated ([] :: rest)
  | words => words

/-- The groups of words between those that are used up. -/
def groups (words : List (List Nat)) : List (List (List Nat)) :=
  let add (word : List Nat) (groups : List (List (List Nat))) : List (List (List Nat)) :=
    if word.isEmpty then [] :: groups else (word :: groups.headD []) :: groups.tail
  (dropRepeated words).foldr add [[]]

/-- The different bytes that words begin with. -/
def heads (words : List (List Nat)) : List Nat := (words.filterMap (·.head?)).eraseDups

/-- What is left of the words that begin with a byte. -/
def tails (byte : Nat) (words : List (List Nat)) : List (List Nat) :=
  words.filterMap fun word => if word.head? = some byte then some word.tail else none

end Words

namespace Extent

/-- Lays out a state in which some words are left, and all states after it: a fork over the groups
of words, and for each group a state with one way out for each head. A word that is used up after
a group or before one makes one more way out of the fork. A way that leads to words which are all
used up leads to the end. -/
def addWordsFrom : Nat → List (List Nat) → Extent → Extent
  | 0, _, extent => extent
  | depth + 1, words, extent =>
    let groups := Words.groups words
    let filled := groups.filter (!·.isEmpty)
    let addGroup (extent : Extent) (group : List (List Nat)) : Extent :=
      let heads := Words.heads group
      let extent := if heads.length = 1 then extent.addState else extent.addEdges heads.length
      let left := (heads.map (Words.tails · group)).filter fun words => !words.all (·.isEmpty)
      left.foldl (fun extent words => extent.addWordsFrom depth words) extent
    filled.foldl addGroup (extent.addFork (filled.length + (groups.length - 1)))

/-- Lays out a choice between words and the state where they meet. No more levels are needed than
the longest word has bytes. -/
def addWords (words : List (List Nat)) (extent : Extent) : Extent :=
  extent.addState.addWordsFrom ((words.map List.length).foldl max 0 + 1) words

end Extent

end Precedence
