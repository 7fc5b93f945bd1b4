import Headword.Trie.Cursor

/-!
# Longest matches in a trie

A walk follows the words of a phrase from a cursor along every branch at once.  An unknown word, given
as `none`, ends it.
-/

namespace Headword

namespace Trie

/-- The largest number of words after which a walk from the cursor may stop, if there is any. -/
def longestFrom (t : Trie) : List (Option WordId) → Cursor → Option Nat
  | [], _ => none
  | none :: _, _ => none
  | some w :: rest, c =>
    let reached := t.step c w
    -- stopping here is worth one word, and going on one word more than the branch
    let here := if reached.any (t.completes rest.isEmpty) then some 1 else none
    reached.foldl (fun best d => max best ((t.longestFrom rest d).map (· + 1))) here

/-- A word that leads a walk to several cursors. -/
structure Fork where
  word : WordId
  /-- The number of words before it. -/
  position : Nat
  branches : Nat
  deriving DecidableEq

/-- The forks of a walk from the cursor, each before the forks on its branches; `position` words have
been walked already. -/
def forksFrom (t : Trie) : List (Option WordId) → Nat → Cursor → List Fork
  | [], _, _ => []
  | none :: _, _, _ => []
  | some w :: rest, position, c =>
    let reached := t.step c w
    let fork := if 2 ≤ reached.length then [⟨w, position, reached.length⟩] else []
    fork ++ reached.flatMap (t.forksFrom rest (position + 1))

end Trie

end Headword
