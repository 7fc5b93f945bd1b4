import Headword.Direction
import Headword.Trie
import Headword.Vocabulary
import Headword.WordSet

/-!
# Tries over the words of a lexicon

Words are numbered by the lexicon when a path that needs them is laid.  A category is laid as a subtree
of its own, with one path for each of its entries.
-/

namespace Headword

def Entry.avoids (entry : Entry) (ignored : WordSet) : Bool :=
  entry.all fun w => decide (w ∉ ignored)

/-- The entries without ignored words, in walking order. -/
def walkedEntries (entries : List Entry) (direction : Direction) (ignored : WordSet) :
    List (List String) :=
  (entries.filter (·.avoids ignored)).map direction.orient

theorem Entry.avoids_iff {entry : Entry} {ignored : WordSet} :
    entry.avoids ignored = true ↔ ∀ w ∈ entry, w ∉ ignored := by
  simp [avoids]

/-- A trie together with the lexicon that numbers its words. -/
structure WordTrie where
  trie : Trie
  lexicon : Lexicon
  deriving DecidableEq

namespace WordTrie

def empty : WordTrie :=
  ⟨.empty, .empty⟩

def alloc (s : WordTrie) : NodeId × WordTrie :=
  let (id, trie) := s.trie.alloc
  (id, { s with trie })

/-- The child of a node for a word, either of which is added if it is new. -/
def addWord (s : WordTrie) (parent : NodeId) (w : String) : NodeId × WordTrie :=
  let (id, lexicon) := s.lexicon.intern w
  let (child, trie) := s.trie.wordChild parent id
  (child, ⟨trie, lexicon⟩)

/-- The end of a path of words that starts at a node. -/
def addPath (s : WordTrie) (start : NodeId) : List String → NodeId × WordTrie
  | [] => (start, s)
  | w :: rest =>
    let (child, s) := s.addWord start w
    s.addPath child rest

/-- Lays the path of an entry, given in walking order, in the subtree at `root`. -/
def addEntry (root : NodeId) (s : WordTrie) (words : List String) : WordTrie :=
  let (last, s) := s.addPath root words
  { s with trie := s.trie.markEntry last }

/-- Makes a new subtree for entries in walking order.  The empty entry ends at its root. -/
def addCategory (s : WordTrie) (entries : List (List String)) : NodeId × WordTrie :=
  let (root, s) := s.alloc
  (root, entries.foldl (addEntry root) s)

end WordTrie

end Headword
