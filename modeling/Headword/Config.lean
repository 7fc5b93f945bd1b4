import Headword.Matcher

/-!
# Configurations

All that is needed to build a matcher.
-/

namespace Headword

/-- A catalog, its word lists, and how to use them. -/
structure Config where
  catalog : Catalog
  vocabulary : Vocabulary
  direction : Direction := .forward
  /-- Words that are never filler. -/
  ignored : WordSet := .empty
  deriving DecidableEq

namespace Config

def withDirection (c : Config) (direction : Direction) : Config :=
  { c with direction }

/-- The configuration with more ignored words, which are lowercased. -/
def ignore (c : Config) (ws : List String) : Config :=
  { c with ignored := c.ignored.insertAll (ws.map Text.lowercase) }

def addTemplate (c : Config) (t : Template) : Config :=
  { c with catalog := c.catalog.push t }

def addEntries (c : Config) (category : Category) (texts : List String) : Config :=
  { c with vocabulary := c.vocabulary.extend category texts }

def build (c : Config) : Except Fault Matcher :=
  Matcher.build c.catalog c.vocabulary c.direction c.ignored.words

end Config

end Headword
