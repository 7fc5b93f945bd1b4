import Headword.Matcher
import Headword.Text.Quoted

/-!
# Journal

What compiling and matching report while they work, and how the reports are worded.
-/

namespace Headword

/-- How much detail a report belongs to. -/
inductive Level
  | debug
  | trace
  deriving DecidableEq

def Level.name : Level → String
  | debug => "debug"
  | trace => "trace"

/-- Something worth a report. -/
inductive Event
  /-- An entry has been left out for this word in it, which is ignored. -/
  | entryDropped (entry : Entry) (word : String)
  /-- A catalog has been compiled. -/
  | compiled (name : Option String) (kept dropped nodes words : Nat)
  /-- A word, where the grammar has it, continues several branches of a search. -/
  | forked (word : Option String) (position branches : Nat)
  deriving DecidableEq

namespace Event

def level : Event → Level
  | entryDropped .. => .trace
  | compiled .. => .debug
  | forked .. => .trace

def message : Event → String
  | entryDropped entry word =>
    "dropping category sequence " ++ Text.quoteList entry ++ ": `" ++ word ++ "` is ignored"
  | compiled name kept dropped nodes words =>
    "compiled " ++ name.getD "unnamed" ++ " catalog (" ++ toString kept ++ " templates, " ++
      toString dropped ++ " dropped by ignored words): " ++ toString nodes ++ " nodes, " ++
      toString words ++ " words"
  | forked word position branches =>
    "`" ++ word.getD "?" ++ "` at " ++ toString position ++ " continues " ++ toString branches ++
      " branches"

end Event

/-- The reports on the entries of a category that are left out. -/
def Vocabulary.dropEvents (v : Vocabulary) (ignored : WordSet) (c : Category) : List Event :=
  (v.entries c).filterMap fun entry =>
    (entry.find? fun w => decide (w ∈ ignored)).map fun w => .entryDropped entry w

/-- The catalog up to the first template that cannot be compiled. -/
def Catalog.compilable (catalog : Catalog) (vocabulary : Vocabulary) : Catalog :=
  match catalog.missing? vocabulary with
  | some (index, _) => { catalog with templates := catalog.templates.take index }
  | none => catalog

/-- The reports of compiling.  A category is reported on when a row first asks for it, also if a later
template makes compiling fail. -/
def Grammar.compileEvents (catalog : Catalog) (vocabulary : Vocabulary) (direction : Direction)
    (ignored : WordSet) : List Event :=
  let rows := (catalog.compilable vocabulary).rows vocabulary direction ignored
  let asked := (rows.flatMap (·.filterMap Slot.category?)).eraseDups
  let dropped := catalog.templates.countP (·.mentionsAny ignored)
  asked.flatMap (vocabulary.dropEvents ignored) ++
    match compile catalog vocabulary direction ignored with
    | .ok g => [.compiled catalog.name (catalog.size - dropped) dropped g.size g.lexicon.size]
    | .error _ => []

def Matcher.buildEvents (catalog : Catalog) (vocabulary : Vocabulary) (direction : Direction)
    (ignored : List String) : List Event :=
  Grammar.compileEvents catalog vocabulary direction (ignoredWords ignored)

def Matcher.splitEvents (m : Matcher) (text : String) : List Event :=
  (m.forks text).map fun fork =>
    .forked (m.grammar.lexicon.word? fork.word) fork.position fork.branches

end Headword
