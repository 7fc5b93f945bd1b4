import Headword.Catalog
import Headword.Category
import Headword.Category.Marker
import Headword.Config
import Headword.Config.Encoding
import Headword.Direction
import Headword.Document
import Headword.English
import Headword.Fault
import Headword.Grammar
import Headword.Journal
import Headword.Lexicon
import Headword.Matcher
import Headword.Phrase
import Headword.Template
import Headword.Template.Reading
import Headword.Text.Blank
import Headword.Text.CaseIgnorable
import Headword.Text.Cased
import Headword.Text.CodeRange
import Headword.Text.Combining
import Headword.Text.Lowercase
import Headword.Text.Normal
import Headword.Text.Quoted
import Headword.Text.Terminal
import Headword.Text.Unprintable
import Headword.Text.Words
import Headword.Trie
import Headword.Trie.Cursor
import Headword.Trie.Search
import Headword.Trimmer
import Headword.Vocabulary
import Headword.WordSet
import Headword.WordTrie
import Headword.Proofs.Trie.Chart
import Headword.Proofs.Trie.Building
import Headword.Proofs.Trie.Laying
import Headword.Proofs.Trie.Checked
import Headword.Proofs.Grammar.Layout
import Headword.Proofs.Grammar.WellFormed
import Headword.Proofs.Grammar.Paths
import Headword.Proofs.Grammar.Language
import Headword.Proofs.Grammar.Walks
import Headword.Proofs.Grammar.Cursors
import Headword.Proofs.Grammar.LongestMatch
import Headword.Proofs.Text.Lowercase
import Headword.Proofs.Text.Normal
import Headword.Proofs.Text.Terminal
import Headword.Proofs.Grammar.Knows
import Headword.Proofs.Phrase
import Headword.Proofs.Matcher.Matches
import Headword.Proofs.Matcher.Splitting
import Headword.Proofs.Matcher.WholeTemplates
import Headword.Proofs.Matcher.Ignored
import Headword.Proofs.Trimmer.Content
import Headword.Proofs.Trimmer.Ignored
import Headword.Proofs.Grammar.Compiling
import Headword.Proofs.Grammar.Ignoring
import Headword.Proofs.Grammar.Optional
import Headword.Proofs.Grammar.Comparing
import Headword.Proofs.Grammar.Joining
import Headword.Proofs.Grammar.Mirroring
import Headword.Proofs.Matcher.Reordering
import Headword.Proofs.Grammar.Growing
import Headword.Proofs.Grammar.KnownWords
import Headword.Proofs.Config.Encoding
import Headword.Proofs.Text.Punctuated
import Headword.Proofs.Matcher.Remainders
import Headword.Proofs.Matcher.Transparency
import Headword.Proofs.Trimmer.Stripping
import Headword.Proofs.Category.Marker
import Headword.Proofs.First
import Headword.Proofs.Catalog.Reading
import Headword.Proofs.Template.Display
import Headword.Proofs.Trie.Extending
import Headword.Proofs.Grammar.Subtrees
import Headword.Proofs.Grammar.Failing
import Headword.Proofs.Trimmer.Failing
import Headword.Proofs.Template.Expansions
import Headword.Proofs.Grammar.Frontier
import Headword.Proofs.Config.Building
import Headword.Proofs.Text.Trimming
import Headword.Proofs.Text.SameWords
import Headword.Proofs.Trimmer.SameWords
import Headword.Proofs.Lexicon
import Headword.Proofs.Trie.Halving
import Headword.Proofs.Trie.Construction
