import Headword.Trimmer

/-!
# English

Word lists and templates for the filler around English dictionary entries.
-/

namespace Headword.English

/-- Articles and other determiners, which may be left out. -/
def articles : List String :=
  ["", "a", "an", "the", "this", "that", "these", "those", "my", "your", "his", "her", "its",
   "our", "their", "one's", "one's own", "sb's", "some", "any", "no"]

/-- Personal, object, reflexive and indefinite pronouns. -/
def pronouns : List String :=
  ["i", "me", "you", "he", "him", "she", "her", "it", "we", "us", "they", "them", "myself",
   "yourself", "himself", "herself", "itself", "oneself", "ourselves", "yourselves", "themselves",
   "one", "someone", "somebody", "something", "sb", "sth"]

/-- Common verbs with their inflected forms. -/
def verbs : List String :=
  ["be", "am", "is", "are", "was", "were", "been", "being", "have", "has", "had", "having", "do",
   "does", "did", "done", "doing", "make", "makes", "made", "making", "take", "takes", "took",
   "taken", "taking", "get", "gets", "got", "gotten", "getting", "give", "gives", "gave", "given",
   "giving", "go", "goes", "went", "gone", "going", "keep", "keeps", "kept", "keeping", "put",
   "puts", "putting", "come", "comes", "came", "coming", "let", "lets", "letting", "set", "sets",
   "setting"]

/-- Prepositions, some of more than one word. -/
def prepositions : List String :=
  ["about", "above", "across", "after", "against", "along", "among", "around", "at", "before",
   "behind", "below", "beneath", "beside", "between", "beyond", "by", "down", "during", "for",
   "from", "in", "in front of", "inside", "into", "like", "near", "of", "off", "on", "onto",
   "out", "out of", "over", "through", "to", "toward", "towards", "under", "up", "upon", "with",
   "within", "without"]

/-- Templates for the beginning of a phrase. -/
def leadingTexts : List String :=
  ["to \x7bverb\x7d \x7bart\x7d", "to \x7bverb\x7d \x7bpron\x7d", "to",
   "\x7bverb\x7d \x7bart\x7d", "\x7bverb\x7d \x7bpron\x7d", "\x7bart\x7d", "\x7bpron\x7d",
   "\x7bprep\x7d \x7bart\x7d", "\x7bprep\x7d \x7bpron\x7d"]

/-- Templates for the end of a phrase. -/
def trailingTexts : List String :=
  ["\x7bprep\x7d", "\x7bprep\x7d \x7bart\x7d", "\x7bprep\x7d \x7bpron\x7d", "\x7bpron\x7d",
   "sth.", "sb.", "\x7bprep\x7d sth.", "\x7bprep\x7d sb."]

def vocabulary : Vocabulary :=
  (((Vocabulary.empty.extend .article articles).extend .pronoun pronouns).extend .verb verbs).extend
    .preposition prepositions

def leading : Except Fault Catalog :=
  Catalog.parse "english leading" leadingTexts

def trailing : Except Fault Catalog :=
  Catalog.parse "english trailing" trailingTexts

/-- The English trimmer, which never strips an ignored word. -/
def trimmer (ignored : List String) : Except Fault Trimmer := do
  Trimmer.build (← leading) (← trailing) vocabulary ignored

end Headword.English
