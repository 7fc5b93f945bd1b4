/-!
# Terminal punctuation

The marks that end a phrase, and the run of them at the end of a word.
-/

namespace Headword.Text

/-- A full stop, exclamation mark, question mark or ellipsis. -/
def isTerminal (c : Char) : Bool :=
  c = '.' || c = '!' || c = '?' || c = '…'

/-- What is left of a word without the terminal punctuation at its end. -/
def stem (w : String) : String :=
  String.ofList (w.toList.reverse.dropWhile isTerminal).reverse

/-- The longest run of terminal punctuation at the end of a word. -/
def terminalRun (w : String) : String :=
  String.ofList (w.toList.reverse.takeWhile isTerminal).reverse

theorem stem_append_terminalRun (w : String) : stem w ++ terminalRun w = w := by
  rw [← String.toList_inj]
  simp only [stem, terminalRun, String.toList_append, String.toList_ofList, ← List.reverse_append,
    List.takeWhile_append_dropWhile, List.reverse_reverse]

theorem isTerminal_of_mem_terminalRun {w : String} {c : Char} (h : c ∈ (terminalRun w).toList) :
    isTerminal c = true := by
  simp only [terminalRun, String.toList_ofList, List.mem_reverse] at h
  exact List.all_eq_true.mp List.all_takeWhile c h

end Headword.Text
