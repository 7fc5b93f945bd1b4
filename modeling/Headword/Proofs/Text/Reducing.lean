import Mathlib.Logic.Function.Iterate
import Headword.Proofs.Text.Normal

/-!
# Operations that take words away

An operation that leaves the whole of a text or fewer words, in normal form, can be applied again and
again only so often before it changes nothing.
-/

namespace Headword.Text

/-- The number of words in normal form. -/
def wordCount (text : String) : Nat :=
  (words (normalize text)).length

theorem wordCount_eq (text : String) : wordCount text = (normalWords text).length := by
  rw [wordCount, words_normalize]

theorem normalize_join {ws : List String} (h : ∀ w ∈ ws, IsNormal w) : normalize (join ws) = join ws := by
  rw [normalize, normalWords_join h]

theorem wordCount_join {ws : List String} (h : ∀ w ∈ ws, IsNormal w) : wordCount (join ws) = ws.length := by
  rw [wordCount_eq, normalWords_join h]

theorem normalize_normalize (text : String) : normalize (normalize text) = normalize text :=
  normalize_join fun _ hw => isNormal_of_mem_normalWords hw

theorem wordCount_normalize (text : String) : wordCount (normalize text) = wordCount text := by
  rw [wordCount, normalize_normalize, wordCount]

/-- What the operation leaves is in normal form, and all of the text or fewer words. -/
structure Reduces (f : String → String) : Prop where
  normal : ∀ text, normalize (f text) = f text
  eq_or_lt : ∀ text, f text = normalize text ∨ wordCount (f text) < wordCount text

namespace Reduces

variable {f g : String → String}

theorem wordCount_le (hf : Reduces f) (text : String) : wordCount (f text) ≤ wordCount text := by
  cases hf.eq_or_lt text with
  | inl heq =>
    have hcount : wordCount (f text) = wordCount text := by rw [heq, wordCount_normalize]
    exact Nat.le_of_eq hcount
  | inr hlt => exact Nat.le_of_lt hlt

theorem comp (hg : Reduces g) (hf : Reduces f) : Reduces (g ∘ f) := by
  constructor
  · intro text
    exact hg.normal (f text)
  · intro text
    show g (f text) = normalize text ∨ wordCount (g (f text)) < wordCount text
    have hle := hf.wordCount_le text
    cases hg.eq_or_lt (f text) with
    | inl heq =>
      rw [heq, hf.normal]
      exact hf.eq_or_lt text
    | inr hlt => exact .inr (Nat.lt_of_lt_of_le hlt hle)

/-- From the first application on the text is in normal form: it stays as it is or loses words. -/
theorem iterate_eq_or_lt (hf : Reduces f) (text : String) (n : Nat) :
    f (f^[n + 1] text) = f^[n + 1] text ∨
      wordCount (f (f^[n + 1] text)) < wordCount (f^[n + 1] text) := by
  rw [Function.iterate_succ_apply']
  have hagain := hf.eq_or_lt (f (f^[n] text))
  rwa [hf.normal] at hagain

/-- Every application after the first one takes a word away, until nothing changes any more. -/
theorem iterate (hf : Reduces f) (text : String) (n : Nat) :
    f (f^[n + 1] text) = f^[n + 1] text ∨ wordCount (f^[n + 1] text) + n ≤ wordCount text := by
  induction n with
  | zero =>
    rw [Nat.zero_add, Function.iterate_one, Nat.add_zero]
    exact .inr (hf.wordCount_le text)
  | succ n ih =>
    rw [Function.iterate_succ_apply']
    cases ih with
    | inl hfixed =>
      rw [hfixed]
      exact .inl hfixed
    | inr hcount =>
      cases hf.iterate_eq_or_lt text n with
      | inl hfixed =>
        rw [hfixed]
        exact .inl hfixed
      | inr hlt => exact .inr (by omega)

/-- There is nothing left to take away after as many applications as there are words, and one more. -/
theorem iterate_fixed (hf : Reduces f) (text : String) :
    f (f^[wordCount text + 1] text) = f^[wordCount text + 1] text := by
  cases hf.iterate text (wordCount text) with
  | inl hfixed => exact hfixed
  | inr hcount =>
    exact (hf.iterate_eq_or_lt text (wordCount text)).resolve_right (by omega)

end Reduces

end Headword.Text
