import Headword.Text.Blank
import Headword.Text.Lowercase
import Headword.Text.Words

/-!
# Lowercase forms

Lowercasing changes a text only once and keeps words words.  Both are read off the table of case spans,
one span against another: what a span yields is no letter of any span.
-/

namespace Headword.Text

namespace CaseSpan

def upper (s : CaseSpan) : Nat :=
  s.lower + (s.last - s.first)

def Yields (s : CaseSpan) (m : Nat) : Prop :=
  s.lower ≤ m ∧ m ≤ s.upper ∧ (m - s.lower) % s.step = 0

/-- What the span yields is no letter of the others.  Where both take every second code point, they may
lie between each other. -/
def settled (s : CaseSpan) : List CaseSpan → Bool
  | [] => true
  | t :: rest =>
    decide (s.upper < t.first) ||
      ((decide (t.last < s.lower) ||
        (decide (t.step = 2) && (decide (s.step = 2) || decide (s.first = s.last)) &&
          decide ((s.lower + t.first) % 2 = 1))) && s.settled rest)

def avoids (s : CaseSpan) (r : CodeRange) : Bool :=
  decide (s.upper < r.first) || decide (r.last < s.lower)

theorem lowerCode_of_settled {s : CaseSpan} {m : Nat} {spans : List CaseSpan} (hm : s.Yields m)
    (h : s.settled spans = true) : lowerCode spans m = m := by
  obtain ⟨hlow, hup, hstep⟩ := hm
  induction spans with
  | nil => rfl
  | cons t rest ih =>
    rw [settled] at h
    simp only [Bool.or_eq_true, Bool.and_eq_true, decide_eq_true_eq] at h
    rw [lowerCode]
    by_cases hfirst : m < t.first
    · rw [if_pos hfirst]
    · rw [if_neg hfirst]
      rcases h with hafter | ⟨hbefore | ⟨⟨htwo, hown⟩, hodd⟩, hrest⟩
      · omega
      · rw [if_neg (by omega)]
        exact ih hrest
      · -- the distance to the first letter is odd
        have heven : (m - s.lower) % 2 = 0 := by
          rcases hown with hs | hone
          · rwa [hs] at hstep
          · unfold upper at hup
            omega
        have hdist : (m - t.first) % t.step ≠ 0 := by
          rw [htwo]
          omega
        rw [if_neg hdist, ih hrest, ite_self]

theorem lowerCode_eq_or_yields (spans : List CaseSpan) (n : Nat) :
    lowerCode spans n = n ∨ ∃ s ∈ spans, s.Yields (lowerCode spans n) := by
  induction spans with
  | nil => exact .inl rfl
  | cons t rest ih =>
    rw [lowerCode]
    split
    · exact .inl rfl
    · split
      · split
        next hlast hstep =>
          refine .inr ⟨t, List.mem_cons_self .., by omega, by unfold upper; omega, ?_⟩
          rwa [Nat.add_sub_cancel_left]
        · exact .inl rfl
      · apply ih.imp id
        rintro ⟨s, hs, hyield⟩
        exact ⟨s, List.mem_cons_of_mem _ hs, hyield⟩

theorem not_contains_of_avoids {s : CaseSpan} {r : CodeRange} {m : Nat} (hm : s.Yields m)
    (h : s.avoids r = true) : ¬r.Contains m := by
  rw [avoids, Bool.or_eq_true, decide_eq_true_eq, decide_eq_true_eq] at h
  intro hcontains
  obtain ⟨hfirst, hlast⟩ := hcontains
  obtain ⟨hlow, hup, -⟩ := hm
  omega

end CaseSpan

/-- Code points that no lowercase form may have: blanks, the capital I with a dot and surrogates. -/
def barredRanges : List CodeRange :=
  ⟨0x0130, 0x0130⟩ :: ⟨0xD800, 0xDFFF⟩ :: blankRanges

theorem settled_caseSpans : ∀ s ∈ caseSpans, s.settled caseSpans = true := by
  decide +kernel

theorem avoids_caseSpans :
    ∀ s ∈ caseSpans, s.upper < 0x110000 ∧ ∀ r ∈ barredRanges, s.avoids r = true := by
  decide +kernel

theorem blankRanges_increasing : CodeRange.Increasing blankRanges := by
  constructor <;> decide

/-- A character that lowercasing keeps wherever it stands. -/
def IsLower (c : Char) : Prop :=
  c ≠ 'Σ' ∧ lowerChar c = [c]

instance (c : Char) : Decidable (IsLower c) :=
  inferInstanceAs (Decidable (_ ∧ _))

/-- What a span yields is the code of a character. -/
theorem toNat_ofNat_of_yields {s : CaseSpan} (hs : s ∈ caseSpans) {m : Nat} (hm : s.Yields m) :
    (Char.ofNat m).toNat = m ∧ ∀ r ∈ barredRanges, ¬r.Contains m := by
  obtain ⟨hlt, havoid⟩ := avoids_caseSpans s hs
  have houtside : ∀ r ∈ barredRanges, ¬r.Contains m := by
    intro r hr
    exact CaseSpan.not_contains_of_avoids hm (havoid r hr)
  have hsurrogate := houtside ⟨0xD800, 0xDFFF⟩ (by simp [barredRanges])
  simp only [CodeRange.Contains] at hsurrogate
  have hvalid : m.isValidChar := by
    have hup := hm.2.1
    unfold Nat.isValidChar
    omega
  refine ⟨?_, houtside⟩
  rw [Char.ofNat, dif_pos hvalid]
  rfl

theorem isLower_ofNat {s : CaseSpan} (hs : s ∈ caseSpans) {m : Nat} (hm : s.Yields m) :
    IsLower (Char.ofNat m) ∧ isBlank (Char.ofNat m) = false := by
  obtain ⟨hnat, houtside⟩ := toNat_ofNat_of_yields hs hm
  have hdot := houtside ⟨0x0130, 0x0130⟩ (by simp [barredRanges])
  simp only [CodeRange.Contains] at hdot
  have hfix : lowerCode caseSpans m = m := CaseSpan.lowerCode_of_settled hm (settled_caseSpans s hs)
  refine ⟨⟨?_, ?_⟩, ?_⟩
  · -- the capital sigma has a small letter, so no span yields it
    intro heq
    have hsigma : m = 0x03A3 := by
      rw [← hnat, heq]
      rfl
    rw [hsigma] at hfix
    revert hfix
    decide
  · have hne : Char.ofNat m ≠ 'İ' := by
      intro heq
      have hm' : m = 0x0130 := by
        rw [← hnat, heq]
        rfl
      omega
    rw [lowerChar, if_neg hne, hnat, hfix]
  · rw [isBlank, hnat, Bool.eq_false_iff]
    intro hblank
    obtain ⟨r, hr, hcontains⟩ := (CodeRange.anyContains_iff blankRanges_increasing m).mp hblank
    exact houtside r (List.mem_cons_of_mem _ (List.mem_cons_of_mem _ hr)) hcontains

/-- A character is its own lowercase form, or has one that lowercasing keeps. -/
theorem of_mem_lowerChar {c d : Char} (h : d ∈ lowerChar c) :
    (d = c ∧ lowerChar c = [c]) ∨ (IsLower d ∧ isBlank d = false) := by
  rw [lowerChar] at h
  split at h
  · -- the capital I with a dot has a small i and a combining dot
    simp only [List.mem_cons, List.not_mem_nil, or_false] at h
    rcases h with rfl | rfl
    · exact .inr (by decide)
    · exact .inr (by decide)
  next hdot =>
    obtain rfl := List.mem_singleton.mp h
    rcases CaseSpan.lowerCode_eq_or_yields caseSpans c.toNat with heq | ⟨s, hs, hm⟩
    · rw [lowerChar, if_neg hdot, heq, Char.ofNat_toNat]
      exact .inl ⟨rfl, rfl⟩
    · exact .inr (isLower_ofNat hs hm)

theorem isLower_of_mem_lowerChar {c d : Char} (hc : c ≠ 'Σ') (h : d ∈ lowerChar c) : IsLower d := by
  rcases of_mem_lowerChar h with ⟨rfl, hkeep⟩ | ⟨hlower, -⟩
  · exact ⟨hc, hkeep⟩
  · exact hlower

theorem isBlank_of_mem_lowerChar {c d : Char} (hc : isBlank c = false) (h : d ∈ lowerChar c) :
    isBlank d = false := by
  rcases of_mem_lowerChar h with ⟨rfl, -⟩ | ⟨-, hblank⟩
  · exact hc
  · exact hblank

theorem lowercaseFrom_of_isLower {cs : List Char} (h : ∀ c ∈ cs, IsLower c) (before : Bool) :
    lowercaseFrom before cs = cs := by
  induction cs generalizing before with
  | nil => rfl
  | cons c cs ih =>
    obtain ⟨hsigma, hkeep⟩ := h c (List.mem_cons_self ..)
    rw [lowercaseFrom, if_neg hsigma, hkeep, ih fun d hd => h d (List.mem_cons_of_mem _ hd)]
    rfl

/-- Whatever holds of the lowercase forms of characters holds of the lowercase form of a text. -/
theorem of_mem_lowercaseFrom {P Q : Char → Prop} (hsigma : P 'Σ' → Q 'σ' ∧ Q 'ς')
    (hchar : ∀ c d, c ≠ 'Σ' → P c → d ∈ lowerChar c → Q d) {cs : List Char} (hcs : ∀ c ∈ cs, P c)
    {before : Bool} {d : Char} (hd : d ∈ lowercaseFrom before cs) : Q d := by
  induction cs generalizing before with
  | nil => cases hd
  | cons c cs ih =>
    have hc := hcs c (List.mem_cons_self ..)
    rw [lowercaseFrom, List.mem_append] at hd
    rcases hd with hd | hd
    · split at hd
      next heq =>
        obtain rfl := List.mem_singleton.mp hd
        rw [heq] at hc
        split
        · exact (hsigma hc).2
        · exact (hsigma hc).1
      next hne => exact hchar c d hne hc hd
    · exact ih (fun e he => hcs e (List.mem_cons_of_mem _ he)) hd

theorem isLower_of_mem_lowercase {text : String} {c : Char} (h : c ∈ (lowercase text).toList) :
    IsLower c := by
  rw [lowercase, String.toList_ofList] at h
  apply of_mem_lowercaseFrom (P := fun _ => True) (Q := IsLower) _ _ (fun _ _ => trivial) h
  · exact fun _ => ⟨by decide, by decide⟩
  · exact fun c d hc _ hd => isLower_of_mem_lowerChar hc hd

/-- Lowercasing keeps the texts that are made of characters that it keeps everywhere. -/
theorem lowercase_eq_self_iff {text : String} : lowercase text = text ↔ ∀ c ∈ text.toList, IsLower c := by
  constructor
  · intro h c hc
    rw [← h] at hc
    exact isLower_of_mem_lowercase hc
  · intro h
    rw [lowercase, lowercaseFrom_of_isLower h, String.ofList_toList]

theorem lowercase_lowercase (text : String) : lowercase (lowercase text) = lowercase text :=
  lowercase_eq_self_iff.mpr fun _ hc => isLower_of_mem_lowercase hc

theorem lowerChar_ne_nil (c : Char) : lowerChar c ≠ [] := by
  rw [lowerChar]
  split
  · exact List.cons_ne_nil _ _
  · exact List.cons_ne_nil _ _

theorem lowercaseFrom_cons_ne_nil (before : Bool) (c : Char) (cs : List Char) :
    lowercaseFrom before (c :: cs) ≠ [] := by
  rw [lowercaseFrom]
  apply List.append_ne_nil_of_left_ne_nil
  split
  · exact List.cons_ne_nil _ _
  · exact lowerChar_ne_nil c

theorem isBlank_of_mem_lowercaseFrom {before : Bool} {cs : List Char} {d : Char}
    (hcs : ∀ c ∈ cs, isBlank c = false) (hd : d ∈ lowercaseFrom before cs) : isBlank d = false := by
  apply of_mem_lowercaseFrom (P := fun c => isBlank c = false) (Q := fun c => isBlank c = false) _ _
    hcs hd
  · exact fun _ => ⟨by decide, by decide⟩
  · exact fun c d _ hc hd => isBlank_of_mem_lowerChar hc hd

theorem isWord_lowercase {w : String} (h : IsWord w.toList) : IsWord (lowercase w).toList := by
  obtain ⟨hne, hblank⟩ := h
  rw [lowercase, String.toList_ofList]
  constructor
  · cases hcs : w.toList with
    | nil => exact absurd hcs hne
    | cons c cs => exact lowercaseFrom_cons_ne_nil false c cs
  · exact fun d hd => isBlank_of_mem_lowercaseFrom hblank hd

/-- Lowercasing brings in no character of a class that all lowercase forms stay out of. -/
theorem forall_mem_lowercase {p : Char → Bool} {ranges : List CodeRange}
    (hp : ∀ c, p c = true → ∃ r ∈ ranges, r.Contains c.toNat)
    (havoid : ∀ s ∈ caseSpans, ∀ r ∈ ranges, s.avoids r = true)
    (hforms : ['i', '\u0307', 'σ', 'ς'].any p = false) {text : String}
    (htext : ∀ c ∈ text.toList, p c = false) : ∀ c ∈ (lowercase text).toList, p c = false := by
  have hform : ∀ c ∈ ['i', '\u0307', 'σ', 'ς'], p c = false :=
    fun c hc => Bool.eq_false_iff.mpr (List.any_eq_false.mp hforms c hc)
  intro d hd
  rw [lowercase, String.toList_ofList] at hd
  apply of_mem_lowercaseFrom (P := fun c => p c = false) (Q := fun c => p c = false) _ _ htext hd
  · exact fun _ => ⟨hform 'σ' (by simp), hform 'ς' (by simp)⟩
  · intro c d _ hc hd
    rw [lowerChar] at hd
    split at hd
    · exact hform d (List.mem_append_left ['σ', 'ς'] hd)
    · obtain rfl := List.mem_singleton.mp hd
      rcases CaseSpan.lowerCode_eq_or_yields caseSpans c.toNat with heq | ⟨s, hs, hm⟩
      · rw [heq, Char.ofNat_toNat]
        exact hc
      · -- a span yields nothing in the ranges of the class
        rw [Bool.eq_false_iff]
        intro hclass
        obtain ⟨r, hr, hcontains⟩ := hp _ hclass
        rw [(toNat_ofNat_of_yields hs hm).1] at hcontains
        exact CaseSpan.not_contains_of_avoids hm (havoid s hs r hr) hcontains

/-! ## Characters without case -/

/-- A character without case: lowercasing keeps it and sees no letter in it. -/
def IsUncased (c : Char) : Prop :=
  IsLower c ∧ isCased c = false

instance (c : Char) : Decidable (IsUncased c) :=
  inferInstanceAs (Decidable (_ ∧ _))

theorem casedAhead_of_uncased {cs : List Char} (h : ∀ c ∈ cs, isCased c = false) :
    casedAhead cs = false := by
  induction cs with
  | nil => rfl
  | cons c cs ih =>
    rw [casedAhead, ih fun d hd => h d (List.mem_cons_of_mem _ hd), h c (List.mem_cons_self ..), ite_self]

/-- A letter looks past the end of its word the same way, with characters without case there or not. -/
theorem casedAhead_append_of_uncased {ds : List Char} (h : ∀ d ∈ ds, isCased d = false)
    (cs : List Char) : casedAhead (cs ++ ds) = casedAhead cs := by
  induction cs with
  | nil => exact casedAhead_of_uncased h
  | cons c cs ih => rw [List.cons_append, casedAhead, casedAhead, ih]

theorem lowercaseFrom_append_of_uncased {ds : List Char} (h : ∀ d ∈ ds, IsUncased d) (before : Bool)
    (cs : List Char) :
    lowercaseFrom before (cs ++ ds) = lowercaseFrom before cs ++ ds := by
  induction cs generalizing before with
  | nil => exact lowercaseFrom_of_isLower (fun d hd => (h d hd).1) before
  | cons c cs ih =>
    rw [List.cons_append, lowercaseFrom, lowercaseFrom, ih,
      casedAhead_append_of_uncased fun d hd => (h d hd).2, List.append_assoc]

/-- A text that starts with a character without case goes on like a text that starts after it. -/
theorem lowercaseFrom_cons_of_uncased {c : Char} (h : IsUncased c) (cs : List Char) :
    lowercaseFrom false (c :: cs) = c :: lowercaseFrom false cs := by
  obtain ⟨⟨hsigma, hkeep⟩, hcased⟩ := h
  rw [lowercaseFrom, if_neg hsigma, hkeep, hcased, ite_self]
  rfl

end Headword.Text
