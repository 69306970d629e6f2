/-
  SqlPipeline/Proofs/Text/Upper.lean
  ==================================
  **Upper case makes letters of ASCII of few other characters.**

  Of the characters beyond ASCII few have an upper case that starts with a letter of ASCII
  (`asciiCapitals`).  So some of the signs that decide how a text is cut are the upper case of no
  character beyond it (`toNat_lt_of_upperChar`), and the upper case of a digit starts with no
  letter (`upperChar_of_isDigitLike`).
-/
import SqlPipeline.Proofs.Text.Cut
import SqlPipeline.Text.Case
import Mathlib.Tactic.Common

namespace SqlPipeline.Text

variable {c : Char}

/-- The characters beyond ASCII whose upper case starts with a letter of ASCII. -/
def asciiCapitals : List Nat :=
  [0xDF, 0x131, 0x17F, 0x1F0, 0x1E96, 0x1E97, 0x1E98, 0x1E99, 0x1E9A,
    0xFB00, 0xFB01, 0xFB02, 0xFB03, 0xFB04, 0xFB05, 0xFB06]

/-- A code point of a character beyond ASCII. -/
def IsBeyond (code : Nat) : Prop :=
  128 ≤ code ∧ code.isValidChar

instance (code : Nat) : Decidable (IsBeyond code) :=
  inferInstanceAs (Decidable (_ ∧ _))

theorem IsBeyond.le_toNat {code : Nat} (h : IsBeyond code) : 128 ≤ (Char.ofNat code).toNat := by
  have hcode : Char.ofNat code = Char.ofNatAux code h.2 := dif_pos h.2
  rw [hcode]
  exact h.1

theorem upperExpansions_start : ∀ e ∈ upperExpansions, ∃ code ∈ e.2.head?,
    IsBeyond code ∨ e.1 ∈ asciiCapitals := by
  decide +kernel

/-- The images of a run lie between those of its ends, and so does no surrogate. -/
theorem upperRuns_start : ∀ run ∈ upperRuns, (128 ≤ run.first + run.shift
      ∧ (run.last + run.shift < 0xD800 ∨ 0xE000 ≤ run.first + run.shift
          ∧ run.last + run.shift < 0x110000))
    ∨ run.first = run.last ∧ run.first ∈ asciiCapitals := by
  decide +kernel

theorem image?_beyond {run : CaseRun} {n code : Nat} (hrun : run ∈ upperRuns)
    (h : run.image? n = some code) : IsBeyond code ∨ n ∈ asciiCapitals := by
  rw [CaseRun.image?] at h
  split at h
  · rename_i hrange
    simp only [Bool.and_eq_true, decide_eq_true_eq] at hrange
    obtain rfl := Option.some.inj h
    rcases upperRuns_start run hrun with ⟨hfirst, hends⟩ | ⟨hsame, hmem⟩
    · left
      simp only [IsBeyond, Nat.isValidChar]
      omega
    · right
      rwa [show n = run.first by omega]
  · cases h

/-- The upper case of a character beyond ASCII starts beyond ASCII, but for some letters. -/
theorem upperChar_beyond (h : 128 ≤ c.toNat) : ∃ d rest, upperChar c = d :: rest
    ∧ (128 ≤ d.toNat ∨ c.toNat ∈ asciiCapitals) := by
  rw [upperChar, if_neg (by omega), mapCase]
  split
  · rename_i codes hfound
    obtain ⟨before, after, htable, -⟩ := List.lookup_eq_some_iff.1 hfound
    have hmem : (c.toNat, codes) ∈ upperExpansions := by simp [htable]
    obtain ⟨code, hcode, hstart⟩ := upperExpansions_start _ hmem
    obtain ⟨rest, rfl⟩ := List.head?_eq_some_iff.1 hcode
    exact ⟨_, _, List.map_cons, hstart.imp_left IsBeyond.le_toNat⟩
  · split
    · rename_i code hfound
      obtain ⟨run, hrun, himage⟩ := List.exists_of_findSome?_eq_some hfound
      exact ⟨_, [], rfl, (image?_beyond hrun himage).imp_left IsBeyond.le_toNat⟩
    · exact ⟨c, [], rfl, Or.inl h⟩

theorem upper_nil : upper [] = [] := rfl

theorem upper_cons (c : Char) (s : List Char) : upper (c :: s) = upperChar c ++ upper s := rfl

/-- Some signs of ASCII are the upper case of no character beyond it. -/
theorem toNat_lt_of_upperChar {d : Char} (h : upperChar c = [d])
    (hd : d ∈ ['E', 'N', Char.ofNat 0x7B]) : c.toNat < 128 := by
  by_contra hbeyond
  have hascii : ∀ d ∈ ['E', 'N', Char.ofNat 0x7B], d.toNat < 128 :=
    forall_of_all (by decide)
  have hother : ∀ d ∈ ['E', 'N', Char.ofNat 0x7B], ∀ n ∈ asciiCapitals,
      upperChar (Char.ofNat n) ≠ [d] := forall_of_all (by decide +kernel)
  obtain ⟨d', rest, heq, hd' | hmem⟩ := upperChar_beyond (Nat.le_of_not_lt hbeyond)
  · obtain rfl := (List.cons.inj (h.symm.trans heq)).1
    exact absurd (hascii d hd) (Nat.not_lt.2 hd')
  · have := hother d hd _ hmem
    rw [Char.ofNat_toNat] at this
    exact this h

theorem upperChar_eq_brace (h : upperChar c = [Char.ofNat 0x7B]) : c = Char.ofNat 0x7B := by
  have hall : ∀ n < 128, (Char.ofNat n).toUpper = Char.ofNat 0x7B →
      Char.ofNat n = Char.ofNat 0x7B := by decide
  have hc := toNat_lt_of_upperChar h (by decide)
  have heq := hall c.toNat hc
  rw [upperChar, if_pos hc] at h
  rw [Char.ofNat_toNat] at heq
  exact heq (List.cons.inj h).1

theorem upperChar_eq_letter {d : Char} (h : upperChar c = [d]) (hd : d ∈ ['E', 'N']) :
    c = d ∨ c = d.toLower := by
  have hall : ∀ d ∈ ['E', 'N'], ∀ n < 128, (Char.ofNat n).toUpper = d →
      Char.ofNat n = d ∨ Char.ofNat n = d.toLower := forall_of_all (by decide)
  have hc := toNat_lt_of_upperChar h (List.mem_append_left [Char.ofNat 0x7B] hd)
  have heq := hall d hd c.toNat hc
  rw [upperChar, if_pos hc] at h
  rw [Char.ofNat_toNat] at heq
  exact heq (List.cons.inj h).1

theorem upperChar_ne_nil (c : Char) : upperChar c ≠ [] := by
  by_cases h : c.toNat < 128
  · simp [upperChar, h]
  · obtain ⟨d, rest, heq, -⟩ := upperChar_beyond (Nat.le_of_not_lt h)
    simp [heq]

theorem asciiCapitals_not_digit : ∀ n ∈ asciiCapitals, isDigitLike (Char.ofNat n) = false := by
  decide +kernel

theorem isAsciiLetter_toNat_lt (h : isAsciiLetter c = true) : c.toNat < 128 := by
  simp only [isAsciiLetter, Bool.or_eq_true, Bool.and_eq_true, decide_eq_true_eq, Char.le_def,
    UInt32.le_iff_toNat_le] at h
  have hz : 'z'.val.toNat = 122 := rfl
  have hZ : 'Z'.val.toNat = 90 := rfl
  have hc : c.toNat = c.val.toNat := rfl
  omega

/-- The upper case of a digit starts with no letter of ASCII. -/
theorem upperChar_of_isDigitLike (h : isDigitLike c = true) :
    ∃ d rest, upperChar c = d :: rest ∧ isAsciiLetter d = false := by
  by_cases hascii : c.toNat < 128
  · have hall : ∀ n < 128, isDigitLike (Char.ofNat n) = true →
        isAsciiLetter (Char.ofNat n).toUpper = false := by decide
    have hlower := hall c.toNat hascii
    rw [Char.ofNat_toNat] at hlower
    exact ⟨c.toUpper, [], by rw [upperChar, if_pos hascii], hlower h⟩
  · obtain ⟨d, rest, heq, hd | hmem⟩ := upperChar_beyond (Nat.le_of_not_lt hascii)
    · refine ⟨d, rest, heq, Bool.eq_false_iff.2 fun hletter => ?_⟩
      have := isAsciiLetter_toNat_lt hletter
      omega
    · have hnot := asciiCapitals_not_digit _ hmem
      rw [Char.ofNat_toNat, h] at hnot
      cases hnot

end SqlPipeline.Text
