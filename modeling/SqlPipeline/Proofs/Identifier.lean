/-
  SqlPipeline/Proofs/Identifier.lean
  ==================================
  **Names that are checked can be put behind a schema and taken apart again.**

  A name that has been checked has no dot in it, so the last dot of a qualified name is the
  one behind the schema (`splitQualified_qualify`).  Its characters are no white space either,
  a newline at the end apart, and no quotes.
-/
import SqlPipeline.Identifier
import SqlPipeline.Text.CharSet
import Mathlib.Data.List.Basic
import Mathlib.Data.List.TakeDrop
import Mathlib.Data.List.TakeWhile

namespace SqlPipeline

open Text

/-! ### Characters of names -/

namespace Identifier

theorem isPart_of_isStart {c : Char} (h : isStart c = true) : isPart c = true := by
  rw [isStart, Bool.or_eq_true] at h
  rw [isPart, Bool.or_eq_true, Bool.or_eq_true]
  exact h.imp_left Or.inl

theorem isPart_of_mem {name : List Char} (h : isName name = true) : ∀ c ∈ name, isPart c = true := by
  cases name with
  | nil => cases h
  | cons start rest =>
    obtain ⟨hstart, hrest⟩ := Bool.and_eq_true_iff.1 h
    exact List.forall_mem_cons.2 ⟨isPart_of_isStart hstart, List.all_eq_true.1 hrest⟩

/-- A character of a name lies in one of four ranges. -/
theorem toNat_of_isPart {c : Char} (h : isPart c = true) :
    (97 ≤ c.toNat ∧ c.toNat ≤ 122) ∨ (65 ≤ c.toNat ∧ c.toNat ≤ 90)
      ∨ (48 ≤ c.toNat ∧ c.toNat ≤ 57) ∨ c.toNat = 95 := by
  have hle : ∀ a b : Char, a ≤ b ↔ a.toNat ≤ b.toNat := fun _ _ => Iff.rfl
  simp only [isPart, isAsciiLetter, isAsciiDigit, Bool.or_eq_true, Bool.and_eq_true,
    decide_eq_true_eq, beq_iff_eq, hle] at h
  rcases h with ((h | h) | h) | rfl
  · exact Or.inl h
  · exact Or.inr (Or.inl h)
  · exact Or.inr (Or.inr (Or.inl h))
  · exact Or.inr (Or.inr (Or.inr rfl))

/-- What is accepted as a name is one, with at most a newline behind it. -/
theorem of_isValid {s : String} (h : isValid s = true) :
    ∃ name, isName name = true ∧ (s.toList = name ∨ s.toList = name ++ ['\n']) := by
  rw [isValid, withoutFinalNewline] at h
  split at h
  · rename_i rest hreverse
    refine ⟨rest.reverse, h, Or.inr ?_⟩
    rw [← List.reverse_reverse s.toList, hreverse, List.reverse_cons]
  · exact ⟨_, h, Or.inl rfl⟩

theorem mem_of_isValid {s : String} (h : isValid s = true) :
    ∀ c ∈ s.toList, isPart c = true ∨ c = '\n' := by
  intro c hc
  obtain ⟨name, hname, heq | heq⟩ := of_isValid h
  · rw [heq] at hc
    exact Or.inl (isPart_of_mem hname c hc)
  · rw [heq] at hc
    rcases List.mem_append.1 hc with hc | hc
    · exact Or.inl (isPart_of_mem hname c hc)
    · exact Or.inr (List.mem_singleton.1 hc)

theorem ne_empty_of_isValid {s : String} (h : isValid s = true) : s ≠ "" := by
  rintro rfl
  exact absurd h (by decide)

theorem dot_notMem {s : String} (h : isValid s = true) : '.' ∉ s.toList := by
  intro hdot
  rcases mem_of_isValid h '.' hdot with hpart | hnewline
  · exact absurd hpart (by decide)
  · exact absurd hnewline (by decide)

end Identifier

/-! ### Names behind a schema -/

namespace Text

theorem cutAtLast?_append {c : Char} {after : List Char} (h : c ∉ after) (before : List Char) :
    cutAtLast? c (before ++ c :: after) = some (before, after) := by
  have hother : ∀ a ∈ after.reverse, (a != c) = true := by
    intro a ha
    simpa using fun heq : a = c => h (heq ▸ List.mem_reverse.1 ha)
  have hreverse : (before ++ c :: after).reverse = after.reverse ++ c :: before.reverse := by simp
  have hspan : (before ++ c :: after).reverse.span (· != c) = (after.reverse, c :: before.reverse) := by
    rw [hreverse, List.span_eq_takeWhile_dropWhile, List.takeWhile_append_of_pos hother,
      List.dropWhile_append_of_pos hother]
    simp
  rw [cutAtLast?, hspan]
  simp

theorem cutAtLast?_of_notMem {c : Char} {s : List Char} (h : c ∉ s) : cutAtLast? c s = none := by
  have hother : ∀ a ∈ s.reverse, (a != c) = true := by
    intro a ha
    simpa using fun heq : a = c => h (heq ▸ List.mem_reverse.1 ha)
  rw [cutAtLast?, List.span_eq_takeWhile_dropWhile, List.dropWhile_eq_nil_iff.2 hother]

end Text

theorem qualify_empty (name : String) : qualify "" name = name := rfl

theorem qualify_of_ne {schema : String} (h : schema ≠ "") (name : String) :
    qualify schema name = schema ++ "." ++ name :=
  if_neg (by simpa using h)

theorem toList_qualify {schema : String} (h : schema ≠ "") (name : String) :
    (qualify schema name).toList = schema.toList ++ '.' :: name.toList := by
  have hdot : ".".toList = ['.'] := rfl
  rw [qualify_of_ne h, String.toList_append, String.toList_append, hdot, List.append_assoc,
    List.singleton_append]

/-- **A name without a dot is found again behind its schema.** -/
theorem splitQualified_qualify (schema : String) {name : String} (h : '.' ∉ name.toList) :
    splitQualified (qualify schema name) = (schema, name) := by
  rw [splitQualified]
  by_cases hschema : schema = ""
  · subst hschema
    rw [qualify_empty, cutAtLast?_of_notMem h]
  · rw [toList_qualify hschema, cutAtLast?_append h]
    simp

/-- Behind one schema different names stay different. -/
theorem qualify_injective (schema : String) : Function.Injective (qualify schema) := by
  intro a b h
  by_cases hschema : schema = ""
  · subst hschema
    exact h
  · rw [qualify_of_ne hschema, qualify_of_ne hschema] at h
    exact (String.append_right_inj _).1 h

/-- A name without a dot stands behind one schema only. -/
theorem qualify_eq_qualify_iff {schema schema' name : String} (h : '.' ∉ name.toList) :
    qualify schema' name = qualify schema name ↔ schema' = schema := by
  constructor
  · intro heq
    have hsplit := congrArg splitQualified heq
    rw [splitQualified_qualify _ h, splitQualified_qualify _ h] at hsplit
    exact (Prod.mk.inj hsplit).1
  · rintro rfl
    rfl

end SqlPipeline
