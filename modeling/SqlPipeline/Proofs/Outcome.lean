/-
  SqlPipeline/Proofs/Outcome.lean
  ===============================
  **Outcomes of steps that can fail.**

  Two steps succeed when both do, the second on what the first has given, and they fail with the
  error of the first that fails.  Steps over a list give one thing for each item.
-/
import Mathlib.Data.List.Basic

namespace SqlPipeline

variable {ε ε' α β : Type} {x : Except ε α}

/-- Two steps succeed when the first does and the second does with what it gives. -/
theorem bind_eq_ok_iff {f : α → Except ε β} {b : β} :
    (x >>= f) = .ok b ↔ ∃ a, x = .ok a ∧ f a = .ok b := by
  cases x <;> simp [bind, Except.bind]

/-- Two steps fail when the first does or the second does with what the first gives. -/
theorem bind_eq_error_iff {f : α → Except ε β} {e : ε} :
    (x >>= f) = .error e ↔ x = .error e ∨ ∃ a, x = .ok a ∧ f a = .error e := by
  cases x <;> simp [bind, Except.bind]

theorem mapError_eq_ok_iff {f : ε → ε'} {a : α} : x.mapError f = .ok a ↔ x = .ok a := by
  cases x <;> simp [Except.mapError]

/-- What is made of the items of a list is made of one of them. -/
theorem exists_of_mem_mapM {f : α → Except ε β} {xs : List α} {ys : List β}
    (h : xs.mapM f = .ok ys) : ∀ y ∈ ys, ∃ x ∈ xs, f x = .ok y := by
  induction xs generalizing ys with
  | nil =>
    obtain rfl := Except.ok.inj h
    simp
  | cons x xs ih =>
    rw [List.mapM_cons] at h
    obtain ⟨y, hy, h⟩ := bind_eq_ok_iff.1 h
    obtain ⟨rest, hrest, h⟩ := bind_eq_ok_iff.1 h
    obtain rfl := Except.ok.inj h
    intro z hz
    rcases List.mem_cons.1 hz with rfl | hmem
    · exact ⟨x, List.mem_cons_self, hy⟩
    · obtain ⟨x', hx', hz'⟩ := ih hrest z hmem
      exact ⟨x', List.mem_cons_of_mem _ hx', hz'⟩

theorem run_get_bind {σ : Type} {s : σ} (k : σ → ExceptT ε (StateM σ) α) :
    (get >>= k).run.run s = (k s).run.run s := rfl

end SqlPipeline
