/-
  SqlPipeline/Proofs/FileTree/Fresh.lean
  ======================================
  **Directories with nothing in them.**

  A directory is fresh when it is empty once it has been made.  One that is empty already is
  fresh (`isFresh_of_list`).  One that is not there need not be: a path such as `a/../b` leads
  nowhere until `a` has been made, and then to what may have stood in `b` before.
-/
import SqlPipeline.Proofs.FileTree.Keeps

namespace SqlPipeline.FileTree

variable {t t' : FileTree} {p : Path} {place q here parts : List String} {n : FileNode}
  {name path : String}

/-- That a directory is empty once it has been made, and those above it. -/
def IsFresh (t : FileTree) (p : Path) : Prop :=
  ∀ made, t.ensureDirectory p = .ok made → made.list p = .ok []

theorem LeadsTo.list (h : t.LeadsTo p place) : t.list p = .ok (t.entryNames place) := by
  rw [FileTree.list, h.locate]
  dsimp only [bind, Except.bind]
  rw [h.directory]

theorem exists_leadsTo_of_list {names : List String} (h : t.list p = .ok names) :
    ∃ place, t.LeadsTo p place := by
  rw [FileTree.list] at h
  cases hp : t.locate p with
  | error e =>
    rw [hp] at h
    cases h
  | ok q =>
    rw [hp] at h
    dsimp only [bind, Except.bind] at h
    split at h
    · rename_i hq
      exact ⟨q, hp, hq⟩
    · cases h
    · cases h

theorem isFresh_of_list (h : t.list p = .ok []) : t.IsFresh p := by
  intro made hmade
  obtain ⟨place, hplace⟩ := exists_leadsTo_of_list h
  rw [hplace.ensureDirectory] at hmade
  exact Except.ok.inj hmade ▸ h

theorem IsFresh.node? (h : t.IsFresh p) (hmade : t.ensureDirectory p = .ok t')
    (hplace : t'.LeadsTo p place) (name : String) : t'.node? (place ++ [name]) = none := by
  have hempty : t'.entryNames place = [] :=
    Except.ok.inj (hplace.list.symm.trans (h t' hmade))
  cases hn : t'.node? (place ++ [name]) with
  | none => rfl
  | some n =>
    have hmem := mem_entryNames_of_node? hn
    rw [hempty] at hmem
    cases hmem

/-! ### Directories that are not there yet -/

/-- That every node stands in a directory. -/
def IsClosed (t : FileTree) : Prop :=
  ∀ place name n, t.node? (place ++ [name]) = some n → t.node? place = some .directory

theorem IsClosed.node?_around (h : t.IsClosed) (hn : t.node? (place ++ parts) = some n)
    (hparts : parts ≠ []) : t.node? place = some .directory := by
  induction parts using List.reverseRecOn generalizing n with
  | nil => exact absurd rfl hparts
  | append_singleton parts name ih =>
    rw [← List.append_assoc] at hn
    have haround := h _ _ _ hn
    by_cases hnil : parts = []
    · rwa [hnil, List.append_nil] at haround
    · exact ih haround hnil

/-- The place from which the parts of a path are followed. -/
def start (t : FileTree) (p : Path) : List String :=
  if p.isAbsolute then [] else t.home

theorem Keeps.start {written : List (List String)} (h : Keeps written t t') (p : Path) :
    t'.start p = t.start p := by
  rw [FileTree.start, FileTree.start, h.home]

theorem exists_node?_of_mem_nodes (h : (q, n) ∈ t.nodes) : ∃ m, t.node? q = some m := by
  cases hq : t.nodes.lookup q with
  | some m => exact ⟨m, by rw [node?, hq]⟩
  | none => exact absurd (List.lookup_eq_none_iff.1 hq _ h) (by simp)

/-- What is among the entries of a directory stands in it. -/
theorem exists_node?_of_mem_entryNames (h : name ∈ t.entryNames place) :
    ∃ n, t.node? (place ++ [name]) = some n := by
  have hbelow : name ∈ (t.nodes.filterMap fun entry =>
      if entry.1.length == place.length + 1 && place.isPrefixOf entry.1 then entry.1.getLast?
      else none) →
      ∃ n, t.node? (place ++ [name]) = some n := by
    intro hmem
    obtain ⟨⟨r, n⟩, hr, hlast⟩ := List.mem_filterMap.1 hmem
    dsimp only at hlast
    split at hlast
    · rename_i htest
      rw [Bool.and_eq_true, beq_iff_eq, List.isPrefixOf_iff_prefix] at htest
      obtain ⟨hlength, more, rfl⟩ := htest
      obtain ⟨last, rfl⟩ : ∃ last, more = [last] :=
        List.length_eq_one_iff.1 (by simpa using hlength)
      obtain rfl : last = name := by simpa using hlast
      exact exists_node?_of_mem_nodes hr
    · cases hlast
  have hhome : place.isPrefixOf t.home = true → (t.home.drop place.length).head? = some name →
      ∃ n, t.node? (place ++ [name]) = some n := by
    intro hprefix hnext
    obtain ⟨rest, hrest⟩ := List.isPrefixOf_iff_prefix.1 hprefix
    have hnamed : (place ++ [name]).isPrefixOf t.home = true := by
      rw [← hrest, List.drop_left] at hnext
      rw [List.isPrefixOf_iff_prefix, ← hrest, List.prefix_append_right_inj]
      exact List.head?_eq_some_iff.1 hnext |>.imp fun more hmore => hmore.symm
    rw [node?]
    split
    · exact ⟨_, rfl⟩
    · exact ⟨.directory, if_pos hnamed⟩
  rw [entryNames] at h
  split at h
  · rename_i hprefix
    split at h
    · rename_i next hnext
      split at h
      · exact hbelow h
      · rcases List.mem_cons.1 h with rfl | h
        · exact hhome hprefix hnext
        · exact hbelow h
    · exact hbelow h
  · exact hbelow h

end SqlPipeline.FileTree
