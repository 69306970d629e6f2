/-
  SqlPipeline/Proofs/Entries.lean
  ===============================
  **Lists of names, and of named things, in which no name stands twice.**

  Of the repetitions in a list of names the first occurrences are kept.  Giving a name a new
  thing keeps the names distinct, and puts it at the end where the name is new.  With distinct
  names a thing is found under its name exactly when it is listed there.
-/
import SqlPipeline.Data
import Mathlib.Data.List.Basic
import Mathlib.Data.List.Nodup

namespace SqlPipeline

/-! ### Lists without repetitions -/

theorem nodup_eraseDups (names : List String) : names.eraseDups.Nodup := by
  induction h : names.length using Nat.strongRecOn generalizing names with
  | ind n ih =>
    cases names with
    | nil => exact List.nodup_nil
    | cons name names =>
      rw [List.eraseDups_cons, List.nodup_cons]
      refine ⟨fun hmem => ?_, ih _ ?_ _ rfl⟩
      · simpa using List.mem_eraseDups.1 hmem
      · rw [← h, List.length_cons]
        exact Nat.lt_succ_of_le (List.length_filter_le _ _)

theorem eraseDups_of_nodup {names : List String} (h : names.Nodup) : names.eraseDups = names := by
  induction names with
  | nil => rfl
  | cons name names ih =>
    obtain ⟨hname, hnames⟩ := List.nodup_cons.1 h
    have hfilter : names.filter (fun other => !other == name) = names := by
      refine List.filter_eq_self.2 fun other hother => ?_
      have hne : other ≠ name := fun heq => hname (heq ▸ hother)
      simp [hne]
    rw [List.eraseDups_cons, hfilter, ih hnames]

/-- Adding names at the end, unless they are there, gives the first occurrence of each. -/
theorem foldl_addNew (names acc : List String) :
    names.foldl (fun acc name => if acc.contains name then acc else acc ++ [name]) acc
      = acc ++ (names.removeAll acc).eraseDups := by
  induction names generalizing acc with
  | nil => simp
  | cons name names ih =>
    rw [List.foldl_cons, ih]
    by_cases hmem : name ∈ acc
    · simp [List.removeAll, hmem]
    · have hremove : names.removeAll (acc ++ [name])
          = (names.removeAll acc).filter fun other => !other == name := by
        simp only [List.removeAll, List.filter_filter]
        refine List.filter_congr fun other _ => ?_
        by_cases hother : other = name <;> simp [hother]
      have hkeep : (name :: names).removeAll acc = name :: names.removeAll acc := by
        simp [List.removeAll, hmem]
      rw [if_neg (by simpa using hmem), hremove, hkeep, List.eraseDups_cons, List.append_assoc]
      rfl

/-- Names that are there once already can be listed again in front of others. -/
theorem eraseDups_eraseDups_append (names others : List String) :
    (names.eraseDups ++ others).eraseDups = (names ++ others).eraseDups := by
  have hremove : others.removeAll names.eraseDups = others.removeAll names := by
    simp only [List.removeAll]
    refine List.filter_congr fun other _ => ?_
    simp
  rw [List.eraseDups_append, List.eraseDups_append, hremove,
    eraseDups_of_nodup (nodup_eraseDups names)]

namespace Entries

/-! ### Named things -/

variable {α : Type} {entries base top : Entries α} {name other : String} {x : α}

theorem mem_names_insert :
    other ∈ (Entries.insert name x entries).names ↔ other = name ∨ other ∈ entries.names := by
  rw [← find?_isSome_iff, ← find?_isSome_iff, find?_insert]
  by_cases h : other = name <;> simp [h]

theorem mem_names_overlay :
    name ∈ (Entries.overlay base top).names ↔ name ∈ base.names ∨ name ∈ top.names := by
  induction top generalizing base with
  | nil => simp [overlay, names]
  | cons entry top ih =>
    rw [overlay, List.foldl_cons, ← overlay, ih, mem_names_insert]
    simp only [names, List.map_cons, List.mem_cons]
    rw [or_comm (a := name = entry.1), or_assoc]

/-- Of the things of one name the last is found, and behind them what was there before. -/
theorem find?_overlay (base top : Entries α) (name : String) :
    find? (Entries.overlay base top) name = (find? top.reverse name).or (find? base name) := by
  induction top generalizing base with
  | nil => rfl
  | cons entry top ih =>
    obtain ⟨n, x⟩ := entry
    rw [overlay, List.foldl_cons, ← overlay, ih, find?_insert, List.reverse_cons, find?_append,
      find?_cons, find?_nil]
    by_cases h : name = n <;> simp [h]

theorem insert_of_notMem (x : α) (h : name ∉ entries.names) :
    Entries.insert name x entries = entries ++ [(name, x)] := by
  induction entries with
  | nil => rfl
  | cons e rest ih =>
    obtain ⟨n, y⟩ := e
    obtain ⟨hne, hrest⟩ := not_or.1 (mt List.mem_cons.2 h)
    rw [insert, if_neg (Ne.symm hne), ih hrest, List.cons_append]

theorem nodup_names_insert (h : entries.names.Nodup) (name : String) (x : α) :
    (Entries.insert name x entries).names.Nodup := by
  induction entries with
  | nil => simp [insert, names]
  | cons e rest ih =>
    obtain ⟨n, y⟩ := e
    obtain ⟨hn, hrest⟩ := List.nodup_cons.1 h
    by_cases heq : n = name
    · rw [insert, if_pos heq]
      exact h
    · rw [insert, if_neg heq]
      refine List.nodup_cons.2 ⟨fun hmem => ?_, ih hrest⟩
      rcases mem_names_insert.1 hmem with hname | hmem
      · exact heq hname
      · exact hn hmem

theorem nodup_names_overlay (h : base.names.Nodup) (top : Entries α) :
    (Entries.overlay base top).names.Nodup := by
  induction top generalizing base with
  | nil => exact h
  | cons e top ih => exact ih (nodup_names_insert h e.1 e.2)

theorem mem_of_mem_insert {e : String × α} (h : e ∈ Entries.insert name x entries) :
    e = (name, x) ∨ e ∈ entries := by
  induction entries with
  | nil => exact Or.inl (List.mem_singleton.1 h)
  | cons first rest ih =>
    obtain ⟨n, y⟩ := first
    rw [insert] at h
    split at h
    · rename_i heq
      subst heq
      exact (List.mem_cons.1 h).imp_right (List.mem_cons_of_mem _)
    · rcases List.mem_cons.1 h with rfl | h
      · exact Or.inr List.mem_cons_self
      · exact (ih h).imp_right (List.mem_cons_of_mem _)

theorem mem_of_mem_overlay {e : String × α} (h : e ∈ Entries.overlay base top) :
    e ∈ base ∨ e ∈ top := by
  induction top generalizing base with
  | nil => exact Or.inl h
  | cons first top ih =>
    rcases ih h with hbase | htop
    · rcases mem_of_mem_insert hbase with rfl | hbase
      · exact Or.inr List.mem_cons_self
      · exact Or.inl hbase
    · exact Or.inr (List.mem_cons_of_mem _ htop)

theorem overlay_of_nodup (h : (base ++ top).names.Nodup) :
    Entries.overlay base top = base ++ top := by
  induction top generalizing base with
  | nil => rw [overlay, List.foldl_nil, List.append_nil]
  | cons e top ih =>
    obtain ⟨n, y⟩ := e
    have hnew : n ∉ base.names := fun hmem => by
      rw [names, List.map_append, List.nodup_append] at h
      exact h.2.2 n hmem n List.mem_cons_self rfl
    have hstep : Entries.overlay base ((n, y) :: top) = Entries.overlay (insert n y base) top := rfl
    rw [hstep, insert_of_notMem y hnew, ih (by simpa using h), List.append_assoc,
      List.singleton_append]

theorem overlay_nil (h : entries.names.Nodup) : Entries.overlay [] entries = entries := by
  rw [overlay_of_nodup (by rwa [List.nil_append]), List.nil_append]

theorem find?_eq_some_iff (h : entries.names.Nodup) :
    find? entries name = some x ↔ (name, x) ∈ entries := by
  induction entries with
  | nil => simp [find?_nil]
  | cons e rest ih =>
    obtain ⟨n, y⟩ := e
    obtain ⟨hn, hrest⟩ := List.nodup_cons.1 h
    rw [find?_cons, List.mem_cons, Prod.mk.injEq]
    by_cases heq : name = n
    · subst heq
      have habsent : (name, x) ∉ rest := fun hmem => hn (List.mem_map.2 ⟨_, hmem, rfl⟩)
      simp [habsent, eq_comm]
    · rw [if_neg heq, ih hrest]
      simp [heq]

theorem find?_reverse (h : entries.names.Nodup) : find? entries.reverse name = find? entries name := by
  have hreverse : (Entries.names entries.reverse).Nodup := by
    rw [names, List.map_reverse, List.nodup_reverse]
    exact h
  refine Option.ext fun x => ?_
  rw [find?_eq_some_iff hreverse, find?_eq_some_iff h, List.mem_reverse]

/-- What lies on top is found first, and behind it what lies below. -/
theorem find?_overlay_of_nodup (h : top.names.Nodup) :
    find? (Entries.overlay base top) name = (find? top name).or (find? base name) := by
  rw [find?_overlay, find?_reverse h]

end Entries

end SqlPipeline
