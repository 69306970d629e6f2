/-
  SqlPipeline/Proofs/Data.lean
  ============================
  **Maps whose keys are texts.**

  Most maps are entries by name (`Data.ofEntries`).  Such a map is looked up, filled and checked
  like the entries that it is made of.
-/
import SqlPipeline.Project.Checked
import SqlPipeline.Project.Environment
import SqlPipeline.Proofs.Entries
import SqlPipeline.Proofs.Outcome
import SqlPipeline.Yaml.Read

namespace SqlPipeline

variable {α β : Type} {entries : Entries Data} {d : Data}

namespace Data

theorem same_text (a b : String) : same (.text a) (.text b) = (a == b) := by
  rw [same]

/-- The entries of a map by name. -/
def keyed (entries : Entries Data) : List (Data × Data) :=
  entries.map fun (n, v) => (.text n, v)

theorem keyed_cons (n : String) (d : Data) (entries : Entries Data) :
    keyed ((n, d) :: entries) = (.text n, d) :: keyed entries := rfl

theorem ofEntries_eq (entries : Entries Data) : ofEntries entries = .map (keyed entries) := rfl

theorem find?_keyed (entries : Entries Data) (name : String) :
    find? (keyed entries) (.text name) = entries.find? name := by
  induction entries with
  | nil => rfl
  | cons entry entries ih =>
    obtain ⟨n, v⟩ := entry
    rw [Entries.find?_cons]
    by_cases hn : name = n
    · simp [keyed, find?, same_text, hn]
    · rw [if_neg hn, ← ih]
      simp [keyed, find?, same_text, beq_false_of_ne (Ne.symm hn)]

theorem field?_ofEntries (entries : Entries Data) (name : String) :
    (ofEntries entries).field? name = entries.find? name :=
  find?_keyed entries name

theorem insert_keyed (entries : Entries Data) (name : String) (d : Data) :
    insert (.text name) d (keyed entries) = keyed (entries.insert name d) := by
  induction entries with
  | nil => rfl
  | cons entry entries ih =>
    obtain ⟨n, v⟩ := entry
    rw [keyed, List.map_cons, insert, same_text, Entries.insert]
    by_cases hn : n = name
    · rw [if_pos (by simpa using hn), if_pos hn]
      rfl
    · rw [if_neg (by simpa using hn), if_neg hn]
      exact congrArg _ ih

theorem foldl_insert_keyed (base entries : Entries Data) :
    (keyed entries).foldl (fun acc (k, v) => insert k v acc) (keyed base)
      = keyed (Entries.overlay base entries) := by
  induction entries generalizing base with
  | nil => rfl
  | cons entry entries ih =>
    obtain ⟨n, v⟩ := entry
    rw [keyed_cons, List.foldl_cons]
    dsimp only
    rw [insert_keyed, ih]
    rfl

theorem map_mapOf_keyed (h : entries.names.Nodup) :
    Data.map (Yaml.Node.mapOf (keyed entries)) = ofEntries entries := by
  have hfold : Yaml.Node.mapOf (keyed entries) = keyed (Entries.overlay [] entries) :=
    foldl_insert_keyed [] entries
  rw [hfold, Entries.overlay_nil h, ofEntries_eq]

theorem expandValues_keyed (env : Environment) (entries : Entries Data) :
    env.expandValues (keyed entries) = keyed (entries.map fun (n, v) => (n, env.expand v)) := by
  induction entries with
  | nil => rfl
  | cons entry entries ih =>
    obtain ⟨n, v⟩ := entry
    rw [keyed_cons, Environment.expandValues, ih]
    rfl

theorem expand_ofEntries (env : Environment) (entries : Entries Data) :
    env.expand (ofEntries entries) = ofEntries (entries.map fun (n, v) => (n, env.expand v)) := by
  rw [ofEntries_eq, Environment.expand, expandValues_keyed, ofEntries_eq]

end Data

/-! ### Checks -/

namespace Checked

variable {check : Data → Checked α} {names : List String} {default a : α} {b : β}
  {passed : Entries α}

theorem both_eq_ok_iff {x : Checked α} {y : Checked β} :
    both x y = .ok (a, b) ↔ x = .ok a ∧ y = .ok b := by
  cases x <;> cases y <;> simp [both]

theorem under_eq_ok_iff {step : DataStep} {x : Checked α} : under step x = .ok a ↔ x = .ok a :=
  mapError_eq_ok_iff

theorem eq_default_or_exists (h : field names check default d = .ok a) :
    a = default ∨ ∃ d', check d' = .ok a := by
  rw [field] at h
  split at h
  · exact Or.inr ⟨_, under_eq_ok_iff.1 h⟩
  · exact Or.inl (Except.ok.inj h).symm

theorem mem_of_all {checks : List (Checked α)} {as : List α} (h : all checks = .ok as)
    (ha : a ∈ as) : .ok a ∈ checks := by
  induction checks generalizing as with
  | nil =>
    obtain rfl := Except.ok.inj h
    cases ha
  | cons check checks ih =>
    rw [all] at h
    cases hboth : both check (all checks) with
    | error e =>
      rw [hboth] at h
      cases h
    | ok pair =>
      obtain ⟨first, others⟩ := pair
      obtain ⟨rfl, hothers⟩ := both_eq_ok_iff.1 hboth
      rw [hboth] at h
      obtain rfl := Except.ok.inj h
      rcases List.mem_cons.1 ha with rfl | ha
      · exact List.mem_cons_self
      · exact List.mem_cons_of_mem _ (ih hothers ha)

/-- In a map that passes no name stands twice, and all its things have passed. -/
theorem mapOf_ok (h : mapOf check d = .ok passed) :
    passed.names.Nodup ∧ ∀ name a, (name, a) ∈ passed → ∃ d', check d' = .ok a := by
  cases d with
  | map given =>
    rw [mapOf] at h
    cases hall : all (given.map fun (k, v) => entry check k v) with
    | error e =>
      rw [hall] at h
      cases h
    | ok pairs =>
      rw [hall] at h
      have hentries : Entries.overlay [] pairs = passed := Except.ok.inj h
      subst hentries
      have hempty : (Entries.names ([] : Entries α)).Nodup := List.nodup_nil
      refine ⟨Entries.nodup_names_overlay hempty pairs, fun name a hmem => ?_⟩
      have hpair := (Entries.mem_of_mem_overlay hmem).resolve_left List.not_mem_nil
      obtain ⟨⟨k, v⟩, -, hentry⟩ := List.mem_map.1 (mem_of_all hall hpair)
      exact ⟨v, under_eq_ok_iff.1 (both_eq_ok_iff.1 hentry).2⟩
  | _ => cases h

theorem field_cons (n : String) (names : List String) (check : Data → Checked α) (default : α)
    (entries : Entries Data) : field (n :: names) check default (.ofEntries entries)
      = match entries.find? n with
        | some d => under (.name n) (check d)
        | none => field names check default (.ofEntries entries) := by
  rw [field, List.findSome?_cons, Data.field?_ofEntries]
  cases entries.find? n <;> rfl

theorem field_nil (check : Data → Checked α) (default : α) (entries : Entries Data) :
    field [] check default (.ofEntries entries) = .ok default := rfl

/-- A map all of whose things pass. -/
theorem mapOf_ofEntries {base : Entries β} {make : β → Data} {f : β → α}
    (hnames : base.names.Nodup) (h : ∀ n b, (n, b) ∈ base → check (make b) = .ok (f b)) :
    mapOf check (.ofEntries (base.map fun (n, b) => (n, make b)))
      = .ok (base.map fun (n, b) => (n, f b)) := by
  have hall : all ((Data.keyed (base.map fun (n, b) => (n, make b))).map fun (k, v) =>
      entry check k v) = .ok (base.map fun (n, b) => (n, f b)) := by
    clear hnames
    induction base with
    | nil => rfl
    | cons e base ih =>
      obtain ⟨n, b⟩ := e
      have hentry : entry check (.text n) (make b) = .ok (n, f b) := by
        rw [entry, h n b List.mem_cons_self]
        rfl
      rw [List.map_cons, Data.keyed_cons, List.map_cons, all,
        ih fun m x hm => h m x (List.mem_cons_of_mem _ hm)]
      dsimp only
      rw [hentry]
      rfl
  have hmapped : Entries.names (base.map fun (n, b) => (n, f b)) = base.names := by
    rw [Entries.names, List.map_map]
    rfl
  rw [Data.ofEntries_eq, mapOf, hall]
  exact congrArg Except.ok (Entries.overlay_nil (hmapped ▸ hnames))

end Checked

end SqlPipeline
