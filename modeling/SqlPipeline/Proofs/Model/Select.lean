/-
  SqlPipeline/Proofs/Model/Select.lean
  ====================================
  **A selection is what the names lead to, and keeps everything that it reads.**

  The wanted ids are collected from a stack, and a model that has been reached leaves the
  list in which the others are looked up.  Nothing is lost on the way: what stands on the
  stack is reached, and so is what a reached model depends on (`mem_reached_of_dependency`).
  A selection from models that depend on each other only is again such a list
  (`Closed.select`).

  From a name one is led along dependencies to the ids of known models, however often and in
  whatever circles.  The ids that are collected from a stack are just those that something on
  it leads to (`mem_reached_iff`): a dependency that no model has leads nowhere, and a model
  that has been reached leaves the list in which the others are looked up, which loses no way
  that avoids it.  So a selection is told by its names alone (`select_exactly`), and the same
  names select the same from it again, because all that lies on the way to a selected model is
  selected too.
-/
import SqlPipeline.Model.Select
import SqlPipeline.Proofs.Graph.Build
import Mathlib.Logic.Relation

namespace SqlPipeline.Model

open Text

/-- Models with distinct ids that depend on each other only. -/
structure Closed (models : List Model) : Prop where
  nodup_ids : (models.map (·.id)).Nodup
  known : ∀ m ∈ models, ∀ dep ∈ m.dependencies, dep ∈ models.map (·.id)

/-! ### Models by their ids -/

variable {models rest selected : List Model} {stack names : List String} {m : Model}
  {id other : String}

theorem lastNamed?_isSome_iff : (lastNamed? models id).isSome = true ↔ id ∈ models.map (·.id) := by
  simp [lastNamed?]

theorem lastNamed?_of_mem (hnodup : (models.map (·.id)).Nodup) (hm : m ∈ models) :
    lastNamed? models m.id = some m := by
  obtain ⟨last, hlast⟩ := Option.isSome_iff_exists.1
    (lastNamed?_isSome_iff.2 (List.mem_map_of_mem hm))
  have hid : last.id = m.id := by simpa using List.find?_some hlast
  have hmem : last ∈ models := List.mem_reverse.1 (List.mem_of_find?_eq_some hlast)
  rw [hlast, List.inj_on_of_nodup_map hnodup hmem hm hid]

theorem mem_ids_filter {keep : String → Bool} :
    id ∈ (models.filter fun m => keep m.id).map (·.id)
      ↔ id ∈ models.map (·.id) ∧ keep id = true := by
  simp only [List.mem_map, List.mem_filter]
  constructor
  · rintro ⟨m, ⟨hm, hkeep⟩, rfl⟩
    exact ⟨⟨m, hm, rfl⟩, hkeep⟩
  · rintro ⟨⟨m, hm, rfl⟩, hkeep⟩
    exact ⟨m, ⟨hm, hkeep⟩, rfl⟩

theorem mem_ids_without :
    other ∈ (without id rest).map (·.id) ↔ other ∈ rest.map (·.id) ∧ other ≠ id := by
  have hfilter := @mem_ids_filter rest other (· != id)
  rwa [bne_iff_ne] at hfilter

theorem lastNamed?_without (h : other ≠ id) :
    lastNamed? (without id rest) other = lastNamed? rest other := by
  rw [lastNamed?, lastNamed?, without, ← List.filter_reverse, List.find?_filter]
  congr 1
  funext m
  by_cases hm : m.id = other
  · simp [hm, h]
  · simp [hm]

/-! ### What is reached -/

theorem reached_cons_of_none (h : lastNamed? rest id = none) :
    reached rest (id :: stack) = reached rest stack := by
  rw [reached]
  split
  · rfl
  · rename_i m hm
    rw [h] at hm
    cases hm

theorem reached_cons_of_some (h : lastNamed? rest id = some m) :
    reached rest (id :: stack) = id :: reached (without id rest) (m.dependencies ++ stack) := by
  rw [reached]
  split
  · rename_i hnone
    rw [h] at hnone
    cases hnone
  · rename_i m' hm
    rw [h] at hm
    rw [Option.some.inj hm]

/-- What stands on the stack is reached, if there is such a model. -/
theorem mem_reached_of_mem_stack (hstack : other ∈ stack) (hother : other ∈ rest.map (·.id)) :
    other ∈ reached rest stack := by
  induction rest, stack using reached.induct with
  | case1 => cases hstack
  | case2 rest id stack hnone ih =>
    rw [reached_cons_of_none hnone]
    rcases List.mem_cons.1 hstack with rfl | hmem
    · rw [← lastNamed?_isSome_iff, hnone] at hother
      cases hother
    · exact ih hmem hother
  | case3 rest id stack m hm ih =>
    rw [reached_cons_of_some hm]
    by_cases hid : other = id
    · exact hid ▸ List.mem_cons_self
    · have hmem : other ∈ stack := (List.mem_cons.1 hstack).resolve_left hid
      exact List.mem_cons_of_mem _
        (ih (List.mem_append_right _ hmem) (mem_ids_without.2 ⟨hother, hid⟩))

/-- What a reached model depends on is reached, if there is such a model. -/
theorem mem_reached_of_dependency (hid : id ∈ reached rest stack)
    (hm : lastNamed? rest id = some m) (hdep : other ∈ m.dependencies)
    (hother : other ∈ rest.map (·.id)) : other ∈ reached rest stack := by
  induction rest, stack using reached.induct with
  | case1 =>
    rw [reached] at hid
    cases hid
  | case2 rest first stack hnone ih =>
    rw [reached_cons_of_none hnone] at hid ⊢
    exact ih hid hm hother
  | case3 rest first stack found hfound ih =>
    rw [reached_cons_of_some hfound] at hid ⊢
    by_cases hsame : other = first
    · exact hsame ▸ List.mem_cons_self
    · have hleft := mem_ids_without.2 ⟨hother, hsame⟩
      refine List.mem_cons_of_mem _ ?_
      by_cases hfirst : id = first
      · -- the model is the one that is reached now, so its dependencies go onto the stack
        rw [hfirst, hfound] at hm
        obtain rfl := Option.some.inj hm
        exact mem_reached_of_mem_stack (List.mem_append_left _ hdep) hleft
      · rw [← lastNamed?_without hfirst] at hm
        exact ih ((List.mem_cons.1 hid).resolve_left hfirst) hm hleft

/-! ### Selections -/

/-- **A selection is the part of the models with certain ids,** and these are closed under
    dependencies. -/
theorem select_ok (hnodup : (models.map (·.id)).Nodup) (h : select models names = .ok selected) :
    ∃ keep : String → Bool, selected = models.filter (fun m => keep m.id)
      ∧ ∀ m ∈ models, keep m.id = true → ∀ dep ∈ m.dependencies, dep ∈ models.map (·.id) →
        keep dep = true := by
  obtain ⟨asked, -, hselected⟩ := bind_eq_ok_iff.1 h
  refine ⟨(reached models asked).contains, (Except.ok.inj hselected).symm, ?_⟩
  intro m hm hkeep dep hdep hknown
  rw [List.contains_iff_mem] at hkeep ⊢
  exact mem_reached_of_dependency hkeep (lastNamed?_of_mem hnodup hm) hdep hknown

theorem Closed.select (hm : Closed models) (h : select models names = .ok selected) :
    Closed selected := by
  obtain ⟨keep, rfl, hkeep⟩ := select_ok hm.nodup_ids h
  refine ⟨hm.nodup_ids.sublist (List.filter_sublist.map _), fun m hmem dep hdep => ?_⟩
  obtain ⟨hmem, hkept⟩ := List.mem_filter.1 hmem
  have hknown := hm.known m hmem dep hdep
  exact mem_ids_filter.2 ⟨hknown, hkeep m hmem hkept dep hdep hknown⟩

/-! ### What names lead to -/

/-- A model with the first id depends on the second, which a model has. -/
def LeadsTo (models : List Model) (id dep : String) : Prop :=
  ∃ m ∈ models, m.id = id ∧ dep ∈ m.dependencies ∧ dep ∈ models.map (·.id)

/-- From the id of a model one is led to another, by any number of dependencies. -/
def Reaches (models : List Model) (start id : String) : Prop :=
  start ∈ models.map (·.id) ∧ Relation.ReflTransGen (LeadsTo models) start id

/-- A name asks for something that is not the id of a model. -/
def isUnknown (models : List Model) (name : String) : Bool :=
  !(trimmed name).isEmpty && !models.any (·.id == trimmed name)

variable {start name : String} {e : NoSuchModel}

/-! ### What leads where -/

theorem LeadsTo.mono (hsub : ∀ m ∈ rest, m ∈ models) {a b : String} (h : LeadsTo rest a b) :
    LeadsTo models a b := by
  obtain ⟨m, hm, hid, hdep, hknown⟩ := h
  obtain ⟨target, htarget, rfl⟩ := List.mem_map.1 hknown
  exact ⟨m, hsub m hm, hid, hdep, List.mem_map_of_mem (hsub target htarget)⟩

theorem Reaches.mono (hsub : ∀ m ∈ rest, m ∈ models) (h : Reaches rest start id) :
    Reaches models start id := by
  obtain ⟨hstart, hpath⟩ := h
  obtain ⟨first, hfirst, rfl⟩ := List.mem_map.1 hstart
  exact ⟨List.mem_map_of_mem (hsub first hfirst),
    Relation.ReflTransGen.mono (fun _ _ => LeadsTo.mono hsub) _ _ hpath⟩

/-- Nothing is reached that the stack does not lead to. -/
theorem exists_reaches_of_mem_reached (h : id ∈ reached rest stack) :
    ∃ start ∈ stack, Reaches rest start id := by
  induction rest, stack using reached.induct with
  | case1 =>
    rw [reached] at h
    cases h
  | case2 rest first stack hnone ih =>
    rw [reached_cons_of_none hnone] at h
    obtain ⟨start, hstart, hreaches⟩ := ih h
    exact ⟨start, List.mem_cons_of_mem _ hstart, hreaches⟩
  | case3 rest first stack m hm ih =>
    have hfirst : first ∈ rest.map (·.id) := lastNamed?_isSome_iff.1 (by rw [hm]; rfl)
    have hsub : ∀ m ∈ without first rest, m ∈ rest := fun m hm => List.mem_of_mem_filter hm
    rw [reached_cons_of_some hm] at h
    rcases List.mem_cons.1 h with rfl | hlater
    · exact ⟨id, List.mem_cons_self, hfirst, Relation.ReflTransGen.refl⟩
    · obtain ⟨start, hstart, hreaches⟩ := ih hlater
      have hreaches := hreaches.mono hsub
      rcases List.mem_append.1 hstart with hdep | hstack
      · -- the way starts with a dependency of the model that has just been reached
        have hmem : m ∈ rest := List.mem_reverse.1 (List.mem_of_find?_eq_some hm)
        have hid : m.id = first := by simpa using List.find?_some hm
        exact ⟨first, List.mem_cons_self, hfirst,
          Relation.ReflTransGen.head ⟨m, hmem, hid, hdep, hreaches.1⟩ hreaches.2⟩
      · exact ⟨start, List.mem_cons_of_mem _ hstack, hreaches⟩

/-- **The ids that are reached are those that the stack leads to.** -/
theorem mem_reached_iff (hnodup : (models.map (·.id)).Nodup) :
    id ∈ reached models stack ↔ ∃ start ∈ stack, Reaches models start id := by
  constructor
  · exact exists_reaches_of_mem_reached
  · rintro ⟨start, hmem, hstart, hpath⟩
    induction hpath with
    | refl => exact mem_reached_of_mem_stack hmem hstart
    | tail _ hlast ih =>
      obtain ⟨m, hm, rfl, hdep, hknown⟩ := hlast
      exact mem_reached_of_dependency ih (lastNamed?_of_mem hnodup hm) hdep hknown

/-! ### Names that are asked for -/

theorem isUnknown_iff : isUnknown models name = true
    ↔ trimmed name ≠ "" ∧ trimmed name ∉ models.map (·.id) := by
  simp [isUnknown]

/-- Asking fails with the first name that no model has; else it gives the names that are not
    blank. -/
theorem askedFor_eq (models : List Model) (names : List String) :
    askedFor models names = match names.find? (isUnknown models) with
      | some name => .error ⟨trimmed name⟩
      | none => .ok ((names.map trimmed).filter (!·.isEmpty)) := by
  induction names with
  | nil => rfl
  | cons name names ih =>
    rw [List.find?_cons, List.map_cons, List.filter_cons, isUnknown, askedFor]
    cases (trimmed name).isEmpty with
    | true => exact ih
    | false =>
      cases models.any (·.id == trimmed name) with
      | false => rfl
      | true =>
        simp only [Bool.false_eq_true, if_false, if_true, Bool.not_false, Bool.not_true, ih]
        cases names.find? (isUnknown models) <;> rfl

/-! ### Selections -/

/-- What the names of a list ask for. -/
def Asked (models : List Model) (names : List String) (id : String) : Prop :=
  ∃ name ∈ names, trimmed name ≠ "" ∧ Reaches models (trimmed name) id

/-- Selecting fails with the first name that no model has; else it keeps what is reached. -/
theorem select_eq (models : List Model) (names : List String) :
    select models names = match names.find? (isUnknown models) with
      | some name => .error ⟨trimmed name⟩
      | none => .ok (models.filter fun m =>
          (reached models ((names.map trimmed).filter (!·.isEmpty))).contains m.id) := by
  rw [select, askedFor_eq]
  cases names.find? (isUnknown models) <;> rfl

theorem select_eq_error_iff : select models names = .error e ↔ ∃ before name after,
    names = before ++ name :: after ∧ (∀ earlier ∈ before, isUnknown models earlier = false)
      ∧ isUnknown models name = true ∧ e = ⟨trimmed name⟩ := by
  have hfirst : select models names = .error e
      ↔ ∃ name, names.find? (isUnknown models) = some name ∧ e = ⟨trimmed name⟩ := by
    rw [select_eq]
    cases names.find? (isUnknown models) <;> simp [eq_comm]
  simp only [hfirst, List.find?_eq_some_iff_append, Bool.not_eq_true']
  constructor
  · rintro ⟨name, ⟨hname, before, after, hnames, hbefore⟩, he⟩
    exact ⟨before, name, after, hnames, hbefore, hname, he⟩
  · rintro ⟨before, name, after, hnames, hbefore, hname, he⟩
    exact ⟨name, ⟨hname, before, after, hnames, hbefore⟩, he⟩

theorem exists_select_eq_error_iff :
    (∃ e, select models names = .error e) ↔ ∃ name ∈ names, isUnknown models name = true := by
  rw [← List.find?_isSome, select_eq]
  cases names.find? (isUnknown models) <;> simp

/-- A selection consists of the models that the names lead to. -/
theorem select_of_known (hnodup : (models.map (·.id)).Nodup)
    (h : ∀ name ∈ names, isUnknown models name = false) : ∃ keep : String → Bool,
      select models names = .ok (models.filter fun m => keep m.id)
        ∧ ∀ id, keep id = true ↔ Asked models names id := by
  have hnone : names.find? (isUnknown models) = none :=
    List.find?_eq_none.2 fun name hname => by simp [h name hname]
  refine ⟨(reached models ((names.map trimmed).filter (!·.isEmpty))).contains, ?_, fun id => ?_⟩
  · rw [select_eq, hnone]
  · rw [List.contains_iff_mem, mem_reached_iff hnodup]
    constructor
    · rintro ⟨start, hstart, hreaches⟩
      obtain ⟨hmem, hne⟩ := List.mem_filter.1 hstart
      obtain ⟨name, hname, rfl⟩ := List.mem_map.1 hmem
      exact ⟨name, hname, by simpa using hne, hreaches⟩
    · rintro ⟨name, hname, hne, hreaches⟩
      exact ⟨trimmed name,
        List.mem_filter.2 ⟨List.mem_map_of_mem hname, by simpa using hne⟩, hreaches⟩

/-- What is asked for is asked for in the selection too: the way there leads through selected
    models only. -/
theorem Asked.inSelection {keep : String → Bool}
    (hkeep : ∀ id, keep id = true ↔ Asked models names id) (h : Asked models names id) :
    Asked (models.filter fun m => keep m.id) names id := by
  obtain ⟨name, hname, hne, hstart, hpath⟩ := h
  refine ⟨name, hname, hne, ?_, ?_⟩
  · exact mem_ids_filter.2 ⟨hstart, (hkeep _).2 ⟨name, hname, hne, hstart, .refl⟩⟩
  · induction hpath with
    | refl => exact .refl
    | tail hbefore hlast ih =>
      have hthere : Asked models names _ := ⟨name, hname, hne, hstart, hbefore.tail hlast⟩
      obtain ⟨m, hm, rfl, hdep, hknown⟩ := hlast
      have hfrom : keep m.id = true := (hkeep _).2 ⟨name, hname, hne, hstart, hbefore⟩
      exact ih.tail ⟨m, List.mem_filter.2 ⟨hm, hfrom⟩, rfl, hdep,
        mem_ids_filter.2 ⟨hknown, (hkeep _).2 hthere⟩⟩

/-- Selecting by the same names again takes everything. -/
theorem select_again (hnodup : (models.map (·.id)).Nodup) {keep : String → Bool}
    (hkeep : ∀ id, keep id = true ↔ Asked models names id)
    (h : ∀ name ∈ names, isUnknown models name = false) :
    select (models.filter fun m => keep m.id) names = .ok (models.filter fun m => keep m.id) := by
  have hknown : ∀ name ∈ names, isUnknown (models.filter fun m => keep m.id) name = false := by
    intro name hname
    rw [← Bool.not_eq_true, isUnknown_iff]
    rintro ⟨hne, hunselected⟩
    have hid : trimmed name ∈ models.map (·.id) := by
      by_contra hunknown
      exact Bool.false_ne_true ((h name hname).symm.trans (isUnknown_iff.2 ⟨hne, hunknown⟩))
    exact hunselected (mem_ids_filter.2 ⟨hid, (hkeep _).2 ⟨name, hname, hne, hid, .refl⟩⟩)
  obtain ⟨again, hselect, hagain⟩ :=
    select_of_known (hnodup.sublist (List.filter_sublist.map _)) hknown
  rw [hselect, Except.ok.injEq, List.filter_eq_self]
  intro m hm
  exact (hagain m.id).2 (((hkeep m.id).1 (List.mem_filter.1 hm).2).inSelection hkeep)

/-- **Selecting takes exactly the models that the names lead to.**  It fails with the first name
    that is neither blank nor the id of a model; otherwise it gives, in the order of the list,
    those models whose id is a name or is reached from one through dependencies that models
    have, and selecting by the same names again takes all of these. -/
theorem select_exactly (hnodup : (models.map (·.id)).Nodup) (names : List String) :
    (∀ e, select models names = .error e ↔ ∃ before name after, names = before ++ name :: after
        ∧ (∀ earlier ∈ before, trimmed earlier = "" ∨ trimmed earlier ∈ models.map (·.id))
        ∧ (trimmed name ≠ "" ∧ trimmed name ∉ models.map (·.id)) ∧ e = ⟨trimmed name⟩)
      ∧ ((∃ e, select models names = .error e)
        ↔ ∃ name ∈ names, trimmed name ≠ "" ∧ trimmed name ∉ models.map (·.id))
      ∧ ∀ selected, select models names = .ok selected →
        selected.Sublist models ∧ selected.Nodup
          ∧ (∀ m, m ∈ selected ↔ m ∈ models ∧ Asked models names m.id)
          ∧ select selected names = .ok selected := by
  have hknown : ∀ name, isUnknown models name = false
      ↔ trimmed name = "" ∨ trimmed name ∈ models.map (·.id) := fun name => by
    rw [← Bool.not_eq_true, isUnknown_iff, not_and_or, not_not, not_not]
  refine ⟨fun e => ?_, ?_, fun selected hselected => ?_⟩
  · simp only [select_eq_error_iff, hknown, isUnknown_iff]
  · simp only [exists_select_eq_error_iff, isUnknown_iff]
  · have hall : ∀ name ∈ names, isUnknown models name = false := by
      intro name hname
      rw [← Bool.not_eq_true]
      intro hunknown
      obtain ⟨e, he⟩ := exists_select_eq_error_iff.2 ⟨name, hname, hunknown⟩
      rw [hselected] at he
      cases he
    obtain ⟨keep, hselect, hkeep⟩ := select_of_known hnodup hall
    obtain rfl : models.filter (fun m => keep m.id) = selected :=
      Except.ok.inj (hselect.symm.trans hselected)
    refine ⟨List.filter_sublist, hnodup.of_map.filter _, fun m => ?_, select_again hnodup hkeep hall⟩
    rw [List.mem_filter, hkeep]

/-- Two models that depend on each other, one of them on something unknown too, and a model
    that depends on both. -/
def roundabout : List Model :=
  [⟨"c", "c.sql", "", "", {}, ["a", "b"], []⟩, ⟨"b", "b.sql", "", "", {}, ["a"], []⟩,
    ⟨"a", "a.sql", "", "", {}, ["gone", "b"], []⟩]

theorem select_exactly_roundabout :
    (roundabout.map (·.id)).Nodup
      ∧ (∃ e, select roundabout ["a", "gone"] = .error e)
      ∧ ∃ selected, select roundabout [" a", "", "b", "a"] = .ok selected
        ∧ selected.map (·.id) = ["b", "a"]
        ∧ (∀ m, m ∈ selected ↔ m ∈ roundabout ∧ Asked roundabout [" a", "", "b", "a"] m.id)
        ∧ select selected [" a", "", "b", "a"] = .ok selected := by
  have hnodup : (roundabout.map (·.id)).Nodup := by decide
  have hselected : select roundabout [" a", "", "b", "a"] = .ok
      [⟨"b", "b.sql", "", "", {}, ["a"], []⟩, ⟨"a", "a.sql", "", "", {}, ["gone", "b"], []⟩] := by
    have hreached : reached roundabout ["a", "b", "a"] = ["a", "b"] := by cbv
    rw [select_eq]
    exact congrArg (fun ids : List String => Except.ok (roundabout.filter fun m => ids.contains m.id))
      hreached
  obtain ⟨-, hfails, -⟩ := select_exactly hnodup ["a", "gone"]
  obtain ⟨-, -, hexact, hagain⟩ := (select_exactly hnodup [" a", "", "b", "a"]).2.2 _ hselected
  exact ⟨hnodup, hfails.2 ⟨"gone", by decide⟩, _, hselected, rfl, hexact, hagain⟩

end SqlPipeline.Model
