/-
  SqlPipeline/Proofs/Lookup.lean
  ==============================
  **What a dotted path leads to, and why it leads nowhere.**

  Following a path stops at the first part that cannot be followed, and there it is either
  that no map has been reached or that the map is without the part.  The two are told apart
  by what is reported: the parts that have been followed, or the whole path.  Parts may be
  empty, so that a path with dots at its ends is followed like any other.

  Parts that have been followed need not be followed again (`LeadsTo.descend_append`), and
  so two paths, one from where the other leads, are one path with a dot in the middle.
-/
import SqlPipeline.Lookup
import SqlPipeline.Proofs.Text.Cut
import SqlPipeline.Proofs.Template.Function

namespace SqlPipeline

open Text

namespace Lookup

variable {α : Type}

/-! ### Following parts -/

/-- That some parts lead from one value to another, each of them through a map. -/
inductive LeadsTo (fields? : α → Option (String → Option α)) : α → List String → α → Prop
  | here (v : α) : LeadsTo fields? v [] v
  | onward {v w u : α} {entry : String → Option α} {part : String} {rest : List String} :
      fields? v = some entry → entry part = some w → LeadsTo fields? w rest u →
      LeadsTo fields? v (part :: rest) u

variable {fields? : α → Option (String → Option α)} {v w u : α} {path part : String}
  {followed before after parts : List String} {e : LookupError}

theorem leadsTo_append_iff :
    LeadsTo fields? v (before ++ after) u
      ↔ ∃ w, LeadsTo fields? v before w ∧ LeadsTo fields? w after u := by
  constructor
  · intro h
    induction before generalizing v with
    | nil => exact ⟨v, .here v, h⟩
    | cons part before ih =>
      cases h with
      | onward hmap hentry hrest =>
        obtain ⟨w, hbefore, hafter⟩ := ih hrest
        exact ⟨w, .onward hmap hentry hbefore, hafter⟩
  · rintro ⟨w, hbefore, hafter⟩
    induction hbefore with
    | here v => exact hafter
    | onward hmap hentry _ ih => exact .onward hmap hentry (ih hafter)

/-- What has been followed need not be followed again. -/
theorem LeadsTo.descend_append (h : LeadsTo fields? v before w) (path : String)
    (followed after : List String) :
    descend fields? path followed v (before ++ after)
      = descend fields? path (followed ++ before) w after := by
  induction h generalizing followed with
  | here v => simp
  | onward hmap hentry _ ih =>
    rw [List.cons_append, descend, hmap]
    dsimp only
    rw [hentry]
    dsimp only
    rw [ih]
    simp

theorem descend_eq_ok_iff :
    descend fields? path followed v parts = .ok u ↔ LeadsTo fields? v parts u := by
  constructor
  · intro h
    induction parts generalizing v followed with
    | nil =>
      obtain rfl := Except.ok.inj h
      exact .here v
    | cons part rest ih =>
      rw [descend] at h
      cases hmap : fields? v with
      | none => simp [hmap] at h
      | some entry =>
        cases hentry : entry part with
        | none => simp [hmap, hentry] at h
        | some w =>
          simp only [hmap, hentry] at h
          exact .onward hmap hentry (ih h)
  · intro h
    have hall := h.descend_append path followed []
    rw [List.append_nil] at hall
    rw [hall]
    rfl

/-- That a path cannot be followed any further from a value: it is no map, or a map without the
    next part. -/
inductive Stuck (fields? : α → Option (String → Option α)) (path : String)
    (followed : List String) (v : α) (part : String) : LookupError → Prop
  | noMap : fields? v = none → Stuck fields? path followed v part (.noMap (".".intercalate followed))
  | noKey {entry : String → Option α} : fields? v = some entry → entry part = none →
      Stuck fields? path followed v part (.noKey path)

theorem Stuck.descend_eq (h : Stuck fields? path followed v part e) (rest : List String) :
    descend fields? path followed v (part :: rest) = .error e := by
  rw [descend]
  cases h with
  | noMap hmap => rw [hmap]
  | noKey hmap hentry =>
    rw [hmap]
    dsimp only
    rw [hentry]

theorem descend_eq_error_iff :
    descend fields? path followed v parts = .error e
      ↔ ∃ before part after w, parts = before ++ part :: after ∧ LeadsTo fields? v before w
        ∧ Stuck fields? path (followed ++ before) w part e := by
  constructor
  · intro h
    induction parts generalizing v followed with
    | nil => cases h
    | cons part rest ih =>
      rw [descend] at h
      cases hmap : fields? v with
      | none =>
        simp only [hmap] at h
        obtain rfl := Except.error.inj h
        refine ⟨[], part, rest, v, rfl, .here v, ?_⟩
        rw [List.append_nil]
        exact .noMap hmap
      | some entry =>
        cases hentry : entry part with
        | none =>
          simp only [hmap, hentry] at h
          obtain rfl := Except.error.inj h
          exact ⟨[], part, rest, v, rfl, .here v, .noKey hmap hentry⟩
        | some w =>
          simp only [hmap, hentry] at h
          obtain ⟨before, next, after, u, rfl, hbefore, hstuck⟩ := ih h
          refine ⟨part :: before, next, after, u, rfl, .onward hmap hentry hbefore, ?_⟩
          simpa using hstuck
  · rintro ⟨before, part, after, w, rfl, hbefore, hstuck⟩
    rw [hbefore.descend_append]
    exact hstuck.descend_eq after

/-! ### Paths -/

theorem pathParts_ne_nil (path : String) : pathParts path ≠ [] := by
  rw [pathParts, splitAt]
  simpa using splitWhere_ne_nil (· == '.') path.toList

/-- The parts of a path are what stands between its dots. -/
theorem pathParts_spec (path : String) :
    ".".intercalate (pathParts path) = path ∧ ∀ part ∈ pathParts path, '.' ∉ part.toList := by
  constructor
  · have hdot : ".".toList = ['.'] := rfl
    rw [← String.toList_inj, String.toList_intercalate, pathParts, List.map_map, hdot]
    simp [Function.comp_def, intercalate_splitAt]
  · intro part hpart
    obtain ⟨piece, hpiece, rfl⟩ := List.mem_map.1 hpart
    rw [String.toList_ofList]
    exact notMem_of_mem_splitAt hpiece

theorem pathParts_append (p q : String) :
    pathParts (p ++ "." ++ q) = pathParts p ++ pathParts q := by
  have hchars : (p ++ "." ++ q).toList = p.toList ++ '.' :: q.toList := by
    simp
  rw [pathParts, hchars, splitAt_append_cons, List.map_append]
  rfl

/-- How paths are followed from a value. -/
structure Follows (fields? : α → Option (String → Option α)) (v : α) : Prop where
  parts : ∀ path, pathParts path ≠ [] ∧ ".".intercalate (pathParts path) = path
    ∧ ∀ part ∈ pathParts path, '.' ∉ part.toList
  found_iff : ∀ path w,
    lookupPath fields? v path = .ok w ↔ LeadsTo fields? v (pathParts path) w
  -- the first part that cannot be followed decides what is wrong
  failed_iff : ∀ path e, lookupPath fields? v path = .error e
    ↔ ∃ before part after w, pathParts path = before ++ part :: after
      ∧ LeadsTo fields? v before w ∧ Stuck fields? path before w part e
  -- two paths one after the other are one path
  onward : ∀ p q w, lookupPath fields? v p = .ok w →
    (lookupPath fields? v (p ++ "." ++ q)).toOption = (lookupPath fields? w q).toOption

theorem follows (fields? : α → Option (String → Option α)) (v : α) : Follows fields? v := by
  have hfound : ∀ (v : α) path w,
      lookupPath fields? v path = .ok w ↔ LeadsTo fields? v (pathParts path) w :=
    fun _ _ _ => descend_eq_ok_iff
  constructor
  case parts =>
    intro path
    exact ⟨pathParts_ne_nil path, pathParts_spec path⟩
  case found_iff => exact hfound v
  case failed_iff =>
    intro path e
    exact descend_eq_error_iff
  case onward =>
    intro p q w hp
    have hsame : ∀ u, lookupPath fields? v (p ++ "." ++ q) = .ok u
        ↔ lookupPath fields? w q = .ok u := by
      intro u
      rw [hfound, hfound, pathParts_append, leadsTo_append_iff]
      constructor
      · rintro ⟨w', hw', hq⟩
        have hunique := hp.symm.trans ((hfound v p w').2 hw')
        obtain rfl := Except.ok.inj hunique
        exact hq
      · intro hq
        exact ⟨w, (hfound v p w).1 hp, hq⟩
    cases hpq : lookupPath fields? v (p ++ "." ++ q) with
    | ok u => rw [(hsame u).1 hpq]
    | error e =>
      cases hq : lookupPath fields? w q with
      | ok u =>
        rw [(hsame u).2 hq] at hpq
        cases hpq
      | error e' => rfl

end Lookup

/-! ### Settings -/

namespace Template

open Eval

/-- The function of the context that gives settings follows a path from all of them. -/
theorem callContext_config (m : Machine) (key : String) (s : Store) :
    (callContext m .config [.text key] []).run s
      = match lookupPath s.toMemory.fields? (.object m.scene.config) key with
        | .ok v => .ok v s
        | .error e => .error ⟨.function, e.message⟩ s := by
  have hbind : (ContextFunction.config.signature.bind [.text key] []).run s
      = .ok ⟨[some (.text key)], [], []⟩ s := rfl
  have hget : (get : Eval Memory).run s = .ok s.toMemory s := rfl
  rw [callContext, run_bind_of_ok hbind]
  refine (run_bind_of_ok hget).trans ?_
  cases lookupPath s.toMemory.fields? (.object m.scene.config) key with
  | ok v => rfl
  | error e => rfl

end Template

/-! ### Plain data and settings -/

/-- **Paths are followed one part at a time,** in plain data and in the settings that a template
    asks for, and the first part that cannot be followed decides what is reported. -/
theorem lookupPath_follows :
    (∀ data : Data, Lookup.Follows Data.fields? data)
      ∧ ∀ (m : Template.Machine) (s : Template.Store),
          Lookup.Follows s.toMemory.fields? (.object m.scene.config)
            ∧ ∀ key, (Template.callContext m .config [.text key] []).run s
              = match lookupPath s.toMemory.fields? (.object m.scene.config) key with
                | .ok v => .ok v s
                | .error (.noMap followed) =>
                    .error ⟨.function, "config path invalid at " ++ followed⟩ s
                | .error (.noKey path) =>
                    .error ⟨.function, "config key not found: " ++ path⟩ s := by
  refine ⟨Lookup.follows Data.fields?, fun m s => ⟨Lookup.follows _ _, fun key => ?_⟩⟩
  rw [Template.callContext_config]
  match lookupPath s.toMemory.fields? (.object m.scene.config) key with
  | .ok v => rfl
  | .error (.noMap followed) => rfl
  | .error (.noKey path) => rfl

-- a value that is no map ends the path, with the parts that led to it
example : (Data.map [(.text "db", .map [(.text "", .null)])]).lookupPath "db..port.number"
    = .error (.noMap "db.") := by
  cbv

end SqlPipeline
