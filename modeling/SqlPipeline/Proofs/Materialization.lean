/-
  SqlPipeline/Proofs/Materialization.lean
  =======================================
  **What a merge leaves alone.**

  A merge works through a temporary table whose name is never that of its target, and none
  of its statements reads like one that drops the target or builds it anew.  The texts are
  compared, not only the statements: a name may hold any characters.
-/
import Mathlib.Data.List.Basic
import Mathlib.Data.List.TakeDrop
import Mathlib.Data.List.TakeWhile
import SqlPipeline.Materialization

namespace SqlPipeline

/-! ### Cutting at the last occurrence of a character -/

namespace Text

theorem of_cutAtLast?_eq_some {c : Char} {s before after : List Char}
    (h : cutAtLast? c s = some (before, after)) : s = before ++ c :: after ∧ c ∉ after := by
  have hspan : s.reverse.takeWhile (· != c) ++ s.reverse.dropWhile (· != c) = s.reverse :=
    List.takeWhile_append_dropWhile
  rw [cutAtLast?, List.span_eq_takeWhile_dropWhile] at h
  cases hrest : s.reverse.dropWhile (· != c) with
  | nil =>
    rw [hrest] at h
    cases h
  | cons found rest =>
    have hfound : found = c := by
      have hhead := List.head?_dropWhile_not (· != c) s.reverse
      rw [hrest] at hhead
      simpa using hhead
    subst hfound
    rw [hrest] at h hspan
    obtain ⟨rfl, rfl⟩ := Prod.mk.inj (Option.some.inj h)
    constructor
    · simpa using (congrArg List.reverse hspan).symm
    · rw [List.mem_reverse]
      intro hmem
      simpa using List.mem_takeWhile_imp hmem

end Text

open Text

/-! ### The temporary table of a merge -/

namespace Strategy

/-- A name without its schema is no longer than it. -/
theorem length_splitQualified_le (name : String) :
    (splitQualified name).2.length ≤ name.length := by
  rw [splitQualified]
  cases hcut : cutAtLast? '.' name.toList with
  | none => exact Nat.le_refl _
  | some cut =>
    obtain ⟨hname, -⟩ := of_cutAtLast?_eq_some hcut
    have hlength := congrArg List.length hname
    simp only [List.length_append, List.length_cons, String.length_toList] at hlength
    simp only [String.length_ofList]
    omega

/-- **The temporary table of a merge is never its target.** -/
theorem stageName_ne (name : String) : stageName name ≠ name := by
  intro h
  rw [stageName, splitQualified] at h
  cases hcut : cutAtLast? '.' name.toList with
  | none =>
    rw [hcut] at h
    have hlength := congrArg String.length h
    simp [stageSuffix] at hlength
  | some cut =>
    obtain ⟨schema, table⟩ := cut
    obtain ⟨hname, hdot⟩ := of_cutAtLast?_eq_some hcut
    rw [hcut] at h
    -- the name has a dot, and the temporary one has none
    have hmem : '.' ∈ name.toList := by
      rw [hname]
      simp
    rw [← h, String.toList_append, String.toList_ofList, List.mem_append] at hmem
    rcases hmem with hmem | hmem
    · exact hdot hmem
    · exact absurd hmem (by decide)

/-- The name of the temporary table has no characters but those of its target's and its own
    ending. -/
theorem notMem_stageName {c : Char} {name : String} (h : c ∉ name.toList)
    (hsuffix : c ∉ stageSuffix.toList) : c ∉ (stageName name).toList := by
  rw [stageName, String.toList_append, List.mem_append, not_or]
  refine ⟨?_, hsuffix⟩
  rw [splitQualified]
  cases hcut : cutAtLast? '.' name.toList with
  | none => exact h
  | some cut =>
    obtain ⟨hname, -⟩ := of_cutAtLast?_eq_some hcut
    rw [hname, List.mem_append, List.mem_cons, not_or, not_or] at h
    rw [String.toList_ofList]
    exact h.2.2

end Strategy

/-! ### Statements that overwrite a table -/

namespace Statement

/-- That a statement drops a table or builds it anew. -/
def Overwrites (name sql : String) : Prop :=
  sql = (dropTable name).text ∨ sql = (dropStage name).text
    ∨ ∃ query, sql = (createTable name query).text

/-- The words of a statement up to the first name in it. -/
def opening : Statement → String
  | dropView _ => "DROP VIEW IF EXISTS "
  | createView _ _ => "CREATE VIEW "
  | dropTable _ => "DROP TABLE IF EXISTS "
  | createTable _ _ => "CREATE TABLE "
  | stage _ _ => "CREATE OR REPLACE TEMP TABLE "
  | createLike _ _ => "CREATE TABLE IF NOT EXISTS "
  | deleteMatching _ _ _ => "DELETE FROM "
  | insertAll _ _ => "INSERT INTO "
  | dropStage _ => "DROP TABLE "

theorem isPrefix_foldl_append (start : String) (rest : List String) :
    start.toList <+: (rest.foldl (· ++ ·) start).toList := by
  induction rest generalizing start with
  | nil => exact List.prefix_rfl
  | cons part rest ih =>
    refine List.IsPrefix.trans ?_ (ih (start ++ part))
    rw [String.toList_append]
    exact List.prefix_append _ _

theorem opening_isPrefix (statement : Statement) :
    statement.opening.toList <+: statement.text.toList := by
  have htext : ∃ rest : List String, statement.text = rest.foldl (· ++ ·) statement.opening := by
    cases statement with
    | dropView name => exact ⟨[name], rfl⟩
    | createView name query => exact ⟨[name, " AS ", query], rfl⟩
    | dropTable name => exact ⟨[name], rfl⟩
    | createTable name query => exact ⟨[name, " AS ", query], rfl⟩
    | stage temp query => exact ⟨[temp, " AS ", query], rfl⟩
    | createLike name temp => exact ⟨[name, " AS SELECT * FROM ", temp, " WHERE 1=0"], rfl⟩
    | deleteMatching name temp key =>
      exact ⟨[name, " WHERE EXISTS (SELECT 1 FROM ", temp, " WHERE ", keysMatch name temp key, ")"],
        rfl⟩
    | insertAll name temp => exact ⟨[name, " SELECT * FROM ", temp], rfl⟩
    | dropStage temp => exact ⟨[temp], rfl⟩
  obtain ⟨rest, h⟩ := htext
  rw [h]
  exact isPrefix_foldl_append _ _

/-- That one of two texts is the start of the other. -/
def Meet (a b : String) : Prop :=
  a.toList <+: b.toList ∨ b.toList <+: a.toList

instance (a b : String) : Decidable (Meet a b) :=
  inferInstanceAs (Decidable (_ ∨ _))

/-- Statements of the same text do not open with different words. -/
theorem openings_meet {a b : Statement} (h : a.text = b.text) : Meet a.opening b.opening := by
  have ha := a.opening_isPrefix
  rw [h] at ha
  exact List.prefix_or_prefix_of_prefix ha b.opening_isPrefix

theorem not_overwrites_of_opening {statement : Statement} {name : String}
    (h : ¬ Meet statement.opening "DROP TABLE IF EXISTS " ∧ ¬ Meet statement.opening "DROP TABLE "
      ∧ ¬ Meet statement.opening "CREATE TABLE ") : ¬ Overwrites name statement.text := by
  obtain ⟨hdrop, hdropPlain, hcreate⟩ := h
  rintro (h | h | ⟨query, h⟩)
  · exact hdrop (openings_meet h)
  · exact hdropPlain (openings_meet h)
  · exact hcreate (openings_meet h)

/-- A text is not found again behind a start that lacks one of its characters. -/
theorem append_ne_append_append {c : Char} {l start : List Char} (hl : c ∈ l) (hstart : c ∉ start)
    (hne : start ≠ []) (x y : List Char) : l ++ x ≠ start ++ (l ++ y) := by
  intro h
  have hplace := congrArg (List.idxOf c) h
  rw [List.idxOf_append_of_mem hl, List.idxOf_append_of_notMem hstart,
    List.idxOf_append_of_mem hl] at hplace
  have hlength := List.length_pos_iff.2 hne
  omega

/-- No name makes a table that is built from a query look like one that is built if absent. -/
theorem createLike_ne_createTable (name temp query : String) :
    (createLike name temp).text ≠ (createTable name query).text := by
  intro h
  have hlists : "CREATE TABLE ".toList ++ ((name ++ " AS ").toList ++ query.toList)
      = "CREATE TABLE ".toList ++ ("IF NOT EXISTS ".toList
          ++ ((name ++ " AS ").toList ++ ("SELECT * FROM " ++ temp ++ " WHERE 1=0").toList)) := by
    have htable : (createTable name query).text
        = "CREATE TABLE " ++ name ++ " AS " ++ query := rfl
    have hlike : (createLike name temp).text
        = "CREATE TABLE IF NOT EXISTS " ++ name ++ " AS SELECT * FROM " ++ temp
          ++ " WHERE 1=0" := rfl
    rw [htable, hlike] at h
    have htexts := congrArg String.toList h.symm
    simp only [String.toList_append, List.append_assoc] at htexts ⊢
    exact htexts
  -- behind the common words both texts hold the name and this letter, at different places
  have hmem : 'A' ∈ (name ++ " AS ").toList := by
    rw [String.toList_append]
    exact List.mem_append_right _ (by decide)
  exact append_ne_append_append hmem (by decide) (by decide) _ _ (List.append_cancel_left hlists)

/-- No name makes dropping a temporary table look like dropping its target. -/
theorem dropStage_ne_dropTable (name : String) :
    (dropStage (Strategy.stageName name)).text ≠ (dropTable name).text := by
  intro h
  have htemp : (dropStage (Strategy.stageName name)).text
      = "DROP TABLE " ++ ((splitQualified name).2 ++ "__tmp") := rfl
  have htable : (dropTable name).text = "DROP TABLE IF EXISTS " ++ name := rfl
  rw [htemp, htable] at h
  have hlength := congrArg String.length h
  simp only [String.length_append] at hlength
  -- the suffix is shorter than the words that one text has more
  have hdrop : "DROP TABLE ".length = 11 := by decide
  have hdropIf : "DROP TABLE IF EXISTS ".length = 21 := by decide
  have hsuffix : "__tmp".length = 5 := by decide
  have hle := Strategy.length_splitQualified_le name
  omega

end Statement

namespace Strategy

open Statement

/-- **No statement of a merge overwrites the target,** whatever the name and the query are. -/
theorem not_overwrites_of_mem_merge {name query sql : String} {key : List String}
    (h : sql ∈ (merge name query key).map text) : ¬ Overwrites name sql := by
  obtain ⟨statement, hmem, rfl⟩ := List.mem_map.1 h
  simp only [merge, List.mem_cons, List.not_mem_nil, or_false] at hmem
  intro hover
  rcases hmem with rfl | rfl | rfl | rfl | rfl
  · exact not_overwrites_of_opening (by simp only [opening]; decide) hover
  · rcases hover with h | h | ⟨_, h⟩
    · exact absurd (openings_meet h) (by simp only [opening]; decide)
    · exact absurd (openings_meet h) (by simp only [opening]; decide)
    · exact createLike_ne_createTable _ _ _ h
  · exact not_overwrites_of_opening (by simp only [opening]; decide) hover
  · exact not_overwrites_of_opening (by simp only [opening]; decide) hover
  · rcases hover with h | h | ⟨_, h⟩
    · exact dropStage_ne_dropTable name h
    · have htexts : "DROP TABLE " ++ stageName name = "DROP TABLE " ++ name := h
      exact stageName_ne name ((String.append_right_inj _).1 htexts)
    · exact absurd (openings_meet h) (by simp only [opening]; decide)

/-! ### The statements of a run that adds to a table -/

theorem strategy_of_isIncremental {m : Materialization} (h : m.isIncremental = true) :
    m.strategy = .ok incremental := by
  have htag : m.tag = some incremental.tag := by simpa [Materialization.isIncremental] using h
  have hname : m.tagName = incremental.tag := by
    rw [Materialization.tagName, htag]
    rfl
  rw [Materialization.strategy, hname, ofTag, ofTag?_tag]

/-- What keeps the result of a query without building from scratch is a merge. -/
theorem incremental_statements_eq {name query : String} {m : Materialization}
    (hm : m.fullRefresh = false) {texts : List String}
    (h : incremental.statements name query m = .ok texts) :
    texts = (merge name query m.uniqueKey).map text := by
  rw [statements, plan, hm] at h
  cases hname : isAllBlank name with
  | true =>
    rw [hname] at h
    cases h
  | false =>
    cases hquery : isAllBlank query with
    | true =>
      rw [hname, hquery] at h
      cases h
    | false =>
      cases hkey : m.uniqueKey.isEmpty with
      | true =>
        rw [hname, hquery] at h
        simp only [hkey] at h
        cases h
      | false =>
        rw [hname, hquery] at h
        simp only [hkey] at h
        exact (Except.ok.inj h).symm

end Strategy

end SqlPipeline
