/-
  SqlPipeline/Proofs/Seed/Loads.lean
  ==================================
  **Loading seeds one after the other, what is remembered of it and what is told.**

  Every seed is loaded once and in turn, whatever has come of those before it (`Seed.loads`).
  Of each full name only what came of the last load under it is remembered, so a list of seeds
  counts as loaded when for each of their full names the last load has succeeded
  (`noneFailed_iff`).  Where no two seeds have a full name in common, that is when every load
  has (`all_finallyLoaded_iff`).

  Names that have been checked and numbers hold nothing that could be a mark, so the line of a
  seed that was loaded is always legible (`exists_plain_doneLine`).  The line of one that was
  not has a message in it that is printed as it comes; it is legible if the message has no
  opening bracket (`exists_plain_failLine`).
-/
import SqlPipeline.Command.Seeds
import SqlPipeline.Seed.Load
import SqlPipeline.Proofs.Console.Markup
import SqlPipeline.Proofs.Model.Compile
import SqlPipeline.Proofs.Project.Names

namespace SqlPipeline

namespace Seed

open Storage

variable {δ : Type}

/-! ### Loads in turn -/

/-- A seed, and what came of loading it. -/
abbrev Attempt := Seed × Except SeedFault Data

/-- Loads every seed once, in turn. -/
def loads (d : Driver δ) (files : FileTree) : List Seed → Connection δ → List Attempt × Connection δ
  | [], c => ([], c)
  | s :: rest, c =>
      let (result, c) := (s.load d files).run.run c
      let (more, c) := loads d files rest c
      ((s, result) :: more, c)

theorem map_fst_loads (d : Driver δ) (files : FileTree) (seeds : List Seed) (c : Connection δ) :
    (loads d files seeds c).1.map (·.1) = seeds := by
  induction seeds generalizing c with
  | nil => rfl
  | cons s rest ih => exact congrArg (s :: ·) (ih _)

theorem forall_loads_iff {d : Driver δ} {files : FileTree} {seeds : List Seed} {c : Connection δ}
    {P : Seed → Prop} : (∀ a ∈ (loads d files seeds c).1, P a.1) ↔ ∀ s ∈ seeds, P s := by
  rw [← List.forall_mem_map, map_fst_loads]

/-- Whether a load has succeeded. -/
def Attempt.succeeded (a : Attempt) : Bool :=
  a.2.isOk

/-- The last attempt to load a table of that name. -/
def lastAttempt? (attempts : List Attempt) (name : String) : Option Attempt :=
  attempts.reverse.find? (·.1.fullName == name)

/-- Whether the last attempt to load a table of that name has succeeded. -/
def finallyLoaded (attempts : List Attempt) (name : String) : Bool :=
  (lastAttempt? attempts name).any Attempt.succeeded

/-! ### What is remembered -/

/-- Whether the tables were loaded, by their names, with what is known before. -/
def remembered (known : Entries Bool) (attempts : List Attempt) : Entries Bool :=
  attempts.foldl (fun known a => Entries.insert a.1.fullName a.succeeded known) known

theorem nodup_names_remembered {known : Entries Bool} (h : known.names.Nodup)
    (attempts : List Attempt) : (remembered known attempts).names.Nodup := by
  induction attempts generalizing known with
  | nil => exact h
  | cons a rest ih => exact ih (Entries.nodup_names_insert h _ _)

theorem find?_remembered (known : Entries Bool) (attempts : List Attempt) (name : String) :
    Entries.find? (remembered known attempts) name
      = ((lastAttempt? attempts name).map Attempt.succeeded).or (Entries.find? known name) := by
  induction attempts generalizing known with
  | nil => rfl
  | cons a rest ih =>
    rw [remembered, List.foldl_cons, ← remembered, ih, Entries.find?_insert, lastAttempt?,
      lastAttempt?, List.reverse_cons, List.find?_append]
    cases rest.reverse.find? (·.1.fullName == name) with
    | some b => rfl
    | none =>
      by_cases hname : name = a.1.fullName
      · simp [hname]
      · simp [hname, Ne.symm hname]

variable {attempts : List Attempt}

theorem exists_lastAttempt? {a : Attempt} (ha : a ∈ attempts) :
    ∃ b, lastAttempt? attempts a.1.fullName = some b := by
  apply Option.isSome_iff_exists.1
  rw [lastAttempt?, List.find?_isSome]
  exact ⟨a, List.mem_reverse.2 ha, beq_self_eq_true _⟩

/-- **No table counts as failed just when the last attempt has succeeded for each.** -/
theorem noneFailed_iff : ((remembered [] attempts).countP fun (_, done) => !done) = 0
    ↔ ∀ a ∈ attempts, finallyLoaded attempts a.1.fullName = true := by
  have hnone : (Entries.names ([] : Entries Bool)).Nodup := List.nodup_nil
  have hnodup := nodup_names_remembered hnone attempts
  have hfind := find?_remembered [] attempts
  rw [List.countP_eq_zero]
  constructor
  · intro h a ha
    obtain ⟨b, hb⟩ := exists_lastAttempt? ha
    have hentry : (a.1.fullName, b.succeeded) ∈ remembered [] attempts := by
      rw [← Entries.find?_eq_some_iff hnodup, hfind, hb]
      rfl
    simpa [finallyLoaded, hb] using h _ hentry
  · rintro h ⟨name, done⟩ hentry
    rw [← Entries.find?_eq_some_iff hnodup, hfind, Entries.find?_nil, Option.or_none,
      Option.map_eq_some_iff] at hentry
    obtain ⟨b, hb, rfl⟩ := hentry
    have hmem : b ∈ attempts := List.mem_reverse.1 (List.mem_of_find?_eq_some hb)
    have hname : b.1.fullName = name := by simpa using List.find?_some hb
    have hlast := h b hmem
    rw [finallyLoaded, hname, hb] at hlast
    simpa using hlast

/-- With distinct full names the last attempt for each is the only one. -/
theorem all_finallyLoaded_iff (h : (attempts.map (·.1.fullName)).Nodup) :
    (∀ a ∈ attempts, finallyLoaded attempts a.1.fullName = true)
      ↔ ∀ a ∈ attempts, ∃ count, a.2 = .ok count := by
  refine forall₂_congr fun a ha => ?_
  obtain ⟨b, hb⟩ := exists_lastAttempt? ha
  have hmem : b ∈ attempts := List.mem_reverse.1 (List.mem_of_find?_eq_some hb)
  have hname : b.1.fullName = a.1.fullName := by simpa using List.find?_some hb
  obtain rfl : b = a := List.inj_on_of_nodup_map h hmem ha hname
  rw [finallyLoaded, hb]
  obtain ⟨s, result⟩ := b
  cases result with
  | ok count => simp [Attempt.succeeded, Except.isOk, Except.toBool]
  | error e => simp [Attempt.succeeded, Except.isOk, Except.toBool]

end Seed

open Console.Markup (Bare Legible IsStyle isStyle_red isStyle_green isStyle_bold)

/-! ### Names and numbers -/

theorem Identifier.bare_of_isValid {s : String} (h : isValid s = true) : Bare s.toList := by
  have hallowed : ∀ c ∈ s.toList, IsLetter c ∨ IsDigit c ∨ c = '\n' := by
    intro c hc
    rcases isValid_iff.1 h with hs | ⟨name, hname, rfl⟩
    · exact (hs.allowed c hc).imp_right .inl
    · rw [String.toList_append] at hc
      rcases List.mem_append.1 hc with hc | hc
      · exact (hname.allowed c hc).imp_right .inl
      · exact .inr (.inr (List.mem_singleton.1 hc))
  constructor
  · intro hmem
    have hbracket := hallowed _ hmem
    revert hbracket
    unfold IsLetter IsDigit
    decide
  · intro hmem
    have hbackslash := hallowed _ hmem
    revert hbackslash
    unfold IsLetter IsDigit
    decide

theorem Seed.bare_fullName {s : Seed} (hname : Identifier.isValid s.name = true)
    (hschema : s.schema = "" ∨ Identifier.isValid s.schema = true) : Bare s.fullName.toList := by
  have hname := Identifier.bare_of_isValid hname
  rw [fullName, qualify]
  split
  · exact hname
  · rename_i hempty
    have hschema := Identifier.bare_of_isValid (hschema.resolve_left (by simpa using hempty))
    have hdot : Bare ".".toList := ⟨by decide, by decide⟩
    rw [String.toList_append, String.toList_append]
    exact (hschema.append hdot).append hname

theorem Decimal.mem_groupDigits_go {sep c : Char} {n : Nat} {digits : List Char}
    (h : c ∈ groupDigits.go sep n digits) : c = sep ∨ c ∈ digits := by
  induction digits generalizing n with
  | nil => exact .inr h
  | cons x digits ih =>
    have hrest : ∀ m, c ∈ groupDigits.go sep m digits → c = sep ∨ c ∈ x :: digits :=
      fun m hm => (ih hm).imp_right (List.mem_cons_of_mem _)
    rw [groupDigits.go] at h
    split at h
    · rcases List.mem_cons.1 h with rfl | h
      · exact .inl rfl
      · rcases List.mem_cons.1 h with rfl | h
        · exact .inr List.mem_cons_self
        · exact hrest _ h
    · rcases List.mem_cons.1 h with rfl | h
      · exact .inr List.mem_cons_self
      · exact hrest _ h

/-- Grouping adds commas only. -/
theorem Decimal.mem_groupedText {s : String} {c : Char} (h : c ∈ (groupedText s).toList) :
    c = ',' ∨ c ∈ s.toList := by
  dsimp only [groupedText] at h
  rw [String.toList_ofList] at h
  rcases List.mem_append.1 h with h | h
  · rcases List.mem_append.1 h with h | h
    · exact .inr (List.takeWhile_subset _ h)
    · refine (mem_groupDigits_go (List.mem_reverse.1 h)).imp_right fun h => ?_
      exact List.dropWhile_subset _ (List.takeWhile_subset _ (List.mem_reverse.1 h))
  · exact .inr (List.dropWhile_subset _ (List.dropWhile_subset _ h))

theorem Decimal.mem_intText {n : Int} {c : Char} (h : c ∈ (intText n).toList) :
    c = '-' ∨ c.isDigit = true := by
  have hdigits : ∀ m, c ∈ (digitText m).toList → c.isDigit = true := by
    intro m hm
    rw [digitText, String.toList_ofList] at hm
    exact Nat.isDigit_of_mem_toDigits (by decide) (by decide) hm
  rw [intText] at h
  split at h
  · rw [String.toList_append] at h
    rcases List.mem_append.1 h with h | h
    · exact .inl (List.mem_singleton.1 h)
    · exact .inr (hdigits _ h)
  · exact .inr (hdigits _ h)

theorem Seed.notMem_countText {n : Int} {rows : String} (h : countText (.int n) = .ok rows) :
    '[' ∉ rows.toList := by
  obtain rfl := Except.ok.inj h
  intro hmem
  rcases Decimal.mem_groupedText hmem with hcomma | hmem
  · cases hcomma
  · rcases Decimal.mem_intText hmem with hsign | hdigit
    · cases hsign
    · cases hdigit

/-! ### The lines that tell of loads -/

namespace Task

/-- The line that tells that a seed was loaded. -/
def doneLine (s : Seed) (rows : String) : String :=
  s!"  [green]done[/green]  {seedLabel s} ({rows} rows, 0ms)"

/-- The line that tells that it was not. -/
def failLine (s : Seed) (message : String) : String :=
  s!"  [red]fail[/red]  {seedLabel s}: {message}"

/-- A line that starts with a word in a style and the name of a seed. -/
def statusLine (style word : String) (s : Seed) (rest : String) : String :=
  "  [" ++ style ++ "]" ++ word ++ "[/" ++ style ++ "]  " ++ seedLabel s ++ rest

theorem doneLine_eq (s : Seed) (rows : String) :
    doneLine s rows = statusLine "green" "done" s (" (" ++ rows ++ " rows, 0ms)") := by
  have hhead : "  [" ++ "green" ++ "]" ++ "done" ++ "[/" ++ "green" ++ "]  "
      = "  [green]done[/green]  " := rfl
  rw [statusLine, hhead, ← String.append_assoc, ← String.append_assoc]
  rfl

theorem failLine_eq (s : Seed) (message : String) :
    failLine s message = statusLine "red" "fail" s (": " ++ message) := by
  have hhead : "  [" ++ "red" ++ "]" ++ "fail" ++ "[/" ++ "red" ++ "]  "
      = "  [red]fail[/red]  " := rfl
  rw [statusLine, hhead, ← String.append_assoc]
  rfl

/-- Such a line about whatever has a name. -/
def namedLine (style word name rest : String) : String :=
  "  [" ++ style ++ "]" ++ word ++ "[/" ++ style ++ "]  " ++ ("[bold]" ++ name ++ "[/bold]") ++ rest

theorem statusLine_eq (style word : String) (s : Seed) (rest : String) :
    statusLine style word s rest = namedLine style word s.fullName rest := rfl

theorem toList_namedLine (style word name rest : String) :
    (namedLine style word name rest).toList
      = "  ".toList ++ ('[' :: (style.toList ++ ']' :: (word.toList ++ '[' :: ('/' :: style.toList
        ++ ']' :: ("  ".toList ++ ('[' :: ("bold".toList ++ ']' :: (name.toList
          ++ '[' :: ('/' :: "bold".toList ++ ']' :: rest.toList))))))))) := by
  simp [namedLine]

/-- Such a line is legible if the rest of it is. -/
theorem legible_namedLine {style word name rest : String} (hstyle : IsStyle style.toList)
    (hword : Bare word.toList) (hname : Bare name.toList) (hrest : Legible [] rest.toList) :
    Legible [] (namedLine style word name rest).toList := by
  have hspace : Bare "  ".toList := ⟨by decide, by decide⟩
  rw [toList_namedLine]
  refine Legible.bare (Legible.styled (Legible.bare ?_ hspace) hstyle hword) hspace
  exact Legible.styled hrest isStyle_bold hname

theorem exists_plain_statusLine {s : Seed} (hname : Bare s.fullName.toList)
    {style word rest : String} (hstyle : IsStyle style.toList) (hword : Bare word.toList)
    (hrest : '[' ∉ rest.toList) :
    ∃ t, Console.Markup.plain (statusLine style word s rest) = .ok t := by
  refine Console.Markup.exists_plain_of_legible ?_
  rw [statusLine_eq]
  exact legible_namedLine hstyle hword hname (Console.Markup.legible_of_notMem hrest [])

theorem exists_plain_doneLine {s : Seed} (hname : Bare s.fullName.toList) {n : Int} {rows : String}
    (hrows : Seed.countText (.int n) = .ok rows) :
    ∃ t, Console.Markup.plain (doneLine s rows) = .ok t := by
  rw [doneLine_eq]
  refine exists_plain_statusLine hname isStyle_green ⟨by decide, by decide⟩ ?_
  simp only [String.toList_append, List.mem_append, not_or]
  exact ⟨⟨by decide, Seed.notMem_countText hrows⟩, by decide⟩

/-- A failure can be told of if its message has no opening bracket. -/
theorem exists_plain_failLine {s : Seed} (hname : Bare s.fullName.toList) {message : String}
    (hmessage : '[' ∉ message.toList) :
    ∃ t, Console.Markup.plain (failLine s message) = .ok t := by
  rw [failLine_eq]
  refine exists_plain_statusLine hname isStyle_red ⟨by decide, by decide⟩ ?_
  simp only [String.toList_append, List.mem_append, not_or]
  exact ⟨by decide, hmessage⟩

end Task

end SqlPipeline
