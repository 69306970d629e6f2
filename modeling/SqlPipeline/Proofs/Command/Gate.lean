/-
  SqlPipeline/Proofs/Command/Gate.lean
  ====================================
  **Models are run behind seeds that count as loaded.**

  The seeds of a project are loaded in turn as long as what has come of them can be told
  (`loadEach_run`).  Then they count as loaded when the last load of each full name has
  succeeded, and models are run only then (`buildGate`).  This is less than that all of them
  have been loaded: a failure is forgotten when a later seed has the same full name, and a
  message with a mark that closes nothing ends the loading (`gate_misses_failure`).
-/
import SqlPipeline.Command.Perform
import SqlPipeline.Proofs.Command.Carry
import SqlPipeline.Proofs.Seed.Loads

namespace SqlPipeline.Task

open Storage
open Console.Markup (Bare)

variable {δ : Type}

/-! ### One seed -/

/-- Whether a seed is told to be loaded, or why nothing is told of it. -/
def told (s : Seed) : Except SeedFault Data → Except Stop Bool
  | .ok count =>
      match Seed.countText count with
      | .ok rows => afterLine (doneLine s rows) true
      | .error e => .error (.raised (.store (.escaped e)))
  | .error (.store (.storage message)) => afterLine (failLine s message) false
  | .error (.store (.escaped e)) => .error (.raised (.store (.escaped e)))
  | .error (.file e) =>
      if e.isSystem then afterLine (failLine s e.message) false else .error (.raised (.file e))

/-- What is told is true. -/
theorem eq_isOk_of_told {s : Seed} {r : Except SeedFault Data} {b : Bool} (h : told s r = .ok b) :
    b = r.isOk := by
  unfold told at h
  split at h
  · split at h
    · exact eq_of_afterLine h
    · cases h
  · exact eq_of_afterLine h
  · cases h
  · split at h
    · exact eq_of_afterLine h
    · cases h

/-- What is done about a seed when it has been loaded, or has not. -/
def tell (s : Seed) : Except SeedFault Data → Task δ Bool
  | .ok count => do
      let rows ← orRaise (fun e => .store (.escaped e)) (Seed.countText count)
      seedNote .info s!"Loaded seed {s.fullName} ({count.shown} rows)"
      say (doneLine s rows)
      return true
  | .error (.store (.storage message)) => do
      saySeedFailed s message
      return false
  | .error (.file e) =>
      if e.isSystem then do
        saySeedFailed s e.message
        return false
      else throw (.raised (.file e))
  | .error (.store fault) => throw (.raised (.store fault))

theorem perform_loadSeed (d : Driver δ) (s : Seed) (desk : Desk δ) :
    perform (loadSeed d s) desk
      = perform (tell s ((s.load d desk.files).run.run desk.connection).1)
          { desk with connection := ((s.load d desk.files).run.run desk.connection).2 } := rfl

theorem saySeedFailed_ends (s : Seed) (message : String) (desk : Desk δ) :
    Ends (do saySeedFailed s message; return false) desk (afterLine (failLine s message) false)
      desk.connection := by
  unfold afterLine
  cases hline : Console.Markup.plain (failLine s message) with
  | error e => exact Ends.bind_error (Ends.bind_error (Ends.say_error hline) _) _
  | ok t =>
    refine Ends.bind_alone (a := ()) ?_ fun next => Ends.pure false
    exact (Ends.say hline).bind_alone fun next => Ends.note _

theorem tell_ends (s : Seed) (r : Except SeedFault Data) (desk : Desk δ) :
    Ends (tell s r) desk (told s r) desk.connection := by
  match r with
  | .error (.store (.storage message)) => exact saySeedFailed_ends s message desk
  | .error (.store (.escaped e)) => exact Ends.throw _
  | .error (.file e) =>
    rw [tell, told]
    split
    · exact saySeedFailed_ends s e.message desk
    · exact Ends.throw _
  | .ok count =>
    rw [tell, told]
    cases hrows : Seed.countText count with
    | error e => exact Ends.bind_error (Ends.throw _) _
    | ok rows =>
      refine (Ends.pure rows).bind_alone fun next => (Ends.note _).bind_alone fun last => ?_
      exact Ends.sayAfter _ true last

theorem loadSeed_ends (d : Driver δ) (s : Seed) (desk : Desk δ) :
    Ends (loadSeed d s) desk (told s ((s.load d desk.files).run.run desk.connection).1)
      ((s.load d desk.files).run.run desk.connection).2 := by
  obtain ⟨hresult, hconnection, hfiles⟩ := tell_ends s
    ((s.load d desk.files).run.run desk.connection).1
    { desk with connection := ((s.load d desk.files).run.run desk.connection).2 }
  rw [← perform_loadSeed] at hresult hconnection hfiles
  exact ⟨hresult, hconnection, hfiles⟩

/-! ### All seeds -/

/-- What becomes known of seeds when their attempts are told of one after the other, or why that
    comes to an end. -/
def toldAll (known : Entries Bool) : List Seed.Attempt → Except Stop (Entries Bool)
  | [] => .ok known
  | a :: rest => do
      let done ← told a.1 a.2
      toldAll (Entries.insert a.1.fullName done known) rest

theorem toldAll_eq_ok_iff {known known' : Entries Bool} {attempts : List Seed.Attempt} :
    toldAll known attempts = .ok known'
      ↔ (∀ a ∈ attempts, ∃ b, told a.1 a.2 = .ok b) ∧ known' = Seed.remembered known attempts := by
  induction attempts generalizing known with
  | nil => simp [toldAll, Seed.remembered, eq_comm]
  | cons a rest ih =>
    rw [toldAll, bind_eq_ok_iff, List.forall_mem_cons]
    constructor
    · rintro ⟨done, hdone, h⟩
      obtain ⟨hrest, rfl⟩ := ih.1 h
      rw [eq_isOk_of_told hdone]
      exact ⟨⟨⟨done, hdone⟩, hrest⟩, rfl⟩
    · rintro ⟨⟨⟨done, hdone⟩, hrest⟩, rfl⟩
      refine ⟨done, hdone, ih.2 ⟨hrest, ?_⟩⟩
      rw [eq_isOk_of_told hdone]
      rfl

/-- The loads are made one after the other as long as they can be told of. -/
theorem loadEach_run (d : Driver δ) (known : Entries Bool) (seeds : List Seed) (desk : Desk δ) :
    (perform (loadEach d known seeds) desk).1
        = toldAll known (Seed.loads d desk.files seeds desk.connection).1
      ∧ ∀ known', (perform (loadEach d known seeds) desk).1 = .ok known' →
        Ends (loadEach d known seeds) desk (.ok known')
          (Seed.loads d desk.files seeds desk.connection).2 := by
  induction seeds generalizing known desk with
  | nil => exact ⟨rfl, fun known' h => ⟨h, rfl, rfl⟩⟩
  | cons s rest ih =>
    have hseed := loadSeed_ends d s desk
    rcases hload : (s.load d desk.files).run.run desk.connection with ⟨r, c⟩
    rw [hload] at hseed
    have hloads : Seed.loads d desk.files (s :: rest) desk.connection
        = ((s, r) :: (Seed.loads d desk.files rest c).1, (Seed.loads d desk.files rest c).2) := by
      rw [Seed.loads, hload]
    rw [hloads, loadEach, toldAll]
    cases htold : told s r with
    | error stop =>
      rw [htold] at hseed
      have hends := Ends.bind_error hseed fun done =>
        loadEach d (Entries.insert s.fullName done known) rest
      refine ⟨hends.result, fun known' h => ?_⟩
      rw [hends.result] at h
      cases h
    | ok done =>
      rw [htold] at hseed
      obtain ⟨next, hnext, hfiles, hrun⟩ := hseed.exists_next (β := Entries Bool)
      obtain ⟨hresult, hends⟩ := ih (Entries.insert s.fullName done known) next
      rw [hnext, hfiles] at hresult hends
      rw [hrun]
      refine ⟨hresult, fun known' h => ?_⟩
      obtain ⟨hresult, hconnection, hkept⟩ := hends known' h
      exact ⟨hrun _ ▸ hresult, hrun _ ▸ hconnection, hrun _ ▸ hkept.trans hfiles⟩

/-- Loading all seeds, where there may be none. -/
theorem loadAll_run (d : Driver δ) (seeds : List Seed) (desk : Desk δ) :
    (perform (loadAll d seeds) desk).1
        = toldAll [] (Seed.loads d desk.files seeds desk.connection).1
      ∧ ∀ known, (perform (loadAll d seeds) desk).1 = .ok known →
        Ends (loadAll d seeds) desk (.ok known)
          (Seed.loads d desk.files seeds desk.connection).2 := by
  cases seeds with
  | cons s rest => exact loadEach_run d [] (s :: rest) desk
  | nil =>
    have hline : Console.Markup.plain "[yellow]No CSV files found in seed paths[/yellow]"
        = .ok "No CSV files found in seed paths" := rfl
    have hends : Ends (loadAll d []) desk (.ok []) desk.connection :=
      (Ends.say hline).bind_alone fun _ => Ends.pure []
    refine ⟨hends.result, fun known h => ?_⟩
    obtain rfl := Except.ok.inj (hends.result.symm.trans h)
    exact hends

theorem saySeedCounts_ends (known : Entries Bool) (desk : Desk δ) :
    Ends (saySeedCounts known) desk (.ok ((known.countP fun (_, done) => !done) == 0))
      desk.connection := by
  cases known with
  | nil => exact Ends.pure true
  | cons entry rest =>
    have hnumber : ∀ n : Nat, '[' ∉ (toString n).toList := fun n hmem =>
      absurd (Console.Markup.isDigit_of_mem_toString hmem) (by decide)
    have hline : ∀ m n : Nat, Console.Markup.plain s!"\n  {m} loaded, {n} errors"
        = .ok s!"\n  {m} loaded, {n} errors" := by
      intro m n
      refine Console.Markup.plain_of_notMem ?_
      have htext : '[' ∉ "\n  ".toList ∧ '[' ∉ " loaded, ".toList ∧ '[' ∉ " errors".toList := by
        decide
      simp only [String.toList_append, List.mem_append, not_or]
      exact ⟨⟨⟨⟨htext.1, hnumber m⟩, htext.2.1⟩, hnumber n⟩, htext.2.2⟩
    exact (Ends.say (hline _ _)).bind_alone fun _ => Ends.pure _

/-! ### All seeds of a project -/

theorem perform_loadSeeds (d : Driver δ) (project : Project) (desk : Desk δ) :
    perform (loadSeeds d project) desk
      = perform (match Seed.discover desk.files project.schemaOfSeeds project.seedDirectories with
        | .error e =>
            if (Problem.seeds e).isFaultOfModels then do
              sayErrorAsIs e.message
              return false
            else throw (.raised (.seeds e))
        | .ok seeds => do
            say "[bold]Loading seeds:[/bold]"
            unlessRefused false do
              saySeedCounts (← whileOpen d project.databasePath (loadAll d seeds))) desk := rfl

/-- That the seeds of a project are those, and that its database is opened. -/
structure Begins (d : Driver δ) (project : Project) (desk : Desk δ) (seeds : List Seed)
    (c : Connection δ) : Prop where
  discovered :
    Seed.discover desk.files project.schemaOfSeeds project.seedDirectories = .ok seeds
  opened : Connection.perform (Connection.connect d) (unopened project.databasePath desk.connection)
    = (.ok (), c)

theorem plain_heading :
    Console.Markup.plain "[bold]Loading seeds:[/bold]" = .ok "Loading seeds:" := by
  rfl

/-- What loading the seeds of a project comes to, when all outcomes can be told of. -/
theorem loadSeeds_ends {d : Driver δ} {project : Project} {desk : Desk δ} {seeds : List Seed}
    {c c' : Connection δ} (hbegins : Begins d project desk seeds c)
    (htold : ∀ a ∈ (Seed.loads d desk.files seeds c).1, ∃ b, told a.1 a.2 = .ok b)
    (hclose : Connection.perform (Connection.close d) (Seed.loads d desk.files seeds c).2
      = (.ok (), c')) :
    Ends (loadSeeds d project) desk (.ok (seeds.all fun s =>
      Seed.finallyLoaded (Seed.loads d desk.files seeds c).1 s.fullName)) c' := by
  have hcounts : (seeds.all fun s =>
      Seed.finallyLoaded (Seed.loads d desk.files seeds c).1 s.fullName)
        = ((Seed.remembered [] (Seed.loads d desk.files seeds c).1).countP
          (fun (_, done) => !done) == 0) := by
    rw [Bool.eq_iff_iff, beq_iff_eq, Seed.noneFailed_iff, List.all_eq_true]
    exact Seed.forall_loads_iff.symm
  have hrun := perform_loadSeeds d project desk
  rw [hbegins.discovered] at hrun
  refine Ends.congr hrun ((Ends.say plain_heading).bind fun next hnext hfiles => ?_)
  refine Ends.unlessRefused ?_ false
  have hopened := hbegins.opened
  rw [← hnext] at hopened
  rw [hcounts]
  rw [← hfiles] at htold hclose ⊢
  obtain ⟨hresult, hends⟩ := loadAll_run d seeds { next with connection := c }
  have hloaded := hresult.trans (toldAll_eq_ok_iff.2 ⟨htold, rfl⟩)
  exact (Ends.whileOpen hopened (hends _ hloaded) hclose).bind fun last hlast _ =>
    hlast ▸ saySeedCounts_ends _ last

/-- Where none is said to have failed, all outcomes could be told of. -/
theorem exists_of_loadSeeds_true {d : Driver δ} {project : Project} {desk : Desk δ}
    (h : (perform (loadSeeds d project) desk).1 = .ok true) :
    ∃ seeds c c', Begins d project desk seeds c
      ∧ (∀ a ∈ (Seed.loads d desk.files seeds c).1, ∃ b, told a.1 a.2 = .ok b)
      ∧ Connection.perform (Connection.close d) (Seed.loads d desk.files seeds c).2
        = (.ok (), c') := by
  rw [perform_loadSeeds] at h
  cases hdiscover : Seed.discover desk.files project.schemaOfSeeds project.seedDirectories with
  | error e =>
    rw [hdiscover] at h
    dsimp only at h
    split at h
    · exact absurd (eq_of_sayErrorAsIs h) (by decide)
    · cases h
  | ok seeds =>
    rw [hdiscover] at h
    have hsay : Ends (say "[bold]Loading seeds:[/bold]") desk (.ok ()) desk.connection :=
      Ends.say plain_heading
    obtain ⟨next, hnext, hfiles, hrun⟩ := hsay.exists_next (β := Bool)
    obtain ⟨known, last, hopen, -⟩ :=
      exists_perform_bind (eq_true_of_unlessRefused (hrun _ ▸ h))
    obtain ⟨c, c', hconnect, hloaded, hclose⟩ := exists_of_whileOpen (congrArg Prod.fst hopen)
    obtain ⟨hresult, hends⟩ := loadAll_run d seeds { next with connection := c }
    rw [(hends known hloaded).connection] at hclose
    rw [hresult] at hloaded
    obtain ⟨htold, -⟩ := toldAll_eq_ok_iff.1 hloaded
    dsimp only at hclose htold
    rw [hfiles] at hclose htold
    rw [hnext] at hconnect
    exact ⟨seeds, c, c', ⟨hdiscover, hconnect⟩, htold, hclose⟩

/-! ### The gate -/

/-- That it can be told what has come of a load: it is a number of rows, or an error of the
    store or of the file system in whose line the marks can be followed. -/
inductive Tellable (s : Seed) : Except SeedFault Data → Prop
  | counted (n : Int) : Tellable s (.ok (.int n))
  | refused {message : String} (h : ∃ t, Console.Markup.plain (failLine s message) = .ok t) :
      Tellable s (.error (.store (.storage message)))
  | unread {e : FileError} (hsystem : e.isSystem = true)
      (h : ∃ t, Console.Markup.plain (failLine s e.message) = .ok t) : Tellable s (.error (.file e))

theorem Tellable.exists_told {s : Seed} (hname : Bare s.fullName.toList)
    {r : Except SeedFault Data} (h : Tellable s r) : ∃ b, told s r = .ok b := by
  have hafter : ∀ line b, (∃ t, Console.Markup.plain line = .ok t) → afterLine line b = .ok b := by
    rintro line b ⟨t, ht⟩
    rw [afterLine, ht]
  cases h with
  | counted n => exact ⟨true, hafter _ _ (exists_plain_doneLine hname rfl)⟩
  | refused h => exact ⟨false, hafter _ _ h⟩
  | unread hsystem h =>
    refine ⟨false, ?_⟩
    rw [told, if_pos hsystem]
    exact hafter _ _ h

theorem exists_told_of_begins {d : Driver δ} {project : Project} {desk : Desk δ}
    {seeds : List Seed} {c : Connection δ} (hproject : project.SchemasChecked)
    (hbegins : Begins d project desk seeds c)
    (htellable : ∀ a ∈ (Seed.loads d desk.files seeds c).1, Tellable a.1 a.2) :
    ∀ a ∈ (Seed.loads d desk.files seeds c).1, ∃ b, told a.1 a.2 = .ok b := by
  have hbare : ∀ s ∈ seeds, Bare s.fullName.toList := by
    intro s hs
    obtain ⟨hname, hschema⟩ := Seed.isValid_of_discover hbegins.discovered s hs
    exact Seed.bare_fullName hname (hschema ▸ hproject.schemaOfSeeds)
  intro a ha
  exact (htellable a ha).exists_told (Seed.forall_loads_iff.2 hbare a ha)

theorem perform_buildProject {d : Driver δ} {project : Project} {options : Command.RunOptions}
    {desk : Desk δ} (h : (perform (loadSeeds d project) desk).1 ≠ .ok true) :
    (∃ stop, (perform (Command.buildProject d project options) desk).1 = .error stop)
      ∧ (perform (Command.buildProject d project options) desk).2.connection
        = (perform (loadSeeds d project) desk).2.connection := by
  rw [Command.buildProject, perform_bind]
  rcases hload : perform (loadSeeds d project) desk with ⟨result, next⟩
  rw [hload] at h
  match result with
  | .error stop => exact ⟨⟨stop, rfl⟩, rfl⟩
  | .ok true => exact absurd rfl h
  | .ok false =>
    have hline : Console.Markup.plain "[red]Seed loading failed, models not run[/red]"
        = .ok "Seed loading failed, models not run" := rfl
    have hends : Ends (giveUp (α := Unit) "Seed loading failed, models not run") next
        (.error (.exit 1)) next.connection :=
      (Ends.say hline).bind_alone fun _ => Ends.throw _
    exact ⟨⟨.exit 1, hends.result⟩, hends.connection⟩

/-- **Models are run only behind seeds that count as loaded,** which means that every seed has been
    loaded in turn and that for each full name the last load has succeeded; with distinct full
    names it means that all have.  Where all outcomes can be told of, nothing else keeps the
    models from being run. -/
theorem buildGate (d : Driver δ) {project : Project} (hproject : project.SchemasChecked)
    (options : Command.RunOptions) (desk : Desk δ) :
    ((perform (loadSeeds d project) desk).1 ≠ .ok true →
      (∃ stop, (perform (Command.buildProject d project options) desk).1 = .error stop)
        ∧ (perform (Command.buildProject d project options) desk).2.connection
          = (perform (loadSeeds d project) desk).2.connection)
    ∧ ((perform (loadSeeds d project) desk).1 = .ok true →
      ∃ seeds c c', Begins d project desk seeds c
        ∧ Connection.perform (Connection.close d) (Seed.loads d desk.files seeds c).2 = (.ok (), c')
        ∧ Ends (loadSeeds d project) desk (.ok true) c'
        ∧ (∀ s ∈ seeds, Seed.finallyLoaded (Seed.loads d desk.files seeds c).1 s.fullName = true)
        ∧ ((seeds.map (·.fullName)).Nodup →
          ∀ a ∈ (Seed.loads d desk.files seeds c).1, ∃ count, a.2 = .ok count))
    ∧ ∀ seeds c c', Begins d project desk seeds c →
      (∀ a ∈ (Seed.loads d desk.files seeds c).1, Tellable a.1 a.2) →
      Connection.perform (Connection.close d) (Seed.loads d desk.files seeds c).2 = (.ok (), c') →
      (Seed.loads d desk.files seeds c).1.map (·.1) = seeds
        ∧ Ends (loadSeeds d project) desk (.ok (seeds.all fun s =>
          Seed.finallyLoaded (Seed.loads d desk.files seeds c).1 s.fullName)) c' := by
  refine ⟨perform_buildProject, fun h => ?_, fun seeds c c' hbegins htellable hclose => ?_⟩
  · obtain ⟨seeds, c, c', hbegins, htold, hclose⟩ := exists_of_loadSeeds_true h
    have hends := loadSeeds_ends hbegins htold hclose
    have hall := Except.ok.inj (hends.result.symm.trans h)
    rw [hall] at hends
    have hlast := List.all_eq_true.1 hall
    refine ⟨seeds, c, c', hbegins, hclose, hends, hlast, fun hnodup => ?_⟩
    refine (Seed.all_finallyLoaded_iff ?_).1 (Seed.forall_loads_iff.2 hlast)
    rw [← Seed.map_fst_loads d desk.files seeds c, List.map_map] at hnodup
    exact hnodup
  · have htold := exists_told_of_begins hproject hbegins htellable
    exact ⟨Seed.map_fst_loads d desk.files seeds c, loadSeeds_ends hbegins htold hclose⟩

/-! ### Two files of one name -/

/-- Two directories with empty files of one name. -/
def twoDirectories : FileTree where
  nodes := [(["p"], .directory),
    (["p", "seeds"], .directory), (["p", "seeds", "a.csv"], .file []),
    (["p", "more"], .directory), (["p", "more", "a.csv"], .file [])]
  home := []

/-- A project whose seeds are in both. -/
def twoPaths : Project where
  seedPaths := ["seeds", "more"]
  directory := ⟨"/", ["p"]⟩

def seedOne : Seed := ⟨⟨"/", ["p", "seeds", "a.csv"]⟩, "a", ""⟩

def seedTwo : Seed := ⟨⟨"/", ["p", "more", "a.csv"]⟩, "a", ""⟩

/-- A driver that counts statements and refuses one of them. -/
def refusingNth (n : Nat) (message : String) : Driver Nat where
  connect _ _ := pure ()
  execute _ _ := do
    modify (· + 1)
    if (← get) = n then throw (.error message) else return ⟨none, []⟩
  start := pure ()
  commit := pure ()
  rollback := pure ()
  close := pure ()

def deskOfTwo : Desk Nat where
  files := twoDirectories
  connection := { driver := 0 }

/-- The connection to the database of the project after some statements. -/
def openOfTwo (statements : Nat) : Connection Nat :=
  ⟨"/p/warehouse.duckdb", false, true, statements⟩

theorem discover_two :
    Seed.discover twoDirectories twoPaths.schemaOfSeeds twoPaths.seedDirectories
      = .ok [seedOne, seedTwo] := by
  cbv

theorem readTextLossy_two {s : Seed} (hs : s = seedOne ∨ s = seedTwo) :
    twoDirectories.readTextLossy s.path = .ok "" := by
  rcases hs with rfl | rfl <;> cbv

theorem schemasChecked_two : twoPaths.SchemasChecked := ⟨.inl rfl, .inl rfl⟩

/-- What loading them comes to when the second, the fifth or no statement is refused. -/
theorem loads_two (message : String) :
    Seed.loads (refusingNth 2 message) twoDirectories [seedOne, seedTwo] (openOfTwo 1)
        = ([(seedOne, .error (.store (.storage ("failed to execute DDL: " ++ message)))),
            (seedTwo, .ok (.int 0))], openOfTwo 4)
    ∧ Seed.loads (refusingNth 5 message) twoDirectories [seedOne, seedTwo] (openOfTwo 1)
        = ([(seedOne, .ok (.int 0)),
            (seedTwo, .error (.store (.storage ("failed to execute DDL: " ++ message))))],
            openOfTwo 5)
    ∧ Seed.loads (refusingNth 0 message) twoDirectories [seedOne, seedTwo] (openOfTwo 1)
        = ([(seedOne, .ok (.int 0)), (seedTwo, .ok (.int 0))], openOfTwo 5) := by
  unfold Seed.loads Seed.loads Seed.loads Seed.load
  rw [readTextLossy_two (.inl rfl), readTextLossy_two (.inr rfl)]
  exact ⟨rfl, rfl, rfl⟩

theorem begins_two {n : Nat} {message : String}
    (h : Connection.perform (Connection.connect (refusingNth n message))
      (unopened "/p/warehouse.duckdb" deskOfTwo.connection) = (.ok (), openOfTwo 1)) :
    Begins (refusingNth n message) twoPaths deskOfTwo [seedOne, seedTwo] (openOfTwo 1) where
  discovered := discover_two
  opened := by
    have hpath : twoPaths.databasePath = "/p/warehouse.duckdb" := rfl
    rw [hpath]
    exact h

theorem tellable_boom {s : Seed} (hs : s.fullName = "a") :
    Tellable s (.error (.store (.storage "failed to execute DDL: boom"))) := by
  have hbare : Bare s.fullName.toList := hs ▸ ⟨by decide, by decide⟩
  exact .refused (exists_plain_failLine hbare (by decide))

/-- The outcomes of the loads can be told of, and the connection can be closed. -/
theorem tellable_two {n m : Nat} {first second : Except SeedFault Data}
    (h : Seed.loads (refusingNth n "boom") twoDirectories [seedOne, seedTwo] (openOfTwo 1)
      = ([(seedOne, first), (seedTwo, second)], openOfTwo m))
    (hfirst : Tellable seedOne first) (hsecond : Tellable seedTwo second) :
    (∀ a ∈ (Seed.loads (refusingNth n "boom") deskOfTwo.files [seedOne, seedTwo] (openOfTwo 1)).1,
      Tellable a.1 a.2)
    ∧ Connection.perform (Connection.close (refusingNth n "boom"))
        (Seed.loads (refusingNth n "boom") deskOfTwo.files [seedOne, seedTwo] (openOfTwo 1)).2
      = (.ok (), { openOfTwo m with isOpen := false }) := by
  have hfiles : deskOfTwo.files = twoDirectories := rfl
  rw [hfiles, h]
  refine ⟨fun a ha => ?_, rfl⟩
  rcases List.mem_pair.1 ha with rfl | rfl
  · exact hfirst
  · exact hsecond

/-- The gate is shut when the second of the two is refused, and opens when none is. -/
theorem buildGate_two :
    (perform (loadSeeds (refusingNth 5 "boom") twoPaths) deskOfTwo).1 = .ok false
    ∧ (∃ stop, (perform (Command.buildProject (refusingNth 5 "boom") twoPaths {}) deskOfTwo).1
      = .error stop)
    ∧ (perform (Command.buildProject (refusingNth 5 "boom") twoPaths {}) deskOfTwo).2.connection
      = { openOfTwo 5 with isOpen := false }
    ∧ (perform (loadSeeds (refusingNth 0 "boom") twoPaths) deskOfTwo).1 = .ok true
    ∧ ∃ seeds c c', Begins (refusingNth 0 "boom") twoPaths deskOfTwo seeds c
      ∧ Ends (loadSeeds (refusingNth 0 "boom") twoPaths) deskOfTwo (.ok true) c' := by
  obtain ⟨hshut, -, hends⟩ := buildGate (refusingNth 5 "boom") schemasChecked_two {} deskOfTwo
  obtain ⟨-, hopen, hends'⟩ := buildGate (refusingNth 0 "boom") schemasChecked_two {} deskOfTwo
  obtain ⟨-, hrefused, hloaded⟩ := loads_two "boom"
  have hfiles : deskOfTwo.files = twoDirectories := rfl
  have hfalse : Ends (loadSeeds (refusingNth 5 "boom") twoPaths) deskOfTwo (.ok false)
      { openOfTwo 5 with isOpen := false } := by
    obtain ⟨htellable, hclose⟩ := tellable_two hrefused (.counted 0) (tellable_boom rfl)
    have hall := (hends _ _ _ (begins_two rfl) htellable hclose).2
    rw [hfiles, hrefused] at hall
    exact hall
  have htrue : (perform (loadSeeds (refusingNth 0 "boom") twoPaths) deskOfTwo).1 = .ok true := by
    obtain ⟨htellable, hclose⟩ := tellable_two hloaded (.counted 0) (.counted 0)
    have hall := (hends' _ _ _ (begins_two rfl) htellable hclose).2.result
    rw [hfiles, hloaded] at hall
    exact hall
  obtain ⟨hstop, hconnection⟩ := hshut (by rw [hfalse.result]; nofun)
  obtain ⟨seeds, c, c', hbegins, -, hdone, -⟩ := hopen htrue
  exact ⟨hfalse.result, hstop, hconnection.trans hfalse.connection, htrue, seeds, c, c', hbegins,
    hdone⟩

/-- **The gate opens although a seed has not been loaded,** when a later one has its full name; and
    when a message closes a mark that is not open, the seeds behind it are not loaded at all. -/
theorem gate_misses_failure :
    (perform (loadSeeds (refusingNth 2 "boom") twoPaths) deskOfTwo).1 = .ok true
    ∧ (Seed.loads (refusingNth 2 "boom") twoDirectories [seedOne, seedTwo] (openOfTwo 1)).1.map
        Seed.Attempt.succeeded = [false, true]
    ∧ (perform (loadSeeds (refusingNth 2 "[/x]") twoPaths) deskOfTwo).1.toOption = none
    ∧ (perform (loadSeeds (refusingNth 2 "[/x]") twoPaths) deskOfTwo).2.connection.driver = 2 := by
  have hfiles : deskOfTwo.files = twoDirectories := rfl
  refine ⟨?_, ?_, ?_, ?_⟩
  · obtain ⟨htellable, hclose⟩ := tellable_two (loads_two "boom").1 (tellable_boom rfl) (.counted 0)
    have htold := exists_told_of_begins schemasChecked_two (begins_two rfl) htellable
    have hends := loadSeeds_ends (begins_two rfl) htold hclose
    rw [hfiles, (loads_two "boom").1] at hends
    exact hends.result
  · rw [(loads_two "boom").1]
    rfl
  · rw [perform_loadSeeds, hfiles, discover_two]
    decide +kernel
  · rw [perform_loadSeeds, hfiles, discover_two]
    decide +kernel

end SqlPipeline.Task
