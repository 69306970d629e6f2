/-
  SqlPipeline/Proofs/Project/Made.lean
  ====================================
  **What a new project has in its directory.**

  The settings are written whatever was there.  The file of variables is written only where there
  is none, so that it is the one of the scaffold just if the directory was fresh.  The samples
  stand in directories of their own and touch neither (`holds_of_take_steps`).
-/
import SqlPipeline.Command.Init
import SqlPipeline.Proofs.Command.Carry
import SqlPipeline.Proofs.FileTree.Fresh

namespace SqlPipeline.Scaffold

open FileTree

variable {t t' : FileTree} {directory : Path} {place : List String} {name : String} {empty : Bool}

/-- The samples stand in directories inside the project. -/
theorem samples_within : ∀ sample ∈ samples, (Path.ofText sample.1).root = ""
    ∧ 2 ≤ (Path.ofText sample.1).parts.length
    ∧ ∀ part ∈ (Path.ofText sample.1).parts, part ≠ "" ∧ part ≠ ".." := by
  decide

/-- No sample stands directly in the directory. -/
theorem ne_of_locate_sample {sample : String × String} (hsample : sample ∈ samples)
    (hplace : t.LeadsTo directory place) {q : List String}
    (hq : t.locate (directory.join (.ofText sample.1)) = .ok q) (entry : String) :
    place ++ [entry] ≠ q := by
  obtain ⟨hroot, hlength, hparts⟩ := samples_within sample hsample
  have hjoin : directory.join (.ofText sample.1)
      = ⟨directory.root, directory.parts ++ (Path.ofText sample.1).parts⟩ := by
    rw [Path.join, Path.isAbsolute, hroot]
    rfl
  rw [hjoin] at hq
  rw [hplace.locate_join hq fun part hpart => ⟨(hparts part hpart).1, (hparts part hpart).2⟩]
  intro heq
  have heq := congrArg List.length (List.append_cancel_left heq)
  simp only [List.length_singleton] at heq
  omega

/-- The steps for the samples write no file directly in the directory. -/
theorem keeps_of_take_samples (hplace : t.LeadsTo directory place)
    (h : t.take ((samplesFor empty).flatMap fun (path, text) =>
      let path := directory.join (.ofText path)
      [.directory path.parent, .file path text]) = (t', none)) :
    ∃ written, Keeps written t t' ∧ ∀ entry, place ++ [entry] ∉ written := by
  obtain ⟨written, hkeeps, hwritten⟩ := keeps_of_take h
  refine ⟨written, hkeeps, fun entry hmem => ?_⟩
  obtain ⟨path, text, earlier, between, hstep, hbetween, hpath⟩ := hwritten _ hmem
  obtain ⟨sample, hsample, hstep⟩ := List.mem_flatMap.1 hstep
  have hof : sample ∈ samples := by
    cases empty with
    | true => cases hsample
    | false => exact hsample
  obtain rfl : path = directory.join (.ofText sample.1) := by
    simp only [List.mem_cons, reduceCtorEq, FileStep.file.injEq, List.not_mem_nil, or_false,
      false_or] at hstep
    exact hstep.1
  exact ne_of_locate_sample hof (hbetween.leadsTo hplace) hpath entry rfl

/-- The file of variables is written where there is none. -/
theorem differsAt_newFile {entry text : String} (hplace : t.LeadsTo directory place)
    (hnone : t.node? (place ++ [entry]) = none) (hentry : IsEntryName entry)
    (h : (FileStep.newFile (directory.child entry) text).take t = .ok t') :
    DiffersAt (place ++ [entry]) t t'
      ∧ t'.Holds (directory.child entry) (place ++ [entry]) text := by
  rw [FileStep.take] at h
  cases hthere : t.contains (directory.child entry) with
  | error e =>
    rw [hthere] at h
    cases h
  | ok found =>
    rw [hthere] at h
    cases found with
    | true =>
      obtain ⟨n, hn⟩ := contains_eq_true.1 hthere
      obtain ⟨q, hq, hn⟩ := lookup_eq_ok.1 hn
      rw [hplace.locate_child hq hentry, hnone] at hn
      cases hn
    | false => exact hplace.differsAt_writeText h hentry

/-- **A new project in a fresh directory has its settings and its file of variables there.** -/
theorem holds_of_take_steps (hfresh : t.IsFresh directory)
    (h : t.take (steps directory name empty) = (t', none)) :
    ∃ place, t'.Holds (Project.fileIn directory) (place ++ [Project.fileName]) (settings name)
      ∧ t'.Holds (Environment.fileIn directory) (place ++ [".env"]) variablesFile := by
  have hentry : ∀ entry ∈ ["models", "seeds", Project.fileName, ".gitignore", ".env"],
      IsEntryName entry := by
    intro entry hmem
    refine ⟨?_, ?_⟩ <;> rintro rfl <;> exact absurd hmem (by decide)
  obtain ⟨t₁, hmodels, h⟩ := take_cons_eq h
  obtain ⟨t₂, hseeds, h⟩ := take_cons_eq h
  obtain ⟨t₃, hsettings, h⟩ := take_cons_eq h
  obtain ⟨t₄, hignored, h⟩ := take_cons_eq h
  obtain ⟨t₅, hvariables, h⟩ := take_cons_eq h
  obtain ⟨above, place, habove, hplace, hd₁⟩ :=
    exists_of_ensureDirectory_child hmodels (hentry _ (by decide))
  have hplace₁ := hd₁.keeps.leadsTo hplace
  have hd₂ := hplace₁.differsAt_ensureDirectory hseeds (hentry _ (by decide))
  have hplace₂ := hd₂.keeps.leadsTo hplace₁
  obtain ⟨hd₃, hholds₃⟩ := hplace₂.differsAt_writeText hsettings (hentry _ (by decide))
  have hplace₃ := hd₃.keeps.leadsTo hplace₂
  obtain ⟨hd₄, -⟩ := hplace₃.differsAt_writeText hignored (hentry _ (by decide))
  have hplace₄ := hd₄.keeps.leadsTo hplace₃
  have hne : ∀ {entry other : String}, entry ≠ other → place ++ [entry] ≠ place ++ [other] := by
    intro entry other hne heq
    exact hne (List.singleton_inj.1 (List.append_cancel_left heq))
  -- up to here nothing has been put at the place of the file of variables
  have hnone : t₄.node? (place ++ [".env"]) = none := by
    rw [hd₄.node _ (hne (by decide)), hd₃.node _ (hne (by decide)), hd₂.node _ (hne (by decide)),
      hd₁.node _ (hne (by decide))]
    exact hfresh.node? habove hplace ".env"
  obtain ⟨hd₅, hholds₅⟩ := differsAt_newFile hplace₄ hnone (hentry _ (by decide)) hvariables
  have hplace₅ := hd₅.keeps.leadsTo hplace₄
  obtain ⟨written, hkeeps, hwritten⟩ := keeps_of_take_samples hplace₅ h
  have hsettings₅ : t₅.Holds (Project.fileIn directory) (place ++ [Project.fileName])
      (settings name) :=
    hd₅.keeps.holds (hd₄.keeps.holds hholds₃ (by simpa using hne (by decide)))
      (by simpa using hne (by decide))
  exact ⟨place, hkeeps.holds hsettings₅ (hwritten _), hkeeps.holds hholds₅ (hwritten _)⟩

end SqlPipeline.Scaffold

namespace SqlPipeline.Task

variable {δ α β : Type} {desk : Desk δ}

/-! ### The command -/

/-- What goes on to a result has not been given up. -/
theorem not_of_perform_guard {c : Prop} [Decidable c] {message : String} {rest : Task δ α} {a : α}
    (h : (perform (if c then (giveUp message : Task δ β) >>= fun _ => rest else rest) desk).1
      = .ok a) : ¬ c := by
  intro hc
  rw [if_pos hc] at h
  obtain ⟨b, next, hgiveUp, -⟩ := exists_perform_bind h
  obtain ⟨stop, hstop, -⟩ := perform_giveUp (α := β) message desk
  rw [hgiveUp] at hstop
  cases hstop

/-- That a task changes no file. -/
def KeepsFiles (x : Task δ α) : Prop :=
  ∀ desk, (perform x desk).2.files = desk.files

theorem KeepsFiles.pure (a : α) : KeepsFiles (δ := δ) (Pure.pure a) :=
  fun _ => rfl

theorem KeepsFiles.bind {x : Task δ α} {k : α → Task δ β} (hx : KeepsFiles x)
    (hk : ∀ a, KeepsFiles (k a)) : KeepsFiles (x >>= k) := by
  intro desk
  have hfiles := hx desk
  rw [perform_bind]
  rcases hrun : perform x desk with ⟨stop | a, next⟩
  · rw [hrun] at hfiles
    exact hfiles
  · rw [hrun] at hfiles
    exact (hk a next).trans hfiles

theorem KeepsFiles.say (s : String) : KeepsFiles (δ := δ) (Task.say s) := by
  intro desk
  rw [perform_say]
  cases Console.Markup.shown desk.pictures s <;> rfl

theorem KeepsFiles.sayPaths (paths : List String) : KeepsFiles (δ := δ) (Task.sayPaths paths) := by
  induction paths with
  | nil => exact .pure ()
  | cons path paths ih => exact .bind (.say _) fun _ => ih

theorem perform_changeFiles (steps : List FileStep) (desk : Desk δ) :
    perform (changeFiles steps) desk
      = (match (desk.files.take steps).2 with
        | none => .ok ()
        | some e => .error (.raised (.file e)),
        { desk with files := (desk.files.take steps).1 }) := by
  have hrun : perform (changeFiles steps) desk = perform (match (desk.files.take steps).2 with
      | none => pure ()
      | some e => throw (.raised (.file e))) { desk with files := (desk.files.take steps).1 } := rfl
  rw [hrun]
  cases (desk.files.take steps).2 <;> rfl

/-- Steps that a command has gone through with have all been taken. -/
theorem take_of_perform_changeFiles {steps : List FileStep} {next : Desk δ}
    (h : perform (changeFiles steps) desk = (.ok (), next)) :
    desk.files.take steps = (next.files, none) := by
  rw [perform_changeFiles] at h
  rcases htake : desk.files.take steps with ⟨files, _ | e⟩
  · rw [htake] at h
    cases h
    rfl
  · rw [htake] at h
    cases h

/-- The directory in which a project is made. -/
def directoryFor (desk : Desk δ) (name : String) (directory : Option Path) : Path :=
  directory.getD (desk.files.homePath.join (.ofText name))

/-- A project that has been made has a name for a project, and its steps have been taken. -/
theorem take_of_makeProject {name : String} {directory : Option Path} {empty force : Bool}
    (h : (perform (makeProject name directory empty force) desk).1 = .ok ()) :
    Scaffold.isName name = true
      ∧ desk.files.take (Scaffold.steps (directoryFor desk name directory) name empty)
        = ((perform (makeProject name directory empty force) desk).2.files, none) := by
  rw [makeProject] at h ⊢
  have hname := not_of_perform_guard h
  rw [if_neg hname] at h ⊢
  refine ⟨by simpa using hname, ?_⟩
  rw [perform_get_bind] at h ⊢
  obtain ⟨taken, next, hraise, hrun⟩ := exists_perform_bind h
  rw [perform_orRaise] at hraise
  obtain ⟨-, rfl⟩ := Prod.mk.inj hraise
  rw [hrun] at h ⊢
  have hforce := not_of_perform_guard h
  rw [if_neg hforce] at h ⊢
  dsimp only at h ⊢
  obtain ⟨⟨⟩, made, hchange, hrun⟩ := exists_perform_bind h
  rw [hrun, directoryFor, take_of_perform_changeFiles hchange]
  -- what is told behind the steps changes no file
  have hsaid := KeepsFiles.say (δ := δ)
  exact congrArg (·, none) (Eq.symm <| (hsaid _).bind (fun _ =>
    (KeepsFiles.sayPaths _).bind fun _ => (hsaid _).bind fun _ => (hsaid _).bind fun _ =>
      (hsaid _).bind fun _ => (hsaid _).bind fun _ => hsaid _) made)

/-! ### When a project is made -/

/-- That a task ends with its result wherever it starts. -/
def Succeeds (x : Task δ Unit) : Prop :=
  ∀ desk, (perform x desk).1 = .ok ()

theorem Succeeds.bind {x y : Task δ Unit} (hx : Succeeds x) (hy : Succeeds y) :
    Succeeds (x >>= fun _ => y) := by
  intro desk
  have hresult := hx desk
  rw [perform_bind]
  rcases hrun : perform x desk with ⟨stop | ⟨⟩, next⟩
  · rw [hrun] at hresult
    cases hresult
  · exact hy next

theorem Succeeds.say {s : String} (h : (Console.Markup.plain s).isOk = true) :
    Succeeds (δ := δ) (Task.say s) := by
  intro desk
  cases hs : Console.Markup.plain s with
  | ok t =>
    obtain ⟨u, hrun⟩ := exists_perform_say hs desk
    rw [hrun]
  | error e =>
    rw [hs] at h
    cases h

theorem Succeeds.sayPaths (empty : Bool) :
    Succeeds (δ := δ) (Task.sayPaths (Scaffold.paths empty)) := by
  intro desk
  cases empty <;> rfl

/-- A project is made where its name is one, nothing is in the way, and its place can be told. -/
theorem makeProject_succeeds {name : String} {directory : Option Path} {place : Path}
    {empty force : Bool} {files : FileTree} (hname : Scaffold.isName name = true)
    (hplace : directoryFor desk name directory = place)
    (hfree : holdsSomething desk.files place = .ok false)
    (htake : desk.files.take (Scaffold.steps place name empty) = (files, none))
    (hmade : (Console.Markup.plain s!"[green]Project '{name}' created at {place.text}[/green]").isOk
      = true) (hgo : (Console.Markup.plain s!"  cd {place.text}").isOk = true) :
    (perform (makeProject name directory empty force) desk).1 = .ok () := by
  have hraise : ∀ k : Bool → Task δ Unit, perform (orRaise .file (.ok false) >>= k) desk
      = perform (k false) desk := fun k => rfl
  have hsteps := perform_changeFiles (Scaffold.steps place name empty) desk
  rw [htake] at hsteps
  rw [directoryFor] at hplace
  rw [makeProject, if_neg (by simp [hname]), perform_get_bind]
  dsimp only
  rw [hplace, hfree, hraise, Bool.false_and, if_neg Bool.false_ne_true, perform_bind, hsteps]
  have hsay : ∀ s, (Console.Markup.plain s).isOk = true → Succeeds (δ := δ) (say s) :=
    fun _ h => .say h
  exact (hsay _ hmade).bind ((Succeeds.sayPaths empty).bind <| (hsay "" rfl).bind <|
    (hsay "Quick start:" rfl).bind <| (hsay _ hgo).bind <|
    (hsay "  dagsql build      # load seeds, then run models" rfl).bind <|
    hsay "  dagsql dag        # show execution order" rfl) _

end SqlPipeline.Task
