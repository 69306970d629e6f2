/-
  SqlPipeline/Proofs/Command/Verdict.lean
  =======================================
  **When a run of models is reported as a success.**

  A run hands over a batch and, if it was broken off, why.  Neither is enough by itself: a run
  that is refused for its graph hands over a batch without outcomes, none of which has failed,
  and a run that goes on past failures is not broken off.  Behind each batch stand the visits
  that have been made (`Attempts`).  The two together say that every model has been visited and
  has succeeded (`Attempts.verdict`), and a project that is run is reported as a success exactly
  then (`runProject_verdict`).
-/
import SqlPipeline.Command.Models
import SqlPipeline.Proofs.Command.Carry
import SqlPipeline.Proofs.Console.Markup
import SqlPipeline.Proofs.Run.Selection

namespace SqlPipeline.Run.Engine

open Storage

variable {σ : Type} {e : Engine σ} {models : List Model} {s t : Session σ} {failFast : Bool}
  {visits : List Visit} {result : Except Interruption Batch}

/-! ### The visits behind a result -/

theorem Visits.exists_before {before later : List Visit} (h : e.Visits s (before ++ later) t) :
    ∃ u, e.Visits s before u := by
  induction before generalizing s with
  | nil => exact ⟨s, .done⟩
  | cons v before ih =>
    cases h with
    | visit hrun htail =>
      obtain ⟨u, hbefore⟩ := ih htail
      exact ⟨u, .visit hrun hbefore⟩

/-- The visits of a run that is not ended by what nothing handles, and its result: no visit if
    there is no order, and otherwise one after the other in the order, up to its end or, if the
    run is to stop there, to the first failure. -/
inductive Attempts (e : Engine σ) (models : List Model) (s : Session σ) :
    (failFast : Bool) → List Visit → Except Interruption Batch → Prop
  | refused {failFast : Bool} {fault : GraphError} : orderOf models = .error fault →
      Attempts e models s failFast [] (.error (.graph fault ({} : Batch).complete))
  | finished {failFast : Bool} {order : List String} {visits : List Visit} {t : Session σ} :
      orderOf models = .ok order → e.Visits (announced order s) visits t →
      VisitsOf models visits → visitedIds visits = order →
      Attempts e models s failFast visits (.ok (addAll {} visits).complete)
  | stopped {order : List String} {before : List Visit} {v : Visit} {t : Session σ} :
      orderOf models = .ok order → e.Visits (announced order s) (before ++ [v]) t →
      VisitsOf models (before ++ [v]) → visitedIds (before ++ [v]) <+: order →
      (∀ w ∈ before, w.outcome.status ≠ .failed) → v.outcome.status = .failed →
      Attempts e models s true (before ++ [v]) (.error (.stopped v.model.id v.outcome.error
        (addAll {} (before ++ [v])).complete))

theorem VisitsOf.before {before later : List Visit} (h : VisitsOf models (before ++ later)) :
    VisitsOf models before where
  nodup := by
    have hnodup := h.nodup
    rw [visitedIds, List.map_append] at hnodup
    exact (List.nodup_append.1 hnodup).1
  find? v hv := h.find? v (List.mem_append_left _ hv)

/-- A result that is not what nothing handles has visits behind it. -/
theorem exists_attempts (e : Engine σ) (models : List Model) (failFast : Bool) (s : Session σ) :
    (∃ escape, ((e.runModels models failFast).run s).1.2 = .error (.escaped escape))
      ∨ ∃ visits,
        Attempts e models s failFast visits ((e.runModels models failFast).run s).1.2 := by
  cases horder : orderOf models with
  | error fault =>
    rw [runModels_run_of_orderOf_error horder]
    exact Or.inr ⟨[], .refused horder⟩
  | ok order =>
    obtain ⟨hnodup, -, -⟩ := orderOf_ok horder
    obtain ⟨visits, rest, u, h⟩ :=
      e.exists_history hnodup (fun _ => exists_find?_of_mem_order horder) (announced order s)
    have hresult : ((e.runModels models failFast).run s).1.2
        = ((e.runInOrder failFast models {} order).run (announced order s)).1.2 := by
      rw [runModels_run horder rfl]
      rfl
    rw [hresult]
    by_cases hstops : failFast = true ∧ ∃ v ∈ visits, v.outcome.status = .failed
    · -- the run is stopped at the first of the failures
      obtain ⟨rfl, w, hw, hfailed⟩ := hstops
      obtain ⟨v, hv⟩ := Option.isSome_iff_exists.1
        (List.find?_isSome.2 ⟨w, hw, beq_iff_eq.2 hfailed⟩ :
          (visits.find? (·.outcome.status == .failed)).isSome)
      obtain ⟨hfirst, before, later, rfl, hearlier⟩ := List.find?_eq_some_iff_append.1 hv
      have hbefore : ∀ w ∈ before, w.outcome.status ≠ .failed := by simpa using hearlier
      obtain ⟨⟨t, hrun⟩, -⟩ := h.runInOrder_first_failure hbefore (beq_iff_eq.1 hfirst) {}
      have hpasses := h.passes
      have hvisitsOf := h.visitsOf
      have hsplit := h.split
      rw [List.append_cons] at hpasses hvisitsOf hsplit
      obtain ⟨t', hvisits⟩ := hpasses.exists_before
      rw [hrun]
      refine Or.inr ⟨before ++ [v], .stopped horder hvisits hvisitsOf.before ?_ hbefore
        (beq_iff_eq.1 hfirst)⟩
      exact ⟨visitedIds later ++ rest, by rw [hsplit]; simp [visitedIds]⟩
    · have hgo : ∀ v ∈ visits, v.outcome.status = .failed → failFast = false := fun v hv hfailed =>
        Bool.eq_false_iff.2 fun heq => hstops ⟨heq, v, hv, hfailed⟩
      rw [(h.runInOrder failFast hgo {}).1]
      rcases h.ending_leftBy hnodup with rfl | ⟨id, later, m, m', escape, w, rfl, hfind, hescape⟩
      · exact Or.inr ⟨visits, .finished horder h.passes h.visitsOf
          (by rw [h.split, List.append_nil])⟩
      · rw [runInOrder_escape hfind hescape]
        exact Or.inl ⟨escape, rfl⟩

/-- What a run hands over: a batch and, if it was broken off, why. -/
def handedOver : Except Interruption Batch → Except Escape (Batch × Option String)
  | .ok batch => .ok (batch, none)
  | .error (.graph fault batch) => .ok (batch, some (Interruption.graph fault batch).message)
  | .error (.stopped id error batch) =>
      .ok (batch, some (Interruption.stopped id error batch).message)
  | .error (.escaped escape) => .error escape

/-- That the visits are of all models, and each has ended in success. -/
structure AllSucceed (models : List Model) (visits : List Visit) : Prop where
  all : (visitedIds visits).Perm (models.map (·.id))
  success : ∀ v ∈ visits, v.outcome.status = .success

namespace Attempts

theorem outcomes_eq (h : Attempts e models s failFast visits result) {batch : Batch}
    {why : Option String} (hover : handedOver result = .ok (batch, why)) :
    batch.outcomes = visits.map (·.outcome) := by
  cases h with
  | refused =>
    obtain ⟨rfl, -⟩ := Prod.mk.inj (Except.ok.inj hover)
    rfl
  | finished =>
    obtain ⟨rfl, -⟩ := Prod.mk.inj (Except.ok.inj hover)
    rfl
  | stopped =>
    obtain ⟨rfl, -⟩ := Prod.mk.inj (Except.ok.inj hover)
    rfl

/-- What is visited are models of the list, each with an outcome of its own. -/
theorem of_mem (h : Attempts e models s failFast visits result) {v : Visit} (hv : v ∈ visits) :
    v.model ∈ models ∧ v.outcome.modelId = v.model.id := by
  cases h with
  | refused => cases hv
  | finished _ hvisits hof =>
    exact ⟨List.mem_of_find?_eq_some (hof.find? v hv), (hvisits.settles v hv).2.modelId⟩
  | stopped _ hvisits hof =>
    exact ⟨List.mem_of_find?_eq_some (hof.find? v hv), (hvisits.settles v hv).2.modelId⟩

/-- **A run has not been broken off, and no outcome in its batch is a failure, exactly when all
    models have been visited and have succeeded.** -/
theorem verdict (h : Attempts e models s failFast visits result) (hmodels : models ≠ [])
    {batch : Batch} {why : Option String} (hover : handedOver result = .ok (batch, why)) :
    (why.isNone && batch.failures == 0) = true ↔ AllSucceed models visits := by
  have houtcomes := h.outcomes_eq hover
  cases h with
  | refused =>
    obtain ⟨-, rfl⟩ := Prod.mk.inj (Except.ok.inj hover)
    refine iff_of_false (by simp) fun hall => hmodels ?_
    have hnil : models.map (·.id) = [] := List.nil_perm.1 hall.all
    exact List.map_eq_nil_iff.1 hnil
  | stopped _ _ _ _ _ hfailed =>
    obtain ⟨-, rfl⟩ := Prod.mk.inj (Except.ok.inj hover)
    refine iff_of_false (by simp) fun hall => ?_
    have hsuccess := hall.success _ (List.mem_append_right _ List.mem_cons_self)
    rw [hfailed] at hsuccess
    cases hsuccess
  | @finished _ order visits t horder hvisits hof hvisited =>
    obtain ⟨-, rfl⟩ := Prod.mk.inj (Except.ok.inj hover)
    have hsettled : ∀ v ∈ visits, v.outcome.status = .success ∨ v.outcome.status = .failed :=
      fun v hv => (hvisits.settles v hv).2.status
    rw [Option.isNone_none, Bool.true_and, beq_iff_eq, Batch.failures, Batch.count, houtcomes,
      List.countP_map, List.countP_eq_zero]
    constructor
    · intro hnone
      refine ⟨hvisited ▸ (orderOf_ok horder).2.1, fun v hv => ?_⟩
      exact (hsettled v hv).resolve_right fun hfailed => hnone v hv (beq_iff_eq.2 hfailed)
    · intro hall v hv hfailed
      have hsuccess := hall.success v hv
      rw [show v.outcome.status = .failed from beq_iff_eq.1 hfailed] at hsuccess
      cases hsuccess

end Attempts

end SqlPipeline.Run.Engine

namespace SqlPipeline.Task

open Storage Run.Engine
open Console (IsSteady)

variable {δ : Type} {d : Driver δ} {project : Project} {options : Command.RunOptions}
  {models : List Model} {context : Context} {failFast verbose b : Bool} {desk : Desk δ}
  {batch : Run.Batch} {why : Option String}

/-! ### Telling of a run -/

/-- The line that sums up a run. -/
def summary (successes attempted : Nat) : String :=
  s!"\nExecuted {successes}/{attempted} model(s) successfully in 0s"

theorem toList_summary (successes attempted : Nat) : (summary successes attempted).toList
    = "\nExecuted ".toList ++ (toString successes).toList ++ "/".toList
      ++ (toString attempted).toList ++ " model(s) successfully in 0s".toList := by
  simp only [summary, String.toList_append]
  rfl

/-- The line is printed as it is. -/
theorem perform_say_summary (successes attempted : Nat) (desk : Desk δ) :
    perform (say (summary successes attempted)) desk
      = (.ok (), { desk with printed := desk.printed ++ [summary successes attempted] }) := by
  -- neither marks nor names of pictures are made of words and digits
  have hnot : ∀ c, c.isDigit = false → c ∉ "\nExecuted / model(s) successfully in 0s".toList →
      c ∉ (summary successes attempted).toList := by
    intro c hdigit hwords
    have hnumber : ∀ n : Nat, c ∉ (toString n).toList := by
      intro n hmem
      rw [Console.Markup.isDigit_of_mem_toString hmem] at hdigit
      cases hdigit
    have hsplit : "\nExecuted / model(s) successfully in 0s".toList
        = "\nExecuted ".toList ++ "/".toList ++ " model(s) successfully in 0s".toList := rfl
    rw [hsplit] at hwords
    rw [toList_summary]
    simp only [List.mem_append, not_or] at hwords ⊢
    exact ⟨⟨⟨⟨hwords.1.1, hnumber _⟩, hwords.1.2⟩, hnumber _⟩, hwords.2⟩
  have hplain : Console.Markup.plain (summary successes attempted)
      = .ok (summary successes attempted) :=
    Console.Markup.plain_of_notMem (hnot '[' rfl (by decide))
  have hpictures : Console.Emoji.HasNoPicture desk.pictures (summary successes attempted).toList :=
    Console.Emoji.hasNoPicture_of_notMem (hnot ':' rfl (by decide))
  have hprinted : Console.printed (summary successes attempted) = summary successes attempted := by
    refine Console.printed_of_steady ?_
    have htext : IsSteady "\nExecuted ".toList ∧ IsSteady "/".toList
        ∧ IsSteady " model(s) successfully in 0s".toList := by
      simp only [Console.isSteady_iff_all]
      exact ⟨rfl, rfl, rfl⟩
    rw [toList_summary]
    exact (((htext.1.append (Console.isSteady_toString _)).append htext.2.1).append
      (Console.isSteady_toString _)).append htext.2.2
  rw [perform_say, Console.Markup.shown_of_plain hplain hpictures]
  dsimp only
  rw [hprinted]

/-- What is told of a run ends with the line that sums it up. -/
theorem perform_sayRun (h : (perform (sayRun verbose batch why) desk).1 = .ok b) :
    b = (why.isNone && batch.failures == 0)
      ∧ (perform (sayRun verbose batch why) desk).2.printed.getLast?
        = some (summary batch.successes batch.outcomes.length) := by
  have hlast : ∀ told : Desk δ,
      perform (do
        say (summary batch.successes batch.outcomes.length)
        return why.isNone && batch.failures == 0) told
      = (.ok (why.isNone && batch.failures == 0),
        { told with
          printed := told.printed ++ [summary batch.successes batch.outcomes.length] }) := by
    intro told
    rw [perform_bind, perform_say_summary]
    rfl
  obtain ⟨blamed, hblamed⟩ : ∃ blamed : Desk δ,
      perform (sayRun verbose batch why) desk = perform (do
        say (summary batch.successes batch.outcomes.length)
        return why.isNone && batch.failures == 0) blamed := by
    rw [sayRun] at h ⊢
    obtain ⟨-, told, -, hrun⟩ := exists_perform_bind h
    rw [hrun] at h ⊢
    cases why with
    | none => exact ⟨told, rfl⟩
    | some message =>
      obtain ⟨⟨⟩, blamed, -, hblamed⟩ := exists_perform_bind h
      exact ⟨blamed, hblamed⟩
  rw [hblamed, hlast] at h ⊢
  exact ⟨(Except.ok.inj h).symm, List.getLast?_concat⟩

/-! ### Running a project -/

/-- The connection on which the models of a project are run: it has been opened, and the schema of
    the project has been made. -/
def IsReady (d : Driver δ) (project : Project) (before after : Connection δ) : Prop :=
  ∃ opened, Connection.perform (Connection.connect d) (unopened project.databasePath before)
      = (.ok (), opened)
    ∧ Connection.perform (Connection.ensureSchemas d [project.schema]) opened = (.ok (), after)

/-- The result of a run of models on a connection. -/
def resultOn (d : Driver δ) (project : Project) (environment : Environment) (models : List Model)
    (context : Context) (failFast : Bool) (c : Connection δ) : Except Interruption Run.Batch :=
  (((engineFor d project environment).runModels models failFast).run ⟨c, context, []⟩).1.2

theorem perform_runModels (d : Driver δ) (project : Project) (models : List Model)
    (context : Context) (failFast : Bool) (desk : Desk δ) :
    (perform (runModels d project models context failFast) desk).1
      = (handedOver (resultOn d project desk.environment models context failFast
          desk.connection)).mapError fun escape => .raised (.store (.escaped escape)) := by
  rw [runModels, perform_get_bind, resultOn]
  dsimp only
  obtain ⟨⟨after, result⟩, session⟩ :=
    ((engineFor d project desk.environment).runModels models failFast).run
      ⟨desk.connection, context, []⟩
  cases result with
  | ok batch => rfl
  | error stop => cases stop <;> rfl

/-- What the block in which a project is run gives on an open connection. -/
def schemasThenModels (d : Driver δ) (project : Project) (models : List Model) (context : Context)
    (failFast : Bool) : Task δ (Run.Batch × Option String) := do
  withConnection .store (Connection.ensureSchemas d [project.schema])
  runModels d project models context failFast

theorem perform_schemasThenModels (d : Driver δ) (project : Project) (models : List Model)
    (context : Context) (failFast : Bool) (desk : Desk δ) :
    (perform (schemasThenModels d project models context failFast) desk).1
      = match Connection.perform (Connection.ensureSchemas d [project.schema]) desk.connection with
        | (.error fault, _) => .error (.raised (.store fault))
        | (.ok _, c) =>
            (handedOver (resultOn d project desk.environment models context failFast c)).mapError
              fun escape => .raised (.store (.escaped escape)) := by
  rw [schemasThenModels, perform_bind, perform_withConnection]
  rcases Connection.perform (Connection.ensureSchemas d [project.schema]) desk.connection
    with ⟨_ | _, c⟩
  · rfl
  · exact perform_runModels d project models context failFast { desk with connection := c }

/-- What a run on an open connection has handed over, it has handed over on a connection that was
    ready. -/
theorem exists_isReady_of_whileOpen
    (h : (perform (whileOpen d project.databasePath
      (schemasThenModels d project models context failFast)) desk).1 = .ok (batch, why)) :
    ∃ c, IsReady d project desk.connection c
      ∧ handedOver (resultOn d project desk.environment models context failFast c)
        = .ok (batch, why) := by
  obtain ⟨opened, -, hconnect, hbody, -⟩ := exists_of_whileOpen h
  rw [perform_schemasThenModels] at hbody
  rcases hschemas : Connection.perform (Connection.ensureSchemas d [project.schema]) opened
    with ⟨_ | ⟨⟩, c⟩
  · rw [hschemas] at hbody
    cases hbody
  · rw [hschemas] at hbody
    exact ⟨c, ⟨opened, hconnect, hschemas⟩, mapError_eq_ok_iff.1 hbody⟩

/-- Closing a connection is not refused by the store: what is wrong with it escapes. -/
theorem perform_close_ne (d : Driver δ) (c c' : Connection δ) (message : String) :
    Connection.perform (Connection.close d) c ≠ (.error (.storage message), c') := by
  intro h
  cases hopen : c.isOpen with
  | false =>
    rw [Connection.perform_close_of_closed hopen] at h
    cases h
  | true =>
    rw [Connection.perform_close_of_open hopen, Connection.closing, Connection.perform_bind,
      Connection.perform_callDriver] at h
    rcases hclose : d.close.run.run c.driver with ⟨refusal | ⟨⟩, driver⟩
    · rw [hclose] at h
      cases refusal <;> cases h
    · rw [hclose] at h
      cases h

/-- What the store refuses in the block, it has refused before the connection was ready. -/
theorem not_isReady_of_whileOpen {message : String}
    (h : (perform (whileOpen d project.databasePath
      (schemasThenModels d project models context failFast)) desk).1
        = .error (.raised (.store (.storage message)))) (c : Connection δ) :
    ¬ IsReady d project desk.connection c := by
  rintro ⟨opened, hconnect, hschemas⟩
  rw [perform_whileOpen, hconnect] at h
  dsimp only at h
  have hbody := perform_schemasThenModels d project models context failFast
    { desk with connection := opened }
  rw [hschemas] at hbody
  rcases hnext : perform (schemasThenModels d project models context failFast)
    { desk with connection := opened } with ⟨result, next⟩
  rw [hnext] at h hbody
  dsimp only at h hbody
  rcases hclose : Connection.perform (Connection.close d) next.connection with ⟨fault | ⟨⟩, closed⟩
  · rw [hclose] at h
    cases h
    exact perform_close_ne d _ _ _ hclose
  · rw [hclose] at h
    dsimp only at h
    rw [h] at hbody
    rcases hresult : handedOver (resultOn d project desk.environment models context failFast c)
      with _ | _
    · rw [hresult] at hbody
      cases hbody
    · rw [hresult] at hbody
      cases hbody

/-- Either the block has a result, or the store has refused something and there is none. -/
theorem unlessRefused_cases {α : Type} {x : Task δ α} {r : Option α}
    (h : (perform (unlessRefused none (some <$> x)) desk).1 = .ok r) :
    (∃ a, r = some a ∧ (perform x desk).1 = .ok a)
      ∨ r = none
        ∧ ∃ message, (perform x desk).1 = .error (.raised (.store (.storage message))) := by
  rw [perform_unlessRefused, perform_map] at h
  rcases hx : perform x desk with ⟨stop | a, next⟩
  · rw [hx] at h
    cases stop with
    | exit code => cases h
    | usage notice => cases h
    | raised problem =>
      cases problem with
      | store fault =>
        cases fault with
        | escaped escape => cases h
        | storage message =>
          replace h : (perform (do sayErrorAsIs message; return none) next).1 = .ok r := h
          obtain ⟨⟨⟩, told, -, hrun⟩ := exists_perform_bind h
          rw [hrun] at h
          exact Or.inr ⟨(Except.ok.inj h).symm, message, rfl⟩
      | _ => cases h
  · rw [hx] at h
    exact Or.inl ⟨a, (Except.ok.inj h).symm, rfl⟩

theorem of_perform_say {s : String} {next : Desk δ} (h : perform (say s) desk = (.ok (), next)) :
    next.connection = desk.connection ∧ next.environment = desk.environment := by
  rw [perform_say] at h
  cases hs : Console.Markup.shown desk.pictures s with
  | ok t =>
    rw [hs] at h
    cases h
    exact ⟨rfl, rfl⟩
  | error e =>
    rw [hs] at h
    cases h

theorem perform_compileProject (project : Project) (select : Option String) (fullRefresh : Bool)
    (desk : Desk δ) :
    perform (compileProject project select fullRefresh) desk
      = perform (blamingModels (compiled desk.files desk.environment project select fullRefresh
          (Model.discover desk.files project.modelDirectories).1))
        { desk with
          log := desk.log ++ (Model.discover desk.files project.modelDirectories).2 } := by
  rw [compileProject, perform_get_bind]
  rfl

/-- What has been compiled for a command has been compiled from the files and the variables. -/
theorem of_compileProject {select : Option String} {fullRefresh : Bool} {next : Desk δ}
    (h : perform (compileProject project select fullRefresh) desk = (.ok (models, context), next)) :
    compiled desk.files desk.environment project select fullRefresh
        (Model.discover desk.files project.modelDirectories).1 = .ok (models, context)
      ∧ next.connection = desk.connection ∧ next.environment = desk.environment := by
  rw [perform_compileProject] at h
  cases hcompiled : compiled desk.files desk.environment project select fullRefresh
      (Model.discover desk.files project.modelDirectories).1 with
  | ok pair =>
    rw [hcompiled] at h
    cases h
    exact ⟨rfl, rfl, rfl⟩
  | error problem =>
    rw [hcompiled, blamingModels] at h
    split at h
    · obtain ⟨stop, hstop, -⟩ := perform_giveUp (α := List Model × Context) problem.message
        { desk with log := desk.log ++ (Model.discover desk.files project.modelDirectories).2 }
      rw [h] at hstop
      cases hstop
    · cases h

/-- How a run of a project ends that gives a result. -/
theorem runProject_cases (h : (perform (runProject d project options) desk).1 = .ok b) :
    ∃ models context,
      compiled desk.files desk.environment project options.select options.fullRefresh
          (Model.discover desk.files project.modelDirectories).1 = .ok (models, context)
      ∧ (models = [] ∧ b = true
        ∨ models ≠ [] ∧ b = false ∧ (∀ c, ¬ IsReady d project desk.connection c)
        ∨ models ≠ [] ∧ ∃ c batch why, IsReady d project desk.connection c
          ∧ handedOver (resultOn d project desk.environment models context options.failFast c)
            = .ok (batch, why)
          ∧ b = (why.isNone && batch.failures == 0)
          ∧ (perform (runProject d project options) desk).2.printed.getLast?
            = some (summary batch.successes batch.outcomes.length)) := by
  rw [runProject] at h ⊢
  obtain ⟨⟨models, context⟩, next, hcompile, hrun⟩ := exists_perform_bind h
  obtain ⟨hcompiled, hconnection, henvironment⟩ := of_compileProject hcompile
  refine ⟨models, context, hcompiled, ?_⟩
  rw [hrun] at h ⊢
  dsimp only at h ⊢
  by_cases hmodels : models = []
  · rw [hmodels, List.isEmpty_nil, if_pos rfl] at h
    obtain ⟨⟨⟩, told, -, hrun⟩ := exists_perform_bind h
    rw [hrun] at h
    exact Or.inl ⟨hmodels, (Except.ok.inj h).symm⟩
  · rw [if_neg (by simpa using hmodels)] at h ⊢
    obtain ⟨⟨⟩, headed, hsay, hrun⟩ := exists_perform_bind h
    obtain ⟨hconnection', henvironment'⟩ := of_perform_say hsay
    rw [hrun] at h ⊢
    obtain ⟨r, done, hblock, hrun⟩ := exists_perform_bind h
    rw [hrun] at h ⊢
    rw [← hconnection, ← henvironment, ← hconnection', ← henvironment']
    rcases unlessRefused_cases (x := whileOpen d project.databasePath
        (schemasThenModels d project models context options.failFast))
      (congrArg Prod.fst hblock) with ⟨⟨batch, why⟩, rfl, hhanded⟩ | ⟨rfl, message, hrefused⟩
    · obtain ⟨c, hready, hhanded⟩ := exists_isReady_of_whileOpen hhanded
      obtain ⟨rfl, hlast⟩ := perform_sayRun h
      exact Or.inr (Or.inr ⟨hmodels, c, batch, why, hready, hhanded, rfl, hlast⟩)
    · exact Or.inr (Or.inl ⟨hmodels, (Except.ok.inj h).symm, not_isReady_of_whileOpen hrefused⟩)

theorem IsReady.unique {before c c' : Connection δ} (h : IsReady d project before c)
    (h' : IsReady d project before c') : c' = c := by
  obtain ⟨opened, hconnect, hschemas⟩ := h
  obtain ⟨opened', hconnect', hschemas'⟩ := h'
  obtain rfl := congrArg Prod.snd (hconnect.symm.trans hconnect')
  exact congrArg Prod.snd (hschemas'.symm.trans hschemas)

/-- **A project that is run is reported as a success exactly when there is nothing to run, or its
    database has been opened, its schema made, every model visited and each a success.**  When the
    run is summed up, it is with the numbers of successes and of visits. -/
theorem runProject_verdict (h : (perform (runProject d project options) desk).1 = .ok b) :
    ∃ models context,
      compiled desk.files desk.environment project options.select options.fullRefresh
          (Model.discover desk.files project.modelDirectories).1 = .ok (models, context)
      ∧ (b = true ↔ models = [] ∨ ∃ c, IsReady d project desk.connection c
        ∧ ∃ visits, Attempts (engineFor d project desk.environment) models ⟨c, context, []⟩
            options.failFast visits
            (resultOn d project desk.environment models context options.failFast c)
          ∧ AllSucceed models visits)
      ∧ ∀ c, models ≠ [] → IsReady d project desk.connection c →
        ∃ visits, Attempts (engineFor d project desk.environment) models ⟨c, context, []⟩
            options.failFast visits
            (resultOn d project desk.environment models context options.failFast c)
          ∧ (perform (runProject d project options) desk).2.printed.getLast?
            = some (summary (visits.countP (·.outcome.status == .success)) visits.length) := by
  obtain ⟨models, context, hcompiled, hcases⟩ := runProject_cases h
  refine ⟨models, context, hcompiled, ?_⟩
  rcases hcases with ⟨rfl, rfl⟩ | ⟨hmodels, rfl, hnot⟩
    | ⟨hmodels, c, batch, why, hready, hover, rfl, hlast⟩
  · exact ⟨iff_of_true rfl (Or.inl rfl), fun c hne => absurd rfl hne⟩
  · refine ⟨iff_of_false Bool.false_ne_true ?_, fun c _ hready => absurd hready (hnot c)⟩
    rintro (hnil | ⟨c, hready, -⟩)
    · exact hmodels hnil
    · exact hnot c hready
  · obtain ⟨visits, hattempts⟩ : ∃ visits, Attempts (engineFor d project desk.environment) models
        ⟨c, context, []⟩ options.failFast visits
        (resultOn d project desk.environment models context options.failFast c) := by
      refine (exists_attempts _ _ _ _).resolve_left ?_
      rintro ⟨escape, hescape⟩
      rw [resultOn, hescape] at hover
      cases hover
    constructor
    · rw [hattempts.verdict hmodels hover]
      constructor
      · exact fun hall => Or.inr ⟨c, hready, visits, hattempts, hall⟩
      · rintro (hnil | ⟨c', hready', visits', hattempts', hall'⟩)
        · exact absurd hnil hmodels
        · obtain rfl := hready.unique hready'
          exact (hattempts.verdict hmodels hover).1 ((hattempts'.verdict hmodels hover).2 hall')
    · intro c' _ hready'
      obtain rfl := hready.unique hready'
      refine ⟨visits, hattempts, hlast.trans (congrArg some ?_)⟩
      rw [Run.Batch.successes, Run.Batch.count, hattempts.outcomes_eq hover, List.countP_map,
        List.length_map]
      rfl

/-! ### Models in a circle -/

/-- A project of two models, one of which reads itself and the other the one. -/
def circular : Project where
  modelPaths := ["m"]
  seedPaths := []
  directory := ⟨"/", []⟩

/-- A driver that accepts all it is asked. -/
def accepting : Driver Nat where
  connect _ _ := pure ()
  execute _ _ := do
    modify (· + 1)
    return ⟨none, []⟩
  start := pure ()
  commit := pure ()
  rollback := pure ()
  close := pure ()

/-- A desk with their files. -/
def deskWithCircle : Desk Nat where
  files := selfReading
  connection := { driver := 0 }

/-- The connection to the database of the project. -/
def openToCircle : Connection Nat :=
  ⟨circular.databasePath, false, true, 1⟩

/-- What a run of them hands over. -/
def refusedCircle : Run.Batch × Option String :=
  (({} : Run.Batch).complete, some (Interruption.graph (.unsortable 0 2 ["a", "a"])
    ({} : Run.Batch).complete).message)

theorem compiled_circular : compiled selfReading [] circular none false
    (Model.discover selfReading circular.modelDirectories).1 = .ok (asCompiled, {}) := by
  have hdirectories : circular.modelDirectories = [⟨"/", ["m"]⟩] := rfl
  have hseeds : Seed.discover selfReading circular.schemaOfSeeds circular.seedDirectories
      = .ok [] := rfl
  have hcontext : circular.context (Seed.tableNames []) = {} := rfl
  rw [hdirectories, discover_selfReading, compiled, hseeds]
  dsimp only [Except.mapError, bind, Except.bind]
  rw [hcontext, compileAll_selfReading]
  rfl

theorem perform_compileProject_circular : ∃ log,
    perform (compileProject circular none false) deskWithCircle
      = (.ok (asCompiled, {}), { deskWithCircle with log := log }) := by
  rw [perform_compileProject]
  dsimp only [deskWithCircle]
  rw [compiled_circular]
  exact ⟨_, rfl⟩

theorem orderOf_asCompiled : orderOf asCompiled = .error (.unsortable 0 2 ["a", "a"]) := by
  cbv

theorem isReady_circular : IsReady accepting circular deskWithCircle.connection openToCircle :=
  ⟨openToCircle, rfl, rfl⟩

theorem runModels_circular (desk : Desk Nat) (h : desk.connection = openToCircle) :
    Ends (runModels accepting circular asCompiled {} false) desk
      (.ok refusedCircle) openToCircle := by
  refine Ends.congr (perform_get_bind _ desk) ?_
  dsimp only
  rw [runModels_run_of_orderOf_error orderOf_asCompiled]
  exact ⟨rfl, h, rfl⟩

theorem block_circular (desk : Desk Nat) (h : desk.connection = deskWithCircle.connection) :
    Ends (whileOpen accepting circular.databasePath
      (schemasThenModels accepting circular asCompiled {} false)) desk
      (.ok refusedCircle) { openToCircle with isOpen := false } := by
  have hconnect : Connection.perform (Connection.connect accepting)
      (unopened circular.databasePath desk.connection) = (.ok (), openToCircle) := h ▸ rfl
  have hclose : Connection.perform (Connection.close accepting) openToCircle
      = (.ok (), { openToCircle with isOpen := false }) := rfl
  refine Ends.whileOpen hconnect ?_ hclose
  have hschemas : Ends (withConnection .store
      (Connection.ensureSchemas accepting [circular.schema]))
      { desk with connection := openToCircle } (.ok ()) openToCircle := ⟨rfl, rfl, rfl⟩
  exact hschemas.bind fun next hnext _ => runModels_circular next hnext

theorem perform_runProject_circular :
    (perform (runProject accepting circular {}) deskWithCircle).1 = .ok false := by
  obtain ⟨log, hcompile⟩ := perform_compileProject_circular
  have hcompiles : Ends (compileProject circular none false) deskWithCircle (.ok (asCompiled, {}))
      deskWithCircle.connection := ⟨hcompile ▸ rfl, hcompile ▸ rfl, hcompile ▸ rfl⟩
  have hrun : Ends (runProject accepting circular {}) deskWithCircle (.ok false)
      { openToCircle with isOpen := false } := by
    refine hcompiles.bind fun next hnext _ => ?_
    refine Ends.bind (Ends.say (t := "Running 2 model(s) (incremental):") ?_)
      fun headed hheaded _ => ?_
    · rfl
    have hsome : Ends (some <$> whileOpen accepting circular.databasePath
        (schemasThenModels accepting circular asCompiled {} false)) headed
        (.ok (some refusedCircle)) { openToCircle with isOpen := false } := by
      rw [map_eq_pure_bind]
      refine (block_circular headed (hheaded.trans hnext)).bind fun last hlast _ => ?_
      exact hlast ▸ Ends.pure _
    refine (hsome.unlessRefused none).bind fun last hlast _ => hlast ▸ ?_
    refine (Ends.pure ()).bind_alone fun _ => (Ends.sayErrorAsIs _ _).bind_alone fun told => ?_
    refine Ends.bind_alone (a := ()) ?_ fun _ => Ends.pure false
    have hsummary := perform_say_summary 0 0 told
    exact ⟨hsummary ▸ rfl, hsummary ▸ rfl, hsummary ▸ rfl⟩
  exact hrun.result

/-- The run is refused for its graph: nothing has been visited, so nothing has failed, and yet it is
    no success. -/
theorem runProject_verdict_circle :
    (perform (runProject accepting circular {}) deskWithCircle).1 = .ok false
    ∧ (∃ c, IsReady accepting circular deskWithCircle.connection c)
    ∧ (perform (runProject accepting circular {}) deskWithCircle).2.printed.getLast?
      = some (summary 0 0) := by
  have hready := isReady_circular
  obtain ⟨models, context, hcompiled, -, hlast⟩ := runProject_verdict perform_runProject_circular
  obtain ⟨rfl, rfl⟩ := Prod.mk.inj (Except.ok.inj (compiled_circular.symm.trans hcompiled))
  obtain ⟨visits, hattempts, hsummary⟩ := hlast openToCircle (by decide) hready
  refine ⟨perform_runProject_circular, ⟨_, hready⟩, ?_⟩
  generalize resultOn accepting circular deskWithCircle.environment asCompiled {} _ openToCircle
    = result at hattempts
  cases hattempts with
  | refused => exact hsummary
  | finished horder => cases orderOf_asCompiled.symm.trans horder

end SqlPipeline.Task
