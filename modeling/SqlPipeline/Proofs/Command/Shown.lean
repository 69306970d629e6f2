/-
  SqlPipeline/Proofs/Command/Shown.lean
  =====================================
  **What is shown of the errors that commands tell of.**

  A message goes into a line in which marks have a meaning.  Some commands escape it before, and
  some do not; `Reports` lists the parts of commands that tell of an error, with the place where
  each puts the message and what it goes on to.  Behind escaping a command goes on whatever the
  message is.  At every place a message that suits it is shown as it is (`errors_shown`).  What is
  not escaped suits its place only without marks: another mark is not shown, and one that closes
  what is not open ends the command otherwise (`mark_lost`).

  What has been printed stays (`Adds`), so that a line that a part of a task prints is a line that
  the task prints (`Prints`).
-/
import SqlPipeline.Command.Perform
import SqlPipeline.Proofs.Command.Gate
import SqlPipeline.Proofs.Command.Verdict

namespace SqlPipeline.Task

open Storage Run.Engine
open Console (IsSteady)
open Console.Emoji (HasNoPicture)
open Console.Markup (Bare Legible Shows KeepsBackslashes HasNoMark trailing inStyle isStyle_red
  isStyle_green isStyle_bold isStyle_dim)

variable {δ α β : Type} {desk next : Desk δ} {text message : String}

/-! ### What is printed stays -/

/-- That a task adds to what is printed, and changes neither what there is nor the pictures of the
    console. -/
def Adds (x : Task δ α) : Prop :=
  ∀ desk, desk.printed <+: (perform x desk).2.printed
    ∧ (perform x desk).2.pictures = desk.pictures

namespace Adds

variable {x : Task δ α} {k : α → Task δ β}

theorem of_eq (h : ∀ desk, (perform x desk).2.printed = desk.printed
    ∧ (perform x desk).2.pictures = desk.pictures) : Adds x :=
  fun desk => ⟨(h desk).1.symm ▸ List.prefix_rfl, (h desk).2⟩

theorem pure (a : α) : Adds (Pure.pure a : Task δ α) := of_eq fun _ => ⟨rfl, rfl⟩

theorem throw (stop : Stop) : Adds (MonadExcept.throw stop : Task δ α) := of_eq fun _ => ⟨rfl, rfl⟩

theorem bind (hx : Adds x) (hk : ∀ a, Adds (k a)) : Adds (x >>= k) := by
  intro desk
  have hfirst := hx desk
  rw [perform_bind]
  rcases hrun : perform x desk with ⟨stop | a, next⟩
  · rw [hrun] at hfirst
    exact hfirst
  · rw [hrun] at hfirst
    obtain ⟨hprinted, hpictures⟩ := hk a next
    exact ⟨hfirst.1.trans hprinted, hpictures.trans hfirst.2⟩

theorem say (s : String) : Adds (Task.say s : Task δ Unit) := by
  intro desk
  rw [perform_say]
  split
  · exact ⟨List.prefix_append _ _, rfl⟩
  · exact ⟨List.prefix_rfl, rfl⟩

theorem note (entries : List Log.Entry) : Adds (Task.note entries : Task δ Unit) :=
  of_eq fun _ => ⟨rfl, rfl⟩

theorem orRaise {ε : Type} (problem : ε → Problem) (result : Except ε α) :
    Adds (Task.orRaise problem result : Task δ α) := by
  cases result with
  | ok a => exact pure a
  | error e => exact throw _

theorem withConnection {ε : Type} (problem : ε → Problem)
    (op : ExceptT ε (StateM (Connection δ)) α) : Adds (Task.withConnection problem op) := by
  intro desk
  have hrun : perform (Task.withConnection problem op) desk
      = perform (Task.orRaise problem (op.run.run desk.connection).1)
          { desk with connection := (op.run.run desk.connection).2 } := rfl
  rw [hrun]
  exact orRaise problem _ { desk with connection := (op.run.run desk.connection).2 }

theorem whileOpen (hx : Adds x) (d : Driver δ) (path : String) :
    Adds (Task.whileOpen d path x) := by
  intro desk
  rw [perform_whileOpen]
  split
  · exact ⟨List.prefix_rfl, rfl⟩
  · rename_i c _
    have hbody := hx { desk with connection := c }
    dsimp only
    split
    · exact hbody
    · exact hbody

end Adds

theorem adds_tell (s : Seed) (r : Except SeedFault Data) : Adds (tell s r : Task δ Bool) := by
  have hfailed : ∀ message, Adds (do saySeedFailed s message; return false : Task δ Bool) :=
    fun message => ((Adds.say _).bind fun _ => Adds.note _).bind fun _ => Adds.pure false
  match r with
  | .ok count =>
    exact (Adds.orRaise _ _).bind fun _ => (Adds.note _).bind fun _ =>
      (Adds.say _).bind fun _ => Adds.pure true
  | .error (.store (.storage message)) => exact hfailed message
  | .error (.store (.escaped e)) => exact Adds.throw _
  | .error (.file e) =>
    rw [tell]
    split
    · exact hfailed e.message
    · exact Adds.throw _

theorem adds_loadEach (d : Driver δ) (known : Entries Bool) (seeds : List Seed) :
    Adds (loadEach d known seeds) := by
  induction seeds generalizing known with
  | nil => exact Adds.pure known
  | cons s rest ih =>
    refine Adds.bind (fun desk => ?_) fun done => ih _
    have hloaded := adds_tell s ((s.load d desk.files).run.run desk.connection).1
      { desk with connection := ((s.load d desk.files).run.run desk.connection).2 }
    rw [perform_loadSeed]
    exact hloaded

theorem adds_loadAll (d : Driver δ) (seeds : List Seed) : Adds (loadAll d seeds) := by
  cases seeds with
  | nil => exact (Adds.say _).bind fun _ => Adds.pure []
  | cons s rest => exact adds_loadEach d [] (s :: rest)

theorem adds_saySeedCounts (loaded : Entries Bool) : Adds (saySeedCounts loaded : Task δ Bool) := by
  rw [saySeedCounts]
  split
  · exact Adds.pure true
  · exact (Adds.say _).bind fun _ => Adds.pure _

theorem adds_schemasThenModels (d : Driver δ) (project : Project) (models : List Model)
    (context : Context) (failFast : Bool) :
    Adds (schemasThenModels d project models context failFast) := by
  refine (Adds.withConnection _ _).bind fun _ => Adds.of_eq fun desk => ?_
  rw [runModels, perform_get_bind]
  dsimp only
  obtain ⟨⟨after, result⟩, session⟩ :=
    ((engineFor d project desk.environment).runModels models failFast).run
      ⟨desk.connection, context, []⟩
  cases result with
  | ok batch => exact ⟨rfl, rfl⟩
  | error stop => cases stop <;> exact ⟨rfl, rfl⟩

/-! ### Messages in lines -/

/-- That a task prints a line in which a text stands as it is. -/
def Prints (x : Task δ α) (desk : Desk δ) (text : String) : Prop :=
  ∃ lines, (perform x desk).2.printed = desk.printed ++ lines
    ∧ ∃ line ∈ lines, text.toList <:+: line.toList

theorem Prints.bind {x : Task δ α} {k : α → Task δ β} (h : Prints x desk text)
    (hk : ∀ a, Adds (k a)) : Prints (x >>= k) desk text := by
  obtain ⟨lines, hprinted, line, hline, htext⟩ := h
  rw [Prints, perform_bind]
  rcases hrun : perform x desk with ⟨stop | a, next⟩
  · rw [hrun] at hprinted
    exact ⟨lines, hprinted, line, hline, htext⟩
  · rw [hrun] at hprinted
    obtain ⟨more, hmore⟩ := (hk a next).1
    refine ⟨lines ++ more, ?_, line, List.mem_append_left _ hline, htext⟩
    rw [← List.append_assoc, ← hprinted]
    exact hmore.symm

/-- What is printed from a later desk on is printed. -/
theorem Prints.of_later {x : Task δ α} {y : Task δ β} (hx : Prints x next text)
    (hrun : (perform y desk).2 = (perform x next).2) (hlater : desk.printed <+: next.printed) :
    Prints y desk text := by
  obtain ⟨lines, hprinted, line, hline, htext⟩ := hx
  obtain ⟨before, hbefore⟩ := hlater
  refine ⟨before ++ lines, ?_, line, List.mem_append_right _ hline, htext⟩
  rw [← List.append_assoc, hbefore, hrun]
  exact hprinted

theorem Prints.after {x : Task δ α} {k : α → Task δ β} {a : α} (hx : Adds x)
    (hrun : perform x desk = (.ok a, next))
    (h : next.pictures = desk.pictures → Prints (k a) next text) :
    Prints (x >>= k) desk text := by
  have hfirst := hx desk
  rw [hrun] at hfirst
  refine (h hfirst.2).of_later ?_ hfirst.1
  rw [perform_bind, hrun]

/-- Where a message is put: whether its marks are escaped, and whether a mark behind it closes the
    style that it is in. -/
structure Spot where
  isEscaped : Bool
  isEnclosed : Bool

/-- A message as it is put there. -/
def Spot.spelled (spot : Spot) (message : String) : String :=
  if spot.isEscaped then Console.Markup.escape message else message

/-- That a message is shown there as it is: no character of it moves the cursor, it names no picture
    of the console, no backslash in it is lost, no mark in it is taken for one, and the end of it
    does not become part of the mark behind it. -/
structure Spot.Suits (spot : Spot) (pictures : Console.Emoji.Table) (message : String) : Prop where
  steady : IsSteady message.toList
  unnamed : HasNoPicture pictures message.toList
  backslashes : KeepsBackslashes message.toList
  marks : spot.isEscaped = false → HasNoMark message.toList
  ending : spot.isEnclosed = true → trailing message.toList ≤ if spot.isEscaped then 1 else 0

namespace Spot.Suits

variable {spot : Spot} {pictures : Console.Emoji.Table}

theorem shows_enclosed (h : spot.Suits pictures message) (henclosed : spot.isEnclosed = true) :
    Shows [] (inStyle "red".toList (spot.spelled message).toList) message.toList := by
  have hend := h.ending henclosed
  unfold Spot.spelled
  cases hescaped : spot.isEscaped with
  | true =>
    rw [hescaped] at hend
    exact Console.Markup.shows_inStyle_escape isStyle_red h.backslashes hend
  | false =>
    rw [hescaped] at hend
    exact Console.Markup.shows_inStyle isStyle_red (h.marks hescaped) h.backslashes
      (Nat.le_zero.1 hend)

theorem plain_enclosed (h : spot.Suits pictures message) (henclosed : spot.isEnclosed = true) :
    Console.Markup.plain ("[red]" ++ spot.spelled message ++ "[/red]") = .ok message := by
  have hshows := h.shows_enclosed henclosed
  rw [← toList_enclosed] at hshows
  rw [Console.Markup.plain_of_shows hshows, String.ofList_toList]

/-- At the end of a line backslashes may be added to it. -/
theorem exists_shows (h : spot.Suits pictures message) :
    ∃ b, Shows [] (spot.spelled message).toList (message.toList ++ List.replicate b '\\') := by
  unfold Spot.spelled
  cases hescaped : spot.isEscaped with
  | true => exact ⟨_, Console.Markup.shows_escape h.backslashes []⟩
  | false =>
    refine ⟨0, ?_⟩
    rw [List.replicate_zero, List.append_nil]
    exact Console.Markup.shows_unmarked (h.marks hescaped) h.backslashes []

end Spot.Suits

theorem prints_say {line shown : String} (h : Console.Markup.plain line = .ok shown)
    (hsteady : IsSteady shown.toList) (hunnamed : HasNoPicture desk.pictures shown.toList)
    (htext : text.toList <:+: shown.toList) : Prints (say line) desk text := by
  have hprinted := Console.printed_of_steady hsteady
  rw [Prints, perform_say, Console.Markup.shown_of_plain h hunnamed]
  dsimp only
  rw [hprinted]
  exact ⟨[shown], rfl, shown, List.mem_singleton_self shown, htext⟩

/-- A name is printed as it is. -/
theorem isSteady_of_isValid {s : String} (h : Identifier.isValid s = true) :
    IsSteady s.toList := by
  intro c hc
  rcases Identifier.mem_of_isValid h c hc with hpart | rfl
  · have hrange := Identifier.toNat_of_isPart hpart
    refine ⟨?_, ?_⟩
    · simp only [Console.isControl, Bool.or_eq_false_iff, Bool.and_eq_false_iff,
        beq_eq_false_iff_ne, decide_eq_false_iff_not]
      omega
    · rintro rfl
      exact absurd hpart (by decide)
  · exact ⟨rfl, by decide⟩

theorem isSteady_fullName {s : Seed} (hname : Identifier.isValid s.name = true)
    (hschema : s.schema = "" ∨ Identifier.isValid s.schema = true) :
    IsSteady s.fullName.toList := by
  rw [Seed.fullName, qualify]
  split
  · exact isSteady_of_isValid hname
  · rename_i hempty
    have hschema := isSteady_of_isValid (hschema.resolve_left (by simpa using hempty))
    have hdot : IsSteady ".".toList := Console.isSteady_iff_all.2 rfl
    rw [String.toList_append, String.toList_append]
    exact (hschema.append hdot).append (isSteady_of_isValid hname)

theorem colon_notMem_of_isValid {s : String} (h : Identifier.isValid s = true) : ':' ∉ s.toList := by
  intro hc
  rcases Identifier.mem_of_isValid h ':' hc with hpart | hnewline
  · exact absurd hpart (by decide)
  · exact absurd hnewline (by decide)

theorem colon_notMem_fullName {s : Seed} (hname : Identifier.isValid s.name = true)
    (hschema : s.schema = "" ∨ Identifier.isValid s.schema = true) :
    ':' ∉ s.fullName.toList := by
  rw [Seed.fullName, qualify]
  split
  · exact colon_notMem_of_isValid hname
  · rename_i hempty
    have hschema := colon_notMem_of_isValid (hschema.resolve_left (by simpa using hempty))
    simp [hschema, colon_notMem_of_isValid hname]

/-- What is shown of the line that tells that something with a name has failed. -/
theorem exists_plain_failed {spot : Spot} {pictures : Console.Emoji.Table} {name : String}
    (hname : Bare name.toList) (hsteady : IsSteady name.toList) (hcolon : ':' ∉ name.toList)
    (h : spot.Suits pictures message) :
    ∃ shown, Console.Markup.plain (namedLine "red" "fail" name (": " ++ spot.spelled message))
        = .ok shown ∧ IsSteady shown.toList ∧ HasNoPicture pictures shown.toList
      ∧ message.toList <:+: shown.toList := by
  obtain ⟨b, hshows⟩ := h.exists_shows
  have hspace : Bare "  ".toList := ⟨by decide, by decide⟩
  have hfail : Bare "fail".toList := ⟨by decide, by decide⟩
  have hbehind : Bare ": ".toList := ⟨by decide, by decide⟩
  have hline : Shows [] (namedLine "red" "fail" name (": " ++ spot.spelled message)).toList
      ("  ".toList ++ ("fail".toList ++ ("  ".toList ++ (name.toList ++ (": ".toList
        ++ (message.toList ++ List.replicate b '\\')))))) := by
    rw [toList_namedLine, String.toList_append]
    refine Shows.bare (Shows.styled (Shows.bare ?_ hspace) isStyle_red hfail) hspace
    exact Shows.styled (Shows.bare hshows hbehind) isStyle_bold hname
  refine ⟨_, Console.Markup.plain_of_shows hline, ?_, ?_, ?_⟩
  · have hfixed : IsSteady "  ".toList ∧ IsSteady "fail".toList ∧ IsSteady ": ".toList := by
      simp only [Console.isSteady_iff_all]
      exact ⟨rfl, rfl, rfl⟩
    have hend : IsSteady (List.replicate b '\\') := fun c hc =>
      List.eq_of_mem_replicate hc ▸ ⟨rfl, by decide⟩
    rw [String.toList_ofList]
    exact hfixed.1.append (hfixed.2.1.append (hfixed.1.append (hsteady.append
      (hfixed.2.2.append (h.steady.append hend)))))
  · have hmessage : HasNoPicture pictures (message.toList ++ List.replicate b '\\') :=
      h.unnamed.append_notMem fun hmem => by cases List.eq_of_mem_replicate hmem
    rw [String.toList_ofList]
    refine HasNoPicture.append ?_ (by decide)
    refine HasNoPicture.append ?_ (by decide)
    refine HasNoPicture.append ?_ (by decide)
    exact hmessage.behindColon.append hcolon
  · rw [String.toList_ofList]
    exact ⟨"  ".toList ++ ("fail".toList ++ ("  ".toList ++ (name.toList ++ ": ".toList))),
      List.replicate b '\\', by simp⟩

/-! ### Telling of errors -/

/-- What ends a command shows the message that suits it, and the command goes on to its exit
    code. -/
theorem giveUp_shown (h : (⟨false, true⟩ : Spot).Suits desk.pictures message) :
    (perform (giveUp message : Task δ α) desk).1 = .error (.exit 1)
      ∧ Prints (giveUp message : Task δ α) desk message := by
  have hplain : Console.Markup.plain ("[red]" ++ message ++ "[/red]") = .ok message :=
    h.plain_enclosed rfl
  obtain ⟨shown, hrun⟩ := exists_perform_say hplain desk
  refine ⟨?_, ?_⟩
  · rw [giveUp, sayError, perform_bind, hrun]
    rfl
  · exact (prints_say hplain h.steady h.unnamed List.infix_rfl).bind fun _ => Adds.throw _

theorem sayErrorAsIs_shown (h : (⟨true, true⟩ : Spot).Suits desk.pictures message) :
    Prints (sayErrorAsIs message) desk message :=
  prints_say (h.plain_enclosed rfl) h.steady h.unnamed List.infix_rfl

/-! ### Outcomes -/

/-- The line that tells of an outcome. -/
def outcomeLine (o : Run.Outcome) : String :=
  if o.status == .success then namedLine "green" "done" o.modelId " [dim](0s)[/dim]"
  else namedLine "red" "fail" o.modelId (": " ++ Console.Markup.escape o.error)

theorem namedLine_done (name : String) :
    namedLine "green" "done" name " [dim](0s)[/dim]"
      = s!"  [green]done[/green]  [bold]{name}[/bold] [dim](0s)[/dim]" := by
  apply String.toList_injective
  simp [namedLine]
  rfl

theorem namedLine_fail (name message : String) :
    namedLine "red" "fail" name (": " ++ message)
      = s!"  [red]fail[/red]  [bold]{name}[/bold]: {message}" := by
  apply String.toList_injective
  simp [namedLine]
  rfl

/-- What is told of the statements of an outcome. -/
def tellStatements (verbose : Bool) (statements : List String) : Task δ Unit :=
  if verbose then sayStatements statements else pure ()

theorem sayOutcomes_cons (verbose : Bool) (o : Run.Outcome) (rest : List Run.Outcome) :
    (sayOutcomes verbose (o :: rest) : Task δ Unit) = (do
      say (outcomeLine o)
      tellStatements verbose o.statements
      sayOutcomes verbose rest) := by
  rw [sayOutcomes, outcomeLine, namedLine_done, namedLine_fail]
  cases verbose
  · split <;> rfl
  · split <;> rfl

theorem legible_outcomeLine {o : Run.Outcome} (hname : Bare o.modelId.toList) :
    Legible [] (outcomeLine o).toList := by
  rw [outcomeLine]
  split
  · refine legible_namedLine isStyle_green ⟨by decide, by decide⟩ hname ?_
    have hrest : Legible [] (" ".toList ++ ('[' :: ("dim".toList ++ ']' :: ("(0s)".toList
        ++ '[' :: ('/' :: "dim".toList ++ ']' :: []))))) := by
      refine Legible.bare (Legible.styled ?_ isStyle_dim ⟨by decide, by decide⟩) ⟨by decide, by decide⟩
      exact Console.Markup.legible_of_notMem (by decide) []
    exact hrest
  · refine legible_namedLine isStyle_red ⟨by decide, by decide⟩ hname ?_
    rw [String.toList_append]
    refine Legible.bare ?_ ⟨by decide, by decide⟩
    exact Console.Markup.legible_escape o.error []

theorem sayStatements_ends (statements : List String) (desk : Desk δ) :
    Ends (sayStatements statements) desk (.ok ()) desk.connection := by
  induction statements generalizing desk with
  | nil => exact Ends.pure ()
  | cons sql rest ih =>
    have hline : s!"        [dim]{Console.Markup.escape sql}[/dim]".toList
        = "        ".toList ++ inStyle "dim".toList (Console.Markup.escape sql).toList := by
      simp [inStyle]
      rfl
    have hlegible : Legible [] s!"        [dim]{Console.Markup.escape sql}[/dim]".toList := by
      rw [hline]
      exact (Console.Markup.legible_inStyle isStyle_dim sql).bare ⟨by decide, by decide⟩
    obtain ⟨t, ht⟩ := Console.Markup.exists_plain_of_legible hlegible
    exact (Ends.say ht).bind_alone fun next => ih next

theorem adds_sayStatements (statements : List String) :
    Adds (sayStatements statements : Task δ Unit) := by
  induction statements with
  | nil => exact Adds.pure ()
  | cons sql rest ih => exact (Adds.say _).bind fun _ => ih

theorem tellStatements_ends (verbose : Bool) (statements : List String) (desk : Desk δ) :
    Ends (tellStatements verbose statements) desk (.ok ()) desk.connection := by
  rw [tellStatements]
  split
  · exact sayStatements_ends statements desk
  · exact Ends.pure ()

theorem adds_tellStatements (verbose : Bool) (statements : List String) :
    Adds (tellStatements verbose statements : Task δ Unit) := by
  rw [tellStatements]
  split
  · exact adds_sayStatements statements
  · exact Adds.pure ()

theorem adds_sayOutcomes (verbose : Bool) (outcomes : List Run.Outcome) :
    Adds (sayOutcomes verbose outcomes : Task δ Unit) := by
  induction outcomes with
  | nil => exact Adds.pure ()
  | cons o rest ih =>
    rw [sayOutcomes_cons]
    exact (Adds.say _).bind fun _ => (adds_tellStatements verbose _).bind fun _ => ih

/-- Whatever the messages in them are, outcomes are told of one after the other. -/
theorem sayOutcomes_ends (verbose : Bool) {outcomes : List Run.Outcome}
    (hnames : ∀ o ∈ outcomes, Bare o.modelId.toList) (desk : Desk δ) :
    Ends (sayOutcomes verbose outcomes) desk (.ok ()) desk.connection := by
  induction outcomes generalizing desk with
  | nil => exact Ends.pure ()
  | cons o rest ih =>
    obtain ⟨hname, hrest⟩ := List.forall_mem_cons.1 hnames
    obtain ⟨t, ht⟩ := Console.Markup.exists_plain_of_legible (legible_outcomeLine hname)
    rw [sayOutcomes_cons]
    exact (Ends.say ht).bind_alone fun next =>
      (tellStatements_ends verbose o.statements next).bind_alone fun last => ih hrest last

theorem prints_sayOutcomes (verbose : Bool) {outcomes : List Run.Outcome}
    (hnames : ∀ o ∈ outcomes, Identifier.isValid o.modelId = true) {o : Run.Outcome}
    (ho : o ∈ outcomes) (hstatus : o.status ≠ .success)
    (h : (⟨true, false⟩ : Spot).Suits desk.pictures o.error) :
    Prints (sayOutcomes verbose outcomes) desk o.error := by
  induction outcomes generalizing desk with
  | nil => cases ho
  | cons first rest ih =>
    obtain ⟨hname, hrest⟩ := List.forall_mem_cons.1 hnames
    rw [sayOutcomes_cons]
    rcases List.mem_cons.1 ho with rfl | ho
    · obtain ⟨shown, hplain, hsteady, hunnamed, hmessage⟩ :=
        exists_plain_failed (Identifier.bare_of_isValid hname) (isSteady_of_isValid hname)
          (colon_notMem_of_isValid hname) h
      have hline : outcomeLine o = namedLine "red" "fail" o.modelId
          (": " ++ (⟨true, false⟩ : Spot).spelled o.error) :=
        if_neg (by simpa using hstatus)
      rw [hline]
      exact (prints_say hplain hsteady hunnamed hmessage).bind fun _ =>
        (adds_tellStatements verbose _).bind fun _ => adds_sayOutcomes verbose rest
    · obtain ⟨t, ht⟩ := Console.Markup.exists_plain_of_legible
        (legible_outcomeLine (Identifier.bare_of_isValid hname))
      obtain ⟨shown, hrun⟩ := exists_perform_say ht desk
      refine Prints.after (Adds.say _) hrun fun _ => ?_
      have htold := (tellStatements_ends verbose first.statements
        { desk with printed := desk.printed ++ [Console.printed shown] }).result
      refine Prints.after (adds_tellStatements verbose _) (Prod.ext htold rfl) fun hlater => ?_
      refine ih hrest ho ?_
      rw [hlater]
      exact h

/-! ### Runs -/

variable {verbose : Bool} {batch : Run.Batch} {why : Option String}

/-- Whatever the messages in it are, what came of a run is told of to the end. -/
theorem sayRun_ends (verbose : Bool) (why : Option String)
    (hnames : ∀ o ∈ batch.outcomes, Bare o.modelId.toList) (desk : Desk δ) :
    Ends (sayRun verbose batch why) desk (.ok (why.isNone && batch.failures == 0))
      desk.connection := by
  have hsummary : ∀ told : Desk δ, Ends (do
      say (summary batch.successes batch.outcomes.length)
      return why.isNone && batch.failures == 0) told
      (.ok (why.isNone && batch.failures == 0)) told.connection := by
    intro told
    have hrun := perform_say_summary batch.successes batch.outcomes.length told
    have hline : Ends (say (summary batch.successes batch.outcomes.length)) told (.ok ())
        told.connection := ⟨hrun ▸ rfl, hrun ▸ rfl, hrun ▸ rfl⟩
    exact hline.bind_alone fun _ => Ends.pure _
  refine (sayOutcomes_ends verbose hnames desk).bind_alone fun told => ?_
  cases why with
  | none => exact hsummary told
  | some message => exact (Ends.sayErrorAsIs message told).bind_alone fun last => hsummary last

theorem prints_sayRun_message (hnames : ∀ o ∈ batch.outcomes, Bare o.modelId.toList)
    (h : (⟨true, true⟩ : Spot).Suits desk.pictures message) :
    Prints (sayRun verbose batch (some message)) desk message := by
  have htold := (sayOutcomes_ends verbose hnames desk).result
  refine Prints.after (adds_sayOutcomes verbose _) (Prod.ext htold rfl) fun hsame => ?_
  rw [← hsame] at h
  exact (sayErrorAsIs_shown h).bind fun _ => (Adds.say _).bind fun _ => Adds.pure _

theorem prints_sayRun_outcome (hnames : ∀ o ∈ batch.outcomes, Identifier.isValid o.modelId = true)
    {o : Run.Outcome} (ho : o ∈ batch.outcomes) (hstatus : o.status ≠ .success)
    (h : (⟨true, false⟩ : Spot).Suits desk.pictures o.error) :
    Prints (sayRun verbose batch why) desk o.error := by
  refine (prints_sayOutcomes verbose hnames ho hstatus h).bind fun _ => ?_
  cases why with
  | none => exact (Adds.say _).bind fun _ => Adds.pure _
  | some message => exact (Adds.say _).bind fun _ => (Adds.say _).bind fun _ => Adds.pure _

/-- Models that have been compiled have names that have been checked. -/
theorem isValid_of_compiled {files : FileTree} {environment : Environment} {project : Project}
    {select : Option String} {fullRefresh : Bool} {models : List Model} {context : Context}
    (h : compiled files environment project select fullRefresh
      (Model.discover files project.modelDirectories).1 = .ok (models, context)) :
    ∀ m ∈ models, Identifier.isValid m.id = true := by
  obtain ⟨seeds, -, h⟩ := bind_eq_ok_iff.1 h
  obtain ⟨found, hfound, h⟩ := bind_eq_ok_iff.1 h
  obtain ⟨⟨all, left⟩, hall, h⟩ := bind_eq_ok_iff.1 h
  have hdiscovered := mapError_eq_ok_iff.1 hfound
  obtain ⟨⟨compiledAll, w⟩, hcompiled, hall⟩ := bind_eq_ok_iff.1 (mapError_eq_ok_iff.1 hall)
  obtain ⟨rfl, -⟩ := Prod.mk.inj (Except.ok.inj hall)
  have hids := (Model.compileEach_ok hcompiled fun m hm dep hdep => by
    rw [(Model.discover_ok hdiscovered).2 m hm] at hdep
    cases hdep).1
  have hvalid : ∀ m ∈ compiledAll, Identifier.isValid m.id = true := by
    intro m hm
    have hid : m.id ∈ found.map (·.id) := hids ▸ List.mem_map_of_mem hm
    obtain ⟨m', hm', heq⟩ := List.mem_map.1 hid
    exact heq ▸ Model.isValid_of_discover hdiscovered m' hm'
  dsimp only at h
  split at h
  · obtain ⟨rfl, -⟩ := Prod.mk.inj (Except.ok.inj h)
    exact hvalid
  · obtain ⟨rfl, -⟩ := Prod.mk.inj (Except.ok.inj h)
    exact hvalid
  · obtain ⟨selected, hselected, h⟩ := bind_eq_ok_iff.1 h
    obtain ⟨rfl, -⟩ := Prod.mk.inj (Except.ok.inj h)
    obtain ⟨reached, -, hfilter⟩ := bind_eq_ok_iff.1 (mapError_eq_ok_iff.1 hselected)
    obtain rfl := Except.ok.inj hfilter
    exact fun m hm => hvalid m (List.mem_of_mem_filter hm)

/-- What is handed over is about the models that were run. -/
theorem isValid_of_handedOver {d : Driver δ} {project : Project} {environment : Environment}
    {models : List Model} {context : Context} {failFast : Bool} {c : Connection δ}
    (hmodels : ∀ m ∈ models, Identifier.isValid m.id = true)
    (h : handedOver (resultOn d project environment models context failFast c)
      = .ok (batch, why)) :
    ∀ o ∈ batch.outcomes, Identifier.isValid o.modelId = true := by
  obtain ⟨escape, hescape⟩ | ⟨visits, hattempts⟩ := exists_attempts
    (engineFor d project environment) models failFast ⟨c, context, []⟩
  · rw [resultOn, hescape] at h
    cases h
  · intro o ho
    rw [hattempts.outcomes_eq h] at ho
    obtain ⟨v, hv, rfl⟩ := List.mem_map.1 ho
    obtain ⟨hmodel, hid⟩ := hattempts.of_mem hv
    exact hid ▸ hmodels v.model hmodel

/-! ### The errors that are told of -/

/-- What is done about seeds while the database is open. -/
def loadOpened (d : Driver δ) (project : Project) (seeds : List Seed) : Task δ Bool := do
  saySeedCounts (← whileOpen d project.databasePath (loadAll d seeds))

/-- The errors that commands tell of: the part of a command, where it puts the message, the message,
    and what it goes on to. -/
inductive Reports (d : Driver δ) (desk : Desk δ) :
    {α : Type} → Task δ α → Spot → String → Except Stop α → Prop
  | load {place : Command.Place} {directory : Path} {e : ProjectError} :
      (perform (projectDirectory place) desk).1 = .ok directory →
      (Project.load desk.files desk.environment directory place.target).2 = .error e →
      e.isConfiguration = true →
      Reports d desk (loadProject place) ⟨false, true⟩ e.message (.error (.exit 1))
  | compile {project : Project} {select : Option String} {fullRefresh : Bool} {e : Problem} :
      compiled desk.files desk.environment project select fullRefresh
        (Model.discover desk.files project.modelDirectories).1 = .error e →
      e.isFaultOfModels = true →
      Reports d desk (compileProject project select fullRefresh) ⟨false, true⟩ e.message
        (.error (.exit 1))
  | order {models : List Model} {e : GraphError} : inOrder models = .error e →
      Reports d desk (ordered models) ⟨false, true⟩ e.message (.error (.exit 1))
  | seedRefused {s : Seed} {message : String} : Identifier.isValid s.name = true →
      (s.schema = "" ∨ Identifier.isValid s.schema = true) →
      ((s.load d desk.files).run.run desk.connection).1 = .error (.store (.storage message)) →
      Reports d desk (loadSeed d s) ⟨false, false⟩ message (.ok false)
  | seedUnread {s : Seed} {e : FileError} : Identifier.isValid s.name = true →
      (s.schema = "" ∨ Identifier.isValid s.schema = true) →
      ((s.load d desk.files).run.run desk.connection).1 = .error (.file e) →
      e.isSystem = true →
      Reports d desk (loadSeed d s) ⟨false, false⟩ e.message (.ok false)
  | seedsUndiscovered {project : Project} {e : SeedError} :
      Seed.discover desk.files project.schemaOfSeeds project.seedDirectories = .error e →
      (Problem.seeds e).isFaultOfModels = true →
      Reports d desk (loadSeeds d project) ⟨true, true⟩ e.message (.ok false)
  | seedsRefused {project : Project} {seeds : List Seed} {message : String} :
      (perform (loadOpened d project seeds) desk).1
        = .error (.raised (.store (.storage message))) →
      Reports d desk (unlessRefused false (loadOpened d project seeds)) ⟨true, true⟩ message
        (.ok false)
  | runRefused {project : Project} {models : List Model} {context : Context} {failFast : Bool}
      {message : String} :
      (perform (whileOpen d project.databasePath
          (schemasThenModels d project models context failFast)) desk).1
        = .error (.raised (.store (.storage message))) →
      Reports d desk (unlessRefused none (some <$> whileOpen d project.databasePath
          (schemasThenModels d project models context failFast))) ⟨true, true⟩ message (.ok none)
  | brokenOff {project : Project} {select : Option String} {fullRefresh failFast verbose : Bool}
      {models : List Model} {context : Context} {c : Connection δ} {batch : Run.Batch}
      {message : String} :
      compiled desk.files desk.environment project select fullRefresh
        (Model.discover desk.files project.modelDirectories).1 = .ok (models, context) →
      handedOver (resultOn d project desk.environment models context failFast c)
        = .ok (batch, some message) →
      Reports d desk (sayRun verbose batch (some message)) ⟨true, true⟩ message (.ok false)
  | outcome {project : Project} {select : Option String} {fullRefresh failFast verbose : Bool}
      {models : List Model} {context : Context} {c : Connection δ} {batch : Run.Batch}
      {why : Option String} {o : Run.Outcome} :
      compiled desk.files desk.environment project select fullRefresh
        (Model.discover desk.files project.modelDirectories).1 = .ok (models, context) →
      handedOver (resultOn d project desk.environment models context failFast c)
        = .ok (batch, why) →
      o ∈ batch.outcomes → o.status ≠ .success →
      Reports d desk (sayRun verbose batch why) ⟨true, false⟩ o.error
        (.ok (why.isNone && batch.failures == 0))

/-! ### Each of them -/

variable {d : Driver δ} {s : Seed}

/-- What comes to giving up. -/
theorem shown_of_giveUp {x : Task δ α} (hrun : perform x desk = perform (giveUp message) next)
    (hlater : desk.printed <+: next.printed) (hsame : next.pictures = desk.pictures)
    (h : (⟨false, true⟩ : Spot).Suits desk.pictures message) :
    (perform x desk).1 = .error (.exit 1) ∧ Prints x desk message := by
  rw [← hsame] at h
  obtain ⟨hresult, hprints⟩ := giveUp_shown (α := α) h
  exact ⟨(congrArg Prod.fst hrun).trans hresult, hprints.of_later (congrArg Prod.snd hrun) hlater⟩

/-- Finding the directory of a project changes nothing. -/
theorem perform_projectDirectory {place : Command.Place} {directory : Path}
    (h : (perform (projectDirectory place) desk).1 = .ok directory) :
    perform (projectDirectory place) desk = (.ok directory, desk) := by
  have hgaveUp : ∀ message, (perform (giveUp message : Task δ Path) desk).1 ≠ .ok directory := by
    intro message hok
    obtain ⟨stop, hstop, -⟩ := perform_giveUp (α := Path) message desk
    rw [hstop] at hok
    cases hok
  rw [projectDirectory, perform_get_bind] at h ⊢
  dsimp only at h ⊢
  cases hplace : place.project with
  | some there =>
    rw [hplace] at h
    dsimp only at h ⊢
    rw [perform_bind, perform_orRaise] at h ⊢
    rcases hthere : desk.files.contains (Project.fileIn there) with _ | _ | _
    · rw [hthere] at h
      cases h
    · rw [hthere] at h
      exact absurd h (hgaveUp _)
    · rw [hthere] at h
      exact Prod.ext h rfl
  | none =>
    rw [hplace] at h
    dsimp only at h ⊢
    rw [perform_bind, perform_orRaise] at h ⊢
    rcases hfound : Project.directoryFrom? desk.files desk.files.homePath with _ | _ | _
    · rw [hfound] at h
      cases h
    · rw [hfound] at h
      exact absurd h (hgaveUp _)
    · rw [hfound] at h
      exact Prod.ext h rfl

theorem perform_loadProject_error {place : Command.Place} {directory : Path} {e : ProjectError}
    (hdirectory : (perform (projectDirectory place) desk).1 = .ok directory)
    (hload : (Project.load desk.files desk.environment directory place.target).2 = .error e)
    (he : e.isConfiguration = true) :
    perform (loadProject place) desk = perform (giveUp e.message) { desk with
      environment := (Project.load desk.files desk.environment directory place.target).1 } := by
  rw [loadProject, perform_bind, perform_projectDirectory hdirectory]
  dsimp only
  rw [perform_get_bind]
  cases hloaded : Project.load desk.files desk.environment directory place.target with
  | mk environment result =>
    obtain rfl : result = .error e := by rw [← hload, hloaded]
    exact congrArg (fun task => perform task { desk with environment := environment }) (if_pos he)

theorem perform_compileProject_error {project : Project} {select : Option String}
    {fullRefresh : Bool} {e : Problem}
    (hcompiled : compiled desk.files desk.environment project select fullRefresh
      (Model.discover desk.files project.modelDirectories).1 = .error e)
    (he : e.isFaultOfModels = true) :
    perform (compileProject project select fullRefresh) desk
      = perform (giveUp e.message) { desk with
          log := desk.log ++ (Model.discover desk.files project.modelDirectories).2 } := by
  rw [perform_compileProject, hcompiled, blamingModels, if_pos he]

/-- The failure of a seed that has a name is told of, and the next one is tried. -/
theorem saySeedFailed_shown (hname : Identifier.isValid s.name = true)
    (hschema : s.schema = "" ∨ Identifier.isValid s.schema = true)
    (h : (⟨false, false⟩ : Spot).Suits desk.pictures message) :
    (perform (do saySeedFailed s message; return false) desk).1 = .ok false
      ∧ Prints (do saySeedFailed s message; return false) desk message := by
  obtain ⟨shown, hplain, hsteady, hunnamed, hmessage⟩ := exists_plain_failed
    (Seed.bare_fullName hname hschema) (isSteady_fullName hname hschema)
    (colon_notMem_fullName hname hschema) h
  have hline : Console.Markup.plain (failLine s message) = .ok shown := by
    rw [failLine_eq, statusLine_eq]
    exact hplain
  refine ⟨?_, ?_⟩
  · rw [(saySeedFailed_ends s message desk).result, afterLine, hline]
  · exact ((prints_say hline hsteady hunnamed hmessage).bind fun _ => Adds.note _).bind fun _ =>
      Adds.pure false

theorem loadSeed_shown {r : SeedFault} (hname : Identifier.isValid s.name = true)
    (hschema : s.schema = "" ∨ Identifier.isValid s.schema = true)
    (hload : ((s.load d desk.files).run.run desk.connection).1 = .error r)
    (htell : (tell s (.error r) : Task δ Bool) = do saySeedFailed s message; return false)
    (h : (⟨false, false⟩ : Spot).Suits desk.pictures message) :
    (perform (loadSeed d s) desk).1 = .ok false ∧ Prints (loadSeed d s) desk message := by
  have hrun := perform_loadSeed d s desk
  rw [hload, htell] at hrun
  have htold : (⟨false, false⟩ : Spot).Suits { desk with
      connection := ((s.load d desk.files).run.run desk.connection).2 }.pictures message := h
  obtain ⟨hresult, hprints⟩ := saySeedFailed_shown hname hschema htold
  exact ⟨(congrArg Prod.fst hrun).trans hresult,
    hprints.of_later (congrArg Prod.snd hrun) List.prefix_rfl⟩

/-- What the store refuses is told of, and the task goes on. -/
theorem unlessRefused_shown {body : Task δ α} (hadds : Adds body)
    (hrefused : (perform body desk).1 = .error (.raised (.store (.storage message))))
    (instead : α) :
    (perform (unlessRefused instead body) desk).1 = .ok instead
      ∧ ((⟨true, true⟩ : Spot).Suits desk.pictures message →
        Prints (unlessRefused instead body) desk message) := by
  have hbefore := hadds desk
  have hrun := perform_unlessRefused instead body desk
  rcases hbody : perform body desk with ⟨result, next⟩
  rw [hbody] at hrefused hrun hbefore
  obtain rfl : result = .error (.raised (.store (.storage message))) := hrefused
  dsimp only at hrun hbefore
  refine ⟨?_, fun h => ?_⟩
  · rw [hrun]
    exact ((Ends.sayErrorAsIs message next).bind_alone fun _ => Ends.pure instead).result
  · rw [← hbefore.2] at h
    exact ((sayErrorAsIs_shown h).bind fun _ => Adds.pure instead).of_later
      (congrArg Prod.snd hrun) hbefore.1

/-- **What is told of is shown as it is where it suits its place,** and the command goes on to what
    it goes on to; behind escaping it goes on whatever the message is. -/
theorem errors_shown {x : Task δ α} {spot : Spot} {result : Except Stop α}
    (h : Reports d desk x spot message result) :
    (spot.isEscaped = true → (perform x desk).1 = result)
      ∧ (spot.Suits desk.pictures message → (perform x desk).1 = result ∧ Prints x desk message) := by
  cases h with
  | load hdirectory hload he =>
    exact ⟨nofun, shown_of_giveUp (perform_loadProject_error hdirectory hload he) List.prefix_rfl rfl⟩
  | compile hcompiled he =>
    exact ⟨nofun, shown_of_giveUp (perform_compileProject_error hcompiled he) List.prefix_rfl rfl⟩
  | order horder =>
    exact ⟨nofun, shown_of_giveUp (by rw [ordered, horder]) List.prefix_rfl rfl⟩
  | seedRefused hname hschema hload => exact ⟨nofun, loadSeed_shown hname hschema hload rfl⟩
  | seedUnread hname hschema hload hsystem =>
    refine ⟨nofun, loadSeed_shown hname hschema hload ?_⟩
    rw [tell, if_pos hsystem]
  | @seedsUndiscovered project e hdiscover he =>
    have hrun := perform_loadSeeds d project desk
    rw [hdiscover] at hrun
    dsimp only at hrun
    rw [if_pos he] at hrun
    have hends : Ends (do sayErrorAsIs e.message; return false) desk (.ok false) desk.connection :=
      (Ends.sayErrorAsIs e.message desk).bind_alone fun _ => Ends.pure false
    have hresult := hends.result
    rw [← hrun] at hresult
    refine ⟨fun _ => hresult, fun h => ⟨hresult, ?_⟩⟩
    exact ((sayErrorAsIs_shown h).bind fun _ => Adds.pure false).of_later
      (congrArg Prod.snd hrun) List.prefix_rfl
  | @seedsRefused project seeds _ hrefused =>
    have hadds : Adds (loadOpened d project seeds) :=
      ((adds_loadAll d seeds).whileOpen d _).bind fun _ => adds_saySeedCounts _
    obtain ⟨hresult, hprints⟩ := unlessRefused_shown hadds hrefused false
    exact ⟨fun _ => hresult, fun h => ⟨hresult, hprints h⟩⟩
  | @runRefused project models context failFast _ hrefused =>
    have hadds : Adds (some <$> whileOpen d project.databasePath
        (schemasThenModels d project models context failFast)) := by
      rw [map_eq_pure_bind]
      exact ((adds_schemasThenModels d project models context failFast).whileOpen d _).bind
        fun _ => Adds.pure _
    obtain ⟨hresult, hprints⟩ := unlessRefused_shown hadds
      (by rw [perform_map, hrefused]; rfl) none
    exact ⟨fun _ => hresult, fun h => ⟨hresult, hprints h⟩⟩
  | @brokenOff _ _ _ _ verbose _ _ _ _ _ hcompiled hhanded =>
    have hnames := isValid_of_handedOver (isValid_of_compiled hcompiled) hhanded
    have hbare := fun o ho => Identifier.bare_of_isValid (hnames o ho)
    have hresult := (sayRun_ends verbose (some message) hbare desk).result
    exact ⟨fun _ => hresult, fun h => ⟨hresult, prints_sayRun_message hbare h⟩⟩
  | @outcome _ _ _ _ verbose _ _ _ _ why _ hcompiled hhanded ho hstatus =>
    have hnames := isValid_of_handedOver (isValid_of_compiled hcompiled) hhanded
    have hresult := (sayRun_ends verbose why
      (fun o ho => Identifier.bare_of_isValid (hnames o ho)) desk).result
    exact ⟨fun _ => hresult, fun h => ⟨hresult, prints_sayRun_outcome hnames ho hstatus h⟩⟩

/-- A seed whose name has a mark in it. -/
def withMarkedSeed : FileTree where
  nodes := [(["p"], .directory), (["p", "seeds"], .directory),
    (["p", "seeds", "a[b].csv"], .file [])]
  home := []

def markedProject : Project where
  directory := ⟨"/", ["p"]⟩

/-- The pictures of a console that has one. -/
def smiling : Console.Emoji.Table := fun name => if name == "smile" then some "😄" else none

def deskWithMarkedSeed : Desk Nat where
  files := withMarkedSeed
  connection := { driver := 0 }
  pictures := smiling

/-- What is wrong with it. -/
def markedMessage : String :=
  "Invalid seed name for a[b].csv: 'a[b]' (must match [A-Za-z_][A-Za-z0-9_]*)"

theorem discover_marked :
    Seed.discover withMarkedSeed markedProject.schemaOfSeeds markedProject.seedDirectories
      = .error (.name ⟨"seed name for a[b].csv", "a[b]"⟩) := by
  cbv

theorem suits_markedMessage : (⟨true, true⟩ : Spot).Suits smiling markedMessage where
  steady := Console.isSteady_iff_all.2 (by decide +kernel)
  unnamed := by decide +kernel
  backslashes := by decide +kernel
  marks := nofun
  ending := by decide +kernel

/-- The mark in the message is shown, since it is escaped. -/
theorem errors_shown_marked :
    (perform (loadSeeds accepting markedProject) deskWithMarkedSeed).1 = .ok false
    ∧ Prints (loadSeeds accepting markedProject) deskWithMarkedSeed markedMessage := by
  have hmessage : (SeedError.name ⟨"seed name for a[b].csv", "a[b]"⟩).message = markedMessage := by
    decide +kernel
  have hreports : Reports accepting deskWithMarkedSeed (loadSeeds accepting markedProject)
      ⟨true, true⟩ markedMessage (.ok false) :=
    hmessage ▸ .seedsUndiscovered discover_marked rfl
  exact (errors_shown hreports).2 suits_markedMessage

/-- A desk without files. -/
def deskWithoutFiles : Desk Nat where
  files := { nodes := [], home := [] }
  connection := { driver := 0 }

/-- A selection of models where there are none. -/
def selecting (names : String) : Task Nat (List Model × Context) :=
  compileProject circular (some names) false

theorem compiled_selecting (names name : String)
    (hselect : Model.select [] ((Text.splitAt ',' names.toList).map String.ofList)
      = .error ⟨name⟩) (hnames : names ≠ "") :
    compiled deskWithoutFiles.files deskWithoutFiles.environment circular (some names) false
        (Model.discover deskWithoutFiles.files circular.modelDirectories).1
      = .error (.selection ⟨name⟩) := by
  have hseeds : Seed.discover deskWithoutFiles.files circular.schemaOfSeeds circular.seedDirectories
      = .ok [] := rfl
  have hfound : (Model.discover deskWithoutFiles.files circular.modelDirectories).1 = .ok [] := by
    cbv
  rw [compiled, hseeds, hfound]
  dsimp only [Except.mapError, bind, Except.bind, Model.compileAll, Model.compileEach, pure,
    Except.pure, List.map_nil]
  split
  · contradiction
  · rename_i hempty
    exact absurd (Option.some.inj hempty) hnames
  · rename_i heq
    obtain rfl := Option.some.inj heq
    rw [hselect]

/-- **A mark in a message that is not escaped is not shown,** and one that closes nothing ends the
    command otherwise. -/
theorem mark_lost :
    Reports accepting deskWithoutFiles (selecting "a[b]") ⟨false, true⟩ "model not found: a[b]"
      (.error (.exit 1))
    ∧ ¬ Prints (selecting "a[b]") deskWithoutFiles "model not found: a[b]"
    ∧ Reports accepting deskWithoutFiles (selecting "a[/b]") ⟨false, true⟩ "model not found: a[/b]"
      (.error (.exit 1))
    ∧ ∃ e, (perform (selecting "a[/b]") deskWithoutFiles).1 = .error (.raised (.markup e)) := by
  have hmarked := compiled_selecting "a[b]" "a[b]" rfl (by decide)
  have hclosing := compiled_selecting "a[/b]" "a[/b]" rfl (by decide)
  refine ⟨.compile hmarked rfl, ?_, .compile hclosing rfl, ?_⟩
  · have hprinted :
        (perform (selecting "a[b]") deskWithoutFiles).2.printed = ["model not found: a"] := by
      rw [selecting, perform_compileProject_error hmarked rfl]
      rfl
    rintro ⟨lines, hlines, line, hline, htext⟩
    rw [hprinted] at hlines
    obtain rfl : lines = ["model not found: a"] := hlines.symm
    obtain rfl := List.mem_singleton.1 hline
    exact absurd htext (by decide +kernel)
  · rw [selecting, perform_compileProject_error hclosing rfl]
    exact ⟨_, rfl⟩

end SqlPipeline.Task
