/-
  SqlPipeline/Proofs/Storage/Transaction.lean
  ===========================================
  **A transaction that has begun is ended once, and what failed in it still fails.**

  The body of a block executes statements and may fail at any point in a way of its own.  How
  it goes says both what the driver gets and what comes of it (`Goes`); the ending depends on
  the second only, and is the last that the driver gets (`within_endsOnce`).  The ending may be
  refused itself: a commit that is refused is not followed by a rollback, and a rollback that is
  refused hides the failure that has led to it.
-/
import SqlPipeline.Proofs.Storage.Client

namespace SqlPipeline.Storage.Transaction

open Connection

variable {δ ε α : Type} {lift : Fault → ε}

/-! ### Bodies -/

/-- What a body does next: it executes a statement, or it fails in a way of its own. -/
inductive Deed (ε : Type) where
  | execute (sql : String) (args : List Data)
  | raise (e : ε)

/-- One deed after the other, up to the first that fails. -/
def body (d : Driver δ) (lift : Fault → ε) :
    List (Deed ε) → ExceptT ε (StateM (Connection δ)) Unit
  | [] => return ()
  | .execute sql args :: deeds => do
      (execute d sql args).adapt lift
      body d lift deeds
  | .raise e :: _ => throw e

/-- A statement of a transaction as its driver notes it. -/
def statement (sql : String) (args : List Data) (refusal : Option Refusal) : Noted :=
  ⟨.execute sql (parameters args), refusal⟩

/-- How a body goes: its statements as the driver gets them, the first that is refused being
    the last of them, and what comes of it. -/
inductive Goes (lift : Fault → ε) : List (Deed ε) → List Noted → Except ε Unit → Prop
  | nil : Goes lift [] [] (.ok ())
  | raised (e : ε) (deeds : List (Deed ε)) : Goes lift (.raise e :: deeds) [] (.error e)
  | refused (sql : String) (args : List Data) (r : Refusal) (deeds : List (Deed ε)) :
      Goes lift (.execute sql args :: deeds) [statement sql args (some r)]
        (.error (lift (faultOf (failing "execute statement in transaction") r)))
  | executed {sql : String} {args : List Data} {deeds : List (Deed ε)} {sent : List Noted}
      {result : Except ε Unit} (h : Goes lift deeds sent result) :
      Goes lift (.execute sql args :: deeds) (statement sql args none :: sent) result

theorem run_adapt (x : Operation δ α) (c : Connection δ) :
    (x.adapt lift).run.run c = ((perform x c).1.mapError lift, (perform x c).2) := rfl

theorem perform_execute (d : Driver δ) (sql : String) (args : List Data)
    (c : Connection (δ × List Noted)) :
    (∃ x, perform (execute d.noting sql args) c = (.ok (), c.after x (statement sql args none)))
    ∨ ∃ r x, perform (execute d.noting sql args) c
      = (.error (faultOf (failing "execute statement in transaction") r),
          c.after x (statement sql args (some r))) := by
  rcases hcall : (d.execute sql (parameters args)).run.run c.driver.1 with ⟨answer, x⟩
  cases answer with
  | ok cursor => exact .inl ⟨x, perform_bind_of_ok (perform_noting_of_ok hcall)⟩
  | error r => exact .inr ⟨r, x, perform_bind_of_error (perform_noting_of_error hcall)⟩

theorem goes_body (d : Driver δ) (lift : Fault → ε) (deeds : List (Deed ε))
    (c : Connection (δ × List Noted)) :
    ∃ sent, Goes lift deeds sent ((body d.noting lift deeds).run.run c).1
      ∧ ((body d.noting lift deeds).run.run c).2.notes = sent.reverse ++ c.notes := by
  induction deeds generalizing c with
  | nil => exact ⟨[], .nil, rfl⟩
  | cons deed deeds ih =>
    cases deed with
    | raise e => exact ⟨[], .raised e deeds, rfl⟩
    | execute sql args =>
      rw [body]
      rcases perform_execute d sql args c with ⟨x, hx⟩ | ⟨r, x, hx⟩
      · have hstep : ((execute d.noting sql args).adapt lift).run.run c
            = (.ok (), c.after x (statement sql args none)) := by
          rw [run_adapt, hx]
          rfl
        obtain ⟨sent, hsent, hnotes⟩ := ih (c.after x (statement sql args none))
        rw [run_bind_of_ok hstep]
        refine ⟨_, .executed hsent, ?_⟩
        rw [hnotes, notes_after]
        simp
      · have hstep : ((execute d.noting sql args).adapt lift).run.run c
            = (.error (lift (faultOf (failing "execute statement in transaction") r)),
                c.after x (statement sql args (some r))) := by
          rw [run_adapt, hx]
          rfl
        rw [run_bind_of_error hstep]
        exact ⟨_, .refused sql args r deeds, by simp⟩

/-! ### Endings -/

/-- What ends a transaction: its body decides. -/
def ending (d : Driver δ) : Except ε α → Operation δ Unit
  | .ok _ => commit d
  | .error _ => rollback d

/-- The call of the driver that ends a transaction. -/
def endingCall : Except ε α → Script.Event
  | .ok _ => .commit
  | .error _ => .rollback

/-- The words for an ending that is refused. -/
def endingWords : Except ε α → String
  | .ok _ => "commit transaction"
  | .error _ => "roll back transaction"

theorem perform_ending (d : Driver δ) (result : Except ε α) (c : Connection (δ × List Noted)) :
    ∃ refusal x, perform (ending d.noting result) c
      = (match refusal with
          | none => .ok ()
          | some r => .error (faultOf (failing (endingWords result)) r),
        c.after x ⟨.plain (endingCall result), refusal⟩) := by
  cases result with
  | ok a =>
    rcases hcall : d.commit.run.run c.driver.1 with ⟨answer, x⟩
    cases answer with
    | ok _ => exact ⟨none, x, perform_noting_of_ok hcall⟩
    | error r => exact ⟨some r, x, perform_noting_of_error hcall⟩
  | error e =>
    rcases hcall : d.rollback.run.run c.driver.1 with ⟨answer, x⟩
    cases answer with
    | ok _ => exact ⟨none, x, perform_noting_of_ok hcall⟩
    | error r => exact ⟨some r, x, perform_noting_of_error hcall⟩

/-- The rest of a block once its body has come to a result. -/
def finish (d : Driver δ) (lift : Fault → ε) (result : Except ε α) :
    ExceptT ε (StateM (Connection δ)) α := do
  (ending d result).adapt lift
  match result with
  | .ok a => return a
  | .error e => throw e

theorem run_finish (d : Driver δ) (lift : Fault → ε) (result : Except ε α) (c : Connection δ) :
    (finish d lift result).run.run c
      = match perform (ending d result) c with
        | (.error fault, c') => (.error (lift fault), c')
        | (.ok _, c') => (result, c') := by
  have hend : ((ending d result).adapt lift).run.run c
      = ((perform (ending d result) c).1.mapError lift, (perform (ending d result) c).2) :=
    run_adapt _ c
  rcases hrun : perform (ending d result) c with ⟨ended, c'⟩
  rw [hrun] at hend
  unfold finish
  cases ended with
  | error fault => exact run_bind_of_error hend
  | ok _ =>
    rw [run_bind_of_ok hend]
    cases result <;> rfl

/-- A block whose transaction begins goes through with its body and then ends it. -/
theorem run_within {d : Driver δ} {c c' : Connection δ} (hbegun : perform (start d) c = (.ok (), c'))
    (lift : Fault → ε) (x : ExceptT ε (StateM (Connection δ)) α) :
    (within d lift x).run.run c
      = (finish d lift (x.run.run c').1).run.run (x.run.run c').2 := by
  have hstart : ((start d).adapt lift).run.run c = (.ok (), c') := by
    rw [run_adapt, hbegun]
    rfl
  have hsettled : (settled x : ExceptT ε (StateM (Connection δ)) (Except ε α)).run.run c'
      = (.ok (x.run.run c').1, (x.run.run c').2) := rfl
  rw [within, run_bind_of_ok hstart, run_bind_of_ok hsettled]
  cases (x.run.run c').1 <;> rfl

theorem perform_start_of_ok {d : Driver δ} {c : Connection (δ × List Noted)}
    (h : (perform (start d.noting) c).1 = .ok ()) :
    ∃ x, perform (start d.noting) c = (.ok (), c.after x ⟨.plain .start, none⟩) := by
  cases hopen : c.isOpen with
  | false =>
    have hrun : perform (start d.noting) c = (.error (.storage "database is not connected"), c) :=
      perform_bind_of_error (perform_requireOpen_of_closed hopen)
    rw [hrun] at h
    cases h
  | true =>
    have hrun : perform (start d.noting) c
        = perform (callDriver (failing "begin transaction") d.noting.start) c :=
      perform_bind_of_ok (perform_requireOpen_of_open hopen)
    rcases hcall : d.start.run.run c.driver.1 with ⟨answer, x⟩
    cases answer with
    | ok _ => exact ⟨x, hrun.trans (perform_noting_of_ok hcall)⟩
    | error r =>
      rw [hrun, Driver.noting, perform_noting_of_error hcall] at h
      cases h

/-! ### Noting makes no difference -/

theorem run_body_forget (d : Driver δ) (lift : Fault → ε) (deeds : List (Deed ε))
    (c : Connection (δ × List Noted)) :
    (body d lift deeds).run.run c.forget
      = (((body d.noting lift deeds).run.run c).1,
          ((body d.noting lift deeds).run.run c).2.forget) := by
  induction deeds generalizing c with
  | nil => rfl
  | cons deed deeds ih =>
    cases deed with
    | raise e => rfl
    | execute sql args =>
      have hexecute : Follows (execute d.noting sql args) (execute d sql args) :=
        Follows.bind (Follows.callDriver _ _ _) fun _ => Follows.pure ()
      rw [body, body, run_bind, run_bind, run_adapt, run_adapt, hexecute c]
      rcases perform (execute d.noting sql args) c with ⟨answer, c'⟩
      cases answer with
      | error fault => rfl
      | ok _ => exact ih c'

theorem run_finish_forget (d : Driver δ) (lift : Fault → ε) (result : Except ε α)
    (c : Connection (δ × List Noted)) :
    (finish d lift result).run.run c.forget
      = (((finish d.noting lift result).run.run c).1,
          ((finish d.noting lift result).run.run c).2.forget) := by
  have hending : Follows (ending d.noting result) (ending d result) := by
    cases result <;> exact Follows.callDriver _ _ _
  rw [run_finish, run_finish, hending c]
  rcases perform (ending d.noting result) c with ⟨answer, c'⟩
  cases answer <;> rfl

theorem run_within_forget {d : Driver δ} {c c' : Connection (δ × List Noted)}
    (hbegun : perform (start d.noting) c = (.ok (), c')) (lift : Fault → ε)
    (deeds : List (Deed ε)) :
    (within d lift (body d lift deeds)).run.run c.forget
      = (((within d.noting lift (body d.noting lift deeds)).run.run c).1,
          ((within d.noting lift (body d.noting lift deeds)).run.run c).2.forget) := by
  have hfollows : Follows (start d.noting) (start d) :=
    Follows.requireOpen.bind fun _ => Follows.callDriver _ _ _
  have hplain : perform (start d) c.forget = (.ok (), c'.forget) := by
    rw [hfollows c, hbegun]
  rw [run_within hplain, run_within hbegun, run_body_forget, run_finish_forget]

/-! ### Blocks -/

/-- **Once a transaction has begun, the driver gets the statements of its body up to the first
    that is refused, and then one further call:** a commit if nothing has failed, and a rollback
    if something has.  What has failed is what the block fails with, unless the ending is refused;
    that a block succeeds whose body has failed is out of the question.  What notes are taken of
    makes no difference. -/
theorem within_endsOnce (d : Driver δ) (lift : Fault → ε) (deeds : List (Deed ε))
    {c : Connection (δ × List Noted)} (hbegun : (perform (start d.noting) c).1 = .ok ()) :
    let run := (within d.noting lift (body d.noting lift deeds)).run.run c
    (within d lift (body d lift deeds)).run.run c.forget = (run.1, run.2.forget)
      ∧ ∃ sent result refusal, Goes lift deeds sent result
        ∧ run.2.notes = ⟨.plain (endingCall result), refusal⟩
            :: (sent.reverse ++ ⟨.plain .start, none⟩ :: c.notes)
        ∧ (refusal = none → run.1 = result)
        ∧ (∀ r, refusal = some r →
            run.1 = .error (lift (faultOf (failing (endingWords result)) r)))
        ∧ ∀ e, result = .error e → run.1 ≠ .ok () := by
  intro run
  obtain ⟨x, hstart⟩ := perform_start_of_ok hbegun
  have hrun := run_within hstart lift (body d.noting lift deeds)
  refine ⟨run_within_forget hstart lift deeds, ?_⟩
  obtain ⟨sent, hgoes, hnotes⟩ := goes_body d lift deeds (c.after x ⟨.plain .start, none⟩)
  rcases hbody : (body d.noting lift deeds).run.run (c.after x ⟨.plain .start, none⟩)
    with ⟨result, c'⟩
  rw [hbody] at hgoes hnotes hrun
  obtain ⟨refusal, y, hend⟩ := perform_ending d result c'
  have hfinish := run_finish d.noting lift result c'
  rw [← hrun, hend] at hfinish
  refine ⟨sent, result, refusal, hgoes, ?_⟩
  cases refusal with
  | none =>
    have hrun : run = (result, c'.after y ⟨.plain (endingCall result), none⟩) := hfinish
    rw [hrun, notes_after, hnotes, notes_after]
    refine ⟨rfl, fun _ => rfl, nofun, ?_⟩
    rintro e rfl
    nofun
  | some r =>
    have hrun : run = (.error (lift (faultOf (failing (endingWords result)) r)),
        c'.after y ⟨.plain (endingCall result), some r⟩) := hfinish
    rw [hrun, notes_after, hnotes, notes_after]
    refine ⟨rfl, nofun, ?_, fun e _ => nofun⟩
    rintro _ ⟨⟩
    rfl

/-- A driver that refuses one statement and every rollback. -/
def refusingRollback : Script.State where
  rules := [⟨.execute, "bad", none, .refuse (.error "boom")⟩,
    ⟨.rollback, "", none, .refuse (.crash "gone")⟩]

/-- A statement is refused, and then the rollback: nothing behind the one or the other is sent, and
    the block fails with the second. -/
theorem within_endsOnce_refused :
    let c : Connection (Script.State × List Noted) := ⟨":memory:", false, true, refusingRollback, []⟩
    let run := (within Script.driver.noting id (body Script.driver.noting id
      [.execute "INSERT" [], .execute "bad" [], .execute "DELETE" []])).run.run c
    (perform (start Script.driver.noting) c).1 = .ok ()
      ∧ run.1 = .error (.escaped (.crash "gone"))
      ∧ run.2.notes = [⟨.plain .rollback, some (.crash "gone")⟩,
          statement "bad" [] (some (.error "boom")), statement "INSERT" [] none,
          ⟨.plain .start, none⟩]
      ∧ ∃ sent result refusal, Goes id [.execute "INSERT" [], .execute "bad" [],
          .execute "DELETE" []] sent result
        ∧ run.2.notes = ⟨.plain (endingCall result), refusal⟩
            :: (sent.reverse ++ [⟨.plain .start, none⟩])
        ∧ ∀ e, result = .error e → run.1 ≠ .ok () := by
  intro c run
  have hbegun : (perform (start Script.driver.noting) c).1 = .ok () := rfl
  obtain ⟨-, sent, result, refusal, hgoes, hnotes, -, -, hnever⟩ := within_endsOnce Script.driver id
    [.execute "INSERT" [], .execute "bad" [], .execute "DELETE" []] hbegun
  have hresult : run.1 = .error (.escaped (.crash "gone")) := rfl
  have hsent : run.2.notes = [⟨.plain .rollback, some (.crash "gone")⟩,
      statement "bad" [] (some (.error "boom")), statement "INSERT" [] none,
      ⟨.plain .start, none⟩] := rfl
  exact ⟨hbegun, hresult, hsent, sent, result, refusal, hgoes, hnotes, hnever⟩

end SqlPipeline.Storage.Transaction
