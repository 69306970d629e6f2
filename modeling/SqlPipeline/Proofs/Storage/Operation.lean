/-
  SqlPipeline/Proofs/Storage/Operation.lean
  =========================================
  **What operations on a connection give, and what they leave.**

  Connecting and closing do something in one of the two states of a connection only.  A block
  is an operation and an ending, which is gone through whatever comes of the operation
  (`ended`).
-/
import SqlPipeline.Storage.Transaction

namespace SqlPipeline.Storage

variable {δ α β : Type}

section

variable {σ ε : Type} {x : ExceptT ε (StateM σ) α} {k : α → ExceptT ε (StateM σ) β} {s s' : σ}

theorem run_bind (x : ExceptT ε (StateM σ) α) (k : α → ExceptT ε (StateM σ) β) (s : σ) :
    (x >>= k).run.run s = ExceptT.bindCont k (x.run.run s).1 (x.run.run s).2 := rfl

theorem run_bind_of_ok {a : α} (h : x.run.run s = (.ok a, s')) :
    (x >>= k).run.run s = (k a).run.run s' := by
  rw [run_bind, h]
  rfl

/-- A failure keeps what follows it from being run. -/
theorem run_bind_of_error {e : ε} (h : x.run.run s = (.error e, s')) :
    (x >>= k).run.run s = (.error e, s') := by
  rw [run_bind, h]
  rfl

end

namespace Connection

theorem perform_bind_of_ok {x : Operation δ α} {k : α → Operation δ β} {c c' : Connection δ}
    {a : α} (h : perform x c = (.ok a, c')) : perform (x >>= k) c = perform (k a) c' :=
  run_bind_of_ok h

theorem perform_bind_of_error {x : Operation δ α} {k : α → Operation δ β} {c c' : Connection δ}
    {fault : Fault} (h : perform x c = (.error fault, c')) :
    perform (x >>= k) c = (.error fault, c') :=
  run_bind_of_error h

theorem perform_bind (x : Operation δ α) (k : α → Operation δ β) (c : Connection δ) :
    perform (x >>= k) c = match perform x c with
      | (.ok a, c) => perform (k a) c
      | (.error fault, c) => (.error fault, c) := by
  rcases hx : perform x c with ⟨fault | a, c'⟩
  · exact perform_bind_of_error hx
  · exact perform_bind_of_ok hx

/-! ### Calls of the driver -/

/-- The fault that a refusal is turned into. -/
def faultOf (wrap : String → Fault) : Refusal → Fault
  | .error message => wrap message
  | .crash message => .escaped (.crash message)

theorem perform_callDriver (wrap : String → Fault) (call : Call δ α) (c : Connection δ) :
    perform (callDriver wrap call) c
      = ((call.run.run c.driver).1.mapError (faultOf wrap),
          { c with driver := (call.run.run c.driver).2 }) := by
  have hget : perform (get : Operation δ (Connection δ)) c = (.ok c, c) := rfl
  rw [callDriver, perform_bind_of_ok hget]
  obtain ⟨result, driver⟩ := call.run.run c.driver
  cases result with
  | ok a => rfl
  | error refusal =>
    cases refusal with
    | error message => rfl
    | crash message => rfl

theorem perform_requireOpen_of_open {c : Connection δ} (h : c.isOpen = true) :
    perform requireOpen c = (.ok (), c) := by
  have hrun : perform requireOpen c = perform (if c.isOpen then return ()
      else throw (.storage "database is not connected") : Operation δ Unit) c := rfl
  rw [hrun, if_pos h]
  rfl

theorem perform_requireOpen_of_closed {c : Connection δ} (h : c.isOpen = false) :
    perform requireOpen c = (.error (.storage "database is not connected"), c) := by
  have hrun : perform requireOpen c = perform (if c.isOpen then return ()
      else throw (.storage "database is not connected") : Operation δ Unit) c := rfl
  rw [hrun, if_neg (Bool.not_eq_true _ ▸ h)]
  rfl

/-! ### Opening and closing -/

/-- What connecting does when there is no connection. -/
def opening (d : Driver δ) (path : String) (readOnly : Bool) : Operation δ Unit := do
  callDriver (failing ("open database " ++ path)) (d.connect path readOnly)
  let _ ← callDriver (failing ("open database " ++ path)) (d.execute firstStatement none)
  modify fun c => { c with isOpen := true }

theorem perform_connect_of_open {d : Driver δ} {c : Connection δ} (h : c.isOpen = true) :
    perform (connect d) c = (.ok (), c) := by
  have hrun : perform (connect d) c
      = perform (if c.isOpen then return () else opening d c.path c.readOnly) c := rfl
  rw [hrun, if_pos h]
  rfl

theorem perform_connect_of_closed {d : Driver δ} {c : Connection δ} (h : c.isOpen = false) :
    perform (connect d) c = perform (opening d c.path c.readOnly) c := by
  have hrun : perform (connect d) c
      = perform (if c.isOpen then return () else opening d c.path c.readOnly) c := rfl
  rw [hrun, if_neg (Bool.not_eq_true _ ▸ h)]

/-- What closing does when there is a connection. -/
def closing (d : Driver δ) : Operation δ Unit := do
  callDriver (fun message => .escaped (.driver message)) d.close
  modify fun c => { c with isOpen := false }

theorem perform_close_of_open {d : Driver δ} {c : Connection δ} (h : c.isOpen = true) :
    perform (close d) c = perform (closing d) c := by
  have hrun : perform (close d) c = perform (if c.isOpen then closing d else return ()) c := rfl
  rw [hrun, if_pos h]

theorem perform_close_of_closed {d : Driver δ} {c : Connection δ} (h : c.isOpen = false) :
    perform (close d) c = (.ok (), c) := by
  have hrun : perform (close d) c = perform (if c.isOpen then closing d else return ()) c := rfl
  rw [hrun, if_neg (Bool.not_eq_true _ ▸ h)]
  rfl

/-! ### Blocks -/

/-- An operation and what ends it, whatever comes of it; a failure of the ending hides its own. -/
def ended (x : Operation δ α) (ending : Except Fault α → Operation δ Unit) : Operation δ α := do
  let result ← (settled x : Operation δ (Except Fault α))
  ending result
  match result with
  | .ok a => return a
  | .error fault => throw fault

theorem perform_ended (x : Operation δ α) (ending : Except Fault α → Operation δ Unit)
    (c : Connection δ) :
    perform (ended x ending) c
      = match perform (ending (perform x c).1) (perform x c).2 with
        | (.ok _, c') => ((perform x c).1, c')
        | (.error fault, c') => (.error fault, c') := by
  have hsettled : perform (settled x : Operation δ (Except Fault α)) c
      = (.ok (perform x c).1, (perform x c).2) := rfl
  rw [ended, perform_bind_of_ok hsettled, perform_bind]
  obtain ⟨result, c'⟩ := perform x c
  obtain ⟨endResult, c''⟩ := perform (ending result) c'
  cases endResult with
  | error fault => rfl
  | ok _ =>
    cases result with
    | ok a => rfl
    | error fault => rfl

/-- A transaction whose body fails in no other ways than the connection does. -/
theorem within_id (d : Driver δ) (body : Operation δ α) :
    Transaction.within d id body = (do
      Transaction.start d
      ended body fun result =>
        match result with
        | .ok _ => Transaction.commit d
        | .error _ => Transaction.rollback d) := by
  have hadapt : ∀ x : Operation δ Unit, x.adapt id = x := by
    intro x
    funext c
    have hrun : (x.adapt id) c = ((x c).1.mapError id, (x c).2) := rfl
    rw [hrun]
    obtain ⟨result, c'⟩ := x c
    cases result with
    | ok a => rfl
    | error fault => rfl
  rw [Transaction.within, hadapt, hadapt, hadapt]
  refine bind_congr fun _ => bind_congr fun result => ?_
  cases result with
  | ok a => rfl
  | error fault => rfl

end Connection

end SqlPipeline.Storage
