/-
  SqlPipeline/Proofs/Storage/Client.lean
  ======================================
  **Clients of a connection, and what the driver gets from them.**

  A client uses a connection and the transactions that it has begun in any order, in blocks or
  by themselves, and may go on after a failure.  To speak about what is sent, the driver is made
  to note its calls together with their outcomes.  It answers as before
  (`Client.follows_noting`), so what holds of a client with a driver that notes holds of it with
  any driver.  What is the same for all clients is proved of what they are made of
  (`RespectedByClients.client`).
-/
import SqlPipeline.Proofs.Storage.Operation
import SqlPipeline.Storage.Script

namespace SqlPipeline.Storage

variable {δ α β : Type}

/-! ### Drivers that note their calls -/

/-- A call that a driver has got, and why it was refused, if it was. -/
structure Noted where
  call : Script.Received
  refusal : Option Refusal

/-- Why a call gave no result, if it gave none. -/
def refusalOf : Except Refusal α → Option Refusal
  | .ok _ => none
  | .error r => some r

/-- A call that is noted in front of the calls before it. -/
def noting (received : Script.Received) (call : Call δ α) : Call (δ × List Noted) α :=
  ExceptT.mk fun s =>
    let (result, x) := call.run.run s.1
    (result, x, ⟨received, refusalOf result⟩ :: s.2)

/-- The driver that notes its calls, the latest first. -/
def Driver.noting (d : Driver δ) : Driver (δ × List Noted) where
  connect path readOnly := Storage.noting (.connect path readOnly) (d.connect path readOnly)
  execute sql parameters := Storage.noting (.execute sql parameters) (d.execute sql parameters)
  start := Storage.noting (.plain .start) d.start
  commit := Storage.noting (.plain .commit) d.commit
  rollback := Storage.noting (.plain .rollback) d.rollback
  close := Storage.noting (.plain .close) d.close

namespace Connection

/-- The calls that the driver of a connection has noted. -/
def notes (c : Connection (δ × List Noted)) : List Noted :=
  c.driver.2

/-- The connection without these notes. -/
def forget (c : Connection (δ × List Noted)) : Connection δ :=
  ⟨c.path, c.readOnly, c.isOpen, c.driver.1⟩

/-- A connection that no one has used yet. -/
def unused (path : String) (readOnly : Bool) (x : δ) : Connection (δ × List Noted) :=
  ⟨path, readOnly, false, (x, [])⟩

/-- The connection after one more call that its driver has noted. -/
def after (c : Connection (δ × List Noted)) (x : δ) (n : Noted) : Connection (δ × List Noted) :=
  { c with driver := (x, n :: c.notes) }

@[simp] theorem notes_after (c : Connection (δ × List Noted)) (x : δ) (n : Noted) :
    (c.after x n).notes = n :: c.notes := rfl

theorem noting_run {received : Script.Received} {call : Call δ α} {x : δ} {notes : List Noted}
    {result : Except Refusal α} {y : δ} (h : call.run.run x = (result, y)) :
    (noting received call).run.run (x, notes)
      = (result, y, ⟨received, refusalOf result⟩ :: notes) := by
  have hrun : (noting received call).run.run (x, notes)
      = ((call.run.run x).1, (call.run.run x).2,
          ⟨received, refusalOf (call.run.run x).1⟩ :: notes) := rfl
  rw [hrun, h]

theorem perform_noting_of_ok {wrap : String → Fault} {received : Script.Received}
    {call : Call δ α} {c : Connection (δ × List Noted)} {a : α} {x : δ}
    (h : call.run.run c.driver.1 = (.ok a, x)) :
    perform (callDriver wrap (noting received call)) c = (.ok a, c.after x ⟨received, none⟩) := by
  rw [perform_callDriver, noting_run h]
  rfl

theorem perform_noting_of_error {wrap : String → Fault} {received : Script.Received}
    {call : Call δ α} {c : Connection (δ × List Noted)} {r : Refusal} {x : δ}
    (h : call.run.run c.driver.1 = (.error r, x)) :
    perform (callDriver wrap (noting received call)) c
      = (.error (faultOf wrap r), c.after x ⟨received, some r⟩) := by
  rw [perform_callDriver, noting_run h]
  rfl

/-- The ways in which an opening ends: it is refused, the first statement is, or the connection
    is held. -/
theorem perform_opening_cases (d : Driver δ) (path : String) (readOnly : Bool)
    (c : Connection (δ × List Noted)) :
    (∃ r x, perform (opening d.noting path readOnly) c
      = (.error (faultOf (failing ("open database " ++ path)) r),
          c.after x ⟨.connect path readOnly, some r⟩))
    ∨ (∃ r x y, perform (opening d.noting path readOnly) c
      = (.error (faultOf (failing ("open database " ++ path)) r),
          (c.after x ⟨.connect path readOnly, none⟩).after y
            ⟨.execute firstStatement none, some r⟩))
    ∨ ∃ x y, perform (opening d.noting path readOnly) c
      = (.ok (), { (c.after x ⟨.connect path readOnly, none⟩).after y
          ⟨.execute firstStatement none, none⟩ with isOpen := true }) := by
  rcases hconnect : (d.connect path readOnly).run.run c.driver.1 with ⟨answer, x⟩
  cases answer with
  | error r => exact .inl ⟨r, x, perform_bind_of_error (perform_noting_of_error hconnect)⟩
  | ok _ =>
    rcases hfirst : (d.execute firstStatement none).run.run x with ⟨answer, y⟩
    cases answer with
    | error r =>
      refine .inr (.inl ⟨r, x, y, ?_⟩)
      exact (perform_bind_of_ok (perform_noting_of_ok hconnect)).trans
        (perform_bind_of_error (perform_noting_of_error hfirst))
    | ok cursor =>
      refine .inr (.inr ⟨x, y, ?_⟩)
      exact (perform_bind_of_ok (perform_noting_of_ok hconnect)).trans
        (perform_bind_of_ok (perform_noting_of_ok hfirst))

/-- The ways in which a closing ends: it is refused, or the connection is no longer held. -/
theorem perform_closing_cases (d : Driver δ) (c : Connection (δ × List Noted)) :
    (∃ r x, perform (closing d.noting) c
      = (.error (faultOf (fun message => .escaped (.driver message)) r),
          c.after x ⟨.plain .close, some r⟩))
    ∨ ∃ x, perform (closing d.noting) c
      = (.ok (), { c.after x ⟨.plain .close, none⟩ with isOpen := false }) := by
  rcases hclose : d.close.run.run c.driver.1 with ⟨answer, x⟩
  cases answer with
  | error r => exact .inl ⟨r, x, perform_bind_of_error (perform_noting_of_error hclose)⟩
  | ok _ => exact .inr ⟨x, perform_bind_of_ok (perform_noting_of_ok hclose)⟩

end Connection

/-! ### Clients -/

open Connection

/-- One operation on a connection, or on a transaction that has begun on it. -/
inductive Op where
  | connect
  | close
  | query (sql : String) (args : List Data)
  | execute (sql : String)
  | createTableAs (table select : String)
  | createView (view select : String)
  | tableExists (table : String)
  | tableSchema (table : String)
  | start                                                -- of a transaction
  | commit
  | rollback
  | executeWithin (sql : String) (args : List Data)      -- within the transaction

/-- The operation itself; what it gives makes no difference to what happens. -/
def Op.operation (d : Driver δ) : Op → Operation δ Unit
  | connect => Connection.connect d
  | close => Connection.close d
  | query sql args => do
      let _ ← Connection.query d sql args
      return ()
  | execute sql => executeStatement d sql
  | createTableAs table select => Connection.createTableAs d table select
  | createView view select => Connection.createView d view select
  | tableExists table => do
      let _ ← Connection.tableExists d table
      return ()
  | tableSchema table => do
      let _ ← Connection.tableSchema d table
      return ()
  | start => Transaction.start d
  | commit => Transaction.commit d
  | rollback => Transaction.rollback d
  | executeWithin sql args => Transaction.execute d sql args

/-- What a client does. -/
inductive Client where
  | nothing
  | step (op : Op)
  | andThen (first second : Client)
  | during (body : Client)          -- in a block that connects and closes
  | within (body : Client)          -- in a block that begins and ends a transaction
  | attempt (body : Client)         -- going on whatever comes of it
  | giveUp (message : String)       -- with a fault of its own

def Client.operation (d : Driver δ) : Client → Operation δ Unit
  | nothing => return ()
  | step op => op.operation d
  | andThen first second => do
      first.operation d
      second.operation d
  | during body => whileOpen d (body.operation d)
  | within body => Transaction.within d id (body.operation d)
  | attempt body => do
      let _ ← (settled (body.operation d) : Operation δ (Except Fault Unit))
      return ()
  | giveUp message => throw (.escaped (.crash message))

/-! ### What holds of every client -/

/-- That a relation between the operations on two drivers goes with what operations are made
    of, closing apart. -/
structure Respected {δ' : Type} (R : ∀ α : Type, Operation δ α → Operation δ' α → Prop)
    (d : Driver δ) (e : Driver δ') : Prop where
  pure {α : Type} (a : α) : R α (Pure.pure a) (Pure.pure a)
  throw {α : Type} {fault : Fault} (h : ∀ message, fault ≠ .escaped (.driver message)) :
    R α (MonadExcept.throw fault) (MonadExcept.throw fault)
  bind {α β : Type} {x : Operation δ α} {y : Operation δ' α} {k : α → Operation δ β}
    {l : α → Operation δ' β} (hx : R α x y) (hk : ∀ a, R β (k a) (l a)) : R β (x >>= k) (y >>= l)
  requireOpen : R Unit Connection.requireOpen Connection.requireOpen
  connect : R Unit (Connection.connect d) (Connection.connect e)
  execute (what sql : String) (parameters : Option (List Data)) :
    R Cursor (callDriver (failing what) (d.execute sql parameters))
      (callDriver (failing what) (e.execute sql parameters))
  start : R Unit (callDriver (failing "begin transaction") d.start)
    (callDriver (failing "begin transaction") e.start)
  commit : R Unit (Transaction.commit d) (Transaction.commit e)
  rollback : R Unit (Transaction.rollback d) (Transaction.rollback e)

/-- That it goes with what clients are made of. -/
structure RespectedByClients {δ' : Type} (R : ∀ α : Type, Operation δ α → Operation δ' α → Prop)
    (d : Driver δ) (e : Driver δ') : Prop extends Respected R d e where
  close : R Unit (Connection.close d) (Connection.close e)
  whileOpen {x : Operation δ Unit} {y : Operation δ' Unit} (h : R Unit x y) :
    R Unit (Connection.whileOpen d x) (Connection.whileOpen e y)
  within {x : Operation δ Unit} {y : Operation δ' Unit} (h : R Unit x y) :
    R Unit (Transaction.within d id x) (Transaction.within e id y)

/-- A count that cannot be compared is no error of the driver. -/
theorem countedSome_ne_driver {rows : List (List Data)} {e : Escape}
    (h : countedSome rows = .error e) (message : String) : e ≠ .driver message := by
  rintro rfl
  match rows with
  | [] | [] :: _ => cases h
  | (count :: _) :: _ => cases count <;> cases h

theorem columnOf_ne_driver {row : List Data} {e : Escape} (h : columnOf row = .error e)
    (message : String) : e ≠ .driver message := by
  rintro rfl
  unfold columnOf at h
  split at h
  · cases h
  · split at h <;> cases h

/-- Nor are rows that do not describe columns. -/
theorem mapM_columnOf_ne_driver {rows : List (List Data)} {e : Escape}
    (h : rows.mapM columnOf = .error e) (message : String) : e ≠ .driver message := by
  induction rows with
  | nil => cases h
  | cons row rows ih =>
    rw [List.mapM_cons] at h
    cases hrow : columnOf row with
    | error e' =>
      rw [hrow] at h
      cases h
      exact columnOf_ne_driver hrow message
    | ok column =>
      rw [hrow] at h
      cases hrest : rows.mapM columnOf with
      | error e' =>
        refine ih ?_
        rw [hrest] at h ⊢
        cases h
        rfl
      | ok columns =>
        rw [hrest] at h
        cases h

namespace Respected

variable {δ' : Type} {R : ∀ α : Type, Operation δ α → Operation δ' α → Prop} {d : Driver δ}
  {e : Driver δ'}

theorem executeStatement (h : Respected R d e) (sql : String) :
    R Unit (Connection.executeStatement d sql) (Connection.executeStatement e sql) :=
  h.bind h.requireOpen fun _ => h.bind (h.execute _ _ _) fun _ => h.pure ()

theorem tableExists (h : Respected R d e) (table : String) :
    R Bool (Connection.tableExists d table) (Connection.tableExists e table) := by
  refine h.bind h.requireOpen fun _ => h.bind (h.execute _ _ _) fun cursor => ?_
  cases hcount : countedSome cursor.rows with
  | ok b => exact h.pure b
  | error e =>
    exact h.throw fun message heq => countedSome_ne_driver hcount message (Fault.escaped.inj heq)

theorem tableSchema (h : Respected R d e) (table : String) :
    R TableSchema (Connection.tableSchema d table) (Connection.tableSchema e table) := by
  refine h.bind (h.tableExists table) fun there => ?_
  cases there with
  | false => exact h.throw nofun
  | true =>
    refine h.bind (h.execute _ _ _) fun cursor => ?_
    cases hcolumns : cursor.rows.mapM columnOf with
    | ok columns => exact h.pure _
    | error e =>
      exact h.throw fun message heq =>
        mapM_columnOf_ne_driver hcolumns message (Fault.escaped.inj heq)

theorem op (h : Respected R d e) {op : Op} (hop : op ≠ .close) :
    R Unit (op.operation d) (op.operation e) := by
  cases op with
  | connect => exact h.connect
  | close => exact absurd rfl hop
  | query sql args =>
    refine h.bind (h.bind h.requireOpen fun _ => h.bind (h.execute _ _ _) fun _ => h.pure _) ?_
    exact fun _ => h.pure ()
  | execute sql => exact h.executeStatement sql
  | createTableAs table select => exact h.executeStatement _
  | createView view select => exact h.executeStatement _
  | tableExists table => exact h.bind (h.tableExists table) fun _ => h.pure ()
  | tableSchema table => exact h.bind (h.tableSchema table) fun _ => h.pure ()
  | start => exact h.bind h.requireOpen fun _ => h.start
  | commit => exact h.commit
  | rollback => exact h.rollback
  | executeWithin sql args => exact h.bind (h.execute _ _ _) fun _ => h.pure ()

end Respected

/-- Whether a client goes on after a failure. -/
def Client.goesOn : Client → Bool
  | nothing | step _ | giveUp _ => false
  | andThen first second => first.goesOn || second.goesOn
  | during body | within body => body.goesOn
  | attempt _ => true

/-- What goes with the operations goes with every client; with those that go on after a
    failure, if it goes with that. -/
theorem RespectedByClients.client {δ' : Type}
    {R : ∀ α : Type, Operation δ α → Operation δ' α → Prop} {d : Driver δ} {e : Driver δ'}
    (h : RespectedByClients R d e) (client : Client)
    (hsettled : client.goesOn = true → ∀ (x : Operation δ Unit) (y : Operation δ' Unit),
      R Unit x y → R (Except Fault Unit) (settled x) (settled y)) :
    R Unit (client.operation d) (client.operation e) := by
  induction client with
  | nothing => exact h.pure ()
  | step op =>
    by_cases hop : op = .close
    · subst hop
      exact h.close
    · exact h.op hop
  | andThen first second ihFirst ihSecond =>
    refine h.bind (ihFirst fun hfirst => hsettled ?_) fun _ => ihSecond fun hsecond => hsettled ?_
    · rw [Client.goesOn, hfirst, Bool.true_or]
    · rw [Client.goesOn, hsecond, Bool.or_true]
  | during body ih => exact h.whileOpen (ih hsettled)
  | within body ih => exact h.within (ih hsettled)
  | attempt body ih =>
    exact h.bind (hsettled rfl _ _ (ih fun _ => hsettled rfl)) fun _ => h.pure ()
  | giveUp message => exact h.throw nofun

/-! ### Noting makes no difference -/

/-- That an operation whose driver notes its calls does what another does. -/
def Follows (x : Operation (δ × List Noted) α) (y : Operation δ α) : Prop :=
  ∀ c, perform y c.forget = ((perform x c).1, (perform x c).2.forget)

namespace Follows

theorem pure (a : α) : Follows (δ := δ) (Pure.pure a) (Pure.pure a) :=
  fun _ => rfl

theorem throw (fault : Fault) :
    Follows (δ := δ) (α := α) (MonadExcept.throw fault) (MonadExcept.throw fault) :=
  fun _ => rfl

theorem bind {x : Operation (δ × List Noted) α} {y : Operation δ α}
    {k : α → Operation (δ × List Noted) β} {l : α → Operation δ β} (hx : Follows x y)
    (hk : ∀ a, Follows (k a) (l a)) : Follows (x >>= k) (y >>= l) := by
  intro c
  rw [perform_bind, perform_bind, hx c]
  obtain ⟨result, c'⟩ := perform x c
  cases result with
  | ok a => exact hk a c'
  | error fault => rfl

theorem callDriver (wrap : String → Fault) (received : Script.Received) (call : Call δ α) :
    Follows (Connection.callDriver wrap (noting received call))
      (Connection.callDriver wrap call) := by
  intro c
  rw [perform_callDriver, perform_callDriver]
  rfl

theorem requireOpen : Follows (δ := δ) Connection.requireOpen Connection.requireOpen := by
  intro c
  cases hopen : c.isOpen with
  | true =>
    rw [perform_requireOpen_of_open hopen, perform_requireOpen_of_open (c := c.forget) hopen]
  | false =>
    rw [perform_requireOpen_of_closed hopen, perform_requireOpen_of_closed (c := c.forget) hopen]

theorem settled {x : Operation (δ × List Noted) α} {y : Operation δ α} (h : Follows x y) :
    Follows (Connection.settled x : Operation (δ × List Noted) (Except Fault α))
      (Connection.settled y : Operation δ (Except Fault α)) := by
  intro c
  have hrun : perform (Connection.settled y : Operation δ (Except Fault α)) c.forget
      = (.ok (perform y c.forget).1, (perform y c.forget).2) := rfl
  rw [hrun, h c]
  rfl

theorem ended {x : Operation (δ × List Noted) α} {y : Operation δ α}
    {before : Except Fault α → Operation (δ × List Noted) Unit}
    {after : Except Fault α → Operation δ Unit} (h : Follows x y)
    (hend : ∀ result, Follows (before result) (after result)) :
    Follows (Connection.ended x before) (Connection.ended y after) := by
  refine h.settled.bind fun result => (hend result).bind fun _ => ?_
  cases result with
  | ok a => exact pure a
  | error fault => exact throw fault

theorem connect (d : Driver δ) : Follows (Connection.connect d.noting) (Connection.connect d) := by
  intro c
  cases hopen : c.isOpen with
  | true => rw [perform_connect_of_open hopen, perform_connect_of_open (c := c.forget) hopen]
  | false =>
    rw [perform_connect_of_closed hopen, perform_connect_of_closed (c := c.forget) hopen]
    refine bind (callDriver _ _ _) (fun _ => bind (callDriver _ _ _) fun _ => ?_) c
    exact fun _ => rfl

theorem close (d : Driver δ) : Follows (Connection.close d.noting) (Connection.close d) := by
  intro c
  cases hopen : c.isOpen with
  | true =>
    rw [perform_close_of_open hopen, perform_close_of_open (c := c.forget) hopen]
    exact bind (callDriver _ _ _) (fun _ => fun _ => rfl) c
  | false => rw [perform_close_of_closed hopen, perform_close_of_closed (c := c.forget) hopen]

theorem transaction (d : Driver δ) {x : Operation (δ × List Noted) Unit} {y : Operation δ Unit}
    (h : Follows x y) : Follows (Transaction.within d.noting id x) (Transaction.within d id y) := by
  rw [within_id, within_id]
  refine (requireOpen.bind fun _ => callDriver _ _ _).bind fun _ => h.ended fun result => ?_
  cases result with
  | ok a => exact callDriver _ _ _
  | error fault => exact callDriver _ _ _

theorem respected (d : Driver δ) : RespectedByClients (fun _ => Follows) d.noting d where
  pure := pure
  throw _ := throw _
  bind := bind
  requireOpen := requireOpen
  connect := connect d
  close := close d
  execute _ _ _ := callDriver _ _ _
  start := callDriver _ _ _
  commit := callDriver _ _ _
  rollback := callDriver _ _ _
  whileOpen h := (connect d).bind fun _ => h.ended fun _ => close d
  within := transaction d

end Follows

/-- **A client gets the same from a driver that notes its calls,** and leaves the same behind. -/
theorem Client.follows_noting (d : Driver δ) (client : Client) :
    Follows (client.operation d.noting) (client.operation d) :=
  (Follows.respected d).client client fun _ _ _ h => h.settled

end SqlPipeline.Storage
