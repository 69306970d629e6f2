/-
  SqlPipeline/Proofs/Storage/Accounts.lean
  ========================================
  **Connections that are opened are held, closed or lost.**

  Whatever a client does and however the driver answers, the connections that the driver has
  opened are those that it has closed, the one that the client holds, and those whose first
  statement was refused: these are given up without being closed (`Client.accounts`).
  Connecting twice sends nothing, and without a connection nothing is sent at all.
-/
import SqlPipeline.Proofs.Storage.Client
import Mathlib.Data.List.Count

namespace SqlPipeline.Storage

variable {δ α β : Type}

/-! ### Counting -/

/-- A call that has opened a connection. -/
def Noted.opens : Noted → Bool
  | ⟨.connect _ _, none⟩ => true
  | _ => false

/-- A call that has closed one. -/
def Noted.closes : Noted → Bool
  | ⟨.plain .close, none⟩ => true
  | _ => false

/-- The first statement on a connection, where it is refused. -/
def Noted.refusesFirst : Noted → Bool
  | ⟨.execute sql none, some _⟩ => sql == Connection.firstStatement
  | _ => false

/-- The number of connections whose first statement was refused right behind the opening. -/
def lost : List Noted → Nat
  | later :: earlier :: rest =>
      (if later.refusesFirst && earlier.opens then 1 else 0) + lost (earlier :: rest)
  | _ => 0

theorem lost_eq_zero {notes : List Noted} (h : ∀ n ∈ notes, n.refusesFirst = false) :
    lost notes = 0 := by
  induction notes with
  | nil => rfl
  | cons later rest ih =>
    obtain ⟨hlater, hrest⟩ := List.forall_mem_cons.1 h
    cases rest with
    | nil => rfl
    | cons earlier rest => rw [lost, hlater, ih hrest, Bool.false_and, if_neg Bool.false_ne_true]

namespace Connection

/-- The number of connections that the driver has opened. -/
def opened (c : Connection (δ × List Noted)) : Nat :=
  c.notes.countP Noted.opens

def closed (c : Connection (δ × List Noted)) : Nat :=
  c.notes.countP Noted.closes

/-- The number of connections that a client holds, which is one or none. -/
def held (c : Connection (δ × List Noted)) : Nat :=
  if c.isOpen then 1 else 0

theorem held_of_open {c : Connection (δ × List Noted)} (h : c.isOpen = true) : c.held = 1 :=
  if_pos h

theorem held_of_closed {c : Connection (δ × List Noted)} (h : c.isOpen = false) : c.held = 0 :=
  if_neg (Bool.not_eq_true _ ▸ h)

theorem opened_after (c : Connection (δ × List Noted)) (x : δ) (n : Noted) :
    (c.after x n).opened = c.opened + if n.opens then 1 else 0 :=
  List.countP_cons

theorem closed_after (c : Connection (δ × List Noted)) (x : δ) (n : Noted) :
    (c.after x n).closed = c.closed + if n.closes then 1 else 0 :=
  List.countP_cons

/-! ### The accounts -/

/-- That the connections that were opened are accounted for, when the latest call is not one
    that has opened a connection. -/
structure Accounted (c : Connection (δ × List Noted)) : Prop where
  balance : c.opened = c.closed + c.held + lost c.notes
  passed : ∀ n rest, c.notes = n :: rest → n.opens = false

/-- No connection is lost with a call that does not follow an opening. -/
theorem Accounted.lost_cons {c : Connection (δ × List Noted)} (h : Accounted c) (n : Noted) :
    lost (n :: c.notes) = lost c.notes := by
  cases hrest : c.notes with
  | nil => rfl
  | cons earlier rest =>
    rw [lost, h.passed earlier rest hrest, Bool.and_false, if_neg Bool.false_ne_true, Nat.zero_add]

/-- A call that neither opens nor closes leaves the accounts alone. -/
theorem Accounted.after {c : Connection (δ × List Noted)} (h : Accounted c) (x : δ) {n : Noted}
    (hopens : n.opens = false) (hcloses : n.closes = false) : Accounted (c.after x n) := by
  constructor
  case balance =>
    have hheld : (c.after x n).held = c.held := rfl
    rw [opened_after, closed_after, hopens, hcloses, hheld, notes_after, h.lost_cons]
    exact h.balance
  case passed =>
    intro m rest hnotes
    obtain ⟨rfl, -⟩ := List.cons.inj hnotes
    exact hopens

/-- A call that closes the connection that is held. -/
theorem Accounted.closing {c : Connection (δ × List Noted)} (h : Accounted c)
    (hopen : c.isOpen = true) (x : δ) :
    Accounted { c.after x ⟨.plain .close, none⟩ with isOpen := false } := by
  constructor
  case balance =>
    have hbalance := h.balance
    rw [held_of_open hopen] at hbalance
    have hlost := h.lost_cons ⟨.plain .close, none⟩
    rw [held_of_closed rfl]
    change (c.after x _).opened = (c.after x _).closed + 0 + lost (c.after x _).notes
    rw [opened_after, closed_after, notes_after, hlost]
    simp only [Noted.opens, Noted.closes, if_true, Bool.false_eq_true, if_false]
    omega
  case passed =>
    intro m rest hnotes
    obtain ⟨rfl, -⟩ := List.cons.inj hnotes
    rfl

/-- A connection is held when its first statement succeeds. -/
theorem Accounted.holding {c : Connection (δ × List Noted)} (h : Accounted c)
    (hopen : c.isOpen = false) (x y : δ) (path : String) (readOnly : Bool) :
    Accounted { (c.after x ⟨.connect path readOnly, none⟩).after y
        ⟨.execute firstStatement none, none⟩ with isOpen := true } := by
  constructor
  case balance =>
    have hbalance := h.balance
    rw [held_of_closed hopen] at hbalance
    rw [held_of_open rfl]
    change ((c.after x _).after y _).opened = ((c.after x _).after y _).closed + 1
      + lost (_ :: _ :: c.notes)
    rw [opened_after, opened_after, closed_after, closed_after, lost, h.lost_cons]
    simp only [Noted.opens, Noted.closes, Noted.refusesFirst, Bool.false_and, if_true,
      Bool.false_eq_true, if_false]
    omega
  case passed =>
    intro m rest hnotes
    obtain ⟨rfl, -⟩ := List.cons.inj hnotes
    rfl

/-- It is lost when that is refused. -/
theorem Accounted.losing {c : Connection (δ × List Noted)} (h : Accounted c)
    (hopen : c.isOpen = false) (x y : δ) (path : String) (readOnly : Bool) (r : Refusal) :
    Accounted ((c.after x ⟨.connect path readOnly, none⟩).after y
        ⟨.execute firstStatement none, some r⟩) := by
  constructor
  case balance =>
    have hbalance := h.balance
    rw [held_of_closed hopen] at hbalance
    rw [held_of_closed (by exact hopen), opened_after, opened_after, closed_after, closed_after,
      notes_after, notes_after, lost, h.lost_cons]
    simp only [Noted.opens, Noted.closes, Noted.refusesFirst, beq_self_eq_true, Bool.and_true,
      if_true, Bool.false_eq_true, if_false]
    omega
  case passed =>
    intro m rest hnotes
    obtain ⟨rfl, -⟩ := List.cons.inj hnotes
    rfl

/-! ### What keeps the accounts -/

/-- That an operation leaves the accounts in order. -/
def Accountable (x : Operation (δ × List Noted) α) : Prop :=
  ∀ c, Accounted c → Accounted (perform x c).2

namespace Accountable

theorem pure (a : α) : Accountable (δ := δ) (Pure.pure a) :=
  fun _ h => h

theorem throw (fault : Fault) : Accountable (δ := δ) (α := α) (MonadExcept.throw fault) :=
  fun _ h => h

theorem bind {x : Operation (δ × List Noted) α} {k : α → Operation (δ × List Noted) β}
    (hx : Accountable x) (hk : ∀ a, Accountable (k a)) : Accountable (x >>= k) := by
  intro c hc
  have hx := hx c hc
  rw [perform_bind]
  rcases hrun : perform x c with ⟨result, c'⟩
  rw [hrun] at hx
  cases result with
  | ok a => exact hk a c' hx
  | error fault => exact hx

/-- Calls other than those that open and close connections. -/
theorem callDriver {wrap : String → Fault} {received : Script.Received} {call : Call δ α}
    (hopens : ∀ r, Noted.opens ⟨received, r⟩ = false)
    (hcloses : ∀ r, Noted.closes ⟨received, r⟩ = false) :
    Accountable (Connection.callDriver wrap (noting received call)) := by
  intro c hc
  rcases hcall : call.run.run c.driver.1 with ⟨answer, x⟩
  cases answer with
  | ok a =>
    rw [perform_noting_of_ok hcall]
    exact hc.after x (hopens _) (hcloses _)
  | error r =>
    rw [perform_noting_of_error hcall]
    exact hc.after x (hopens _) (hcloses _)

theorem requireOpen : Accountable (δ := δ) Connection.requireOpen := by
  intro c hc
  cases hopen : c.isOpen with
  | true => rwa [perform_requireOpen_of_open hopen]
  | false => rwa [perform_requireOpen_of_closed hopen]

theorem settled {x : Operation (δ × List Noted) α} (h : Accountable x) :
    Accountable (Connection.settled x : Operation (δ × List Noted) (Except Fault α)) :=
  h

theorem ended {x : Operation (δ × List Noted) α}
    {ending : Except Fault α → Operation (δ × List Noted) Unit} (h : Accountable x)
    (hend : ∀ result, Accountable (ending result)) :
    Accountable (Connection.ended x ending) := by
  refine h.settled.bind fun result => (hend result).bind fun _ => ?_
  cases result with
  | ok a => exact pure a
  | error fault => exact throw fault

theorem connect (d : Driver δ) : Accountable (Connection.connect d.noting) := by
  intro c hc
  cases hopen : c.isOpen with
  | true => rwa [perform_connect_of_open hopen]
  | false =>
    rw [perform_connect_of_closed hopen]
    obtain ⟨r, x, hrun⟩ | ⟨r, x, y, hrun⟩ | ⟨x, y, hrun⟩ :=
      perform_opening_cases d c.path c.readOnly c
    · rw [hrun]
      exact hc.after x rfl rfl
    · rw [hrun]
      exact hc.losing hopen x y c.path c.readOnly r
    · rw [hrun]
      exact hc.holding hopen x y c.path c.readOnly

theorem close (d : Driver δ) : Accountable (Connection.close d.noting) := by
  intro c hc
  cases hopen : c.isOpen with
  | false => rwa [perform_close_of_closed hopen]
  | true =>
    rw [perform_close_of_open hopen]
    obtain ⟨r, x, hrun⟩ | ⟨x, hrun⟩ := perform_closing_cases d c
    · rw [hrun]
      exact hc.after x rfl rfl
    · rw [hrun]
      exact hc.closing hopen x

theorem transaction (d : Driver δ) {x : Operation (δ × List Noted) Unit} (h : Accountable x) :
    Accountable (Transaction.within d.noting id x) := by
  rw [within_id]
  refine (requireOpen.bind fun _ => callDriver (fun _ => rfl) fun _ => rfl).bind fun _ =>
    h.ended fun result => ?_
  cases result with
  | ok a => exact callDriver (fun _ => rfl) fun _ => rfl
  | error fault => exact callDriver (fun _ => rfl) fun _ => rfl

theorem respected (d : Driver δ) :
    RespectedByClients (fun _ x _ => Accountable x) d.noting d.noting where
  pure := pure
  throw _ := throw _
  bind := bind
  requireOpen := requireOpen
  connect := connect d
  close := close d
  execute _ _ _ := callDriver (fun _ => rfl) fun _ => rfl
  start := callDriver (fun _ => rfl) fun _ => rfl
  commit := callDriver (fun _ => rfl) fun _ => rfl
  rollback := callDriver (fun _ => rfl) fun _ => rfl
  whileOpen h := (connect d).bind fun _ => h.ended fun _ => close d
  within := transaction d

end Accountable

end Connection

open Connection

/-- Every client leaves the accounts in order. -/
theorem Client.accountable (d : Driver δ) (client : Client) :
    Accountable (client.operation d.noting) :=
  (Accountable.respected d).client client fun _ _ _ h => h.settled

/-! ### Without a connection -/

/-- Whether an operation uses the connection. -/
def Op.needsConnection : Op → Bool
  | query _ _ | execute _ | createTableAs _ _ | createView _ _ | tableExists _ | tableSchema _
  | start => true
  | connect | close | commit | rollback | executeWithin _ _ => false

/-- That an operation sends nothing and is refused as there is no connection. -/
def RefusedAt (c : Connection δ) (x : Operation δ α) : Prop :=
  perform x c = (.error (.storage "database is not connected"), c)

theorem RefusedAt.bind {c : Connection δ} {x : Operation δ α} (h : RefusedAt c x)
    (k : α → Operation δ β) : RefusedAt c (x >>= k) :=
  perform_bind_of_error h

theorem Op.refusedAt (d : Driver δ) {op : Op} (hop : op.needsConnection = true) {c : Connection δ}
    (hclosed : c.isOpen = false) : RefusedAt c (op.operation d) := by
  have hrequire : RefusedAt c requireOpen := perform_requireOpen_of_closed hclosed
  cases op with
  | query sql args => exact (hrequire.bind _).bind _
  | execute sql => exact hrequire.bind _
  | createTableAs table select => exact hrequire.bind _
  | createView view select => exact hrequire.bind _
  | tableExists table => exact (hrequire.bind _).bind _
  | tableSchema table => exact ((hrequire.bind _).bind _).bind _
  | start => exact hrequire.bind _
  | connect | close | commit | rollback | executeWithin _ _ => cases hop

theorem within_refusedAt (d : Driver δ) (body : Operation δ α) {c : Connection δ}
    (hclosed : c.isOpen = false) : RefusedAt c (Transaction.within d id body) := by
  have hstart : RefusedAt c (Op.start.operation d) := Op.refusedAt d rfl hclosed
  rw [within_id]
  exact hstart.bind _

/-! ### Every run -/

theorem accounted_unused (path : String) (readOnly : Bool) (x : δ) :
    Accounted (unused path readOnly x) :=
  ⟨rfl, nofun⟩

/-- **Whatever a client has done, the connections that were opened are those that were closed,
    the one that is held and those that were lost.**  None is lost if no first statement is
    refused.  What notes are taken of makes no difference to the client.  Connecting does
    nothing when a connection is held, and what needs one sends nothing when none is. -/
theorem Client.accounts (d : Driver δ) (client : Client) (path : String) (readOnly : Bool) (x : δ) :
    let run := perform (client.operation d.noting) (unused path readOnly x)
    let c := run.2
    perform (client.operation d) ⟨path, readOnly, false, x⟩ = (run.1, c.forget)
      ∧ c.opened = c.closed + (if c.isOpen then 1 else 0) + lost c.notes
      ∧ ((∀ n ∈ c.notes, n.refusesFirst = false) →
        c.opened = c.closed + if c.isOpen then 1 else 0)
      ∧ (c.isOpen = true → perform (connect d.noting) c = (.ok (), c))
      ∧ (c.isOpen = false →
        (∀ op : Op, op.needsConnection = true → RefusedAt c (op.operation d.noting))
        ∧ ∀ body : Operation (δ × List Noted) Unit,
          RefusedAt c (Transaction.within d.noting id body)) := by
  intro run c
  have hbalance := (client.accountable d _ (accounted_unused path readOnly x)).balance
  refine ⟨client.follows_noting d (unused path readOnly x), hbalance, ?_, ?_, ?_⟩
  · intro hnone
    rw [lost_eq_zero hnone] at hbalance
    exact hbalance
  · exact perform_connect_of_open
  · intro hclosed
    exact ⟨fun op hop => op.refusedAt _ hop hclosed, fun body => within_refusedAt _ body hclosed⟩

/-- With a driver that refuses nothing: behind the first connecting there is a connection, and
    before it a query is refused. -/
theorem Client.accounts_connect :
    let unconnected := (perform (Client.nothing.operation Script.driver.noting)
      (unused ":memory:" false {})).2
    let connected := (perform ((Client.step .connect).operation Script.driver.noting)
      (unused ":memory:" false {})).2
    unconnected.isOpen = false ∧ Op.needsConnection (.query "SELECT 1" []) = true
      ∧ RefusedAt unconnected ((Op.query "SELECT 1" []).operation Script.driver.noting)
      ∧ (∀ n ∈ connected.notes, n.refusesFirst = false) ∧ connected.isOpen = true
      ∧ connected.opened = connected.closed + 1
      ∧ perform (connect Script.driver.noting) connected = (.ok (), connected) := by
  intro unconnected connected
  have hunconnected := Client.accounts Script.driver .nothing ":memory:" false {}
  have hconnected := Client.accounts Script.driver (.step .connect) ":memory:" false {}
  obtain ⟨-, -, -, -, hrefused⟩ := hunconnected
  obtain ⟨-, -, hbalance, hagain, -⟩ := hconnected
  have hnone : ∀ n ∈ connected.notes, n.refusesFirst = false := by decide
  exact ⟨rfl, rfl, (hrefused rfl).1 (.query "SELECT 1" []) rfl, hnone, rfl, hbalance hnone,
    hagain rfl⟩

/-- A driver that refuses the first statement. -/
def refusingFirst : Script.State where
  rules := [⟨.execute, "SET enable_progress_bar", none, .refuse (.error "boom")⟩]

/-- The connection that was opened is neither held nor closed when its first statement is
    refused. -/
theorem Client.loses_connection :
    let run := perform ((Client.step .connect).operation Script.driver.noting)
      (unused ":memory:" false refusingFirst)
    run.1 = .error (.storage "failed to open database :memory:: boom") ∧ run.2.isOpen = false
      ∧ run.2.opened = 1 ∧ run.2.closed = 0
      ∧ ¬ (run.2.opened : Int) - run.2.closed = if run.2.isOpen then 1 else 0 := by
  intro run
  have hopened : run.2.opened = 1 := by decide +kernel
  have hclosed : run.2.closed = 0 := by decide +kernel
  have hopen : run.2.isOpen = false := by decide +kernel
  refine ⟨by decide +kernel, hopen, hopened, hclosed, ?_⟩
  rw [hopened, hclosed, hopen]
  decide

end SqlPipeline.Storage
