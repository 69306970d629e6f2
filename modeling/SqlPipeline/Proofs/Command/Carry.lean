/-
  SqlPipeline/Proofs/Command/Carry.lean
  =====================================
  **What a task gives, and what it leaves behind.**

  A task ends with a result and leaves a desk, of which the connection and the files matter to
  what follows (`Ends`).  A block on an open connection ends as its body does, if the connection
  can be opened and closed (`Ends.whileOpen`).
-/
import SqlPipeline.Command.Desk
import SqlPipeline.Proofs.Console.Escape
import SqlPipeline.Proofs.Storage.Operation

namespace SqlPipeline.Task

open Storage

variable {δ α β : Type}

/-- What a task gives, and the desk that it leaves. -/
def perform (x : Task δ α) (desk : Desk δ) : Except Stop α × Desk δ :=
  x.run.run desk

theorem perform_bind (x : Task δ α) (k : α → Task δ β) (desk : Desk δ) :
    perform (x >>= k) desk = match perform x desk with
      | (.ok a, desk) => perform (k a) desk
      | (.error stop, desk) => (.error stop, desk) := by
  rcases hx : perform x desk with ⟨stop | a, next⟩
  · exact run_bind_of_error hx
  · exact run_bind_of_ok hx

theorem perform_get_bind (k : Desk δ → Task δ α) (desk : Desk δ) :
    perform (get >>= k) desk = perform (k desk) desk := rfl

theorem perform_map (f : α → β) (x : Task δ α) (desk : Desk δ) :
    perform (f <$> x) desk = ((perform x desk).1.map f, (perform x desk).2) := by
  rw [map_eq_pure_bind, perform_bind]
  rcases perform x desk with ⟨_ | _, next⟩ <;> rfl

theorem perform_orRaise {ε : Type} (problem : ε → Problem) (result : Except ε α) (desk : Desk δ) :
    perform (orRaise problem result) desk
      = (result.mapError fun e => .raised (problem e), desk) := by
  cases result <;> rfl

/-- What goes on to a result goes on from the desk that its first part leaves. -/
theorem exists_perform_bind {x : Task δ α} {k : α → Task δ β} {desk : Desk δ} {b : β}
    (h : (perform (x >>= k) desk).1 = .ok b) :
    ∃ a next, perform x desk = (.ok a, next) ∧ perform (x >>= k) desk = perform (k a) next := by
  rw [perform_bind] at h ⊢
  rcases hx : perform x desk with ⟨stop | a, next⟩
  · rw [hx] at h
    cases h
  · exact ⟨a, next, rfl, rfl⟩

theorem perform_settled (x : Task δ α) (desk : Desk δ) :
    perform (Connection.settled x : Task δ (Except Stop α)) desk
      = (.ok (perform x desk).1, (perform x desk).2) := rfl

theorem perform_say (s : String) (desk : Desk δ) :
    perform (say s) desk = match Console.Markup.shown desk.pictures s with
      | .ok t => (.ok (), { desk with printed := desk.printed ++ [Console.printed t] })
      | .error e => (.error (.raised (.markup e)), desk) := by
  have hsay : perform (say s) desk = perform (do
      let shown ← orRaise .markup (Console.Markup.shown desk.pictures s)
      sayPlain shown) desk := rfl
  rw [hsay]
  cases Console.Markup.shown desk.pictures s with
  | ok t => rfl
  | error e => rfl

/-- Whether a text can be printed depends on its marks alone. -/
theorem exists_perform_say {s t : String} (h : Console.Markup.plain s = .ok t) (desk : Desk δ) :
    ∃ u, perform (say s) desk
      = (.ok (), { desk with printed := desk.printed ++ [Console.printed u] }) := by
  obtain ⟨u, hu⟩ := Console.Markup.exists_shown_of_plain desk.pictures h
  refine ⟨u, ?_⟩
  rw [perform_say, hu]

theorem perform_say_of_error {s : String} {e : Console.MarkupError}
    (h : Console.Markup.plain s = .error e) (desk : Desk δ) :
    perform (say s) desk = (.error (.raised (.markup e)), desk) := by
  rw [perform_say, Console.Markup.shown_of_plain_error desk.pictures h]

/-- What is given up ends as failed and has changed no file. -/
theorem perform_giveUp (message : String) (desk : Desk δ) :
    ∃ stop, (perform (giveUp message : Task δ α) desk).1 = .error stop ∧ stop.code = 1
      ∧ (perform (giveUp message : Task δ α) desk).2.files = desk.files := by
  rw [giveUp, perform_bind, sayError, perform_say]
  cases Console.Markup.shown desk.pictures ("[red]" ++ message ++ "[/red]") with
  | ok t => exact ⟨_, rfl, rfl, rfl⟩
  | error e => exact ⟨_, rfl, rfl, rfl⟩

/-- That a task ends with a result, leaves a connection, and changes no file. -/
structure Ends (x : Task δ α) (desk : Desk δ) (result : Except Stop α) (c : Connection δ) :
    Prop where
  result : (perform x desk).1 = result
  connection : (perform x desk).2.connection = c
  files : (perform x desk).2.files = desk.files

namespace Ends

variable {desk : Desk δ} {c c' : Connection δ}

theorem pure (a : α) : Ends (δ := δ) (Pure.pure a) desk (.ok a) desk.connection :=
  ⟨rfl, rfl, rfl⟩

theorem throw (stop : Stop) :
    Ends (δ := δ) (α := α) (MonadExcept.throw stop) desk (.error stop) desk.connection :=
  ⟨rfl, rfl, rfl⟩

theorem congr {x y : Task δ α} {result : Except Stop α} (h : perform x desk = perform y desk)
    (hy : Ends y desk result c) : Ends x desk result c :=
  ⟨h ▸ hy.result, h ▸ hy.connection, h ▸ hy.files⟩

/-- What follows a task starts from the desk that it leaves. -/
theorem exists_next {x : Task δ α} {a : α} (hx : Ends x desk (.ok a) c) :
    ∃ next : Desk δ, next.connection = c ∧ next.files = desk.files
      ∧ ∀ k : α → Task δ β, perform (x >>= k) desk = perform (k a) next := by
  obtain ⟨hresult, hconnection, hfiles⟩ := hx
  refine ⟨(perform x desk).2, hconnection, hfiles, fun k => ?_⟩
  rw [perform_bind]
  rcases hrun : perform x desk with ⟨r, next⟩
  rw [hrun] at hresult
  obtain rfl : r = .ok a := hresult
  rfl

theorem bind {x : Task δ α} {k : α → Task δ β} {a : α} {result : Except Stop β}
    (hx : Ends x desk (.ok a) c)
    (hk : ∀ next : Desk δ, next.connection = c → next.files = desk.files →
      Ends (k a) next result c') : Ends (x >>= k) desk result c' := by
  obtain ⟨next, hconnection, hfiles, hrun⟩ := hx.exists_next (β := β)
  have hk := hk next hconnection hfiles
  exact ⟨hrun k ▸ hk.result, hrun k ▸ hk.connection, hrun k ▸ hk.files.trans hfiles⟩

/-- Tasks that leave the connection alone do so together. -/
theorem bind_alone {x : Task δ α} {k : α → Task δ β} {a : α} {result : Except Stop β}
    (hx : Ends x desk (.ok a) desk.connection)
    (hk : ∀ next : Desk δ, Ends (k a) next result next.connection) :
    Ends (x >>= k) desk result desk.connection :=
  hx.bind fun next hnext _ => hnext ▸ hk next

theorem bind_error {x : Task δ α} {stop : Stop} (hx : Ends x desk (.error stop) c)
    (k : α → Task δ β) : Ends (x >>= k) desk (.error stop) c := by
  obtain ⟨hresult, hconnection, hfiles⟩ := hx
  have hrun := perform_bind x k desk
  rcases hx : perform x desk with ⟨r, next⟩
  rw [hx] at hrun hresult hconnection hfiles
  obtain rfl : r = .error stop := hresult
  exact ⟨hrun ▸ rfl, hrun ▸ hconnection, hrun ▸ hfiles⟩

theorem note (entries : List Log.Entry) : Ends (Task.note entries) desk (.ok ()) desk.connection :=
  ⟨rfl, rfl, rfl⟩

theorem say {s t : String} (h : Console.Markup.plain s = .ok t) :
    Ends (Task.say s) desk (.ok ()) desk.connection := by
  obtain ⟨u, hrun⟩ := exists_perform_say h desk
  exact ⟨hrun ▸ rfl, hrun ▸ rfl, hrun ▸ rfl⟩

theorem say_error {s : String} {e : Console.MarkupError} (h : Console.Markup.plain s = .error e) :
    Ends (Task.say s) desk (.error (.raised (.markup e))) desk.connection := by
  have hrun := perform_say_of_error h desk
  exact ⟨hrun ▸ rfl, hrun ▸ rfl, hrun ▸ rfl⟩

end Ends

/-! ### Lines in front of a result -/

/-- What a task gives that prints a line before. -/
def afterLine (line : String) (b : Bool) : Except Stop Bool :=
  match Console.Markup.plain line with
  | .ok _ => .ok b
  | .error e => .error (.raised (.markup e))

theorem eq_of_afterLine {line : String} {b b' : Bool} (h : afterLine line b = .ok b') : b' = b := by
  unfold afterLine at h
  split at h
  · exact (Except.ok.inj h).symm
  · cases h

theorem Ends.sayAfter (line : String) (b : Bool) (desk : Desk δ) :
    Ends (do Task.say line; return b) desk (afterLine line b) desk.connection := by
  unfold afterLine
  cases hline : Console.Markup.plain line with
  | error e => exact Ends.bind_error (Ends.say_error hline) _
  | ok t => exact (Ends.say hline).bind_alone fun _ => Ends.pure b

theorem toList_enclosed (message : String) : ("[red]" ++ message ++ "[/red]").toList
    = Console.Markup.inStyle "red".toList message.toList := by
  simp only [String.toList_append, Console.Markup.inStyle, List.append_assoc]
  rfl

/-- A message in which brackets have no meaning is printed, whatever it is. -/
theorem Ends.sayErrorAsIs (message : String) (desk : Desk δ) :
    Ends (Task.sayErrorAsIs message) desk (.ok ()) desk.connection := by
  have hlegible : Console.Markup.Legible []
      ("[red]" ++ Console.Markup.escape message ++ "[/red]").toList := by
    rw [toList_enclosed]
    exact Console.Markup.legible_inStyle Console.Markup.isStyle_red message
  obtain ⟨t, ht⟩ := Console.Markup.exists_plain_of_legible hlegible
  exact Ends.say ht

theorem eq_of_sayErrorAsIs {message : String} {b b' : Bool} {desk : Desk δ}
    (h : (perform (do sayErrorAsIs message; return b) desk).1 = .ok b') : b' = b := by
  have hends : Ends (do sayErrorAsIs message; return b) desk (.ok b) desk.connection :=
    (Ends.sayErrorAsIs message desk).bind_alone fun _ => Ends.pure b
  exact Except.ok.inj (h.symm.trans hends.result)

/-! ### Blocks -/

/-- The connection to the database at a path, before it is opened. -/
def unopened (path : String) (c : Connection δ) : Connection δ :=
  { path := path, driver := c.driver }

theorem perform_withConnection (op : Operation δ α) (desk : Desk δ) :
    perform (withConnection .store op) desk
      = match Connection.perform op desk.connection with
        | (.error fault, c) => (.error (.raised (.store fault)), { desk with connection := c })
        | (.ok a, c) => (.ok a, { desk with connection := c }) := by
  have hrun : perform (withConnection .store op) desk
      = perform (orRaise .store (Connection.perform op desk.connection).1)
          { desk with connection := (Connection.perform op desk.connection).2 } := rfl
  rw [hrun]
  obtain ⟨result, c⟩ := Connection.perform op desk.connection
  cases result with
  | ok a => rfl
  | error fault => rfl

theorem perform_whileOpen (d : Driver δ) (path : String) (body : Task δ α) (desk : Desk δ) :
    perform (whileOpen d path body) desk
      = match Connection.perform (Connection.connect d) (unopened path desk.connection) with
        | (.error fault, c) => (.error (.raised (.store fault)), { desk with connection := c })
        | (.ok _, c) =>
            let (result, next) := perform body { desk with connection := c }
            match Connection.perform (Connection.close d) next.connection with
            | (.error fault, c) => (.error (.raised (.store fault)), { next with connection := c })
            | (.ok _, c) => (result, { next with connection := c }) := by
  have hpath : perform (modify fun desk : Desk δ => { desk with
      connection := { path := path, driver := desk.connection.driver } }) desk
      = (.ok (), { desk with connection := unopened path desk.connection }) := rfl
  rw [whileOpen, perform_bind, hpath]
  dsimp only
  rw [perform_bind, perform_withConnection]
  rcases Connection.perform (Connection.connect d) (unopened path desk.connection) with ⟨_ | _, c⟩
  · rfl
  · dsimp only
    rw [perform_bind, perform_settled]
    obtain ⟨result, next⟩ := perform body { desk with connection := c }
    dsimp only
    rw [perform_bind, perform_withConnection]
    rcases Connection.perform (Connection.close d) next.connection with ⟨_ | _, c⟩
    · rfl
    · cases result with
      | ok a => rfl
      | error stop => rfl

theorem perform_unlessRefused (instead : α) (body : Task δ α) (desk : Desk δ) :
    perform (unlessRefused instead body) desk
      = match perform body desk with
        | (.ok a, next) => (.ok a, next)
        | (.error (.raised (.store (.storage message))), next) =>
            perform (do sayErrorAsIs message; return instead) next
        | (.error stop, next) => (.error stop, next) := by
  rw [unlessRefused, perform_bind, perform_settled]
  obtain ⟨result, next⟩ := perform body desk
  cases result with
  | ok a => rfl
  | error stop =>
    cases stop with
    | exit _ => rfl
    | usage _ => rfl
    | raised problem =>
      cases problem with
      | store fault => cases fault <;> rfl
      | _ => rfl

theorem Ends.whileOpen {d : Driver δ} {path : String} {body : Task δ α} {desk : Desk δ}
    {c c' c'' : Connection δ} {result : Except Stop α}
    (hconnect : Connection.perform (Connection.connect d) (unopened path desk.connection)
      = (.ok (), c))
    (hbody : Ends body { desk with connection := c } result c')
    (hclose : Connection.perform (Connection.close d) c' = (.ok (), c'')) :
    Ends (Task.whileOpen d path body) desk result c'' := by
  have hrun := perform_whileOpen d path body desk
  obtain ⟨hresult, hconnection, hfiles⟩ := hbody
  rw [hconnect] at hrun
  dsimp only at hrun
  rcases hnext : perform body { desk with connection := c } with ⟨result', next⟩
  rw [hnext] at hrun hresult hconnection hfiles
  dsimp only at hrun hresult hconnection hfiles
  rw [hconnection, hclose] at hrun
  exact ⟨hrun ▸ hresult, hrun ▸ rfl, hrun ▸ hfiles⟩

/-- What a block gives, its body has given on an open connection that could be closed. -/
theorem exists_of_whileOpen {d : Driver δ} {path : String} {body : Task δ α} {desk : Desk δ} {a : α}
    (h : (perform (whileOpen d path body) desk).1 = .ok a) :
    ∃ c c', Connection.perform (Connection.connect d) (unopened path desk.connection) = (.ok (), c)
      ∧ (perform body { desk with connection := c }).1 = .ok a
      ∧ Connection.perform (Connection.close d)
          (perform body { desk with connection := c }).2.connection = (.ok (), c') := by
  rw [perform_whileOpen] at h
  rcases hconnect : Connection.perform (Connection.connect d) (unopened path desk.connection)
    with ⟨_ | _, c⟩
  · rw [hconnect] at h
    cases h
  · rw [hconnect] at h
    dsimp only at h
    rcases hnext : perform body { desk with connection := c } with ⟨result, next⟩
    rw [hnext] at h
    dsimp only at h
    rcases hclose : Connection.perform (Connection.close d) next.connection with ⟨_ | _, c'⟩
    · rw [hclose] at h
      cases h
    · rw [hclose] at h
      refine ⟨c, c', rfl, ?_⟩
      rw [hnext]
      exact ⟨h, hclose⟩

theorem Ends.unlessRefused {body : Task δ α} {desk : Desk δ} {a : α} {c : Connection δ}
    (h : Ends body desk (.ok a) c) (instead : α) :
    Ends (Task.unlessRefused instead body) desk (.ok a) c := by
  have hrun := perform_unlessRefused instead body desk
  obtain ⟨hresult, hconnection, hfiles⟩ := h
  rcases hnext : perform body desk with ⟨result, next⟩
  rw [hnext] at hrun hresult hconnection hfiles
  obtain rfl : result = .ok a := hresult
  exact ⟨hrun ▸ rfl, hrun ▸ hconnection, hrun ▸ hfiles⟩

theorem eq_true_of_unlessRefused {body : Task δ Bool} {desk : Desk δ}
    (h : (perform (unlessRefused false body) desk).1 = .ok true) :
    (perform body desk).1 = .ok true := by
  rw [perform_unlessRefused] at h
  split at h
  · rename_i hbody
    rw [hbody]
    exact h
  · exact absurd (eq_of_sayErrorAsIs h) (by decide)
  · cases h

end SqlPipeline.Task
