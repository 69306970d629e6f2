/-
  SqlPipeline/Proofs/Template/Plain.lean
  ======================================
  **A text without markers is rendered as it is.**

  Where none of the opening markers stands, the whole text is one stretch of data (`scan_plain`),
  whatever else it holds, and a template that is one stretch of data gives it out and refers to
  nothing (`renderBody_dataBody`).  Line ends are unified before markers are looked for.  That can
  make a marker only if there is a newline in it (`isInfix_of_isInfix_unifyNewlines`).
-/
import SqlPipeline.Proofs.Template.Tracking
import SqlPipeline.Proofs.Text.Cut
import SqlPipeline.Proofs.Text.Lines
import Mathlib

namespace SqlPipeline.Template

open Text Eval

/-! ### Cutting -/

/-- The markers that open something. -/
def Delimiters.markers (d : Delimiters) : List String :=
  [d.exprOpen, d.blockOpen, Delimiters.commentOpen]

/-- That no tag is opened anywhere in a text. -/
def HasNoMarker (d : Delimiters) (s : List Char) : Prop :=
  ∀ marker ∈ d.markers, ¬ marker.toList <:+: s

section Cutting

variable {d : Delimiters} {s : List Char}

theorem dropPattern?_eq_none {marker : List Char} (h : ¬ marker <:+: s) :
    dropPattern? marker s = none := by
  rw [Option.eq_none_iff_forall_not_mem]
  intro rest hrest
  obtain rfl := dropPattern?_eq_some_iff.1 hrest
  exact h (List.prefix_append _ _).isInfix

theorem tagAt?_eq_none (h : HasNoMarker d s) : tagAt? d s = none := by
  have hraw : takeRawOpen? d s = none := by
    rw [takeRawOpen?, dropPattern?_eq_none (h d.blockOpen (by simp [Delimiters.markers]))]
    rfl
  rw [tagAt?, hraw]
  dsimp only
  rw [List.findSome?_eq_none_iff]
  rintro ⟨start, marker⟩ hopener
  have hmarker : ¬ marker <:+: s := by
    rw [Delimiters.openers, List.mem_mergeSort] at hopener
    simp only [List.mem_cons, List.not_mem_nil, or_false, Prod.mk.injEq] at hopener
    rcases hopener with ⟨-, rfl⟩ | ⟨-, rfl⟩ | ⟨-, rfl⟩
    · exact h d.exprOpen (by simp [Delimiters.markers])
    · exact h Delimiters.commentOpen (by simp [Delimiters.markers])
    · exact h d.blockOpen (by simp [Delimiters.markers])
  dsimp only
  rw [dropPattern?_eq_none hmarker]
  rfl

theorem findFirst?_tagAt?_eq_none (h : HasNoMarker d s) : findFirst? (tagAt? d) s = none := by
  induction s with
  | nil => rw [findFirst?, tagAt?_eq_none h, Option.map_none]
  | cons c s ih =>
    rw [findFirst?, tagAt?_eq_none h]
    dsimp only
    rw [ih fun marker hmarker hin => h marker hmarker (List.infix_cons hin), Option.map_none]

/-- **A text without markers is one stretch of data.** -/
theorem scan_plain {text : String} (h : HasNoMarker d (unifyNewlines text.toList)) :
    scan d text = TokenStream.consData (unifyNewlines text.toList) 1 ⟨[], none⟩ := by
  unfold scan
  dsimp only
  unfold scanWithin
  dsimp only
  rw [findFirst?_tagAt?_eq_none h]

end Cutting

/-! ### Reading -/

/-- The statements of a template that is one stretch of data, if there is any. -/
def dataBody (s : List Char) : List Stmt :=
  if s.isEmpty then [] else [.output [.data (.ofList s)]]

theorem parse_plain {d : Delimiters} {text : String}
    (h : HasNoMarker d (unifyNewlines text.toList)) :
    parse d text = .ok (dataBody (unifyNewlines text.toList)) := by
  rw [parse, scan_plain h, TokenStream.consData, dataBody]
  by_cases hempty : (unifyNewlines text.toList).isEmpty = true
  · rw [if_pos hempty, if_pos hempty]
    rfl
  · rw [if_neg hempty, if_neg hempty]
    rfl

theorem firstFault?_dataBody (s : List Char) : vocabulary.firstFault? (dataBody s) = none := by
  rw [dataBody]
  split
  · rfl
  · rfl

theorem read_plain {d : Delimiters} {name text : String} (hd : d.areDistinct = true)
    (h : HasNoMarker d (unifyNewlines text.toList)) :
    read d name text = .ok ⟨name, dataBody (unifyNewlines text.toList)⟩ := by
  rw [read, hd, parse_plain h]
  simp [firstFault?_dataBody]

/-- A text without braces is read as it stands. -/
theorem read_braceless {name text : String} (hbrace : '\x7b' ∉ text.toList)
    (hreturn : '\r' ∉ text.toList) (hempty : text.toList ≠ []) :
    read {} name text = .ok ⟨name, [.output [.data text]]⟩ := by
  have hplain : HasNoMarker {} (unifyNewlines text.toList) := by
    intro marker hmarker hin
    rw [unifyNewlines_of_notMem hreturn] at hin
    -- every tag is opened by a brace
    have hopens : ∀ marker ∈ Delimiters.markers {}, '\x7b' ∈ marker.toList := by decide
    exact hbrace (hin.subset (hopens marker hmarker))
  have hsome : text.toList.isEmpty = false := by
    rwa [← Bool.not_eq_true, List.isEmpty_iff]
  rw [read_plain (by decide) hplain, unifyNewlines_of_notMem hreturn, dataBody, hsome]
  simp only [Bool.false_eq_true, if_false, String.ofList_toList]

/-! ### Rendering -/

theorem renderAll_dataBody (machine : Machine) (env : Env) (s : List Char) (m : Memory) :
    ∃ pieces, renderAll machine env (dataBody s) m = .done pieces m
      ∧ String.join pieces = .ofList s := by
  rw [dataBody]
  by_cases hempty : s.isEmpty = true
  · rw [if_pos hempty, List.isEmpty_iff.1 hempty]
    exact ⟨[], rfl, rfl⟩
  · rw [if_neg hempty]
    exact ⟨[.ofList s], rfl, by simp [String.join]⟩

/-- A template that is one stretch of data mentions no name, so that its scope is empty. -/
theorem ofBody_dataBody (outer : String → Bool) (s : List Char) :
    Scope.ofBody outer [] (dataBody s) = {} := by
  rw [dataBody]
  split
  · rfl
  · rfl

theorem usesFree_dataBody (name : String) (s : List Char) :
    usesFree name (mentionsOfAll (dataBody s)) = false := by
  rw [dataBody]
  split
  · rfl
  · rfl

/-- A template that is one stretch of data gives it out, and refers to nothing. -/
theorem renderBody_dataBody (scene : Scene) (depth : Nat) (data : Entries Data) (s : List Char)
    (m : Memory) : ∃ m', renderBody (.ofDepth scene (depth + 1)) data (dataBody s) m
      = .done (.ofList s) m' := by
  obtain ⟨given, m₁, hgiven⟩ := startVariables_succeeds data m
  obtain ⟨⟨⟩, m₂, hvars⟩ := modify_succeeds (fun s => { s with vars := #[⟨given, []⟩] }) m₁
  obtain ⟨env, m₃, henter⟩ : ∃ env m₃, enterWith ⟨[], 0, false, true⟩ (fun _ => {})
      [("self", .self)] m₂ = .done env m₃ := ⟨_, _, rfl⟩
  obtain ⟨pieces, hpieces, hjoin⟩ :=
    renderAll_dataBody (.ofDepth scene depth) { env with isTop := true } s m₃
  refine ⟨m₃, ?_⟩
  rw [renderBody, bind_of_done hgiven, bind_of_done hvars, usesFree_dataBody]
  simp only [Bool.false_eq_true, if_false, ofBody_dataBody]
  rw [bind_of_done henter]
  have hrender : (Machine.ofDepth scene (depth + 1)).render { env with isTop := true } (dataBody s)
      = renderAll (.ofDepth scene depth) { env with isTop := true } (dataBody s) := rfl
  rw [hrender, bind_of_done hpieces, hjoin]
  rfl

/-- Whoever listens, a template that is one stretch of data gives it out and asks for nothing. -/
theorem renderTo_dataBody (name : String) (s : List Char) (c : Context)
    (environment : Entries String) (data : Entries Data) :
    ∃ left, ∀ audience, renderTo ⟨name, dataBody s⟩ audience c environment data
      = (⟨.ok (.ofList s), [], left, false, false⟩, []) := by
  obtain ⟨scene, m, hrender⟩ := exists_renderTo_eq ⟨name, dataBody s⟩ c environment data
  obtain ⟨m', hbody⟩ : ∃ m', renderBody (.ofDepth scene depthLimit) data (dataBody s) m
      = .done (.ofList s) m' := renderBody_dataBody scene 2999 data s m
  refine ⟨(Rendering.ofStore c scene ⟨m', { outside := c.outside }⟩ (.ok (.ofList s))).context,
    fun audience => ?_⟩
  have hrendered := hrender audience c.outside _ rfl
  rw [hbody] at hrendered
  exact hrendered

/-- **A text without markers is a template, and is rendered as it is,** its line ends apart: each
    carriage return, with a newline behind it or alone, is one newline.  Whatever the context and
    the data are, nothing is referred to or comes by chance, and a collector is left as it was.  A
    marker that has a newline in it must not come up in the unified line ends either. -/
theorem render_plain (d : Delimiters) (hd : d.areDistinct = true) (name text : String)
    (hplain : ∀ marker ∈ d.markers, ¬ marker.toList <:+: text.toList
      ∧ ('\n' ∈ marker.toList → ¬ marker.toList <:+: unifyNewlines text.toList)) :
    ∃ t, read d name text = .ok t ∧ t.name = name
      ∧ ∀ (c : Context) (environment : Entries String) (data : Entries Data),
        ∃ left, t.render c environment data
            = ⟨.ok (.ofList (unifyNewlines text.toList)), [], left, false, false⟩
          ∧ ∀ collector, t.renderTracked c environment data collector
            = (⟨.ok (.ofList (unifyNewlines text.toList)), [], left, false, false⟩, collector) := by
  have hnone : HasNoMarker d (unifyNewlines text.toList) := by
    intro marker hmarker hin
    obtain ⟨hraw, hunified⟩ := hplain marker hmarker
    by_cases hnewline : '\n' ∈ marker.toList
    · exact hunified hnewline hin
    · exact hraw (isInfix_of_isInfix_unifyNewlines hnewline hin)
  refine ⟨_, read_plain hd hnone, rfl, fun c environment data => ?_⟩
  obtain ⟨left, hleft⟩ := renderTo_dataBody name (unifyNewlines text.toList) c environment data
  refine ⟨left, congrArg Prod.fst (hleft none), fun collector => ?_⟩
  unfold renderTracked
  rw [hleft]
  rfl

theorem render_plain_default :
    Delimiters.areDistinct {} = true
      ∧ (∀ marker ∈ Delimiters.markers {}, ¬ marker.toList <:+: "a \x7d\x7d\r\n\x7b\r".toList
        ∧ ('\n' ∈ marker.toList →
          ¬ marker.toList <:+: unifyNewlines "a \x7d\x7d\r\n\x7b\r".toList))
      ∧ ∃ t, read {} "t" "a \x7d\x7d\r\n\x7b\r" = .ok t ∧ t.name = "t"
        ∧ ∀ (c : Context) (environment : Entries String) (data : Entries Data),
          ∃ left, t.render c environment data
              = ⟨.ok "a \x7d\x7d\n\x7b\n", [], left, false, false⟩
            ∧ ∀ collector, t.renderTracked c environment data collector
              = (⟨.ok "a \x7d\x7d\n\x7b\n", [], left, false, false⟩, collector) := by
  have hd : Delimiters.areDistinct {} = true := by decide
  have hplain : ∀ marker ∈ Delimiters.markers {},
      ¬ marker.toList <:+: "a \x7d\x7d\r\n\x7b\r".toList
        ∧ ('\n' ∈ marker.toList →
          ¬ marker.toList <:+: unifyNewlines "a \x7d\x7d\r\n\x7b\r".toList) := by
    decide +kernel
  have hunified : String.ofList (unifyNewlines "a \x7d\x7d\r\n\x7b\r".toList)
      = "a \x7d\x7d\n\x7b\n" := by decide +kernel
  have hrendered := render_plain {} hd "t" "a \x7d\x7d\r\n\x7b\r" hplain
  rw [hunified] at hrendered
  exact ⟨hd, hplain, hrendered⟩

/-- A marker with a newline in it comes up where a carriage return stands in the text. -/
theorem newline_in_marker :
    Delimiters.areDistinct ⟨"\n[", "]", "\x7b%", "%\x7d"⟩ = true
      ∧ (∀ marker ∈ Delimiters.markers ⟨"\n[", "]", "\x7b%", "%\x7d"⟩,
        ¬ marker.toList <:+: "a\r[b]".toList)
      ∧ ∃ t, read ⟨"\n[", "]", "\x7b%", "%\x7d"⟩ "t" "a\r[b]" = .ok t
        ∧ (t.render {} [] []).result = .error (.failed "t" ⟨.undefined, "'b' is undefined"⟩) := by
  refine ⟨by decide, by decide +kernel, ?_⟩
  have hread : read ⟨"\n[", "]", "\x7b%", "%\x7d"⟩ "t" "a\r[b]"
      = .ok ⟨"t", [.output [.data "a", .expr (.name "b" 2)]]⟩ := by cbv
  exact ⟨_, hread, rfl⟩

end SqlPipeline.Template
