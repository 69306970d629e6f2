/-
  SqlPipeline/Proofs/Project/Variables.lean
  =========================================
  **Which variables a file sets, line by line.**

  A line is cut at its first equals sign, and what stands on both sides is trimmed; so what is
  trimmed off the line first makes no difference (`setting?_append`).  A name may be empty by
  that, and then the file is left at this line: what stands before it is set, what stands
  behind it is not, and nothing is given (`load_byLines`).  A name that can be written in front of an
  equals sign comes back, with whatever value stands behind it in quotes (`load_written`).
-/
import SqlPipeline.Project.Load
import SqlPipeline.Proofs.Entries
import SqlPipeline.Proofs.FileTree.Keeps
import SqlPipeline.Proofs.Text.Cut
import SqlPipeline.Proofs.Text.Lines

namespace SqlPipeline.Environment

open Text

variable {line before after value value' : List Char} {pairs : List (String × String)}
  {env : Environment} {text name v : String} {files : FileTree} {directory : Path}

/-! ### Quotes -/

/-- A quote that may stand around a value. -/
def IsQuote (q : Char) : Prop :=
  q = '"' ∨ q = '\''

/-- That a value is written so: between two equal quotes, or as it is where it has none. -/
inductive IsWritten : List Char → List Char → Prop
  | quoted {q : Char} (hq : IsQuote q) (value : List Char) :
      IsWritten (q :: (value ++ [q])) value
  | bare {value : List Char}
      (h : ∀ q inner, IsQuote q → value ≠ q :: (inner ++ [q])) : IsWritten value value

theorem unquoted_quoted {q : Char} (hq : IsQuote q) (value : List Char) :
    unquoted (q :: (value ++ [q])) = value := by
  have hquote : (q == '"' || q == '\'') = true := by
    rcases hq with rfl | rfl <;> rfl
  simp [unquoted, hquote]

theorem unquoted_bare (h : ∀ q inner, IsQuote q → value ≠ q :: (inner ++ [q])) :
    unquoted value = value := by
  cases value with
  | nil => rfl
  | cons q rest =>
    rw [unquoted]
    split
    · rename_i hquoted
      simp only [Bool.and_eq_true, Bool.or_eq_true, beq_iff_eq] at hquoted
      obtain ⟨hq, hlast⟩ := hquoted
      refine absurd ?_ (h q rest.dropLast hq)
      rw [List.dropLast_append_getLast? q hlast]
    · rfl

theorem isWritten_iff : IsWritten value value' ↔ unquoted value = value' := by
  constructor
  · intro h
    cases h with
    | quoted hq _ => exact unquoted_quoted hq _
    | bare h => exact unquoted_bare h
  · rintro rfl
    by_cases h : ∃ q inner, IsQuote q ∧ value = q :: (inner ++ [q])
    · obtain ⟨q, inner, hq, rfl⟩ := h
      rw [unquoted_quoted hq]
      exact .quoted hq inner
    · have hbare : ∀ q inner, IsQuote q → value ≠ q :: (inner ++ [q]) :=
        fun q inner hq hvalue => h ⟨q, inner, hq, hvalue⟩
      rw [unquoted_bare hbare]
      exact .bare hbare

theorem IsWritten.sublist (h : IsWritten value value') : value'.Sublist value := by
  cases h with
  | quoted _ _ => exact (List.sublist_append_left _ _).cons _
  | bare _ => exact List.Sublist.refl _

/-! ### Lines -/

/-- That a line is a comment, which may have blanks in front. -/
def IsComment (line : List Char) : Prop :=
  ∃ gap rest, (∀ c ∈ gap, isBlank c = true) ∧ line = gap ++ '#' :: rest

/-- That a line sets nothing: it is blank or a comment, or it has no equals sign. -/
def IsIdle (line : List Char) : Prop :=
  (∀ c ∈ line, isBlank c = true) ∨ IsComment line ∨ '=' ∉ line

/-- That a line sets a variable: name and value stand on both sides of its first equals sign. -/
inductive Sets : List Char → String × String → Prop
  | intro {before after value : List Char} (hcomment : ¬ IsComment before) (hname : '=' ∉ before)
      (hvalue : IsWritten (trim after) value) :
      Sets (before ++ '=' :: after) (.ofList (trim before), .ofList value)

/-- That a line has an equals sign, and nothing in front of it. -/
def IsNameless (line : List Char) : Prop :=
  ∃ gap rest, (∀ c ∈ gap, isBlank c = true) ∧ line = gap ++ '=' :: rest

theorem isComment_iff : IsComment line ↔ (trimLeft line).head? = some '#' := by
  constructor
  · rintro ⟨gap, rest, hgap, rfl⟩
    rw [trimLeft_append hgap (by decide)]
    rfl
  · intro h
    obtain ⟨gap, hgap, hline⟩ := exists_append_trimLeft line
    obtain ⟨rest, hrest⟩ := List.head?_eq_some_iff.1 h
    exact ⟨gap, rest, hgap, hrest ▸ hline⟩

/-- A line is taken apart at its first equals sign; what is trimmed off the line before that would
    be trimmed off the parts anyway. -/
theorem setting?_append (hname : '=' ∉ before) (after : List Char) :
    setting? (before ++ '=' :: after)
      = if (trimLeft before).head? = some '#' then none
        else some (.ofList (trim before), .ofList (unquoted (trim after))) := by
  have hleft : '=' ∉ trimLeft before := fun hmem =>
    hname ((List.dropWhile_sublist isBlank).subset hmem)
  have hcut := cutAt?_append hleft (trimRight after)
  have hhead : (trimLeft before ++ '=' :: trimRight after).head? = some '#'
      ↔ (trimLeft before).head? = some '#' := by
    cases trimLeft before <;> simp
  simp only [setting?, trim_append_cons before (show isBlank '=' = false by decide) after,
    beq_iff_eq, hhead, hcut, trim_trimLeft, trim_trimRight]

theorem setting?_of_notMem (h : '=' ∉ line) : setting? line = none := by
  have htrim : '=' ∉ trim line := fun hmem => h ((trim_sublist line).subset hmem)
  simp only [setting?, cutAt?_of_notMem htrim, ite_self]

theorem isComment_append_iff (after : List Char) :
    IsComment (before ++ '=' :: after) ↔ IsComment before := by
  rw [isComment_iff, isComment_iff, trimLeft, trimLeft, List.dropWhile_append]
  split
  · rename_i hempty
    rw [List.isEmpty_iff.1 hempty]
    simp [show isBlank '=' = false by decide]
  · rename_i hempty
    cases hdrop : List.dropWhile isBlank before with
    | nil => simp [hdrop] at hempty
    | cons c rest => rfl

theorem setting?_eq_some_iff {pair : String × String} :
    setting? line = some pair ↔ Sets line pair := by
  constructor
  · intro h
    by_cases hmem : '=' ∈ line
    · obtain ⟨before, after, rfl, hname⟩ := List.eq_append_cons_of_mem hmem
      rw [setting?_append hname] at h
      split at h
      · cases h
      · rename_i hcomment
        obtain rfl := Option.some.inj h
        exact .intro (mt isComment_iff.1 hcomment) hname (isWritten_iff.2 rfl)
    · rw [setting?_of_notMem hmem] at h
      cases h
  · rintro ⟨hcomment, hname, hvalue⟩
    rw [setting?_append hname, if_neg (mt isComment_iff.2 hcomment), isWritten_iff.1 hvalue]

theorem setting?_eq_none_iff : setting? line = none ↔ IsIdle line := by
  constructor
  · intro h
    by_cases hmem : '=' ∈ line
    · obtain ⟨before, after, rfl, hname⟩ := List.eq_append_cons_of_mem hmem
      rw [setting?_append hname] at h
      split at h
      · rename_i hcomment
        exact Or.inr (Or.inl ((isComment_append_iff after).2 (isComment_iff.2 hcomment)))
      · cases h
    · exact Or.inr (Or.inr hmem)
  · intro h
    by_cases hmem : '=' ∈ line
    · obtain ⟨before, after, rfl, hname⟩ := List.eq_append_cons_of_mem hmem
      rcases h with hblank | hcomment | hnone
      · exact absurd (hblank '=' hmem) (by decide)
      · rw [setting?_append hname, if_pos (isComment_iff.1 ((isComment_append_iff after).1 hcomment))]
      · exact absurd hmem hnone
    · exact setting?_of_notMem hmem

theorem trim_eq_nil_iff : trim line = [] ↔ ∀ c ∈ line, isBlank c = true := by
  constructor
  · intro h
    rcases blank_or_visible line with hblank | ⟨gap, c, rest, -, hc, rfl⟩
    · exact hblank
    · rw [trim_append_cons gap hc rest] at h
      simp at h
  · intro h
    obtain ⟨gap, -, hline⟩ := exists_append_trimLeft line
    rw [trim, trimRight_of_blank fun c hc => h c (hline ▸ List.mem_append_right gap hc)]

/-- The lines without a name are those that would set a variable whose name is empty. -/
theorem isNameless_iff : IsNameless line ↔ ∃ v, setting? line = some ("", v) := by
  constructor
  · rintro ⟨gap, rest, hgap, rfl⟩
    have hname : '=' ∉ gap := fun hmem => absurd (hgap '=' hmem) (by decide)
    have hleft : trimLeft gap = [] := List.dropWhile_eq_nil_iff.2 hgap
    rw [setting?_append hname, hleft, if_neg nofun, trim_eq_nil_iff.2 hgap]
    exact ⟨_, rfl⟩
  · rintro ⟨v, hv⟩
    generalize hpair : ("", v) = pair at hv
    obtain ⟨hcomment, hname, hvalue⟩ := setting?_eq_some_iff.1 hv
    have hempty := congrArg (fun pair => pair.1.toList) hpair
    simp only [String.toList_ofList] at hempty
    exact ⟨_, _, trim_eq_nil_iff.1 hempty.symm, rfl⟩

instance : DecidablePred IsNameless := fun line =>
  decidable_of_iff ((setting? line).map (·.1) = some "") <| by
    rw [isNameless_iff]
    cases setting? line <;> simp [Prod.ext_iff]

/-! ### Setting variables -/

/-- That a variable can be set. -/
structure IsSettable (pair : String × String) : Prop where
  named : pair.1 ≠ ""
  noNull : '\x00' ∉ pair.1.toList ∧ '\x00' ∉ pair.2.toList

theorem contains_null_eq_false (h : '\x00' ∉ name.toList) : name.contains '\x00' = false := by
  simpa using h

theorem set_of_settable (h : IsSettable (name, v)) :
    env.set name v = .ok (Entries.insert name v env) := by
  rw [set, contains_null_eq_false h.noNull.1, contains_null_eq_false h.noNull.2]
  simp [h.named]

theorem set_nameless (h : '\x00' ∉ v.toList) : env.set "" v = .error .noName := by
  rw [set, contains_null_eq_false h, contains_null_eq_false List.not_mem_nil]
  rfl

theorem setAll_of_settable (h : ∀ pair ∈ pairs, IsSettable pair) :
    env.setAll pairs = (Entries.overlay env pairs, .ok ()) := by
  induction pairs generalizing env with
  | nil => rfl
  | cons pair pairs ih =>
    obtain ⟨hpair, hpairs⟩ := List.forall_mem_cons.1 h
    rw [setAll, set_of_settable hpair]
    exact ih hpairs

/-- Where a name is empty the variables before stay set, and those behind are not. -/
theorem setAll_stops (h : ∀ pair ∈ pairs, IsSettable pair) (hv : '\x00' ∉ v.toList)
    (later : List (String × String)) :
    env.setAll (pairs ++ ("", v) :: later) = (Entries.overlay env pairs, .error .noName) := by
  induction pairs generalizing env with
  | nil =>
    rw [List.nil_append, setAll, set_nameless hv]
    rfl
  | cons pair pairs ih =>
    obtain ⟨hpair, hpairs⟩ := List.forall_mem_cons.1 h
    rw [List.cons_append, setAll, set_of_settable hpair]
    exact ih hpairs

/-! ### Files -/

/-- The variables that lines set. -/
def variablesOf (lines : List (List Char)) : List (String × String) :=
  lines.filterMap setting?

/-- What is set has no other characters than its line. -/
theorem Sets.noNull {pair : String × String} (h : Sets line pair) (hnull : '\x00' ∉ line) :
    '\x00' ∉ pair.1.toList ∧ '\x00' ∉ pair.2.toList := by
  obtain ⟨-, -, hvalue⟩ := h
  simp only [String.toList_ofList]
  constructor
  · intro hmem
    exact hnull (List.mem_append_left _ ((trim_sublist _).subset hmem))
  · intro hmem
    have hafter := (trim_sublist _).subset (hvalue.sublist.subset hmem)
    exact hnull (List.mem_append_right _ (List.mem_cons_of_mem _ hafter))

theorem isSettable_of_mem {lines : List (List Char)} (hnull : ∀ line ∈ lines, '\x00' ∉ line)
    (hnamed : ∀ line ∈ lines, ¬ IsNameless line) :
    ∀ pair ∈ variablesOf lines, IsSettable pair := by
  intro pair hpair
  obtain ⟨line, hline, hsets⟩ := List.mem_filterMap.1 hpair
  refine ⟨fun hempty => ?_, (setting?_eq_some_iff.1 hsets).noNull (hnull line hline)⟩
  refine hnamed line hline (isNameless_iff.2 ⟨pair.2, ?_⟩)
  rw [hsets, ← hempty]

/-- A file that is read is gone through line by line. -/
theorem load_of_readText (h : files.readText (fileIn directory) = .ok text) :
    env.load files directory
      = match env.setAll (variablesOf (splitLines text.toList)) with
        | (env, .ok ()) => (env, .ok (Entries.overlay [] (variablesOf (splitLines text.toList))))
        | (env, .error e) => (env, .error (.environment e)) := by
  rw [load, FileTree.contains_of_readText h]
  dsimp only
  rw [h]
  rfl

/-- **A file sets the variables of its lines, and it gives them, unless a line has no name.**  Then
    it ends there: the variables of the lines before are set, and those of the lines behind are
    not.  Blank lines, comments and lines without an equals sign are passed over, and of the values
    of one variable the last counts. -/
theorem load_byLines (h : files.readText (fileIn directory) = .ok text)
    (hnull : '\x00' ∉ text.toList) (env : Environment) :
    let lines := splitLines text.toList
    (∀ line, setting? line = none ↔ IsIdle line)
      ∧ (∀ line pair, setting? line = some pair ↔ Sets line pair)
      ∧ ((∀ line ∈ lines, ¬ IsNameless line) → env.load files directory
          = (Entries.overlay env (variablesOf lines), .ok (Entries.overlay [] (variablesOf lines))))
      ∧ (∀ before line after, lines = before ++ line :: after →
          (∀ line ∈ before, ¬ IsNameless line) → IsNameless line → env.load files directory
            = (Entries.overlay env (variablesOf before), .error (.environment .noName)))
      ∧ ∀ (base : Entries String) pairs name, (Entries.overlay base pairs).find? name
          = (Entries.find? pairs.reverse name).or (base.find? name) := by
  intro lines
  have hinside : ∀ line ∈ lines, '\x00' ∉ line := fun line hline hmem =>
    hnull (mem_of_mem_splitLines hline hmem)
  refine ⟨fun line => setting?_eq_none_iff, fun line pair => setting?_eq_some_iff, ?_, ?_,
    Entries.find?_overlay⟩
  · intro hnamed
    rw [load_of_readText h, setAll_of_settable (isSettable_of_mem hinside hnamed)]
  · intro before line after hlines hnamed hline
    obtain ⟨v, hv⟩ := isNameless_iff.1 hline
    have hbefore : ∀ line ∈ before, '\x00' ∉ line := fun line hmem =>
      hinside line (hlines ▸ List.mem_append_left _ hmem)
    have hvalue := ((setting?_eq_some_iff.1 hv).noNull (hinside line (hlines ▸ by simp))).2
    have hvariables : variablesOf (splitLines text.toList)
        = variablesOf before ++ ("", v) :: variablesOf after := by
      change variablesOf lines = _
      rw [hlines, variablesOf, List.filterMap_append, List.filterMap_cons_some hv]
      rfl
    rw [load_of_readText h, hvariables,
      setAll_stops (isSettable_of_mem hbefore hnamed) hvalue]

/-- A project with nothing but a file of variables. -/
def variablesAt (text : String) : FileTree where
  nodes := [(["p"], .directory), (["p", ".env"], .file text.toUTF8.toList)]
  home := []

theorem holds_variablesAt (text : String) :
    (variablesAt text).Holds (fileIn ⟨"/", ["p"]⟩) ["p", ".env"] text := by
  constructor
  · rw [FileTree.locate_eq]
    rfl
  · rfl

/-- Values in quotes, one of them with a quote of its own. -/
def twoValues : String :=
  "# one and two\nA = '1' \n\nA=\"\"2\""

theorem load_byLines_twoValues :
    (variablesAt twoValues).readText (fileIn ⟨"/", ["p"]⟩) = .ok twoValues
      ∧ '\x00' ∉ twoValues.toList
      ∧ (∀ line ∈ splitLines twoValues.toList, ¬ IsNameless line)
      ∧ load (variablesAt twoValues) ⟨"/", ["p"]⟩ [("B", "3")]
        = ([("B", "3"), ("A", "\"2")], .ok [("A", "\"2")]) := by
  have hread := (holds_variablesAt twoValues).readText (by decide +kernel)
  have hnull : '\x00' ∉ twoValues.toList := by decide +kernel
  have hnamed : ∀ line ∈ splitLines twoValues.toList, ¬ IsNameless line := by decide +kernel
  have hvariables : variablesOf (splitLines twoValues.toList) = [("A", "1"), ("A", "\"2")] := by
    decide +kernel
  obtain ⟨-, -, hload, -⟩ := load_byLines hread hnull [("B", "3")]
  refine ⟨hread, hnull, hnamed, ?_⟩
  rw [hload hnamed, hvariables]
  cbv

/-- A line with no name between two with one. -/
def namelessLine : String :=
  "A=1\n=x\nB=2\n"

/-- **A line without a name ends the file with an error,** and what is behind it is not set. -/
theorem nameless_ends :
    (variablesAt namelessLine).readText (fileIn ⟨"/", ["p"]⟩) = .ok namelessLine
      ∧ '\x00' ∉ namelessLine.toList
      ∧ load (variablesAt namelessLine) ⟨"/", ["p"]⟩ []
        = ([("A", "1")], .error (.environment .noName)) := by
  have hread := (holds_variablesAt namelessLine).readText (by decide +kernel)
  have hvariables : variablesOf (splitLines namelessLine.toList)
      = [("A", "1")] ++ ("", "x") :: [("B", "2")] := by decide +kernel
  have hsettable : ∀ pair ∈ [("A", "1")], IsSettable pair := by
    rintro _ (_ | ⟨_, ⟨⟩⟩)
    exact ⟨by decide, by decide, by decide⟩
  refine ⟨hread, by decide +kernel, ?_⟩
  rw [load_of_readText hread, hvariables, setAll_stops hsettable (by decide)]
  rfl

/-! ### Variables that are written -/

/-- That a variable can be written in front of its value: its name starts and ends visibly, and has
    nothing in it that makes a comment of the line or ends the name; and neither name nor value
    goes over the end of a line. -/
structure IsWritable (pair : String × String) : Prop where
  tight : IsTight pair.1.toList
  noComment : pair.1.toList.head? ≠ some '#'
  name : ∀ c ∈ pair.1.toList, c ≠ '=' ∧ c ≠ '\x00' ∧ isLineBoundary c = false
  value : ∀ c ∈ pair.2.toList, c ≠ '\x00' ∧ isLineBoundary c = false

instance : DecidablePred IsWritable := fun pair =>
  decidable_of_iff (IsTight pair.1.toList ∧ pair.1.toList.head? ≠ some '#'
      ∧ (pair.1.toList.all fun c => c ≠ '=' ∧ c ≠ '\x00' ∧ isLineBoundary c = false) = true
      ∧ (pair.2.toList.all fun c => c ≠ '\x00' ∧ isLineBoundary c = false) = true)
    ⟨fun ⟨htight, hcomment, hname, hvalue⟩ =>
        ⟨htight, hcomment, forall_of_all hname, forall_of_all hvalue⟩,
      fun ⟨htight, hcomment, hname, hvalue⟩ => ⟨htight, hcomment,
        List.all_eq_true.2 fun c hc => decide_eq_true (hname c hc),
        List.all_eq_true.2 fun c hc => decide_eq_true (hvalue c hc)⟩⟩

/-- The line of a variable, with the value between double quotes. -/
def lineOf (pair : String × String) : List Char :=
  pair.1.toList ++ '=' :: '"' :: (pair.2.toList ++ ['"'])

/-- The text of a file with one line for each variable.  Each line has an end, whichever that is,
    and one more line may have none. -/
def textOf (lines : List ((String × String) × LineEnd)) (last : Option (String × String)) : String :=
  .ofList (joinLines (lines.map fun (pair, e) => (lineOf pair, e)) (last.map lineOf))

/-- The variables of such a file. -/
def pairsOf (lines : List ((String × String) × LineEnd)) (last : Option (String × String)) :
    List (String × String) :=
  lines.map (·.1) ++ last.toList

variable {pair : String × String}

theorem IsWritable.isLine (h : IsWritable pair) : IsLine (lineOf pair) := by
  refine ⟨by simp [lineOf], fun c hc => ?_⟩
  simp only [lineOf, List.mem_append, List.mem_cons, List.not_mem_nil, or_false] at hc
  rcases hc with hname | rfl | rfl | hvalue | rfl
  · exact (h.name c hname).2.2
  · decide
  · decide
  · exact (h.value c hvalue).2
  · decide

theorem IsWritable.isSettable (h : IsWritable pair) : IsSettable pair := by
  refine ⟨fun hempty => h.tight.1 ?_, fun hmem => ?_, fun hmem => ?_⟩
  · rw [hempty]
    rfl
  · exact (h.name _ hmem).2.1 rfl
  · exact (h.value _ hmem).1 rfl

/-- A line that is written sets its variable. -/
theorem setting?_lineOf (h : IsWritable pair) : setting? (lineOf pair) = some pair := by
  have hname : '=' ∉ pair.1.toList := fun hmem => (h.name _ hmem).1 rfl
  have hquoted : IsTight ('"' :: (pair.2.toList ++ ['"'])) :=
    isTight_iff.2 ⟨⟨_, _, by decide, rfl⟩, '"' :: pair.2.toList, '"', by decide, rfl⟩
  rw [lineOf, setting?_append hname, h.tight.trimLeft, if_neg h.noComment, h.tight.2, hquoted.2,
    unquoted_quoted (Or.inl rfl), String.ofList_toList, String.ofList_toList]

theorem splitLines_textOf {lines : List ((String × String) × LineEnd)}
    {last : Option (String × String)} (h : ∀ pair ∈ pairsOf lines last, IsWritable pair) :
    splitLines (textOf lines last).toList = (pairsOf lines last).map lineOf := by
  rw [textOf, String.toList_ofList, splitLines_joinLines]
  · cases last <;> simp [pairsOf]
  · intro line hline
    obtain ⟨⟨pair, e⟩, hmem, rfl⟩ := List.mem_map.1 hline
    exact (h pair (List.mem_append_left _ (List.mem_map.2 ⟨_, hmem, rfl⟩))).isLine
  · intro line hline
    obtain ⟨pair, rfl, rfl⟩ := Option.map_eq_some_iff.1 hline
    exact (h pair (by simp [pairsOf])).isLine

theorem variablesOf_lineOf {pairs : List (String × String)}
    (h : ∀ pair ∈ pairs, IsWritable pair) : variablesOf (pairs.map lineOf) = pairs := by
  rw [variablesOf, List.filterMap_map]
  refine (List.filterMap_congr fun pair hpair => setting?_lineOf (h pair hpair)).trans ?_
  exact List.filterMap_some

/-- **Variables that are written into a file come back from it,** each with the last of its values:
    they are set and given, and no other variable changes. -/
theorem load_written {place : List String} {lines : List ((String × String) × LineEnd)}
    {last : Option (String × String)} (h : ∀ pair ∈ pairsOf lines last, IsWritable pair)
    (hfile : files.Holds (fileIn directory) place (textOf lines last)) (env : Environment) :
    let last? := Entries.find? (pairsOf lines last).reverse
    ∃ env' loaded, env.load files directory = (env', .ok loaded)
      ∧ loaded.names.Nodup
      ∧ (∀ name, Entries.find? loaded name = last? name)
      ∧ ∀ name, Entries.find? env' name = (last? name).or (Entries.find? env name) := by
  intro last?
  have hlines : splitLines (String.ofList (unifyNewlines (textOf lines last).toList)).toList
      = (pairsOf lines last).map lineOf := by
    rw [String.toList_ofList, splitLines_unifyNewlines, splitLines_textOf h]
  have hempty : (Entries.names ([] : Entries String)).Nodup := List.nodup_nil
  refine ⟨Entries.overlay env (pairsOf lines last), Entries.overlay [] (pairsOf lines last),
    ?_, Entries.nodup_names_overlay hempty _, fun name => ?_, Entries.find?_overlay _ _⟩
  · rw [load_of_readText hfile.readText_unified, hlines, variablesOf_lineOf h,
      setAll_of_settable fun pair hpair => (h pair hpair).isSettable]
  · rw [Entries.find?_overlay, Entries.find?_nil, Option.or_none]

/-- Lines that end in three ways, one of them with a second value for a variable. -/
def threeLines : List ((String × String) × LineEnd) :=
  [(("A", " x=\"#'"), .pair), (("B C", ""), .boundary '\u2028' (by decide))]

theorem load_written_threeLines :
    let last := some ("A", "\"")
    let text := textOf threeLines last
    (∀ pair ∈ pairsOf threeLines last, IsWritable pair)
      ∧ (variablesAt text).Holds (fileIn ⟨"/", ["p"]⟩) ["p", ".env"] text
      ∧ ∃ env' loaded, load (variablesAt text) ⟨"/", ["p"]⟩ [("D", "4")] = (env', .ok loaded)
        ∧ Entries.find? loaded "A" = some "\"" ∧ Entries.find? loaded "B C" = some ""
        ∧ Entries.find? env' "A" = some "\"" ∧ Entries.find? env' "D" = some "4" := by
  intro last text
  have hwritable : ∀ pair ∈ pairsOf threeLines last, IsWritable pair := by decide +kernel
  have hfile := holds_variablesAt text
  obtain ⟨env', loaded, hload, -, hloaded, hset⟩ := load_written hwritable hfile [("D", "4")]
  refine ⟨hwritable, hfile, env', loaded, hload, ?_⟩
  rw [hloaded, hloaded, hset, hset]
  decide +kernel

end SqlPipeline.Environment
