/-
  SqlPipeline/Proofs/Project/Laid.lean
  ====================================
  **What making a project does to the files.**

  Either nothing is changed, or the files of the project are laid into its directory
  (`makeProject_lays`): the settings, the list for version control and the samples are written
  whatever was there, and everything else that was there stays, the file of variables with it.

  The check for something in the directory is made before any directory is, so it must be known
  then where the path leads.  A path such as `a/../b` leads nowhere until `a` has been made, and
  then to what has stood in `b` all along.
-/
import SqlPipeline.Proofs.FileTree.Way
import SqlPipeline.Proofs.Project.Scaffold

namespace SqlPipeline.Scaffold

open FileTree

variable {t t' : FileTree} {p : Path} {name : String} {empty : Bool} {root q : List String}
  {n : FileNode} {step : FileStep}

/-! ### The steps -/

/-- The directories of a project, by their parts below its own. -/
def directoriesOf (empty : Bool) : List (List String) :=
  ["models"] :: ["seeds"] ::
    (samplesFor empty).map fun (path, _) => (Path.ofText path).parent.parts

/-- The files of a project that are written whatever was there, by their parts. -/
def filesOf (name : String) (empty : Bool) : List (List String × String) :=
  ([Project.fileName], settings name) :: ([".gitignore"], ignored) ::
    (samplesFor empty).map fun (path, text) => ((Path.ofText path).parts, text)

/-- The parts of the files of a project. -/
def filePartsOf (empty : Bool) : List (List String) :=
  [".env"] :: (filesOf "" empty).map Prod.fst

theorem parts_of_mem_filesOf {file : List String × String} (h : file ∈ filesOf name empty) :
    file.1 ∈ filePartsOf empty := by
  rw [filesOf, List.mem_cons, List.mem_cons] at h
  rw [filePartsOf, filesOf, List.map_cons, List.map_cons]
  rcases h with rfl | rfl | h
  · simp
  · simp
  · exact List.mem_cons_of_mem _ (List.mem_cons_of_mem _ (List.mem_cons_of_mem _
      (List.mem_map_of_mem h)))

theorem directoriesOf_eq (empty : Bool) : directoriesOf empty = if empty then [["models"], ["seeds"]]
    else [["models"], ["seeds"], ["seeds"], ["models", "staging"], ["models", "marts"],
      ["models", "marts"]] := by
  cases empty <;> rfl

theorem filePartsOf_eq (empty : Bool) : filePartsOf empty
    = if empty then [[".env"], ["project.yml"], [".gitignore"]]
      else [[".env"], ["project.yml"], [".gitignore"], ["seeds", "raw_orders.csv"],
        ["models", "staging", "stg_orders.sql"], ["models", "marts", "orders.sql"],
        ["models", "marts", "customer_revenue.sql"]] := by
  cases empty <;> rfl

theorem nodup_fileParts (name : String) (empty : Bool) :
    ([".env"] :: (filesOf name empty).map Prod.fst).Nodup := by
  have hparts : [".env"] :: (filesOf name empty).map Prod.fst = filePartsOf empty := by
    simp only [filePartsOf, filesOf, List.map_cons]
  rw [hparts, filePartsOf_eq]
  cases empty <;> decide

theorem notUp_of_mem_directoriesOf : ∀ parts ∈ directoriesOf empty, ".." ∉ parts := by
  rw [directoriesOf_eq]
  cases empty <;> decide

theorem named_of_mem_filePartsOf : ∀ parts ∈ filePartsOf empty, ".." ∉ parts ∧ parts ≠ [] := by
  rw [filePartsOf_eq]
  cases empty <;> decide

theorem not_prefix_of_mem : ∀ file ∈ filePartsOf empty, ∀ parts ∈ directoriesOf empty,
    ¬ file <+: parts := by
  rw [filePartsOf_eq, directoriesOf_eq]
  cases empty <;> decide

theorem mem_samples_of_mem_samplesFor {sample : String × String} (h : sample ∈ samplesFor empty) :
    sample ∈ samples := by
  cases empty with
  | true => cases h
  | false => exact h

theorem stepsFor_sample {sample : String × String} (hsample : sample ∈ samplesFor empty) (p : Path) :
    [.directory (p.join (.ofText sample.1)).parent, .file (p.join (.ofText sample.1)) sample.2]
      = [FileStep.directory (below p (Path.ofText sample.1).parent.parts),
        .file (below p (Path.ofText sample.1).parts) sample.2] := by
  obtain ⟨hroot, hlength, -⟩ := samples_within sample (mem_samples_of_mem_samplesFor hsample)
  have hjoin : p.join (.ofText sample.1) = below p (Path.ofText sample.1).parts := by
    rw [Path.join, Path.isAbsolute, hroot]
    rfl
  have hparts : (Path.ofText sample.1).parts ≠ [] := by
    rintro hnil
    rw [hnil] at hlength
    exact absurd hlength (by decide)
  rw [hjoin, Path.parent, below, below, Path.parent, List.dropLast_append_of_ne_nil hparts]

/-- The steps, in the directories and the files that they are for. -/
theorem steps_eq (p : Path) (name : String) (empty : Bool) : steps p name empty
    = [.directory (below p ["models"]), .directory (below p ["seeds"]),
        .file (below p [Project.fileName]) (settings name), .file (below p [".gitignore"]) ignored,
        .newFile (below p [".env"]) variablesFile]
      ++ (samplesFor empty).flatMap fun (path, text) =>
        [.directory (below p (Path.ofText path).parent.parts),
          .file (below p (Path.ofText path).parts) text] := by
  rw [steps]
  exact congrArg _ (List.flatMap_congr fun sample hsample => stepsFor_sample hsample p)

theorem mem_steps : step ∈ steps p name empty
    ↔ (∃ parts ∈ directoriesOf empty, step = .directory (below p parts))
      ∨ (∃ file ∈ filesOf name empty, step = .file (below p file.1) file.2)
      ∨ step = .newFile (below p [".env"]) variablesFile := by
  rw [steps_eq, directoriesOf, filesOf]
  simp only [List.mem_append, List.mem_cons, List.mem_flatMap, List.mem_map, List.not_mem_nil,
    or_false, exists_eq_or_imp, exists_exists_and_eq_and, and_or_left, exists_or]
  have hregroup : ∀ {a b c d e f g : Prop},
      (a ∨ b ∨ c ∨ d ∨ e) ∨ f ∨ g ↔ (a ∨ b ∨ f) ∨ (c ∨ d ∨ g) ∨ e := by
    tauto
  exact hregroup

/-! ### What is in their way -/

/-- That nothing is in the way of a project at a path: no file where a directory belongs and no
    directory where a file belongs. -/
structure CanHold (t : FileTree) (p : Path) (empty : Bool) : Prop where
  closed : t.IsClosed
  straight : t.IsStraight p
  fits : ∀ parts ∈ directoriesOf empty ++ filePartsOf empty, Fits (below p parts)
  clear : ∀ parts ∈ directoriesOf empty, t.IsClear (below p parts)
  free : ∀ parts ∈ filePartsOf empty, t.node? (t.placeOf p ++ parts) ≠ some .directory

/-- No file stands on the way to a directory. -/
theorem CanHold.apart (h : CanHold t p empty) {file parts : List String}
    (hfile : file ∈ filePartsOf empty) (hparts : parts ∈ directoriesOf empty) :
    t.placeOf p ++ file ∉ t.way (below p parts) := by
  intro hmem
  rcases (mem_way_below (notUp_of_mem_directoriesOf parts hparts)).1 hmem with hmem | ⟨more, -, hprefix, heq⟩
  · rcases h.straight _ hmem with hprefix | hdirectory
    · have hlength := hprefix.length_le
      have hnil := List.length_pos_iff.2 (named_of_mem_filePartsOf file hfile).2
      rw [List.length_append] at hlength
      omega
    · exact h.free file hfile hdirectory
  · exact not_prefix_of_mem file hfile parts hparts (List.append_cancel_left heq ▸ hprefix)

theorem exists_below_of_makes (hstep : step ∈ steps p name empty)
    (hmakes : makesDirectory step = false) : ∃ parts ∈ filePartsOf empty, pathOf step = below p parts := by
  rcases mem_steps.1 hstep with ⟨parts, -, rfl⟩ | ⟨file, hfile, rfl⟩ | rfl
  · cases hmakes
  · exact ⟨file.1, parts_of_mem_filesOf hfile, rfl⟩
  · exact ⟨[".env"], List.mem_cons_self, rfl⟩

theorem parent_below {parts : List String} (p : Path) (hparts : parts ≠ []) :
    (below p parts).parent = below p parts.dropLast := by
  rw [Path.parent, below, List.dropLast_append_of_ne_nil hparts, below]

theorem CanHold.admits (h : CanHold t p empty) (name : String) : t.Admits (steps p name empty) where
  fits step hstep := by
    rcases mem_steps.1 hstep with ⟨parts, hparts, rfl⟩ | ⟨file, hfile, rfl⟩ | rfl
    · exact h.fits parts (List.mem_append_left _ hparts)
    · exact h.fits file.1 (List.mem_append_right _ (parts_of_mem_filesOf hfile))
    · exact h.fits [".env"] (List.mem_append_right _ List.mem_cons_self)
  named step hstep hmakes := by
    obtain ⟨parts, hparts, hpath⟩ := exists_below_of_makes hstep hmakes
    obtain ⟨hup, hnil⟩ := named_of_mem_filePartsOf parts hparts
    obtain ⟨around, last, rfl⟩ := List.eq_nil_or_concat parts |>.resolve_left hnil
    refine ⟨below p around, last, ?_, ?_⟩
    · rw [hpath, List.concat_eq_append, below, below, Path.child, List.append_assoc]
    · rintro rfl
      exact hup (by simp)
  clear path hpath := by
    rcases mem_steps.1 hpath with ⟨parts, hparts, heq⟩ | ⟨file, -, heq⟩ | heq
    · cases heq
      exact h.clear parts hparts
    · cases heq
    · cases heq
  free path text hpath := by
    obtain ⟨parts, hparts, hbelow⟩ := exists_below_of_makes hpath rfl
    obtain rfl : path = below p parts := hbelow
    rw [placeOf_below t p (named_of_mem_filePartsOf parts hparts).1]
    exact h.free parts hparts
  apart path hpath step hstep hmakes := by
    obtain ⟨file, hfile, hbelow⟩ := exists_below_of_makes hstep hmakes
    rcases mem_steps.1 hpath with ⟨parts, hparts, heq⟩ | ⟨file, -, heq⟩ | heq
    · cases heq
      rw [hbelow, placeOf_below t p (named_of_mem_filePartsOf file hfile).1]
      exact h.apart hfile hparts
    · cases heq
    · cases heq

/-- Each sample comes after the directory that it stands in. -/
theorem isPrepared_samples {chosen : List (String × String)}
    (hchosen : ∀ sample ∈ chosen, (Path.ofText sample.1).parts ≠ []) (t : FileTree) (p : Path)
    (made : List (List String)) :
    t.IsPrepared made (chosen.flatMap fun (path, text) =>
      [.directory (below p (Path.ofText path).parent.parts),
        .file (below p (Path.ofText path).parts) text]) := by
  induction chosen generalizing made with
  | nil => trivial
  | cons sample chosen ih =>
    rw [List.forall_mem_cons] at hchosen
    rw [List.flatMap_cons]
    refine ⟨fun q hq => ?_, ih hchosen.2 _⟩
    rw [parent_below p hchosen.1] at hq
    exact List.mem_append_right _ hq

theorem isPrepared_steps (t : FileTree) (p : Path) (name : String) (empty : Bool) :
    t.IsPrepared [] (steps p name empty) := by
  have hsamples : ∀ sample ∈ samplesFor empty, (Path.ofText sample.1).parts ≠ [] := by
    intro sample hsample hnil
    obtain ⟨-, hlength, -⟩ := samples_within sample (mem_samples_of_mem_samplesFor hsample)
    rw [hnil] at hlength
    exact absurd hlength (by decide)
  have habove : ∀ entry : String, ∀ q ∈ t.way (below p [entry]).parent,
      q ∈ [] ++ t.way (below p ["models"]) ++ t.way (below p ["seeds"]) := by
    intro entry q hq
    rw [parent_below p (List.cons_ne_nil _ _)] at hq
    have hmodels : q ∈ t.way (below p ["models"]) :=
      (mem_way_below (by decide)).2 (Or.inl (by rwa [below, List.dropLast_singleton, List.append_nil] at hq))
    exact List.mem_append_left _ (List.mem_append_right _ hmodels)
  rw [steps_eq]
  exact ⟨habove _, habove _, habove _, isPrepared_samples hsamples t p _⟩

/-! ### What is left behind -/

theorem mem_written_steps : (q, n) ∈ (steps p name empty).reverse.flatMap t.written
    ↔ ∃ file ∈ filesOf name empty, q = t.placeOf p ++ file.1 ∧ n = .file file.2.toUTF8.toList := by
  have hplace : ∀ {file : List String × String}, file ∈ filesOf name empty →
      t.placeOf (below p file.1) = t.placeOf p ++ file.1 := fun hfile =>
    placeOf_below t p (named_of_mem_filePartsOf _ (parts_of_mem_filesOf hfile)).1
  rw [List.mem_flatMap]
  constructor
  · rintro ⟨step, hstep, hmem⟩
    rcases mem_steps.1 (List.mem_reverse.1 hstep) with ⟨parts, -, rfl⟩ | ⟨file, hfile, rfl⟩ | rfl
    · cases hmem
    · rw [written, List.mem_singleton, Prod.mk.injEq, hplace hfile] at hmem
      exact ⟨file, hfile, hmem⟩
    · cases hmem
  · rintro ⟨file, hfile, rfl, rfl⟩
    refine ⟨.file (below p file.1) file.2,
      List.mem_reverse.2 (mem_steps.2 (Or.inr (Or.inl ⟨file, hfile, rfl⟩))), ?_⟩
    rw [written, List.mem_singleton, hplace hfile]

theorem mem_added_steps : (q, n) ∈ (steps p name empty).flatMap t.added
    ↔ (∃ parts ∈ directoriesOf empty, q ∈ t.way (below p parts) ∧ n = .directory)
      ∨ q = t.placeOf p ++ [".env"] ∧ n = .file variablesFile.toUTF8.toList := by
  have hplace : t.placeOf (below p [".env"]) = t.placeOf p ++ [".env"] :=
    placeOf_below t p (by decide)
  rw [List.mem_flatMap]
  constructor
  · rintro ⟨step, hstep, hmem⟩
    rcases mem_steps.1 hstep with ⟨parts, hparts, rfl⟩ | ⟨file, -, rfl⟩ | rfl
    · obtain ⟨r, hr, heq⟩ := List.mem_map.1 hmem
      cases heq
      exact Or.inl ⟨parts, hparts, hr, rfl⟩
    · cases hmem
    · rw [added, List.mem_singleton, Prod.mk.injEq, hplace] at hmem
      exact Or.inr hmem
  · rintro (⟨parts, hparts, hq, rfl⟩ | ⟨rfl, rfl⟩)
    · exact ⟨_, mem_steps.2 (Or.inl ⟨parts, hparts, rfl⟩), List.mem_map.2 ⟨q, hq, rfl⟩⟩
    · refine ⟨_, mem_steps.2 (Or.inr (Or.inr rfl)), ?_⟩
      rw [added, List.mem_singleton, hplace]

theorem lookup_eq_some_of_mem {entries : List (List String × FileNode)} (h : (q, n) ∈ entries)
    (hunique : ∀ m, (q, m) ∈ entries → m = n) : entries.lookup q = some n := by
  cases hlookup : entries.lookup q with
  | none => exact absurd (List.lookup_eq_none_iff.1 hlookup _ h) (by simp)
  | some m =>
    obtain ⟨before, behind, hentries, -⟩ := List.lookup_eq_some_iff.1 hlookup
    rw [hunique m (hentries ▸ List.mem_append_right _ List.mem_cons_self)]

theorem mem_of_lookup_eq_some {entries : List (List String × FileNode)}
    (h : entries.lookup q = some n) : (q, n) ∈ entries := by
  obtain ⟨before, behind, hentries, -⟩ := List.lookup_eq_some_iff.1 h
  exact hentries ▸ List.mem_append_right _ List.mem_cons_self

/-- That a project has been laid into a directory, and nothing else has been done. -/
structure LaidOut (root : List String) (name : String) (empty : Bool) (t t' : FileTree) : Prop where
  home : t'.home = t.home
  directory : ∀ parts ∈ directoriesOf empty, ∀ q, q <+: root ++ parts → t'.node? q = some .directory
  file : ∀ file ∈ filesOf name empty,
    t'.node? (root ++ file.1) = some (.file file.2.toUTF8.toList)
  environment : t'.node? (root ++ [".env"])
    = (t.node? (root ++ [".env"])).or (some (.file variablesFile.toUTF8.toList))
  kept : ∀ q n, t.node? q = some n → (∀ file ∈ filesOf name empty, q ≠ root ++ file.1) →
    t'.node? q = some n
  new : ∀ q n, t.node? q = none → t'.node? q = some n →
    (∃ parts ∈ directoriesOf empty, q <+: root ++ parts)
      ∨ ∃ parts ∈ filePartsOf empty, q = root ++ parts

theorem lookup_written_steps {file : List String × String} (hfile : file ∈ filesOf name empty) :
    ((steps p name empty).reverse.flatMap t.written).lookup (t.placeOf p ++ file.1)
      = some (.file file.2.toUTF8.toList) := by
  refine lookup_eq_some_of_mem (mem_written_steps.2 ⟨file, hfile, rfl, rfl⟩) fun m hm => ?_
  obtain ⟨other, hother, hplace, rfl⟩ := mem_written_steps.1 hm
  rw [List.inj_on_of_nodup_map (nodup_fileParts name empty).of_cons hfile hother
    (List.append_cancel_left hplace)]

theorem lookup_written_steps_eq_none (hq : ∀ file ∈ filesOf name empty, q ≠ t.placeOf p ++ file.1) :
    ((steps p name empty).reverse.flatMap t.written).lookup q = none := by
  cases hlookup : ((steps p name empty).reverse.flatMap t.written).lookup q with
  | none => rfl
  | some n =>
    obtain ⟨file, hfile, hplace, -⟩ := mem_written_steps.1 (mem_of_lookup_eq_some hlookup)
    exact absurd hplace (hq file hfile)

theorem lookup_written_steps_variables :
    ((steps p name empty).reverse.flatMap t.written).lookup (t.placeOf p ++ [".env"]) = none := by
  refine lookup_written_steps_eq_none fun file hfile hplace => ?_
  exact (List.nodup_cons.1 (nodup_fileParts name empty)).1
    (List.append_cancel_left hplace ▸ List.mem_map_of_mem hfile)

namespace CanHold

variable (h : CanHold t p empty)
include h

theorem lookup_added_steps_directory {parts : List String} (hparts : parts ∈ directoriesOf empty)
    (hmem : t.placeOf p ++ parts ∈ t.way (below p parts)) :
    ((steps p name empty).flatMap t.added).lookup (t.placeOf p ++ parts) = some .directory := by
  refine lookup_eq_some_of_mem (mem_added_steps.2 (Or.inl ⟨parts, hparts, hmem, rfl⟩))
    fun m hm => ?_
  rcases mem_added_steps.1 hm with ⟨-, -, -, rfl⟩ | ⟨hplace, -⟩
  · rfl
  · exact absurd (hplace ▸ hmem) (h.apart List.mem_cons_self hparts)

theorem lookup_added_steps_variables :
    ((steps p name empty).flatMap t.added).lookup (t.placeOf p ++ [".env"])
      = some (.file variablesFile.toUTF8.toList) := by
  refine lookup_eq_some_of_mem (mem_added_steps.2 (Or.inr ⟨rfl, rfl⟩)) fun m hm => ?_
  rcases mem_added_steps.1 hm with ⟨parts, hparts, hmem, -⟩ | ⟨-, rfl⟩
  · exact absurd hmem (h.apart List.mem_cons_self hparts)
  · rfl

/-- What is missing on the way to a directory of the project is around it or is the directory. -/
theorem isPrefix_of_missing {parts : List String} (hparts : parts ∈ directoriesOf empty)
    (hq : q ∈ t.way (below p parts)) (hmissing : t.node? q = none) : q <+: t.placeOf p ++ parts := by
  rcases (mem_way_below (notUp_of_mem_directoriesOf parts hparts)).1 hq with
    hq | ⟨more, -, hprefix, rfl⟩
  · rcases h.straight q hq with hprefix | hdirectory
    · exact hprefix.trans (List.prefix_append _ _)
    · rw [hmissing] at hdirectory
      cases hdirectory
  · exact (List.prefix_append_right_inj _).2 hprefix

/-- What the steps lay over and under the files is the project. -/
theorem laidOut_of_overlays (hover : Overlays ((steps p name empty).reverse.flatMap t.written)
    ((steps p name empty).flatMap t.added) t t') : LaidOut (t.placeOf p) name empty t t' where
  home := hover.home
  directory parts hparts q hq := by
    have hmem : t.placeOf p ++ parts ∈ t.way (below p parts) := by
      rw [← placeOf_below t p (notUp_of_mem_directoriesOf parts hparts)]
      exact placeOf_mem_way t _
    have hunwritten : ∀ file ∈ filesOf name empty, t.placeOf p ++ parts ≠ t.placeOf p ++ file.1 :=
      fun file hfile hplace => h.apart (parts_of_mem_filesOf hfile) hparts (hplace ▸ hmem)
    have hdirectory : t'.node? (t.placeOf p ++ parts) = some .directory := by
      rw [hover.node, lookup_written_steps_eq_none hunwritten,
        h.lookup_added_steps_directory hparts hmem, Option.none_or]
      exact or_directory (h.clear parts hparts _ hmem)
    obtain ⟨more, hmore⟩ := hq
    by_cases hnil : more = []
    · rw [hnil, List.append_nil] at hmore
      rw [hmore, hdirectory]
    · exact hover.closed.node?_around (hmore ▸ hdirectory) hnil
  file file hfile := by
    rw [hover.node, lookup_written_steps hfile, Option.some_or]
  environment := by
    rw [hover.node, lookup_written_steps_variables, h.lookup_added_steps_variables, Option.none_or]
  kept q n hn hq := by
    rw [hover.node, lookup_written_steps_eq_none hq, hn]
    rfl
  new q n hnew hn := by
    rw [hover.node, hnew, Option.none_or] at hn
    rcases Option.or_eq_some_iff.1 hn with hn | ⟨-, hn⟩
    · obtain ⟨file, hfile, hplace, -⟩ := mem_written_steps.1 (mem_of_lookup_eq_some hn)
      exact Or.inr ⟨file.1, parts_of_mem_filesOf hfile, hplace⟩
    · rcases mem_added_steps.1 (mem_of_lookup_eq_some hn) with ⟨parts, hparts, hq, -⟩ | ⟨rfl, -⟩
      · exact Or.inl ⟨parts, hparts, h.isPrefix_of_missing hparts hq hnew⟩
      · exact Or.inr ⟨[".env"], List.mem_cons_self, rfl⟩

/-- **The steps lay a project into its directory, if nothing is in the way.** -/
theorem laidOut (name : String) :
    ∃ t', t.take (steps p name empty) = (t', none) ∧ LaidOut (t.placeOf p) name empty t t' := by
  obtain ⟨t', htake, hover⟩ := take_eq h.closed (h.admits name)
    (fun q hq => absurd hq List.not_mem_nil) (isPrepared_steps t p name empty)
  exact ⟨t', htake, h.laidOut_of_overlays hover⟩

end CanHold

end SqlPipeline.Scaffold

namespace SqlPipeline.Task

open FileTree Scaffold

variable {δ : Type} {t : FileTree} {p : Path} {desk : Desk δ} {name : String}
  {directory : Option Path} {empty force : Bool}

/-! ### The command -/

/-- Whether something stands in a directory is known where its path leads. -/
theorem holdsSomething_eq (hclosed : t.IsClosed) (hstraight : t.IsStraight p)
    (hclear : t.IsClear p) (hfits : Fits p) : ∃ b, holdsSomething t p = .ok b
      ∧ (b = true ↔ ∃ entry n, t.node? (t.placeOf p ++ [entry]) = some n) := by
  by_cases hpaved : t.IsPaved p
  · have hplace := hpaved.leadsTo hfits
    refine ⟨!(t.entryNames (t.placeOf p)).isEmpty, ?_, ?_⟩
    · rw [holdsSomething, contains_eq_true.2 ⟨_, hplace.lookup⟩, hplace.list]
      rfl
    · rw [Bool.not_eq_true', List.isEmpty_eq_false_iff_exists_mem]
      refine exists_congr fun entry => ⟨exists_node?_of_mem_entryNames, ?_⟩
      rintro ⟨n, hn⟩
      exact mem_entryNames_of_node? hn
  · refine ⟨false, ?_, Bool.noConfusion, ?_⟩
    · rw [holdsSomething, hclear.contains hpaved hfits]
      rfl
    · rintro ⟨entry, n, hn⟩
      exact absurd (hstraight.isPaved hclosed hn (List.cons_ne_nil _ _)) hpaved

/-- That a task does no more than print texts, and goes on to its end if they can be printed. -/
def OnlySays (x : Task δ Unit) : Prop :=
  ∀ desk, (perform x desk).2.files = desk.files
    ∧ ((perform x desk).1 = .ok () ∨ ∃ e, (perform x desk).1 = .error (.raised (.markup e)))

theorem OnlySays.say (s : String) : OnlySays (δ := δ) (Task.say s) := by
  intro desk
  rw [perform_say]
  cases Console.Markup.shown desk.pictures s with
  | ok t => exact ⟨rfl, Or.inl rfl⟩
  | error e => exact ⟨rfl, Or.inr ⟨e, rfl⟩⟩

theorem OnlySays.bind {x y : Task δ Unit} (hx : OnlySays x) (hy : OnlySays y) :
    OnlySays (x >>= fun _ => y) := by
  intro desk
  obtain ⟨hfiles, hresult⟩ := hx desk
  rw [perform_bind]
  rcases hrun : perform x desk with ⟨result, next⟩
  rw [hrun] at hfiles hresult
  rcases hresult with rfl | ⟨e, rfl⟩
  · exact ⟨(hy next).1.trans hfiles, (hy next).2⟩
  · exact ⟨hfiles, Or.inr ⟨e, rfl⟩⟩

theorem OnlySays.sayPaths (paths : List String) : OnlySays (δ := δ) (Task.sayPaths paths) := by
  induction paths with
  | nil => exact fun _ => ⟨rfl, Or.inl rfl⟩
  | cons path paths ih => exact .bind (.say _) ih

/-- That making a project is refused: its name is none, or something stands in its directory and
    that is not what is wanted. -/
def IsRefused (t : FileTree) (root : List String) (name : String) (force : Bool) : Prop :=
  (¬ ∃ base, IsWord base ∧ (name.toList = base ∨ name.toList = base ++ ['\n']))
    ∨ force = false ∧ ∃ entry n, t.node? (root ++ [entry]) = some n

/-- That a task is given up with a message before anything is done. -/
def IsGivenUp (x : Task δ Unit) (desk : Desk δ) : Prop :=
  ∃ (message : String) (k : Unit → Task δ Unit),
    perform x desk = perform (giveUp message >>= k) desk

theorem IsGivenUp.ends {x : Task δ Unit} (h : IsGivenUp x desk) :
    (∃ stop, (perform x desk).1 = .error stop ∧ stop.code = 1)
      ∧ (perform x desk).2.files = desk.files := by
  obtain ⟨message, k, hrun⟩ := h
  obtain ⟨stop, hstop, hcode, hfiles⟩ := perform_giveUp (α := Unit) message desk
  rw [hrun, perform_bind]
  rcases hgivenUp : perform (giveUp message : Task δ Unit) desk with ⟨result, next⟩
  rw [hgivenUp] at hstop hfiles
  obtain rfl : result = .error stop := hstop
  exact ⟨⟨stop, rfl, hcode⟩, hfiles⟩

theorem isGivenUp_of_not_isName (h : ¬ isName name = true) :
    IsGivenUp (makeProject name directory empty force) desk := by
  rw [IsGivenUp, makeProject, if_pos (by simp [h])]
  exact ⟨_, _, rfl⟩

/-- Under a name for a project it is given up, or its steps are taken and then told of. -/
theorem makeProject_cases (hname : isName name = true) {taken : Bool}
    (htaken : holdsSomething desk.files (directoryFor desk name directory) = .ok taken)
    (empty force : Bool) :
    (taken = true ∧ force = false ∧ IsGivenUp (makeProject name directory empty force) desk)
      ∨ ((taken = true → force = true) ∧ ∃ rest : Task δ Unit, OnlySays rest ∧
          perform (makeProject name directory empty force) desk = perform (do
            changeFiles (steps (directoryFor desk name directory) name empty)
            rest) desk) := by
  have hraise : ∀ k : Bool → Task δ Unit, perform (orRaise .file (.ok taken) >>= k) desk
      = perform (k taken) desk := fun k => rfl
  rw [directoryFor] at htaken
  rw [IsGivenUp, makeProject, if_neg (by simp [hname]), perform_get_bind]
  dsimp only
  rw [htaken, hraise]
  by_cases hrefused : (taken && !force) = true
  · rw [if_pos hrefused]
    have hboth : taken = true ∧ force = false := by simpa using hrefused
    exact Or.inl ⟨hboth.1, hboth.2, _, _, rfl⟩
  · rw [if_neg hrefused]
    refine Or.inr ⟨by simpa using hrefused, _, ?_, rfl⟩
    exact .bind (.say _) <| .bind (.sayPaths _) <| .bind (.say _) <| .bind (.say _) <|
      .bind (.say _) <| .bind (.say _) (.say _)

/-- Steps that can be taken are taken, and then the task goes on. -/
theorem perform_changeFiles_bind {steps : List FileStep} {files : FileTree}
    (h : desk.files.take steps = (files, none)) (rest : Task δ Unit) :
    perform (do changeFiles steps; rest) desk = perform rest { desk with files := files } := by
  rw [perform_bind, perform_changeFiles, h]

/-- **Making a project changes nothing, or lays its files and leaves all others as they are.** -/
theorem makeProject_lays (desk : Desk δ) (name : String) (directory : Option Path)
    (empty force : Bool)
    (h : isName name = true → CanHold desk.files (directoryFor desk name directory) empty) :
    let root := desk.files.placeOf (directoryFor desk name directory)
    let made := perform (makeProject name directory empty force) desk
    (IsRefused desk.files root name force →
      (∃ stop, made.1 = .error stop ∧ stop.code = 1) ∧ made.2.files = desk.files)
    ∧ (¬ IsRefused desk.files root name force →
      (made.1 = .ok () ∨ ∃ e, made.1 = .error (.raised (.markup e)))
        ∧ LaidOut root name empty desk.files made.2.files) := by
  intro root made
  rw [IsRefused, ← isName_iff]
  by_cases hname : isName name = true
  · have hcan := h hname
    obtain ⟨taken, htaken, hiff⟩ := holdsSomething_eq hcan.closed hcan.straight
      (IsClear.of_child (hcan.clear ["models"] List.mem_cons_self))
      (Fits.of_child (hcan.fits ["models"] List.mem_cons_self))
    rw [← hiff]
    rcases makeProject_cases hname htaken empty force with
      ⟨rfl, hforce, hgivenUp⟩ | ⟨hforce, rest, hrest, hrun⟩
    · exact ⟨fun _ => hgivenUp.ends, fun hnot => absurd (Or.inr ⟨hforce, rfl⟩) hnot⟩
    · obtain ⟨files, htake, hlaid⟩ := hcan.laidOut name
      rw [perform_changeFiles_bind htake] at hrun
      obtain ⟨hfiles, hresult⟩ := hrest { desk with files := files }
      rw [← hrun] at hfiles hresult
      refine ⟨?_, fun _ => ⟨hresult, hfiles.symm ▸ hlaid⟩⟩
      rintro (hnot | ⟨hnoForce, htaken⟩)
      · exact absurd hname hnot
      · rw [hforce htaken] at hnoForce
        cases hnoForce
  · exact ⟨fun _ => (isGivenUp_of_not_isName hname).ends, fun hnot => absurd (Or.inl hname) hnot⟩

/-! ### A directory with something in it -/

/-- A desk whose working directory has some notes and a file of variables. -/
def deskWithNotes : Desk Unit where
  files := ⟨[(["home", "notes.txt"], .file [104, 105]), (["home", ".env"], .file [65, 61, 49])],
    ["home"]⟩
  connection := { driver := () }

/-- A tree is closed if each of its nodes stands in a directory and nothing else does where the
    working directory is. -/
theorem isClosed_of_nodes (hnodes : ∀ entry ∈ t.nodes, t.node? entry.1.dropLast = some .directory)
    (hhome : ∀ q ∈ t.home.inits, t.node? q = some .directory) : t.IsClosed := by
  intro place name n hn
  rw [node?] at hn
  split at hn
  · rename_i hlookup
    have hmem := hnodes _ (mem_of_lookup_eq_some hlookup)
    rwa [List.dropLast_concat] at hmem
  · split at hn
    · rename_i hprefix
      exact hhome place (List.mem_inits _ _ |>.2
        ((List.prefix_append _ _).trans (List.isPrefixOf_iff_prefix.1 hprefix)))
    · cases hn

theorem canHold_deskWithNotes : CanHold deskWithNotes.files here false where
  closed := isClosed_of_nodes (by decide) (by decide)
  straight := by
    rw [IsStraight]
    decide
  fits := by
    rw [directoriesOf_eq, filePartsOf_eq]
    decide
  clear := by
    simp only [isClear_iff]
    rw [directoriesOf_eq]
    decide
  free := by
    rw [filePartsOf_eq]
    decide

/-- Notes and variables stay when a project is laid around them, and without force all does. -/
theorem makeProject_lays_aroundNotes :
    let wanted := perform (makeProject "shop" (some here) false true) deskWithNotes
    let unwanted := perform (makeProject "shop" (some here) false false) deskWithNotes
    CanHold deskWithNotes.files (directoryFor deskWithNotes "shop" (some here)) false
      ∧ wanted.2.files.node? ["home", "notes.txt"] = some (.file [104, 105])
      ∧ wanted.2.files.node? ["home", ".env"] = some (.file [65, 61, 49])
      ∧ wanted.2.files.node? ["home", "models", "marts"] = some .directory
      ∧ wanted.2.files.node? ["home", "project.yml"]
        = some (.file (settings "shop").toUTF8.toList)
      ∧ unwanted.2.files = deskWithNotes.files := by
  intro wanted unwanted
  have hcan : CanHold deskWithNotes.files (directoryFor deskWithNotes "shop" (some here)) false :=
    canHold_deskWithNotes
  obtain ⟨-, hlaid⟩ := makeProject_lays deskWithNotes "shop" (some here) false true fun _ => hcan
  obtain ⟨hrefused, -⟩ := makeProject_lays deskWithNotes "shop" (some here) false false fun _ => hcan
  obtain ⟨-, hlaid⟩ := hlaid (by
    rw [IsRefused, ← isName_iff]
    rintro (hname | ⟨hforce, -⟩)
    · exact hname rfl
    · cases hforce)
  obtain ⟨-, hsame⟩ := hrefused (Or.inr ⟨rfl, "notes.txt", _, rfl⟩)
  refine ⟨hcan, hlaid.kept _ _ rfl ?_, hlaid.environment, ?_, ?_, hsame⟩
  · intro file hfile hplace
    have hparts := parts_of_mem_filesOf hfile
    have heq : ["notes.txt"] = file.1 := (List.append_right_inj ["home"]).1 hplace
    rw [← heq, filePartsOf_eq] at hparts
    exact absurd hparts (by decide)
  · exact hlaid.directory ["models", "marts"] (by rw [directoriesOf_eq]; decide) _ List.prefix_rfl
  · exact hlaid.file _ List.mem_cons_self

/-- A name with the end of a line behind it is none, and yet a project is made under it. -/
theorem newline_lays :
    let made := perform (makeProject "shop\n" (some here) true false) emptyDesk
    ¬ IsWord "shop\n".toList ∧ made.1 = .ok () ∧ emptyDesk.files.list here = .ok []
      ∧ ∃ place, made.2.files.Holds (Project.fileIn here) place (settings "shop\n") := by
  intro made
  have hmade : made.1 = .ok () := makeProject_emptyDesk "shop\n" rfl rfl
  obtain ⟨-, htake⟩ := take_of_makeProject hmade
  obtain ⟨place, hsettings, -⟩ := holds_of_take_steps (isFresh_of_list list_emptyDesk) htake
  exact ⟨fun h => absurd (h.allowed '\n' (by decide)) (by decide), hmade, list_emptyDesk, _,
    hsettings⟩

end SqlPipeline.Task
