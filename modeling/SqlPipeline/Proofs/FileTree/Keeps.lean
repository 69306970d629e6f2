/-
  SqlPipeline/Proofs/FileTree/Keeps.lean
  ======================================
  **What a change to the files leaves alone.**

  Where a path leads depends on the directories on its way only.  A directory is never taken
  away and nothing is put in its place, so that a path goes on leading to the same place
  (`Keeps.locate`), and what stands there stays until a file is written there
  (`keeps_of_take`).
-/
import SqlPipeline.FileTree
import SqlPipeline.Proofs.Outcome
import SqlPipeline.Proofs.Text.Lines
import SqlPipeline.Proofs.Text.Utf8
import Mathlib.Data.List.Induction
import Mathlib.Tactic.Common

namespace SqlPipeline.FileTree

open Text

variable {t t' t'' : FileTree} {p : Path} {place q here parts : List String} {n : FileNode}
  {name s : String}

/-! ### Nodes -/

theorem lookup_map_nodes (nodes : List (List String × FileNode)) (place q : List String)
    (n : FileNode) : (nodes.map fun (r, old) => (r, if r = place then n else old)).lookup q
      = (nodes.lookup q).map fun old => if q = place then n else old := by
  induction nodes with
  | nil => rfl
  | cons entry nodes ih =>
    obtain ⟨r, old⟩ := entry
    by_cases hr : q = r
    · subst hr
      simp
    · simp only [List.map_cons, List.lookup_cons, beq_false_of_ne hr, ih]

theorem node?_put (t : FileTree) (place q : List String) (n : FileNode) :
    (t.put place n).node? q = if q = place then some n else t.node? q := by
  by_cases hthere : (t.nodes.lookup place).isSome
  · rw [put, if_pos hthere, node?, lookup_map_nodes, node?]
    obtain ⟨old, hold⟩ := Option.isSome_iff_exists.1 hthere
    by_cases hq : q = place
    · subst hq
      simp [hold]
    · simp [hq]
  · rw [put, if_neg hthere, node?, List.lookup_append, node?]
    rw [Bool.not_eq_true, Option.isSome_eq_false_iff, Option.isNone_iff_eq_none] at hthere
    by_cases hq : q = place
    · subst hq
      simp [hthere]
    · simp only [List.lookup_cons, beq_false_of_ne hq, List.lookup_nil, Option.or_none, if_neg hq]

theorem home_put (t : FileTree) (place : List String) (n : FileNode) :
    (t.put place n).home = t.home := by
  rw [put]
  split <;> rfl

/-- What stands in a directory is among its entries. -/
theorem mem_entryNames_of_node? (h : t.node? (place ++ [name]) = some n) :
    name ∈ t.entryNames place := by
  rw [node?] at h
  split at h
  · rename_i found hfound
    have hmem : name ∈ t.nodes.filterMap fun (r, _) =>
        if r.length == place.length + 1 && place.isPrefixOf r then r.getLast? else none := by
      refine List.mem_filterMap.2 ⟨(place ++ [name], found), ?_, ?_⟩
      · obtain ⟨before, behind, hnodes, -⟩ := List.lookup_eq_some_iff.1 hfound
        rw [hnodes]
        exact List.mem_append_right _ List.mem_cons_self
      · simp
    rw [entryNames]
    split
    · split
      · split
        · exact hmem
        · exact List.mem_cons_of_mem _ hmem
      · exact hmem
    · exact hmem
  · split at h
    · rename_i hhome
      obtain ⟨more, hmore⟩ := List.isPrefixOf_iff_prefix.1 hhome
      have hprefix : place.isPrefixOf t.home = true := by
        rw [← hmore, List.append_assoc]
        exact List.isPrefixOf_iff_prefix.2 (List.prefix_append _ _)
      have hnext : (t.home.drop place.length).head? = some name := by
        rw [← hmore, List.append_assoc, List.drop_left]
        rfl
      rw [entryNames, if_pos hprefix, hnext]
      dsimp only
      split
      · rename_i hbelow
        exact List.contains_iff_mem.1 hbelow
      · exact List.mem_cons_self
    · cases h

/-! ### Where a path leads -/

/-- Where a path leads, in a form that can be evaluated. -/
theorem locate_eq (t : FileTree) (p : Path) : t.locate p
    = if p.parts.any (fun part => part.toList.contains '\x00') then .error .nullCharacter
      else if p.text.utf8ByteSize > longestPath then .error (.nameTooLong p.text)
      else t.follow p.text (if p.isAbsolute then [] else t.home) p.parts := by
  simp [locate]

/-- The way to the last part leads through a directory. -/
theorem follow_concat {path : String} (h : t.follow path here (parts ++ [name]) = .ok q)
    (hname : name ≠ "..") : ∃ place, (∀ path, t.follow path here parts = .ok place)
      ∧ t.node? place = some .directory ∧ q = place ++ [name] := by
  induction parts generalizing here with
  | nil =>
    rw [List.nil_append, follow] at h
    split at h
    · cases h
    · split at h
      · rename_i hhere
        rw [if_neg (by simpa using hname), follow] at h
        exact ⟨here, fun _ => rfl, hhere, (Except.ok.inj h).symm⟩
      · cases h
      · cases h
  | cons part parts ih =>
    rw [List.cons_append, follow] at h
    split at h
    · cases h
    · rename_i hshort
      split at h
      · rename_i hhere
        obtain ⟨place, hplace, hdirectory, hq⟩ := ih h
        refine ⟨place, fun path => ?_, hdirectory, hq⟩
        rw [follow, if_neg hshort, hhere]
        exact hplace path
      · cases h
      · cases h

/-- A name that an entry of a directory can have. -/
structure IsEntryName (name : String) : Prop where
  notEmpty : name ≠ ""
  notUp : name ≠ ".."

theorem utf8ByteSize_text_le (p : Path) (hname : name ≠ "") :
    p.text.utf8ByteSize ≤ (p.child name).text.utf8ByteSize := by
  have hsize : 0 < name.utf8ByteSize :=
    Nat.pos_of_ne_zero fun h => hname (String.utf8ByteSize_eq_zero_iff.1 h)
  have hslash : "/".utf8ByteSize = 1 := rfl
  have hchild : (p.child name).text = p.root ++ "/".intercalate (p.parts ++ [name]) := by
    simp [Path.text, Path.child]
  by_cases hparts : p.parts = []
  · have htext : p.text.utf8ByteSize ≤ p.root.utf8ByteSize + 1 := by
      rw [Path.text, hparts]
      split
      · exact Nat.le_add_left ".".utf8ByteSize _
      · rw [String.utf8ByteSize_append]
        exact Nat.le_succ _
    rw [hchild, hparts, List.nil_append, String.intercalate_singleton, String.utf8ByteSize_append]
    omega
  · have htext : p.text = p.root ++ "/".intercalate p.parts := by
      simp [Path.text, hparts]
    rw [hchild, htext, String.intercalate_append_of_ne_nil hparts (by simp),
      String.intercalate_singleton]
    simp only [String.utf8ByteSize_append]
    omega

/-- That a path leads to a directory, which stands at a place. -/
structure LeadsTo (t : FileTree) (p : Path) (place : List String) : Prop where
  locate : t.locate p = .ok place
  directory : t.node? place = some .directory

theorem locate_child (h : t.locate (p.child name) = .ok q) (hname : IsEntryName name) :
    ∃ place, t.LeadsTo p place ∧ q = place ++ [name] := by
  rw [FileTree.locate] at h
  split at h
  · cases h
  · rename_i hnull
    split at h
    · cases h
    · rename_i hlong
      obtain ⟨place, hplace, hdirectory, hq⟩ := follow_concat h hname.notUp
      refine ⟨place, ⟨?_, hdirectory⟩, hq⟩
      have hnull' : ¬ p.parts.any (·.contains '\x00') = true := fun hp => hnull (by
        rw [Path.child, List.any_append, hp, Bool.true_or])
      have hlong' : ¬ p.text.utf8ByteSize > longestPath := fun hp =>
        hlong (Nat.lt_of_lt_of_le hp (utf8ByteSize_text_le p hname.notEmpty))
      rw [FileTree.locate, if_neg hnull', if_neg hlong']
      exact hplace _

theorem lookup_eq_ok : t.lookup p = .ok n ↔ ∃ q, t.locate p = .ok q ∧ t.node? q = some n := by
  rw [lookup]
  cases hlocate : t.locate p with
  | error e => 
    simp [bind, Except.bind]
  | ok q =>
    simp only [bind, Except.bind]
    cases hnode : t.node? q with
    | none => simp [hnode]
    | some m => simp [hnode]

theorem LeadsTo.locate_child (h : t.LeadsTo p place) (hq : t.locate (p.child name) = .ok q)
    (hname : IsEntryName name) : q = place ++ [name] := by
  obtain ⟨place', hplace', rfl⟩ := FileTree.locate_child hq hname
  obtain rfl := Except.ok.inj (h.locate.symm.trans hplace'.locate)
  rfl

/-- A path that goes on from a directory without leading up. -/
theorem LeadsTo.locate_join (h : t.LeadsTo p place)
    (hq : t.locate ⟨p.root, p.parts ++ parts⟩ = .ok q) (hparts : ∀ name ∈ parts, IsEntryName name) :
    q = place ++ parts := by
  induction parts using List.reverseRecOn generalizing q with
  | nil =>
    rw [List.append_nil] at hq
    rw [Except.ok.inj (hq.symm.trans h.locate), List.append_nil]
  | append_singleton parts name ih =>
    have hchild : (⟨p.root, p.parts ++ (parts ++ [name])⟩ : Path)
        = Path.child ⟨p.root, p.parts ++ parts⟩ name := by
      rw [Path.child, List.append_assoc]
    rw [hchild] at hq
    obtain ⟨around, haround, rfl⟩ := FileTree.locate_child hq (hparts name (by simp))
    rw [ih haround.locate fun x hx => hparts x (List.mem_append_left _ hx), List.append_assoc]

/-- That a path leads to a file with a text, which stands at a place. -/
structure Holds (t : FileTree) (p : Path) (place : List String) (s : String) : Prop where
  locate : t.locate p = .ok place
  file : t.node? place = some (.file s.toUTF8.toList)

theorem LeadsTo.lookup (h : t.LeadsTo p place) : t.lookup p = .ok .directory :=
  lookup_eq_ok.2 ⟨place, h.locate, h.directory⟩

theorem contains_eq_true : t.contains p = .ok true ↔ ∃ n, t.lookup p = .ok n := by
  rw [contains, find?]
  cases hlookup : t.lookup p with
  | ok n => simp [bind, Except.bind, pure, Except.pure]
  | error e => cases e <;> simp [bind, Except.bind, pure, Except.pure]

/-! ### Steps -/

/-- That what stands in one tree stands in the other as well, but for files at some places. -/
structure Keeps (written : List (List String)) (t t' : FileTree) : Prop where
  home : t'.home = t.home
  directory : ∀ q, t.node? q = some .directory → t'.node? q = some .directory
  node : ∀ q n, q ∉ written → t.node? q = some n → t'.node? q = some n

variable {written more : List (List String)}

theorem Keeps.refl (t : FileTree) : Keeps [] t t :=
  ⟨rfl, fun _ => id, fun _ _ _ => id⟩

theorem Keeps.trans (h : Keeps written t t') (h' : Keeps more t' t'') :
    Keeps (written ++ more) t t'' where
  home := h'.home.trans h.home
  directory q hq := h'.directory q (h.directory q hq)
  node q n hq hn :=
    h'.node q n (fun hmore => hq (List.mem_append_right _ hmore))
      (h.node q n (fun hwritten => hq (List.mem_append_left _ hwritten)) hn)

theorem Keeps.put_new (hnew : t.node? q = none) (n : FileNode) : Keeps [] t (t.put q n) := by
  have hother : ∀ r m, t.node? r = some m → (t.put q n).node? r = some m := by
    intro r m hr
    rw [node?_put, if_neg (fun h => by rw [h, hnew] at hr; cases hr), hr]
  exact ⟨home_put t q n, fun r => hother r _, fun r m _ => hother r m⟩

/-- That two trees differ at a place only, where no directory is lost. -/
structure DiffersAt (place : List String) (t t' : FileTree) : Prop where
  home : t'.home = t.home
  directory : t.node? place = some .directory → t'.node? place = some .directory
  node : ∀ q, q ≠ place → t'.node? q = t.node? q

theorem DiffersAt.refl (place : List String) (t : FileTree) : DiffersAt place t t :=
  ⟨rfl, id, fun _ _ => rfl⟩

theorem DiffersAt.put (h : t.node? place = some .directory → n = .directory) :
    DiffersAt place t (t.put place n) where
  home := home_put t place n
  directory hplace := by
    rw [node?_put, if_pos rfl, h hplace]
  node q hq := by
    rw [node?_put, if_neg hq]

theorem DiffersAt.keeps (h : DiffersAt place t t') : Keeps [place] t t' where
  home := h.home
  directory q hq := by
    by_cases heq : q = place
    · subst heq
      exact h.directory hq
    · rw [h.node q heq, hq]
  node q n hq hn := by
    rw [h.node q (fun heq => hq (List.mem_singleton.2 heq)), hn]

theorem Keeps.follow (h : Keeps written t t') {path : String}
    (hq : t.follow path here parts = .ok q) : t'.follow path here parts = .ok q := by
  induction parts generalizing here with
  | nil => exact hq
  | cons part parts ih =>
    rw [FileTree.follow] at hq ⊢
    split at hq
    · cases hq
    · rename_i hshort
      rw [if_neg hshort]
      split at hq
      · rename_i hhere
        rw [h.directory here hhere]
        exact ih hq
      · cases hq
      · cases hq

/-- A path goes on leading to the same place. -/
theorem Keeps.locate (h : Keeps written t t') (hq : t.locate p = .ok q) : t'.locate p = .ok q := by
  rw [FileTree.locate] at hq ⊢
  split at hq
  · cases hq
  · rename_i hnull
    split at hq
    · cases hq
    · rename_i hlong
      rw [if_neg hnull, if_neg hlong, h.home]
      exact h.follow hq

theorem Keeps.leadsTo (h : Keeps written t t') (hp : t.LeadsTo p place) : t'.LeadsTo p place :=
  ⟨h.locate hp.locate, h.directory place hp.directory⟩

theorem eq_put_of_makeDirectory (h : t.makeDirectory p = .ok t') :
    ∃ q, t.locate p = .ok q ∧ t.node? q = none ∧ t' = t.put q .directory := by
  rw [makeDirectory] at h
  cases hq : t.locate p with
  | error e => 
    rw [hq] at h
    cases h
  | ok q =>
    rw [hq] at h
    dsimp only [bind, Except.bind] at h
    split at h
    · cases h
    · rename_i hnew
      split at h
      · exact ⟨q, rfl, hnew, (Except.ok.inj h).symm⟩
      · cases h
      · cases h

theorem eq_put_of_writeText (h : t.writeText p s = .ok t') :
    ∃ q, t.locate p = .ok q ∧ t.node? q ≠ some .directory
      ∧ t' = t.put q (.file s.toUTF8.toList) := by
  rw [writeText, writeBytes] at h
  cases hq : t.locate p with
  | error e =>
    rw [hq] at h
    cases h
  | ok q =>
    rw [hq] at h
    dsimp only [bind, Except.bind] at h
    refine ⟨q, rfl, ?_⟩
    split at h
    · cases h
    · rename_i hfile
      exact ⟨by simp [hfile], (Except.ok.inj h).symm⟩
    · rename_i hnew
      split at h
      · exact ⟨by simp [hnew], (Except.ok.inj h).symm⟩
      · cases h
      · cases h

theorem keeps_of_makeDirectory (h : t.makeDirectory p = .ok t') : Keeps [] t t' := by
  obtain ⟨q, -, hnew, rfl⟩ := eq_put_of_makeDirectory h
  exact .put_new hnew _

theorem exists_leadsTo_of_lookup (h : ((t.lookup p).toOption == some .directory) = true) :
    ∃ place, t.LeadsTo p place := by
  rw [beq_iff_eq] at h
  cases hlookup : t.lookup p with
  | error e =>
    rw [hlookup] at h
    cases h
  | ok n =>
    rw [hlookup] at h
    obtain rfl := Option.some.inj h
    obtain ⟨place, hplace, hdirectory⟩ := lookup_eq_ok.1 hlookup
    exact ⟨place, hplace, hdirectory⟩

/-- A directory is made or is there, perhaps after those above it have been made. -/
theorem exists_of_ensureDirectoryWithin {fuel : Nat}
    (h : t.ensureDirectoryWithin (fuel + 1) p = .ok t') :
    ∃ above, (above = t ∨ t.ensureDirectoryWithin fuel p.parent = .ok above)
      ∧ (above.makeDirectory p = .ok t' ∨ t' = above ∧ ∃ place, above.LeadsTo p place) := by
  rw [ensureDirectoryWithin] at h
  split at h
  · rename_i made hmade
    exact ⟨t, Or.inl rfl, Or.inl (Except.ok.inj h ▸ hmade)⟩
  · split at h
    · cases h
    · split at h
      · rename_i above habove
        refine ⟨above, Or.inr habove, ?_⟩
        split at h
        · rename_i made hmade
          exact Or.inl (Except.ok.inj h ▸ hmade)
        · split at h
          · rename_i hthere
            exact Or.inr ⟨(Except.ok.inj h).symm, exists_leadsTo_of_lookup hthere⟩
          · cases h
      · cases h
  · split at h
    · rename_i hthere
      exact ⟨t, Or.inl rfl, Or.inr ⟨(Except.ok.inj h).symm, exists_leadsTo_of_lookup hthere⟩⟩
    · cases h

theorem keeps_of_ensureDirectoryWithin {fuel : Nat} (h : t.ensureDirectoryWithin fuel p = .ok t') :
    Keeps [] t t' := by
  induction fuel generalizing p t' with
  | zero => cases h
  | succ fuel ih =>
    obtain ⟨above, habove, hmade⟩ := exists_of_ensureDirectoryWithin h
    have hfirst : Keeps [] t above := by
      rcases habove with rfl | habove
      · exact .refl above
      · exact ih habove
    rcases hmade with hmade | ⟨rfl, -⟩
    · exact hfirst.trans (keeps_of_makeDirectory hmade)
    · exact hfirst

/-- A directory that is there is left as it is. -/
theorem LeadsTo.ensureDirectory (h : t.LeadsTo p place) : t.ensureDirectory p = .ok t := by
  have hthere : t.makeDirectory p = .error (.exists_ p.text) := by
    rw [makeDirectory, h.locate]
    dsimp only [bind, Except.bind]
    rw [h.directory]
  rw [FileTree.ensureDirectory, ensureDirectoryWithin, hthere, h.lookup]
  rfl

/-- A directory in a directory is made, if it is not there, after the one around it. -/
theorem exists_of_ensureDirectory_child (h : t.ensureDirectory (p.child name) = .ok t')
    (hname : IsEntryName name) : ∃ above place, t.ensureDirectory p = .ok above
      ∧ above.LeadsTo p place ∧ DiffersAt (place ++ [name]) above t' := by
  have hparent : (p.child name).parent = p := by
    simp [Path.parent, Path.child]
  have hfuel : (p.child name).parts.length = p.parts.length + 1 := by
    simp [Path.child]
  obtain ⟨above, habove, hmade⟩ := exists_of_ensureDirectoryWithin h
  rw [hparent, hfuel] at habove
  obtain ⟨place, hplace, hdiffers⟩ : ∃ place, above.LeadsTo p place
      ∧ DiffersAt (place ++ [name]) above t' := by
    rcases hmade with hmade | ⟨rfl, inner, hinner⟩
    · obtain ⟨q, hq, -, rfl⟩ := eq_put_of_makeDirectory hmade
      obtain ⟨place, hplace, rfl⟩ := locate_child hq hname
      exact ⟨place, hplace, .put fun _ => rfl⟩
    · obtain ⟨place, hplace, -⟩ := locate_child hinner.locate hname
      exact ⟨place, hplace, .refl _ t'⟩
  refine ⟨above, place, ?_, hplace, hdiffers⟩
  rcases habove with rfl | habove
  · exact hplace.ensureDirectory
  · exact habove

theorem LeadsTo.differsAt_ensureDirectory (h : t.LeadsTo p place)
    (hmade : t.ensureDirectory (p.child name) = .ok t') (hname : IsEntryName name) :
    DiffersAt (place ++ [name]) t t' := by
  obtain ⟨above, place', habove, hplace', hdiffers⟩ := exists_of_ensureDirectory_child hmade hname
  obtain rfl := Except.ok.inj (h.ensureDirectory.symm.trans habove)
  obtain rfl := Except.ok.inj (h.locate.symm.trans hplace'.locate)
  exact hdiffers

theorem LeadsTo.differsAt_writeText (h : t.LeadsTo p place)
    (hmade : t.writeText (p.child name) s = .ok t') (hname : IsEntryName name) :
    DiffersAt (place ++ [name]) t t' ∧ t'.Holds (p.child name) (place ++ [name]) s := by
  obtain ⟨q, hq, hplace, rfl⟩ := eq_put_of_writeText hmade
  obtain rfl := h.locate_child hq hname
  have hdiffers : DiffersAt (place ++ [name]) t (t.put (place ++ [name]) (.file s.toUTF8.toList)) :=
    .put fun hdirectory => absurd hdirectory hplace
  exact ⟨hdiffers, hdiffers.keeps.locate hq, by rw [node?_put, if_pos rfl]⟩

/-- A step leaves everything as it is, but for the file that it writes. -/
theorem keeps_of_step {step : FileStep} (h : step.take t = .ok t') :
    ∃ written, Keeps written t t'
      ∧ ∀ q ∈ written, ∃ path text, step = .file path text ∧ t.locate path = .ok q := by
  cases step with
  | directory path => exact ⟨[], keeps_of_ensureDirectoryWithin h, by simp⟩
  | file path text =>
    obtain ⟨q, hq, hplace, rfl⟩ := eq_put_of_writeText h
    refine ⟨[q], (DiffersAt.put fun hdirectory => absurd hdirectory hplace).keeps, ?_⟩
    simpa using hq
  | newFile path text =>
    rw [FileStep.take] at h
    cases hthere : t.contains path with
    | error e =>
      rw [hthere] at h
      cases h
    | ok found =>
      rw [hthere] at h
      cases found with
      | true =>
        obtain rfl := Except.ok.inj h
        exact ⟨[], .refl t, by simp⟩
      | false =>
        obtain ⟨q, hq, -, rfl⟩ := eq_put_of_writeText h
        refine ⟨[], .put_new ?_ _, by simp⟩
        cases hnode : t.node? q with
        | none => rfl
        | some n =>
          rw [contains_eq_true.2 ⟨n, lookup_eq_ok.2 ⟨q, hq, hnode⟩⟩] at hthere
          cases hthere

theorem take_cons_of_ok {step : FileStep} {steps : List FileStep} {next : FileTree}
    (h : step.take t = .ok next) : t.take (step :: steps) = next.take steps := by
  rw [FileTree.take, h]

theorem take_cons_eq {step : FileStep} {steps : List FileStep}
    (h : t.take (step :: steps) = (t', none)) :
    ∃ next, step.take t = .ok next ∧ next.take steps = (t', none) := by
  rw [FileTree.take] at h
  split at h
  · rename_i next hnext
    exact ⟨next, hnext, h⟩
  · cases h

/-- Steps leave everything as it is, but for the files that they write. -/
theorem keeps_of_take {steps : List FileStep} (h : t.take steps = (t', none)) :
    ∃ written, Keeps written t t' ∧ ∀ q ∈ written, ∃ path text earlier between,
      .file path text ∈ steps ∧ Keeps earlier t between ∧ between.locate path = .ok q := by
  induction steps generalizing t with
  | nil =>
    obtain ⟨rfl, -⟩ := Prod.mk.inj h
    exact ⟨[], .refl t, by simp⟩
  | cons step steps ih =>
    obtain ⟨next, hnext, hrest⟩ := take_cons_eq h
    obtain ⟨first, hfirst, hplaces⟩ := keeps_of_step hnext
    obtain ⟨others, hothers, hmore⟩ := ih hrest
    refine ⟨first ++ others, hfirst.trans hothers, fun q hq => ?_⟩
    rcases List.mem_append.1 hq with hq | hq
    · obtain ⟨path, text, rfl, hpath⟩ := hplaces q hq
      exact ⟨path, text, [], t, List.mem_cons_self, .refl t, hpath⟩
    · obtain ⟨path, text, earlier, between, hmem, hbetween, hpath⟩ := hmore q hq
      exact ⟨path, text, first ++ earlier, between, List.mem_cons_of_mem _ hmem,
        hfirst.trans hbetween, hpath⟩

/-! ### Reading what was written -/

theorem Holds.lookup (h : t.Holds p place s) : t.lookup p = .ok (.file s.toUTF8.toList) :=
  lookup_eq_ok.2 ⟨place, h.locate, h.file⟩

theorem Keeps.holds (h : Keeps written t t') (hp : t.Holds p place s) (hplace : place ∉ written) :
    t'.Holds p place s :=
  ⟨h.locate hp.locate, h.node place _ hplace hp.file⟩

theorem Holds.contains (h : t.Holds p place s) : t.contains p = .ok true :=
  contains_eq_true.2 ⟨_, h.lookup⟩

theorem Holds.readText_unified (h : t.Holds p place s) :
    t.readText p = .ok (.ofList (unifyNewlines s.toList)) := by
  have hbytes : t.readBytes p = .ok s.toUTF8.toList := by
    rw [readBytes, h.lookup]
    rfl
  rw [FileTree.readText, hbytes]
  dsimp only [bind, Except.bind]
  rw [decodeUtf8_toUTF8]

theorem Holds.readText (h : t.Holds p place s) (hs : '\r' ∉ s.toList) : t.readText p = .ok s := by
  rw [h.readText_unified, unifyNewlines_of_notMem hs, String.ofList_toList]

theorem exists_file_of_readText {text : String} (h : t.readText p = .ok text) :
    ∃ bytes, t.lookup p = .ok (.file bytes) := by
  obtain ⟨bytes, hbytes, -⟩ := bind_eq_ok_iff.1 h
  obtain ⟨node, hnode, hfile⟩ := bind_eq_ok_iff.1 hbytes
  cases node with
  | directory => cases hfile
  | file found => exact ⟨found, hnode⟩

theorem contains_of_readText {text : String} (h : t.readText p = .ok text) :
    t.contains p = .ok true := by
  obtain ⟨bytes, hfile⟩ := exists_file_of_readText h
  exact contains_eq_true.2 ⟨_, hfile⟩

end SqlPipeline.FileTree
