/-
  SqlPipeline/Proofs/FileTree/Way.lean
  ====================================
  **The way to a path, and what steps put there.**

  A path is followed part by part, and two dots go up again.  The places that are passed make up
  its way.  If no file stands on it, a directory is made together with all that is missing on the
  way, and nothing else (`ensureDirectory_eq`).  So what a list of steps leaves behind can be told
  from the tree that it starts from: the files that it writes stand over the tree, and the
  directories and files that it only adds stand under it (`take_eq`).

  The way of a path may leave a place again by two dots.  Where the place is missing, a directory
  is made there that is not around the one that the path is for.  A path is straight if this does
  not happen (`IsStraight`).
-/
import SqlPipeline.Proofs.FileTree.Fresh

namespace SqlPipeline.FileTree

variable {t t' u : FileTree} {p : Path} {place q here parts : List String} {n : FileNode}
  {name path : String}

/-! ### Ways -/

/-- Where a part leads from a directory. -/
def onward (here : List String) (part : String) : List String :=
  if part == ".." then here.dropLast else here ++ [part]

/-- The place of a path, once nothing is missing on its way. -/
def placeOf (t : FileTree) (p : Path) : List String :=
  p.parts.foldl onward (t.start p)

/-- The places that are passed on the way to a path, its own being the last. -/
def way (t : FileTree) (p : Path) : List (List String) :=
  p.parts.scanl onward (t.start p)

theorem onward_of_ne (h : name ≠ "..") (here : List String) : onward here name = here ++ [name] := by
  rw [onward, if_neg (by simpa using h)]

theorem onward_up (here : List String) : onward here ".." = here.dropLast :=
  rfl

theorem placeOf_child (t : FileTree) (p : Path) (name : String) :
    t.placeOf (p.child name) = onward (t.placeOf p) name := by
  rw [placeOf, Path.child, List.foldl_append]
  rfl

theorem way_child (t : FileTree) (p : Path) (name : String) :
    t.way (p.child name) = t.way p ++ [onward (t.placeOf p) name] := by
  rw [way, Path.child, List.scanl_append]
  rfl

theorem placeOf_mem_way (t : FileTree) (p : Path) : t.placeOf p ∈ t.way p := by
  have hlast : (t.way p).getLast? = some (t.placeOf p) := by
    rw [way, List.getLast?_scanl]
    rfl
  exact List.mem_of_getLast? hlast

theorem placeOf_congr (h : t'.home = t.home) (p : Path) : t'.placeOf p = t.placeOf p := by
  rw [placeOf, placeOf, start, start, h]

theorem way_congr (h : t'.home = t.home) (p : Path) : t'.way p = t.way p := by
  rw [way, way, start, start, h]

theorem parent_child (p : Path) (name : String) : (p.child name).parent = p := by
  simp [Path.parent, Path.child]

/-- A path has no parts, or is that of an entry of another. -/
theorem eq_child_or (p : Path) : p.parts = [] ∨ ∃ (above : Path) (name : String), p = above.child name := by
  rcases List.eq_nil_or_concat p.parts with hnil | ⟨parts, name, hparts⟩
  · exact Or.inl hnil
  · exact Or.inr ⟨⟨p.root, parts⟩, name, by rw [Path.child, ← List.concat_eq_append, ← hparts]⟩

/-- That a path is one that the file system admits. -/
structure Fits (p : Path) : Prop where
  named : ∀ part ∈ p.parts, part ≠ ""
  noNull : ∀ part ∈ p.parts, '\x00' ∉ part.toList
  short : ∀ part ∈ p.parts, part.utf8ByteSize ≤ 255
  within : p.text.utf8ByteSize ≤ longestPath

instance (p : Path) : Decidable (Fits p) :=
  decidable_of_iff ((∀ part ∈ p.parts, part ≠ "" ∧ '\x00' ∉ part.toList ∧ part.utf8ByteSize ≤ 255)
      ∧ p.text.utf8ByteSize ≤ longestPath)
    ⟨fun h => ⟨fun part hpart => (h.1 part hpart).1, fun part hpart => (h.1 part hpart).2.1,
        fun part hpart => (h.1 part hpart).2.2, h.2⟩,
      fun h => ⟨fun part hpart => ⟨h.named part hpart, h.noNull part hpart, h.short part hpart⟩,
        h.within⟩⟩

theorem Fits.of_child (h : Fits (p.child name)) : Fits p where
  named part hpart := h.named part (List.mem_append_left _ hpart)
  noNull part hpart := h.noNull part (List.mem_append_left _ hpart)
  short part hpart := h.short part (List.mem_append_left _ hpart)
  within := Nat.le_trans (utf8ByteSize_text_le p (h.named name (List.mem_append_right _ (by simp))))
    h.within

theorem Fits.locate (h : Fits p) (t : FileTree) :
    t.locate p = t.follow p.text (t.start p) p.parts := by
  have hnull : ¬ (p.parts.any fun part => part.toList.contains '\x00') = true := by
    simpa using h.noNull
  rw [locate_eq, if_neg hnull, if_neg (Nat.not_lt.2 h.within)]
  rfl

theorem follow_concat_of_way (hshort : ∀ part ∈ parts ++ [name], part.utf8ByteSize ≤ 255)
    (hway : ∀ q ∈ parts.scanl onward here, t.node? q = some .directory) :
    t.follow path here (parts ++ [name]) = .ok (onward (parts.foldl onward here) name) := by
  induction parts generalizing here with
  | nil =>
    rw [List.nil_append, follow, if_neg (Nat.not_lt.2 (hshort name (by simp))),
      hway here (by simp)]
    rfl
  | cons part parts ih =>
    rw [List.scanl_cons, List.forall_mem_cons] at hway
    rw [List.cons_append, follow, if_neg (Nat.not_lt.2 (hshort part (by simp))), hway.1]
    exact ih (fun x hx => hshort x (List.mem_cons_of_mem _ hx)) hway.2

theorem eq_directory_or_none {found : Option FileNode} (h : ∀ bytes, found ≠ some (.file bytes)) :
    found = some .directory ∨ found = none := by
  cases found with
  | none => exact Or.inr rfl
  | some n =>
    cases n with
    | directory => exact Or.inl rfl
    | file bytes => exact absurd rfl (h bytes)

theorem or_directory {found : Option FileNode} (h : ∀ bytes, found ≠ some (.file bytes)) :
    found.or (some .directory) = some .directory := by
  rcases eq_directory_or_none h with rfl | rfl <;> rfl

theorem follow_concat_of_gap (hshort : ∀ part ∈ parts ++ [name], part.utf8ByteSize ≤ 255)
    (hclear : ∀ q ∈ parts.scanl onward here, ∀ bytes, t.node? q ≠ some (.file bytes))
    (hgap : ¬ ∀ q ∈ parts.scanl onward here, t.node? q = some .directory) :
    t.follow path here (parts ++ [name]) = .error (.missing path) := by
  induction parts generalizing here with
  | nil =>
    rw [List.nil_append, follow, if_neg (Nat.not_lt.2 (hshort name (by simp)))]
    rcases eq_directory_or_none (hclear here (by simp)) with hnode | hnode
    · exact absurd (by simpa using hnode) hgap
    · rw [hnode]
  | cons part parts ih =>
    rw [List.scanl_cons, List.forall_mem_cons] at hclear hgap
    rw [List.cons_append, follow, if_neg (Nat.not_lt.2 (hshort part (by simp)))]
    rcases eq_directory_or_none hclear.1 with hnode | hnode
    · rw [hnode]
      exact ih (fun x hx => hshort x (List.mem_cons_of_mem _ hx)) hclear.2
        fun h => hgap ⟨hnode, h⟩
    · rw [hnode]

/-- That no file stands on the way to a path. -/
def IsClear (t : FileTree) (p : Path) : Prop :=
  ∀ q ∈ t.way p, ∀ bytes, t.node? q ≠ some (.file bytes)

/-- That the way to a path leads through directories. -/
def IsPaved (t : FileTree) (p : Path) : Prop :=
  ∀ q ∈ t.way p, t.node? q = some .directory

theorem isClear_iff : t.IsClear p ↔ ∀ q ∈ t.way p, t.node? q = some .directory ∨ t.node? q = none :=
  forall₂_congr fun _ _ => ⟨eq_directory_or_none, by rintro (h | h) bytes <;> simp [h]⟩

theorem IsClear.of_child (h : t.IsClear (p.child name)) : t.IsClear p := fun q hq =>
  h q (way_child t p name ▸ List.mem_append_left _ hq)

theorem IsPaved.locate_child (h : t.IsPaved p) (hfits : Fits (p.child name)) :
    t.locate (p.child name) = .ok (onward (t.placeOf p) name) := by
  rw [hfits.locate]
  exact follow_concat_of_way hfits.short h

theorem IsClear.locate_child (h : t.IsClear p) (hgap : ¬ t.IsPaved p) (hfits : Fits (p.child name)) :
    t.locate (p.child name) = .error (.missing (p.child name).text) := by
  rw [hfits.locate]
  exact follow_concat_of_gap hfits.short h hgap

/-- Where no file is in the way, relative paths start from a directory. -/
theorem IsClear.start (h : t.IsClear p) : t.node? (t.start p) = some .directory := by
  have hclear : ∀ bytes, t.node? (t.start p) ≠ some (.file bytes) := by
    refine h _ ?_
    rw [way]
    cases p.parts <;> simp
  have hhome : (t.start p).isPrefixOf t.home = true := by
    rw [FileTree.start]
    split
    · rfl
    · exact List.isPrefixOf_iff_prefix.2 List.prefix_rfl
  rw [node?] at hclear ⊢
  cases hnode : t.nodes.lookup (t.start p) with
  | none => simp [hhome]
  | some n =>
    cases n with
    | directory => rfl
    | file bytes =>
      rw [hnode] at hclear
      exact absurd rfl (hclear bytes)

/-- A path whose way leads through directories leads to one. -/
theorem IsPaved.leadsTo (h : t.IsPaved p) (hfits : Fits p) : t.LeadsTo p (t.placeOf p) where
  directory := h _ (placeOf_mem_way t p)
  locate := by
    rcases eq_child_or p with hnil | ⟨above, name, rfl⟩
    · rw [hfits.locate, hnil, follow, placeOf, hnil]
      rfl
    · rw [placeOf_child]
      exact IsPaved.locate_child (fun q hq => h q (way_child t above name ▸
        List.mem_append_left _ hq)) hfits

theorem IsPaved.contains_child (hpaved : t.IsPaved p) (hfits : Fits (p.child name)) :
    t.contains (p.child name) = .ok (t.node? (t.placeOf (p.child name))).isSome := by
  rw [placeOf_child, contains, find?, FileTree.lookup, hpaved.locate_child hfits]
  dsimp only [bind, Except.bind]
  cases t.node? (onward (t.placeOf p) name) <;> rfl

/-- A path leads to nothing yet if something is missing on its way. -/
theorem IsClear.contains (h : t.IsClear p) (hgap : ¬ t.IsPaved p) (hfits : Fits p) :
    t.contains p = .ok false := by
  rcases eq_child_or p with hnil | ⟨above, name, rfl⟩
  · refine absurd (fun q hq => ?_) hgap
    rw [way, hnil, List.scanl_nil, List.mem_singleton] at hq
    exact hq ▸ h.start
  · by_cases hpaved : t.IsPaved above
    · rw [hpaved.contains_child hfits]
      rcases eq_directory_or_none (h _ (placeOf_mem_way t _)) with hnode | hnode
      · refine absurd (fun q hq => ?_) hgap
        rw [way_child] at hq
        rcases List.mem_append.1 hq with hq | hq
        · exact hpaved q hq
        · rw [List.mem_singleton.1 hq, ← placeOf_child, hnode]
      · rw [hnode]
        rfl
    · rw [FileTree.contains, find?, FileTree.lookup, h.of_child.locate_child hpaved hfits]
      rfl

/-! ### Paths below a path -/

/-- The path that goes on from another. -/
def below (p : Path) (parts : List String) : Path :=
  ⟨p.root, p.parts ++ parts⟩

theorem placeOf_below (t : FileTree) (p : Path) (hparts : ".." ∉ parts) :
    t.placeOf (below p parts) = t.placeOf p ++ parts := by
  induction parts using List.reverseRecOn with
  | nil => rw [below, List.append_nil, List.append_nil]
  | append_singleton parts name ih =>
    rw [List.mem_append, not_or, List.mem_singleton] at hparts
    have hchild : below p (parts ++ [name]) = (below p parts).child name := by
      rw [below, below, Path.child, List.append_assoc]
    rw [hchild, placeOf_child, onward_of_ne (Ne.symm hparts.2), ih hparts.1, List.append_assoc]

theorem mem_way_below (hparts : ".." ∉ parts) : q ∈ t.way (below p parts)
    ↔ q ∈ t.way p ∨ ∃ more, more ≠ [] ∧ more <+: parts ∧ q = t.placeOf p ++ more := by
  induction parts using List.reverseRecOn with
  | nil =>
    rw [below, List.append_nil]
    refine ⟨Or.inl, Or.rec id ?_⟩
    rintro ⟨more, hmore, hprefix, -⟩
    exact absurd (List.prefix_nil.1 hprefix) hmore
  | append_singleton parts name ih =>
    have hup := hparts
    rw [List.mem_append, not_or, List.mem_singleton] at hparts
    have hchild : below p (parts ++ [name]) = (below p parts).child name := by
      rw [below, below, Path.child, List.append_assoc]
    rw [hchild, way_child, ← placeOf_child, ← hchild, placeOf_below t p hup, List.mem_append,
      List.mem_singleton, ih hparts.1, or_assoc]
    refine or_congr_right ⟨?_, ?_⟩
    · rintro (⟨more, hmore, hprefix, hq⟩ | hq)
      · exact ⟨more, hmore, hprefix.trans (List.prefix_append _ _), hq⟩
      · exact ⟨_, by simp, List.prefix_rfl, hq⟩
    · rintro ⟨more, hmore, hprefix, hq⟩
      rcases List.prefix_concat_iff.1 hprefix with rfl | hprefix
      · exact Or.inr hq
      · exact Or.inl ⟨more, hmore, hprefix, hq⟩

/-- That every place on the way to a path is around its own, or is a directory already. -/
def IsStraight (t : FileTree) (p : Path) : Prop :=
  ∀ q ∈ t.way p, q <+: t.placeOf p ∨ t.node? q = some .directory

/-- The way of a straight path leads through directories if something stands at its end. -/
theorem IsStraight.isPaved (h : t.IsStraight p) (hclosed : t.IsClosed)
    (hn : t.node? (t.placeOf p ++ parts) = some n) (hparts : parts ≠ []) : t.IsPaved p := by
  intro q hq
  rcases h q hq with ⟨more, hmore⟩ | hq
  · rw [← hmore, List.append_assoc] at hn
    exact hclosed.node?_around hn (by simp [hparts])
  · exact hq

/-! ### Making directories -/

theorem IsClosed.put (h : t.IsClosed) (hplace : t.node? place = some .directory)
    (hkept : t.node? (place ++ [name]) = some .directory → n = .directory) :
    (t.put (place ++ [name]) n).IsClosed := by
  intro around entry m hm
  rw [node?_put] at hm ⊢
  have haround : t.node? around = some .directory := by
    split at hm
    · rename_i heq
      rw [(List.append_inj' heq rfl).1]
      exact hplace
    · exact h around entry m hm
  split
  · rename_i heq
    rw [hkept (heq ▸ haround)]
  · exact haround

/-- That some places hold directories, and the others what they held before. -/
structure Makes (places : List (List String)) (t t' : FileTree) : Prop where
  home : t'.home = t.home
  closed : t'.IsClosed
  node : ∀ q, t'.node? q = if q ∈ places then some .directory else t.node? q

/-- What two dots lead to is around a directory, and so is there. -/
theorem IsPaved.ne_up (hpaved : t.IsPaved p) (hclosed : t.IsClosed)
    (hmissing : t.node? (onward (t.placeOf p) name) = none) : name ≠ ".." := by
  rintro rfl
  have hplace := hpaved _ (placeOf_mem_way t p)
  rw [onward_up] at hmissing
  rcases List.eq_nil_or_concat (t.placeOf p) with hnil | ⟨around, entry, hconcat⟩
  · rw [hnil] at hmissing hplace
    cases hplace.symm.trans hmissing
  · rw [hconcat, List.concat_eq_append, List.dropLast_concat] at hmissing
    rw [hconcat, List.concat_eq_append] at hplace
    cases (hclosed _ _ _ hplace).symm.trans hmissing

/-- The last step of making a directory. -/
theorem IsPaved.makes_child (hpaved : t.IsPaved p) (hclosed : t.IsClosed)
    (hfits : Fits (p.child name))
    (hfree : ∀ bytes, t.node? (onward (t.placeOf p) name) ≠ some (.file bytes)) :
    ∃ t', Makes (t.way (p.child name)) t t' ∧ (t.makeDirectory (p.child name) = .ok t'
      ∨ t' = t ∧ t.makeDirectory (p.child name) = .error (.exists_ (p.child name).text)
        ∧ t.lookup (p.child name) = .ok .directory) := by
  have hlocate := hpaved.locate_child hfits
  have hplace := hpaved _ (placeOf_mem_way t p)
  rw [makeDirectory, hlocate]
  dsimp only [bind, Except.bind]
  cases hnode : t.node? (onward (t.placeOf p) name) with
  | some n =>
    cases n with
    | file bytes => exact absurd hnode (hfree bytes)
    | directory =>
      refine ⟨t, ⟨rfl, hclosed, fun q => ?_⟩, Or.inr ⟨rfl, rfl, lookup_eq_ok.2 ⟨_, hlocate, hnode⟩⟩⟩
      split
      · rename_i hq
        rw [way_child] at hq
        rcases List.mem_append.1 hq with hq | hq
        · exact hpaved q hq
        · exact List.mem_singleton.1 hq ▸ hnode
      · rfl
  | none =>
    have hname := hpaved.ne_up hclosed hnode
    rw [way_child, onward_of_ne hname]
    rw [onward_of_ne hname] at hnode
    rw [List.dropLast_concat, hplace]
    refine ⟨_, ⟨home_put _ _ _, hclosed.put hplace fun _ => rfl, fun q => ?_⟩, Or.inl rfl⟩
    rw [node?_put]
    by_cases hq : q = t.placeOf p ++ [name]
    · simp [hq]
    · rw [if_neg hq]
      split
      · rename_i hmem
        rcases List.mem_append.1 hmem with hmem | hmem
        · exact hpaved q hmem
        · exact absurd (List.mem_singleton.1 hmem) hq
      · rfl

theorem Makes.isPaved (h : Makes (t.way p) t t') : t'.IsPaved p := by
  intro q hq
  rw [way_congr h.home] at hq
  rw [h.node, if_pos hq]

/-- A directory in one that has been made with all on its way. -/
theorem Makes.child {made : FileTree} (hmade : Makes (t.way p) t made)
    (h : Makes (made.way (p.child name)) made t') : Makes (t.way (p.child name)) t t' where
  home := h.home.trans hmade.home
  closed := h.closed
  node q := by
    rw [h.node, hmade.node, way_congr hmade.home, way_child]
    by_cases hq : q ∈ t.way p
    · simp [hq]
    · simp [hq]

/-- The directory that a path starts from is there. -/
theorem IsClear.ensureDirectoryWithin_start (hclear : t.IsClear p) (hclosed : t.IsClosed)
    (hfits : Fits p) (hnil : p.parts = []) (fuel : Nat) :
    t.ensureDirectoryWithin (fuel + 1) p = .ok t ∧ Makes (t.way p) t t := by
  have hlocate : t.locate p = .ok (t.start p) := by
    rw [hfits.locate, hnil, follow]
  have hthere : t.makeDirectory p = .error (.exists_ p.text) := by
    rw [makeDirectory, hlocate]
    dsimp only [bind, Except.bind]
    rw [hclear.start]
  refine ⟨?_, rfl, hclosed, fun q => ?_⟩
  · rw [ensureDirectoryWithin, hthere, lookup_eq_ok.2 ⟨_, hlocate, hclear.start⟩]
    rfl
  · rw [way, hnil]
    split
    · rename_i hq
      rw [List.mem_singleton.1 hq, hclear.start]
    · rfl

theorem ensureDirectoryWithin_eq (hclosed : t.IsClosed) {fuel : Nat} (hfuel : p.parts.length < fuel)
    (hfits : Fits p) (hclear : t.IsClear p) :
    ∃ t', t.ensureDirectoryWithin fuel p = .ok t' ∧ Makes (t.way p) t t' := by
  induction fuel generalizing p with
  | zero => exact absurd hfuel (Nat.not_lt_zero _)
  | succ fuel ih =>
    rcases eq_child_or p with hnil | ⟨above, name, rfl⟩
    · exact ⟨t, hclear.ensureDirectoryWithin_start hclosed hfits hnil fuel⟩
    rw [ensureDirectoryWithin]
    have hfree := fun bytes => hclear (onward (t.placeOf above) name)
      (way_child t above name ▸ List.mem_append_right _ (by simp)) bytes
    by_cases hpaved : t.IsPaved above
    · obtain ⟨t', hmakes, hmade | ⟨rfl, hthere, hlookup⟩⟩ :=
        hpaved.makes_child hclosed hfits hfree
      · exact ⟨t', by rw [hmade], hmakes⟩
      · exact ⟨t', by rw [hthere, hlookup]; rfl, hmakes⟩
    · -- something is missing on the way, so the directory around it is made first
      have hmissing : t.makeDirectory (above.child name)
          = .error (.missing (above.child name).text) := by
        rw [makeDirectory, hclear.of_child.locate_child hpaved hfits]
        rfl
      have hempty : ((above.child name).parts.isEmpty) = false := by
        simp [Path.child]
      have hless : above.parts.length < fuel := by
        simpa [Path.child] using hfuel
      obtain ⟨made, hensured, hmade⟩ := ih hless hfits.of_child hclear.of_child
      have hfreeMade : ∀ bytes, made.node? (onward (made.placeOf above) name)
          ≠ some (.file bytes) := by
        intro bytes
        rw [placeOf_congr hmade.home, hmade.node]
        split
        · simp
        · exact hfree bytes
      obtain ⟨t', hmakes, hlast⟩ := hmade.isPaved.makes_child hmade.closed hfits hfreeMade
      refine ⟨t', ?_, hmade.child hmakes⟩
      simp only [hmissing, hempty, parent_child, hensured, Bool.false_eq_true, if_false]
      rcases hlast with hlast | ⟨rfl, hthere, hlookup⟩
      · rw [hlast]
      · rw [hthere, hlookup]
        rfl

/-- **A directory is made with all that is missing on its way, and nothing else is.** -/
theorem ensureDirectory_eq (hclosed : t.IsClosed) (hfits : Fits p) (hclear : t.IsClear p) :
    ∃ t', t.ensureDirectory p = .ok t' ∧ Makes (t.way p) t t' :=
  ensureDirectoryWithin_eq hclosed (Nat.lt_succ_self _) hfits hclear

/-! ### Steps -/

/-- The path of a step. -/
def pathOf : FileStep → Path
  | .directory path | .file path _ | .newFile path _ => path

/-- Whether a step makes a directory. -/
def makesDirectory : FileStep → Bool
  | .directory _ => true
  | .file _ _ | .newFile _ _ => false

/-- What a step puts in place of what is there. -/
def written (t : FileTree) : FileStep → List (List String × FileNode)
  | .file path text => [(t.placeOf path, .file text.toUTF8.toList)]
  | .directory _ | .newFile _ _ => []

/-- What a step puts where nothing is. -/
def added (t : FileTree) : FileStep → List (List String × FileNode)
  | .directory path => (t.way path).map fun q => (q, .directory)
  | .newFile path text => [(t.placeOf path, .file text.toUTF8.toList)]
  | .file _ _ => []

/-- That a tree is another with nodes over it, and with nodes where the other has none. -/
structure Overlays (upper lower : List (List String × FileNode)) (t t' : FileTree) : Prop where
  home : t'.home = t.home
  closed : t'.IsClosed
  node : ∀ q, t'.node? q = (upper.lookup q).or ((t.node? q).or (lower.lookup q))

variable {upper lower : List (List String × FileNode)} {step : FileStep} {steps : List FileStep}
  {made : List (List String)}

theorem written_congr (h : t'.home = t.home) (step : FileStep) : t'.written step = t.written step := by
  cases step <;> simp only [written, placeOf_congr h]

theorem added_congr (h : t'.home = t.home) (step : FileStep) : t'.added step = t.added step := by
  cases step <;> simp only [added, placeOf_congr h, way_congr h]

theorem Overlays.refl (h : t.IsClosed) : Overlays [] [] t t :=
  ⟨rfl, h, fun q => by simp⟩

/-- What is put later is above what was put before, and below it where it is only added. -/
theorem Overlays.trans {upper' lower' : List (List String × FileNode)} (h : Overlays upper lower t t')
    (h' : Overlays upper' lower' t' u) : Overlays (upper' ++ upper) (lower ++ lower') t u where
  home := h'.home.trans h.home
  closed := h'.closed
  node q := by
    rw [h'.node, h.node, List.lookup_append, List.lookup_append, Option.or_assoc, Option.or_assoc,
      Option.or_assoc]

theorem lookup_map_directory (places : List (List String)) (q : List String) :
    (places.map fun r => (r, FileNode.directory)).lookup q
      = if q ∈ places then some .directory else none := by
  induction places with
  | nil => rfl
  | cons r places ih =>
    by_cases hr : q = r
    · simp [hr]
    · simp only [List.map_cons, List.lookup_cons, beq_false_of_ne hr, ih, List.mem_cons, hr,
        false_or]

theorem lookup_singleton (place q : List String) (n : FileNode) :
    [(place, n)].lookup q = if q = place then some n else none := by
  by_cases hq : q = place
  · simp [hq]
  · simp [hq]

theorem Makes.overlays {places : List (List String)} (h : Makes places t t')
    (hclear : ∀ q ∈ places, ∀ bytes, t.node? q ≠ some (.file bytes)) :
    Overlays [] (places.map fun q => (q, .directory)) t t' where
  home := h.home
  closed := h.closed
  node q := by
    rw [h.node, List.lookup_nil, Option.none_or, lookup_map_directory]
    split
    · rename_i hq
      exact (or_directory (hclear q hq)).symm
    · rw [Option.or_none]

/-- That a path ends in a name. -/
def EndsInName (p : Path) : Prop :=
  ∃ (above : Path) (name : String), p = above.child name ∧ name ≠ ".."

theorem IsPaved.overlays_writeText (hpaved : t.IsPaved p) (hclosed : t.IsClosed)
    (hfits : Fits (p.child name)) (hname : name ≠ "..")
    (hfree : t.node? (t.placeOf (p.child name)) ≠ some .directory) (text : String) :
    ∃ t', t.writeText (p.child name) text = .ok t'
      ∧ Overlays [(t.placeOf (p.child name), .file text.toUTF8.toList)] [] t t' := by
  have hlocate := hpaved.locate_child hfits
  have hplace := hpaved _ (placeOf_mem_way t p)
  rw [placeOf_child, onward_of_ne hname] at hfree ⊢
  rw [onward_of_ne hname] at hlocate
  refine ⟨t.put (t.placeOf p ++ [name]) (.file text.toUTF8.toList), ?_, home_put _ _ _,
    hclosed.put hplace fun hdirectory => absurd hdirectory hfree, fun q => ?_⟩
  · rw [writeText, writeBytes, hlocate]
    dsimp only [bind, Except.bind]
    cases hnode : t.node? (t.placeOf p ++ [name]) with
    | none => rw [List.dropLast_concat, hplace]
    | some n =>
      cases n with
      | directory => exact absurd hnode hfree
      | file bytes => rfl
  · rw [node?_put, lookup_singleton, List.lookup_nil, Option.or_none]
    by_cases hq : q = t.placeOf p ++ [name]
    · simp [hq]
    · simp [hq]

/-- That a step can be taken. -/
def IsReady (t : FileTree) : FileStep → Prop
  | .directory path => t.IsClear path
  | .file path _ => t.IsPaved path.parent ∧ t.node? (t.placeOf path) ≠ some .directory
  | .newFile path _ => t.IsPaved path.parent

/-- **What a step does that can be taken.** -/
theorem overlays_of_isReady (hclosed : t.IsClosed) (hfits : Fits (pathOf step))
    (hnamed : makesDirectory step = false → EndsInName (pathOf step)) (hready : t.IsReady step) :
    ∃ t', step.take t = .ok t' ∧ Overlays (t.written step) (t.added step) t t' := by
  cases step with
  | directory path =>
    obtain ⟨t', hmade, hmakes⟩ := ensureDirectory_eq hclosed hfits hready
    exact ⟨t', hmade, hmakes.overlays hready⟩
  | file path text =>
    obtain ⟨above, name, rfl, hname⟩ := hnamed rfl
    obtain ⟨hpaved, hfree⟩ := hready
    rw [parent_child] at hpaved
    exact IsPaved.overlays_writeText hpaved hclosed hfits hname hfree text
  | newFile path text =>
    obtain ⟨above, name, rfl, hname⟩ := hnamed rfl
    have hpaved : t.IsPaved above := parent_child above name ▸ hready
    rw [FileStep.take, hpaved.contains_child hfits]
    dsimp only [bind, Except.bind]
    cases hnode : t.node? (t.placeOf (above.child name)) with
    | some n =>
      refine ⟨t, rfl, rfl, hclosed, fun q => ?_⟩
      rw [written, added, List.lookup_nil, Option.none_or, lookup_singleton]
      by_cases hq : q = t.placeOf (above.child name)
      · simp [hq, hnode]
      · simp [hq]
    | none =>
      obtain ⟨t', hmade, hover⟩ := hpaved.overlays_writeText hclosed hfits hname
        (by simp [hnode]) text
      refine ⟨t', hmade, hover.home, hover.closed, fun q => ?_⟩
      rw [hover.node, written, added, List.lookup_nil, Option.or_none, Option.none_or,
        lookup_singleton]
      by_cases hq : q = t.placeOf (above.child name)
      · simp [hq, hnode]
      · simp [hq]

/-- That each file of some steps comes after the directories on its way. -/
def IsPrepared (t : FileTree) (made : List (List String)) : List FileStep → Prop
  | [] => True
  | .directory path :: steps => t.IsPrepared (made ++ t.way path) steps
  | .file path _ :: steps | .newFile path _ :: steps =>
      (∀ q ∈ t.way path.parent, q ∈ made) ∧ t.IsPrepared made steps

/-- That nothing is in the way of some steps. -/
structure Admits (t : FileTree) (steps : List FileStep) : Prop where
  fits : ∀ step ∈ steps, Fits (pathOf step)
  named : ∀ step ∈ steps, makesDirectory step = false → EndsInName (pathOf step)
  clear : ∀ path, .directory path ∈ steps → t.IsClear path
  free : ∀ path text, .file path text ∈ steps → t.node? (t.placeOf path) ≠ some .directory
  apart : ∀ path, .directory path ∈ steps → ∀ step ∈ steps, makesDirectory step = false →
    t.placeOf (pathOf step) ∉ t.way path

theorem IsPrepared.congr (h : t.IsPrepared made steps) (hhome : t'.home = t.home) :
    t'.IsPrepared made steps := by
  induction steps generalizing made with
  | nil => trivial
  | cons step steps ih =>
    cases step with
    | directory path =>
      rw [IsPrepared] at h ⊢
      rw [way_congr hhome]
      exact ih h
    | file path text | newFile path text =>
      rw [IsPrepared] at h ⊢
      rw [way_congr hhome]
      exact ⟨h.1, ih h.2⟩

/-- What a step leaves at a place. -/
theorem Overlays.node_cases (h : Overlays (t.written step) (t.added step) t t') (q : List String) :
    t'.node? q = t.node? q
      ∨ (makesDirectory step = false ∧ q = t.placeOf (pathOf step)
        ∧ ∃ bytes, t'.node? q = some (.file bytes))
      ∨ ∃ path, step = .directory path ∧ q ∈ t.way path ∧ t'.node? q = some .directory := by
  have hnode := h.node q
  cases step with
  | directory path =>
    rw [written, added, List.lookup_nil, Option.none_or, lookup_map_directory] at hnode
    split at hnode
    · rename_i hq
      cases hold : t.node? q with
      | none =>
        rw [hold] at hnode
        exact Or.inr (Or.inr ⟨path, rfl, hq, hnode⟩)
      | some n =>
        rw [hold] at hnode
        exact Or.inl hnode
    · rw [Option.or_none] at hnode
      exact Or.inl hnode
  | file path text =>
    rw [written, added, List.lookup_nil, Option.or_none, lookup_singleton] at hnode
    split at hnode
    · rename_i hq
      exact Or.inr (Or.inl ⟨rfl, hq, _, hnode⟩)
    · exact Or.inl hnode
  | newFile path text =>
    rw [written, added, List.lookup_nil, Option.none_or, lookup_singleton] at hnode
    split at hnode
    · rename_i hq
      cases hold : t.node? q with
      | none =>
        rw [hold] at hnode
        exact Or.inr (Or.inl ⟨rfl, hq, _, hnode⟩)
      | some n =>
        rw [hold] at hnode
        exact Or.inl hnode
    · rw [Option.or_none] at hnode
      exact Or.inl hnode

/-- After the first of some steps nothing is in the way of the others. -/
theorem Admits.tail (h : t.Admits (step :: steps))
    (hover : Overlays (t.written step) (t.added step) t t') : t'.Admits steps where
  fits later hlater := h.fits later (List.mem_cons_of_mem _ hlater)
  named later hlater := h.named later (List.mem_cons_of_mem _ hlater)
  clear path hpath q hq bytes hfile := by
    rw [way_congr hover.home] at hq
    rcases hover.node_cases q with heq | ⟨hmakes, heq, -⟩ | ⟨-, -, -, hdirectory⟩
    · exact h.clear path (List.mem_cons_of_mem _ hpath) q hq bytes (heq ▸ hfile)
    · exact h.apart path (List.mem_cons_of_mem _ hpath) step List.mem_cons_self hmakes (heq ▸ hq)
    · rw [hdirectory] at hfile
      cases hfile
  free path text hpath hdirectory := by
    rw [placeOf_congr hover.home] at hdirectory
    rcases hover.node_cases (t.placeOf path) with heq | ⟨-, -, bytes, hfile⟩ | ⟨above, rfl, hq, -⟩
    · exact h.free path text (List.mem_cons_of_mem _ hpath) (heq ▸ hdirectory)
    · rw [hfile] at hdirectory
      cases hdirectory
    · exact h.apart above List.mem_cons_self _ (List.mem_cons_of_mem _ hpath) rfl hq
  apart path hpath later hlater hmakes := by
    rw [placeOf_congr hover.home, way_congr hover.home]
    exact h.apart path (List.mem_cons_of_mem _ hpath) later (List.mem_cons_of_mem _ hlater) hmakes

/-- The way to a directory that has been made leads through directories. -/
theorem Overlays.isPaved {path : Path}
    (h : Overlays (t.written (.directory path)) (t.added (.directory path)) t t')
    (hclear : t.IsClear path) : t'.IsPaved path := by
  intro q hq
  rw [way_congr h.home] at hq
  rw [h.node, written, added, List.lookup_nil, Option.none_or, lookup_map_directory, if_pos hq]
  exact or_directory (hclear q hq)

/-- A step that can be taken takes no directory away. -/
theorem Overlays.directory (h : Overlays (t.written step) (t.added step) t t')
    (hready : t.IsReady step) {q : List String} (hq : t.node? q = some .directory) :
    t'.node? q = some .directory := by
  rw [h.node, hq]
  cases step with
  | directory path | newFile path text => rfl
  | file path text =>
    rw [written, lookup_singleton, if_neg]
    · rfl
    · rintro rfl
      exact hready.2 hq

/-- **What steps do that nothing is in the way of.** -/
theorem take_eq (hclosed : t.IsClosed) (hadmits : t.Admits steps)
    (hmade : ∀ q ∈ made, t.node? q = some .directory) (hprepared : t.IsPrepared made steps) :
    ∃ t', t.take steps = (t', none)
      ∧ Overlays (steps.reverse.flatMap t.written) (steps.flatMap t.added) t t' := by
  induction steps generalizing t made with
  | nil => exact ⟨t, rfl, .refl hclosed⟩
  | cons step steps ih =>
    have hready : t.IsReady step := by
      cases step with
      | directory path => exact hadmits.clear path List.mem_cons_self
      | file path text =>
        exact ⟨fun q hq => hmade q (hprepared.1 q hq), hadmits.free path text List.mem_cons_self⟩
      | newFile path text => exact fun q hq => hmade q (hprepared.1 q hq)
    obtain ⟨next, hnext, hover⟩ := overlays_of_isReady hclosed (hadmits.fits step List.mem_cons_self)
      (hadmits.named step List.mem_cons_self) hready
    obtain ⟨made', hmade', hprepared'⟩ : ∃ made', (∀ q ∈ made', next.node? q = some .directory)
        ∧ t.IsPrepared made' steps := by
      cases step with
      | directory path =>
        refine ⟨_, fun q hq => ?_, hprepared⟩
        rcases List.mem_append.1 hq with hq | hq
        · exact hover.directory hready (hmade q hq)
        · exact hover.isPaved hready q (way_congr hover.home path ▸ hq)
      | file path text | newFile path text =>
        exact ⟨made, fun q hq => hover.directory hready (hmade q hq), hprepared.2⟩
    obtain ⟨t', htaken, hrest⟩ := ih hover.closed (hadmits.tail hover) hmade'
      (hprepared'.congr hover.home)
    have hwritten : ∀ steps : List FileStep, steps.flatMap next.written = steps.flatMap t.written :=
      fun steps => by simp only [List.flatMap, funext (written_congr hover.home)]
    have hadded : steps.flatMap next.added = steps.flatMap t.added := by
      simp only [List.flatMap, funext (added_congr hover.home)]
    rw [hwritten, hadded] at hrest
    refine ⟨t', by rw [take_cons_of_ok hnext, htaken], ?_⟩
    rw [List.reverse_cons, List.flatMap_append, List.flatMap_singleton, List.flatMap_cons]
    exact hover.trans hrest

end SqlPipeline.FileTree
