/-
  SqlPipeline/Proofs/Project/Environment.lean
  ===========================================
  **Where a text is cut for the variables of the environment, and what is put there.**

  A text has exactly one cut at its placeholders: from the left, a placeholder wherever one
  starts and else one character (`existsUnique_isCut`).  The cut says nothing of variables, so
  what is put in place of a placeholder is never looked at again, not even together with what
  stands next to it.  A value is expanded text by text, and is otherwise left as it is
  (`expand_exactly`).
-/
import SqlPipeline.Project.Environment
import SqlPipeline.Proofs.Text.Cut

namespace SqlPipeline.Environment

open Text

variable {env : Environment} {p q : Placeholder} {c : Char} {s rest rest' : List Char} {n : Nat}

/-! ### Placeholders as they are written -/

/-- The end of a placeholder, from behind its name on. -/
def Placeholder.ending (p : Placeholder) : List Char :=
  match p.fallback with
  | none => ['\x7d']
  | some fallback => ':' :: (fallback ++ ['\x7d'])

/-- A placeholder as it stands in a text. -/
def Placeholder.written (p : Placeholder) : List Char :=
  '$' :: '\x7b' :: (p.name ++ p.ending)

/-- That a placeholder can be written: its name is a word, and its default does not close it. -/
structure Placeholder.IsValid (p : Placeholder) : Prop where
  name_ne_nil : p.name ≠ []
  isWord_of_mem : ∀ c ∈ p.name, isWord c = true
  notMem_fallback : ∀ fallback, p.fallback = some fallback → '\x7d' ∉ fallback

theorem Placeholder.ending_cons (p : Placeholder) (rest : List Char) :
    ∃ c tail, isWord c = false ∧ p.ending ++ rest = c :: tail := by
  rw [ending]
  cases p.fallback with
  | none => exact ⟨'\x7d', rest, by decide, rfl⟩
  | some fallback => exact ⟨':', fallback ++ ['\x7d'] ++ rest, by decide, rfl⟩

/-- The name of a placeholder is as long as it can be. -/
theorem Placeholder.IsValid.span_name (h : p.IsValid) (rest : List Char) :
    (p.name ++ (p.ending ++ rest)).takeWhile isWord = p.name
      ∧ (p.name ++ (p.ending ++ rest)).dropWhile isWord = p.ending ++ rest := by
  obtain ⟨c, tail, hc, htail⟩ := p.ending_cons rest
  rw [htail, List.takeWhile_append_of_pos h.isWord_of_mem,
    List.dropWhile_append_of_pos h.isWord_of_mem]
  simp [hc]

/-- **A placeholder is found where it is written,** and as long as it is. -/
theorem placeholder?_written (h : p.IsValid) (rest : List Char) :
    placeholder? (p.written ++ rest) = some (p, p.written.length) := by
  obtain ⟨name, fallback⟩ := p
  obtain ⟨htake, hdrop⟩ := h.span_name rest
  have hname : name.isEmpty = false := List.isEmpty_eq_false_iff.2 h.name_ne_nil
  have hinner : dropPattern? ['$', '\x7b'] ((Placeholder.mk name fallback).written ++ rest)
      = some (name ++ ((Placeholder.mk name fallback).ending ++ rest)) := by
    rw [dropPattern?_eq_some_iff, Placeholder.written]
    simp
  simp only [placeholder?, hinner, htake, hdrop, hname, Option.bind_eq_bind, Option.bind_some]
  cases fallback with
  | none => simp [Placeholder.ending, Placeholder.written]
  | some fallback =>
    have hopen : ∀ c ∈ fallback, (c != '\x7d') = true := by
      intro c hc
      rw [bne_iff_ne]
      rintro rfl
      exact h.notMem_fallback fallback rfl hc
    have hfallback : (fallback ++ ('\x7d' :: rest)).takeWhile (· != '\x7d') = fallback := by
      rw [List.takeWhile_append_of_pos hopen]
      simp
    simp [Placeholder.ending, Placeholder.written, hfallback, Nat.add_assoc]

theorem exists_takeWhile_ne_append (h : c ∈ s) :
    ∃ tail, s = s.takeWhile (· != c) ++ c :: tail := by
  induction s with
  | nil => cases h
  | cons a s ih =>
    by_cases ha : a = c
    · exact ⟨s, by simp [ha]⟩
    · obtain ⟨tail, htail⟩ := ih ((List.mem_cons.1 h).resolve_left (Ne.symm ha))
      have hkeep : (a != c) = true := by simpa using ha
      exact ⟨tail, by rw [List.takeWhile_cons, hkeep, if_pos rfl, List.cons_append, ← htail]⟩

/-- What is found as a placeholder is written there. -/
theorem exists_of_placeholder? (h : placeholder? s = some (p, n)) :
    p.IsValid ∧ n = p.written.length ∧ ∃ rest, s = p.written ++ rest := by
  obtain ⟨inner, hinner, hfound⟩ := Option.bind_eq_some_iff.1 h
  obtain rfl := dropPattern?_eq_some_iff.1 hinner
  have hword : ∀ c ∈ inner.takeWhile isWord, isWord c = true := fun _ hc =>
    List.mem_takeWhile_imp hc
  have hspan : inner = inner.takeWhile isWord ++ inner.dropWhile isWord :=
    List.takeWhile_append_dropWhile.symm
  cases hname : (inner.takeWhile isWord).isEmpty with
  | true => simp [hname] at hfound
  | false =>
    have hne := List.isEmpty_eq_false_iff.1 hname
    simp only [hname, Bool.false_eq_true, if_false] at hfound
    split at hfound
    · -- a closing brace follows the name
      rename_i rest hrest
      obtain ⟨rfl, rfl⟩ := Prod.mk.inj (Option.some.inj hfound)
      rw [hrest] at hspan
      refine ⟨⟨hne, hword, by simp⟩, ?_, rest, ?_⟩
      · simp [Placeholder.written, Placeholder.ending]
      · simpa [Placeholder.written, Placeholder.ending] using hspan
    · -- a default follows the name, up to the next closing brace
      rename_i rest hrest
      rw [hrest] at hspan
      split at hfound
      · cases hfound
      · rename_i hclosed
        obtain ⟨rfl, rfl⟩ := Prod.mk.inj (Option.some.inj hfound)
        have hbrace : '\x7d' ∈ rest := by
          by_contra habsent
          refine hclosed (beq_iff_eq.2 (congrArg List.length ?_))
          refine (List.takeWhile_eq_self_iff.2 fun c hc => ?_).symm
          rw [bne_iff_ne]
          rintro rfl
          exact habsent hc
        obtain ⟨tail, hrestSpan⟩ := exists_takeWhile_ne_append hbrace
        have hopen : '\x7d' ∉ rest.takeWhile (· != '\x7d') := fun hmem => by
          simpa using List.mem_takeWhile_imp hmem
        refine ⟨⟨hne, hword, by simpa using hopen⟩, ?_, tail, ?_⟩
        · simp [Placeholder.written, Placeholder.ending, Nat.add_assoc]
        · simp only [Placeholder.written, Placeholder.ending, List.append_assoc, List.cons_append,
            List.nil_append, ← hrestSpan, ← hspan]
    · cases hfound

theorem placeholder?_eq_none_iff :
    placeholder? s = none ↔ ∀ p : Placeholder, p.IsValid → ¬ p.written <+: s := by
  constructor
  · rintro hnone p hp ⟨rest, rfl⟩
    rw [placeholder?_written hp] at hnone
    cases hnone
  · intro hnone
    cases hfound : placeholder? s with
    | none => rfl
    | some found =>
      obtain ⟨p, n⟩ := found
      obtain ⟨hp, -, rest, rfl⟩ := exists_of_placeholder? hfound
      exact absurd (List.prefix_append _ _) (hnone p hp)

/-- Two placeholders that are written at one place are the same. -/
theorem Placeholder.IsValid.written_inj (hp : p.IsValid) (hq : q.IsValid)
    (h : p.written ++ rest = q.written ++ rest') : p = q ∧ rest = rest' := by
  have hfound := placeholder?_written hp rest
  rw [h, placeholder?_written hq] at hfound
  obtain rfl : q = p := congrArg Prod.fst (Option.some.inj hfound)
  exact ⟨rfl, List.append_cancel_left h⟩

/-! ### The cut of a text -/

/-- A piece of a text: a placeholder, or a character that starts none. -/
inductive Piece where
  | character (c : Char)
  | placeholder (p : Placeholder)

def Piece.written : Piece → List Char
  | character c => [c]
  | placeholder p => p.written

/-- What a piece becomes: a placeholder the value of its variable, if it is set, even to nothing;
    else its default, if it has one, even an empty one; else itself. -/
def Piece.expanded (env : Environment) : Piece → List Char
  | character c => [c]
  | placeholder p =>
      match Entries.find? env (.ofList p.name), p.fallback with
      | some value, _ => value.toList
      | none, some fallback => fallback
      | none, none => p.written

/-- That a text is cut from the left: wherever a placeholder starts it is the next piece, and
    else a character is. -/
inductive IsCut : List Char → List Piece → Prop
  | nil : IsCut [] []
  | placeholder {p : Placeholder} {rest : List Char} {pieces : List Piece} :
      p.IsValid → IsCut rest pieces → IsCut (p.written ++ rest) (.placeholder p :: pieces)
  | character {c : Char} {rest : List Char} {pieces : List Piece} :
      (∀ p : Placeholder, p.IsValid → ¬ p.written <+: c :: rest) → IsCut rest pieces →
      IsCut (c :: rest) (.character c :: pieces)

theorem exists_isCut (s : List Char) : ∃ pieces, IsCut s pieces := by
  induction h : s.length using Nat.strongRecOn generalizing s with
  | ind n ih =>
    cases hfound : placeholder? s with
    | some found =>
      obtain ⟨p, k⟩ := found
      obtain ⟨hp, -, rest, rfl⟩ := exists_of_placeholder? hfound
      have hshorter : rest.length < n := by
        rw [← h, Placeholder.written, List.length_append]
        simp only [List.length_cons]
        omega
      obtain ⟨pieces, hpieces⟩ := ih _ hshorter rest rfl
      exact ⟨_, .placeholder hp hpieces⟩
    | none =>
      cases s with
      | nil => exact ⟨[], .nil⟩
      | cons c rest =>
        obtain ⟨pieces, hpieces⟩ := ih rest.length (by rw [← h]; simp) rest rfl
        exact ⟨_, .character (placeholder?_eq_none_iff.1 hfound) hpieces⟩

theorem IsCut.unique {pieces pieces' : List Piece} (h : IsCut s pieces) (h' : IsCut s pieces') :
    pieces = pieces' := by
  induction h generalizing pieces' with
  | nil =>
    generalize hs : ([] : List Char) = s at h'
    cases h' with
    | nil => rfl
    | placeholder => simp [Placeholder.written] at hs
    | character => cases hs
  | @placeholder p rest pieces hp _ ih =>
    generalize hs : p.written ++ rest = s at h'
    cases h' with
    | nil => simp [Placeholder.written] at hs
    | placeholder hq hpieces =>
      obtain ⟨rfl, rfl⟩ := hp.written_inj hq hs
      rw [ih hpieces]
    | character hnone => exact absurd ⟨rest, hs⟩ (hnone p hp)
  | @character c rest pieces hnone _ ih =>
    generalize hs : c :: rest = s at h'
    cases h' with
    | nil => cases hs
    | placeholder hq hpieces => exact absurd ⟨_, hs.symm⟩ (hnone _ hq)
    | character _ hpieces =>
      obtain ⟨rfl, rfl⟩ := List.cons.inj hs
      rw [ih hpieces]

theorem IsCut.flatMap_written {pieces : List Piece} (h : IsCut s pieces) :
    pieces.flatMap Piece.written = s := by
  induction h with
  | nil => rfl
  | placeholder _ _ ih => rw [List.flatMap_cons, ih]; rfl
  | character _ _ ih => rw [List.flatMap_cons, ih]; rfl

/-- **A text has exactly one cut,** and its pieces are the text again. -/
theorem existsUnique_isCut (s : List Char) :
    ∃! pieces, IsCut s pieces ∧ pieces.flatMap Piece.written = s := by
  obtain ⟨pieces, hpieces⟩ := exists_isCut s
  exact ⟨pieces, ⟨hpieces, hpieces.flatMap_written⟩, fun pieces' h' => h'.1.unique hpieces⟩

/-! ### Texts -/

/-- The characters of a placeholder that has been replaced are passed over. -/
theorem expandChars_skip (env : Environment) (skipped rest : List Char) :
    env.expandChars skipped.length (skipped ++ rest) = env.expandChars 0 rest := by
  induction skipped with
  | nil => rfl
  | cons c skipped ih =>
    rw [List.length_cons, List.cons_append, expandChars, if_pos (Nat.succ_pos _),
      Nat.add_sub_cancel, ih]

theorem valueOf_written (env : Environment) (p : Placeholder) :
    env.valueOf p p.written = (Piece.placeholder p).expanded env := by
  rw [valueOf, Piece.expanded]
  cases Entries.find? env (.ofList p.name) with
  | some value => rfl
  | none => cases p.fallback <;> rfl

/-- A text is expanded piece by piece. -/
theorem IsCut.expandChars {pieces : List Piece} (h : IsCut s pieces) :
    env.expandChars 0 s = pieces.flatMap (·.expanded env) := by
  induction h with
  | nil => rfl
  | @placeholder p rest pieces hp _ ih =>
    have hfound := placeholder?_written hp rest
    have hcons : p.written ++ rest = '$' :: (p.written.tail ++ rest) := rfl
    have hlength : p.written.length - 1 = p.written.tail.length := by simp
    rw [hcons] at hfound ⊢
    rw [Environment.expandChars, if_neg (Nat.lt_irrefl 0), hfound]
    dsimp only
    rw [← hcons, List.take_left, valueOf_written, hlength, expandChars_skip, ih,
      List.flatMap_cons]
  | @character c rest pieces hnone _ ih =>
    rw [Environment.expandChars, if_neg (Nat.lt_irrefl 0), placeholder?_eq_none_iff.2 hnone]
    dsimp only
    rw [ih, List.flatMap_cons]
    rfl

/-- A text without a dollar sign has no placeholder. -/
theorem isCut_of_notMem (h : '$' ∉ s) : IsCut s (s.map .character) := by
  induction s with
  | nil => exact .nil
  | cons c s ih =>
    obtain ⟨hc, hs⟩ := not_or.1 (mt List.mem_cons.2 h)
    refine .character (fun p _ hstart => hc ?_) (ih hs)
    exact (List.cons_prefix_cons.1 hstart).1

theorem expandText_of_notMem (env : Environment) {s : String} (h : '$' ∉ s.toList) :
    env.expandText s = s := by
  have hsame : (s.toList.map Piece.character).flatMap (·.expanded env) = s.toList := by
    rw [List.flatMap_map]
    exact List.flatMap_singleton' s.toList
  rw [expandText, (isCut_of_notMem h).expandChars, hsame, String.ofList_toList]

/-- A text that is one placeholder. -/
theorem expandText_written (env : Environment) (h : p.IsValid) :
    env.expandText (.ofList p.written) = .ofList ((Piece.placeholder p).expanded env) := by
  have hcut : IsCut p.written [.placeholder p] := by
    simpa using IsCut.placeholder h .nil
  rw [expandText, String.toList_ofList, hcut.expandChars, List.flatMap_singleton]

/-! ### Values -/

mutual

/-- That the second value is the first with its texts expanded, each as it is cut. -/
inductive Expands (env : Environment) : Data → Data → Prop
  | text {s : String} {pieces : List Piece} : IsCut s.toList pieces →
      Expands env (.text s) (.text (.ofList (pieces.flatMap (·.expanded env))))
  | list {items items' : List Data} : ExpandsAll env items items' →
      Expands env (.list items) (.list items')
  | map {entries entries' : List (Data × Data)} : ExpandsValues env entries entries' →
      Expands env (.map entries) (.map entries')
  | other {d : Data} : (∀ s, d ≠ .text s) → (∀ items, d ≠ .list items) →
      (∀ entries, d ≠ .map entries) → Expands env d d

/-- The same item by item. -/
inductive ExpandsAll (env : Environment) : List Data → List Data → Prop
  | nil : ExpandsAll env [] []
  | cons {d d' : Data} {items items' : List Data} : Expands env d d' →
      ExpandsAll env items items' → ExpandsAll env (d :: items) (d' :: items')

/-- The same entry by entry, under the same keys. -/
inductive ExpandsValues (env : Environment) : List (Data × Data) → List (Data × Data) → Prop
  | nil : ExpandsValues env [] []
  | cons {k v v' : Data} {entries entries' : List (Data × Data)} : Expands env v v' →
      ExpandsValues env entries entries' →
      ExpandsValues env ((k, v) :: entries) ((k, v') :: entries')

end

mutual

theorem expands_expand (env : Environment) : ∀ d : Data, Expands env d (env.expand d)
  | .text s => by
      obtain ⟨pieces, hpieces⟩ := exists_isCut s.toList
      rw [expand, expandText, hpieces.expandChars]
      exact .text hpieces
  | .list items => by
      rw [expand]
      exact .list (expandsAll_expandAll env items)
  | .map entries => by
      rw [expand]
      exact .map (expandsValues_expandValues env entries)
  | .null | .bool _ | .int _ | .float _ | .date _ | .moment _ | .bytes _ | .tuple _ | .set _
  | .undefined _ | .thing _ _ => by
      rw [expand]
      · exact .other (by simp) (by simp) (by simp)
      all_goals simp

theorem expandsAll_expandAll (env : Environment) :
    ∀ items : List Data, ExpandsAll env items (env.expandAll items)
  | [] => .nil
  | d :: items => .cons (expands_expand env d) (expandsAll_expandAll env items)

theorem expandsValues_expandValues (env : Environment) :
    ∀ entries : List (Data × Data), ExpandsValues env entries (env.expandValues entries)
  | [] => .nil
  | (_, v) :: entries => .cons (expands_expand env v) (expandsValues_expandValues env entries)

end

mutual

theorem Expands.eq_expand {d d' : Data} : Expands env d d' → d' = env.expand d
  | .text hpieces => by rw [expand, expandText, hpieces.expandChars]
  | .list hitems => by rw [expand, hitems.eq_expandAll]
  | .map hentries => by rw [expand, hentries.eq_expandValues]
  | .other htext hlist hmap => by rw [expand] <;> assumption

theorem ExpandsAll.eq_expandAll {items items' : List Data} :
    ExpandsAll env items items' → items' = env.expandAll items
  | .nil => rfl
  | .cons hd hitems => by rw [expandAll, hd.eq_expand, hitems.eq_expandAll]

theorem ExpandsValues.eq_expandValues {entries entries' : List (Data × Data)} :
    ExpandsValues env entries entries' → entries' = env.expandValues entries
  | .nil => rfl
  | .cons hv hentries => by rw [expandValues, hv.eq_expand, hentries.eq_expandValues]

end

/-- **A value is expanded to the value of the same shape,** with the same keys and with
    everything but its texts left as it is, in which each text is cut once, from the left, and
    its placeholders are replaced piece by piece. -/
theorem expand_exactly (env : Environment) :
    (∀ s, ∃! pieces, IsCut s pieces ∧ pieces.flatMap Piece.written = s)
      ∧ ∀ d d', env.expand d = d' ↔ Expands env d d' := by
  refine ⟨existsUnique_isCut, fun d d' => ⟨?_, fun h => h.eq_expand.symm⟩⟩
  rintro rfl
  exact expands_expand env d

/-- A default ends at the first brace, and what is put together of it and of what follows is no
    placeholder, though it reads like one. -/
example : Environment.expandText [("B", "b"), ("EMPTY", "")]
    "$\x7bA:$\x7bB\x7d\x7d$\x7bEMPTY:x\x7d$\x7b\x7d" = "$\x7bB\x7d$\x7b\x7d" := by
  decide +kernel

end SqlPipeline.Environment
