/-
  SqlPipeline/Proofs/Sql/Token.lean
  =================================
  **What one step of cutting a text into tokens can do.**

  A text starts with something that separates tokens, with a quotation, a number, a compound, a
  sign or a word (`Reads`), and a step takes just that (`reads_step`).  Every step takes at least
  one character, so the fuel of the loop never matters and the tokens of a text are what its first
  step takes and the tokens behind it (`scan_cons`).
-/
import SqlPipeline.Proofs.Text.Cut
import SqlPipeline.Proofs.Text.Upper
import SqlPipeline.Sql.Token

namespace SqlPipeline.Sql.Token

open Text

/-! ### What a text can start with -/

/-- That a text starts with a quotation: its body, and what follows it.  Between dollar signs a
    tag may stand. -/
inductive Quotation : (s body after : List Char) → Prop
  | name {s body after} : takeQuoted ['"'] ['"'] s = some (body, after) →
      Quotation ('"' :: s) body after
  | text {s body after} : takeQuoted ['\''] ['\''] s = some (body, after) →
      Quotation ('\'' :: s) body after
  | escaped {c s body after} : c = 'e' ∨ c = 'E' →
      takeQuoted ['\''] ['\'', '\\'] s = some (body, after) →
      Quotation (c :: '\'' :: s) body after
  | national {c s body after} : c = 'n' ∨ c = 'N' →
      takeQuoted ['\''] ['\''] s = some (body, after) → Quotation (c :: '\'' :: s) body after
  | dollars {s body after} : takeQuoted ['$', '$'] ['\''] s = some (body, after) →
      Quotation ('$' :: '$' :: s) body after
  | tagged {c s tag between body after} : c ≠ '$' →
      takeQuoted ['$'] ['\''] (c :: s) = some (tag, between) → between ≠ [] →
      tag.all isDigitLike = false → tag.any isBlank = false →
      takeQuoted ('$' :: (tag ++ ['$'])) ['\''] between = some (body, after) →
      Quotation ('$' :: c :: s) body after

/-- What stands at the start of a text, and what a step makes of it. -/
inductive Reads : (s : List Char) → Step → Prop
  | blank {c rest} : isBlank c = true → Reads (c :: rest) (.skip rest)
  | line {rest} : Reads ('-' :: '-' :: rest) (.skip (dropLine rest))
  | block {rest after} : dropComment ('/', '*') ('*', '/') 0 rest = some after →
      Reads ('/' :: '*' :: rest) (.skip after)
  | braces {rest after} :
      dropComment (Char.ofNat 0x7B, '#') ('#', Char.ofNat 0x7D) 0 rest = some after →
      Reads (Char.ofNat 0x7B :: '#' :: rest) (.skip after)
  | number {c rest} : isDigitLike c = true →
      Reads (c :: rest) (.token (numberAt c rest).1 (numberAt c rest).2)
  | quotation {s body after} : Quotation s body after →
      Reads s (.token ⟨.ofList body, false⟩ after)
  | dollar {rest} : Reads ('$' :: rest) (.token ⟨"$", false⟩ rest)
  | parameter {c rest} : Reads ('$' :: c :: rest) (.token ⟨.ofList ['$', c], false⟩ rest)
  | compound {c rest word after} : upper word ∈ compounds.map String.toList →
      after.length ≤ rest.length → Reads (c :: rest) (.token ⟨.ofList (upper word), false⟩ after)
  | sign {c rest} : isSign c = true → Reads (c :: rest) (.token ⟨.ofList [c], c == ';'⟩ rest)
  | word {c rest} : isBlank c = false → isDigitLike c = false → isSign c = false →
      Reads (c :: rest)
        (.token ⟨.ofList (c :: rest.takeWhile isWordPart), false⟩ (rest.dropWhile isWordPart))
  | unreadable {s} : Reads s .unreadable

variable {s rest after body word : List Char} {c : Char} {t : Token}

/-! ### What is left behind a token -/

theorem dropLine_length_le (s : List Char) : (dropLine s).length ≤ s.length :=
  (List.dropWhile_sublist _).length_le

theorem dropComment_length_le {opener closer : Char × Char} {depth : Nat}
    (h : dropComment opener closer depth s = some after) : after.length ≤ s.length := by
  fun_induction dropComment opener closer depth s with
  | case1 depth a b rest closes hclosed =>
    obtain rfl := Option.some.inj h
    simp only [List.length_cons]
    omega
  | case2 | case5 | case6 => cases h
  | case3 depth a b closes hopen depth' c rest hopens hmore ih =>
    have := ih h
    simp only [List.length_cons]
    omega
  | case4 depth a b closes hopen depth' c rest hopens ih =>
    have := ih h
    simp only [List.length_cons] at this ⊢
    omega

theorem takeQuoted_length_le {close escapes : List Char}
    (h : takeQuoted close escapes s = some (body, after)) : after.length ≤ s.length := by
  fun_induction takeQuoted close escapes s generalizing body after with
  | case1 | case3 => cases h
  | case2 c =>
    obtain ⟨rest, hrest, hafter⟩ := Option.map_eq_some_iff.1 h
    have hlength := dropPattern?_length hrest
    obtain rfl := (Prod.mk.inj hafter).2
    omega
  | case4 c p more hescape hmore ih =>
    obtain ⟨⟨inner, rest⟩, hrest, hafter⟩ := Option.map_eq_some_iff.1 h
    have hlength := ih hrest
    obtain rfl := (Prod.mk.inj hafter).2
    simp only [List.length_cons]
    omega
  | case5 c p more hescape rest hclose =>
    have hlength := dropPattern?_length hclose
    obtain rfl := (Prod.mk.inj (Option.some.inj h)).2
    omega
  | case6 c p more hescape hclose ih =>
    obtain ⟨⟨inner, rest⟩, hrest, hafter⟩ := Option.map_eq_some_iff.1 h
    have hlength := ih hrest
    obtain rfl := (Prod.mk.inj hafter).2
    simp only [List.length_cons] at hlength ⊢
    omega

theorem takeNumber_length_le (point : Bool) (exponent : Nat) (s : List Char) :
    (takeNumber point exponent s).2.length ≤ s.length := by
  induction s generalizing point exponent with
  | nil => simp [takeNumber]
  | cons p rest ih =>
    have hgo : ∀ point exponent, (takeNumber point exponent rest).2.length ≤ (p :: rest).length :=
      fun point exponent => (ih point exponent).trans (Nat.le_succ _)
    rw [takeNumber]
    split
    · exact hgo _ _
    split
    · exact hgo _ _
    split
    · exact hgo _ _
    split
    · exact hgo _ _
    split
    · dsimp only
      split
      · simp only [List.length_drop]
        omega
      · exact Nat.le_refl _
    · exact Nat.le_refl _

theorem numberAt_length_le (d : Char) (rest : List Char) :
    (numberAt d rest).2.length ≤ rest.length := by
  rw [numberAt]
  dsimp only
  split
  · exact Nat.le_refl _
  · exact takeNumber_length_le false 0 rest

/-! ### Compounds -/

/-- What is left of the compounds that start with some characters. -/
theorem mem_narrow {cs key : List Char} {keys : List (List Char)} :
    key ∈ narrow cs keys ↔ cs ++ key ∈ keys := by
  induction cs generalizing keys with
  | nil => rfl
  | cons c cs ih =>
    rw [narrow, ih, List.mem_filterMap]
    constructor
    · rintro ⟨other, hother, hkey⟩
      split at hkey
      · rename_i k rest
        split at hkey
        · rename_i heq
          obtain rfl := Option.some.inj hkey
          rwa [List.cons_append, ← eq_of_beq heq]
        · cases hkey
      · cases hkey
    · intro hmem
      exact ⟨_, hmem, by simp⟩

/-- The character that counts in a compound: any blank as a space. -/
def counted (c : Char) : Char :=
  if isBlank c then ' ' else c

theorem counted_eq (h : counted c ≠ ' ') : isBlank c = false ∧ counted c = c := by
  rw [counted] at h ⊢
  cases hblank : isBlank c
  · exact ⟨rfl, rfl⟩
  · rw [if_pos hblank] at h
    exact absurd rfl h

section Walk

variable {keys : List (List Char)} {seen : List Char} {afterBlank sign : Bool}
  {word? : Option (List Char)}

theorem walk_cons_again (hc : isBlank c = true) :
    walk keys seen true sign word? (c :: rest) = walk keys seen true sign word? rest := by
  rw [walk.eq_def]
  dsimp only
  rw [if_pos (by simp [hc])]

theorem walk_cons_stop (hc : (isBlank c && afterBlank) = false)
    (hkeys : narrow (upperChar (counted c)) keys = []) :
    walk keys seen afterBlank sign word? (c :: rest)
      = ⟨word?, isBlank c || (sign || isSign c), c :: rest⟩ := by
  rw [counted] at hkeys
  rw [walk.eq_def]
  dsimp only
  rw [if_neg (by simp [hc])]
  rw [hkeys]

theorem walk_cons_go (hc : (isBlank c && afterBlank) = false)
    (hkeys : narrow (upperChar (counted c)) keys ≠ []) :
    walk keys seen afterBlank sign word? (c :: rest)
      = walk (narrow (upperChar (counted c)) keys) (counted c :: seen) (isBlank c)
          (sign || isSign c)
          (if (narrow (upperChar (counted c)) keys).any List.isEmpty
            then some (counted c :: seen).reverse else word?) rest := by
  rw [counted] at hkeys ⊢
  rw [walk.eq_def]
  dsimp only
  rw [if_neg (by simp [hc])]
  split
  · rename_i hnone
    exact absurd hnone hkeys
  · rfl

theorem walk_rest_length_le (keys : List (List Char)) (seen : List Char) (afterBlank sign : Bool)
    (word? : Option (List Char)) (s : List Char) :
    (walk keys seen afterBlank sign word? s).rest.length ≤ s.length := by
  induction s generalizing keys seen afterBlank sign word? with
  | nil => exact Nat.le_refl _
  | cons c rest ih =>
    cases hc : isBlank c && afterBlank with
    | true =>
      obtain ⟨hblank, rfl⟩ := Bool.and_eq_true_iff.1 hc
      rw [walk_cons_again hblank]
      exact (ih _ _ _ _ _).trans (Nat.le_succ _)
    | false =>
      by_cases hkeys : narrow (upperChar (counted c)) keys = []
      · rw [walk_cons_stop hc hkeys]
      · rw [walk_cons_go hc hkeys]
        exact (ih _ _ _ _ _).trans (Nat.le_succ _)

/-- Something is taken of a text in which a compound is recognized. -/
theorem walk_rest_length_lt (h : (walk keys seen afterBlank sign none s).word = some word) :
    (walk keys seen afterBlank sign none s).rest.length < s.length := by
  cases s with
  | nil => cases h
  | cons c rest =>
    cases hc : isBlank c && afterBlank with
    | true =>
      obtain ⟨hblank, rfl⟩ := Bool.and_eq_true_iff.1 hc
      rw [walk_cons_again hblank]
      exact Nat.lt_succ_of_le (walk_rest_length_le _ _ _ _ _ _)
    | false =>
      by_cases hkeys : narrow (upperChar (counted c)) keys = []
      · rw [walk_cons_stop hc hkeys] at h
        cases h
      · rw [walk_cons_go hc hkeys]
        exact Nat.lt_succ_of_le (walk_rest_length_le _ _ _ _ _ _)

/-- **What is recognized is a compound in upper case, and, where no blanks are in it, it is what
    stands there.** -/
theorem walk_word (h : (walk keys seen afterBlank sign word? s).word = some word) :
    word? = some word ∨ ∃ more, word = seen.reverse ++ more ∧ upper more ∈ keys
      ∧ (afterBlank = false → ' ' ∉ more → more <+: s) := by
  induction s generalizing keys seen afterBlank sign word? with
  | nil => exact Or.inl h
  | cons c rest ih =>
    cases hc : isBlank c && afterBlank with
    | true =>
      obtain ⟨hblank, rfl⟩ := Bool.and_eq_true_iff.1 hc
      rw [walk_cons_again hblank] at h
      exact (ih h).imp_right fun ⟨more, hword, hkey, _⟩ =>
        ⟨more, hword, hkey, fun hafter => by cases hafter⟩
    | false =>
      by_cases hkeys : narrow (upperChar (counted c)) keys = []
      · rw [walk_cons_stop hc hkeys] at h
        exact Or.inl h
      · rw [walk_cons_go hc hkeys] at h
        rcases ih h with hword | ⟨more, hword, hkey, hfront⟩
        · split at hword
          · rename_i hany
            obtain ⟨key, hkey, hempty⟩ := List.any_eq_true.1 hany
            obtain rfl := List.isEmpty_iff.1 hempty
            refine Or.inr ⟨[counted c], ?_, ?_, fun _ hvisible => ?_⟩
            · rw [← Option.some.inj hword, List.reverse_cons]
            · simpa [upper] using mem_narrow.1 hkey
            · rw [(counted_eq (by simpa [eq_comm] using hvisible)).2]
              exact ⟨rest, rfl⟩
          · exact Or.inl hword
        · refine Or.inr ⟨counted c :: more, ?_, ?_, fun _ hvisible => ?_⟩
          · simp [hword]
          · exact mem_narrow.1 hkey
          · obtain ⟨hspace, hmore⟩ := not_or.1 (mt List.mem_cons.2 hvisible)
            obtain ⟨hblank, hsame⟩ := counted_eq (Ne.symm hspace)
            rw [hsame]
            exact (List.prefix_cons_inj c).2 (hfront hblank hmore)

end Walk

theorem compoundAt_word (h : (compoundAt s).word = some word) :
    upper word ∈ compounds.map String.toList ∧ (' ' ∉ word → word <+: s)
      ∧ (compoundAt s).rest.length < s.length := by
  rcases walk_word h with hnone | ⟨more, hword, hkey, hprefix⟩
  · cases hnone
  · obtain rfl : word = more := hword
    exact ⟨hkey, hprefix rfl, walk_rest_length_lt h⟩

/-! ### One step -/

theorem reads_simpleToken (hblank : isBlank c = false) (hdigit : isDigitLike c = false) :
    Reads (c :: rest) (simpleToken c rest) := by
  rw [simpleToken]
  split
  · rename_i hsign
    exact .sign hsign
  · rename_i hsign
    exact .word hblank hdigit (by simpa using hsign)

theorem reads_quotedToken {found : Option (List Char × List Char)}
    (h : ∀ body after, found = some (body, after) → Quotation s body after) :
    Reads s (.ofToken? (quotedToken found)) := by
  cases found with
  | none => exact .unreadable
  | some pair => exact .quotation (h pair.1 pair.2 rfl)

theorem reads_ofRest? {found : Option (List Char)}
    (h : ∀ after, found = some after → Reads s (.skip after)) : Reads s (.ofRest? found) := by
  cases found with
  | none => exact .unreadable
  | some after => exact h after rfl

theorem reads_takeDollar (rest : List Char) :
    Reads ('$' :: rest) (.ofToken? (takeDollar rest)) := by
  rw [takeDollar.eq_def]
  split
  · exact .unreadable
  · exact reads_quotedToken fun _ _ => .dollars
  · rename_i c rest hne
    have hc : c ≠ '$' := fun heq => hne heq
    split
    · exact .dollar
    · rename_i tag between htag
      split
      · exact .parameter
      · rename_i hbetween
        split
        · exact .dollar
        · rename_i hplain
          simp only [Bool.or_eq_true, not_or, Bool.not_eq_true] at hplain
          refine reads_quotedToken fun _ _ => .tagged hc htag ?_ hplain.1 hplain.2
          rintro rfl
          exact hbetween rfl

theorem exists_of_tail_eq {word : List Char} {d : Char} (h : word.tail = [d]) :
    ∃ x, word = [x, d] := by
  cases word with
  | nil => cases h
  | cons x tail => exact ⟨x, congrArg (x :: ·) h⟩

/-- The compounds that open a quotation end with a quotation mark, behind one letter at most. -/
theorem reads_marked {x : Char} (hkey : upper [x, '\''] ∈ compounds.map String.toList) :
    Reads (x :: '\'' :: rest) (.ofToken? (quotedToken
      (takeQuoted ['\''] (if x == 'e' || x == 'E' then ['\'', '\\'] else ['\'']) rest))) := by
  have hquotes : ∀ key ∈ compounds.map String.toList, key.getLast? = some '\'' →
      key = [] ++ ['\''] ∨ key = ['E'] ++ ['\''] ∨ key = ['N'] ++ ['\''] := by decide
  have hupper : upper [x, '\''] = upperChar x ++ ['\''] := by simp [upper_cons, upper_nil]; rfl
  have hx := hquotes _ hkey (by simp [hupper])
  rw [hupper] at hx
  rcases hx with hx | hx | hx
  · exact absurd (List.append_cancel_right hx) (upperChar_ne_nil _)
  · obtain rfl | rfl := upperChar_eq_letter (List.append_cancel_right hx) (by decide)
    · exact reads_quotedToken fun _ _ => .escaped (by decide)
    · exact reads_quotedToken fun _ _ => .escaped (by decide)
  · obtain rfl | rfl := upperChar_eq_letter (List.append_cancel_right hx) (by decide)
    · exact reads_quotedToken fun _ _ => .national (by decide)
    · exact reads_quotedToken fun _ _ => .national (by decide)

/-- Only a brace stands in front of a hash sign in a compound. -/
theorem eq_brace_of_compound {x : Char} (hkey : upper [x, '#'] ∈ compounds.map String.toList) :
    x = Char.ofNat 0x7B := by
  have hbraces : ∀ key ∈ compounds.map String.toList, key.getLast? = some '#' →
      key = [Char.ofNat 0x7B, '#'] := by decide
  have hupper : upper [x, '#'] = upperChar x ++ ['#'] := by simp [upper_cons, upper_nil]; rfl
  have hx : upperChar x ++ ['#'] = [Char.ofNat 0x7B] ++ ['#'] :=
    hupper ▸ hbraces _ hkey (by simp [hupper])
  exact upperChar_eq_brace (List.append_cancel_right hx)

theorem reads_compoundStep (hblank : isBlank c = false) (hdigit : isDigitLike c = false) :
    Reads (c :: rest) (compoundStep c rest) := by
  have hsimple : Reads (c :: rest) (simpleToken c rest) := reads_simpleToken hblank hdigit
  unfold compoundStep
  dsimp only
  split
  · exact hsimple
  · rename_i word hword
    obtain ⟨hkey, hfront, hlength⟩ := compoundAt_word hword
    split
    · rename_i hline
      subst hline
      obtain ⟨behind, hbehind⟩ := hfront (by decide)
      obtain ⟨rfl, rfl⟩ := List.cons.inj hbehind
      exact .line
    split
    · rename_i hblock
      subst hblock
      obtain ⟨behind, hbehind⟩ := hfront (by decide)
      obtain ⟨rfl, rfl⟩ := List.cons.inj hbehind
      exact reads_ofRest? fun _ => .block
    split
    · rename_i htail
      obtain ⟨x, rfl⟩ := exists_of_tail_eq htail
      obtain rfl := eq_brace_of_compound hkey
      obtain ⟨behind, hbehind⟩ := hfront (by decide)
      obtain ⟨rfl, rfl⟩ := List.cons.inj hbehind
      exact reads_ofRest? fun _ => .braces
    split
    · rename_i hquote
      subst hquote
      obtain ⟨behind, hbehind⟩ := hfront (by decide)
      obtain ⟨rfl, rfl⟩ := List.cons.inj hbehind
      exact reads_quotedToken fun _ _ => .text
    split
    · rename_i hdollar
      subst hdollar
      obtain ⟨behind, hbehind⟩ := hfront (by decide)
      obtain ⟨rfl, rfl⟩ := List.cons.inj hbehind
      exact reads_takeDollar _
    split
    · rename_i htail
      obtain ⟨x, rfl⟩ := exists_of_tail_eq htail
      have hvisible : ' ' ∉ [x, '\''] := by
        intro hmem
        rcases List.mem_cons.1 hmem with rfl | hmem
        · exact absurd hkey (by decide)
        · cases List.mem_singleton.1 hmem
      obtain ⟨behind, hbehind⟩ := hfront hvisible
      obtain ⟨rfl, rfl⟩ := List.cons.inj hbehind
      exact reads_marked hkey
    split
    · exact .compound hkey (Nat.le_of_lt_succ hlength)
    · exact hsimple

theorem reads_step (c : Char) (rest : List Char) : Reads (c :: rest) (step c rest) := by
  unfold step
  split
  · rename_i hblank
    exact .blank hblank
  · rename_i hblank
    split
    · rename_i hdigit
      exact .number hdigit
    · rename_i hdigit
      split
      · rename_i hquote
        obtain rfl := eq_of_beq hquote
        exact reads_quotedToken fun _ _ => .name
      · exact reads_compoundStep (by simpa using hblank) (by simpa using hdigit)

theorem Quotation.length_lt (h : Quotation s body after) : after.length < s.length := by
  cases h with
  | name h | text h =>
    have := takeQuoted_length_le h
    simp only [List.length_cons]
    omega
  | escaped _ h | national _ h | dollars h =>
    have := takeQuoted_length_le h
    simp only [List.length_cons]
    omega
  | tagged _ htag _ _ _ h =>
    have hbetween := takeQuoted_length_le htag
    have hafter := takeQuoted_length_le h
    simp only [List.length_cons] at hbetween ⊢
    omega

/-- What a step leaves of a text. -/
def Step.after? : Step → Option (List Char)
  | .skip after => some after
  | .token _ after => some after
  | .unreadable => none

/-- A step takes at least one character. -/
theorem Reads.length_lt {result : Step} (h : Reads s result) (hafter : result.after? = some after) :
    after.length < s.length := by
  cases h with
  | unreadable => cases hafter
  | blank | dollar | parameter | sign =>
    obtain rfl := Option.some.inj hafter
    simp only [List.length_cons]
    omega
  | line =>
    obtain rfl := Option.some.inj hafter
    exact Nat.lt_succ_of_lt (Nat.lt_succ_of_le (dropLine_length_le _))
  | block h | braces h =>
    obtain rfl := Option.some.inj hafter
    exact Nat.lt_succ_of_lt (Nat.lt_succ_of_le (dropComment_length_le h))
  | number =>
    obtain rfl := Option.some.inj hafter
    exact Nat.lt_succ_of_le (numberAt_length_le _ _)
  | quotation h =>
    obtain rfl := Option.some.inj hafter
    exact h.length_lt
  | compound _ h =>
    obtain rfl := Option.some.inj hafter
    exact Nat.lt_succ_of_le h
  | word =>
    obtain rfl := Option.some.inj hafter
    exact Nat.lt_succ_of_le (List.dropWhile_sublist _).length_le

/-! ### All tokens -/

theorem scanWithin_nil (fuel : Nat) : scanWithin fuel [] = some [] := by
  cases fuel <;> rfl

theorem scanWithin_cons (fuel : Nat) (c : Char) (rest : List Char) :
    scanWithin (fuel + 1) (c :: rest) = match step c rest with
      | .skip after => scanWithin fuel after
      | .token t after => (scanWithin fuel after).map (t :: ·)
      | .unreadable => none := by
  cases hresult : step c rest with
  | skip after | token t after | unreadable =>
    rw [scanWithin.eq_def]
    dsimp only
    rw [hresult]

/-- More fuel than characters makes no difference. -/
theorem scanWithin_of_le {fuel fuel' : Nat} (h : s.length ≤ fuel) (h' : s.length ≤ fuel') :
    scanWithin fuel s = scanWithin fuel' s := by
  induction fuel generalizing s fuel' with
  | zero =>
    obtain rfl := List.eq_nil_of_length_eq_zero (Nat.le_zero.1 h)
    rw [scanWithin_nil, scanWithin_nil]
  | succ fuel ih =>
    cases s with
    | nil => rw [scanWithin_nil, scanWithin_nil]
    | cons c rest =>
      obtain ⟨fuel', rfl⟩ := Nat.exists_eq_add_one.2 (Nat.lt_of_lt_of_le (Nat.zero_lt_succ _) h')
      have hreads := reads_step c rest
      rw [scanWithin_cons, scanWithin_cons]
      generalize step c rest = result at hreads ⊢
      have hafter : ∀ after, result.after? = some after →
          scanWithin fuel after = scanWithin fuel' after := fun after hafter => by
        have hlength := hreads.length_lt hafter
        simp only [List.length_cons] at h h' hlength
        exact ih (by omega) (by omega)
      cases result with
      | skip after => exact hafter after rfl
      | token t after =>
        dsimp only
        rw [hafter after rfl]
      | unreadable => rfl

/-- The tokens of a text are what its first step takes and the tokens behind it. -/
theorem scan_cons (c : Char) (rest : List Char) : scan (c :: rest) =
    match step c rest with
    | .skip after => scan after
    | .token t after => (scan after).map (t :: ·)
    | .unreadable => none := by
  have hreads := reads_step c rest
  rw [scan, List.length_cons, scanWithin_cons]
  generalize step c rest = result at hreads ⊢
  have hafter : ∀ after, result.after? = some after →
      scanWithin rest.length after = scan after := fun after hafter =>
    scanWithin_of_le (Nat.le_of_lt_succ (hreads.length_lt hafter)) (Nat.le_refl _)
  cases result with
  | skip after => exact hafter after rfl
  | token t after =>
    dsimp only
    rw [hafter after rfl]
  | unreadable => rfl

/-! ### Compounds that stand there -/

section Walk

variable {keys : List (List Char)} {seen : List Char} {afterBlank sign : Bool}
  {word? : Option (List Char)}

/-- Once nothing longer than what has been recognized fits, it stays. -/
theorem walk_word_of_keys (hkeys : ∀ key ∈ keys, key = []) :
    (walk keys seen afterBlank sign word? s).word = word? := by
  induction s generalizing afterBlank with
  | nil => rfl
  | cons c rest ih =>
    cases hc : isBlank c && afterBlank with
    | true =>
      obtain ⟨hblank, rfl⟩ := Bool.and_eq_true_iff.1 hc
      rw [walk_cons_again hblank]
      exact ih
    | false =>
      have hnone : narrow (upperChar (counted c)) keys = [] := by
        refine List.eq_nil_iff_forall_not_mem.2 fun key hkey => ?_
        have hempty := hkeys _ (mem_narrow.1 hkey)
        exact upperChar_ne_nil _ (List.append_eq_nil_iff.1 hempty).1
      rw [walk_cons_stop hc hnone]

theorem narrow_append (cs cs' : List Char) (keys : List (List Char)) :
    narrow (cs ++ cs') keys = narrow cs' (narrow cs keys) := by
  induction cs generalizing keys with
  | nil => rfl
  | cons c cs ih => rw [List.cons_append, narrow, ih, narrow]

theorem narrow_nil (cs : List Char) : narrow cs [] = [] :=
  List.eq_nil_iff_forall_not_mem.2 fun _ hkey => List.not_mem_nil (mem_narrow.1 hkey)

/-- A compound that stands at the start of a text, and that no other compound goes on with, is
    recognized there. -/
theorem walk_word_append (hword : ∀ c ∈ word, isBlank c = false) (hne : word ≠ [])
    (hkeys : narrow (upper word) keys = [[]]) (s : List Char) :
    (walk keys seen false sign word? (word ++ s)).word = some (seen.reverse ++ word) := by
  induction word generalizing keys seen sign word? with
  | nil => exact absurd rfl hne
  | cons c word ih =>
    obtain ⟨hc, hword⟩ := List.forall_mem_cons.1 hword
    have hcounted : counted c = c := by rw [counted, if_neg (by simp [hc])]
    rw [upper_cons, narrow_append] at hkeys
    have hsome : narrow (upperChar (counted c)) keys ≠ [] := by
      rw [hcounted]
      intro hnone
      rw [hnone, narrow_nil] at hkeys
      cases hkeys
    rw [List.cons_append, walk_cons_go (by rw [hc]; rfl) hsome, hcounted, hc]
    cases word with
    | nil =>
      rw [upper_nil, narrow] at hkeys
      rw [hkeys, walk_word_of_keys (by simp)]
      simp
    | cons next word =>
      rw [ih hword (by simp) hkeys]
      simp

/-- Nothing is recognized where no compound is the start of what stands there or goes on with
    it. -/
theorem walk_word_eq_none (hword : ∀ c ∈ word, isBlank c = false)
    (hshort : ∀ key ∈ keys, ¬ key <+: upper word) (hlong : ∀ key ∈ keys, ¬ upper word <+: key)
    (s : List Char) : (walk keys seen afterBlank sign none (word ++ s)).word = none := by
  induction word generalizing keys seen afterBlank sign with
  | nil =>
    have hnone : keys = [] := List.eq_nil_iff_forall_not_mem.2 fun key hkey =>
      hlong key hkey (List.nil_prefix)
    exact walk_word_of_keys (by simp [hnone])
  | cons c word ih =>
    obtain ⟨hc, hword⟩ := List.forall_mem_cons.1 hword
    have hcounted : counted c = c := by rw [counted, if_neg (by simp [hc])]
    rw [List.cons_append]
    by_cases hkeys : narrow (upperChar (counted c)) keys = []
    · rw [walk_cons_stop (by simp [hc]) hkeys]
    · have hnone : (narrow (upperChar (counted c)) keys).any List.isEmpty = false := by
        rw [List.any_eq_false]
        intro key hkey hempty
        obtain rfl := List.isEmpty_iff.1 hempty
        refine hshort _ (mem_narrow.1 hkey) ?_
        rw [hcounted, List.append_nil, upper_cons]
        exact List.prefix_append _ _
      rw [walk_cons_go (by simp [hc]) hkeys, hnone, if_neg (by simp)]
      refine ih hword (fun key hkey hprefix => ?_) (fun key hkey hprefix => ?_)
      · refine hshort _ (mem_narrow.1 hkey) ?_
        rw [hcounted, upper_cons]
        exact (List.prefix_append_right_inj _).2 hprefix
      · refine hlong _ (mem_narrow.1 hkey) ?_
        rw [hcounted, upper_cons]
        exact (List.prefix_append_right_inj _).2 hprefix

end Walk

/-- What opens a comment or a quotation. -/
def marks : List (List Char) :=
  [['-', '-'], ['/', '*'], [Char.ofNat 0x7B, '#'], ['\''], ['$'],
    ['e', '\''], ['E', '\''], ['n', '\''], ['N', '\'']]

/-- A mark is recognized, whatever follows it. -/
theorem compoundAt_mark {m : List Char} (h : m ∈ marks) (s : List Char) :
    (compoundAt (m ++ s)).word = some m := by
  have hall : ∀ mark ∈ marks, (mark.all fun c => decide (isBlank c = false)) = true ∧ mark ≠ []
      ∧ narrow (upper mark) (compounds.map String.toList) = [[]] := by decide +kernel
  obtain ⟨hvisible, hne, hkeys⟩ := hall m h
  exact walk_word_append (forall_of_all hvisible) hne hkeys s

theorem compoundAt_eq_none {w : List Char} (hword : ∀ c ∈ w, isBlank c = false)
    (hkeys : ∀ key ∈ compounds.map String.toList, ¬ key <+: upper w ∧ ¬ upper w <+: key)
    (s : List Char) : (compoundAt (w ++ s)).word = none :=
  walk_word_eq_none hword (fun key hkey => (hkeys key hkey).1)
    (fun key hkey => (hkeys key hkey).2) s

/-! ### Steps -/

theorem step_blank (h : isBlank c = true) : step c rest = .skip rest := by
  unfold step
  rw [if_pos h]

theorem step_eq_compoundStep (hblank : isBlank c = false) (hdigit : isDigitLike c = false)
    (hquote : c ≠ '"') : step c rest = compoundStep c rest := by
  unfold step
  rw [if_neg (by simp [hblank]), if_neg (by simp [hdigit]), if_neg (by simpa using hquote)]

theorem step_line (rest : List Char) : step '-' ('-' :: rest) = .skip (dropLine rest) := by
  have hword : (compoundAt ('-' :: '-' :: rest)).word = some ['-', '-'] :=
    compoundAt_mark (m := ['-', '-']) (by decide) rest
  rw [step_eq_compoundStep (by decide) (by decide) (by decide)]
  unfold compoundStep
  dsimp only
  rw [hword]
  rfl

theorem step_block (rest : List Char) :
    step '/' ('*' :: rest) = .ofRest? (dropComment ('/', '*') ('*', '/') 0 rest) := by
  have hword : (compoundAt ('/' :: '*' :: rest)).word = some ['/', '*'] :=
    compoundAt_mark (m := ['/', '*']) (by decide) rest
  rw [step_eq_compoundStep (by decide) (by decide) (by decide)]
  unfold compoundStep
  dsimp only
  rw [hword]
  rfl

theorem step_braces (rest : List Char) : step (Char.ofNat 0x7B) ('#' :: rest)
    = .ofRest? (dropComment (Char.ofNat 0x7B, '#') ('#', Char.ofNat 0x7D) 0 rest) := by
  have hword : (compoundAt (Char.ofNat 0x7B :: '#' :: rest)).word
      = some [Char.ofNat 0x7B, '#'] :=
    compoundAt_mark (m := [Char.ofNat 0x7B, '#']) (by decide) rest
  rw [step_eq_compoundStep (by decide) (by decide) (by decide)]
  unfold compoundStep
  dsimp only
  rw [hword]
  rfl

theorem step_semicolon (rest : List Char) : step ';' rest = .token ⟨";", true⟩ rest := by
  have hword : (compoundAt (';' :: rest)).word = none :=
    compoundAt_eq_none (w := [';']) (forall_of_all (by decide)) (by decide +kernel) rest
  rw [step_eq_compoundStep (by decide) (by decide) (by decide)]
  unfold compoundStep
  dsimp only
  rw [hword]
  rfl

theorem step_quote (rest : List Char) :
    step '\'' rest = .ofToken? (quotedToken (takeQuoted ['\''] ['\''] rest)) := by
  have hword : (compoundAt ('\'' :: rest)).word = some ['\''] :=
    compoundAt_mark (m := ['\'']) (by decide) rest
  rw [step_eq_compoundStep (by decide) (by decide) (by decide)]
  unfold compoundStep
  dsimp only
  rw [hword]
  rfl

theorem step_dollar (rest : List Char) : step '$' rest = .ofToken? (takeDollar rest) := by
  have hword : (compoundAt ('$' :: rest)).word = some ['$'] :=
    compoundAt_mark (m := ['$']) (by decide) rest
  rw [step_eq_compoundStep (by decide) (by decide) (by decide)]
  unfold compoundStep
  dsimp only
  rw [hword]
  rfl

theorem step_marked {p : Char} (hp : p ∈ ['e', 'E', 'n', 'N']) (rest : List Char) :
    step p ('\'' :: rest) = .ofToken? (quotedToken (takeQuoted ['\'']
      (if p == 'e' || p == 'E' then ['\'', '\\'] else ['\'']) rest)) := by
  have hplain : ∀ p ∈ ['e', 'E', 'n', 'N'],
      isBlank p = false ∧ isDigitLike p = false ∧ p ≠ '"' := forall_of_all (by decide)
  have hmark : ∀ p ∈ ['e', 'E', 'n', 'N'], [p, '\''] ∈ marks := forall_of_all (by decide)
  obtain ⟨hblank, hdigit, hquote⟩ := hplain p hp
  have hword : (compoundAt (p :: '\'' :: rest)).word = some [p, '\''] :=
    compoundAt_mark (hmark p hp) rest
  rw [step_eq_compoundStep hblank hdigit hquote]
  unfold compoundStep
  dsimp only
  rw [hword]
  simp only [List.mem_cons, List.not_mem_nil, or_false] at hp
  rcases hp with rfl | rfl | rfl | rfl <;> rfl

/-- A quotation is a token, of which the body is the text. -/
theorem Quotation.step (h : Quotation s body after) :
    ∃ c rest, s = c :: rest ∧ step c rest = .token ⟨.ofList body, false⟩ after := by
  have hquoted : ∀ {found : Option (List Char × List Char)}, found = some (body, after) →
      Step.ofToken? (quotedToken found) = .token ⟨.ofList body, false⟩ after := by
    rintro _ rfl
    rfl
  cases h with
  | name h =>
    refine ⟨_, _, rfl, ?_⟩
    unfold Token.step
    rw [if_neg (by decide), if_neg (by decide), if_pos (by decide), hquoted h]
  | text h => exact ⟨_, _, rfl, by rw [step_quote, hquoted h]⟩
  | escaped hc h =>
    obtain rfl | rfl := hc
    · exact ⟨_, _, rfl, by rw [step_marked (by decide)]; exact hquoted h⟩
    · exact ⟨_, _, rfl, by rw [step_marked (by decide)]; exact hquoted h⟩
  | national hc h =>
    obtain rfl | rfl := hc
    · exact ⟨_, _, rfl, by rw [step_marked (by decide)]; exact hquoted h⟩
    · exact ⟨_, _, rfl, by rw [step_marked (by decide)]; exact hquoted h⟩
  | dollars h =>
    refine ⟨_, _, rfl, ?_⟩
    rw [step_dollar, takeDollar]
    exact hquoted h
  | tagged hc htag hbetween hdigits hblank h =>
    refine ⟨_, _, rfl, ?_⟩
    have hnonempty := List.isEmpty_eq_false_iff.2 hbetween
    rw [step_dollar, takeDollar.eq_def]
    split
    · rename_i heq
      cases heq
    · rename_i heq
      exact absurd (List.cons.inj heq).1 hc
    · rename_i heq
      obtain ⟨rfl, rfl⟩ := List.cons.inj heq
      rw [htag]
      dsimp only
      rw [if_neg (by simp [hnonempty]), if_neg (by simp [hdigits, hblank])]
      exact hquoted h

/-! ### Words -/

/-- That a text starts with a word: neither a number nor a quotation. -/
def StartsWith (s word : List Char) : Prop :=
  ∃ c rest, s = c :: rest ∧ isBlank c = false ∧ isDigitLike c = false ∧ isSign c = false
    ∧ word = c :: rest.takeWhile isWordPart

/-- The token of a number starts with its first digit. -/
theorem numberAt_token (d : Char) (rest : List Char) :
    ∃ digits, (numberAt d rest).1 = ⟨.ofList (d :: digits), false⟩ := by
  rw [numberAt]
  dsimp only
  split
  · rename_i hmark
    have hzero : d = '0' := eq_of_beq (Bool.and_eq_true_iff.1 hmark).1
    exact ⟨[], by rw [hzero]⟩
  · exact ⟨_, rfl⟩

/-- A word with which no compound starts, and that goes on with none, is a token. -/
theorem StartsWith.step (h : StartsWith s word)
    (hkeys : ∀ key ∈ compounds.map String.toList, ¬ key <+: upper word ∧ ¬ upper word <+: key) :
    ∃ c rest after, s = c :: rest ∧ step c rest = .token ⟨.ofList word, false⟩ after := by
  obtain ⟨c, rest, rfl, hblank, hdigit, hsign, rfl⟩ := h
  refine ⟨c, rest, rest.dropWhile isWordPart, rfl, ?_⟩
  have hquote : c ≠ '"' := by
    rintro rfl
    cases hsign
  have hvisible : ∀ a ∈ c :: rest.takeWhile isWordPart, isBlank a = false := by
    refine List.forall_mem_cons.2 ⟨hblank, fun a ha => ?_⟩
    have hpart := List.mem_takeWhile_imp ha
    simp only [isWordPart, Bool.and_eq_true, Bool.not_eq_true'] at hpart
    exact hpart.1
  have hnone : (compoundAt (c :: rest)).word = none := by
    have hwalk := compoundAt_eq_none hvisible hkeys (rest.dropWhile isWordPart)
    rwa [List.cons_append, List.takeWhile_append_dropWhile] at hwalk
  rw [step_eq_compoundStep hblank hdigit hquote]
  unfold compoundStep
  dsimp only
  rw [hnone]
  dsimp only
  rw [simpleToken, if_neg (by simp [hsign])]

end SqlPipeline.Sql.Token
