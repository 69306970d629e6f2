/-
  SqlPipeline/Proofs/Sql/Leading.lean
  ===================================
  **How a text starts decides what is done with it, and what stands before that does not.**

  Blanks, semicolons and comments in front of the first token are passed (`Passes`), so they can
  be put in front of a text that can be cut into tokens without a change to what comes of it
  (`leadingKeyword_append`).  The first token counts by its text, from which one cannot see whether
  there were quotation marks around it: `isRawStatement_iff`.
-/
import SqlPipeline.Proofs.Text.Cut
import SqlPipeline.Proofs.Sql.Token
import SqlPipeline.Sql.Leading

namespace SqlPipeline.Sql

open Text Token

/-! ### Passing what separates statements -/

/-- That one text is what is left of another when some blanks, comments and semicolons are
    passed. -/
inductive Passes : (s rest : List Char) → Prop
  | nothing {s} : Passes s s
  | blank {c s rest} : isBlank c = true → Passes s rest → Passes (c :: s) rest
  | semicolon {s rest} : Passes s rest → Passes (';' :: s) rest
  | line {s rest} : Passes (dropLine s) rest → Passes ('-' :: '-' :: s) rest
  | block {s after rest} : dropComment ('/', '*') ('*', '/') 0 s = some after →
      Passes after rest → Passes ('/' :: '*' :: s) rest
  | braces {s after rest} :
      dropComment (Char.ofNat 0x7B, '#') ('#', Char.ofNat 0x7D) 0 s = some after →
      Passes after rest → Passes (Char.ofNat 0x7B :: '#' :: s) rest

/-- Blanks, semicolons, line comments with the ends of their lines, and block comments that hold
    no mark of a comment.  A slash at the end would make one with the end mark, unless it belongs
    to the opening mark. -/
inductive Separators : List Char → Prop
  | none : Separators []
  | blank {c s} : isBlank c = true → Separators s → Separators (c :: s)
  | semicolon {s} : Separators s → Separators (';' :: s)
  | line {line s} : (∀ c ∈ line, c ≠ '\n' ∧ c ≠ '\r') → Separators s →
      Separators ('-' :: '-' :: (line ++ '\n' :: s))
  | block {inner s} : ¬ ['/', '*'] <:+: inner → ¬ ['*', '/'] <:+: inner →
      (['/'] <:+ inner → inner = ['/']) → Separators s →
      Separators ('/' :: '*' :: (inner ++ '*' :: '/' :: s))

variable {s rest after body word : List Char} {c : Char} {t : Token}

/-- The first token of a text that can be cut into tokens, semicolons apart. -/
def firstToken? (s : List Char) : Option (Option Token) :=
  (scan s).map fun tokens => tokens.find? (!·.isSemicolon)

theorem leadingKeyword_eq (sql : String) : leadingKeyword sql =
    match firstToken? sql.toList with
    | none => .ofList (upper (firstWord sql.toList))
    | some none => ""
    | some (some t) => .ofList (upper t.text.toList) := by
  rw [leadingKeyword, firstToken?]
  cases scan sql.toList with
  | none => rfl
  | some tokens =>
    simp only [Option.map_some]
    cases tokens.find? (!·.isSemicolon) <;> rfl

theorem firstToken?_skip (h : step c rest = .skip after) :
    firstToken? (c :: rest) = firstToken? after := by
  rw [firstToken?, scan_cons, h]
  rfl

theorem firstToken?_token (h : step c rest = .token t after) (ht : t.isSemicolon = false) :
    firstToken? (c :: rest) = (scan after).map fun _ => some t := by
  rw [firstToken?, scan_cons, h]
  dsimp only
  cases scan after <;> simp [ht]

theorem firstToken?_semicolon (h : step c rest = .token t after) (ht : t.isSemicolon = true) :
    firstToken? (c :: rest) = firstToken? after := by
  rw [firstToken?, scan_cons, h]
  dsimp only
  rw [firstToken?]
  cases scan after <;> simp [ht]

/-- The first token is that of what is left. -/
theorem Passes.firstToken?_eq (h : Passes s rest) : firstToken? s = firstToken? rest := by
  induction h with
  | nothing => rfl
  | blank hc _ ih => rw [firstToken?_skip (step_blank hc), ih]
  | semicolon _ ih => rw [firstToken?_semicolon (step_semicolon _) rfl, ih]
  | line _ ih => rw [firstToken?_skip (step_line _), ih]
  | block hafter _ ih => rw [firstToken?_skip (by rw [step_block, hafter]; rfl), ih]
  | braces hafter _ ih => rw [firstToken?_skip (by rw [step_braces, hafter]; rfl), ih]

/-- Before the first token only what separates statements is passed. -/
theorem exists_passes (h : firstToken? s = some (some t)) :
    ∃ c rest after, Passes s (c :: rest) ∧ step c rest = .token t after := by
  obtain ⟨n, hn⟩ : ∃ n, s.length ≤ n := ⟨_, Nat.le_refl _⟩
  induction n generalizing s with
  | zero =>
    obtain rfl := List.eq_nil_of_length_eq_zero (Nat.le_zero.1 hn)
    cases h
  | succ n ih =>
    cases s with
    | nil => cases h
    | cons c rest =>
      have hreads := reads_step c rest
      generalize hstep : step c rest = result at hreads
      have hlength : ∀ after, result.after? = some after → after.length ≤ n := by
        intro after hafter
        have hshorter := hreads.length_lt hafter
        simp only [List.length_cons] at hn hshorter
        omega
      -- a token that is no semicolon is the first one
      have hfirst : ∀ t' after, result = .token t' after → t'.isSemicolon = false →
          ∃ c' rest' after', Passes (c :: rest) (c' :: rest')
            ∧ step c' rest' = .token t after' := by
        rintro t' after rfl ht'
        rw [firstToken?_token hstep ht', Option.map_eq_some_iff] at h
        obtain ⟨tokens, -, htoken⟩ := h
        exact ⟨c, rest, after, .nothing, Option.some.inj htoken ▸ hstep⟩
      cases hreads with
      | unreadable =>
        rw [firstToken?, scan_cons, hstep] at h
        cases h
      | blank hblank =>
        rw [firstToken?_skip hstep] at h
        obtain ⟨c', rest', after', hpasses, htoken⟩ := ih h (hlength _ rfl)
        exact ⟨c', rest', after', .blank hblank hpasses, htoken⟩
      | line =>
        rw [firstToken?_skip hstep] at h
        obtain ⟨c', rest', after', hpasses, htoken⟩ := ih h (hlength _ rfl)
        exact ⟨c', rest', after', .line hpasses, htoken⟩
      | block hafter =>
        rw [firstToken?_skip hstep] at h
        obtain ⟨c', rest', after', hpasses, htoken⟩ := ih h (hlength _ rfl)
        exact ⟨c', rest', after', .block hafter hpasses, htoken⟩
      | braces hafter =>
        rw [firstToken?_skip hstep] at h
        obtain ⟨c', rest', after', hpasses, htoken⟩ := ih h (hlength _ rfl)
        exact ⟨c', rest', after', .braces hafter hpasses, htoken⟩
      | sign hsign =>
        cases hsemicolon : c == ';' with
        | false => exact hfirst _ _ rfl hsemicolon
        | true =>
          rw [firstToken?_semicolon hstep hsemicolon] at h
          obtain rfl := eq_of_beq hsemicolon
          obtain ⟨c', rest', after', hpasses, htoken⟩ := ih h (hlength _ rfl)
          exact ⟨c', rest', after', .semicolon hpasses, htoken⟩
      | number =>
        obtain ⟨digits, hnumber⟩ := numberAt_token c rest
        exact hfirst _ _ rfl (by rw [hnumber])
      | quotation | dollar | parameter | compound | word => exact hfirst _ _ rfl rfl

/-! ### Statements that are sent as they stand -/

/-- That a text is one of the words that such a statement starts with, in whatever case. -/
def IsStatementWord (word : List Char) : Prop :=
  .ofList (upper word) ∈ statementKeywords

instance (word : List Char) : Decidable (IsStatementWord word) :=
  inferInstanceAs (Decidable (_ ∈ _))

theorem IsStatementWord.start (h : IsStatementWord word) :
    ∃ c rest, upper word = c :: rest ∧ isAsciiLetter c = true ∧ 4 ≤ (c :: rest).length := by
  have hall : ∀ keyword ∈ statementKeywords, keyword.toList.head?.any isAsciiLetter = true
      ∧ 4 ≤ keyword.toList.length := by decide
  obtain ⟨hstart, hlength⟩ := hall _ h
  rw [String.toList_ofList] at hstart hlength
  obtain ⟨c, hc, hletter⟩ := (Option.any_eq_true ..).1 hstart
  obtain ⟨rest, hrest⟩ := List.head?_eq_some_iff.1 hc
  exact ⟨c, rest, hrest, hletter, hrest ▸ hlength⟩

/-- No compound starts such a word or goes on with it. -/
theorem IsStatementWord.noCompound (h : IsStatementWord word) :
    ∀ key ∈ compounds.map String.toList, ¬ key <+: upper word ∧ ¬ upper word <+: key := by
  have hall : ∀ keyword ∈ statementKeywords, ∀ key ∈ compounds.map String.toList,
      ¬ key <+: keyword.toList ∧ ¬ keyword.toList <+: key := by decide +kernel
  have hword := hall _ h
  rwa [String.toList_ofList] at hword

/-- Only words and quotations are tokens with such a text. -/
theorem startsWith_or_quotation (h : step c rest = .token t after)
    (ht : IsStatementWord t.text.toList) : StartsWith (c :: rest) t.text.toList
      ∨ Quotation (c :: rest) t.text.toList after := by
  have hreads := reads_step c rest
  rw [h] at hreads
  obtain ⟨d, tail, hupper, hletter, hlong⟩ := ht.start
  cases hreads with
  | quotation hquotation => exact Or.inr (by simpa using hquotation)
  | word hblank hdigit hsign =>
    exact Or.inl ⟨c, rest, rfl, hblank, hdigit, hsign, String.toList_ofList⟩
  | number hdigit =>
    obtain ⟨digits, hnumber⟩ := numberAt_token c rest
    obtain ⟨d', rest', hd', hnot⟩ := upperChar_of_isDigitLike hdigit
    rw [hnumber, String.toList_ofList, upper_cons, hd', List.cons_append] at hupper
    rw [(List.cons.inj hupper).1, hletter] at hnot
    cases hnot
  | dollar =>
    obtain rfl : '$' = d := (List.cons.inj hupper).1
    cases hletter
  | parameter =>
    rw [String.toList_ofList] at hupper
    obtain rfl : '$' = d := (List.cons.inj hupper).1
    cases hletter
  | @compound _ _ word _ hkey =>
    have hnot : ∀ key ∈ compounds.map String.toList,
        .ofList (upper key) ∉ statementKeywords := by decide +kernel
    rw [String.toList_ofList] at ht
    exact absurd ht (hnot _ hkey)
  | sign hsign =>
    have hone : ∀ c ∈ signs, (upper [c]).length = 1 := forall_of_all (by decide)
    have hlength := hone c (List.contains_iff_mem.1 hsign)
    rw [String.toList_ofList] at hupper
    rw [hupper] at hlength
    omega

/-- **A text that can be cut into tokens is sent as it stands just if, behind blanks, comments and
    semicolons, it goes on with one of the words, or with a quotation of one of them.**  One that
    cannot is sent if its first word is one of them, where comments are cut out in another way and
    nothing else is passed. -/
theorem isRawStatement_iff (sql : String) :
    (∀ tokens, scan sql.toList = some tokens → (isRawStatement sql = true ↔
        ∃ rest, Passes sql.toList rest ∧ ((∃ word, StartsWith rest word ∧ IsStatementWord word)
          ∨ ∃ body after, Quotation rest body after ∧ IsStatementWord body)))
      ∧ (scan sql.toList = none →
          (isRawStatement sql = true ↔ IsStatementWord (firstWord sql.toList))) := by
  have hraw : isRawStatement sql = true ↔ leadingKeyword sql ∈ statementKeywords :=
    List.contains_iff_mem
  rw [hraw, leadingKeyword_eq]
  refine ⟨fun tokens htokens => ?_, fun hnone => ?_⟩
  · have haccepted : ∀ {c rest after t}, Passes sql.toList (c :: rest) →
        step c rest = .token t after → t.isSemicolon = false →
        firstToken? sql.toList = some (some t) := by
      intro c rest after t hpasses hstep ht
      have hfirst : firstToken? sql.toList = (scan after).map fun _ => some t := by
        rw [hpasses.firstToken?_eq, firstToken?_token hstep ht]
      cases hscan : scan after with
      | some more => rw [hfirst, hscan, Option.map_some]
      | none =>
        rw [hscan, firstToken?, htokens] at hfirst
        cases hfirst
    constructor
    · intro hkeyword
      cases hfirst : firstToken? sql.toList with
      | none =>
        rw [firstToken?, htokens] at hfirst
        cases hfirst
      | some first? =>
        rw [hfirst] at hkeyword
        cases first? with
        | none =>
          have hempty : "" ∈ statementKeywords := hkeyword
          exact absurd hempty (by decide)
        | some t =>
          obtain ⟨c, rest, after, hpasses, hstep⟩ := exists_passes hfirst
          refine ⟨c :: rest, hpasses, ?_⟩
          rcases startsWith_or_quotation hstep hkeyword with hword | hquotation
          · exact Or.inl ⟨_, hword, hkeyword⟩
          · exact Or.inr ⟨_, _, hquotation, hkeyword⟩
    · rintro ⟨rest, hpasses, ⟨word, hstarts, hword⟩ | ⟨body, after, hquotation, hbody⟩⟩
      · obtain ⟨c, rest, after, rfl, hstep⟩ := hstarts.step hword.noCompound
        rw [haccepted hpasses hstep rfl]
        dsimp only
        rwa [String.toList_ofList]
      · obtain ⟨c, rest, rfl, hstep⟩ := hquotation.step
        rw [haccepted hpasses hstep rfl]
        dsimp only
        rwa [String.toList_ofList]
  · rw [firstToken?, hnone]
    rfl


/-- A text in quotes. -/
def quotedWord : String := "'drop'"

/-- A quoted text can decide that a text is sent as it stands, and where a quotation is left open
    a semicolon in front of the first word can decide that it is not. -/
theorem quotation_decides :
    (isRawStatement quotedWord = true ∧ ¬ ∃ rest word, Passes quotedWord.toList rest
        ∧ StartsWith rest word ∧ IsStatementWord word)
      ∧ isRawStatement "; CREATE TABLE 'x" = false
      ∧ ∃ rest word, Passes "; CREATE TABLE 'x".toList rest ∧ StartsWith rest word
        ∧ IsStatementWord word := by
  refine ⟨⟨by decide +kernel, ?_⟩, by decide +kernel, "CREATE TABLE 'x".toList,
    "CREATE".toList, .semicolon (.blank (by decide) .nothing), ?_, by decide⟩
  · rintro ⟨rest, word, hpasses, hstarts, -⟩
    have hquoted : quotedWord.toList = '\'' :: "drop'".toList := by decide
    rw [hquoted] at hpasses
    cases hpasses with
    | nothing =>
      obtain ⟨c, rest, heq, -, -, hsign, -⟩ := hstarts
      obtain rfl := (List.cons.inj heq).1
      cases hsign
    | blank hblank => cases hblank
  · exact ⟨'C', "REATE TABLE 'x".toList, by decide, by decide, by decide, by decide, by decide⟩

/-! ### Separators in front of a text -/

theorem dropLine_append {line : List Char} (hline : ∀ c ∈ line, c ≠ '\n' ∧ c ≠ '\r')
    (s : List Char) : dropLine (line ++ '\n' :: s) = '\n' :: s := by
  have hpos : ∀ c ∈ line, (c != '\n' && c != '\r') = true := fun c hc => by
    simpa using hline c hc
  rw [dropLine, List.dropWhile_append_of_pos hpos]
  rfl

theorem dropComment_cons {opener closer : Char × Char} {a b c : Char} {s : List Char}
    (hclose : (a, b) ≠ closer) (hopen : (b, c) ≠ opener) :
    dropComment opener closer 0 (a :: b :: c :: s) = dropComment opener closer 0 (b :: c :: s) := by
  rw [dropComment]
  simp [hclose, hopen]

theorem dropComment_close {opener closer : Char × Char} {a b : Char} (hclose : (a, b) = closer)
    (s : List Char) : dropComment opener closer 0 (a :: b :: s) = some s := by
  rw [dropComment]
  simp [hclose]

/-- A comment ends with its first end mark, if no other comment starts in it. -/
theorem dropComment_append {inner : List Char} (hclose : ¬ ['*', '/'] <:+: inner)
    (hopen : ¬ ['/', '*'] <:+: inner.tail ++ ['*']) (s : List Char) :
    dropComment ('/', '*') ('*', '/') 0 (inner ++ '*' :: '/' :: s) = some s := by
  induction inner with
  | nil => exact dropComment_close rfl s
  | cons a inner ih =>
    have hinner : ¬ ['*', '/'] <:+: inner := fun h => hclose (List.infix_cons h)
    cases inner with
    | nil =>
      rw [List.singleton_append, dropComment_cons (by simp) (by decide), dropComment_close rfl]
    | cons b inner =>
      have hpair : (a, b) ≠ ('*', '/') := by
        rintro ⟨⟩
        exact hclose ⟨[], inner, rfl⟩
      have htail : ¬ ['/', '*'] <:+: inner ++ ['*'] := fun h => hopen (List.infix_cons h)
      obtain ⟨c, rest, hrest, hnext⟩ : ∃ c rest, inner ++ '*' :: '/' :: s = c :: rest
          ∧ (b, c) ≠ ('/', '*') := by
        cases inner with
        | nil =>
          refine ⟨'*', '/' :: s, rfl, ?_⟩
          rintro ⟨⟩
          exact hopen ⟨[], [], rfl⟩
        | cons c inner =>
          refine ⟨c, _, rfl, ?_⟩
          rintro ⟨⟩
          exact hopen ⟨[], inner ++ ['*'], rfl⟩
      rw [List.cons_append, List.cons_append, hrest, dropComment_cons hpair hnext, ← hrest]
      exact ih hinner htail

/-- Separators in front of a text are passed. -/
theorem Separators.passes {before : List Char} (h : Separators before) (s : List Char) :
    Passes (before ++ s) s := by
  induction h with
  | none => exact .nothing
  | blank hblank _ ih => exact .blank hblank ih
  | semicolon _ ih => exact .semicolon ih
  | line hline _ ih =>
    rw [List.cons_append, List.cons_append, List.append_assoc, List.cons_append]
    refine .line ?_
    rw [dropLine_append hline]
    exact .blank (by decide) ih
  | @block inner _ hopen hclose hslash _ ih =>
    have hstraddle : ¬ ['/', '*'] <:+: inner.tail ++ ['*'] := by
      rw [List.infix_concat_iff, not_or]
      refine ⟨fun hsuffix => ?_, fun h => hopen (h.trans (List.tail_suffix inner).isInfix)⟩
      obtain ⟨slash, hslash', hend⟩ := (List.suffix_concat_iff.1 hsuffix).resolve_left (by simp)
      obtain rfl : slash = ['/'] := (List.append_cancel_right hslash').symm
      rw [hslash (hend.trans (List.tail_suffix inner))] at hend
      simp at hend
    rw [List.cons_append, List.cons_append, List.append_assoc, List.cons_append, List.cons_append]
    exact .block (dropComment_append hclose hstraddle _) ih

/-- **Separators in front of a text that can be cut into tokens leave its first token as it is,**
    whatever quotation marks, semicolons and words stand in their comments. -/
theorem leadingKeyword_append {before : List Char} (h : Separators before) {sql : String}
    (haccepted : (scan sql.toList).isSome = true) :
    leadingKeyword (.ofList before ++ sql) = leadingKeyword sql := by
  obtain ⟨tokens, htokens⟩ := Option.isSome_iff_exists.1 haccepted
  have hfirst : firstToken? (.ofList before ++ sql).toList = firstToken? sql.toList := by
    rw [String.toList_append, String.toList_ofList, (h.passes sql.toList).firstToken?_eq]
  have hsome : firstToken? sql.toList = some (tokens.find? (!·.isSemicolon)) := by
    rw [firstToken?, htokens, Option.map_some]
  rw [leadingKeyword_eq, leadingKeyword_eq, hfirst, hsome]
  cases tokens.find? (!·.isSemicolon) <;> rfl

/-- A line comment with a quotation mark, a block comment with a word of a statement and a
    semicolon, and a semicolon. -/
def commented : List Char :=
  '-' :: '-' :: (" it's".toList ++ '\n' :: '/' :: '*' :: (" ;drop ".toList ++ ['*', '/', ';']))

theorem leadingKeyword_append_commented :
    Separators commented ∧ (scan "select 1".toList).isSome = true
      ∧ leadingKeyword (.ofList commented ++ "select 1") = leadingKeyword "select 1" := by
  have hseparators : Separators commented :=
    .line (forall_of_all (by decide +kernel)) (.block (by decide +kernel) (by decide +kernel) (by decide +kernel)
      (.semicolon .none))
  have haccepted : (scan "select 1".toList).isSome = true := by decide +kernel
  exact ⟨hseparators, haccepted, leadingKeyword_append hseparators haccepted⟩

/-- A slash in front of the end mark of a comment opens another one with it. -/
theorem slash_opens_comment :
    ¬ ['/', '*'] <:+: "x/".toList ∧ ¬ ['*', '/'] <:+: "x/".toList
      ∧ (scan "SELECT 1".toList).isSome = true
      ∧ leadingKeyword ("/*x/*/;" ++ "SELECT 1") = "" ∧ leadingKeyword "SELECT 1" = "SELECT" := by
  decide +kernel

/-! ### Pieces between semicolons -/

/-- The pieces of a text are no longer than the text. -/
theorem length_le_of_mem_splitStatements {sql piece : String} (h : piece ∈ splitStatements sql) :
    piece.length ≤ sql.length := by
  obtain ⟨chars, hchars, hpiece⟩ := List.mem_filterMap.1 h
  obtain ⟨written, hwritten, rfl⟩ := List.mem_map.1 hchars
  have hsub := ((trim_sublist written).trans (sublist_of_mem_splitWhere hwritten)).length_le
  split at hpiece
  · cases hpiece
  · obtain rfl := Option.some.inj hpiece
    rwa [String.length_ofList, ← String.length_toList]

end SqlPipeline.Sql
