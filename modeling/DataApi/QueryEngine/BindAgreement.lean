import DataApi.QueryEngine.BoundStatement

/-!
# The validator and the binder

The parser of the validator and the regular expression of `text()` look for
parameters in different ways.  The rendered statement is a sequence of tokens,
placeholders, quoted texts and plain text, none of which runs into the next.
Both the rewrite of `%(name)s` and the search for binds then work token by
token, so the two agree exactly when no token but a placeholder contains what
looks like a bind (`bindsAgree_iff_quiet`).
-/

namespace DataApi
namespace QueryEngine

open Library

/-- A piece of rendered SQL: a placeholder, a string literal or quoted
identifier with its content verbatim, or other text. -/
inductive Token where
  | placeholder (name : List Char)
  | quoted (quote : Char) (content : List Char)
  | plain (text : List Char)
  deriving DecidableEq

namespace Token

/-- The text the generator writes for a token. -/
def rendered (dialect : Dialect) : Token → List Char
  | placeholder name =>
      match dialect with
      | .trino => ':' :: name
      | .postgres => '%' :: '(' :: (name ++ [')', 's'])
  | quoted quote content => quote :: (content ++ [quote])
  | plain text => text

/-- Its text in the canonical SQL, behind the rewrite for PostgreSQL. -/
def rewritten (dialect : Dialect) (token : Token) : List Char :=
  match dialect with
  | .trino => token.rendered .trino
  | .postgres => namedFromPyformat (token.rendered .postgres)

/-- What `text()` should see in a token: the bind of a placeholder, and
otherwise the text itself. -/
def bound (dialect : Dialect) : Token → List (Scanned Char (List Char))
  | placeholder name => [.matched name]
  | token => (token.rewritten dialect).map .copied

/-- The single, double and back quotes. -/
def IsQuote (c : Char) : Prop :=
  c = Char.ofNat 39 ∨ c = Char.ofNat 34 ∨ c = Char.ofNat 96

/-- Quoted texts stand between quotes; other text is not empty and, as the
generator puts spaces around operators, never contains `%(`. -/
def WellFormed : Token → Prop
  | placeholder _ => True
  | quoted quote _ => IsQuote quote
  | plain text => text ≠ [] ∧ ¬ ['%', '('] <:+: text

/-- A token that is not a placeholder has no bind in it. -/
def Quiet (isWord : Char → Bool) (dialect : Dialect) : Token → Prop
  | placeholder _ => True
  | token => matchesOf (scan (bindMatcher isWord) (token.rewritten dialect)) = []

end Token

/-- Two tokens that do not run into each other. -/
def Separated (isWord : Char → Bool) (dialect : Dialect) (t u : Token) : Prop :=
  ∀ a ∈ (t.rewritten dialect).getLast?, ∀ b ∈ (u.rewritten dialect).head?,
    Apart isWord a b

/-- What is assumed of the generator and the parser in one dialect: statements
are rendered as separated tokens, and the placeholders of the text, parsed
again, are its placeholder tokens. -/
structure TokenRendering (U : Unicode) (S : Sqlglot) (dialect : Dialect) where
  tokens : Expression → List Token
  sql_eq : ∀ tree,
    (S.sql dialect tree).toList = (tokens tree).flatMap (Token.rendered dialect)
  wellFormed : ∀ tree, ∀ token ∈ tokens tree, token.WellFormed
  separated : ∀ tree, (tokens tree).IsChain (Separated U.isWord dialect)
  placeholders : ∀ tree reparsed rest,
    S.parse dialect (canonicalSql S dialect tree) = .ok (some reparsed :: rest) →
    ∀ name, name ∈ reparsed.placeholderNames ↔
      Token.placeholder name.toList ∈ tokens tree

/-! ### The rewrite, token by token -/

section Pyformat

theorem pyformatMatcher_bounded : pyformatMatcher.Bounded := by
  intro prev a rest extra b h
  rw [pyformatMatcher.eq_def] at h
  split at h
  · rename_i rest' hEq
    obtain ⟨rfl, rfl⟩ := List.cons.inj hEq
    have hLen := congrArg List.length
      (List.takeWhile_append_dropWhile (p := isNameChar) (l := rest'))
    dsimp only at h
    split_ifs at h with hMatch
    cases h
    rw [Bool.and_eq_true, List.isPrefixOf_iff_prefix] at hMatch
    have hClose := hMatch.2.length_le
    simp only [List.length_append, List.length_cons, List.length_nil] at hLen hClose ⊢
    omega
  · cases h

/-- A match that is decided before the text ends is not changed by more text. -/
theorem pyformatMatcher_append {rest : List Char}
    (hNil : rest.dropWhile isNameChar ≠ [])
    (hParen : rest.dropWhile isNameChar ≠ [')']) (prev : Option Char)
    (tail : List Char) :
    pyformatMatcher prev ('%' :: '(' :: (rest ++ tail)) =
      pyformatMatcher prev ('%' :: '(' :: rest) := by
  have hDrop : (rest ++ tail).dropWhile isNameChar =
      rest.dropWhile isNameChar ++ tail := by
    rw [List.dropWhile_append, if_neg (by rwa [List.isEmpty_iff])]
  have hShort : (rest.takeWhile isNameChar).length ≠ rest.length := fun hLen =>
    hNil (List.dropWhile_eq_nil_iff.mpr (List.takeWhile_eq_self_iff.mp
      ((List.takeWhile_prefix isNameChar).eq_of_length hLen)))
  rw [pyformatMatcher, pyformatMatcher, hDrop, List.takeWhile_append,
    if_neg hShort]
  obtain ⟨c, cs, hcs⟩ := List.exists_cons_of_ne_nil hNil
  rw [hcs] at hParen ⊢
  cases cs with
  | nil =>
      have hc : (')' == c) = false := by
        rw [beq_eq_false_iff_ne]
        rintro rfl
        exact hParen rfl
      simp [List.isPrefixOf, hc]
  | cons d ds => rfl

/-- No quote belongs to the pattern. -/
theorem ne_of_isQuote {quote : Char} (h : Token.IsQuote quote) :
    isNameChar quote = false ∧ quote ≠ '%' ∧ quote ≠ '(' ∧ quote ≠ ')' := by
  rcases h with rfl | rfl | rfl <;> decide

/-- The pattern does not look at the symbol before it. -/
theorem pyformatMatcher_prev (prev prev' : Option Char) (text : List Char) :
    pyformatMatcher prev text = pyformatMatcher prev' text := by
  rw [pyformatMatcher.eq_def, pyformatMatcher.eq_def]
  split <;> rfl

/-- The rest behind a `%(` in a rendered token decides whether it is a match. -/
theorem decided_of_suffix {token : Token} (hWf : token.WellFormed)
    (hName : ∀ name, token = .placeholder name → isIdentifier name = true)
    {rest : List Char}
    (hSuffix : '%' :: '(' :: rest <:+ token.rendered .postgres) :
    rest.dropWhile isNameChar ≠ [] ∧ rest.dropWhile isNameChar ≠ [')'] := by
  cases token with
  | placeholder name =>
      have hChars := isNameChar_of_isIdentifier (hName name rfl)
      rcases List.suffix_cons_iff.mp hSuffix with hEq | hInner
      · cases hEq
        rw [List.dropWhile_append_of_pos hChars]
        exact ⟨by decide, by decide⟩
      · have hMem := hInner.subset List.mem_cons_self
        simp only [List.mem_cons, List.mem_append] at hMem
        rcases hMem with h | hMem | h | h | h
        · cases h
        · cases hChars _ hMem
        · cases h
        · cases h
        · cases h
  | quoted quote content =>
      obtain ⟨hChar, -, hOpen, hClose⟩ := ne_of_isQuote hWf
      have hLast : ('%' :: '(' :: rest).getLast? = some quote := by
        obtain ⟨front, hFront⟩ := hSuffix
        have hWhole := congrArg List.getLast? hFront
        rwa [List.getLast?_append_of_ne_nil _ (List.cons_ne_nil _ _), Token.rendered,
          ← List.cons_append, List.getLast?_concat] at hWhole
      have hRest : rest.getLast? = some quote := by
        cases rest with
        | nil => exact absurd (Option.some.inj hLast).symm hOpen
        | cons c cs => simpa using hLast
      have hNil : rest.dropWhile isNameChar ≠ [] := fun hNil => by
        have hAll := List.dropWhile_eq_nil_iff.mp hNil quote
          (List.mem_of_getLast? hRest)
        rw [hChar] at hAll
        cases hAll
      refine ⟨hNil, fun hParen => ?_⟩
      have hSame := (List.dropWhile_suffix isNameChar (l := rest))
      rw [hParen] at hSame
      obtain ⟨front, hFront⟩ := hSame
      rw [← hFront, List.getLast?_concat] at hRest
      exact hClose (Option.some.inj hRest).symm
  | plain text =>
      exact absurd (List.IsInfix.trans ⟨[], rest, rfl⟩ hSuffix.isInfix) hWf.2

theorem pyformatMatcher_stable {token : Token} (hWf : token.WellFormed)
    (hName : ∀ name, token = .placeholder name → isIdentifier name = true)
    {tail : List Char}
    (h : ∀ a ∈ (token.rendered .postgres).getLast?, ∀ b ∈ tail.head?,
      ¬ (a = '%' ∧ b = '(')) :
    pyformatMatcher.Stable (token.rendered .postgres) tail := by
  intro prev a rest hSuffix
  by_cases ha : a = '%'
  · subst ha
    cases rest with
    | nil =>
        obtain ⟨front, hFront⟩ := hSuffix
        rw [← hFront, List.getLast?_concat] at h
        cases tail with
        | nil => rfl
        | cons b tail =>
            have hb : b ≠ '(' := fun hb => h '%' rfl b rfl ⟨rfl, hb⟩
            simp [pyformatMatcher, hb]
    | cons c cs =>
        by_cases hc : c = '('
        · subst hc
          obtain ⟨hNil, hParen⟩ := decided_of_suffix hWf hName hSuffix
          exact pyformatMatcher_append hNil hParen prev tail
        · simp [pyformatMatcher, hc]
  · simp [pyformatMatcher, ha]

/-- Plain text is not rewritten. -/
theorem namedFromPyformat_plain {text : List Char} (h : ¬ ['%', '('] <:+: text) :
    namedFromPyformat text = text := by
  refine substitute_of_scan_eq _ (scanFrom_of_no_match ?_ none)
  intro prev a rest hSuffix
  by_cases ha : a = '%'
  · subst ha
    cases rest with
    | nil => rfl
    | cons c cs =>
        have hc : c ≠ '(' := by
          rintro rfl
          exact h (List.IsInfix.trans ⟨[], cs, rfl⟩ hSuffix.isInfix)
        simp [pyformatMatcher, hc]
  · simp [pyformatMatcher, ha]

/-- The rewrite turns a placeholder into its bind. -/
theorem namedFromPyformat_placeholder {name : List Char}
    (hName : isIdentifier name = true) :
    namedFromPyformat ('%' :: '(' :: (name ++ [')', 's'])) = ':' :: name := by
  have hChars := isNameChar_of_isIdentifier hName
  have hMatch : pyformatMatcher none ('%' :: '(' :: (name ++ [')', 's'])) =
      some (name.length + 3, name) := by
    have hTake : (name ++ [')', 's']).takeWhile isNameChar = name := by
      rw [List.takeWhile_append_of_pos hChars]
      exact List.append_nil name
    have hDrop : (name ++ [')', 's']).dropWhile isNameChar = [')', 's'] := by
      rw [List.dropWhile_append_of_pos hChars]
      rfl
    rw [pyformatMatcher, hTake, hDrop, hName]
    rfl
  rw [namedFromPyformat, substitute, scan, scanFrom, hMatch]
  simp [scanFrom_of_length_le]

theorem rewritten_placeholder (dialect : Dialect) {name : List Char}
    (hName : isIdentifier name = true) :
    (Token.placeholder name).rewritten dialect = ':' :: name := by
  cases dialect with
  | trino => rfl
  | postgres => exact namedFromPyformat_placeholder hName

theorem rewritten_plain (dialect : Dialect) {text : List Char}
    (hWf : (Token.plain text).WellFormed) :
    (Token.plain text).rewritten dialect = text := by
  cases dialect with
  | trino => rfl
  | postgres => exact namedFromPyformat_plain hWf.2

theorem rendered_ne_nil (dialect : Dialect) {token : Token}
    (hWf : token.WellFormed) : token.rendered dialect ≠ [] := by
  cases token with
  | placeholder name => cases dialect <;> exact List.cons_ne_nil _ _
  | quoted quote content => exact List.cons_ne_nil _ _
  | plain text => exact hWf.1

/-- Where the canonical texts are apart, no `%(` comes up between the rendered
ones. -/
theorem rendered_separated {isWord : Char → Bool} {t u : Token}
    (ht : t.WellFormed) (hu : u.WellFormed) (h : Separated isWord .postgres t u) :
    ∀ a ∈ (t.rendered .postgres).getLast?, ∀ b ∈ (u.rendered .postgres).head?,
      ¬ (a = '%' ∧ b = '(') := by
  rintro a ha b hb ⟨rfl, rfl⟩
  cases t with
  | placeholder name =>
      have hLast : (('%' :: '(' :: name) ++ [')', 's']).getLast? = some 's' := by
        rw [List.getLast?_append_of_ne_nil _ (List.cons_ne_nil _ _)]
        rfl
      cases hLast.symm.trans ha
  | quoted quote content =>
      rw [Token.rendered, ← List.cons_append, List.getLast?_concat] at ha
      exact (ne_of_isQuote ht).2.1 (Option.some.inj ha)
  | plain text =>
      cases u with
      | placeholder name => cases hb
      | quoted quote content =>
          exact (ne_of_isQuote hu).2.2.1 (Option.some.inj hb)
      | plain text' =>
          have hApart := h '%' (by rwa [rewritten_plain _ ht]) '('
            (by rwa [rewritten_plain _ hu])
          exact hApart.percent_paren ⟨rfl, rfl⟩

/-- The rewrite of a token sequence is the sequence of the rewritten tokens. -/
theorem namedFromPyformat_flatMap {isWord : Char → Bool} {tokens : List Token}
    (hWf : ∀ token ∈ tokens, token.WellFormed)
    (hChain : tokens.IsChain (Separated isWord .postgres))
    (hNames : ∀ name, .placeholder name ∈ tokens → isIdentifier name = true) :
    namedFromPyformat (tokens.flatMap (Token.rendered .postgres)) =
      tokens.flatMap (Token.rewritten .postgres) := by
  have hParts : pyformatMatcher.Separable
      (tokens.map (Token.rendered .postgres)) := by
    refine separable_of_isChain (fun a b => ¬ (a = '%' ∧ b = '(')) ?_ ?_
      (fun _ _ _ _ => pyformatMatcher_prev _ _ _) (fun _ => rfl) ?_
    · intro part hPart
      obtain ⟨token, hToken, rfl⟩ := List.mem_map.mp hPart
      exact rendered_ne_nil _ (hWf token hToken)
    · intro part hPart tail hTail
      obtain ⟨token, hToken, rfl⟩ := List.mem_map.mp hPart
      refine pyformatMatcher_stable (hWf token hToken) ?_ hTail
      rintro name rfl
      exact hNames name hToken
    · refine (List.isChain_map _).mpr (hChain.imp_of_mem_imp ?_)
      intro t u ht hu h
      exact rendered_separated (hWf t ht) (hWf u hu) h
  rw [List.flatMap_def, namedFromPyformat,
    substitute_flatten pyformatMatcher_bounded _ hParts, List.flatMap_map]
  rfl

end Pyformat

/-! ### The binds, token by token -/

section Binds

variable {isWord : Char → Bool} {dialect : Dialect}

/-- The bind of a placeholder is found as such. -/
theorem scan_placeholder {name : List Char} (hNe : name ≠ [])
    (hWord : ∀ c ∈ name, isWord c = true) :
    scan (bindMatcher isWord) (':' :: name) = [.matched name] := by
  have hName : bindName isWord name = name := by
    rw [bindName, List.dropWhile_eq_nil_iff.mpr hWord,
      List.takeWhile_eq_self_iff.mpr hWord]
    rfl
  rw [scan, scanFrom, bindMatcher, hName]
  simp [hNe, scanFrom_of_length_le]

theorem rewritten_ne_nil {token : Token} (hWf : token.WellFormed)
    (hName : ∀ name, token = .placeholder name → isIdentifier name = true) :
    token.rewritten dialect ≠ [] := by
  cases token with
  | placeholder name =>
      rw [rewritten_placeholder dialect (hName name rfl)]
      exact List.cons_ne_nil _ _
  | quoted quote content =>
      cases dialect with
      | trino => exact List.cons_ne_nil _ _
      | postgres =>
          have hQuote : pyformatMatcher none (quote :: (content ++ [quote])) = none := by
            simp [pyformatMatcher, (ne_of_isQuote hWf).2.1]
          rw [Token.rewritten, Token.rendered, namedFromPyformat, substitute, scan,
            scanFrom, hQuote]
          exact List.cons_ne_nil _ _
  | plain text =>
      rw [rewritten_plain dialect hWf]
      exact hWf.1

/-- The binds of a token sequence are those of its tokens. -/
theorem scan_flatMap_rewritten {tokens : List Token}
    (hWf : ∀ token ∈ tokens, token.WellFormed)
    (hChain : tokens.IsChain (Separated isWord dialect))
    (hNames : ∀ name, .placeholder name ∈ tokens → isIdentifier name = true) :
    scan (bindMatcher isWord) (tokens.flatMap (Token.rewritten dialect)) =
      tokens.flatMap fun token =>
        scan (bindMatcher isWord) (token.rewritten dialect) := by
  have hParts : (bindMatcher isWord).Separable
      (tokens.map (Token.rewritten dialect)) := by
    refine separable_of_isChain (Apart isWord) ?_
      (fun _ _ _ => bindMatcher_stable) (fun _ _ rest h => bindMatcher_prev h rest)
      (fun _ => rfl) ((List.isChain_map _).mpr hChain)
    intro part hPart
    obtain ⟨token, hToken, rfl⟩ := List.mem_map.mp hPart
    refine rewritten_ne_nil (hWf token hToken) ?_
    rintro name rfl
    exact hNames name hToken
  rw [List.flatMap_def, scan_flatten bindMatcher_bounded hParts, List.flatMap_map]

/-- A token shows `text()` what it should exactly when it is quiet. -/
theorem scan_eq_bound_iff (dialect : Dialect) (hWord : ∀ c, isNameChar c = true → isWord c = true)
    {token : Token}
    (hName : ∀ name, token = .placeholder name → isIdentifier name = true) :
    scan (bindMatcher isWord) (token.rewritten dialect) = token.bound dialect ↔
      token.Quiet isWord dialect := by
  cases token with
  | placeholder name =>
      have hIdent := hName name rfl
      refine iff_of_true ?_ trivial
      rw [rewritten_placeholder dialect hIdent]
      exact scan_placeholder (ne_nil_of_isIdentifier hIdent) fun c hc =>
        hWord c (isNameChar_of_isIdentifier hIdent c hc)
  | quoted quote content => exact scan_eq_map_copied_iff
  | plain text => exact scan_eq_map_copied_iff

/-- What `text()` should find is the placeholders. -/
theorem mem_matchesOf_bound (dialect : Dialect) {tokens : List Token}
    {name : List Char} :
    name ∈ matchesOf (tokens.flatMap (Token.bound dialect)) ↔
      .placeholder name ∈ tokens := by
  induction tokens with
  | nil => simp [matchesOf]
  | cons token tokens ih =>
      rw [List.flatMap_cons, matchesOf_append, List.mem_append, ih, List.mem_cons]
      refine or_congr_left ?_
      cases token with
      | placeholder name' => simp [Token.bound, matchesOf]
      | quoted quote content => simp [Token.bound]
      | plain text => simp [Token.bound]

end Binds

/-- Lists that pairwise dominate each other and have the same total agree. -/
theorem eq_of_flatMap_eq {α β : Type*} {f g : α → List β} (size : List β → Nat)
    (hSize : ∀ xs ys, size (xs ++ ys) = size xs + size ys) {l : List α}
    (hLe : ∀ a ∈ l, size (f a) ≤ size (g a))
    (h : l.flatMap f = l.flatMap g) : ∀ a ∈ l, size (f a) = size (g a) := by
  have hSum : ∀ (l : List α), (∀ a ∈ l, size (f a) ≤ size (g a)) →
      size (l.flatMap f) ≤ size (l.flatMap g) ∧
        (size (l.flatMap f) = size (l.flatMap g) →
          ∀ a ∈ l, size (f a) = size (g a)) := by
    intro l
    induction l with
    | nil => exact fun _ => ⟨le_rfl, fun _ a ha => nomatch ha⟩
    | cons b l ih =>
        intro hLe
        obtain ⟨hRest, hEq⟩ := ih fun a ha => hLe a (List.mem_cons_of_mem _ ha)
        have hb := hLe b List.mem_cons_self
        rw [List.flatMap_cons, List.flatMap_cons, hSize, hSize]
        refine ⟨by omega, fun hTotal a ha => ?_⟩
        rcases List.mem_cons.mp ha with rfl | ha
        · omega
        · exact hEq (by omega) a ha
  exact (hSum l hLe).2 (congrArg size h)

section Agreement

variable {U : Unicode} {S : Sqlglot} {dialect : Dialect} {sql : String}
variable {v : ValidatedSql} {tree : Expression}

/-- The binder sees the parameters of the validator: the names agree, every
bind is a placeholder token and all other text is left alone, and definitions
that meet the contract can be bound and leave no bind undeclared. -/
structure BindsAgree (U : Unicode) (dialect : Dialect) (v : ValidatedSql)
    (tokens : List Token) : Prop where
  names : ∀ name, name ∈ (text U v.canonicalSql).bindNames ↔
    name ∈ v.parameterNames
  occurrences : (text U v.canonicalSql).items = tokens.flatMap (Token.bound dialect)
  bindable : ∀ (P : Scalars)
    (definitions : Dict String (DynamicParameterDefinition P)),
    validateParameterContract v.parameterNames definitions = .ok () →
    ∃ statement, buildBoundStatement U v.canonicalSql definitions = .ok statement ∧
      ∀ name, name ∈ statement.bindNames ↔ name ∈ definitions.keys

variable (R : TokenRendering U S dialect)

/-- The placeholder tokens of accepted SQL are its parameters, and all of them
are identifiers. -/
theorem mem_parameterNames_iff (h : validate U S sql dialect = .ok v)
    (hParse : S.parse dialect sql = .ok [some tree]) (name : String) :
    name ∈ v.parameterNames ↔ .placeholder name.toList ∈ R.tokens tree := by
  obtain ⟨tree', reparsed, hAccepted⟩ := validate_eq_ok_iff.mp h
  obtain rfl := hAccepted.tree_eq hParse
  have hReparse := hAccepted.reparse_eq
  rw [hAccepted.canonical_eq] at hReparse
  rw [hAccepted.names_eq, List.mem_toFinset]
  exact R.placeholders tree' reparsed [] hReparse name

theorem isIdentifier_of_mem_tokens (h : validate U S sql dialect = .ok v)
    (hParse : S.parse dialect sql = .ok [some tree]) {name : List Char}
    (hMem : .placeholder name ∈ R.tokens tree) : isIdentifier name = true := by
  obtain ⟨tree', reparsed, hAccepted⟩ := validate_eq_ok_iff.mp h
  have hName : String.ofList name ∈ v.parameterNames := by
    rw [mem_parameterNames_iff R h hParse, String.toList_ofList]
    exact hMem
  rw [hAccepted.names_eq, List.mem_toFinset] at hName
  have hIdent := hAccepted.identifiers _ hName
  rwa [isParameterName, String.toList_ofList] at hIdent

/-- The canonical text of accepted SQL is the sequence of its rewritten tokens. -/
theorem toList_canonicalSql (h : validate U S sql dialect = .ok v)
    (hParse : S.parse dialect sql = .ok [some tree]) :
    v.canonicalSql.toList = (R.tokens tree).flatMap (Token.rewritten dialect) := by
  obtain ⟨tree', reparsed, hAccepted⟩ := validate_eq_ok_iff.mp h
  obtain rfl := hAccepted.tree_eq hParse
  rw [hAccepted.canonical_eq, canonicalSql.eq_def]
  cases dialect with
  | trino => exact R.sql_eq tree'
  | postgres =>
      rw [String.toList_ofList, R.sql_eq tree']
      exact namedFromPyformat_flatMap (R.wellFormed tree') (R.separated tree')
        fun name hMem => isIdentifier_of_mem_tokens R h hParse hMem

/-- The validator and the binder see the same parameters exactly when no token
but a placeholder contains what looks like a bind. -/
theorem bindsAgree_iff_quiet (h : validate U S sql dialect = .ok v)
    (hParse : S.parse dialect sql = .ok [some tree]) :
    BindsAgree U dialect v (R.tokens tree) ↔
      ∀ token ∈ R.tokens tree, token.Quiet U.isWord dialect := by
  have hIdent : ∀ token ∈ R.tokens tree, ∀ name, token = .placeholder name →
      isIdentifier name = true := by
    rintro _ hMem name rfl
    exact isIdentifier_of_mem_tokens R h hParse hMem
  -- no bind reaches across the end of a token
  have hItems : (text U v.canonicalSql).items = (R.tokens tree).flatMap fun token =>
      scan (bindMatcher U.isWord) (token.rewritten dialect) := by
    rw [text, toList_canonicalSql R h hParse]
    exact scan_flatMap_rewritten (R.wellFormed tree) (R.separated tree)
      fun name hMem => hIdent _ hMem name rfl
  have hBound := fun token (hToken : token ∈ R.tokens tree) =>
    scan_eq_bound_iff dialect
      (fun c hc => U.isWord_of_isNameChar hc) (hIdent token hToken)
  constructor
  · -- a token that is not quiet has a bind too many, and none has one too few
    intro hAgree token hToken
    have hCount := eq_of_flatMap_eq (fun xs => (matchesOf xs).length)
      (fun xs ys => by simp) ?_ (hAgree.occurrences.symm.trans hItems) token hToken
    · cases token with
      | placeholder name => trivial
      | quoted quote content =>
          change matchesOf _ = []
          simpa [Token.bound] using hCount.symm
      | plain text =>
          change matchesOf _ = []
          simpa [Token.bound] using hCount.symm
    · intro token hToken
      cases token with
      | placeholder name => rw [(hBound _ hToken).mpr trivial]
      | quoted quote content => simp [Token.bound]
      | plain text => simp [Token.bound]
  · intro hQuiet
    have hOccurrences : (text U v.canonicalSql).items =
        (R.tokens tree).flatMap (Token.bound dialect) := by
      rw [hItems]
      exact List.flatMap_congr fun token hToken =>
        (hBound token hToken).mpr (hQuiet token hToken)
    have hNames : ∀ name, name ∈ (text U v.canonicalSql).bindNames ↔
        name ∈ v.parameterNames := by
      intro name
      rw [mem_parameterNames_iff R h hParse, TextClause.bindNames, hOccurrences,
        ← mem_matchesOf_bound dialect, List.mem_map]
      constructor
      · rintro ⟨name, hName, rfl⟩
        rwa [String.toList_ofList]
      · exact fun hName => ⟨name.toList, hName, String.ofList_toList⟩
    refine ⟨hNames, hOccurrences, fun P definitions hContract => ?_⟩
    have hMeets := validateParameterContract_eq_ok_iff.mp hContract
    have hKeys : ∀ name, name ∈ (text U v.canonicalSql).bindNames ↔
        name ∈ definitions.keys := by
      intro name
      rw [hNames, hMeets.names_eq, List.mem_toFinset]
    obtain ⟨statement, hStatement⟩ :=
      buildBoundStatement_eq_ok_iff.mpr fun name hName => (hKeys name).mpr hName
    refine ⟨statement, hStatement, fun name => ?_⟩
    rw [TextClause.bindNames, items_of_buildBoundStatement hStatement]
    exact hKeys name

end Agreement

/-- One text given as a token sequence. -/
def TokenRendering.ofOneText {U : Unicode} {sql : String} {tree : Expression}
    (tokens : List Token)
    (hSql : sql.toList = tokens.flatMap (Token.rendered .trino))
    (hWf : ∀ token ∈ tokens, token.WellFormed)
    (hChain : tokens.IsChain (Separated U.isWord .trino))
    (hNames : ∀ name, name ∈ tree.placeholderNames ↔
      .placeholder name.toList ∈ tokens) :
    TokenRendering U (oneText sql tree) .trino where
  tokens _ := tokens
  sql_eq _ := hSql
  wellFormed _ := hWf
  separated _ := hChain
  placeholders _ reparsed rest h name := by
    simp only [oneText, canonicalSql, if_true, Except.ok.injEq, List.cons.injEq,
      Option.some.injEq] at h
    rw [← h.1]
    exact hNames name

/-- The tree and the tokens of `SELECT :x`. -/
def selectX : Expression := .node .select "" [.node .placeholder "x" []]

/-- See `selectX`. -/
def selectXTokens : TokenRendering .ascii (oneText "SELECT :x" selectX) .trino :=
  .ofOneText [.plain "SELECT ".toList, .placeholder ['x']] (by decide)
    (by simp [Token.WellFormed]; decide)
    (by
      refine List.isChain_pair.mpr ?_
      rintro a ⟨⟩ b ⟨⟩
      exact ⟨by decide, by decide, by decide, by decide⟩)
    (fun name => by
      have hNames : selectX.placeholderNames = ["x"] := by decide
      rw [hNames]
      simp [← String.toList_inj])

/-- The placeholder of `SELECT :x` is bound. -/
theorem bindsAgree_selectX :
    BindsAgree .ascii .trino ⟨"SELECT :x", {"x"}⟩
      (selectXTokens.tokens selectX) := by
  have hAccepted : validate .ascii (oneText "SELECT :x" selectX) "SELECT :x"
      .trino = .ok ⟨"SELECT :x", {"x"}⟩ := by decide
  refine (bindsAgree_iff_quiet selectXTokens hAccepted rfl).mpr ?_
  change ∀ token ∈ [Token.plain "SELECT ".toList, .placeholder ['x']], _
  simp [Token.Quiet]
  decide

/-- The tree and the tokens of `SELECT ':x'`. -/
def selectLiteral : Expression := .node .select "" [.node (.other "Literal") ":x" []]

/-- See `selectLiteral`. -/
def selectLiteralTokens :
    TokenRendering .ascii (oneText "SELECT ':x'" selectLiteral) .trino :=
  .ofOneText [.plain "SELECT ".toList, .quoted (Char.ofNat 39) [':', 'x']]
    (by decide) (by simp [Token.WellFormed, Token.IsQuote]; decide)
    (by
      refine List.isChain_pair.mpr ?_
      rintro a ⟨⟩ b ⟨⟩
      exact ⟨by decide, by decide, by decide, by decide⟩)
    (fun name => by
      have hNames : selectLiteral.placeholderNames = [] := by decide
      rw [hNames]
      simp)

/-- The literal of `SELECT ':x'` is bound as well, though it is no parameter. -/
theorem literal_is_bound :
    ¬ ∀ (S : Sqlglot) (dialect : Dialect) (sql : String) (v : ValidatedSql)
        (tree : Expression) (R : TokenRendering .ascii S dialect),
      validate .ascii S sql dialect = .ok v →
      S.parse dialect sql = .ok [some tree] →
      BindsAgree .ascii dialect v (R.tokens tree) := by
  intro hAgree
  have hNames := (hAgree _ .trino "SELECT ':x'" ⟨"SELECT ':x'", ∅⟩ selectLiteral
    selectLiteralTokens (by decide) rfl).names "x"
  revert hNames
  decide

end QueryEngine
end DataApi
