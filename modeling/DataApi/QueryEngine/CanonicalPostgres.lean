import DataApi.QueryEngine.BindAgreement

/-!
# Canonical SQL for PostgreSQL

The generator writes a placeholder as `%(name)s`, and a regular expression
turns that into `:name` over the whole rendered text.  Token by token, the
rewrite changes the placeholders and the quoted texts that contain something
of that form (`named_rewrittenContent`).  The canonical text is therefore
parsed as the tree of the submitted one exactly when no string literal and no
quoted identifier contains a `%(name)s` (`treePreserved_iff`).
-/

namespace DataApi
namespace QueryEngine

open Library

namespace Token

/-- The text of a token with a placeholder written as `:name`. -/
def named : Token → List Char := rendered .trino

/-- The token with its content, if it is quoted, behind the rewrite. -/
def rewrittenContent : Token → Token
  | quoted quote content => quoted quote (namedFromPyformat content)
  | token => token

/-- A quoted text that contains `%(name)s`. -/
def HasPyformat : Token → Prop
  | quoted _ content => ∃ name, isIdentifier name = true ∧
      (placeholder name).rendered .postgres <:+: content
  | _ => False

end Token

/-- What is assumed of the parser and the generator for PostgreSQL, beyond the
tokens of a rendered text.  The trees it speaks of are those of some statement:
each is read back from its text, no matter how the placeholders are spelled,
and contents stand verbatim in the text, so that a tree with the rewritten
contents is rendered with these. -/
structure FaithfulRendering (U : Unicode) (S : Sqlglot) extends
    TokenRendering U S .postgres where
  reads_rendered : ∀ sql tree, S.parse .postgres sql = .ok [some tree] →
    S.parse .postgres (S.sql .postgres tree) = .ok [some tree]
  reads_named : ∀ sql tree, S.parse .postgres sql = .ok [some tree] →
    S.parse .postgres (String.ofList ((tokens tree).flatMap Token.named)) =
      S.parse .postgres (S.sql .postgres tree)
  verbatim : ∀ sql tree, S.parse .postgres sql = .ok [some tree] →
    ∃ sql' tree', S.parse .postgres sql' = .ok [some tree'] ∧
      tokens tree' = (tokens tree).map Token.rewrittenContent

/-- The canonical text is one statement with the tree of the submitted text.
Trees have no comments. -/
def TreePreserved (S : Sqlglot) (v : ValidatedSql) (tree : Expression) : Prop :=
  S.parse .postgres v.canonicalSql = .ok [some tree]

/-! ### The rewrite inside quotes -/

section Quoted

/-- The rewrite takes a quoted text between its quotes. -/
theorem pyformatMatcher_append_quote {quote : Char} (h : Token.IsQuote quote)
    (prev : Option Char) (rest : List Char) :
    pyformatMatcher prev ('%' :: '(' :: (rest ++ [quote])) =
      pyformatMatcher prev ('%' :: '(' :: rest) := by
  obtain ⟨hChar, -, -, hClose⟩ := ne_of_isQuote h
  have hTake : (rest ++ [quote]).takeWhile isNameChar =
      rest.takeWhile isNameChar := by
    rw [List.takeWhile_append]
    split
    · rename_i hAll
      rw [List.takeWhile_cons_of_neg (by simp [hChar]), List.append_nil]
      exact ((List.takeWhile_prefix isNameChar).eq_of_length hAll).symm
    · rfl
  have hDrop : (rest ++ [quote]).dropWhile isNameChar =
      rest.dropWhile isNameChar ++ [quote] := by
    rw [List.dropWhile_append]
    split
    · rename_i hNil
      rw [List.isEmpty_iff.mp hNil, List.nil_append,
        List.dropWhile_cons_of_neg (by simp [hChar])]
    · rfl
  have hs : ('s' == quote) = false := by
    rw [beq_eq_false_iff_ne]
    rintro rfl
    exact absurd hChar (by decide)
  have hParen : (')' == quote) = false := beq_eq_false_iff_ne.mpr hClose.symm
  rw [pyformatMatcher, pyformatMatcher, hTake, hDrop]
  -- the quote closes no match that the content leaves open
  rcases rest.dropWhile isNameChar with _ | ⟨c, _ | ⟨d, ds⟩⟩
  · simp [List.isPrefixOf, hParen]
  · simp [List.isPrefixOf, hs]
  · rfl

theorem pyformatMatcher_quote {quote : Char} (h : Token.IsQuote quote)
    (prev : Option Char) (rest : List Char) :
    pyformatMatcher prev (quote :: rest) = none := by
  simp [pyformatMatcher, (ne_of_isQuote h).2.1]

theorem namedFromPyformat_quoted {quote : Char} (h : Token.IsQuote quote)
    (content : List Char) :
    namedFromPyformat (quote :: (content ++ [quote])) =
      quote :: (namedFromPyformat content ++ [quote]) := by
  have hQuote : ∀ tail, pyformatMatcher.Stable [quote] tail := by
    intro tail prev a rest hSuffix
    rcases List.suffix_cons_iff.mp hSuffix with hEq | hNil
    · cases hEq
      exact (pyformatMatcher_quote h prev _).trans (pyformatMatcher_quote h prev _).symm
    · exact absurd (List.suffix_nil.mp hNil) (List.cons_ne_nil a rest)
  have hContent : pyformatMatcher.Stable content [quote] := by
    intro prev a rest hSuffix
    by_cases ha : a = '%'
    · subst ha
      cases rest with
      | nil =>
          -- the `%` is followed by the closing quote
          simp [pyformatMatcher, (ne_of_isQuote h).2.2.1]
      | cons c cs =>
          by_cases hc : c = '('
          · subst hc
            exact pyformatMatcher_append_quote h prev cs
          · simp [pyformatMatcher, hc]
    · simp [pyformatMatcher, ha]
  have hParts : pyformatMatcher.Separable [[quote], content, [quote]] :=
    ⟨hQuote _, pyformatMatcher_prev _ _ _, by simpa using hContent,
      pyformatMatcher_prev _ _ _, hQuote _, pyformatMatcher_prev _ _ _, trivial⟩
  have hSelf : substitute pyformatMatcher (fun name => ':' :: name) [quote] = [quote] := by
    rw [substitute, scan, scanFrom, pyformatMatcher_quote h]
    rfl
  have hWhole := substitute_flatten pyformatMatcher_bounded
    (fun name => ':' :: name) hParts
  simp only [List.flatten_cons, List.flatten_nil, List.append_nil,
    List.flatMap_cons, List.flatMap_nil, hSelf] at hWhole
  exact hWhole

/-- What the pattern finds is a placeholder as the generator writes it. -/
theorem pyformatMatcher_isSome_iff {text : List Char} :
    (∃ found, pyformatMatcher none text = some found) ↔
      ∃ name, isIdentifier name = true ∧
        (Token.placeholder name).rendered .postgres <+: text := by
  constructor
  · rintro ⟨found, hFound⟩
    rw [pyformatMatcher.eq_def] at hFound
    split at hFound
    · rename_i rest
      dsimp only at hFound
      split_ifs at hFound with hMatch
      rw [Bool.and_eq_true, List.isPrefixOf_iff_prefix] at hMatch
      obtain ⟨hIdent, tail, hTail⟩ := hMatch
      refine ⟨_, hIdent, tail, ?_⟩
      rw [Token.rendered, List.cons_append, List.cons_append, List.append_assoc,
        hTail, List.takeWhile_append_dropWhile]
    · cases hFound
  · rintro ⟨name, hIdent, tail, rfl⟩
    have hChars := isNameChar_of_isIdentifier hIdent
    have hTake : (name ++ ([')', 's'] ++ tail)).takeWhile isNameChar = name := by
      rw [List.takeWhile_append_of_pos hChars]
      exact List.append_nil name
    have hDrop : (name ++ ([')', 's'] ++ tail)).dropWhile isNameChar =
        [')', 's'] ++ tail := by
      rw [List.dropWhile_append_of_pos hChars]
      rfl
    refine ⟨(name.length + 3, name), ?_⟩
    rw [Token.rendered, List.cons_append, List.cons_append, List.append_assoc,
      pyformatMatcher, hTake, hDrop, hIdent]
    rfl

/-- Each match loses three symbols. -/
theorem pyformatMatcher_shortens {prev : Option Char} {text : List Char}
    {extra : Nat} {name : List Char}
    (h : pyformatMatcher prev text = some (extra, name)) :
    (':' :: name).length ≤ extra := by
  rw [pyformatMatcher.eq_def] at h
  split at h
  · dsimp only at h
    split_ifs at h
    cases h
    rw [List.length_cons]
    omega
  · cases h

/-- The rewrite leaves exactly the contents without a `%(name)s` as they are. -/
theorem rewrittenContent_eq_self_iff {token : Token} :
    token.rewrittenContent = token ↔ ¬ token.HasPyformat := by
  cases token with
  | placeholder name => exact iff_of_true rfl id
  | plain text => exact iff_of_true rfl id
  | quoted quote content =>
      rw [Token.rewrittenContent, Token.quoted.injEq, eq_self, true_and,
        namedFromPyformat, substitute_eq_self_iff pyformatMatcher_bounded
          (fun _ _ _ _ => pyformatMatcher_shortens),
        matchesOf_scan_eq_nil_iff pyformatMatcher_prev]
      -- a match loses symbols, so an unchanged content is one without matches
      constructor
      · rintro hNone ⟨name, hIdent, front, tail, hText⟩
        have hFound := pyformatMatcher_isSome_iff.mpr
          ⟨name, hIdent, List.prefix_append _ tail⟩
        rw [List.append_assoc] at hText
        rw [Token.rendered, List.cons_append] at hFound hText
        rw [hNone _ _ ⟨front, hText⟩] at hFound
        obtain ⟨_, hFound⟩ := hFound
        cases hFound
      · intro hPlain a rest hSuffix
        by_contra hFound
        obtain ⟨name, hIdent, hPrefixed⟩ := pyformatMatcher_isSome_iff.mp
          (Option.ne_none_iff_exists'.mp hFound)
        exact hPlain ⟨name, hIdent, hPrefixed.isInfix.trans hSuffix.isInfix⟩

/-- The rewrite acts on a token by its content. -/
theorem named_rewrittenContent {token : Token} (hWf : token.WellFormed)
    (hName : ∀ name, token = .placeholder name → isIdentifier name = true) :
    token.rewritten .postgres = token.rewrittenContent.named := by
  cases token with
  | placeholder name => exact namedFromPyformat_placeholder (hName name rfl)
  | quoted quote content => exact namedFromPyformat_quoted hWf content
  | plain text => exact namedFromPyformat_plain hWf.2

end Quoted

section Preserved

variable {U : Unicode} {S : Sqlglot} {sql : String} {v : ValidatedSql}
variable {tree : Expression}

/-- The canonical text is the named text of the rewritten tokens. -/
theorem canonicalSql_eq_named (R : TokenRendering U S .postgres)
    (h : validate U S sql .postgres = .ok v)
    (hParse : S.parse .postgres sql = .ok [some tree]) :
    v.canonicalSql = String.ofList
      (((R.tokens tree).map Token.rewrittenContent).flatMap Token.named) := by
  rw [← String.toList_inj, toList_canonicalSql R h hParse, String.toList_ofList,
    List.flatMap_map]
  refine List.flatMap_congr fun token hToken => ?_
  refine named_rewrittenContent (R.wellFormed tree token hToken) ?_
  rintro name rfl
  exact isIdentifier_of_mem_tokens R h hParse hToken

/-- The canonical text of accepted SQL is parsed as the submitted tree exactly
when none of its quoted texts contains a `%(name)s`. -/
theorem treePreserved_iff (R : FaithfulRendering U S)
    (h : validate U S sql .postgres = .ok v)
    (hParse : S.parse .postgres sql = .ok [some tree]) :
    TreePreserved S v tree ↔ ∀ token ∈ R.tokens tree, ¬ token.HasPyformat := by
  obtain ⟨sql', tree', hParse', hTokens⟩ := R.verbatim sql tree hParse
  -- the canonical text spells the tokens of that other tree
  have hCanonical : S.parse .postgres v.canonicalSql = .ok [some tree'] := by
    rw [canonicalSql_eq_named R.toTokenRendering h hParse, ← hTokens,
      R.reads_named sql' tree' hParse']
    exact R.reads_rendered sql' tree' hParse'
  have hFixed : (∀ token ∈ R.tokens tree, ¬ token.HasPyformat) ↔
      R.tokens tree' = R.tokens tree := by
    have hMap : (R.tokens tree).map Token.rewrittenContent = (R.tokens tree).map id ↔
        ∀ token ∈ R.tokens tree, token.rewrittenContent = token := List.map_inj_left
    rw [hTokens, ← List.map_id (R.tokens tree), List.map_map, Function.comp_id, hMap,
      List.map_id]
    exact forall₂_congr fun token _ => rewrittenContent_eq_self_iff.symm
  rw [hFixed, TreePreserved]
  constructor
  · intro hPreserved
    cases hCanonical.symm.trans hPreserved
    rfl
  · intro hSame
    rw [canonicalSql_eq_named R.toTokenRendering h hParse, ← hTokens, hSame,
      R.reads_named sql tree hParse]
    exact R.reads_rendered sql tree hParse

end Preserved

/-! ### A placeholder and a literal -/

/-- The tree of a statement that selects a string literal. -/
def selectText (content : String) : Expression :=
  .node .select "" [.node (.other "Literal") content []]

/-- The tokens of a statement that selects one of two literals or the
placeholder `x`. -/
def itemTokens (tree : Expression) : List Token :=
  if tree.walk.any (fun node => node.name = "%(x)s") = true then
    [.plain "SELECT ".toList, .quoted (Char.ofNat 39) "%(x)s".toList]
  else if tree.walk.any (fun node => node.name = ":x") = true then
    [.plain "SELECT ".toList, .quoted (Char.ofNat 39) ":x".toList]
  else [.plain "SELECT ".toList, .placeholder ['x']]

/-- `sqlglot` on these statements. -/
def selectItem : Sqlglot where
  parse _ sql :=
    if sql = "SELECT :x" ∨ sql = "SELECT %(x)s" then .ok [some selectX]
    else if sql = "SELECT '%(x)s'" then .ok [some (selectText "%(x)s")]
    else if sql = "SELECT ':x'" then .ok [some (selectText ":x")]
    else .error (.parseError [])
  sql _ tree := String.ofList ((itemTokens tree).flatMap (Token.rendered .postgres))

theorem canonicalSql_selectItem (tree : Expression) :
    canonicalSql selectItem .postgres tree = String.ofList (namedFromPyformat
      (String.ofList ((itemTokens tree).flatMap
        (Token.rendered .postgres))).toList) := rfl

/-- Its tokens. -/
def selectItemTokens : TokenRendering .ascii selectItem .postgres where
  tokens := itemTokens
  sql_eq tree := String.toList_ofList
  wellFormed tree token hMem := by
    have hSelect : (Token.plain "SELECT ".toList).WellFormed := by
      simp [Token.WellFormed]
      decide
    have hQuote : ∀ content, (Token.quoted (Char.ofNat 39) content).WellFormed :=
      fun _ => Or.inl rfl
    rw [itemTokens] at hMem
    split_ifs at hMem <;> rcases List.mem_pair.mp hMem with rfl | rfl <;>
      first | exact hSelect | exact hQuote _ | trivial
  separated tree := by
    rw [itemTokens]
    split_ifs <;> refine List.isChain_pair.mpr ?_ <;> rintro a ⟨⟩ b ⟨⟩ <;>
      exact ⟨by decide, by decide, by decide, by decide⟩
  placeholders tree reparsed rest h name := by
    rw [canonicalSql_selectItem] at h
    rw [itemTokens] at h ⊢
    split_ifs at h ⊢
    · cases h
      have hNames : (selectText ":x").placeholderNames = [] := by decide
      rw [hNames]
      simp
    · cases h
      have hNames : (selectText ":x").placeholderNames = [] := by decide
      rw [hNames]
      simp
    · cases h
      have hNames : selectX.placeholderNames = ["x"] := by decide
      rw [hNames]
      simp [← String.toList_inj]

/-- The trees it knows. -/
theorem tree_of_selectItem {sql : String} {tree : Expression}
    (h : selectItem.parse .postgres sql = .ok [some tree]) :
    tree = selectX ∨ tree = selectText "%(x)s" ∨ tree = selectText ":x" := by
  simp only [selectItem] at h
  split_ifs at h <;> cases h <;> simp

/-- It renders faithfully. -/
def selectItemFaithful : FaithfulRendering .ascii selectItem where
  toTokenRendering := selectItemTokens
  reads_rendered sql tree h := by
    rcases tree_of_selectItem h with rfl | rfl | rfl <;> rfl
  reads_named sql tree h := by
    rcases tree_of_selectItem h with rfl | rfl | rfl <;> rfl
  verbatim sql tree h := by
    rcases tree_of_selectItem h with rfl | rfl | rfl
    · exact ⟨"SELECT :x", selectX, rfl, by decide⟩
    · exact ⟨"SELECT ':x'", selectText ":x", rfl, by decide⟩
    · exact ⟨"SELECT ':x'", selectText ":x", rfl, by decide⟩

/-- The placeholder of `SELECT :x` survives. -/
theorem treePreserved_selectX : TreePreserved selectItem ⟨"SELECT :x", {"x"}⟩ selectX := by
  have hAccepted : validate .ascii selectItem "SELECT :x" .postgres =
      .ok ⟨"SELECT :x", {"x"}⟩ := by decide
  refine (treePreserved_iff selectItemFaithful hAccepted rfl).mpr ?_
  change ∀ token ∈ [Token.plain "SELECT ".toList, .placeholder ['x']], _
  simp [Token.HasPyformat]

/-- The literal of `SELECT '%(x)s'` becomes `':x'`. -/
theorem literal_rewritten :
    ¬ ∀ (S : Sqlglot) (_ : FaithfulRendering .ascii S) (sql : String)
        (v : ValidatedSql) (tree : Expression),
      validate .ascii S sql .postgres = .ok v →
      S.parse .postgres sql = .ok [some tree] → TreePreserved S v tree := by
  intro hPreserved
  have hSame := hPreserved selectItem selectItemFaithful "SELECT '%(x)s'"
    ⟨"SELECT ':x'", ∅⟩ (selectText "%(x)s") (by decide) rfl
  have hLiteral : TreePreserved selectItem ⟨"SELECT ':x'", ∅⟩ (selectText ":x") := rfl
  have hTrees := hSame.symm.trans hLiteral
  simp [selectText] at hTrees

end QueryEngine
end DataApi
