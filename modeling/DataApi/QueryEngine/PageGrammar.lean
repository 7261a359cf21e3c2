import DataApi.QueryEngine.PagedCalls

/-!
# The grammar of the wrapped statements

Behind a select, Trino takes `OFFSET` and then `LIMIT`; PostgreSQL takes the two in
either order.  A paginated route wraps its statement in one text for both databases,
with `LIMIT` in front.

A query of a database is a select around a query in parentheses, with a tail that the
database takes, or a query of another form.  Which these are is left open.
-/

namespace DataApi
namespace QueryEngine

open Library Schemas PiiCache

/-- The clauses of a query tail. -/
inductive TailKind where
  | orderBy
  | offset
  | limit
  deriving DecidableEq

/-- Which clause may stand in front of which. -/
def mayPrecede : Dialect → TailKind → TailKind → Bool
  | _, .orderBy, .offset => true
  | _, .orderBy, .limit => true
  | _, .offset, .limit => true
  | .postgres, .limit, .offset => true
  | _, _, _ => false

/-- The tails a database takes. -/
def TailAllowed (dialect : Dialect) (kinds : List TailKind) : Prop :=
  kinds.Pairwise fun before after => mayPrecede dialect before after

instance (dialect : Dialect) (kinds : List TailKind) :
    Decidable (TailAllowed dialect kinds) := by
  unfold TailAllowed
  infer_instance

/-- A clause whose count is a parameter. -/
inductive CountClause where
  | offset (parameter : String)
  | limit (parameter : String)

namespace CountClause

/-- The name of the parameter. -/
def parameter : CountClause → String
  | .offset parameter => parameter
  | .limit parameter => parameter

/-- The kind of the clause. -/
def kind : CountClause → TailKind
  | .offset _ => .offset
  | .limit _ => .limit

/-- The clause as it is written behind a select. -/
def chars : CountClause → List Char
  | .offset parameter => " OFFSET :".toList ++ parameter.toList
  | .limit parameter => " LIMIT :".toList ++ parameter.toList

end CountClause

/-- The selects that `execute_route` puts around a statement. -/
inductive WrapperSelect where
  | count
  | data
  deriving DecidableEq

/-- The text in front of the opening parenthesis. -/
def WrapperSelect.front : WrapperSelect → String
  | .count => "SELECT COUNT(*) AS total FROM "
  | .data => "SELECT * FROM "

/-- The text behind the closing parenthesis. -/
def WrapperSelect.alias : WrapperSelect → String
  | .count => " AS dynamic_route_count"
  | .data => " AS dynamic_route_data"

/-- A select around a query, with a tail. -/
def wrappedChars (select : WrapperSelect) (sql : List Char) (tail : List CountClause) :
    List Char :=
  select.front.toList ++ '(' :: (sql ++ ')' ::
    (select.alias.toList ++ tail.flatMap CountClause.chars))

/-- The parameters of a tail are names of parameters. -/
def WellNamed (tail : List CountClause) : Prop :=
  ∀ clause ∈ tail, isParameterName clause.parameter = true

/-- The queries of a database.  `Other` are those that do not have the form of a select
around a query in parentheses. -/
inductive IsQuery (Other : List Char → Prop) (dialect : Dialect) : List Char → Prop where
  | other {sql : List Char} (hOther : Other sql) : IsQuery Other dialect sql
  | wrapped {sql : List Char} {tail : List CountClause} (select : WrapperSelect)
      (hQuery : IsQuery Other dialect sql) (hNames : WellNamed tail)
      (hTail : TailAllowed dialect (tail.map CountClause.kind)) :
      IsQuery Other dialect (wrappedChars select sql tail)

/-- Queries of another form are not selects around a text in parentheses. -/
def NotWrapped (Other : List Char → Prop) : Prop :=
  ∀ select sql tail, WellNamed tail → ¬ Other (wrappedChars select sql tail)

/-! ### A text is read in one way -/

section Reading

/-- The last occurrence of an element splits a list in one way. -/
theorem append_cons_inj_of_last {α : Type} {a : α} {xs xs' ys ys' : List α}
    (h : xs ++ a :: ys = xs' ++ a :: ys') (hLast : a ∉ ys) (hLast' : a ∉ ys') :
    xs = xs' ∧ ys = ys' := by
  rcases List.append_eq_append_iff.mp h with ⟨mid, hxs, hys⟩ | ⟨mid, hxs, hys⟩
  · cases mid with
    | nil => exact ⟨by simpa using hxs.symm, (List.cons.inj hys).2⟩
    | cons b mid =>
        rw [(List.cons.inj hys).2] at hLast
        exact absurd (List.mem_append_right mid List.mem_cons_self) hLast
  · cases mid with
    | nil => exact ⟨by simpa using hxs, (List.cons.inj hys).2.symm⟩
    | cons b mid =>
        rw [(List.cons.inj hys).2] at hLast'
        exact absurd (List.mem_append_right mid List.mem_cons_self) hLast'

/-- A name without blanks ends where the next clause begins. -/
theorem append_inj_of_blank {xs xs' rest rest' : List Char} (hxs : ' ' ∉ xs)
    (hxs' : ' ' ∉ xs') (hRest : ∀ c ∈ rest.head?, c = ' ') (hRest' : ∀ c ∈ rest'.head?, c = ' ')
    (h : xs ++ rest = xs' ++ rest') : xs = xs' ∧ rest = rest' := by
  induction xs generalizing xs' with
  | nil =>
      cases xs' with
      | nil => exact ⟨rfl, h⟩
      | cons c xs' =>
          have hBlank : c = ' ' := hRest c (by rw [List.nil_append] at h; rw [h]; rfl)
          exact absurd (hBlank ▸ List.mem_cons_self) hxs'
  | cons c xs ih =>
      cases xs' with
      | nil =>
          have hBlank : c = ' ' := hRest' c (by rw [List.nil_append] at h; rw [← h]; rfl)
          exact absurd (hBlank ▸ List.mem_cons_self) hxs
      | cons c' xs' =>
          obtain ⟨hHead, hTail⟩ := List.cons.inj h
          obtain ⟨hSame, hRests⟩ := ih (fun hMem => hxs (List.mem_cons_of_mem _ hMem))
            (fun hMem => hxs' (List.mem_cons_of_mem _ hMem)) hTail
          exact ⟨by rw [hHead, hSame], hRests⟩

/-- A name of a parameter has neither blanks nor parentheses. -/
theorem notMem_parameter {name : String} (hName : isParameterName name = true) {c : Char}
    (hc : isNameChar c = false) : c ∉ name.toList := by
  intro hMem
  rw [isNameChar_of_isIdentifier hName c hMem] at hc
  cases hc

theorem offset_keyword : " OFFSET :".toList = ' ' :: 'O' :: "FFSET :".toList := by
  decide

theorem limit_keyword : " LIMIT :".toList = ' ' :: 'L' :: "IMIT :".toList := by
  decide

theorem cons_cons_append (a b : Char) (front back : List Char) :
    (a :: b :: front) ++ back = a :: b :: (front ++ back) :=
  List.cons_append

/-- A clause begins with a blank and the first letter of its keyword. -/
theorem chars_offset (name : String) : (CountClause.offset name).chars =
    ' ' :: 'O' :: ("FFSET :".toList ++ name.toList) :=
  (congrArg (· ++ name.toList) offset_keyword).trans (cons_cons_append ..)

theorem chars_limit (name : String) : (CountClause.limit name).chars =
    ' ' :: 'L' :: ("IMIT :".toList ++ name.toList) :=
  (congrArg (· ++ name.toList) limit_keyword).trans (cons_cons_append ..)

theorem exists_chars_eq_cons (clause : CountClause) :
    ∃ rest, clause.chars = ' ' :: rest := by
  cases clause with
  | offset name => exact ⟨_, chars_offset name⟩
  | limit name => exact ⟨_, chars_limit name⟩

theorem head_flatMap_chars (tail : List CountClause) :
    ∀ c ∈ (tail.flatMap CountClause.chars).head?, c = ' ' := by
  intro c hc
  cases tail with
  | nil => cases hc
  | cons clause tail =>
      obtain ⟨rest, hRest⟩ := exists_chars_eq_cons clause
      rw [List.flatMap_cons, hRest] at hc
      exact (Option.some.inj hc).symm

theorem flatMap_chars_ne_nil (clause : CountClause) (tail : List CountClause) :
    (clause :: tail).flatMap CountClause.chars ≠ [] := by
  obtain ⟨rest, hRest⟩ := exists_chars_eq_cons clause
  rw [List.flatMap_cons, hRest]
  exact List.cons_ne_nil _ _

/-- Two clauses with one keyword end at the same place. -/
theorem keyword_append_inj (keyword : List Char) {name name' : String}
    {rest rest' : List Char} (hName : isParameterName name = true)
    (hName' : isParameterName name' = true) (hRest : ∀ c ∈ rest.head?, c = ' ')
    (hRest' : ∀ c ∈ rest'.head?, c = ' ')
    (h : (keyword ++ name.toList) ++ rest = (keyword ++ name'.toList) ++ rest') :
    name = name' ∧ rest = rest' := by
  rw [List.append_assoc, List.append_assoc] at h
  obtain ⟨hSame, hRests⟩ := append_inj_of_blank (notMem_parameter hName (by decide))
    (notMem_parameter hName' (by decide)) hRest hRest' (List.append_cancel_left h)
  exact ⟨String.toList_inj.mp hSame, hRests⟩

/-- A clause can be told from what follows it. -/
theorem chars_append_inj {clause clause' : CountClause} {rest rest' : List Char}
    (hName : isParameterName clause.parameter = true)
    (hName' : isParameterName clause'.parameter = true) (hRest : ∀ c ∈ rest.head?, c = ' ')
    (hRest' : ∀ c ∈ rest'.head?, c = ' ')
    (h : clause.chars ++ rest = clause'.chars ++ rest') : clause = clause' ∧ rest = rest' := by
  -- equal clauses begin with the same keyword
  cases clause with
  | offset name =>
      cases clause' with
      | limit name' =>
          rw [chars_offset, chars_limit] at h
          exact absurd (List.cons.inj (List.cons.inj h).2).1 (by decide)
      | offset name' =>
          obtain ⟨rfl, rfl⟩ := keyword_append_inj " OFFSET :".toList hName hName' hRest hRest' h
          exact ⟨rfl, rfl⟩
  | limit name =>
      cases clause' with
      | offset name' =>
          rw [chars_offset, chars_limit] at h
          exact absurd (List.cons.inj (List.cons.inj h).2).1 (by decide)
      | limit name' =>
          obtain ⟨rfl, rfl⟩ := keyword_append_inj " LIMIT :".toList hName hName' hRest hRest' h
          exact ⟨rfl, rfl⟩

/-- The clauses of a tail can be read off its text. -/
theorem flatMap_chars_injective {tail tail' : List CountClause} (hNames : WellNamed tail)
    (hNames' : WellNamed tail')
    (h : tail.flatMap CountClause.chars = tail'.flatMap CountClause.chars) : tail = tail' := by
  induction tail generalizing tail' with
  | nil =>
      cases tail' with
      | nil => rfl
      | cons clause tail' => exact absurd h.symm (flatMap_chars_ne_nil clause tail')
  | cons clause tail ih =>
      cases tail' with
      | nil => exact absurd h (flatMap_chars_ne_nil clause tail)
      | cons clause' tail' =>
          obtain ⟨hName, hNames⟩ := List.forall_mem_cons.mp hNames
          obtain ⟨hName', hNames'⟩ := List.forall_mem_cons.mp hNames'
          rw [List.flatMap_cons, List.flatMap_cons] at h
          obtain ⟨hSame, hRest⟩ := chars_append_inj hName hName' (head_flatMap_chars tail)
            (head_flatMap_chars tail') h
          rw [hSame, ih hNames hNames' hRest]

theorem notMem_behind (select : WrapperSelect) {tail : List CountClause}
    (hNames : WellNamed tail) :
    ')' ∉ select.alias.toList ++ tail.flatMap CountClause.chars := by
  rw [List.mem_append, List.mem_flatMap]
  rintro (hMem | ⟨clause, hClause, hMem⟩)
  · have hAlias : ∀ select : WrapperSelect, ')' ∉ select.alias.toList := by
      intro select
      cases select <;> decide
    exact hAlias select hMem
  · have hName : ')' ∉ clause.parameter.toList :=
      notMem_parameter (hNames clause hClause) (by decide)
    have hOffset : ')' ∉ " OFFSET :".toList := by decide
    have hLimit : ')' ∉ " LIMIT :".toList := by decide
    cases clause with
    | offset name => exact (List.mem_append.mp hMem).elim hOffset hName
    | limit name => exact (List.mem_append.mp hMem).elim hLimit hName

/-- The two selects give the parentheses different names. -/
theorem alias_injective {select select' : WrapperSelect} {back back' : List Char}
    (h : select.alias.toList ++ back = select'.alias.toList ++ back') : select = select' := by
  have hLength : ∀ select : WrapperSelect, 18 < select.alias.toList.length := by
    intro select
    cases select <;> decide
  have hChar := congrArg (fun chars => chars[18]?) h
  simp only [List.getElem?_append_left (hLength _)] at hChar
  have hCount : WrapperSelect.count.alias.toList[18]? = some 'c' := by decide
  have hData : WrapperSelect.data.alias.toList[18]? = some 'd' := by decide
  cases select with
  | count =>
      cases select' with
      | count => rfl
      | data =>
          rw [hCount, hData] at hChar
          exact absurd (Option.some.inj hChar) (by decide)
  | data =>
      cases select' with
      | data => rfl
      | count =>
          rw [hCount, hData] at hChar
          exact absurd (Option.some.inj hChar) (by decide)

theorem wrappedChars_eq_append (select : WrapperSelect) (sql : List Char)
    (tail : List CountClause) : wrappedChars select sql tail =
      (select.front.toList ++ '(' :: sql) ++ ')' ::
        (select.alias.toList ++ tail.flatMap CountClause.chars) := by
  rw [List.append_assoc, List.cons_append, wrappedChars]

/-- The parts of a wrapped query can be read off its text: the query ends at the last
closing parenthesis. -/
theorem wrappedChars_injective {select select' : WrapperSelect} {sql sql' : List Char}
    {tail tail' : List CountClause} (hNames : WellNamed tail) (hNames' : WellNamed tail')
    (h : wrappedChars select sql tail = wrappedChars select' sql' tail') :
    select = select' ∧ sql = sql' ∧ tail = tail' := by
  rw [wrappedChars_eq_append, wrappedChars_eq_append] at h
  obtain ⟨hFront, hBack⟩ := append_cons_inj_of_last h (notMem_behind select hNames)
    (notMem_behind select' hNames')
  obtain rfl := alias_injective hBack
  exact ⟨rfl, (List.cons.inj (List.append_cancel_left hFront)).2,
    flatMap_chars_injective hNames hNames' (List.append_cancel_left hBack)⟩

end Reading

section Acceptance

variable {Other : List Char → Prop} {dialect : Dialect} {sql : List Char}
  {tail : List CountClause}

/-- Around a query, a select is one exactly with a tail the database takes. -/
theorem isQuery_wrapped_iff (hOther : NotWrapped Other) (select : WrapperSelect)
    (hQuery : IsQuery Other dialect sql) (hNames : WellNamed tail) :
    IsQuery Other dialect (wrappedChars select sql tail) ↔
      TailAllowed dialect (tail.map CountClause.kind) := by
  constructor
  · intro hWrapped
    generalize hText : wrappedChars select sql tail = text at hWrapped
    cases hWrapped with
    | other hText' => exact absurd (hText ▸ hText') (hOther select sql tail hNames)
    | wrapped select' _ hNames' hTail =>
        obtain ⟨-, -, rfl⟩ := wrappedChars_injective hNames hNames' hText
        exact hTail
  · exact .wrapped select hQuery hNames

/-- A text in front of a statement and one behind it that make up a wrapped query. -/
theorem append_eq_wrappedChars (tail : List CountClause) {select : WrapperSelect}
    {front back : List Char}
    (hFront : front = select.front.toList ++ ['('])
    (hBack : back = ')' :: (select.alias.toList ++ tail.flatMap CountClause.chars)) :
    front ++ sql ++ back = wrappedChars select sql tail := by
  rw [hFront, hBack, wrappedChars_eq_append, List.append_assoc _ ['('], List.singleton_append]

/-- The tail of the statement that reads a page. -/
def pageTail : List CountClause :=
  [.limit "__dynamic_page_size", .offset "__dynamic_offset"]

theorem wellNamed_pageTail : WellNamed pageTail := by
  intro clause hClause
  rcases List.mem_cons.mp hClause with rfl | hClause
  · decide
  · cases List.mem_singleton.mp hClause
    decide

theorem countSql_front : "SELECT COUNT(*) AS total FROM (".toList =
    WrapperSelect.count.front.toList ++ ['('] := by
  decide

theorem countSql_back : ") AS dynamic_route_count".toList =
    ')' :: (WrapperSelect.count.alias.toList ++ [].flatMap CountClause.chars) := by
  decide

theorem pageSql_front : "SELECT * FROM (".toList =
    WrapperSelect.data.front.toList ++ ['('] := by
  decide

theorem pageSql_back : (") AS dynamic_route_data " ++
    "LIMIT :__dynamic_page_size OFFSET :__dynamic_offset").toList =
      ')' :: (WrapperSelect.data.alias.toList ++ pageTail.flatMap CountClause.chars) := by
  decide

theorem toList_append_append (front sql back : String) :
    (front ++ sql ++ back).toList = front.toList ++ sql.toList ++ back.toList := by
  rw [String.toList_append, String.toList_append]

/-- The statement that counts has no tail. -/
theorem toList_countSql (sql : String) :
    (countSql sql).toList = wrappedChars .count sql.toList [] :=
  (toList_append_append "SELECT COUNT(*) AS total FROM (" sql
    ") AS dynamic_route_count").trans (append_eq_wrappedChars [] countSql_front countSql_back)

/-- The one that reads a page has the tail `LIMIT` and `OFFSET`. -/
theorem toList_pageSql (sql : String) :
    (pageSql sql).toList = wrappedChars .data sql.toList pageTail :=
  calc (pageSql sql).toList
      = ("SELECT * FROM (" ++ sql ++ (") AS dynamic_route_data " ++
          "LIMIT :__dynamic_page_size OFFSET :__dynamic_offset")).toList :=
        congrArg String.toList (pageSql_eq sql)
    _ = _ := toList_append_append ..
    _ = _ := append_eq_wrappedChars pageTail pageSql_front pageSql_back

end Acceptance

section Pagination

variable {P : Scalars} {U : Unicode} {S : Sqlglot} {route : StoredRoute P.Float}
  {rawParams : List (String × String)} {Other : Dialect → List Char → Prop}

/-- The database accepts both statements that an accepted request for a page sends. -/
def DatabaseAccepts (Other : Dialect → List Char → Prop)
    (A : AcceptedPage U S route rawParams) : Prop :=
  IsQuery (Other A.countCall.dbType) A.countCall.dbType A.countCall.sql.toList ∧
    IsQuery (Other A.dataCall.dbType) A.dataCall.dbType A.dataCall.sql.toList

/-- An accepted request for a page sends two statements, and if the SQL of the route is
a query of its database, the database accepts both exactly if it is PostgreSQL. -/
theorem databaseAccepts_iff (A : AcceptedPage U S route rawParams)
    (hOther : ∀ dialect, NotWrapped (Other dialect))
    (hQuery : IsQuery (Other route.config.dbType) route.config.dbType
      A.validated.canonicalSql.toList) :
    (∀ B clients mapper, executeStored U S B clients mapper route rawParams =
      A.run B clients mapper) ∧
    (DatabaseAccepts Other A ↔ route.config.dbType = .postgres) := by
  refine ⟨A.executeStored_eq, ?_⟩
  have hCount : IsQuery (Other route.config.dbType) route.config.dbType
      (countSql A.validated.canonicalSql).toList := by
    rw [toList_countSql, isQuery_wrapped_iff (hOther _) _ hQuery fun _ hMem => by cases hMem]
    exact List.Pairwise.nil
  have hPage : IsQuery (Other route.config.dbType) route.config.dbType
      (pageSql A.validated.canonicalSql).toList ↔
        TailAllowed route.config.dbType (pageTail.map CountClause.kind) := by
    rw [toList_pageSql]
    exact isQuery_wrapped_iff (hOther _) _ hQuery wellNamed_pageTail
  -- `LIMIT` in front of `OFFSET`
  have hTail : ∀ dialect, TailAllowed dialect (pageTail.map CountClause.kind) ↔
      dialect = .postgres := by
    intro dialect
    cases dialect <;> decide
  rw [← hTail route.config.dbType, ← hPage]
  exact ⟨fun h => h.2, fun h => ⟨hCount, h⟩⟩

end Pagination

/-! ### One route on either database -/

/-- The statement of that route is a query of both databases. -/
def plainQueries (_ : Dialect) (sql : List Char) : Prop :=
  sql = idsSql.toList

theorem notWrapped_plainQueries (dialect : Dialect) : NotWrapped (plainQueries dialect) := by
  intro select sql tail hNames hSame
  have hMem : ')' ∈ wrappedChars select sql tail := by
    rw [wrappedChars_eq_append]
    exact List.mem_append_right _ List.mem_cons_self
  have hNone : ')' ∉ idsSql.toList := by decide
  exact hNone (hSame ▸ hMem)

/-- PostgreSQL takes both statements of the route. -/
theorem databaseAccepts_ids :
    (∀ B clients mapper, executeStored .ascii (oneText idsSql selectOrdered) B clients mapper
      (idsRoute .postgres none) [] = (idsAccepted .postgres).run B clients mapper) ∧
    DatabaseAccepts plainQueries (idsAccepted .postgres) := by
  obtain ⟨hRun, hAccepts⟩ := databaseAccepts_iff (idsAccepted .postgres)
    notWrapped_plainQueries (.other rfl)
  exact ⟨hRun, hAccepts.mpr rfl⟩

/-- Trino takes the statement of the route, and refuses the one that reads a page of it. -/
theorem trino_refuses_page :
    IsQuery (plainQueries .trino) .trino (idsAccepted .trino).validated.canonicalSql.toList ∧
      (∀ B clients mapper, executeStored .ascii (oneText idsSql selectOrdered) B clients mapper
        (idsRoute .trino none) [] = (idsAccepted .trino).run B clients mapper) ∧
      ¬ IsQuery (plainQueries .trino) .trino (idsAccepted .trino).dataCall.sql.toList := by
  refine ⟨.other rfl, (idsAccepted .trino).executeStored_eq, ?_⟩
  change ¬ IsQuery (plainQueries .trino) .trino (pageSql idsSql).toList
  rw [toList_pageSql, isQuery_wrapped_iff (notWrapped_plainQueries .trino) .data (.other rfl)
    wellNamed_pageTail]
  decide

end QueryEngine
end DataApi
