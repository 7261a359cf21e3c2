import DataApi.Api.Router
import DataApi.Core.Exceptions

/-!
# API permissions

`require_api_permission` lets a user with role `user` call the routes whose
path starts with the username.  The path it checks is the one of
`request.url`, which is put together from the raw `Host` header and the request
path and split again; the router matches the request path alone.

The two agree unless the `Host` header brings a path of its own.
-/

namespace DataApi
namespace Api

open Library Schemas

/-- `UserRole`. -/
inductive UserRole where
  | user
  | admin
  deriving DecidableEq

/-- A user as the permission check reads it, with the username pattern of the
user schemas. -/
structure User where
  username : List Char
  role : UserRole
  length_ge : 3 ≤ username.length
  length_le : username.length ≤ 50
  pattern : username.all isPrefixChar = true

/-- `username.lower()`. -/
def User.lowered (user : User) : List Char := user.username.map Char.toLower

/-- The scheme of a request. -/
inductive Scheme where
  | http
  | https
  deriving DecidableEq

/-- The text of a scheme. -/
def Scheme.text : Scheme → List Char
  | .http => "http".toList
  | .https => "https".toList

/-- A request: its method, its `Host` header as received, and its
percent-decoded path. -/
structure Request where
  method : Method
  scheme : Scheme
  host : List Char
  path : List Char

/-- `request.url.path`; `none` is the `ValueError` of `urlsplit`. -/
def Request.urlPath (checkNetloc : List Char → Bool) (request : Request) :
    Option (List Char) :=
  (urlsplit checkNetloc
    (request.scheme.text ++ ':' :: '/' :: '/' :: (request.host ++ request.path))).map
      SplitResult.path

/-- `text.rstrip("/") or "/"`. -/
def rstripSlash (text : List Char) : List Char :=
  match (text.reverse.dropWhile (· == '/')).reverse with
  | [] => ['/']
  | stripped => stripped

/-- The path without the API prefix, if it starts with it. -/
def stripApiPrefix (base : ApiV1Prefix) (path : List Char) : List Char :=
  if base.text.isPrefixOf path then path.drop base.text.length else path

/-- `_normalize_route_path`. -/
def normalizeRoutePath (base : ApiV1Prefix) (path : List Char) : List Char :=
  rstripSlash (stripApiPrefix base path)

/-- `_route_matches_username`. -/
def routeMatchesUsername (routePath lowered : List Char) : Bool :=
  let normalizedPath := rstripSlash routePath
  let usernamePrefix := '/' :: lowered
  normalizedPath == usernamePrefix ||
    (usernamePrefix ++ ['/']).isPrefixOf normalizedPath

/-- `check_api_permission`. -/
def checkApiPermission (user : User) (routePath : List Char) :
    Except AppError Unit :=
  match user.role with
  | .admin => .ok ()
  | .user =>
      if routeMatchesUsername routePath user.lowered then .ok ()
      else .error (authorizationError "API permission denied")

/-- `require_api_permission`, up to the audit record; a `ValueError` of the URL
is an error of the server. -/
def requireApiPermission (checkNetloc : List Char → Bool) (base : ApiV1Prefix)
    (user : User) (request : Request) : Except AppError Unit :=
  match request.urlPath checkNetloc with
  | none => .error internalServerError
  | some path => checkApiPermission user (normalizeRoutePath base path)

/-- `require_roles(UserRole.admin)`. -/
def requireAdmin (user : User) : Except AppError Unit :=
  if user.role = .admin then .ok () else .error authorizationError

/-- The stored dynamic routes, by prefix and path; the prefixes satisfy the
write schema. -/
structure RouteTable where
  rows : List (String × String)
  prefixes_ok : ∀ row ∈ rows, PrefixOk row.1

/-- `execute_route` finds a stored route for the parameters of the path. -/
def RouteTable.finds (table : RouteTable) (params : List (List Char)) : Prop :=
  ∃ row ∈ table.rows, params = [row.1.toList, row.2.toList]

/-- A handler runs: the router dispatches to it, the dependencies of its route
let the user pass, and the dynamic handler finds a stored route. -/
structure HandlerRuns (checkNetloc : List Char → Bool) (base : ApiV1Prefix)
    (user : User) (table : RouteTable) (request : Request) (m : RouteMatch) :
    Prop where
  dispatched : dispatch base request.method request.path = some m
  permitted : m.route.apiPermission = true →
    requireApiPermission checkNetloc base user request = .ok ()
  role : m.route.adminOnly = true → requireAdmin user = .ok ()
  found : m.route.endpoint = .executeDynamicRoute → table.finds m.params

/-- The segment behind the slash a path starts with. -/
def firstSegment : List Char → Option (List Char)
  | '/' :: rest => some (rest.takeWhile (· != '/'))
  | _ => none

/-- The first segment behind the API prefix of a path that was matched. -/
def matchedSegment (base : ApiV1Prefix) (m : RouteMatch) : Option (List Char) :=
  firstSegment (m.matched.drop base.text.length)

/-- Whoever may run a guarded handler under this `Host` header runs it on a path
of their own name. -/
def PathAuthorized (checkNetloc : List Char → Bool) (base : ApiV1Prefix)
    (user : User) (host : List Char) : Prop :=
  ∀ table request m, request.host = host →
    HandlerRuns checkNetloc base user table request m →
    m.route.apiPermission = true → matchedSegment base m = some user.lowered

/-- The path of a URL that goes on behind its network location: nothing without
a slash, otherwise all up to a `?` or `#`, or up to the API prefix that the
request path starts with. -/
def delimiterPath (base : ApiV1Prefix) : List Char → Option (List Char)
  | '/' :: rest =>
      some (if rest.any endsPath then ('/' :: rest).takeWhile fun c => !endsPath c
        else '/' :: rest ++ base.text)
  | _ => none

/-- The path a `Host` header brings along. -/
def hostPath (base : ApiV1Prefix) (host : List Char) : Option (List Char) :=
  delimiterPath base ((removeUnsafe host).dropWhile fun c => !isDelimiter c)

/-- The `Host` header itself names the user: its network location is accepted
and its path, without the API prefix, starts with the username. -/
def HostNames (checkNetloc : List Char → Bool) (base : ApiV1Prefix)
    (host lowered : List Char) : Prop :=
  checkNetloc ((removeUnsafe host).takeWhile fun c => !isDelimiter c) = true ∧
    ∃ path, hostPath base host = some path ∧
      firstSegment (stripApiPrefix base path) = some lowered

section Matching

/-- Trailing slashes do not change what a path of slashes is made of. -/
theorem rstripSlash_eq {text : List Char} (h : ∃ c ∈ text, c ≠ '/') :
    ∃ slashes, (∀ c ∈ slashes, c = '/') ∧ text = rstripSlash text ++ slashes := by
  have hNe : (text.reverse.dropWhile (· == '/')).reverse ≠ [] := by
    intro hNil
    rw [List.reverse_eq_nil_iff, List.dropWhile_eq_nil_iff] at hNil
    obtain ⟨c, hc, hSlash⟩ := h
    exact hSlash (by simpa using hNil c (List.mem_reverse.mpr hc))
  refine ⟨(text.reverse.takeWhile (· == '/')).reverse, fun c hc => ?_, ?_⟩
  · simpa using List.mem_takeWhile_imp (List.mem_reverse.mp hc)
  · have hStrip : rstripSlash text =
        (text.reverse.dropWhile (· == '/')).reverse := by
      rw [rstripSlash]
      split
      · rename_i hNil
        exact absurd hNil hNe
      · rfl
    rw [hStrip, ← List.reverse_append, List.takeWhile_append_dropWhile,
      List.reverse_reverse]

/-- What follows a segment: nothing, or a slash. -/
def AtBoundary (text : List Char) : Prop := text = [] ∨ ∃ rest, text = '/' :: rest

theorem takeWhile_segment {segment text : List Char} (h : '/' ∉ segment)
    (hText : AtBoundary text) : (segment ++ text).takeWhile (· != '/') = segment := by
  rw [List.takeWhile_append_of_pos fun c hc => by
    rw [bne_iff_ne]
    rintro rfl
    exact h hc]
  rcases hText with rfl | ⟨rest, rfl⟩ <;> simp

theorem firstSegment_segment {segment text : List Char} (h : '/' ∉ segment)
    (hText : AtBoundary text) :
    firstSegment ('/' :: (segment ++ text)) = some segment := by
  rw [firstSegment, takeWhile_segment h hText]

theorem firstSegment_of_ne {c : Char} (h : c ≠ '/') (rest : List Char) :
    firstSegment (c :: rest) = none := by
  unfold firstSegment
  split
  · rename_i hEq
    exact absurd (List.cons.inj hEq).1 h
  · rfl

/-- What is appended behind a boundary does not change the first segment. -/
theorem firstSegment_append {front text : List Char} (hFront : front ≠ [])
    (hText : AtBoundary text) : firstSegment (front ++ text) = firstSegment front := by
  obtain ⟨c, cs, rfl⟩ := List.exists_cons_of_ne_nil hFront
  rw [List.cons_append]
  by_cases hc : c = '/'
  · subst hc
    rw [firstSegment, firstSegment, List.takeWhile_append]
    split
    · rename_i hLength
      rw [(List.takeWhile_prefix _).eq_of_length hLength]
      rcases hText with rfl | ⟨rest, rfl⟩ <;> simp
    · rfl
  · rw [firstSegment_of_ne hc, firstSegment_of_ne hc]

/-- Stripping slashes at the end keeps the first segment, if there is one. -/
theorem firstSegment_rstripSlash {text segment : List Char} (h : segment ≠ []) :
    firstSegment (rstripSlash text) = some segment ↔
      firstSegment text = some segment := by
  by_cases hAll : ∃ c ∈ text, c ≠ '/'
  · obtain ⟨slashes, hSlashes, hEq⟩ := rstripSlash_eq hAll
    have hNe : rstripSlash text ≠ [] := by
      rw [rstripSlash]
      split
      · exact List.cons_ne_nil _ _
      · assumption
    have hBoundary : AtBoundary slashes := by
      cases slashes with
      | nil => exact .inl rfl
      | cons c rest =>
          rw [hSlashes c List.mem_cons_self]
          exact .inr ⟨rest, rfl⟩
    conv_rhs => rw [hEq, firstSegment_append hNe hBoundary]
  · push Not at hAll
    have hStrip : rstripSlash text = ['/'] := by
      rw [rstripSlash, List.dropWhile_eq_nil_iff.mpr]
      · rfl
      · intro c hc
        simpa using hAll c (List.mem_reverse.mp hc)
    rw [hStrip]
    constructor
    · intro hSegment
      exact absurd (Option.some.inj hSegment).symm h
    · intro hSegment
      exfalso
      cases text with
      | nil => cases hSegment
      | cons c rest =>
          rw [hAll c List.mem_cons_self, firstSegment] at hSegment
          apply h
          rw [← Option.some.inj hSegment, List.takeWhile_eq_nil_iff]
          intro hPos
          simpa using hAll _ (List.mem_cons_of_mem c (List.getElem_mem hPos))

/-- The username check reads the first segment. -/
theorem matchesPrefix_iff {path lowered : List Char} (h : '/' ∉ lowered) :
    (path == '/' :: lowered || ('/' :: lowered ++ ['/']).isPrefixOf path) = true ↔
      firstSegment path = some lowered := by
  rw [Bool.or_eq_true, beq_iff_eq, List.isPrefixOf_iff_prefix]
  constructor
  · rintro (rfl | ⟨rest, rfl⟩)
    · simpa using firstSegment_segment h (.inl rfl)
    · simpa using firstSegment_segment h (.inr ⟨rest, rfl⟩)
  · intro hSegment
    unfold firstSegment at hSegment
    split at hSegment
    · rename_i rest
      have hLowered := Option.some.inj hSegment
      have hRest := List.takeWhile_append_dropWhile (p := (· != '/')) (l := rest)
      rw [hLowered] at hRest
      cases hDrop : rest.dropWhile (· != '/') with
      | nil =>
          left
          rw [← hRest, hDrop, List.append_nil]
      | cons c tail =>
          right
          have hc : c = '/' := by
            have := List.head?_dropWhile_not (· != '/') rest
            simpa [hDrop] using this
          refine ⟨tail, ?_⟩
          rw [← hRest, hDrop, hc]
          simp
    · cases hSegment

/-- `_route_matches_username` on a normalized path. -/
theorem routeMatchesUsername_iff (base : ApiV1Prefix) {path lowered : List Char}
    (hNe : lowered ≠ []) (h : '/' ∉ lowered) :
    routeMatchesUsername (normalizeRoutePath base path) lowered = true ↔
      firstSegment (stripApiPrefix base path) = some lowered := by
  rw [routeMatchesUsername, matchesPrefix_iff h, firstSegment_rstripSlash hNe,
    normalizeRoutePath, firstSegment_rstripSlash hNe]

end Matching

section Dispatch

theorem isPrefixChar_plain {c : Char} (h : isPrefixChar c = true) :
    isRemoved c = false ∧ endsPath c = false ∧ c ≠ '/' := by
  refine ⟨Bool.eq_false_iff.mpr ?_, Bool.eq_false_iff.mpr ?_, ?_⟩
  · simp only [isRemoved, Bool.or_eq_true, beq_iff_eq, ne_eq]
    rintro ((rfl | rfl) | rfl) <;> exact absurd h (by decide)
  · simp only [endsPath, Bool.or_eq_true, beq_iff_eq, ne_eq]
    rintro (rfl | rfl) <;> exact absurd h (by decide)
  · rintro rfl
    exact absurd h (by decide)

/-- Lower-casing a username leaves its characters plain. -/
theorem User.slash_not_mem_lowered (user : User) : '/' ∉ user.lowered := by
  intro hMem
  obtain ⟨c, hc, hLower⟩ := List.mem_map.mp hMem
  have hPlain := List.all_eq_true.mp user.pattern c hc
  by_cases hUpper : c.isUpper = true
  · -- an upper-case letter becomes a letter
    have hAlpha : c.toLower.isAlpha = true := by
      rw [Char.isAlpha_toLower_eq_isAlpha, Char.isAlpha, hUpper, Bool.true_or]
    rw [hLower] at hAlpha
    exact absurd hAlpha (by decide)
  · rw [Char.toLower_eq_of_not_isUpper hUpper] at hLower
    exact (isPrefixChar_plain hPlain).2.2 hLower

theorem User.lowered_ne_nil (user : User) : user.lowered ≠ [] := by
  intro hNil
  have := user.length_ge
  rw [List.map_eq_nil_iff.mp hNil] at this
  exact absurd this (by decide)

/-- A pattern that has segments left consumes a slash. -/
theorem matchSegments_slash {segment : Segment} {rest : List Segment}
    {text : List Char} {found : List (List Char) × List Char}
    (h : matchSegments (segment :: rest) text = some found) :
    ∃ tail matched, text = '/' :: tail ∧ found.2 = '/' :: matched := by
  cases text with
  | nil => cases segment <;> cases h
  | cons c tail =>
      by_cases hc : c = '/'
      · subst hc
        cases segment with
        | literal expected =>
            simp only [matchSegments] at h
            split at h
            · obtain ⟨inner, -, rfl⟩ := Option.map_eq_some_iff.mp h
              exact ⟨_, _, rfl, rfl⟩
            · cases h
        | param =>
            simp only [matchSegments] at h
            split at h
            · cases h
            · obtain ⟨inner, -, rfl⟩ := Option.map_eq_some_iff.mp h
              exact ⟨_, _, rfl, rfl⟩
        | pathParam =>
            simp only [matchSegments] at h
            split at h
            · obtain rfl := Option.some.inj h
              exact ⟨_, _, rfl, rfl⟩
            · cases h
      · cases segment <;> simp [matchSegments, hc] at h

/-- A rest that a pattern consumes ends the segment in front of it. -/
theorem matchSegments_boundary {segments : List Segment} {text : List Char}
    {found : List (List Char) × List Char}
    (h : matchSegments segments text = some found) :
    AtBoundary (removeUnsafe text) ∧ AtBoundary found.2 := by
  cases segments with
  | nil =>
      rw [matchSegments] at h
      split at h
      · rename_i hEnd
        obtain rfl := Option.some.inj h
        refine ⟨.inl ?_, .inl rfl⟩
        -- a final line feed is removed before the URL is split
        simp only [atEnd, Bool.or_eq_true, beq_iff_eq] at hEnd
        rcases hEnd with rfl | rfl <;> rfl
      · cases h
  | cons segment rest =>
      obtain ⟨tail, matched, rfl, hMatched⟩ := matchSegments_slash h
      exact ⟨.inr ⟨removeUnsafe tail, rfl⟩, .inr ⟨matched, hMatched⟩⟩

/-- A literal at the front of a pattern is the first segment of the text. -/
theorem matchSegments_literal {expected : List Char} {rest : List Segment}
    {text : List Char} {found : List (List Char) × List Char}
    (h : matchSegments (.literal expected :: rest) text = some found) :
    ∃ tail matched, text = '/' :: (expected ++ tail) ∧
      found.2 = '/' :: (expected ++ matched) ∧
      AtBoundary (removeUnsafe tail) ∧ AtBoundary matched := by
  obtain ⟨tail, -, rfl, -⟩ := matchSegments_slash h
  rw [matchSegments] at h
  split at h
  · rename_i hFront
    obtain ⟨tail, rfl⟩ := List.isPrefixOf_iff_prefix.mp hFront
    obtain ⟨inner, hInner, rfl⟩ := Option.map_eq_some_iff.mp h
    rw [List.drop_left] at hInner
    exact ⟨tail, inner.2, rfl, rfl, matchSegments_boundary hInner⟩
  · cases h

/-- A parameter at the front of a pattern takes the first segment. -/
theorem matchSegments_param {rest : List Segment} {text : List Char}
    {found : List (List Char) × List Char}
    (h : matchSegments (.param :: rest) text = some found) :
    ∃ value tail matched, text = '/' :: (value ++ tail) ∧
      found.1.head? = some value ∧ found.2 = '/' :: (value ++ matched) ∧
      AtBoundary (removeUnsafe tail) ∧ AtBoundary matched := by
  obtain ⟨tail, -, rfl, -⟩ := matchSegments_slash h
  rw [matchSegments] at h
  split at h
  · cases h
  · obtain ⟨inner, hInner, rfl⟩ := Option.map_eq_some_iff.mp h
    have hSplit : tail = tail.takeWhile (· != '/') ++
        tail.drop (tail.takeWhile (· != '/')).length :=
      (List.prefix_iff_eq_append.mp (List.takeWhile_prefix _)).symm
    exact ⟨_, _, inner.2, congrArg _ hSplit, rfl, rfl, matchSegments_boundary hInner⟩

/-- The first segment of a guarded route: a plain literal, or the prefix of a
dynamic route. -/
def ApiRoute.headOk (route : ApiRoute) : Bool :=
  match route.segments with
  | .literal text :: _ => text.all isPrefixChar
  | .param :: _ => route.endpoint == .executeDynamicRoute
  | _ => false

theorem headOk_of_apiPermission :
    ∀ route ∈ apiRouter, route.apiPermission = true → route.headOk = true := by
  decide

/-- A plain literal at the front of a route that matches is the first segment of the
path. -/
theorem ApiRoute.segment_of_match? {base : ApiV1Prefix} {method : Method}
    {path : List Char} {route : ApiRoute} {m : RouteMatch} {text : List Char}
    {rest : List Segment} (hSegments : route.segments = .literal text :: rest)
    (hPlain : text.all isPrefixChar = true)
    (h : route.match? base method path = some m) :
    ∃ tail, path = base.text ++ '/' :: (text ++ tail) ∧
      AtBoundary (removeUnsafe tail) ∧ matchedSegment base m = some text := by
  rw [ApiRoute.match?] at h
  split at h
  · rename_i hMatches
    obtain ⟨path, rfl⟩ := List.isPrefixOf_iff_prefix.mp hMatches.2
    obtain ⟨found, hFound, rfl⟩ := Option.map_eq_some_iff.mp h
    rw [List.drop_left, hSegments] at hFound
    obtain ⟨tail, matched, rfl, hMatched, hBoundary⟩ := matchSegments_literal hFound
    have hSlash : '/' ∉ text := fun hMem =>
      (isPrefixChar_plain (List.all_eq_true.mp hPlain _ hMem)).2.2 rfl
    refine ⟨tail, rfl, hBoundary.1, ?_⟩
    rw [matchedSegment, List.drop_left, hMatched, firstSegment_segment hSlash hBoundary.2]
  · cases h

/-- A guarded handler runs on the first segment of the request path, and its
characters are plain. -/
theorem HandlerRuns.segment {checkNetloc : List Char → Bool} {base : ApiV1Prefix}
    {user : User} {table : RouteTable} {request : Request} {m : RouteMatch}
    (h : HandlerRuns checkNetloc base user table request m)
    (hGuard : m.route.apiPermission = true) :
    ∃ segment tail, segment.all isPrefixChar = true ∧
      request.path = base.text ++ '/' :: (segment ++ tail) ∧
      AtBoundary (removeUnsafe tail) ∧ matchedSegment base m = some segment := by
  obtain ⟨route, hRoute, hMatch⟩ := List.exists_of_findSome?_eq_some h.dispatched
  have hHead := headOk_of_apiPermission route hRoute
    (ApiRoute.route_of_match? hMatch ▸ hGuard)
  unfold ApiRoute.headOk at hHead
  split at hHead
  · -- a static route: the segment is its literal
    rename_i text rest hSegments
    obtain ⟨tail, hPath, hBoundary, hMatched⟩ :=
      ApiRoute.segment_of_match? hSegments hHead hMatch
    exact ⟨text, tail, hHead, hPath, hBoundary, hMatched⟩
  · rename_i rest hSegments
    rw [ApiRoute.match?] at hMatch
    split at hMatch
    · rename_i hMatches
      obtain ⟨path, hPath⟩ := List.isPrefixOf_iff_prefix.mp hMatches.2
      obtain ⟨found, hFound, rfl⟩ := Option.map_eq_some_iff.mp hMatch
      rw [← hPath, List.drop_left, hSegments] at hFound
      obtain ⟨value, tail, matched, rfl, hValue, hMatched, hBoundary⟩ :=
        matchSegments_param hFound
      -- the parameter is the prefix of a stored route
      obtain ⟨row, hRow, hParams⟩ := h.found (by simpa using hHead)
      have hFront : value = row.1.toList := by
        change found.1 = _ at hParams
        rw [hParams] at hValue
        exact (Option.some.inj hValue).symm
      have hPlain : value.all isPrefixChar = true := by
        rw [hFront]
        exact (table.prefixes_ok row hRow).2.2.1
      have hSlash : '/' ∉ value := fun hMem =>
        (isPrefixChar_plain (List.all_eq_true.mp hPlain _ hMem)).2.2 rfl
      refine ⟨value, tail, hPlain, hPath.symm, hBoundary.1, ?_⟩
      rw [matchedSegment, List.drop_left, hMatched,
        firstSegment_segment hSlash hBoundary.2]
    · cases hMatch
  · cases hHead

end Dispatch

section Authorization

variable {checkNetloc : List Char → Bool} {base : ApiV1Prefix} {user : User}

theorem Scheme.isScheme (scheme : Scheme) : IsScheme scheme.text := by
  cases scheme with
  | http => exact ⟨by decide, by decide⟩
  | https => exact ⟨by decide, by decide⟩

/-- The text without tabs and line ends of a path behind the API prefix. -/
theorem removeUnsafe_base (base : ApiV1Prefix) (tail : List Char) :
    removeUnsafe (base.text ++ '/' :: tail) =
      base.text ++ '/' :: removeUnsafe tail := by
  rw [removeUnsafe_append, removeUnsafe_of_forall fun c hc => (base.plain c hc).1]
  rfl

/-- A path behind the API prefix starts with a slash. -/
theorem base_dropWhile (base : ApiV1Prefix) (tail : List Char) :
    (base.text ++ '/' :: tail).dropWhile (fun c => !isDelimiter c) =
        base.text ++ '/' :: tail ∧
      (base.text ++ '/' :: tail).takeWhile (fun c => !isDelimiter c) = [] := by
  rcases base.leading with hNil | hSlash
  · rw [hNil]
    exact ⟨rfl, rfl⟩
  · obtain ⟨rest, hRest⟩ : ∃ rest, base.text = '/' :: rest := by
      cases hBase : base.text with
      | nil =>
          rw [hBase] at hSlash
          cases hSlash
      | cons c rest =>
          rw [hBase] at hSlash
          exact ⟨rest, by rw [Option.some.inj hSlash]⟩
    rw [hRest]
    exact ⟨rfl, rfl⟩

theorem base_takeWhile (base : ApiV1Prefix) (tail : List Char) :
    (base.text ++ '/' :: tail).takeWhile (fun c => !endsPath c) =
      base.text ++ '/' :: tail.takeWhile fun c => !endsPath c := by
  rw [List.takeWhile_append_of_pos fun c hc => by rw [(base.plain c hc).2.1]; rfl]
  rfl

/-- The prefix is not read past the path that a `Host` header brings along. -/
theorem firstSegment_stripApiPrefix_append (base : ApiV1Prefix)
    (front tail : List Char) :
    firstSegment (stripApiPrefix base ('/' :: front ++ base.text ++ '/' :: tail)) =
      firstSegment (stripApiPrefix base ('/' :: front ++ base.text)) := by
  have hLength : base.text.length < ('/' :: front ++ base.text).length := by
    simp only [List.cons_append, List.length_cons, List.length_append]
    omega
  have hIff : base.text <+: '/' :: front ++ base.text ++ '/' :: tail ↔
      base.text <+: '/' :: front ++ base.text := by
    constructor
    · intro h
      exact List.prefix_of_prefix_length_le h (List.prefix_append _ _) hLength.le
    · intro h
      exact h.trans (List.prefix_append _ _)
  have hBoundary : AtBoundary ('/' :: tail) := .inr ⟨tail, rfl⟩
  simp only [stripApiPrefix, List.isPrefixOf_iff_prefix, hIff]
  split
  · rw [List.drop_append_of_le_length hLength.le]
    refine firstSegment_append ?_ hBoundary
    rw [ne_eq, List.drop_eq_nil_iff, not_le]
    exact hLength
  · refine firstSegment_append ?_ hBoundary
    rw [List.cons_append]
    exact List.cons_ne_nil _ _

theorem firstSegment_stripApiPrefix_base (base : ApiV1Prefix) (tail : List Char) :
    firstSegment (stripApiPrefix base (base.text ++ '/' :: tail)) =
      firstSegment ('/' :: tail) := by
  rw [stripApiPrefix, if_pos (List.isPrefixOf_iff_prefix.mpr (List.prefix_append _ _)),
    List.drop_left]

/-- The check of a user reads the path of the URL. -/
theorem requireApiPermission_iff (hRole : user.role = .user) (request : Request) :
    requireApiPermission checkNetloc base user request = .ok () ↔
      ∃ path, request.urlPath checkNetloc = some path ∧
        firstSegment (stripApiPrefix base path) = some user.lowered := by
  have hIff : ∀ path,
      routeMatchesUsername (normalizeRoutePath base path) user.lowered = true ↔
        firstSegment (stripApiPrefix base path) = some user.lowered := fun path =>
    routeMatchesUsername_iff base user.lowered_ne_nil user.slash_not_mem_lowered
  rw [requireApiPermission]
  cases request.urlPath checkNetloc with
  | none =>
      constructor
      · intro h
        cases h
      · rintro ⟨path, hPath, -⟩
        cases hPath
  | some path =>
      simp only [checkApiPermission, hRole, Option.some.injEq, exists_eq_left',
        ← hIff]
      split
      · simp_all
      · simp_all

/-- The path of the URL when the `Host` header has no delimiter. -/
theorem urlPath_of_plain_host {request : Request} {tail : List Char}
    (hPath : request.path = base.text ++ '/' :: tail)
    (hHost : ∀ c ∈ removeUnsafe request.host, isDelimiter c = false) :
    request.urlPath checkNetloc =
      if checkNetloc (removeUnsafe request.host) then
        some (base.text ++ '/' :: (removeUnsafe tail).takeWhile fun c => !endsPath c)
      else none := by
  have hPos : ∀ c ∈ removeUnsafe request.host, (!isDelimiter c) = true :=
    fun c hc => by rw [hHost c hc]; rfl
  rw [Request.urlPath, urlsplit_path checkNetloc request.scheme.isScheme,
    removeUnsafe_append, hPath, removeUnsafe_base, List.takeWhile_append_of_pos hPos,
    List.dropWhile_append_of_pos hPos, (base_dropWhile base _).1,
    (base_dropWhile base _).2, List.append_nil, base_takeWhile]

/-- The path of the URL when the `Host` header has a delimiter. -/
theorem urlPath_of_delimiter {request : Request} {tail rest : List Char} {c : Char}
    (hPath : request.path = base.text ++ '/' :: tail)
    (hHost : (removeUnsafe request.host).dropWhile (fun c => !isDelimiter c) =
      c :: rest) :
    request.urlPath checkNetloc =
      if checkNetloc ((removeUnsafe request.host).takeWhile fun c => !isDelimiter c) then
        some ((c :: rest ++ (base.text ++ '/' :: removeUnsafe tail)).takeWhile
          fun c => !endsPath c)
      else none := by
  have hSplit := List.takeWhile_append_dropWhile (p := fun c => !isDelimiter c)
    (l := removeUnsafe request.host)
  rw [hHost] at hSplit
  have hPos : ∀ d ∈ (removeUnsafe request.host).takeWhile (fun c => !isDelimiter c),
      (!isDelimiter d) = true := fun d hd => by
    simpa using List.mem_takeWhile_imp hd
  have hc : ¬(!isDelimiter c) = true := by
    have := List.head?_dropWhile_not (fun c => !isDelimiter c) (removeUnsafe request.host)
    simpa [hHost] using this
  rw [Request.urlPath, urlsplit_path checkNetloc request.scheme.isScheme,
    removeUnsafe_append, hPath, removeUnsafe_base]
  generalize hNetloc : (removeUnsafe request.host).takeWhile
    (fun c => !isDelimiter c) = netloc at hSplit hPos
  have hStop : ∀ more, (c :: more).takeWhile (fun c => !isDelimiter c) = [] ∧
      (c :: more).dropWhile (fun c => !isDelimiter c) = c :: more := fun more =>
    ⟨List.takeWhile_cons_of_neg hc, List.dropWhile_cons_of_neg hc⟩
  rw [← hSplit, List.append_assoc, List.takeWhile_append_of_pos hPos,
    List.dropWhile_append_of_pos hPos, List.cons_append, (hStop _).1, (hStop _).2,
    List.append_nil]

/-- The first segment of the path of the URL is the one of the path that the
`Host` header brings along. -/
theorem firstSegment_of_delimiter {c : Char} (hc : isDelimiter c = true)
    (rest tail lowered : List Char) :
    firstSegment (stripApiPrefix base
        ((c :: rest ++ (base.text ++ '/' :: tail)).takeWhile fun c => !endsPath c)) =
        some lowered ↔
      ∃ path, delimiterPath base (c :: rest) = some path ∧
        firstSegment (stripApiPrefix base path) = some lowered := by
  by_cases hSlash : c = '/'
  · subst hSlash
    rw [delimiterPath]
    split
    · rename_i hAny
      obtain ⟨d, hd, hEnds⟩ := List.any_eq_true.mp hAny
      have hCut : ('/' :: rest ++ (base.text ++ '/' :: tail)).takeWhile
          (fun c => !endsPath c) = ('/' :: rest).takeWhile fun c => !endsPath c := by
        rw [List.takeWhile_append, if_neg]
        intro hLength
        have hAll := (List.takeWhile_prefix _).eq_of_length hLength
        rw [List.takeWhile_eq_self_iff] at hAll
        have := hAll d (List.mem_cons_of_mem _ hd)
        rw [hEnds] at this
        cases this
      rw [hCut]
      simp
    · rename_i hAny
      have hAll : ∀ d ∈ '/' :: rest, (!endsPath d) = true := by
        intro d hd
        rcases List.mem_cons.mp hd with rfl | hd
        · decide
        · simp only [List.any_eq_true, not_exists, not_and, Bool.not_eq_true] at hAny
          rw [hAny d hd]
          rfl
      rw [List.takeWhile_append_of_pos hAll, base_takeWhile, ← List.append_assoc,
        firstSegment_stripApiPrefix_append]
      simp
  · have hEnds : endsPath c = true := by
      simpa [isDelimiter, endsPath, hSlash] using hc
    have hNone : delimiterPath base (c :: rest) = none := by
      unfold delimiterPath
      split
      · rename_i hEq
        exact absurd (List.cons.inj hEq).1 hSlash
      · rfl
    rw [List.cons_append, List.takeWhile_cons_of_neg (by rw [hEnds]; decide), hNone]
    simp [stripApiPrefix, firstSegment]

/-- Who passes the check: the user whom the `Host` header names, or, when it has
no delimiter, the one whom the request path names. -/
theorem requireApiPermission_iff_host (hRole : user.role = .user) {request : Request}
    {tail : List Char} (hPath : request.path = base.text ++ '/' :: tail) :
    requireApiPermission checkNetloc base user request = .ok () ↔
      HostNames checkNetloc base request.host user.lowered ∨
        (∀ c ∈ removeUnsafe request.host, isDelimiter c = false) ∧
          checkNetloc (removeUnsafe request.host) = true ∧
          firstSegment ('/' :: (removeUnsafe tail).takeWhile fun c => !endsPath c) =
            some user.lowered := by
  rw [requireApiPermission_iff hRole]
  cases hHost : (removeUnsafe request.host).dropWhile fun c => !isDelimiter c with
  | nil =>
      have hPlain : ∀ c ∈ removeUnsafe request.host, isDelimiter c = false := by
        simpa using List.dropWhile_eq_nil_iff.mp hHost
      have hNot : ¬HostNames checkNetloc base request.host user.lowered := by
        rintro ⟨-, path, hHostPath, -⟩
        rw [hostPath, hHost] at hHostPath
        cases hHostPath
      rw [urlPath_of_plain_host hPath hPlain]
      simp only [hNot, false_or]
      split
      · rename_i hCheck
        simp only [Option.some.injEq, exists_eq_left', firstSegment_stripApiPrefix_base,
          hCheck, true_and]
        exact ⟨fun h => ⟨hPlain, h⟩, And.right⟩
      · rename_i hCheck
        simp [hCheck]
  | cons c rest =>
      have hMem : c ∈ removeUnsafe request.host :=
        (List.dropWhile_suffix _).subset (hHost ▸ List.mem_cons_self)
      have hc : isDelimiter c = true := by
        have := List.head?_dropWhile_not (fun c => !isDelimiter c)
          (removeUnsafe request.host)
        simpa [hHost] using this
      have hNotPlain : ¬∀ c ∈ removeUnsafe request.host, isDelimiter c = false :=
        fun h => by
          rw [h c hMem] at hc
          cases hc
      simp only [hNotPlain, false_and, or_false]
      rw [urlPath_of_delimiter hPath hHost, HostNames, hostPath, hHost,
        ← firstSegment_of_delimiter hc rest (removeUnsafe tail)]
      split
      · rename_i hCheck
        simp only [Option.some.injEq, exists_eq_left', hCheck, true_and]
      · rename_i hCheck
        simp [hCheck]

end Authorization

section Handlers

variable {checkNetloc : List Char → Bool} {base : ApiV1Prefix} {user : User}

/-- The path of a plain segment is not changed on its way through the URL. -/
theorem firstSegment_plain {segment tail : List Char}
    (hPlain : segment.all isPrefixChar = true) (hTail : AtBoundary (removeUnsafe tail)) :
    firstSegment ('/' :: (removeUnsafe (segment ++ tail)).takeWhile fun c =>
      !endsPath c) = some segment := by
  have hPlainChar := fun c hc => isPrefixChar_plain (List.all_eq_true.mp hPlain c hc)
  have hSlash : '/' ∉ segment := fun hMem => (hPlainChar _ hMem).2.2 rfl
  rw [removeUnsafe_append, removeUnsafe_of_forall fun c hc => (hPlainChar c hc).1,
    List.takeWhile_append_of_pos fun c hc => by rw [(hPlainChar c hc).2.1]; rfl]
  refine firstSegment_segment hSlash ?_
  rcases hTail with hNil | ⟨rest, hRest⟩
  · exact .inl (by rw [hNil]; rfl)
  · exact .inr ⟨rest.takeWhile fun c => !endsPath c, by rw [hRest]; rfl⟩

/-- Unless the `Host` header names the user, the check passes on paths whose first
segment is the username. -/
theorem eq_lowered_of_permitted (hRole : user.role = .user) {request : Request}
    {segment tail : List Char} (hPlain : segment.all isPrefixChar = true)
    (hPath : request.path = base.text ++ '/' :: (segment ++ tail))
    (hTail : AtBoundary (removeUnsafe tail))
    (hPermitted : requireApiPermission checkNetloc base user request = .ok ())
    (hHost : ¬HostNames checkNetloc base request.host user.lowered) :
    segment = user.lowered := by
  have hSegment := (requireApiPermission_iff_host hRole hPath).mp hPermitted
  rw [firstSegment_plain hPlain hTail] at hSegment
  rcases hSegment with hNames | ⟨-, -, hName⟩
  · exact absurd hNames hHost
  · exact Option.some.inj hName

/-- The dispatch of a path behind the prefix. -/
theorem dispatch_base (base : ApiV1Prefix) (method : Method) (tail : List Char) :
    dispatch base method (base.text ++ tail) =
      apiRouter.findSome? fun route =>
        if route.method = method then
          (matchSegments route.segments tail).map fun found =>
            ⟨route, found.1, base.text ++ found.2⟩
        else none := by
  have hFront : base.text.isPrefixOf (base.text ++ tail) = true :=
    List.isPrefixOf_iff_prefix.mpr (List.prefix_append _ _)
  unfold dispatch
  congr 1
  funext route
  simp only [ApiRoute.match?, hFront, and_true, List.drop_left]

/-- A name in front of a path of one letter reaches the stored routes. -/
def probe (name : List Char) : List Char := '/' :: (name ++ ['/', 'x'])

/-- The dynamic route, the last one of the router. -/
def executeRoute : ApiRoute :=
  { method := .get, segments := [.param, .pathParam],
    endpoint := .executeDynamicRoute, apiPermission := true }

/-- Two names that are no literal of the router. -/
def probeNames : List String := ["zz0", "zz1"]

theorem dispatch_probe (base : ApiV1Prefix) :
    ∀ name ∈ probeNames,
      dispatch base .get (base.text ++ probe name.toList) =
        some ⟨executeRoute, [name.toList, "x".toList],
          base.text ++ probe name.toList⟩ := by
  intro name hName
  rw [dispatch_base]
  fin_cases hName <;> rfl

/-- Whoever passes the check for every request of this `Host` header runs the
routes of others. -/
theorem runs_probe (hRole : user.role = .user) {host : List Char}
    (hHost : HostNames checkNetloc base host user.lowered) {name : String}
    (hName : name ∈ probeNames) :
    ∃ table request m, request.host = host ∧
      HandlerRuns checkNetloc base user table request m ∧
      m.route.apiPermission = true ∧ matchedSegment base m = some name.toList := by
  have hNameOk : PrefixOk name := by
    have hAll : ∀ name ∈ probeNames, PrefixOk name := by decide
    exact hAll name hName
  have hSlash : '/' ∉ name.toList := fun hMem =>
    (isPrefixChar_plain (List.all_eq_true.mp hNameOk.2.2.1 _ hMem)).2.2 rfl
  refine ⟨⟨[(name, "x")], fun row hRow => ?_⟩,
    ⟨.get, .http, host, base.text ++ probe name.toList⟩, _, rfl,
    ⟨dispatch_probe base name hName, fun _ => ?_, fun h => ?_, fun _ => ?_⟩, rfl, ?_⟩
  · rw [List.mem_singleton.mp hRow]
    exact hNameOk
  · exact (requireApiPermission_iff_host hRole rfl).mpr (.inl hHost)
  · cases h
  · exact ⟨(name, "x"), List.mem_singleton_self _, rfl⟩
  · rw [matchedSegment, List.drop_left, probe,
      firstSegment_segment hSlash (.inr ⟨['x'], rfl⟩)]

/-- The path that is authorized is the path that is executed, for every table of
routes and every request under a `Host` header, if and only if the header does
not itself name the user. -/
theorem pathAuthorized_iff (checkNetloc : List Char → Bool) (base : ApiV1Prefix)
    (user : User) (host : List Char) (hRole : user.role = .user) :
    PathAuthorized checkNetloc base user host ↔
      ¬HostNames checkNetloc base host user.lowered := by
  constructor
  · intro hAuthorized hHost
    have hRuns : ∀ name ∈ probeNames, name.toList = user.lowered := by
      intro name hName
      obtain ⟨table, request, m, hSameHost, hRun, hGuard, hSegment⟩ :=
        runs_probe hRole hHost hName
      have := hAuthorized table request m hSameHost hRun hGuard
      rw [hSegment] at this
      exact Option.some.inj this
    -- one username cannot be both names
    have hSame : "zz0".toList = "zz1".toList :=
      (hRuns "zz0" (by decide)).trans (hRuns "zz1" (by decide)).symm
    exact absurd hSame (by decide)
  · intro hHost table request m hSameHost hRun hGuard
    obtain ⟨segment, tail, hPlain, hPath, hTail, hSegment⟩ := hRun.segment hGuard
    rw [hSegment, eq_lowered_of_permitted hRole hPlain hPath hTail
      (hRun.permitted hGuard) (by rw [hSameHost]; exact hHost)]

/-- A user of role `user`. -/
def alice : User where
  username := "alice".toList
  role := .user
  length_ge := by decide
  length_le := by decide
  pattern := by decide

/-- Under a plain `Host` header `alice` runs guarded handlers on paths of her own only. -/
theorem pathAuthorized_alice :
    PathAuthorized (fun _ => true) .default alice "example.com".toList := by
  refine (pathAuthorized_iff (fun _ => true) .default alice "example.com".toList rfl).mpr ?_
  rintro ⟨-, path, hPath, -⟩
  have hNone : hostPath .default "example.com".toList = none := by decide
  rw [hNone] at hPath
  cases hPath

/-- The route `bob/report`. -/
def bobTable : RouteTable where
  rows := [("bob", "report")]
  prefixes_ok := by decide

/-- A request for the report of `bob` whose `Host` header has the path of
`alice`. -/
def bobRequest : Request where
  method := .get
  scheme := .http
  host := "example.com/api/v1/alice/x?".toList
  path := "/api/v1/bob/report".toList

/-- The report of `bob` runs for `alice`. -/
theorem alice_runs_bob :
    alice.role = .user ∧
      ¬PathAuthorized (fun _ => true) .default alice bobRequest.host := by
  refine ⟨rfl, fun h => ?_⟩
  have hMatch := h bobTable bobRequest
    ⟨executeRoute, ["bob".toList, "report".toList], bobRequest.path⟩ rfl
    ⟨by decide, fun _ => rfl, fun hAdmin => (by cases hAdmin),
      fun _ => ⟨("bob", "report"), List.mem_singleton_self _, rfl⟩⟩ rfl
  exact absurd hMatch (by decide)

end Handlers

end Api
end DataApi
