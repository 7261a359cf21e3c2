import DataApi.Api.Permission

/-!
# Registered routes and their requests

A dynamic route is registered under a prefix and a path.  Registration compares
the literal path with the paths of the registered routes; dispatch matches
patterns.  A route that was registered is reached by its own path unless the
path has a line feed, or a pattern with a parameter is in front of it: the one
of `get_user` takes every path of one segment below `users`
(`reachesItself_iff`).
-/

namespace DataApi
namespace Api

open Library QueryEngine Schemas

/-- The names of the path parameters of an endpoint. -/
def Endpoint.paramNames : Endpoint → List String
  | .getUser => ["user_id"]
  | .updateUser => ["user_id"]
  | .deleteUser => ["user_id"]
  | .getDynamicRoute => ["route_id"]
  | .updateDynamicRoute => ["route_id"]
  | .deleteDynamicRoute => ["route_id"]
  | .executeDynamicRoute => ["prefix", "path"]
  | _ => []

/-- The text of a route path; a parameter is its name in braces. -/
def segmentsPath : List Segment → List String → List Char
  | [], _ => []
  | .literal text :: rest, names => '/' :: (text ++ segmentsPath rest names)
  | .param :: rest, name :: names =>
      '/' :: '\x7b' :: (name.toList ++ '\x7d' :: segmentsPath rest names)
  | .pathParam :: rest, name :: names =>
      '/' :: '\x7b' :: (name.toList ++ ":path\x7d".toList ++ segmentsPath rest names)
  | _ :: rest, [] => segmentsPath rest []

/-- A route of the application: a page that FastAPI registers on its own, or a
route of `api_router`. -/
inductive AppRoute where
  | page (path : List Char)
  | api (route : ApiRoute)
  deriving DecidableEq

/-- The pages, which are registered first. -/
def docsPages : List (List Char) :=
  ["/openapi.json".toList, "/docs".toList, "/docs/oauth2-redirect".toList,
    "/redoc".toList]

/-- `app.routes`. -/
def appRoutes : List AppRoute := docsPages.map .page ++ apiRouter.map .api

/-- `route.path`. -/
def AppRoute.path (base : ApiV1Prefix) : AppRoute → List Char
  | .page path => path
  | .api route => base.text ++ segmentsPath route.segments route.endpoint.paramNames

/-- Whether `"GET" in route.methods`. -/
def AppRoute.isGet : AppRoute → Bool
  | .page _ => true
  | .api route => route.method = .get

/-- The path of a dynamic route behind the API prefix. -/
def effectivePath (base : ApiV1Prefix) (routePrefix path : String) : List Char :=
  base.text ++ '/' :: (routePrefix.toList ++ '/' :: path.toList)

/-- The text that marks a catch-all route. -/
def catchAll : List Char := "\x7bpath:path\x7d".toList

/-- `_reject_static_get_collision`. -/
def rejectStaticGetCollision (base : ApiV1Prefix) (routePrefix path : String) :
    Except AppError Unit :=
  raiseIf (∃ route ∈ appRoutes, route.path base = effectivePath base routePrefix path ∧
      route.isGet = true ∧ ¬catchAll <:+: route.path base)
    (conflictError "Dynamic route conflicts with a static GET endpoint"
      "dynamic_route_path_conflict")

/-- What a request is dispatched to. -/
inductive AppMatch where
  | page (path : List Char)
  | api (found : RouteMatch)
  deriving DecidableEq

/-- The match of one route of the application. -/
def AppRoute.match? (base : ApiV1Prefix) (method : Method) (path : List Char) :
    AppRoute → Option AppMatch
  | .page text =>
      if method = .get ∧ (path = text ∨ path = text ++ ['\n']) then some (.page text)
      else none
  | .api route => (route.match? base method path).map .api

/-- The route of the application that handles a request. -/
def appDispatch (base : ApiV1Prefix) (method : Method) (path : List Char) :
    Option AppMatch :=
  appRoutes.findSome? (AppRoute.match? base method path)

/-- What is dispatched to a route of the router is a match of the route. -/
theorem appDispatch_api {base : ApiV1Prefix} {method : Method} {path : List Char} {m : RouteMatch}
    (h : appDispatch base method path = some (.api m)) :
    m.route ∈ apiRouter ∧ m.route.match? base method path = some m := by
  obtain ⟨route, hRoute, hMatch⟩ := List.exists_of_findSome?_eq_some h
  rcases List.mem_append.mp hRoute with hPage | hApi
  · obtain ⟨page, -, rfl⟩ := List.mem_map.mp hPage
    rw [AppRoute.match?] at hMatch
    split at hMatch <;> cases hMatch
  · obtain ⟨route, hMem, rfl⟩ := List.mem_map.mp hApi
    rw [AppRoute.match?] at hMatch
    obtain ⟨found, hFound, hSame⟩ := Option.map_eq_some_iff.mp hMatch
    cases hSame
    have hRoute := ApiRoute.route_of_match? hFound
    rw [hRoute]
    exact ⟨hMem, hFound⟩

/-- A `GET` of the path of a route is dispatched to `execute_dynamic_route`, with
the prefix and the path of the route. -/
def ReachesItself (base : ApiV1Prefix) (routePrefix path : String) : Prop :=
  appDispatch base .get (effectivePath base routePrefix path) =
    some (.api ⟨executeRoute, [routePrefix.toList, path.toList],
      effectivePath base routePrefix path⟩)

section Patterns

variable {front tail text : List Char}

theorem drop_length_takeWhile (p : Char → Bool) (text : List Char) :
    text.drop (text.takeWhile p).length = text.dropWhile p := by
  induction text with
  | nil => rfl
  | cons c rest ih =>
      by_cases hc : p c = true
      · rw [List.takeWhile_cons_of_pos hc, List.dropWhile_cons_of_pos hc]
        exact ih
      · rw [List.takeWhile_cons_of_neg hc, List.dropWhile_cons_of_neg hc]
        rfl

theorem atEnd_slash (tail : List Char) : atEnd ('/' :: tail) = false := by
  simp [atEnd]

/-- A literal in front of a slash is the whole first segment. -/
theorem matchSegments_literal_segment (hText : '/' ∉ text) (hFront : '/' ∉ front)
    (rest : List Segment) :
    matchSegments (.literal text :: rest) ('/' :: (front ++ '/' :: tail)) =
      if text = front then
        (matchSegments rest ('/' :: tail)).map fun found =>
          (found.1, '/' :: (text ++ found.2))
      else none := by
  rw [matchSegments]
  by_cases hSame : text = front
  · subst hSame
    rw [if_pos (List.isPrefixOf_iff_prefix.mpr (List.prefix_append _ _)), if_pos rfl,
      List.drop_left]
  · rw [if_neg hSame]
    split
    · rename_i hMatch
      have hMatch := List.isPrefixOf_iff_prefix.mp hMatch
      rcases List.prefix_or_prefix_of_prefix hMatch (List.prefix_append front _) with
        ⟨more, rfl⟩ | ⟨more, rfl⟩
      · -- the literal ends inside the first segment
        cases more with
        | nil => exact absurd (List.append_nil text).symm hSame
        | cons c more =>
            have hc : c ≠ '/' := by
              rintro rfl
              exact hFront (List.mem_append_right _ List.mem_cons_self)
            rw [List.append_assoc, List.drop_left, Option.map_eq_none_iff]
            cases hFound : matchSegments rest (c :: more ++ '/' :: tail) with
            | none => rfl
            | some found =>
                cases rest with
                | nil => simp [matchSegments, atEnd] at hFound
                | cons segment rest =>
                    obtain ⟨_, _, hSlash, -⟩ := matchSegments_slash hFound
                    exact absurd (List.cons.inj hSlash).1 hc
      · -- the literal would go on behind the slash
        cases more with
        | nil => exact absurd (List.append_nil front) hSame
        | cons c more =>
            rw [List.prefix_append_right_inj, List.cons_prefix_cons] at hMatch
            refine absurd ?_ hText
            rw [hMatch.1]
            exact List.mem_append_right _ List.mem_cons_self
    · rfl

/-- A literal at the end takes the text that is left. -/
theorem matchSegments_literal_last (hLast : tail.getLast? ≠ some '\n')
    {found : List (List Char) × List Char}
    (h : matchSegments [.literal text] ('/' :: tail) = some found) : tail = text := by
  rw [matchSegments] at h
  split at h
  · rename_i hMatch
    obtain ⟨more, rfl⟩ := List.isPrefixOf_iff_prefix.mp hMatch
    obtain ⟨inner, hInner, -⟩ := Option.map_eq_some_iff.mp h
    rw [List.drop_left, matchSegments] at hInner
    split at hInner
    · rename_i hEnd
      simp only [atEnd, Bool.or_eq_true, beq_iff_eq] at hEnd
      rcases hEnd with rfl | rfl
      · exact List.append_nil text
      · exact absurd List.getLast?_concat hLast
    · cases hInner
  · cases h

/-- A parameter at the end takes what is left if it has no slash. -/
theorem matchSegments_param_last (hTail : tail ≠ []) :
    (∃ found, matchSegments [.param] ('/' :: tail) = some found) ↔ '/' ∉ tail := by
  simp only [matchSegments]
  constructor
  · rintro ⟨found, h⟩ hSlash
    split at h
    · cases h
    · obtain ⟨inner, hInner, -⟩ := Option.map_eq_some_iff.mp h
      have hNe : tail.dropWhile (· != '/') ≠ [] := by
        intro hNil
        simpa using List.dropWhile_eq_nil_iff.mp hNil '/' hSlash
      obtain ⟨c, more, hCons⟩ := List.exists_cons_of_ne_nil hNe
      have hc : c = '/' := by
        have := List.head?_dropWhile_not (· != '/') tail
        simpa [hCons] using this
      rw [drop_length_takeWhile, hCons, hc] at hInner
      simp [atEnd_slash] at hInner
  · intro hSlash
    have hTake : tail.takeWhile (· != '/') = tail := by
      refine List.takeWhile_eq_self_iff.mpr fun c hc => ?_
      rw [bne_iff_ne]
      rintro rfl
      exact hSlash hc
    rw [hTake, if_neg hTail, List.drop_length]
    exact ⟨_, rfl⟩

/-- The catch-all takes what is left if it has no line feed. -/
theorem matchSegments_execute (hFront : '/' ∉ front) (hNe : front ≠ [])
    (hLast : tail.getLast? ≠ some '\n') :
    matchSegments [.param, .pathParam] ('/' :: (front ++ '/' :: tail)) =
      if '\n' ∈ tail then none
      else some ([front, tail], '/' :: (front ++ '/' :: tail)) := by
  have hTake : (front ++ '/' :: tail).takeWhile (· != '/') = front :=
    takeWhile_segment hFront (.inr ⟨tail, rfl⟩)
  rw [matchSegments, hTake, if_neg hNe, List.drop_left]
  simp only [matchSegments]
  by_cases hFeed : '\n' ∈ tail
  · have hEnd : atEnd (tail.dropWhile (· != '\n')) = false := by
      rw [Bool.eq_false_iff]
      intro hEnd
      simp only [atEnd, Bool.or_eq_true, beq_iff_eq] at hEnd
      rcases hEnd with hNil | hSingle
      · simpa using List.dropWhile_eq_nil_iff.mp hNil '\n' hFeed
      · apply hLast
        rw [← List.takeWhile_append_dropWhile (p := (· != '\n')) (l := tail), hSingle]
        exact List.getLast?_concat
    rw [drop_length_takeWhile, hEnd, if_pos hFeed]
    rfl
  · have hAll : tail.takeWhile (· != '\n') = tail := by
      refine List.takeWhile_eq_self_iff.mpr fun c hc => ?_
      rw [bne_iff_ne]
      rintro rfl
      exact hFeed hc
    rw [hAll, List.drop_length, if_neg hFeed]
    rfl

end Patterns

/-- The last route of a list handles a request exactly when no earlier one
does. -/
theorem findSome?_concat {α β : Type} {f : α → Option β} {l : List α} {a : α} {b : β}
    (h : ∀ x ∈ l, f x ≠ some b) :
    (l ++ [a]).findSome? f = some b ↔ (∀ x ∈ l, f x = none) ∧ f a = some b := by
  rw [List.findSome?_append]
  cases hFirst : l.findSome? f with
  | none =>
      have hNone := List.findSome?_eq_none_iff.mp hFirst
      rw [Option.none_or]
      constructor
      · intro hEq
        exact ⟨hNone, by simpa using hEq⟩
      · rintro ⟨-, hEq⟩
        simpa using hEq
  | some first =>
      obtain ⟨x, hx, hfx⟩ := List.exists_of_findSome?_eq_some hFirst
      rw [Option.some_or]
      constructor
      · intro hEq
        exact absurd (hfx.trans hEq) (h x hx)
      · rintro ⟨hNone, -⟩
        rw [hNone x hx] at hfx
        cases hfx

section Dispatch

variable {base : ApiV1Prefix}

/-- The routes of `api_router` in front of the catch-all. -/
def staticRoutes : List ApiRoute := apiRouter.dropLast

theorem appRoutes_eq :
    appRoutes = (docsPages.map .page ++ staticRoutes.map .api) ++ [.api executeRoute] :=
  rfl

/-- A literal that can be a segment: no slash and no brace. -/
def isSegmentText (text : List Char) : Bool :=
  !text.contains '/' && !text.contains '{'

/-- The shapes of the static `GET` routes: one or two literals, or a parameter
below `users` or `dynamic-routes`. -/
def staticShape : List Segment → Bool
  | [.literal text] => isSegmentText text
  | [.literal text, .literal more] => isSegmentText text && isSegmentText more
  | [.literal text, .param] =>
      text == "users".toList || text == "dynamic-routes".toList
  | _ => false

theorem staticShape_of_get :
    ∀ route ∈ staticRoutes, route.method = .get → staticShape route.segments = true := by
  decide

/-- What a payload and the collision check say about the path of a route. -/
structure Registrable (base : ApiV1Prefix) (routePrefix path : String) : Prop where
  prefix_ok : PrefixOk routePrefix
  path_ok : PathOk path
  not_rejected : rejectStaticGetCollision base routePrefix path = .ok ()

variable {routePrefix path : String}

theorem slash_not_mem_of_prefixOk (h : PrefixOk routePrefix) : '/' ∉ routePrefix.toList :=
  fun hMem => (isPrefixChar_plain (List.all_eq_true.mp h.2.2.1 _ hMem)).2.2 rfl

theorem prefix_ne_nil (h : PrefixOk routePrefix) : routePrefix.toList ≠ [] := by
  intro hNil
  have hLength := h.1
  rw [← String.length_toList, hNil] at hLength
  exact absurd hLength (by decide)

theorem path_ne_nil (h : PathOk path) : path.toList ≠ [] := by
  intro hNil
  have hLength := h.1
  rw [← String.length_toList, hNil] at hLength
  exact absurd hLength (by decide)

theorem path_getLast? (h : PathOk path) : path.toList.getLast? ≠ some '\n' := by
  intro hLast
  have hSpace := isSpace_getLast?_strip path '\n'
  rw [← h.2.2.1] at hSpace
  exact absurd (hSpace hLast) (by decide)

/-- A registered `GET` route without a brace does not have the path of the new
one. -/
theorem Registrable.path_ne (h : Registrable base routePrefix path) {route : AppRoute}
    (hRoute : route ∈ appRoutes) (hGet : route.isGet = true)
    (hBrace : '\x7b' ∉ route.path base) :
    route.path base ≠ effectivePath base routePrefix path := by
  intro hSame
  refine raiseIf_eq_ok_iff.mp h.not_rejected ⟨route, hRoute, hSame, hGet, fun hCatch => ?_⟩
  exact hBrace (hCatch.subset (by decide))

theorem match?_effectivePath (route : ApiRoute) :
    route.match? base .get (effectivePath base routePrefix path) =
      if route.method = .get then
        (matchSegments route.segments
          ('/' :: (routePrefix.toList ++ '/' :: path.toList))).map fun found =>
            ⟨route, found.1, base.text ++ found.2⟩
      else none := by
  have hFront : base.text.isPrefixOf
      (base.text ++ '/' :: (routePrefix.toList ++ '/' :: path.toList)) = true :=
    List.isPrefixOf_iff_prefix.mpr (List.prefix_append _ _)
  unfold effectivePath
  simp only [ApiRoute.match?, hFront, and_true, List.drop_left]

theorem isSegmentText_iff {text : List Char} :
    isSegmentText text = true ↔ '/' ∉ text ∧ '\x7b' ∉ text := by
  simp [isSegmentText]

/-- A static route takes the path only as the parameter below `users`. -/
theorem Registrable.static_eq_none (h : Registrable base routePrefix path)
    (hUsers : routePrefix = "users" → '/' ∈ path.toList) {route : ApiRoute}
    (hRoute : route ∈ staticRoutes) (hGet : route.method = .get) :
    matchSegments route.segments
      ('/' :: (routePrefix.toList ++ '/' :: path.toList)) = none := by
  have hSlash := slash_not_mem_of_prefixOk h.prefix_ok
  have hBase : '\x7b' ∉ base.text := fun hMem => (base.plain _ hMem).2.2 rfl
  have hMem : AppRoute.api route ∈ appRoutes :=
    List.mem_append_right _ (List.mem_map.mpr ⟨route, List.mem_of_mem_dropLast hRoute, rfl⟩)
  have hShape := staticShape_of_get route hRoute hGet
  rw [Option.eq_none_iff_forall_ne_some]
  intro found hFound
  unfold staticShape at hShape
  split at hShape
  · -- one literal segment, but the path has two
    rename_i text hSegments
    rw [hSegments, matchSegments_literal_segment (isSegmentText_iff.mp hShape).1 hSlash,
      matchSegments, atEnd_slash] at hFound
    split at hFound <;> cases hFound
  · -- two literal segments: the collision check has refused this very path
    rename_i text more hSegments
    rw [Bool.and_eq_true, isSegmentText_iff, isSegmentText_iff] at hShape
    rw [hSegments, matchSegments_literal_segment hShape.1.1 hSlash] at hFound
    split at hFound
    · rename_i hText
      obtain ⟨inner, hInner, -⟩ := Option.map_eq_some_iff.mp hFound
      have hMore := matchSegments_literal_last (path_getLast? h.path_ok) hInner
      have hPath : (AppRoute.api route).path base =
          base.text ++ '/' :: (text ++ '/' :: (more ++ [])) := by
        rw [AppRoute.path, hSegments]
        rfl
      have hBrace : '\x7b' ∉ (AppRoute.api route).path base := by
        rw [hPath]
        simp [hBase, hShape.1.2, hShape.2.2]
      refine h.path_ne hMem (by simp [AppRoute.isGet, hGet]) hBrace ?_
      rw [hPath, effectivePath, hText, hMore, List.append_nil]
    · cases hFound
  · -- a literal and a parameter: the prefix is `users`, or it is reserved
    rename_i text hSegments
    have hPlain : '/' ∉ text := by
      rcases (Bool.or_eq_true _ _).mp hShape with hText | hText <;>
        rw [beq_iff_eq.mp hText] <;> decide
    rw [hSegments, matchSegments_literal_segment hPlain hSlash] at hFound
    split at hFound
    · rename_i hText
      obtain ⟨inner, hInner, -⟩ := Option.map_eq_some_iff.mp hFound
      have hPath := (matchSegments_param_last (path_ne_nil h.path_ok)).mp ⟨inner, hInner⟩
      rcases (Bool.or_eq_true _ _).mp hShape with hIsUsers | hReserved
      · refine hPath (hUsers (String.toList_inj.mp ?_))
        rw [← hText, beq_iff_eq.mp hIsUsers]
      · refine h.prefix_ok.2.2.2 (List.mem_singleton.mpr (String.toList_inj.mp ?_))
        rw [← hText, beq_iff_eq.mp hReserved]
    · cases hFound
  · cases hShape

/-- No page has the path of a route that is registered. -/
theorem Registrable.page_eq_none (h : Registrable base routePrefix path)
    {page : List Char} (hPage : page ∈ docsPages) :
    AppRoute.match? base .get (effectivePath base routePrefix path) (.page page) =
      none := by
  rw [AppRoute.match?, if_neg]
  rintro ⟨-, hSame | hFeed⟩
  · have hBrace : ∀ page ∈ docsPages, page.contains '\x7b' = false := by decide
    have hRoute : AppRoute.page page ∈ appRoutes :=
      List.mem_append_left _ (List.mem_map.mpr ⟨page, hPage, rfl⟩)
    refine h.path_ne hRoute rfl ?_ hSame.symm
    intro hMem
    change '\x7b' ∈ page at hMem
    have hNot := hBrace page hPage
    rw [List.contains_iff_mem.mpr hMem] at hNot
    cases hNot
  · -- the pattern also ends in front of a final line feed, which no path has
    have hLast : (effectivePath base routePrefix path).getLast? =
        path.toList.getLast? := by
      obtain ⟨c, cs, hCons⟩ := List.exists_cons_of_ne_nil (path_ne_nil h.path_ok)
      rw [effectivePath, List.getLast?_append_of_ne_nil _ (List.cons_ne_nil _ _),
        ← List.cons_append, List.getLast?_append_of_ne_nil _ (List.cons_ne_nil _ _), hCons]
      rfl
    refine path_getLast? h.path_ok ?_
    rw [← hLast, hFeed, List.getLast?_concat]

/-- The catch-all finds the prefix and the path of a route. -/
theorem Registrable.execute_match (h : Registrable base routePrefix path) :
    AppRoute.match? base .get (effectivePath base routePrefix path)
        (.api executeRoute) =
      if '\n' ∈ path.toList then none
      else some (.api ⟨executeRoute, [routePrefix.toList, path.toList],
        effectivePath base routePrefix path⟩) := by
  have hExecute := matchSegments_execute (slash_not_mem_of_prefixOk h.prefix_ok)
    (prefix_ne_nil h.prefix_ok) (path_getLast? h.path_ok)
  rw [AppRoute.match?, match?_effectivePath, if_pos (by rfl)]
  change Option.map _ (Option.map _ (matchSegments [.param, .pathParam] _)) = _
  rw [hExecute]
  split <;> rfl

/-- The route of `get_user`. -/
def getUserRoute : ApiRoute :=
  { method := .get, segments := [lit "users", .param], endpoint := .getUser,
    apiPermission := true, adminOnly := true }

/-- A path of one segment below `users` is one of `get_user`. -/
theorem getUser_match (h : PathOk path) (hSlash : '/' ∉ path.toList) :
    AppRoute.match? base .get (effectivePath base "users" path)
        (.api getUserRoute) ≠ none := by
  obtain ⟨found, hFound⟩ := (matchSegments_param_last (path_ne_nil h)).mpr hSlash
  have hUsersSlash : '/' ∉ "users".toList := by decide
  have hSegments : matchSegments [.literal "users".toList, .param]
      ('/' :: ("users".toList ++ '/' :: path.toList)) = _ :=
    matchSegments_literal_segment hUsersSlash hUsersSlash [.param]
  rw [if_pos rfl, hFound] at hSegments
  rw [AppRoute.match?, match?_effectivePath, if_pos (by rfl)]
  change Option.map _ (Option.map _ (matchSegments [.literal "users".toList, .param] _)) ≠ _
  rw [hSegments]
  exact Option.some_ne_none _

/-- An accepted payload that the collision check lets pass is dispatched to its
own route if and only if the path has no line feed and is not a single segment
below `users`. -/
theorem reachesItself_iff {P : Scalars} (base : ApiV1Prefix)
    (payload : DynamicRouteWriteRequest P)
    (h : rejectStaticGetCollision base payload.routePrefix payload.path = .ok ()) :
    ReachesItself base payload.routePrefix payload.path ↔
      '\n' ∉ payload.path.toList ∧
        (payload.routePrefix = "users" → '/' ∈ payload.path.toList) := by
  have hOk : Registrable base payload.routePrefix payload.path :=
    ⟨payload.ok.1, payload.ok.2.1, h⟩
  -- no route in front of the catch-all calls its endpoint
  have hOther : ∀ route ∈ docsPages.map AppRoute.page ++ staticRoutes.map AppRoute.api,
      route.match? base .get (effectivePath base payload.routePrefix payload.path) ≠
        some (.api ⟨executeRoute, [payload.routePrefix.toList, payload.path.toList],
          effectivePath base payload.routePrefix payload.path⟩) := by
    intro route hRoute hMatch
    rcases List.mem_append.mp hRoute with hPage | hStatic
    · obtain ⟨page, -, rfl⟩ := List.mem_map.mp hPage
      rw [AppRoute.match?] at hMatch
      split at hMatch <;> cases hMatch
    · obtain ⟨found, hFound, rfl⟩ := List.mem_map.mp hStatic
      rw [AppRoute.match?, match?_effectivePath] at hMatch
      split at hMatch
      · obtain ⟨inner, hInner, hEq⟩ := Option.map_eq_some_iff.mp hMatch
        obtain ⟨_, -, rfl⟩ := Option.map_eq_some_iff.mp hInner
        have hRoute : found = executeRoute :=
          congrArg RouteMatch.route (AppMatch.api.inj hEq)
        have hNot : executeRoute ∉ staticRoutes := by decide
        exact hNot (hRoute ▸ hFound)
      · cases hMatch
  rw [ReachesItself, appDispatch, appRoutes_eq, findSome?_concat hOther,
    hOk.execute_match]
  constructor
  · rintro ⟨hNone, hExecute⟩
    refine ⟨fun hFeed => ?_, fun hUsers => ?_⟩
    · rw [if_pos hFeed] at hExecute
      cases hExecute
    · -- otherwise `get_user` comes first
      by_contra hSlash
      have hMem : AppRoute.api getUserRoute ∈
          docsPages.map AppRoute.page ++ staticRoutes.map AppRoute.api := by
        refine List.mem_append_right _ (List.mem_map_of_mem ?_)
        decide
      have hGetUser := hNone _ hMem
      rw [hUsers] at hGetUser
      exact getUser_match payload.ok.2.1 hSlash hGetUser
  · rintro ⟨hFeed, hUsers⟩
    refine ⟨fun route hRoute => ?_, by rw [if_neg hFeed]⟩
    rcases List.mem_append.mp hRoute with hPage | hStatic
    · obtain ⟨page, hMem, rfl⟩ := List.mem_map.mp hPage
      exact hOk.page_eq_none hMem
    · obtain ⟨found, hFound, rfl⟩ := List.mem_map.mp hStatic
      rw [AppRoute.match?, match?_effectivePath]
      split
      · rename_i hGet
        rw [hOk.static_eq_none hUsers hFound hGet]
        rfl
      · rfl

/-- A payload of one `SELECT`. -/
def simpleFields (routePrefix path : String) : WriteFields Scalars.plain where
  routePrefix := routePrefix
  path := path
  sql := "SELECT 1"

theorem simpleFields_accepted :
    (FieldsOk (simpleFields "alice" "report") ∧ IsLower "alice") ∧
      FieldsOk (simpleFields "users" "abc") ∧ IsLower "users" := by
  refine ⟨⟨by decide, ?_⟩, by decide, ?_⟩ <;> simp [IsLower]

/-- The payload of `alice/report`. -/
def aliceReport : DynamicRouteWriteRequest Scalars.plain where
  toWriteFields := simpleFields "alice" "report"
  ok := simpleFields_accepted.1.1
  lower := simpleFields_accepted.1.2

/-- Its route is reached. -/
theorem reachesItself_aliceReport : ReachesItself .default "alice" "report" :=
  (reachesItself_iff .default aliceReport (by decide)).mpr ⟨by decide, by decide⟩

/-- The payload of `users/abc`. -/
def usersAbc : DynamicRouteWriteRequest Scalars.plain where
  toWriteFields := simpleFields "users" "abc"
  ok := simpleFields_accepted.2.1
  lower := simpleFields_accepted.2.2

/-- The route `users/abc` is accepted and registered, and a `GET` of its path
goes to `get_user`. -/
theorem usersAbc_reaches_getUser :
    rejectStaticGetCollision .default usersAbc.routePrefix usersAbc.path = .ok () ∧
      appDispatch .default .get
          (effectivePath .default usersAbc.routePrefix usersAbc.path) =
        some (.api ⟨getUserRoute, ["abc".toList], "/api/v1/users/abc".toList⟩) ∧
      ¬ReachesItself .default usersAbc.routePrefix usersAbc.path := by
  refine ⟨by decide, by decide, ?_⟩
  unfold ReachesItself
  decide

end Dispatch

end Api
end DataApi
