import DataApi.Library.UrlSplit
import DataApi.Schemas.DynamicRoute

/-!
# The API router

The routes of `api_router` in registration order, and the dispatch of a
request: the first route whose path pattern and method match.  A pattern is
anchored with `$`, which also matches in front of a final line feed.
-/

namespace DataApi
namespace Api

open Library Schemas

/-- HTTP methods of the registered routes. -/
inductive Method where
  | get
  | post
  | put
  | patch
  | delete
  deriving DecidableEq

/-- A segment of a route path: a literal, `{name}` or `{name:path}`. -/
inductive Segment where
  | literal (text : List Char)
  | param
  | pathParam
  deriving DecidableEq

/-- The endpoint functions. -/
inductive Endpoint where
  | healthCheck
  | login
  | token
  | refreshToken
  | getMe
  | changePassword
  | createUser
  | listUsers
  | updateMe
  | deleteMe
  | getUser
  | updateUser
  | deleteUser
  | listUsersData
  | getDeeplink1
  | getDeeplink2
  | createDynamicRoute
  | listDynamicRoutes
  | getDynamicRoute
  | updateDynamicRoute
  | deleteDynamicRoute
  | executeDynamicRoute
  deriving DecidableEq

/-- A registered route: its path behind the API prefix, and whether
`require_api_permission` and `require_roles(admin)` guard it. -/
structure ApiRoute where
  method : Method
  segments : List Segment
  endpoint : Endpoint
  apiPermission : Bool := false
  adminOnly : Bool := false
  deriving DecidableEq

/-- A literal segment. -/
def lit (text : String) : Segment := .literal text.toList

/-- `api_router`. -/
def apiRouter : List ApiRoute :=
  [{ method := .get, segments := [lit "health"], endpoint := .healthCheck },
   { method := .post, segments := [lit "auth", lit "login"], endpoint := .login },
   { method := .post, segments := [lit "auth", lit "token"], endpoint := .token },
   { method := .post, segments := [lit "auth", lit "refresh"],
     endpoint := .refreshToken },
   { method := .get, segments := [lit "auth", lit "me"], endpoint := .getMe },
   { method := .post, segments := [lit "auth", lit "change-password"],
     endpoint := .changePassword },
   { method := .post, segments := [lit "users"], endpoint := .createUser,
     apiPermission := true, adminOnly := true },
   { method := .get, segments := [lit "users"], endpoint := .listUsers,
     apiPermission := true, adminOnly := true },
   { method := .patch, segments := [lit "users", lit "me"], endpoint := .updateMe,
     apiPermission := true },
   { method := .delete, segments := [lit "users", lit "me"], endpoint := .deleteMe,
     apiPermission := true },
   { method := .get, segments := [lit "users", .param], endpoint := .getUser,
     apiPermission := true, adminOnly := true },
   { method := .patch, segments := [lit "users", .param], endpoint := .updateUser,
     apiPermission := true, adminOnly := true },
   { method := .delete, segments := [lit "users", .param], endpoint := .deleteUser,
     apiPermission := true, adminOnly := true },
   { method := .get, segments := [lit "data", lit "users"],
     endpoint := .listUsersData, apiPermission := true },
   { method := .get, segments := [lit "power_bi", lit "deeplink_1"],
     endpoint := .getDeeplink1, apiPermission := true },
   { method := .get, segments := [lit "power_bi", lit "deeplink_2"],
     endpoint := .getDeeplink2, apiPermission := true },
   { method := .post, segments := [lit "dynamic-routes"],
     endpoint := .createDynamicRoute, adminOnly := true },
   { method := .get, segments := [lit "dynamic-routes"],
     endpoint := .listDynamicRoutes, adminOnly := true },
   { method := .get, segments := [lit "dynamic-routes", .param],
     endpoint := .getDynamicRoute, adminOnly := true },
   { method := .put, segments := [lit "dynamic-routes", .param],
     endpoint := .updateDynamicRoute, adminOnly := true },
   { method := .delete, segments := [lit "dynamic-routes", .param],
     endpoint := .deleteDynamicRoute, adminOnly := true },
   { method := .get, segments := [.param, .pathParam],
     endpoint := .executeDynamicRoute, apiPermission := true }]

/-- The end of a pattern: the end of the text, or a final line feed. -/
def atEnd (text : List Char) : Bool := text == [] || text == ['\n']

/-- Match the segments of a path against a text: the values of the parameters
and the text that was matched. -/
def matchSegments :
    List Segment → List Char → Option (List (List Char) × List Char)
  | [], text => if atEnd text then some ([], []) else none
  | .literal expected :: rest, '/' :: text =>
      if expected.isPrefixOf text then
        (matchSegments rest (text.drop expected.length)).map fun found =>
          (found.1, '/' :: (expected ++ found.2))
      else none
  | .param :: rest, '/' :: text =>
      let value := text.takeWhile (· != '/')
      if value = [] then none
      else
        (matchSegments rest (text.drop value.length)).map fun found =>
          (value :: found.1, '/' :: (value ++ found.2))
  | .pathParam :: _, '/' :: text =>
      -- the dot of `.*` does not match a line feed
      let value := text.takeWhile (· != '\n')
      if atEnd (text.drop value.length) then some ([value], '/' :: value) else none
  | _ :: _, _ => none

/-- A request path that a route has matched. -/
structure RouteMatch where
  route : ApiRoute
  params : List (List Char)
  matched : List Char
  deriving DecidableEq

/-- `settings.api_v1_prefix`: empty, or starting with a slash; without a slash
at the end, which `include_router` refuses; and without characters that mean
something else in a URL or in a route path. -/
structure ApiV1Prefix where
  text : List Char
  leading : text = [] ∨ text.head? = some '/'
  trailing : text.getLast? ≠ some '/'
  plain : ∀ c ∈ text, isRemoved c = false ∧ endsPath c = false ∧ c ≠ '\x7b'

/-- The prefix of the default settings. -/
def ApiV1Prefix.default : ApiV1Prefix where
  text := "/api/v1".toList
  leading := Or.inr (by decide)
  trailing := by decide
  plain := by
    have hAll : "/api/v1".toList.all (fun c =>
        !isRemoved c && !endsPath c && c != '\x7b') = true := by decide
    simpa using hAll

/-- The match of one route. -/
def ApiRoute.match? (base : ApiV1Prefix) (method : Method) (path : List Char)
    (route : ApiRoute) : Option RouteMatch :=
  if route.method = method ∧ base.text.isPrefixOf path then
    (matchSegments route.segments (path.drop base.text.length)).map fun found =>
      ⟨route, found.1, base.text ++ found.2⟩
  else none

theorem ApiRoute.route_of_match? {base : ApiV1Prefix} {method : Method}
    {path : List Char} {route : ApiRoute} {m : RouteMatch}
    (h : route.match? base method path = some m) : m.route = route := by
  rw [ApiRoute.match?] at h
  split at h
  · obtain ⟨_, -, rfl⟩ := Option.map_eq_some_iff.mp h
    rfl
  · cases h

/-- The route that handles a request; `none` where the router answers itself,
with 404, 405 or a redirect. -/
def dispatch (base : ApiV1Prefix) (method : Method) (path : List Char) :
    Option RouteMatch :=
  apiRouter.findSome? (ApiRoute.match? base method path)

end Api
end DataApi
