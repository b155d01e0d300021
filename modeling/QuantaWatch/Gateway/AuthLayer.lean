import QuantaWatch.Audit.Entry
import QuantaWatch.Gateway.AdminRoutes
import QuantaWatch.Gateway.Auth

/-!
Authentication and authorization in front of the admin API
(`auth_layer` in `qw-gateway/src/router.rs`).
-/

namespace QuantaWatch.Gateway

open Audit Crypto Lib.Encoding Lib.Json Lib.PathText Store

def Method.text : Method → String
  | get => "GET"
  | head => "HEAD"
  | options => "OPTIONS"
  | post => "POST"
  | put => "PUT"
  | delete => "DELETE"
  | patch => "PATCH"
  | trace => "TRACE"
  | connect => "CONNECT"
  | extension name => name

structure AdminRequest where
  method : Method
  path : String
  authorization : Option String
  xApiKey : Option String
  xTenant : Option String

def openSuffixes : List String :=
  ["/api/auth/login", "/api/health", "/api/auth/config", "/api/auth/status", "/api/auth/setup",
    "/api/endpoints/report", "/api/endpoints/agent.ps1", "/api/endpoints/agent.sh",
    "/api/k8s/admission"]

def openInfixes : List String := ["/api/auth/2fa/", "/api/auth/oidc/", "/api/webhooks/"]

def alwaysOpen (path : String) : Bool :=
  openSuffixes.any (endsWith path) || openInfixes.any (contains path)

def identityInfixes : List String := ["/api/auth/me", "/api/auth/logout"]

def identityOnly (path : String) : Bool := identityInfixes.any (contains path)

def stripBearer (value : String) : Option String :=
  if "Bearer ".toList.isPrefixOf value.toList then
    some (String.ofList (value.toList.drop "Bearer ".toList.length))
  else none

/-- `Authorization: Bearer`, or else `X-API-Key`. -/
def AdminRequest.credential (request : AdminRequest) : Option String :=
  (request.authorization.bind stripBearer).or request.xApiKey

inductive LayerDecision where
  | reject (status : Nat) (body : Value) (log : Option (String × AuditEvent))
  | run (context : Option AuthManager.AuthContext) (onSuccess : Option (String × AuditEvent))

def switchOrg (context : AuthManager.AuthContext) (request : AdminRequest) :
    AuthManager.AuthContext :=
  if context.permissions.allows "config:write" then
    { context with org := (request.xTenant.filter (· ≠ "")).getD context.org }
  else context

def authLayer (manager : AuthManager) (now : DateTime) (store : AuthStore)
    (request : AdminRequest) : LayerDecision × AuthStore :=
  if !manager.config.enabled then (.run none none, store)
  else if alwaysOpen request.path then (.run none none, store)
  else
    let unauthorized : LayerDecision :=
      .reject 401 (.object [("error", .string "authentication required")]) none
    match request.credential with
    | none => (unauthorized, store)
    | some credential =>
      match manager.validate now store credential with
      | (none, store) => (unauthorized, store)
      | (some context, store) =>
        let required := routePermission request.method request.path
        if !identityOnly request.path && !context.permissions.allows required then
          (.reject 403
            (.object [("error", .string "insufficient permissions"),
              ("required", .string required), ("role", .string context.roleName)])
            (some (context.principal, .accessDenied context.principal request.method.text
              request.path required)), store)
        else
          let isWrite := !identityOnly request.path && endsWith required ":write"
          (.run (some (switchOrg context request))
            (if isWrite then
              some (context.principal, .adminAction context.principal request.method.text
                request.path required)
            else none), store)

theorem run_of_authLayer {manager : AuthManager} {now : DateTime} {store next : AuthStore}
    {request : AdminRequest} {context : Option AuthManager.AuthContext}
    {onSuccess : Option (String × AuditEvent)} (enabled : manager.config.enabled = true)
    (closed : alwaysOpen request.path = false)
    (runs : authLayer manager now store request = (.run context onSuccess, next)) :
    ∃ credential caller, request.credential = some credential ∧
      (manager.validate now store credential).1 = some caller ∧
      (identityOnly request.path = true ∨
        caller.permissions.allows (routePermission request.method request.path) = true) := by
  rw [authLayer, enabled, closed] at runs
  simp only [Bool.not_true, Bool.false_eq_true, if_false] at runs
  cases presented : request.credential with
  | none =>
    rw [presented] at runs
    cases runs
  | some credential =>
    rw [presented] at runs
    cases validated : manager.validate now store credential with
    | mk found rest =>
      simp only [validated] at runs
      cases found with
      | none => cases runs
      | some caller =>
        refine ⟨credential, caller, rfl, by rw [validated], ?_⟩
        by_contra refused
        simp only [not_or, Bool.not_eq_true] at refused
        simp [refused.1, refused.2] at runs

def openEndpoints : List String :=
  openSuffixes ++
    ["/api/auth/2fa/verify", "/api/auth/2fa/enroll", "/api/auth/2fa/confirm",
      "/api/auth/oidc/login", "/api/auth/oidc/callback", "/api/webhooks/github",
      "/api/webhooks/jira", "/api/webhooks/linear"]

def identityEndpoints : List String := ["/api/auth/me", "/api/auth/logout"]

structure AdminRouter where
  route : Method → String → Option AdminRoute

structure AdminRouter.Lawful (router : AdminRouter) : Prop where
  staticFirst : ∀ {method segments route} static, static ∈ adminRoutes →
    .parameter ∉ static.slots → Instance static.slots segments →
    router.route method (pathOf segments) = some route → route.template = static.template

theorem adminRoutes_closed : ∀ route ∈ adminRoutes,
    ((∀ suffix ∈ openSuffixes, mayEnd (segmentsOf suffix.toList) route.slots = true →
        route.slots.length = (segmentsOf suffix.toList).length) ∧
      (∀ piece ∈ openInfixes, mayOccur (segmentsOf piece.toList) route.slots = false) ∧
      ((∀ piece ∈ identityInfixes, mayOccur (segmentsOf piece.toList) route.slots = false) ∨
        route.template ∈ identityEndpoints)) ∨
    route.template ∈ openEndpoints := by
  decide +kernel

theorem openSuffixes_static : ∀ suffix ∈ openSuffixes, ∃ static ∈ adminRoutes,
    static.slots = (segmentsOf suffix.toList).map .literal ∧ static.template ∈ openEndpoints := by
  decide +kernel

/-- A pattern that starts with the segment `api` and goes on. -/
structure UnderApi (pattern : String) : Prop where
  slash : pattern.toList.head? = some '/'
  segments : ∃ next rest, segmentsOf pattern.toList = "api".toList :: next :: rest

theorem patterns_underApi : ∀ pattern ∈ openSuffixes ++ openInfixes ++ identityInfixes,
    UnderApi pattern := by
  have each : ∀ pattern ∈ openSuffixes ++ openInfixes ++ identityInfixes,
      pattern.toList.head? = some '/' ∧
        (segmentsOf pattern.toList).head? = some "api".toList ∧
        (segmentsOf pattern.toList).tail ≠ [] := by decide +kernel
  intro pattern member
  rcases each pattern member with ⟨slash, first, more⟩
  rcases List.head?_eq_some_iff.mp first with ⟨tail, split⟩
  rw [split, List.tail_cons] at more
  rcases List.exists_cons_of_ne_nil more with ⟨next, rest, isTail⟩
  exact ⟨slash, next, rest, by rw [split, isTail]⟩

def mountedPath (mount : String) (segments : List (List Char)) : String :=
  pathOf (segmentsOf (asciiChars mount) ++ segments)

section Mounted

variable {mount pattern : String} {segments : List (List Char)} (mounted : mount ∈ mounts)
  (plain : Plain segments)

include mounted plain

theorem absent_in_mount : "api".toList ∉ segmentsOf (asciiChars mount) ∧
    Plain (segmentsOf (asciiChars mount) ++ segments) := by
  have absent : ∀ mount ∈ mounts, "api".toList ∉ segmentsOf (asciiChars mount) := by decide +kernel
  refine ⟨absent mount mounted, ?_⟩
  intro segment member
  rcases List.mem_append.mp member with inMount | inPath
  · exact plain_segmentsOf _ segment inMount
  · exact plain segment inPath

theorem ends_of_endsWith (api : UnderApi pattern)
    (found : endsWith (mountedPath mount segments) pattern = true) :
    ends (segmentsOf pattern.toList) segments = true := by
  rcases absent_in_mount mounted plain with ⟨absent, allPlain⟩
  rw [mountedPath, endsWith_pathOf allPlain api.slash] at found
  rcases api.segments with ⟨next, rest, split⟩
  rw [split] at found ⊢
  exact ends_of_append absent found

theorem occurs_of_contains (api : UnderApi pattern)
    (found : contains (mountedPath mount segments) pattern = true) :
    occurs (segmentsOf pattern.toList) segments = true := by
  rcases absent_in_mount mounted plain with ⟨absent, allPlain⟩
  rw [mountedPath, contains_pathOf allPlain api.slash] at found
  rcases api.segments with ⟨next, rest, split⟩
  rw [split] at found ⊢
  exact occurs_of_append absent found

end Mounted

section Routed

variable {router : AdminRouter} {route : AdminRoute} {mount : String} {method : Method}
  {segments : List (List Char)}

theorem plain_of_fills (fills : Instance route.slots segments) : Plain segments :=
  @AdminRoute.plain route "" segments fills

theorem not_alwaysOpen (lawful : router.Lawful) (mounted : mount ∈ mounts)
    (registered : route ∈ adminRoutes) (closed : route.template ∉ openEndpoints)
    (fills : Instance route.slots segments)
    (routed : router.route method (pathOf segments) = some route) :
    alwaysOpen (mountedPath mount segments) = false := by
  rcases (adminRoutes_closed route registered).resolve_right closed with ⟨suffixes, pieces, _⟩
  have plain := plain_of_fills fills
  by_contra isOpen
  rw [Bool.not_eq_false, alwaysOpen, Bool.or_eq_true, List.any_eq_true, List.any_eq_true] at isOpen
  rcases isOpen with ⟨suffix, listed, found⟩ | ⟨piece, listed, found⟩
  · have api := patterns_underApi suffix (by simp [listed])
    have ending := ends_of_endsWith mounted plain api found
    have may : mayEnd (segmentsOf suffix.toList) route.slots = true := by
      by_contra never
      rw [fills.not_ends (by simpa using never)] at ending
      contradiction
    -- the values make it the path of a static route, which has priority
    have sameLength : (segmentsOf suffix.toList).length = segments.length := by
      rw [← suffixes suffix listed may, fills.length_eq]
    have same := (suffix_of_ends ending).eq_of_length sameLength
    rcases openSuffixes_static suffix listed with ⟨static, isRoute, slots, isOpen⟩
    have template := lawful.staticFirst static isRoute (by simp [slots])
      (by rw [slots, same]; exact instance_literals segments) routed
    rw [template] at closed
    exact closed isOpen
  · have api := patterns_underApi piece (by simp [listed])
    have occurring := occurs_of_contains mounted plain api found
    rw [fills.not_occurs (pieces piece listed)] at occurring
    contradiction

theorem identityEndpoint_of_identityOnly (mounted : mount ∈ mounts)
    (registered : route ∈ adminRoutes) (closed : route.template ∉ openEndpoints)
    (fills : Instance route.slots segments)
    (identity : identityOnly (mountedPath mount segments) = true) :
    route.template ∈ identityEndpoints := by
  by_contra other
  have never := ((adminRoutes_closed route registered).resolve_right closed).2.2.resolve_right other
  rw [identityOnly, List.any_eq_true] at identity
  rcases identity with ⟨piece, listed, found⟩
  have api := patterns_underApi piece (by simp [listed])
  have occurring := occurs_of_contains mounted (plain_of_fills fills) api found
  rw [fills.not_occurs (never piece listed)] at occurring
  contradiction

/-- With authentication on, the handler of a route that is not open runs only for a
credential that validates and, but for the identity endpoints, has the permission. -/
theorem handler_runs_authorized {manager : AuthManager} {now : DateTime} {store next : AuthStore}
    {request : AdminRequest} {context : Option AuthManager.AuthContext}
    {onSuccess : Option (String × AuditEvent)} (enabled : manager.config.enabled = true)
    (lawful : router.Lawful) (mounted : mount ∈ mounts) (registered : route ∈ adminRoutes)
    (closed : route.template ∉ openEndpoints) (fills : Instance route.slots segments)
    (routed : router.route request.method (pathOf segments) = some route)
    (seen : request.path = mountedPath mount segments)
    (runs : authLayer manager now store request = (.run context onSuccess, next)) :
    ∃ credential caller, request.credential = some credential ∧
      (manager.validate now store credential).1 = some caller ∧
      (route.template ∈ identityEndpoints ∨
        caller.permissions.allows (routePermission request.method request.path) = true) := by
  have shut := not_alwaysOpen lawful mounted registered closed fills routed
  rw [← seen] at shut
  rcases run_of_authLayer enabled shut runs with ⟨credential, caller, presented, valid, how⟩
  refine ⟨credential, caller, presented, valid, how.imp_left ?_⟩
  intro identity
  rw [seen] at identity
  exact identityEndpoint_of_identityOnly mounted registered closed fills identity

end Routed

section Sample

open AuthSample

def keyedManager : AuthManager where
  platform := platform
  config :=
    { (managerOf 5).config with
      apiKeys := [⟨"ci", hexEncode (utf8 "secret"), "admin", "default"⟩] }

def userRoute : AdminRoute := ⟨"/api/users/{username}", viaPut ++ viaDelete⟩

def sampleRouter : AdminRouter where
  route method path :=
    if path = "/api/users/alice" ∧ method ∈ userRoute.methods then some userRoute else none

theorem sampleRouter_lawful : sampleRouter.Lawful where
  staticFirst := by
    intro method segments route static registered noParameter fills routed
    have elsewhere : ∀ static ∈ adminRoutes, .parameter ∉ static.slots →
        pathOf (static.slots.map (Slot.fill [])) ≠ "/api/users/alice" := by decide +kernel
    have same := fills.eq_of_literal (instance_fill List.not_mem_nil static.slots) noParameter
    simp [sampleRouter, same, elsewhere static registered noParameter] at routed

def deleteAlice : AdminRequest := ⟨.delete, "/admin/api/users/alice", none, some "secret", none⟩

/-- Nested under `/admin`, with an API key. -/
theorem delete_alice_authorized :
    ∃ credential caller, deleteAlice.credential = some credential ∧
      (keyedManager.validate ⟨0⟩ (storeOf []) credential).1 = some caller ∧
      (userRoute.template ∈ identityEndpoints ∨
        caller.permissions.allows (routePermission .delete deleteAlice.path) = true) := by
  have fills := instance_fill (show '/' ∉ "alice".toList by decide) userRoute.slots
  exact handler_runs_authorized rfl sampleRouter_lawful (List.mem_cons_of_mem _ List.mem_cons_self)
    (by decide +kernel) (by decide +kernel) fills (by decide +kernel) (by decide +kernel) rfl

end Sample

end QuantaWatch.Gateway
