import QuantaWatch.Lib.PathText

/-!
Permissions (`qw-gateway/src/rbac.rs`).
-/

namespace QuantaWatch.Gateway

open Lib.PathText

/-- Resources covered by the read and write bundles; `config` is not. -/
def rbacResources : List String :=
  ["scans", "findings", "posture", "cbom", "compliance", "soc2", "frameworks", "rbac",
    "governance", "crypto-policies", "overlay", "pki", "connectors", "connections", "endpoints",
    "targets", "slos", "alerts", "integrations", "remediation", "assets", "audit", "sessions",
    "threats", "agents", "attack_paths", "report", "evidence", "metrics", "tenants", "onboarding",
    "risk", "stats"]

/-- Resource and action of a permission; without a colon the action is `*`. -/
def splitPermission (permission : String) : String × String :=
  let chars := permission.toList
  if chars.contains ':' then
    (String.ofList (chars.takeWhile (· ≠ ':')), String.ofList ((chars.dropWhile (· ≠ ':')).drop 1))
  else (permission, "*")

structure PermissionSet where
  patterns : List String

def PermissionSet.allows (permissions : PermissionSet) (needed : String) : Bool :=
  let (neededResource, neededAction) := splitPermission needed
  permissions.patterns.any fun pattern =>
    let (resource, action) := splitPermission pattern
    (resource == "*" || resource == neededResource) && (action == "*" || action == neededAction)

def builtinRolePermissions (roleName : String) : Option PermissionSet :=
  let reads := rbacResources.map (· ++ ":read")
  let writes := rbacResources.map (· ++ ":write")
  match roleName with
  | "viewer" => some ⟨reads⟩
  | "auditor" => some ⟨reads⟩
  | "operator" => some ⟨reads ++ writes⟩
  | "admin" => some ⟨["*"]⟩
  | _ => none

abbrev RoleTable := AList fun _ : String => PermissionSet

def resolveRoles (lowercase : String → String) (custom : List (String × List String)) : RoleTable :=
  let builtin := ["viewer", "auditor", "operator", "admin"].foldl (fun table name =>
    match builtinRolePermissions (lowercase name) with
    | some permissions => table.insert name permissions
    | none => table) (∅ : RoleTable)
  custom.foldl (fun table role => table.insert (lowercase role.1) ⟨role.2⟩) builtin

inductive Method where
  | get
  | head
  | options
  | post
  | put
  | delete
  | patch
  | trace
  | connect
  | extension (name : String)
deriving DecidableEq

def Method.writes : Method → Bool
  | get => false
  | head => false
  | options => false
  | _ => true

def contains (text pattern : String) : Bool := decide (pattern.toList <:+: text.toList)

def endsWith (text pattern : String) : Bool := pattern.toList.isSuffixOf text.toList

/-- The first path segment after `/api/`. -/
def segmentAfterApi (path : String) : String :=
  (((secondPiece "/api/".toList path.toList).map (List.takeWhile (· ≠ '/'))).map
    String.ofList).getD ""

/-- The resource of a path that no other rule covers; an unknown one is
`config`, for admins only. -/
def resourceOf (segment : String) : String :=
  if segment = "attack-paths" then "attack_paths"
  else if segment ∈ rbacResources then segment
  else "config"

/-- The rules for a path, given what it contains, how it ends and its segment
after `/api/`. -/
def permissionBy (has endsIn : String → Bool) (afterApi : String) (method : Method) : String :=
  let act := if method.writes then "write" else "read"
  if has "/api/config" then "config:" ++ act
  else if has "/api/audit" then "audit:read"
  else if has "/remediate" then "remediation:write"
  else if has "/findings/" && has "/plan" then "remediation:read"
  else if has "/findings/" && has "/verify" then "scans:write"
  else if has "/findings/" && has "/apply-fix" then "remediation:write"
  else if has "/findings/" && has "/status" then "findings:write"
  else if has "/api/ct/" then "scans:write"
  else if has "/api/remediations" then "remediation:" ++ act
  else if has "/attack-paths/simulate" then "attack_paths:read"
  else if has "/api/findings" then "findings:read"
  else if endsIn "/metrics" then "metrics:read"
  else resourceOf afterApi ++ ":" ++ act

def routePermission (method : Method) (path : String) : String :=
  permissionBy (contains path) (endsWith path) (segmentAfterApi path) method

def pathOf (segments : List (List Char)) : String := String.ofList (render segments)

section Segments

variable {segments : List (List Char)} (plain : Plain segments)

include plain

theorem contains_pathOf {pattern : String} (slash : pattern.toList.head? = some '/') :
    contains (pathOf segments) pattern = occurs (segmentsOf pattern.toList) segments := by
  obtain ⟨rest, isPattern⟩ := List.head?_eq_some_iff.mp slash
  rw [Bool.eq_iff_iff, contains, pathOf, decide_eq_true_iff, String.toList_ofList, isPattern]
  exact infix_iff_occurs plain

theorem endsWith_pathOf {pattern : String} (slash : pattern.toList.head? = some '/') :
    endsWith (pathOf segments) pattern = ends (segmentsOf pattern.toList) segments := by
  obtain ⟨rest, isPattern⟩ := List.head?_eq_some_iff.mp slash
  rw [Bool.eq_iff_iff, endsWith, pathOf, List.isSuffixOf_iff_suffix, String.toList_ofList,
    isPattern]
  exact suffix_iff_ends plain

theorem segmentAfterApi_pathOf : segmentAfterApi (pathOf segments) =
      ((segmentAfter "api".toList segments).map String.ofList).getD "" := by
  have pattern : "/api/".toList = render ["api".toList, []] := rfl
  have text : (pathOf segments).toList = render segments := String.toList_ofList
  rw [segmentAfterApi, pattern, text, secondPiece_render (by decide) plain]

end Segments

def segmentPermission (method : Method) (segments : List (List Char)) : String :=
  permissionBy (fun pattern => occurs (segmentsOf pattern.toList) segments)
    (fun pattern => ends (segmentsOf pattern.toList) segments)
    (((segmentAfter "api".toList segments).map String.ofList).getD "") method

theorem routePermission_pathOf {segments : List (List Char)} (plain : Plain segments)
    (method : Method) :
    routePermission method (pathOf segments) = segmentPermission method segments := by
  -- every pattern of the rules has a slash in front
  have has (pattern : String) (slash : pattern.toList.head? = some '/') :=
    contains_pathOf plain slash
  rw [routePermission, segmentPermission, permissionBy, permissionBy,
    segmentAfterApi_pathOf plain, endsWith_pathOf plain rfl]
  rw [has "/api/config" rfl, has "/api/audit" rfl, has "/remediate" rfl, has "/findings/" rfl,
    has "/plan" rfl, has "/verify" rfl, has "/apply-fix" rfl, has "/status" rfl,
    has "/api/ct/" rfl, has "/api/remediations" rfl, has "/attack-paths/simulate" rfl,
    has "/api/findings" rfl]

end QuantaWatch.Gateway
