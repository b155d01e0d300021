import QuantaWatch.Gateway.Rbac

/-!
The routes of the admin API (`admin_routes` in
`qw-gateway/src/router.rs`) and the permissions of their paths.
-/

namespace QuantaWatch.Gateway

open Lib.PathText

structure AdminRoute where
  template : String
  methods : List Method
deriving DecidableEq

def viaGet : List Method := [.get, .head]

def viaPost : List Method := [.post]

def viaPut : List Method := [.put]

def viaDelete : List Method := [.delete]

def adminRoutes : List AdminRoute :=
  [⟨"/api/health", viaGet⟩, ⟨"/metrics", viaGet⟩, ⟨"/api/auth/login", viaPost⟩,
    ⟨"/api/auth/status", viaGet⟩, ⟨"/api/auth/setup", viaPost⟩, ⟨"/api/auth/2fa/verify", viaPost⟩,
    ⟨"/api/auth/2fa/enroll", viaPost⟩, ⟨"/api/auth/2fa/confirm", viaPost⟩,
    ⟨"/api/auth/logout", viaPost⟩, ⟨"/api/auth/me", viaGet⟩, ⟨"/api/auth/config", viaGet⟩,
    ⟨"/api/auth/oidc/login", viaGet⟩, ⟨"/api/auth/oidc/callback", viaGet⟩, ⟨"/api/tenants", viaGet⟩,
    ⟨"/api/sessions", viaGet⟩, ⟨"/api/sessions/{id}", viaGet⟩, ⟨"/api/onboarding/scan", viaPost⟩,
    ⟨"/api/onboarding/seed-demo", viaPost⟩, ⟨"/api/audit", viaGet⟩, ⟨"/api/audit/export", viaGet⟩,
    ⟨"/api/audit/verify", viaPost⟩, ⟨"/api/config", viaGet⟩, ⟨"/api/settings", viaGet ++ viaPut⟩,
    ⟨"/api/stats", viaGet⟩, ⟨"/api/threats", viaGet⟩, ⟨"/api/agents", viaGet⟩,
    ⟨"/api/attack-paths", viaGet⟩, ⟨"/api/attack-paths/simulate", viaPost⟩,
    ⟨"/api/attack-paths/timeline", viaGet⟩, ⟨"/api/attack-paths/{id}/remediate", viaPost⟩,
    ⟨"/api/assets", viaGet ++ viaPost⟩, ⟨"/api/assets/sync", viaPost⟩,
    ⟨"/api/report/board", viaGet⟩, ⟨"/api/evidence", viaGet⟩, ⟨"/api/slos", viaGet⟩,
    ⟨"/api/slos/history", viaGet⟩, ⟨"/api/governance", viaGet⟩, ⟨"/api/governance/history", viaGet⟩,
    ⟨"/api/compliance", viaGet⟩, ⟨"/api/compliance/report", viaGet⟩, ⟨"/api/soc2", viaGet⟩,
    ⟨"/api/rbac", viaGet⟩, ⟨"/api/users", viaGet ++ viaPost⟩,
    ⟨"/api/users/{username}", viaPut ++ viaDelete⟩, ⟨"/api/frameworks", viaGet⟩,
    ⟨"/api/frameworks/{id}", viaGet⟩, ⟨"/api/alerts", viaGet⟩, ⟨"/api/alerts/test", viaPost⟩,
    ⟨"/api/posture", viaGet⟩, ⟨"/api/posture/history", viaGet⟩, ⟨"/api/cbom", viaGet⟩,
    ⟨"/api/cbom/attestation", viaGet⟩, ⟨"/api/cbom/download", viaGet⟩,
    ⟨"/api/cbom/components", viaGet⟩, ⟨"/api/cbom/services", viaGet⟩, ⟨"/api/scans", viaGet⟩,
    ⟨"/api/scans", viaPost⟩, ⟨"/api/scans/{id}", viaGet⟩, ⟨"/api/findings", viaGet⟩,
    ⟨"/api/integrations", viaGet⟩, ⟨"/api/integrations/{id}/test", viaPost⟩,
    ⟨"/api/integrations/{id}/sync", viaPost⟩, ⟨"/api/integrations/{id}/scan", viaPost⟩,
    ⟨"/api/integrations/{id}/register-webhook", viaPost⟩, ⟨"/api/findings/{id}/remediate", viaPost⟩,
    ⟨"/api/findings/{id}/plan", viaGet⟩, ⟨"/api/findings/{id}/verify", viaPost⟩,
    ⟨"/api/findings/{id}/apply-fix", viaPost⟩, ⟨"/api/findings/{id}/status", viaPost⟩,
    ⟨"/api/remediations/plans", viaGet⟩, ⟨"/api/risk", viaGet⟩, ⟨"/api/overlay", viaGet⟩,
    ⟨"/api/connectors", viaGet⟩, ⟨"/api/ct/scan", viaPost⟩, ⟨"/api/k8s/admission", viaPost⟩,
    ⟨"/api/endpoints", viaGet⟩, ⟨"/api/endpoints/enroll", viaGet⟩,
    ⟨"/api/endpoints/report", viaPost⟩, ⟨"/api/endpoints/agent.ps1", viaGet⟩,
    ⟨"/api/endpoints/agent.sh", viaGet⟩, ⟨"/api/endpoints/{id}", viaDelete⟩,
    ⟨"/api/connections", viaGet ++ viaPost⟩, ⟨"/api/connections/{id}", viaDelete⟩,
    ⟨"/api/connections/{id}/test", viaPost⟩, ⟨"/api/connections/{id}/scan", viaPost⟩,
    ⟨"/api/targets", viaGet ++ viaPost⟩, ⟨"/api/targets/{id}", viaGet ++ viaDelete⟩,
    ⟨"/api/targets/{id}/scan", viaPost⟩, ⟨"/api/targets/{id}/deep-scan", viaPost⟩,
    ⟨"/api/targets/{id}/services/{port}/protect", viaPost⟩,
    ⟨"/api/targets/{id}/services/{port}/issue-cert", viaPost⟩, ⟨"/api/pki/ca", viaGet⟩,
    ⟨"/api/pki/issue", viaPost⟩, ⟨"/api/pki/verify", viaPost⟩, ⟨"/api/pki/certificates", viaGet⟩,
    ⟨"/api/pki/certificates/{id}", viaGet⟩, ⟨"/api/pki/certificates/{id}/renew", viaPost⟩,
    ⟨"/api/pki/certificates/{id}/revoke", viaPost⟩, ⟨"/api/crypto-policies", viaGet⟩,
    ⟨"/api/crypto-policies/evaluate", viaPost⟩, ⟨"/api/crypto-policies/{id}", viaGet⟩,
    ⟨"/api/crypto-policies/{id}/enforce", viaPost⟩, ⟨"/api/remediations", viaGet⟩,
    ⟨"/api/remediations/sync", viaPost⟩, ⟨"/api/webhooks/github", viaPost⟩,
    ⟨"/api/webhooks/jira", viaPost⟩, ⟨"/api/webhooks/linear", viaPost⟩]

def slotOf (segment : List Char) : Slot :=
  if segment.head? = some '\x7b' then .parameter else .literal segment

def asciiChars (text : String) : List Char :=
  text.toByteArray.data.toList.map fun byte => Char.ofNat byte.toNat

def AdminRoute.slots (route : AdminRoute) : List Slot :=
  (segmentsOf (asciiChars route.template)).map slotOf

/-- The admin API is served at the root, and nested under `/admin`. -/
def mounts : List String := ["", "/admin"]

def AdminRoute.under (route : AdminRoute) (mount : String) : List Slot :=
  (segmentsOf (asciiChars mount)).map .literal ++ route.slots

variable {route : AdminRoute} {mount : String} {segments : List (List Char)} {slots : List Slot}

theorem AdminRoute.literal_plain {text : List Char} (literal : .literal text ∈ route.under mount) :
    '/' ∉ text := by
  rcases List.mem_append.mp literal with inMount | inRoute
  · obtain ⟨segment, member, equal⟩ := List.mem_map.mp inMount
    obtain rfl := Slot.literal.inj equal
    exact plain_segmentsOf _ segment member
  · obtain ⟨segment, member, equal⟩ := List.mem_map.mp inRoute
    unfold slotOf at equal
    split_ifs at equal
    obtain rfl := Slot.literal.inj equal
    exact plain_segmentsOf _ segment member

theorem AdminRoute.plain (fills : Instance (route.under mount) segments) : Plain segments :=
  fills.plain fun _ literal => route.literal_plain literal

def AdminRoute.OnePermission (route : AdminRoute) (mount : String) (method : Method) : Prop :=
  ∀ segments others, Instance (route.under mount) segments → Instance (route.under mount) others →
    [] ∉ segments → [] ∉ others →
      routePermission method (pathOf segments) = routePermission method (pathOf others)

abbrev AdminRoute.remediates (route : AdminRoute) : Prop :=
  .literal (asciiChars "remediate") ∈ route.slots

theorem adminRoutes_permissions : ∀ mount ∈ mounts, ∀ route ∈ adminRoutes,
    .literal [] ∉ route.under mount ∧
      (route.remediates →
        mayOccur (segmentsOf "/api/config".toList) (route.under mount) = false ∧
          mayOccur (segmentsOf "/api/audit".toList) (route.under mount) = false ∧
          mustOccur (segmentsOf "/remediate".toList) (route.under mount) = true) ∧
      (.parameter ∈ route.slots → ¬ route.remediates → ∀ method ∈ route.methods,
        ∃ value ∈ ["remediate".toList, "plan".toList],
          segmentPermission method ((route.under mount).map (Slot.fill "x".toList)) ≠
            segmentPermission method ((route.under mount).map (Slot.fill value))) := by
  decide +kernel

theorem routePermission_of_remediate (fills : Instance slots segments) (plain : Plain segments)
    (noConfig : mayOccur (segmentsOf "/api/config".toList) slots = false)
    (noAudit : mayOccur (segmentsOf "/api/audit".toList) slots = false)
    (always : mustOccur (segmentsOf "/remediate".toList) slots = true) (method : Method) :
    routePermission method (pathOf segments) = "remediation:write" := by
  rw [routePermission_pathOf plain, segmentPermission, permissionBy, fills.not_occurs noConfig,
    fills.not_occurs noAudit, fills.occurs_of_must always]
  rfl

theorem fill_not_empty {value : List Char} (noEmpty : .literal [] ∉ slots) (notEmpty : value ≠ []) :
    [] ∉ slots.map (Slot.fill value) := by
  intro member
  obtain ⟨slot, isSlot, empty⟩ := List.mem_map.mp member
  cases slot with
  | literal text => exact noEmpty ((show text = [] from empty) ▸ isSlot)
  | parameter => exact notEmpty empty

/-- The permission of a template does not depend on its parameters exactly when
it has none, or is for a remediation. -/
theorem onePermission_iff {mount : String} (mounted : mount ∈ mounts) {route : AdminRoute}
    (registered : route ∈ adminRoutes) {method : Method} (served : method ∈ route.methods) :
    route.OnePermission mount method ↔ .parameter ∉ route.slots ∨ route.remediates := by
  obtain ⟨noEmpty, remediation, differs⟩ :=
    adminRoutes_permissions mount mounted route registered
  constructor
  · intro one
    by_contra condition
    obtain ⟨parameter, other⟩ := not_or.mp condition
    obtain ⟨value, isValue, different⟩ := differs (not_not.mp parameter) other method served
    have plain : ∀ value ∈ ["remediate".toList, "plan".toList], '/' ∉ value ∧ value ≠ [] := by
      decide
    obtain ⟨valuePlain, notEmpty⟩ := plain value isValue
    have fills := instance_fill (show '/' ∉ "x".toList by decide) (route.under mount)
    have otherFills := instance_fill valuePlain (route.under mount)
    have same := one _ _ fills otherFills (fill_not_empty noEmpty (by decide))
      (fill_not_empty noEmpty notEmpty)
    rw [routePermission_pathOf (route.plain fills), routePermission_pathOf (route.plain otherFills)]
      at same
    exact different same
  · intro condition segments others fills otherFills _ _
    rcases condition with noParameter | isRemediation
    · have noParameter : .parameter ∉ route.under mount := by
        intro member
        rcases List.mem_append.mp member with inMount | inRoute
        · obtain ⟨_, -, isLiteral⟩ := List.mem_map.mp inMount
          cases isLiteral
        · exact noParameter inRoute
      rw [fills.eq_of_literal otherFills noParameter]
    · obtain ⟨noConfig, noAudit, always⟩ := remediation isRemediation
      rw [routePermission_of_remediate fills (route.plain fills) noConfig noAudit always,
        routePermission_of_remediate otherFills (route.plain otherFills) noConfig noAudit always]

theorem remediate_finding_onePermission :
    AdminRoute.OnePermission ⟨"/api/findings/{id}/remediate", viaPost⟩ "" .post :=
  (onePermission_iff (by decide) (by decide +kernel) (by decide)).mpr (Or.inr (by decide +kernel))

/-- The user `metrics` can be deleted with the permission to read metrics. -/
theorem delete_user_permission :
    routePermission .delete "/api/users/alice" = "config:write" ∧
      routePermission .delete "/api/users/metrics" = "metrics:read" ∧
      ¬ AdminRoute.OnePermission ⟨"/api/users/{username}", viaPut ++ viaDelete⟩ "" .delete := by
  have alice : routePermission .delete "/api/users/alice" = "config:write" := by decide +kernel
  have metrics : routePermission .delete "/api/users/metrics" = "metrics:read" := by decide +kernel
  refine ⟨alice, metrics, ?_⟩
  intro one
  have same := one _ _ (instance_fill (show '/' ∉ "alice".toList by decide) _)
    (instance_fill (show '/' ∉ "metrics".toList by decide) _)
    (by decide +kernel) (by decide +kernel)
  exact absurd (alice.symm.trans (same.trans metrics)) (by decide)

end QuantaWatch.Gateway
