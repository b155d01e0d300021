import QuantaWatch.Gateway.Overlay
import QuantaWatch.Store.Isolation

/-!
Deleting a target (`delete_target` in
`qw-gateway/src/admin/targets_api.rs`).
-/

namespace QuantaWatch.Gateway

open Lib.SqlTable Store Store.Database

structure Estate where
  tables : Tables
  overlay : OverlayState

namespace Estate

variable (database : Database) (estate : Estate) (tenant id : String)

def routesFor : List OverlayRouteRow :=
  (database.listAllOverlayRoutes estate.tables).filter fun route => route.targetId = some id

/-- `DELETE /api/targets/{id}` by a caller of a tenant. The live routes are dropped by their
ids alone, the persisted ones and the target with the tenant. -/
def deleteTarget : Estate where
  overlay := (estate.routesFor database id).foldl
    (fun overlay route => overlay.removeRoute route.id) estate.overlay
  tables := Database.deleteTarget
    (database.deleteOverlayRoutesForTarget estate.tables tenant id) tenant id

def liveRoutes (tables : Tables) (overlay : OverlayState) : List RouteStats :=
  overlay.routes.filter fun entry =>
    entry.route.id ∈ (tables.rows tenant .overlayRoutes).map fun row => row.id

end Estate

section

variable {database : Database} {estate : Estate} {tenant id other : String}

theorem share_deleteKeyed {tables : Tables} {name changed : TableName}
    {key : changed.Data → String} (differ : other ≠ tenant) :
    (tables.exec changed (deleteKeyed key tenant id)).share other name =
      tables.share other name := by
  apply Tables.share_exec_ne _ differ
  simp +contextual [deleteKeyed, Statement.ConfinedTo]

theorem share_deleteTarget (differ : other ≠ tenant) (name : TableName) :
    (estate.deleteTarget database tenant id).tables.share other name =
      estate.tables.share other name := by
  rw [Estate.deleteTarget, Database.deleteTarget, share_deleteKeyed differ,
    deleteOverlayRoutesForTarget]
  generalize database.listAllOverlayRoutes estate.tables = routes
  generalize estate.tables = tables
  induction routes generalizing tables with
  | nil => rfl
  | cons route routes ih =>
    rw [List.foldl_cons, ih]
    split_ifs
    · exact share_deleteKeyed differ
    · rfl

theorem routes_deleteTarget : (estate.deleteTarget database tenant id).overlay.routes =
      estate.overlay.routes.filter fun entry =>
        entry.route.id ∉ (estate.routesFor database id).map fun route => route.id := by
  simp only [Estate.deleteTarget]
  generalize estate.routesFor database id = routes
  generalize estate.overlay = overlay
  induction routes generalizing overlay with
  | nil => simp
  | cons route routes ih =>
    rw [List.foldl_cons, ih, OverlayState.removeRoute, List.filter_filter]
    apply List.filter_congr
    intro entry _
    rw [List.map_cons, Bool.eq_iff_iff]
    simp only [Bool.and_eq_true, decide_eq_true_eq, List.mem_cons, not_or, ne_eq, and_comm]

theorem liveRoutes_deleteTarget_iff :
    Estate.liveRoutes other estate.tables (estate.deleteTarget database tenant id).overlay =
        Estate.liveRoutes other estate.tables estate.overlay ↔
      ∀ entry ∈ Estate.liveRoutes other estate.tables estate.overlay,
        ∀ route ∈ estate.routesFor database id, route.id ≠ entry.route.id := by
  rw [Estate.liveRoutes, routes_deleteTarget, List.filter_comm, ← Estate.liveRoutes,
    List.filter_eq_self]
  simp

/-- Deleting a target leaves everything of other tenants as it is exactly when no live route
of another tenant has the id of a persisted route, of whichever tenant, for that target. -/
theorem deleteTarget_frame_iff (database : Database) (estate : Estate) (tenant id : String) :
    (∀ other, other ≠ tenant →
        (estate.deleteTarget database tenant id).tables.share other .targets =
            estate.tables.share other .targets ∧
          (estate.deleteTarget database tenant id).tables.share other .overlayRoutes =
            estate.tables.share other .overlayRoutes ∧
          Estate.liveRoutes other estate.tables
              (estate.deleteTarget database tenant id).overlay =
            Estate.liveRoutes other estate.tables estate.overlay) ↔
      ∀ other, other ≠ tenant →
        ∀ entry ∈ Estate.liveRoutes other estate.tables estate.overlay,
          ∀ route ∈ estate.routesFor database id, route.id ≠ entry.route.id := by
  constructor
  · intro frame other differ
    exact liveRoutes_deleteTarget_iff.mp (frame other differ).2.2
  · intro separate other differ
    exact ⟨share_deleteTarget differ _, share_deleteTarget differ _,
      liveRoutes_deleteTarget_iff.mpr (separate other differ)⟩

end

namespace SampleEstate

def acmeEstate : Estate where
  tables := (sampleDatabase .sqlite).recordOverlayRoute .empty "acme"
    { id := "target:t1:443", fields := "", targetId := some "t1" }
  overlay := (OverlayState.disabled 0).addRoute
    ⟨"target:t1:443", "0.0.0.0:0", "10.0.0.5:443", true, "hybrid"⟩ (.bound "0.0.0.0:4001")

theorem rival_drops_live_route :
    (Estate.liveRoutes "acme" acmeEstate.tables acmeEstate.overlay).length = 1 ∧
      Estate.liveRoutes "acme" acmeEstate.tables
        (acmeEstate.deleteTarget (sampleDatabase .sqlite) "rival" "t1").overlay = [] := by
  decide +kernel

end SampleEstate

end QuantaWatch.Gateway
