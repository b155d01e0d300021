import QuantaWatch.Lib.Text
import QuantaWatch.Store.Findings

/-!
Resources of cloud connectors in the asset inventory (`qw-gateway/src/cloud.rs`,
`sync_assets` of `assets.rs`).
-/

namespace QuantaWatch.Gateway

open Lib.Text Store

inductive CloudKind where
  | k8sTls | k8sIngress | gcpKms | awsKms | awsAcm | awsPca
deriving DecidableEq

/-- How the ids of a kind begin. -/
def CloudKind.front : CloudKind → String
  | k8sTls => "k8s-tls-"
  | k8sIngress => "k8s-ingress-"
  | gcpKms => "gcp-kms-"
  | awsKms => "aws-kms-"
  | awsAcm => "aws-acm-"
  | awsPca => "aws-pca-"

inductive CloudResource where
  | tlsSecret (ns name : String)
  | ingressHost (host : String)
  | gcpKey (name : String)
  | awsKey (arn keyId : String)
  | acmCertificate (arn domain : String)
  | privateCa (arn : String)

namespace CloudResource

def kind : CloudResource → CloudKind
  | tlsSecret .. => .k8sTls
  | ingressHost _ => .k8sIngress
  | gcpKey _ => .gcpKms
  | awsKey .. => .awsKms
  | acmCertificate .. => .awsAcm
  | privateCa _ => .awsPca

/-- What an id has of the resource: joined, cut to its last segment, or a name that is not the
identity. -/
def shortName : CloudResource → String
  | tlsSecret ns name => replaceChars (· = '/') "-" (ns ++ "/" ++ name)
  | ingressHost host => host
  | gcpKey name => String.ofList (lastPiece name "/")
  | awsKey _ keyId => keyId
  | acmCertificate _ domain => domain
  | privateCa arn => String.ofList (lastPiece arn "/")

def rowId (resource : CloudResource) : String := resource.kind.front ++ resource.shortName

/-- What the provider tells resources of one kind apart by. -/
def identity : CloudResource → String × String
  | tlsSecret ns name => (ns, name)
  | ingressHost host => (host, "")
  | gcpKey name => (name, "")
  | awsKey arn _ => (arn, "")
  | acmCertificate arn _ => (arn, "")
  | privateCa arn => (arn, "")

def Different (left right : CloudResource) : Prop :=
  left.kind ≠ right.kind ∨ left.identity ≠ right.identity

theorem rowId_eq_iff (left right : CloudResource) :
    left.rowId = right.rowId ↔ left.kind = right.kind ∧ left.shortName = right.shortName := by
  constructor
  · intro same
    -- The first eight characters of an id tell the kind.
    have begins (resource : CloudResource) :
        resource.rowId.toList.take 8 = resource.kind.front.toList.take 8 := by
      rw [rowId, String.toList_append, List.take_append_of_le_length]
      cases resource.kind <;> decide
    have kinds : left.kind = right.kind := by
      have fronts := (begins left).symm.trans ((congrArg (·.toList.take 8) same).trans
        (begins right))
      revert fronts
      cases left.kind <;> cases right.kind <;> decide
    refine ⟨kinds, ?_⟩
    rw [rowId, rowId, kinds, ← String.toList_inj, String.toList_append, String.toList_append,
      List.append_cancel_left_eq, String.toList_inj] at same
    exact same
  · rintro ⟨kinds, names⟩
    rw [rowId, rowId, kinds, names]

end CloudResource

section Sync

variable (database : Database) (tenant : String) (fields : CloudResource → String)

/-- The last loop of `sync_assets`; scans change other fields of a row only. -/
def syncAssets (tables : Tables) (resources : List CloudResource) : Tables :=
  resources.foldl (fun tables resource =>
    database.upsertAsset tables tenant ⟨resource.rowId, fields resource⟩) tables

/-- Two rows of the tenant, one for each resource. -/
def StoredApart (tables : Tables) (left right : CloudResource) : Prop :=
  ∃ leftRow ∈ tables.rows tenant .assets, ∃ rightRow ∈ tables.rows tenant .assets,
    leftRow.id = left.rowId ∧ rightRow.id = right.rowId ∧ leftRow.id ≠ rightRow.id

variable {database tenant fields} {tables : Tables} {asset : Document} {id : String}

theorem mem_rows_upsertAsset {row : Document} :
    row ∈ (database.upsertAsset tables tenant asset).rows tenant .assets ↔
      row = asset ∨ row ∈ tables.rows tenant .assets ∧ row.id ≠ asset.id :=
  Tables.mem_rows_putKeyed

theorem id_kept (stored : ∃ row ∈ tables.rows tenant .assets, row.id = id) :
    ∃ row ∈ (database.upsertAsset tables tenant asset).rows tenant .assets, row.id = id := by
  obtain ⟨row, member, rfl⟩ := stored
  by_cases same : row.id = asset.id
  · exact ⟨asset, mem_rows_upsertAsset.mpr (.inl rfl), same.symm⟩
  · exact ⟨row, mem_rows_upsertAsset.mpr (.inr ⟨member, same⟩), rfl⟩

theorem stored_syncAssets {resources : List CloudResource}
    (known : (∃ row ∈ tables.rows tenant .assets, row.id = id) ∨
      ∃ resource ∈ resources, resource.rowId = id) :
    ∃ row ∈ (syncAssets database tenant fields tables resources).rows tenant .assets,
      row.id = id := by
  induction resources generalizing tables with
  | nil => exact known.resolve_right (by simp)
  | cons first resources ih =>
    rw [syncAssets, List.foldl_cons]
    apply ih
    rcases known with stored | ⟨resource, member, rfl⟩
    · exact .inl (id_kept stored)
    · rcases List.mem_cons.mp member with rfl | later
      · exact .inl ⟨_, mem_rows_upsertAsset.mpr (.inl rfl), rfl⟩
      · exact .inr ⟨resource, later, rfl⟩

/-- Different resources have rows of their own exactly when none shares kind and short name with
another. -/
theorem stored_apart_iff (tables : Tables) (resources : List CloudResource) :
    (∀ left ∈ resources, ∀ right ∈ resources, left.Different right →
        StoredApart tenant (syncAssets database tenant fields tables resources) left right) ↔
      ∀ left ∈ resources, ∀ right ∈ resources, left.Different right →
        ¬ (left.kind = right.kind ∧ left.shortName = right.shortName) := by
  refine forall₂_congr fun left isLeft => forall₂_congr fun right isRight => imp_congr_right
    fun _ => ?_
  rw [← CloudResource.rowId_eq_iff]
  constructor
  · rintro ⟨leftRow, -, rightRow, -, leftId, rightId, apart⟩ same
    exact apart (leftId.trans (same.trans rightId.symm))
  · intro apart
    have stored (resource : CloudResource) (member : resource ∈ resources) :
        ∃ row ∈ (syncAssets database tenant fields tables resources).rows tenant .assets,
          row.id = resource.rowId := stored_syncAssets (.inr ⟨resource, member, rfl⟩)
    obtain ⟨leftRow, leftMember, leftId⟩ := stored left isLeft
    obtain ⟨rightRow, rightMember, rightId⟩ := stored right isRight
    exact ⟨leftRow, leftMember, rightRow, rightMember, leftId, rightId,
      fun same => apart (leftId.symm.trans (same.trans rightId))⟩

end Sync

def mergedPairs : List (CloudResource × CloudResource) :=
  [(.tlsSecret "a-b" "c", .tlsSecret "a" "b-c"),
    (.gcpKey "projects/p/keyRings/x/cryptoKeys/k", .gcpKey "projects/p/keyRings/y/cryptoKeys/k"),
    (.acmCertificate "arn:aws:acm:1" "example.com", .acmCertificate "arn:aws:acm:2" "example.com")]

/-- Two secrets, two keys in different rings and two certificates of one domain share a row. -/
theorem resources_merged :
    mergedPairs.length = 3 ∧ ∀ pair ∈ mergedPairs, pair.1.Different pair.2 ∧
      ¬ StoredApart "acme" (syncAssets (Database.sampleDatabase .sqlite) "acme" (fun _ => "") .empty
        [pair.1, pair.2]) pair.1 pair.2 := by
  refine ⟨rfl, fun pair member => ⟨.inr ?_, ?_⟩⟩
  · revert pair
    decide
  · have same : pair.1.rowId = pair.2.rowId := by
      revert pair
      decide +kernel
    rintro ⟨leftRow, -, rightRow, -, leftId, rightId, apart⟩
    exact apart (leftId.trans (same.trans rightId.symm))

end QuantaWatch.Gateway
