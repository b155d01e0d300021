import QuantaWatch.Cbom.Remediation

/-!
What a finding means to the business (`qw-cbom/src/business.rs` and
`business_context_for` in `qw-gateway/src/admin/remediation.rs`).
-/

namespace QuantaWatch.Gateway

open Cbom Lib Lib.Text Scanner

inductive Criticality where
  | critical
  | high
  | medium
  | low
  | unknown
deriving DecidableEq

def Criticality.parse (case : CaseMapping) (text : String) : Criticality :=
  match case.toLowercase (trim text) with
  | "critical" => .critical
  | "crit" => .critical
  | "tier0" => .critical
  | "tier-0" => .critical
  | "high" => .high
  | "important" => .high
  | "tier1" => .high
  | "tier-1" => .high
  | "medium" => .medium
  | "moderate" => .medium
  | "tier2" => .medium
  | "tier-2" => .medium
  | "low" => .low
  | "minor" => .low
  | "sandbox" => .low
  | "dev" => .low
  | "test" => .low
  | _ => .unknown

structure BusinessContext where
  application : Option String
  criticality : Criticality
  owner : Option String
  environment : Option String
  dataClassification : Option String
deriving DecidableEq

/-- `BusinessContext::default` -/
def BusinessContext.unmapped : BusinessContext := ⟨none, .unknown, none, none, none⟩

/-- The fields of `AssetConfig` that an attribution reads. -/
structure AssetConfig where
  address : String
  environment : String
  application : Option String
  criticality : Option String
  owner : Option String
  dataClassification : Option String

def authorityOf (address : String) : List Char :=
  (lastPiece address "://").takeWhile (· ≠ '/')

def hostOf (address : String) : List Char := (authorityOf address).takeWhile (· ≠ ':')

section Attribution

variable (case : CaseMapping)

def AssetConfig.context (asset : AssetConfig) : BusinessContext where
  application := asset.application
  criticality := (asset.criticality.map (Criticality.parse case)).getD .unknown
  owner := asset.owner
  environment := some asset.environment
  dataClassification := asset.dataClassification

def AssetConfig.matched (location : String) (asset : AssetConfig) : Bool :=
  asset.address = location ∨ hostOf asset.address ≠ [] ∧ hostOf asset.address = hostOf location

def businessContextFor (assets : List AssetConfig) (location : String) : BusinessContext :=
  match assets.find? (AssetConfig.matched location) with
  | some asset => asset.context case
  | none => .unmapped

end Attribution

def beforePort : Bool → List Char → List Char
  | _, [] => []
  | true, char :: rest => char :: beforePort (char ≠ ']') rest
  | false, char :: rest => if char = ':' then [] else char :: beforePort false rest

/-- The host, of which brackets are a part: `[2001:db8::1]:443` is on `[2001:db8::1]`. -/
def exactHost (address : String) : List Char :=
  beforePort ((authorityOf address).head? = some '[') (authorityOf address)

def SameHost (address location : String) : Prop :=
  exactHost address ≠ [] ∧ exactHost address = exactHost location

instance (address location : String) : Decidable (SameHost address location) :=
  inferInstanceAs (Decidable (_ ∧ _))

theorem takeWhile_beforePort (bracketed : Bool) (text : List Char) :
    (beforePort bracketed text).takeWhile (· ≠ ':') = text.takeWhile (· ≠ ':') := by
  induction text generalizing bracketed with
  | nil => cases bracketed <;> rfl
  | cons char rest ih =>
    cases bracketed with
    | true =>
      rw [beforePort, List.takeWhile_cons, List.takeWhile_cons, ih]
    | false =>
      rw [beforePort]
      split_ifs with isColon
      · simp [isColon]
      · rw [List.takeWhile_cons, List.takeWhile_cons, ih]

theorem hostOf_eq (address : String) : hostOf address = (exactHost address).takeWhile (· ≠ ':') :=
  (takeWhile_beforePort _ _).symm

theorem hostOf_ne_nil {address : String} (nonempty : exactHost address ≠ []) :
    hostOf address ≠ [] := by
  rw [exactHost] at nonempty
  rw [hostOf]
  cases authority : authorityOf address with
  | nil => simp [authority, beforePort] at nonempty
  | cons char rest =>
    have notColon : char ≠ ':' := by
      rintro rfl
      simp [authority, beforePort] at nonempty
    simp [notColon]

theorem matched_of_sameHost {asset : AssetConfig} {location : String}
    (same : SameHost asset.address location) : asset.matched location = true := by
  have hosts : hostOf asset.address = hostOf location := by
    rw [hostOf_eq, hostOf_eq, same.2]
  simp [AssetConfig.matched, hosts, hosts ▸ hostOf_ne_nil same.1]

structure Attributed (case : CaseMapping) (assets : List AssetConfig) (location : String) :
    Prop where
  exact : ∀ asset ∈ assets, asset.address = location →
    businessContextFor case assets location = asset.context case
  sameHost : (∀ asset ∈ assets, asset.address ≠ location) →
    (∃ asset ∈ assets, SameHost asset.address location) →
    ∃ asset ∈ assets, SameHost asset.address location ∧
      businessContextFor case assets location = asset.context case
  unmapped : (∀ asset ∈ assets, asset.address ≠ location ∧ ¬SameHost asset.address location) →
    businessContextFor case assets location = .unmapped

def HostAgrees (case : CaseMapping) (assets : List AssetConfig) (location : String) : Prop :=
  ∀ left ∈ assets, ∀ right ∈ assets, SameHost left.address location →
    SameHost right.address location → left.context case = right.context case

def AttributedInEveryOrder (case : CaseMapping) (assets : List AssetConfig) (location : String) :
    Prop :=
  ∀ order, order.Perm assets → Attributed case order location ∧
    (HostAgrees case assets location →
      businessContextFor case order location = businessContextFor case assets location)

structure Unmistaken (case : CaseMapping) (assets : List AssetConfig) (location : String) :
    Prop where
  exact : ∀ asset ∈ assets, asset.matched location = true → ∀ owner ∈ assets,
    owner.address = location → asset.context case = owner.context case
  sameHost : (∀ asset ∈ assets, asset.address ≠ location) → ∀ asset ∈ assets,
    asset.matched location = true →
    ∃ other ∈ assets, SameHost other.address location ∧ asset.context case = other.context case

section Proofs

variable {case : CaseMapping} {assets order : List AssetConfig} {location : String}

theorem businessContextFor_cases (case : CaseMapping) (assets : List AssetConfig)
    (location : String) : (∃ asset ∈ assets, asset.matched location = true ∧
        businessContextFor case assets location = asset.context case) ∨
      (∀ asset ∈ assets, asset.matched location = false) ∧
        businessContextFor case assets location = .unmapped := by
  rw [businessContextFor]
  cases found : assets.find? (AssetConfig.matched location) with
  | some asset =>
    exact .inl ⟨asset, List.mem_of_find?_eq_some found, List.find?_some found, rfl⟩
  | none =>
    refine .inr ⟨fun asset member => ?_, rfl⟩
    simpa using List.find?_eq_none.mp found asset member

theorem Unmistaken.perm (unmistaken : Unmistaken case assets location)
    (perm : order.Perm assets) : Unmistaken case order location where
  exact asset member isMatched owner ownerMember :=
    unmistaken.exact asset (perm.mem_iff.mp member) isMatched owner (perm.mem_iff.mp ownerMember)
  sameHost noExact asset member isMatched := by
    obtain ⟨other, otherMember, found⟩ := unmistaken.sameHost
      (fun asset member => noExact asset (perm.mem_iff.mpr member)) asset
      (perm.mem_iff.mp member) isMatched
    exact ⟨other, perm.mem_iff.mpr otherMember, found⟩

variable {asset : AssetConfig}

theorem matched_of_address (exact : asset.address = location) : asset.matched location = true := by
  simp [AssetConfig.matched, exact]

theorem Unmistaken.attributed (unmistaken : Unmistaken case assets location) :
    Attributed case assets location := by
  obtain ⟨taken, member, isMatched, result⟩ | ⟨noneMatched, result⟩ :=
    businessContextFor_cases case assets location
  · refine ⟨fun asset assetMember exact => ?_, fun noExact _ => ?_, fun apart => ?_⟩
    · rw [result]
      exact unmistaken.exact taken member isMatched asset assetMember exact
    · obtain ⟨other, otherMember, same, contexts⟩ :=
        unmistaken.sameHost noExact taken member isMatched
      exact ⟨other, otherMember, same, result.trans contexts⟩
    · obtain ⟨other, otherMember, same, _⟩ := unmistaken.sameHost
        (fun asset assetMember => (apart asset assetMember).1) taken member isMatched
      exact absurd same (apart other otherMember).2
  · refine ⟨fun asset assetMember exact => ?_, fun _ => ?_, fun _ => result⟩
    · have isMatched := matched_of_address exact
      simp [noneMatched asset assetMember] at isMatched
    · rintro ⟨asset, assetMember, same⟩
      have isMatched := matched_of_sameHost same
      simp [noneMatched asset assetMember] at isMatched

theorem Attributed.agree (left : Attributed case order location)
    (right : Attributed case assets location) (perm : order.Perm assets)
    (agrees : HostAgrees case assets location) :
    businessContextFor case order location = businessContextFor case assets location := by
  by_cases hasExact : ∃ asset ∈ assets, asset.address = location
  · obtain ⟨asset, member, exact⟩ := hasExact
    rw [left.exact asset (perm.mem_iff.mpr member) exact, right.exact asset member exact]
  · push Not at hasExact
    have noExact : ∀ asset ∈ order, asset.address ≠ location :=
      fun asset member => hasExact asset (perm.mem_iff.mp member)
    by_cases hasHost : ∃ asset ∈ assets, SameHost asset.address location
    · obtain ⟨asset, member, same⟩ := hasHost
      obtain ⟨one, oneMember, oneSame, oneResult⟩ :=
        left.sameHost noExact ⟨asset, perm.mem_iff.mpr member, same⟩
      obtain ⟨two, twoMember, twoSame, twoResult⟩ := right.sameHost hasExact ⟨asset, member, same⟩
      rw [oneResult, twoResult]
      exact agrees one (perm.mem_iff.mp oneMember) two twoMember oneSame twoSame
    · push Not at hasHost
      rw [left.unmapped fun asset member =>
          ⟨noExact asset member, hasHost asset (perm.mem_iff.mp member)⟩,
        right.unmapped fun asset member => ⟨hasExact asset member, hasHost asset member⟩]

theorem exists_order_taking (member : asset ∈ assets) (isMatched : asset.matched location = true) :
    ∃ order, order.Perm assets ∧ businessContextFor case order location = asset.context case := by
  obtain ⟨front, back, rfl⟩ := List.append_of_mem member
  refine ⟨asset :: (front ++ back), List.perm_middle.symm, ?_⟩
  rw [businessContextFor, List.find?_cons_of_pos isMatched]

theorem context_ne_unmapped (asset : AssetConfig) : asset.context case ≠ .unmapped := by
  intro same
  simpa [AssetConfig.context, BusinessContext.unmapped] using
    congrArg BusinessContext.environment same

end Proofs

theorem attributedInEveryOrder_iff (case : CaseMapping) (assets : List AssetConfig)
    (location : String) :
    AttributedInEveryOrder case assets location ↔ Unmistaken case assets location := by
  constructor
  · intro attributed
    refine ⟨fun asset member isMatched owner ownerMember exact => ?_,
      fun noExact asset member isMatched => ?_⟩
    · obtain ⟨order, perm, result⟩ := @exists_order_taking case _ _ _ member isMatched
      rw [← result]
      exact (attributed order perm).1.exact owner (perm.mem_iff.mpr ownerMember) exact
    · obtain ⟨order, perm, result⟩ := @exists_order_taking case _ _ _ member isMatched
      have noExactThere : ∀ other ∈ order, other.address ≠ location :=
        fun other otherMember => noExact other (perm.mem_iff.mp otherMember)
      by_cases hasHost : ∃ other ∈ order, SameHost other.address location
      · obtain ⟨other, otherMember, same, otherResult⟩ :=
          (attributed order perm).1.sameHost noExactThere hasHost
        exact ⟨other, perm.mem_iff.mp otherMember, same, result.symm.trans otherResult⟩
      · push Not at hasHost
        have unmapped := (attributed order perm).1.unmapped fun other otherMember =>
          ⟨noExactThere other otherMember, hasHost other otherMember⟩
        exact absurd (result.symm.trans unmapped) (context_ne_unmapped asset)
  · intro unmistaken order perm
    have there := (unmistaken.perm perm).attributed
    exact ⟨there, fun agrees => there.agree unmistaken.attributed perm agrees⟩

def sandboxShop : AssetConfig :=
  ⟨"shop.example:8443", "dev", some "sandbox", some "dev", none, none⟩

def checkoutShop : AssetConfig :=
  ⟨"shop.example:443", "prod", some "checkout", some "critical", none, none⟩

def addressedByNumber : AssetConfig :=
  ⟨"[2001:db8::1]:443", "prod", some "ledger", some "critical", none, none⟩

theorem businessContextFor_mistaken :
    ([sandboxShop, checkoutShop].map AssetConfig.address).Nodup ∧
      businessContextFor asciiCase [sandboxShop, checkoutShop] "shop.example:443" =
        sandboxShop.context asciiCase ∧
      sandboxShop.context asciiCase ≠ checkoutShop.context asciiCase ∧
      exactHost addressedByNumber.address ≠ exactHost "[2001:db8::2]:443" ∧
      businessContextFor asciiCase [addressedByNumber] "[2001:db8::2]:443" =
        addressedByNumber.context asciiCase := by
  decide +kernel

end QuantaWatch.Gateway
