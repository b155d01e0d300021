import QuantaWatch.Cli.LoadExport
import QuantaWatch.Lib.Text

/-!
The certificates of the internal CA: their dates and their post-quantum binding (`issue`,
`now_ts`, `verify_binding` and `pem_to_der` in `qw-pki/src/lib.rs`, and `verify` in
`qw-gateway/src/admin/pki_api.rs`).
-/

namespace QuantaWatch.Pki

open Crypto

structure DateLimits where
  timeEarliest : Int
  timeLatest : Int
  chronoLatest : Int

structure Validity where
  notBefore : Int
  notAfter : Int
deriving DecidableEq

structure CertificateDates where
  subject : String
  sans : List String
  keyType : String
  notBefore : DateTime
  notAfter : DateTime
  pqcStatus : String
deriving DecidableEq

inductive IssueResult where
  | error (message : String)
  | panics
  | issued (leaf : Validity) (row : CertificateDates)
deriving DecidableEq

structure IssueCalls where
  generateKey : Except String Unit
  leafParams : List String → Except String Unit
  signLeaf : Validity → Except String Unit
  signBinding : Except String Unit

def DateTime.seconds (instant : DateTime) : Int := instant.nanos / 1000000000

theorem seconds_add (instant : DateTime) (seconds : Int) :
    DateTime.seconds ⟨instant.nanos + seconds * 1000000000⟩ = DateTime.seconds instant + seconds :=
  Int.add_mul_ediv_right _ _ (by decide)

/-- `now_ts`: the clock as the second date crate has it. -/
def offsetNow (limits : DateLimits) (now : DateTime) : Int :=
  let seconds := DateTime.seconds now
  if limits.timeEarliest ≤ seconds ∧ seconds ≤ limits.timeLatest then seconds else 0

def leafNames (subject : String) (sans : List String) : List String :=
  if sans.any (· == subject) then sans else subject :: sans

def validityDays (days : UInt32) : Int := max days.toNat 1

/-- `CertAuthority::issue`. Sums of dates outside the limits panic. -/
def issue (limits : DateLimits) (calls : IssueCalls) (now : DateTime) (subject : String)
    (sans : List String) (days : UInt32) (hybrid : Bool) : IssueResult :=
  let names := leafNames subject sans
  match calls.generateKey, calls.leafParams names with
  | .error message, _ => .error ("leaf key: " ++ message)
  | .ok _, .error message => .error ("leaf params: " ++ message)
  | .ok _, .ok _ =>
    let leaf : Validity := ⟨offsetNow limits now - 300,
      offsetNow limits now + validityDays days * 86400⟩
    let notAfter : DateTime := ⟨now.nanos + validityDays days * 86400 * 1000000000⟩
    if leaf.notBefore < limits.timeEarliest ∨ limits.timeLatest < leaf.notAfter ∨
        limits.chronoLatest < DateTime.seconds notAfter then .panics
    else
      match calls.signLeaf leaf with
      | .error message => .error ("sign leaf: " ++ message)
      | .ok _ =>
        match hybrid, calls.signBinding with
        | true, .error message => .error ("ml-dsa sign: " ++ message)
        | true, .ok _ => .issued leaf ⟨subject, names, "hybrid", now, notAfter, "hybrid"⟩
        | false, _ => .issued leaf ⟨subject, names, "classical", now, notAfter, "classical_secure"⟩

/-- What a caller may expect of an answer: no panic, and a leaf inside the CA's dates whose own
dates are on record. -/
def Faithful (ca : Validity) : IssueResult → Prop
  | .error _ => True
  | .panics => False
  | .issued leaf row => ca.notBefore ≤ leaf.notBefore ∧ leaf.notAfter ≤ ca.notAfter ∧
      leaf.notBefore = DateTime.seconds row.notBefore ∧
      leaf.notAfter = DateTime.seconds row.notAfter

/-- A call of `issue` fails: before the dates are computed, or after it if both date crates hold
them. -/
def IssueCalls.Fail (calls : IssueCalls) (limits : DateLimits) (now : DateTime) (subject : String)
    (sans : List String) (days : UInt32) (hybrid : Bool) : Prop :=
  let leaf : Validity :=
    ⟨DateTime.seconds now - 300, DateTime.seconds now + validityDays days * 86400⟩
  (∃ message, calls.generateKey = .error message) ∨
    (∃ message, calls.leafParams (leafNames subject sans) = .error message) ∨
    (limits.timeEarliest ≤ leaf.notBefore ∧ leaf.notAfter ≤ limits.timeLatest ∧
        leaf.notAfter ≤ limits.chronoLatest) ∧
      ((∃ message, calls.signLeaf leaf = .error message) ∨
        hybrid = true ∧ ∃ message, calls.signBinding = .error message)

section Dates

variable {limits : DateLimits} {calls : IssueCalls} {ca : Validity} {now : DateTime}
  {subject : String} {sans : List String} {days : UInt32} {hybrid : Bool}

theorem dates_of_issued {leaf : Validity} {row : CertificateDates}
    (inside : limits.timeEarliest ≤ DateTime.seconds now ∧ DateTime.seconds now ≤ limits.timeLatest)
    (issued : issue limits calls now subject sans days hybrid = .issued leaf row) :
    leaf.notBefore = DateTime.seconds row.notBefore - 300 ∧
      leaf.notAfter = DateTime.seconds row.notAfter ∧
      leaf.notAfter = DateTime.seconds now + validityDays days * 86400 := by
  have clock : offsetNow limits now = DateTime.seconds now := if_pos inside
  have later := seconds_add now (validityDays days * 86400)
  simp only [issue, clock, later] at issued
  split at issued <;> try contradiction
  split_ifs at issued
  split at issued <;> try contradiction
  split at issued <;> try contradiction
  all_goals
    cases issued
    exact ⟨rfl, later.symm, rfl⟩

section Lifetime

variable (inside : limits.timeEarliest ≤ DateTime.seconds now ∧
  DateTime.seconds now ≤ limits.timeLatest)

include inside

theorem issue_error_iff : (∃ message, issue limits calls now subject sans days hybrid =
      .error message) ↔ calls.Fail limits now subject sans days hybrid := by
  have clock : offsetNow limits now = DateTime.seconds now := if_pos inside
  have later := seconds_add now (validityDays days * 86400)
  simp only [issue, clock, later, IssueCalls.Fail]
  cases calls.generateKey with
  | error message => simp
  | ok _ =>
    cases calls.leafParams (leafNames subject sans) with
    | error message => simp
    | ok _ =>
      split_ifs with outside
      · simp
        omega
      · rw [not_or, not_or, not_lt, not_lt, not_lt] at outside
        simp only [exists_false, false_or, outside, and_self, true_and]
        cases calls.signLeaf _ with
        | error message => simp
        | ok _ => cases hybrid <;> cases calls.signBinding <;> simp

theorem faithful_iff_error : Faithful ca (issue limits calls now subject sans days hybrid) ↔
      ∃ message, issue limits calls now subject sans days hybrid = .error message := by
  cases answer : issue limits calls now subject sans days hybrid with
  | error message => exact ⟨fun _ => ⟨message, rfl⟩, fun _ => trivial⟩
  | panics => simp [Faithful]
  | issued leaf row =>
    have dates := dates_of_issued inside answer
    simp only [Faithful, reduceCtorEq, exists_false, iff_false]
    omega

end Lifetime

/-- An answer is faithful only when a call fails: a leaf never has the first date of its
record. -/
theorem faithful_iff
    (lifetime : ca.notBefore ≤ DateTime.seconds now ∧ DateTime.seconds now ≤ ca.notAfter)
    (represented : limits.timeEarliest ≤ ca.notBefore ∧ ca.notAfter ≤ limits.timeLatest) :
    Faithful ca (issue limits calls now subject sans days hybrid) ↔
      calls.Fail limits now subject sans days hybrid := by
  have inside := And.intro (represented.1.trans lifetime.1) (lifetime.2.trans represented.2)
  rw [faithful_iff_error inside, issue_error_iff inside]

end Dates

def sampleLimits : DateLimits := ⟨-377705116800, 253402300799, 8210266876799⟩

def sampleCalls : IssueCalls := ⟨.ok (), fun _ => .ok (), fun _ => .ok (), .ok ()⟩

def sampleCa : Validity := ⟨1699913600, 2015360000⟩

/-- With a key a leaf is issued, which is not faithful; without one the answer is an error. -/
theorem leaf_unfaithful : (∃ leaf row, issue sampleLimits sampleCalls ⟨1700000000000000000⟩
      "db.internal" [] 90 true = .issued leaf row) ∧
    ¬ Faithful sampleCa (issue sampleLimits sampleCalls ⟨1700000000000000000⟩ "db.internal" []
      90 true) ∧
    Faithful sampleCa (issue sampleLimits { sampleCalls with generateKey := .error "no entropy" }
      ⟨1700000000000000000⟩ "db.internal" [] 90 true) := by
  refine ⟨⟨_, _, rfl⟩, ?_, (faithful_iff (by decide) (by decide)).mpr (.inl ⟨_, rfl⟩)⟩
  rw [faithful_iff (by decide) (by decide)]
  simp [IssueCalls.Fail, sampleCalls]

theorem issue_unfaithful :
    issue sampleLimits sampleCalls ⟨1700000000000000000⟩ "db.internal" [] 4294967295 true =
        .panics ∧
      ¬ Faithful sampleCa
        (issue sampleLimits sampleCalls ⟨1700000000000000000⟩ "db.internal" [] 90 true) ∧
      (∃ leaf row, issue sampleLimits sampleCalls ⟨1700000000000000000⟩ "db.internal" [] 4000 true =
        .issued leaf row ∧ sampleCa.notAfter < leaf.notAfter) := by
  refine ⟨by decide +kernel, ?_, _, _, rfl, by decide +kernel⟩
  have isLeaf : issue sampleLimits sampleCalls ⟨1700000000000000000⟩ "db.internal" [] 90 true =
      .issued ⟨1699999700, 1707776000⟩ ⟨"db.internal", ["db.internal"], "hybrid",
        ⟨1700000000000000000⟩, ⟨1707776000000000000⟩, "hybrid"⟩ := by decide +kernel
  rw [isLeaf]
  exact fun faithful => absurd faithful.2.2.1 (by decide)

section Binding

open Cli (lines)
open Lib.Encoding Lib.Text

variable (platform : Platform)

def certificateLines (pem : String) : List (List Char) :=
  (((lines pem.toList).dropWhile fun line =>
    !decide ("BEGIN CERTIFICATE".toList <:+: line)).drop 1).takeWhile fun line =>
      !decide ("END CERTIFICATE".toList <:+: line)

def pemToDer (pem : String) : Except String Bytes :=
  platform.base64Decode (trim (String.ofList (certificateLines pem).flatten))

structure VerifyRequest where
  certPem : String
  mldsaPublicKey : String
  mldsaSignature : String

def VerifyRequest.decoded (request : VerifyRequest) : Option (Bytes × Bytes × Bytes) :=
  match pemToDer platform request.certPem with
  | .error _ => none
  | .ok der =>
    match platform.base64Decode request.mldsaPublicKey,
      platform.base64Decode request.mldsaSignature with
    | .ok publicKey, .ok signature => some (der, publicKey, signature)
    | _, _ => none

/-- `verify_binding`, the answer of `POST /api/pki/verify`. The key is the caller's. -/
def verifyBinding (request : VerifyRequest) : Bool :=
  match request.decoded platform with
  | none => false
  | some (der, publicKey, signature) => verify platform publicKey der signature = .ok true

/-- The binding that `issue` records for a hybrid certificate. -/
def bindLeaf (ca : GatewayIdentity) (certPem : String) (der : Bytes) : VerifyRequest where
  certPem
  mldsaPublicKey := platform.base64Encode (ca.publicKeyBytes platform)
  mldsaSignature := platform.base64Encode (ca.sign platform der)

variable {platform} {ca : GatewayIdentity} {certPem : String} {der : Bytes}

theorem decoded_bindLeaf (lawful : platform.Lawful) (isDer : pemToDer platform certPem = .ok der) :
    (bindLeaf platform ca certPem der).decoded platform =
      some (der, ca.publicKeyBytes platform, ca.sign platform der) := by
  simp [VerifyRequest.decoded, bindLeaf, isDer, lawful.base64]

theorem verifyBinding_bindLeaf (lawful : platform.Lawful)
    (isDer : pemToDer platform certPem = .ok der) :
    verifyBinding platform (bindLeaf platform ca certPem der) = true := by
  simp [verifyBinding, decoded_bindLeaf lawful isDer, verify_sign lawful]

end Binding

end QuantaWatch.Pki
