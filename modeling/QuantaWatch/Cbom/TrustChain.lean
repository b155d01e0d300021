import QuantaWatch.Cbom.Attestation
import Mathlib.Data.Set.Function

/-!
What an accepted attestation chain says about the key at its end.

`verify_cert_chain` never reads a role. A root and the platforms it certifies sign
by role, holders of attestation keys sign what they like, so what a chain proves
depends on the roles along it: `Standing` follows them from the root down.
-/

namespace QuantaWatch.Cbom

open Crypto Lib.Encoding Lib.Hex Lib.Text

def CertFor (platform : Platform) (role : String) (subject message : Bytes) : Prop :=
  ∃ publicKey, hexDecode publicKey = some subject ∧
    message = utf8 (role ++ "|" ++ sha3_256Hex platform subject ++ "|" ++ publicKey)

structure Trust (platform : Platform) where
  root : Bytes
  IsRoot : Bytes → Prop
  IsPlatform : Bytes → Prop
  Genuine : Bytes → Prop
  Signed : Bytes → Bytes → Prop
  root_isRoot : IsRoot root
  root_signs : ∀ key message, IsRoot key → Signed key message →
    ∃ subject, (IsRoot subject ∧ CertFor platform "root" subject message) ∨
      (IsPlatform subject ∧ CertFor platform "platform" subject message)
  platform_signs : ∀ key message, IsPlatform key → Signed key message →
    ∃ subject, Genuine subject ∧ CertFor platform "ak" subject message

namespace Trust

variable {platform : Platform} (trust : Trust platform)

def CertifiedAk (key : Bytes) : Prop :=
  trust.Genuine key ∧ ∃ issuer message, (trust.IsPlatform issuer ∨ trust.IsRoot issuer) ∧
    trust.Signed issuer message ∧ CertFor platform "ak" key message

structure Presented (chain : List AttestationCert) : Prop where
  unforgeable : ∀ cert ∈ chain, ∀ key signature, trust.IsRoot key ∨ trust.IsPlatform key →
    hexDecode cert.signature = some signature →
    verify platform key cert.signedContent signature = .ok true →
    trust.Signed key cert.signedContent
  collisionFree : Set.InjOn platform.sha3_256
    (insert trust.root
      {key | ∃ cert ∈ chain, hexDecode cert.subjectPublicKey = some key})

variable {trust} {cert : AttestationCert} {chain : List AttestationCert}

theorem Presented.tail (presented : trust.Presented (cert :: chain)) : trust.Presented chain where
  unforgeable above member := presented.unforgeable above (List.mem_cons_of_mem cert member)
  collisionFree := presented.collisionFree.mono <| Set.insert_subset_insert <| by
    rintro key ⟨above, member, decodes⟩
    exact ⟨above, List.mem_cons_of_mem cert member, decodes⟩

end Trust

inductive Standing where
  | root
  | platform
  | ak
  | anyone
  | nobody
deriving DecidableEq

def Standing.certify : Standing → String → Standing
  | .root, role =>
    if role = "root" then .root
    else if role = "platform" then .platform
    else .nobody
  | .platform, role => if role = "ak" then .ak else .nobody
  | .ak, _ => .anyone
  | .anyone, _ => .anyone
  | .nobody, _ => .nobody

def standing : List String → Standing
  | [] => .nobody
  | [top] => if top = "root" then .root else .nobody
  | role :: parent :: above => (standing (parent :: above)).certify role

def Trust.Meets {platform : Platform} (trust : Trust platform) : Standing → Bytes → Prop
  | .root, key => trust.IsRoot key
  | .platform, key => trust.IsPlatform key
  | .ak, key => trust.CertifiedAk key
  | .anyone, _ => True
  | .nobody, _ => False

section Accepted

variable {platform : Platform} {trust : Trust platform} {cert : AttestationCert}
  {chain : List AttestationCert} {subject issuer : Bytes}

theorem notMem_sha3_256Hex (data : Bytes) : '|' ∉ (sha3_256Hex platform data).toList :=
  notMem_of_hexDecode (hexDecode_hexEncode _) (by decide)

theorem certFor_signedContent {role : String} {key : Bytes}
    (certified : CertifiedBy platform cert subject issuer)
    (certFor : CertFor platform role key cert.signedContent) :
    cert.role = role ∧ subject = key := by
  rcases certFor with ⟨publicKey, decodes, content⟩
  have texts := congrArg (fun text : String => text.toList.reverse) (utf8_injective content)
  rw [← certified.fingerprint] at texts
  simp only [String.toList_append, List.reverse_append, List.append_assoc] at texts
  have bar : ("|" : String).toList.reverse = ['|'] := rfl
  simp only [bar, List.singleton_append] at texts
  have subjectFree : '|' ∉ cert.subjectPublicKey.toList.reverse := by
    simpa using notMem_of_hexDecode certified.subjectDecodes (by decide)
  have keyFree : '|' ∉ publicKey.toList.reverse := by
    simpa using notMem_of_hexDecode decodes (by decide)
  have keys := (append_separator_inj subjectFree keyFree).mp texts
  have roles := (append_separator_inj (by simpa using notMem_sha3_256Hex subject)
    (by simpa using notMem_sha3_256Hex key)).mp keys.2
  have samePublicKey : cert.subjectPublicKey = publicKey :=
    String.toList_inj.mp (List.reverse_inj.mp keys.1)
  refine ⟨String.toList_inj.mp (List.reverse_inj.mp roles.2), ?_⟩
  rw [← samePublicKey, certified.subjectDecodes] at decodes
  exact Option.some.inj decodes

theorem signed_of_certified (presented : trust.Presented chain) (member : cert ∈ chain)
    (certified : CertifiedBy platform cert subject issuer)
    (authority : trust.IsRoot issuer ∨ trust.IsPlatform issuer) :
    trust.Signed issuer cert.signedContent := by
  rcases certified.verifies with ⟨signature, decodes, verifies⟩
  exact presented.unforgeable cert member issuer signature authority decodes verifies

theorem meets_certify {above : Standing} (presented : trust.Presented chain)
    (member : cert ∈ chain) (certified : CertifiedBy platform cert subject issuer)
    (meets : trust.Meets above issuer) : trust.Meets (above.certify cert.role) subject := by
  cases above with
  | root =>
    have signed := signed_of_certified presented member certified (Or.inl meets)
    rcases trust.root_signs issuer _ meets signed with
      ⟨key, ⟨isRoot, certFor⟩ | ⟨isPlatform, certFor⟩⟩
    · rcases certFor_signedContent certified certFor with ⟨isRole, rfl⟩
      simpa [Standing.certify, isRole, Trust.Meets] using isRoot
    · rcases certFor_signedContent certified certFor with ⟨isRole, rfl⟩
      simpa [Standing.certify, isRole, Trust.Meets] using isPlatform
  | platform =>
    have signed := signed_of_certified presented member certified (Or.inr meets)
    rcases trust.platform_signs issuer _ meets signed with ⟨key, genuine, certFor⟩
    rcases certFor_signedContent certified certFor with ⟨isRole, rfl⟩
    simp only [Standing.certify, isRole, if_true]
    exact ⟨genuine, issuer, cert.signedContent, Or.inl meets, signed, certFor⟩
  | ak => trivial
  | anyone => trivial
  | nobody => exact meets

theorem meets_top (presented : trust.Presented [cert])
    (certified : CertifiedBy platform cert subject subject)
    (pinned : cert.subjectFingerprint = sha3_256Hex platform trust.root) :
    trust.Meets (standing [cert.role]) subject := by
  have sameHash := sha3_256_of_hex_eq platform (certified.fingerprint.trans pinned)
  have isRootKey : subject = trust.root :=
    presented.collisionFree
      (Set.mem_insert_of_mem _ ⟨cert, List.mem_singleton_self cert, certified.subjectDecodes⟩)
      (Set.mem_insert _ _) sameHash
  subst isRootKey
  have signed := signed_of_certified presented (List.mem_singleton_self cert) certified
    (Or.inl trust.root_isRoot)
  rcases trust.root_signs _ _ trust.root_isRoot signed with
    ⟨key, ⟨_, certFor⟩ | ⟨isPlatform, certFor⟩⟩
  · have isRole := (certFor_signedContent certified certFor).1
    simpa [standing, isRole, Trust.Meets] using trust.root_isRoot
  · rcases certFor_signedContent certified certFor with ⟨isRole, rfl⟩
    rcases trust.platform_signs _ _ isPlatform signed with ⟨other, _, otherFor⟩
    have otherRole := (certFor_signedContent certified otherFor).1
    simp [isRole] at otherRole

theorem meets_of_checkCerts {index : Nat} (presented : trust.Presented (cert :: chain))
    (checks : checkCerts platform index (cert :: chain) = .ok ())
    (pinned : ((cert :: chain).getLast (List.cons_ne_nil _ _)).subjectFingerprint =
      sha3_256Hex platform trust.root) :
    ∃ key, hexDecode cert.subjectPublicKey = some key ∧
      trust.Meets (standing ((cert :: chain).map AttestationCert.role)) key := by
  induction chain generalizing cert index with
  | nil =>
    rcases certified_of_checkCert_top checks with ⟨key, certified⟩
    exact ⟨key, certified.subjectDecodes, meets_top presented certified pinned⟩
  | cons parent above ih =>
    simp only [checkCerts] at checks
    split at checks
    · contradiction
    · rename_i link
      rcases certified_of_checkCert link with ⟨key, issuer, issuerDecodes, certified⟩
      rcases ih presented.tail checks (by simpa using pinned) with
        ⟨parentKey, parentDecodes, meets⟩
      rw [issuerDecodes, Option.some.injEq] at parentDecodes
      subst parentDecodes
      exact ⟨key, certified.subjectDecodes,
        meets_certify presented List.mem_cons_self certified meets⟩

theorem meets_of_verifyCertChain {akPublicKey : String} (presented : trust.Presented chain)
    (verifies : verifyCertChain platform chain akPublicKey =
      .ok (sha3_256Hex platform trust.root)) :
    ∃ key, hexDecode akPublicKey = some key ∧
      trust.Meets (standing (chain.map AttestationCert.role)) key := by
  cases chain with
  | nil => simp [verifyCertChain] at verifies
  | cons leaf above =>
    simp only [verifyCertChain] at verifies
    split_ifs at verifies with other
    split at verifies
    · contradiction
    · rename_i checks
      rw [← not_not.mp other]
      exact meets_of_checkCerts presented checks (Except.ok.inj verifies)

end Accepted

namespace SampleTrust

def rootPair : GatewayIdentity := ⟨[1]⟩
def platformPair : GatewayIdentity := ⟨[2]⟩
def akPair : GatewayIdentity := ⟨[3]⟩
def roguePair : GatewayIdentity := ⟨[4]⟩

def keyOf (pair : GatewayIdentity) : Bytes := pair.publicKeyBytes samplePlatform

def certOf (role : String) (pair : GatewayIdentity) : Bytes :=
  certContent samplePlatform role (keyOf pair)

theorem certFor_certOf (role : String) (pair : GatewayIdentity) :
    CertFor samplePlatform role (keyOf pair) (certOf role pair) :=
  ⟨hexEncode (keyOf pair), hexDecode_hexEncode _, rfl⟩

def sampleTrust : Trust samplePlatform where
  root := keyOf rootPair
  IsRoot key := key = keyOf rootPair
  IsPlatform key := key = keyOf platformPair
  Genuine key := key = keyOf akPair
  Signed key message :=
    (key = keyOf rootPair →
      message = certOf "root" rootPair ∨ message = certOf "platform" platformPair) ∧
    (key = keyOf platformPair → message = certOf "ak" akPair)
  root_isRoot := rfl
  root_signs key message isRoot signed := by
    rcases signed.1 isRoot with rfl | rfl
    · exact ⟨keyOf rootPair, Or.inl ⟨rfl, certFor_certOf _ _⟩⟩
    · exact ⟨keyOf platformPair, Or.inr ⟨rfl, certFor_certOf _ _⟩⟩
  platform_signs key message isPlatform signed := by
    rw [signed.2 isPlatform]
    exact ⟨keyOf akPair, rfl, certFor_certOf _ _⟩

def partyOf : Standing → GatewayIdentity
  | .root => rootPair
  | .platform => platformPair
  | .ak => akPair
  | .anyone => roguePair
  | .nobody => roguePair

def issuedChain : List String → List AttestationCert
  | [] => []
  | [top] => [issueCert samplePlatform top rootPair rootPair]
  | role :: parent :: above =>
    issueCert samplePlatform role (partyOf (standing (role :: parent :: above)))
      (partyOf (standing (parent :: above))) :: issuedChain (parent :: above)

theorem map_role_issuedChain (roles : List String) :
    (issuedChain roles).map AttestationCert.role = roles := by
  fun_induction issuedChain roles with
  | case1 => rfl
  | case2 => rfl
  | case3 role parent above ih =>
    simp [ih, issueCert]

variable {role : String} {roles : List String} {key : Bytes} {above : Standing}

theorem standing_ne_nobody_of_cons {parent : String} {above : List String}
    (reachable : standing (role :: parent :: above) ≠ .nobody) :
    standing (parent :: above) ≠ .nobody := by
  intro nobody
  simp [standing, nobody, Standing.certify] at reachable

theorem standing_top {top : String} (reachable : standing [top] ≠ .nobody) :
    top = "root" ∧ standing [top] = .root := by
  by_cases isRoot : top = "root"
  · simp [standing, isRoot]
  · simp [standing, isRoot] at reachable

theorem issuedChain_cons {above : List String} (reachable : standing (role :: above) ≠ .nobody) :
    ∃ issuer rest, issuedChain (role :: above) =
      issueCert samplePlatform role (partyOf (standing (role :: above))) issuer :: rest := by
  cases above with
  | nil =>
    simp only [(standing_top reachable).2, partyOf]
    exact ⟨_, _, rfl⟩
  | cons parent above => exact ⟨_, _, rfl⟩

theorem checkCerts_issuedChain (index : Nat) (reachable : standing roles ≠ .nobody) :
    checkCerts samplePlatform index (issuedChain roles) = .ok () := by
  fun_induction issuedChain roles generalizing index with
  | case1 => rfl
  | case2 top => exact checkCert_issueCert_self samplePlatform_lawful
  | case3 role parent above ih =>
    have below := standing_ne_nobody_of_cons reachable
    rcases issuedChain_cons below with ⟨issuer, rest, chain⟩
    have checks := ih (index + 1) below
    rw [chain] at checks ⊢
    have link : checkCert samplePlatform index
        (issueCert samplePlatform role (partyOf (standing (role :: parent :: above)))
          (partyOf (standing (parent :: above))))
        (some (issueCert samplePlatform parent (partyOf (standing (parent :: above)))
          issuer)) = .ok () :=
      checkCert_issueCert samplePlatform_lawful rfl rfl
    simp only [checkCerts, link, checks]

theorem getLast?_issuedChain (nonempty : roles ≠ []) :
    ((issuedChain roles).getLast?.map AttestationCert.subjectFingerprint) =
      some (sha3_256Hex samplePlatform sampleTrust.root) := by
  fun_induction issuedChain roles with
  | case1 => contradiction
  | case2 top => rfl
  | case3 role parent above ih =>
    have last := ih (List.cons_ne_nil _ _)
    cases chain : issuedChain (parent :: above) with
    | nil => simp [chain] at last
    | cons first rest => simpa [chain, List.getLast?_cons_cons] using last

theorem verifyCertChain_issuedChain (reachable : standing roles ≠ .nobody) :
    verifyCertChain samplePlatform (issuedChain roles)
        (hexEncode (keyOf (partyOf (standing roles)))) =
      .ok (sha3_256Hex samplePlatform sampleTrust.root) := by
  cases roles with
  | nil => simp [standing] at reachable
  | cons role above =>
    have checks := checkCerts_issuedChain 0 reachable
    have last := getLast?_issuedChain (List.cons_ne_nil role above)
    rcases issuedChain_cons reachable with ⟨issuer, rest, chain⟩
    rw [chain] at checks last ⊢
    rw [List.getLast?_eq_some_getLast (List.cons_ne_nil _ _), Option.map_some,
      Option.some.injEq] at last
    have leaf : (issueCert samplePlatform role (partyOf (standing (role :: above)))
        issuer).subjectPublicKey = hexEncode (keyOf (partyOf (standing (role :: above)))) := rfl
    simp only [verifyCertChain, leaf, checks, last, ne_eq, not_true_eq_false, if_false]

theorem mem_issuedChain {cert : AttestationCert} (reachable : standing roles ≠ .nobody)
    (member : cert ∈ issuedChain roles) : ∃ above role, Standing.certify above role ≠ .nobody ∧
      cert = issueCert samplePlatform role (partyOf (above.certify role)) (partyOf above) := by
  fun_induction issuedChain roles with
  | case1 => contradiction
  | case2 top =>
    rcases standing_top reachable with ⟨rfl, _⟩
    exact ⟨.root, "root", by decide, List.mem_singleton.mp member⟩
  | case3 role parent above ih =>
    rcases List.mem_cons.mp member with rfl | member
    · exact ⟨standing (parent :: above), role, reachable, rfl⟩
    · exact ih (standing_ne_nobody_of_cons reachable) member

theorem checksum_of_verify {message : Bytes} {issuer : GatewayIdentity}
    (verifies : verify samplePlatform key message (issuer.sign samplePlatform message) = .ok true) :
    checksum key = checksum (keyOf issuer) := by
  unfold verify at verifies
  split_ifs at verifies
  have isSignature : issuer.sign samplePlatform message = sampleSign key message := by
    simpa [samplePlatform] using verifies
  exact (sampleSign_inj message isSignature).symm

theorem eq_root_of_checksum
    (same : checksum (keyOf rootPair) = checksum (keyOf (partyOf above))) : above = .root := by
  cases above <;> first | rfl | exact absurd same (by decide)

theorem eq_platform_of_checksum
    (same : checksum (keyOf platformPair) = checksum (keyOf (partyOf above))) :
    above = .platform := by
  cases above <;> first | rfl | exact absurd same (by decide)

theorem signed_of_verify (reachable : above.certify role ≠ .nobody)
    (same : checksum key = checksum (keyOf (partyOf above))) :
    sampleTrust.Signed key (certOf role (partyOf (above.certify role))) := by
  constructor
  · rintro rfl
    obtain rfl := eq_root_of_checksum same
    by_cases isRoot : role = "root"
    · simp [Standing.certify, isRoot, partyOf]
    · by_cases isPlatform : role = "platform"
      · simp [Standing.certify, isPlatform, partyOf]
      · simp [Standing.certify, isRoot, isPlatform] at reachable
  · rintro rfl
    obtain rfl := eq_platform_of_checksum same
    by_cases isAk : role = "ak"
    · simp [Standing.certify, isAk, partyOf]
    · simp [Standing.certify, isAk] at reachable

theorem fingerprint_inj {left right : Standing}
    (same : sampleHash (keyOf (partyOf left)) = sampleHash (keyOf (partyOf right))) :
    keyOf (partyOf left) = keyOf (partyOf right) := by
  revert same
  cases left <;> cases right <;> decide +kernel

theorem presented_issuedChain (reachable : standing roles ≠ .nobody) :
    sampleTrust.Presented (issuedChain roles) where
  unforgeable cert member key signature _ decodes verifies := by
    rcases mem_issuedChain reachable member with ⟨above, role, leads, rfl⟩
    rw [issueCert, hexDecode_hexEncode, Option.some.injEq] at decodes
    subst decodes
    exact signed_of_verify leads (checksum_of_verify verifies)
  collisionFree := by
    have isParty {key : Bytes} (member : key ∈ insert sampleTrust.root
        {key | ∃ cert ∈ issuedChain roles, hexDecode cert.subjectPublicKey = some key}) :
        ∃ party, key = keyOf (partyOf party) := by
      rcases member with rfl | ⟨cert, member, decodes⟩
      · exact ⟨.root, rfl⟩
      · rcases mem_issuedChain reachable member with ⟨above, role, _, rfl⟩
        rw [issueCert, hexDecode_hexEncode, Option.some.injEq] at decodes
        exact ⟨above.certify role, decodes.symm⟩
    intro left leftMember right rightMember same
    rcases isParty leftMember with ⟨leftParty, rfl⟩
    rcases isParty rightMember with ⟨rightParty, rfl⟩
    exact fingerprint_inj same

theorem eq_ak_of_certifiedAk {leaf : Standing}
    (certified : sampleTrust.CertifiedAk (keyOf (partyOf leaf))) : leaf = .ak := by
  have genuine : keyOf (partyOf leaf) = keyOf akPair := certified.1
  cases leaf <;> first | rfl | exact absurd genuine (by decide)

end SampleTrust

open SampleTrust

/-- Which chains prove that their quote key is a certified attestation key: exactly those
whose roles, from the top down, are root certificates, one platform certificate and one
attestation certificate, beside those that nobody can obtain. A chain that ends earlier
shows a root or a platform key, and one that goes on shows whatever key the holder of an
attestation key signed for. -/
theorem certifiedAk_iff_standing (roles : List String) :
    (∀ (platform : Platform) (trust : Trust platform) (chain : List AttestationCert)
        (akPublicKey : String), chain.map AttestationCert.role = roles →
        trust.Presented chain →
        verifyCertChain platform chain akPublicKey = .ok (sha3_256Hex platform trust.root) →
        ∃ key, hexDecode akPublicKey = some key ∧ trust.CertifiedAk key) ↔
      standing roles = .ak ∨ standing roles = .nobody := by
  constructor
  · intro binding
    by_contra! others
    rcases binding samplePlatform sampleTrust (issuedChain roles) _
      (map_role_issuedChain roles) (presented_issuedChain others.2)
      (verifyCertChain_issuedChain others.2) with ⟨key, decodes, certified⟩
    rw [hexDecode_hexEncode, Option.some.injEq] at decodes
    subst decodes
    exact others.1 (eq_ak_of_certifiedAk certified)
  · rintro leads platform trust chain akPublicKey rfl presented verifies
    rcases meets_of_verifyCertChain presented verifies with ⟨key, decodes, meets⟩
    refine ⟨key, decodes, ?_⟩
    rcases leads with isAk | isNobody
    · simpa [isAk, Trust.Meets] using meets
    · simp [isNobody, Trust.Meets] at meets

theorem certifiedAk_of_genuine_chain :
    sampleTrust.Presented (issuedChain ["ak", "platform", "root"]) ∧
      verifyCertChain samplePlatform (issuedChain ["ak", "platform", "root"])
        (hexEncode (keyOf akPair)) = .ok (sha3_256Hex samplePlatform sampleTrust.root) ∧
      sampleTrust.CertifiedAk (keyOf akPair) := by
  have leads : standing ["ak", "platform", "root"] = .ak := by decide
  have reachable : standing ["ak", "platform", "root"] ≠ .nobody := by decide
  have presented := presented_issuedChain reachable
  have verifies : verifyCertChain samplePlatform (issuedChain ["ak", "platform", "root"])
      (hexEncode (keyOf akPair)) = .ok (sha3_256Hex samplePlatform sampleTrust.root) :=
    verifyCertChain_issuedChain reachable
  refine ⟨presented, verifies, ?_⟩
  rcases (certifiedAk_iff_standing ["ak", "platform", "root"]).mpr (Or.inl leads)
    samplePlatform sampleTrust _ _ (map_role_issuedChain _) presented verifies with
    ⟨key, decodes, certified⟩
  rw [hexDecode_hexEncode, Option.some.injEq] at decodes
  exact decodes ▸ certified

theorem verifyCertChain_rogue_ak :
    sampleTrust.Presented (issuedChain ["ak", "ak", "platform", "root"]) ∧
      verifyCertChain samplePlatform (issuedChain ["ak", "ak", "platform", "root"])
        (hexEncode (keyOf roguePair)) = .ok (sha3_256Hex samplePlatform sampleTrust.root) ∧
      ¬ sampleTrust.CertifiedAk (keyOf roguePair) := by
  have reachable : standing ["ak", "ak", "platform", "root"] ≠ .nobody := by decide
  refine ⟨presented_issuedChain reachable, verifyCertChain_issuedChain reachable, ?_⟩
  intro certified
  have isAk : Standing.anyone = .ak := eq_ak_of_certifiedAk certified
  contradiction

end QuantaWatch.Cbom
