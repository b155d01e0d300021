import QuantaWatch.Cbom.Builder
import QuantaWatch.Crypto.Sample

/-!
The reproducible inventory document (`make_deterministic` of
`qw-cbom/src/deterministic.rs`) and its export by the command line (`qw-cli/src/main.rs`).
-/

namespace QuantaWatch.Cbom.Exact

open Crypto Lib Lib.Collections Lib.Encoding Lib.Text Scanner

def epoch : DateTime := ⟨0⟩

def normalizePath (path : String) : String :=
  let text := replaceChars (· = '\\') "/" path
  if "./".toList <+: text.toList then String.ofList (text.toList.drop 2) else text

def pinComponent (component : CryptoComponent) : CryptoComponent :=
  { component with
    evidence := { component.evidence with
      source := normalizePath component.evidence.source
      scanTimestamp := epoch } }

def sortKey (component : CryptoComponent) : String ×ₗ String ×ₗ String :=
  toLex (component.name, toLex (component.evidence.source, component.componentType))

def serviceKey (service : CryptoService) : String ×ₗ List String :=
  toLex (service.name, service.endpoints)

def slice (text : String) (low high : Nat) : String :=
  String.ofList ((text.toList.take high).drop low)

section

variable (platform : Platform)

def referTo (component : CryptoComponent) : CryptoComponent :=
  { component with
    bomRef := "comp-" ++ slice (sha3_256Hex platform (utf8 (component.componentType ++ "|" ++
      component.name ++ "|" ++ component.evidence.source))) 0 16 }

def referToService (service : CryptoService) : CryptoService :=
  { service with
    bomRef := "service-" ++ slice (sha3_256Hex platform (utf8 (service.name ++ "|" ++
      String.intercalate "," service.endpoints))) 0 16 }

def serialOf (digest : String) : String :=
  "urn:uuid:" ++ slice digest 0 8 ++ "-" ++ slice digest 8 12 ++ "-" ++ slice digest 12 16 ++ "-" ++
    slice digest 16 20 ++ "-" ++ slice digest 20 32

def numberDocument (compact : CryptoBom → Bytes) (bom : CryptoBom) : CryptoBom :=
  let unnumbered := { bom with serialNumber := "" }
  { unnumbered with serialNumber := serialOf (sha3_256Hex platform (compact unnumbered)) }

def makeDeterministic (compact : CryptoBom → Bytes) (bom : CryptoBom) : CryptoBom :=
  numberDocument platform compact
    { bom with
      components := (sortOn sortKey (bom.components.map pinComponent)).map (referTo platform)
      services := (sortOn serviceKey bom.services).map (referToService platform)
      metadata := { bom.metadata with timestamp := epoch }
      posture := { bom.posture with calculatedAt := epoch } }

end

/-- The serializer of documents: `to_string_pretty`, and `to_value` followed by `to_vec`. -/
structure Serializer where
  pretty : CryptoBom → String
  compact : CryptoBom → Bytes

def Serializer.Lawful (serializer : Serializer) : Prop := Function.Injective serializer.pretty

structure Exporter where
  platform : Platform
  case : CaseMapping
  packageVersion : String
  serializer : Serializer

/-- `cbom export --deterministic`, from the results of the scan on. -/
def exportJson (exporter : Exporter) (drawn : Drawn) (scanned : List NamedScanResult) : String :=
  let results := dedupeScanResults scanned
  let summary := summarize results [] drawn.summarizedAt
  let builder := CbomBuilder.new.ingestScanResults exporter.case results
  let cbom := builder.buildWithPosture exporter.packageVersion drawn "cli" summary
  exporter.serializer.pretty
    (makeDeterministic exporter.platform exporter.serializer.compact cbom)

def unreferred (component : CryptoComponent) : CryptoComponent := { component with bomRef := "" }

def described (case : CaseMapping) (entry : Entry) : CryptoComponent :=
  unreferred (pinComponent (findingToComponent case entry.1 entry.2))

def inventory (case : CaseMapping) (results : List NamedScanResult) : List CryptoComponent :=
  FirstWins.arranged entryKey (described case) sortKey (results.map entriesOf)

def documentOf (exporter : Exporter) (components : List CryptoComponent) : CryptoBom :=
  numberDocument exporter.platform exporter.serializer.compact
    { bomFormat := "CycloneDX"
      specVersion := "1.6"
      serialNumber := ""
      version := 1
      metadata := ⟨epoch, [⟨"Dyber, Inc.", "QuantaWatch", exporter.packageVersion, some "cli"⟩]⟩
      components := components.map (referTo exporter.platform)
      services := []
      posture := summarizeAssets (components.map scoredComponent) [] epoch }

theorem inventory_perm (case : CaseMapping) (results : List NamedScanResult) :
    (inventory case results).Perm ((keptEntries results).map (described case)) :=
  sortOn_perm sortKey _

theorem scoredComponent_described (case : CaseMapping) (entry : Entry) :
    scoredComponent (described case entry) = scoredFinding entry.2 :=
  scoredComponent_findingToComponent case entry.1 entry.2

@[simp] theorem sortKey_unreferred (component : CryptoComponent) :
    sortKey (unreferred component) = sortKey component :=
  rfl

@[simp] theorem referTo_unreferred (platform : Platform) (component : CryptoComponent) :
    referTo platform (unreferred component) = referTo platform component :=
  rfl

theorem sorted_components (platform : Platform) (case : CaseMapping)
    (results : List NamedScanResult) : (sortOn sortKey (((keptEntries results).map fun entry =>
        findingToComponent case entry.1 entry.2).map pinComponent)).map (referTo platform) =
      (inventory case results).map (referTo platform) := by
  have sorted : inventory case results =
      (sortOn sortKey (((keptEntries results).map fun entry =>
        findingToComponent case entry.1 entry.2).map pinComponent)).map unreferred := by
    rw [← sortOn_map sortKey_unreferred, List.map_map, List.map_map]
    rfl
  rw [sorted]
  generalize sortOn sortKey _ = components
  rw [List.map_map]
  exact List.map_congr_left fun component _ => (referTo_unreferred platform component).symm

theorem summarize_dedupeScanResults (case : CaseMapping) (results : List NamedScanResult)
    (now : DateTime) : summarize (dedupeScanResults results) [] now =
      summarizeAssets ((inventory case results).map scoredComponent) [] now := by
  have assets : ((dedupeScanResults results).flatMap NamedScanResult.findings).map scoredFinding =
      ((keptEntries results).map (described case)).map scoredComponent := by
    rw [findings_eq_entries, entries_dedupeScanResults, List.map_map, List.map_map]
    exact List.map_congr_left fun entry _ => (scoredComponent_described case entry).symm
  rw [summarize, List.map_nil, List.map_nil, List.append_nil, assets]
  exact summarizeAssets_perm ((inventory_perm case results).symm.map scoredComponent) [] now

theorem ingestScanResults_dedupeScanResults (case : CaseMapping) (results : List NamedScanResult) :
    CbomBuilder.new.ingestScanResults case (dedupeScanResults results) =
      ⟨(keptEntries results).map fun entry => findingToComponent case entry.1 entry.2, []⟩ := by
  have components := components_ingestScanResults case CbomBuilder.new (dedupeScanResults results)
  rw [keptEntries_dedupeScanResults] at components
  rw [CbomBuilder.ingestScanResults] at components ⊢
  exact congrArg (CbomBuilder.mk · []) components

theorem numberDocument_serialNumber (platform : Platform) (compact : CryptoBom → Bytes)
    (bomFormat specVersion : String) (version : UInt32) (metadata : BomMetadata)
    (components : List CryptoComponent) (services : List CryptoService) (posture : PostureSummary)
    (serial other : String) : numberDocument platform compact
        ⟨bomFormat, specVersion, serial, version, metadata, components, services, posture⟩ =
      numberDocument platform compact
        ⟨bomFormat, specVersion, other, version, metadata, components, services, posture⟩ :=
  rfl

theorem summarizeAssets_calculatedAt (assets : List Scored) (providers : List ProviderScore)
    (now later : DateTime) : { summarizeAssets assets providers now with calculatedAt := later } =
      summarizeAssets assets providers later :=
  rfl

theorem exportJson_eq (exporter : Exporter) (drawn : Drawn) (results : List NamedScanResult) :
    exportJson exporter drawn results =
      exporter.serializer.pretty (documentOf exporter (inventory exporter.case results)) := by
  rw [exportJson, ingestScanResults_dedupeScanResults,
    summarize_dedupeScanResults exporter.case results]
  refine congrArg exporter.serializer.pretty ?_
  unfold makeDeterministic CbomBuilder.buildWithPosture documentOf
  dsimp only
  rw [sorted_components, summarizeAssets_calculatedAt]
  exact numberDocument_serialNumber _ _ _ _ _ _ _ _ _ _ _

theorem referTo_inj {platform : Platform} {left right : CryptoComponent}
    (leftBlank : left.bomRef = "") (rightBlank : right.bomRef = "")
    (same : referTo platform left = referTo platform right) : left = right := by
  cases left
  cases right
  simp only [referTo, CryptoComponent.mk.injEq] at same leftBlank rightBlank ⊢
  exact ⟨leftBlank.trans rightBlank.symm, same.2⟩

variable {case : CaseMapping} {results : List NamedScanResult} {result : NamedScanResult}
    {groups : List (List Entry)}

theorem bomRef_of_mem_inventory {component : CryptoComponent}
    (member : component ∈ inventory case results) : component.bomRef = "" := by
  obtain ⟨entry, _, rfl⟩ := List.mem_map.mp ((inventory_perm case results).mem_iff.mp member)
  rfl

theorem exportJson_eq_iff {exporter : Exporter} (lawful : exporter.serializer.Lawful)
    (drawn later : Drawn) (results other : List NamedScanResult) :
    exportJson exporter later other = exportJson exporter drawn results ↔
      inventory exporter.case other = inventory exporter.case results := by
  rw [exportJson_eq, exportJson_eq]
  constructor
  · intro same
    have components : (inventory exporter.case other).map (referTo exporter.platform) =
        (inventory exporter.case results).map (referTo exporter.platform) :=
      congrArg CryptoBom.components (lawful same)
    refine eq_of_map_eq ?_ components
    intro left isLeft right isRight
    exact referTo_inj (bomRef_of_mem_inventory isLeft) (bomRef_of_mem_inventory isRight)
  · exact fun same => by rw [same]

def Settled (case : CaseMapping) (results : List NamedScanResult) : Prop :=
  FirstWins.Settled entryKey (described case) sortKey (results.map entriesOf)

theorem entriesOf_perm {other : NamedScanResult} (same : SameFindings result other) :
    (entriesOf result).Perm (entriesOf other) := by
  rw [entriesOf, entriesOf, same.1]
  exact same.2.map _

theorem exists_of_entriesOf_perm {group : List Entry} (perm : (entriesOf result).Perm group) :
    ∃ other, SameFindings result other ∧ entriesOf other = group := by
  have mapped := congrFun₂ (List.eq_map_comp_perm (Prod.mk result.scannerId)) group result.findings
  obtain ⟨findings, rfl, findingsPerm⟩ := mapped.mpr perm.symm
  exact ⟨⟨result.scannerId, findings⟩, ⟨rfl, findingsPerm.symm⟩, rfl⟩

theorem reordered_entries {other : List NamedScanResult} (reordered : Reordered results other) :
    FirstWins.Reordered (results.map entriesOf) (other.map entriesOf) := by
  obtain ⟨middle, outer, inner⟩ := reordered
  refine ⟨middle.map entriesOf, outer.map entriesOf, ?_⟩
  rw [List.forall₂_map_left_iff, List.forall₂_map_right_iff]
  exact inner.imp fun _ _ same => entriesOf_perm same

theorem exists_of_forall₂_perm {middle : List NamedScanResult}
    (inner : List.Forall₂ (fun result group => (entriesOf result).Perm group) middle groups) :
    ∃ other, List.Forall₂ SameFindings middle other ∧ other.map entriesOf = groups := by
  induction inner with
  | nil => exact ⟨[], .nil, rfl⟩
  | cons perm _ ih =>
    obtain ⟨first, same, rfl⟩ := exists_of_entriesOf_perm perm
    obtain ⟨rest, sameRest, rfl⟩ := ih
    exact ⟨first :: rest, .cons same sameRest, rfl⟩

theorem exists_of_reordered_entries
    (reordered : FirstWins.Reordered (results.map entriesOf) groups) :
    ∃ other, Reordered results other ∧ other.map entriesOf = groups := by
  obtain ⟨arrangement, outer, inner⟩ := reordered
  have mapped := congrFun₂ (List.eq_map_comp_perm entriesOf) arrangement results
  obtain ⟨middle, rfl, middlePerm⟩ := mapped.mpr outer.symm
  rw [List.forall₂_map_left_iff] at inner
  obtain ⟨other, same, isGroups⟩ := exists_of_forall₂_perm inner
  exact ⟨other, ⟨middle, middlePerm.symm, same⟩, isGroups⟩

/-- The text does not depend on the order of discovery exactly if the results are settled. -/
theorem exportJson_orderFree_iff {exporter : Exporter} (lawful : exporter.serializer.Lawful)
    (results : List NamedScanResult) :
    (∀ other, Reordered results other → ∀ drawn later,
        exportJson exporter later other = exportJson exporter drawn results) ↔
      Settled exporter.case results := by
  rw [Settled, ← FirstWins.arranged_orderFree_iff]
  constructor
  · intro orderFree groups reordered
    obtain ⟨other, isOther, rfl⟩ := exists_of_reordered_entries reordered
    exact (exportJson_eq_iff lawful ⟨"", epoch, epoch⟩ ⟨"", epoch, epoch⟩ results other).mp
      (orderFree other isOther _ _)
  · intro orderFree other reordered drawn later
    exact (exportJson_eq_iff lawful drawn later results other).mpr
      (orderFree _ (reordered_entries reordered))

theorem settled_of_nodup (nodup : ((results.map entriesOf).flatten.map entryKey).Nodup)
    (places : ((results.map entriesOf).flatten.map fun entry =>
      sortKey (described case entry)).Nodup) : Settled case results :=
  FirstWins.settled_of_nodup nodup fun left isLeft right isRight same => by
    rw [List.inj_on_of_nodup_map places isLeft isRight same]

instance countableChar : Countable Char :=
  Function.Injective.countable (f := Char.toNat) fun _ _ same => Char.toNat_inj.mp same

instance countableString : Countable String :=
  Function.Injective.countable (f := String.toList) fun _ _ same => String.toList_inj.mp same

deriving instance Countable for DateTime, PqcStatus, CategoryScore, ProviderScore, PostureSummary,
  CipherSuiteInfo, ProtocolProperties, CertificateProperties, AlgorithmProperties,
  CryptoProperties, ComponentEvidence, CryptoComponent, CryptoService, ToolInfo, BomMetadata,
  CryptoBom

theorem exists_lawful_exporter (case : CaseMapping) :
    ∃ exporter : Exporter, exporter.serializer.Lawful ∧ exporter.case = case := by
  obtain ⟨number, injective⟩ := exists_injective_nat CryptoBom
  let serializer : Serializer := ⟨fun bom => toString (number bom), fun _ => []⟩
  refine ⟨⟨samplePlatform, case, "0.1.5", serializer⟩, ?_, rfl⟩
  intro left right same
  refine injective (toDigits_inj.mp ?_)
  rw [← toString_toList, ← toString_toList]
  exact congrArg String.toList same

def sampleLibrary (name manifest : String) : NamedFinding where
  category := .classicalCrypto
  severity := .medium
  title := "Crypto dependency: " ++ name
  description := "d"
  asset := ⟨.cryptoLibrary, none, none, none, manifest, "dependency", ⟨0⟩⟩
  remediation := none
  pqcStatus := .classicalSecure
  metadata := []
  id := "finding"
  name := name

def sampleInventory : List NamedScanResult :=
  [⟨"dependency", [sampleLibrary "ring" "Cargo.toml", sampleLibrary "ml-dsa" "Cargo.toml"]⟩]

theorem sampleInventory_settled : Settled asciiCase sampleInventory := by
  refine settled_of_nodup (by decide) ?_
  have names : ((sampleInventory.map entriesOf).flatten.map fun entry => entry.2.name).Nodup := by
    decide
  refine List.Nodup.of_map (fun place => (ofLex place).1) ?_
  rw [List.map_map]
  exact names

theorem exportJson_orderFree_two_libraries :
    ∃ exporter : Exporter, exporter.serializer.Lawful ∧
      ∀ other, Reordered sampleInventory other → ∀ drawn later,
        exportJson exporter later other = exportJson exporter drawn sampleInventory := by
  obtain ⟨exporter, lawful, isAscii⟩ := exists_lawful_exporter asciiCase
  refine ⟨exporter, lawful, (exportJson_orderFree_iff lawful sampleInventory).mpr ?_⟩
  rw [isAscii]
  exact sampleInventory_settled

def sampleManifests : List NamedScanResult :=
  [⟨"dependency", [sampleLibrary "ring" "Cargo.toml", sampleLibrary "ring" "crates/a/Cargo.toml"]⟩]

def sampleManifestsReversed : List NamedScanResult :=
  [⟨"dependency", [sampleLibrary "ring" "crates/a/Cargo.toml", sampleLibrary "ring" "Cargo.toml"]⟩]

theorem sampleManifests_reordered : Reordered sampleManifests sampleManifestsReversed :=
  ⟨sampleManifests, .refl _, .cons ⟨rfl, .swap _ _ _⟩ .nil⟩

theorem exportJson_depends_on_order :
    ∃ exporter : Exporter, exporter.serializer.Lawful ∧
      Reordered sampleManifests sampleManifestsReversed ∧
      ∃ drawn, exportJson exporter drawn sampleManifestsReversed ≠
        exportJson exporter drawn sampleManifests := by
  obtain ⟨exporter, lawful, isAscii⟩ := exists_lawful_exporter asciiCase
  refine ⟨exporter, lawful, sampleManifests_reordered, ⟨"", epoch, epoch⟩, ?_⟩
  rw [Ne, exportJson_eq_iff lawful, isAscii]
  intro same
  have sources := congrArg (List.map fun component => component.evidence.source) same
  revert sources
  decide

end QuantaWatch.Cbom.Exact
