import QuantaWatch.Cbom.Deterministic

/-!
Reproducible documents as fixed points, and the references in them.
-/

namespace QuantaWatch.Cbom.Exact

open Crypto Lib Lib.Collections Lib.Encoding Lib.Text

def slashed (path : String) : List Char :=
  path.toList.map fun char => if char = '\\' then '/' else char

/-- A path with a second `./` behind the first. -/
def StripsAgain (path : String) : Prop := ['.', '/', '.', '/'] <+: slashed path

instance (path : String) : Decidable (StripsAgain path) :=
  inferInstanceAs (Decidable (_ <+: _))

variable (path : String)

theorem replaceChars_toList : (replaceChars (· = '\\') "/" path).toList = slashed path := by
  rw [replaceChars, String.toList_ofList, slashed]
  induction path.toList with
  | nil => rfl
  | cons char chars ih =>
    rw [List.flatMap_cons, ih, List.map_cons]
    by_cases isBackslash : char = '\\' <;> simp [isBackslash]

theorem normalizePath_toList : (normalizePath path).toList =
      if ['.', '/'] <+: slashed path then (slashed path).drop 2 else slashed path := by
  rw [normalizePath]
  simp only [replaceChars_toList, show "./".toList = ['.', '/'] from rfl]
  split_ifs
  · rw [String.toList_ofList]
  · exact replaceChars_toList path

theorem slashed_normalizePath : slashed (normalizePath path) = (normalizePath path).toList := by
  have clean : ∀ char ∈ slashed path, char ≠ '\\' := by
    intro char member
    obtain ⟨before, _, rfl⟩ := List.mem_map.mp member
    split_ifs with isBackslash
    · decide
    · exact isBackslash
  have kept : ∀ char ∈ (normalizePath path).toList, char ≠ '\\' := by
    rw [normalizePath_toList]
    split_ifs
    · exact fun char member => clean char (List.mem_of_mem_drop member)
    · exact clean
  rw [slashed]
  exact (List.map_congr_left fun char member => if_neg (kept char member)).trans (List.map_id _)

/-- What is left of a path starts with `./` if there was a second one. -/
theorem prefix_normalizePath_iff :
    ['.', '/'] <+: (normalizePath path).toList ↔ StripsAgain path := by
  rw [normalizePath_toList, StripsAgain]
  split_ifs with starts
  · obtain ⟨rest, split⟩ := starts
    rw [← split]
    simp
  · refine iff_of_false starts fun longer => starts ?_
    exact List.IsPrefix.trans (List.prefix_append ['.', '/'] ['.', '/']) longer

/-- A second pass over a path only makes it shorter, and does so exactly if there was a second
`./`. -/
theorem length_normalizePath_twice :
    (normalizePath (normalizePath path)).length ≤ (normalizePath path).length ∧
      (StripsAgain path →
        (normalizePath (normalizePath path)).length < (normalizePath path).length) := by
  rw [← String.length_toList, ← String.length_toList, normalizePath_toList (normalizePath path),
    slashed_normalizePath]
  split_ifs with starts
  · have long := starts.length_le
    rw [List.length_cons, List.length_cons, List.length_nil] at long
    rw [List.length_drop]
    exact ⟨Nat.sub_le _ _, fun _ => by omega⟩
  · exact ⟨le_rfl, fun strips => absurd ((prefix_normalizePath_iff path).mpr strips) starts⟩

theorem normalizePath_twice {path : String} (once : ¬ StripsAgain path) :
    normalizePath (normalizePath path) = normalizePath path := by
  rw [← String.toList_inj, normalizePath_toList (normalizePath path), slashed_normalizePath,
    if_neg fun starts => once ((prefix_normalizePath_iff path).mp starts)]

section

variable {platform : Platform} {compact : CryptoBom → Bytes} {bom : CryptoBom}

theorem components_makeDeterministic : (makeDeterministic platform compact bom).components =
      (sortOn sortKey (bom.components.map pinComponent)).map (referTo platform) :=
  rfl

def sourceLength (component : CryptoComponent) : Nat := component.evidence.source.length

variable (component : CryptoComponent)

@[simp] theorem source_pinComponent :
    (pinComponent component).evidence.source = normalizePath component.evidence.source :=
  rfl

@[simp] theorem source_referTo :
    (referTo platform component).evidence.source = component.evidence.source :=
  rfl

theorem sources_makeDeterministic :
    ((makeDeterministic platform compact bom).components.map sourceLength).Perm
      (bom.components.map fun component => (normalizePath component.evidence.source).length) := by
  rw [components_makeDeterministic, List.map_map]
  refine ((sortOn_perm sortKey _).map _).trans (.of_eq ?_)
  rw [List.map_map]
  refine List.map_congr_left fun component _ => ?_
  simp only [Function.comp_apply, sourceLength, source_referTo, source_pinComponent]

theorem sources_makeDeterministic_twice : ((makeDeterministic platform compact
        (makeDeterministic platform compact bom)).components.map sourceLength).Perm
      (bom.components.map fun component =>
        (normalizePath (normalizePath component.evidence.source)).length) := by
  refine sources_makeDeterministic.trans ?_
  rw [components_makeDeterministic, List.map_map]
  refine ((sortOn_perm sortKey _).map _).trans (.of_eq ?_)
  rw [List.map_map]
  refine List.map_congr_left fun component _ => ?_
  simp only [Function.comp_apply, source_referTo, source_pinComponent]

theorem pinComponent_referTo
    (once : ∀ component ∈ bom.components, ¬ StripsAgain component.evidence.source) :
    ((sortOn sortKey (bom.components.map pinComponent)).map (referTo platform)).map pinComponent =
      (sortOn sortKey (bom.components.map pinComponent)).map (referTo platform) := by
  rw [List.map_map]
  refine List.map_congr_left fun component member => ?_
  obtain ⟨original, isOriginal, rfl⟩ := List.mem_map.mp (mem_sortOn.mp member)
  have fixed := normalizePath_twice (once original isOriginal)
  simp only [Function.comp_apply, referTo, pinComponent, fixed]

/-- A document that was made reproducible stays as it is exactly if no path had a second `./`. -/
theorem makeDeterministic_idem_iff :
    makeDeterministic platform compact (makeDeterministic platform compact bom) =
        makeDeterministic platform compact bom ↔
      ∀ component ∈ bom.components, ¬ StripsAgain component.evidence.source := by
  constructor
  · intro same component member strips
    have lengths := congrArg (fun document => (document.components.map sourceLength).sum) same
    simp only [sources_makeDeterministic_twice.sum_eq, sources_makeDeterministic.sum_eq] at lengths
    refine absurd lengths (Nat.ne_of_lt (List.sum_lt_sum _ _ ?_ ⟨component, member, ?_⟩))
    · exact fun other _ => (length_normalizePath_twice _).1
    · exact (length_normalizePath_twice _).2 strips
  · intro once
    have components : (sortOn sortKey (((sortOn sortKey (bom.components.map pinComponent)).map
        (referTo platform)).map pinComponent)).map (referTo platform) =
        (sortOn sortKey (bom.components.map pinComponent)).map (referTo platform) := by
      rw [pinComponent_referTo once]
      exact @sortOn_map_idem _ _ _ sortKey (referTo platform) (fun _ => rfl) (fun _ => rfl) _
    have services : (sortOn serviceKey ((sortOn serviceKey bom.services).map
        (referToService platform))).map (referToService platform) =
        (sortOn serviceKey bom.services).map (referToService platform) :=
      @sortOn_map_idem _ _ _ serviceKey (referToService platform) (fun _ => rfl) (fun _ => rfl) _
    unfold makeDeterministic numberDocument
    dsimp only
    rw [components, services]

end

def referenceText (finding : NamedFinding) : String :=
  componentTypeOf finding.asset.assetType ++ "|" ++ finding.name ++ "|" ++
    normalizePath finding.asset.path

def SameReference (left right : NamedFinding) : Prop :=
  (left.asset.assetType = .cryptoLibrary ↔ right.asset.assetType = .cryptoLibrary) ∧
    left.name ++ "|" ++ normalizePath left.asset.path =
      right.name ++ "|" ++ normalizePath right.asset.path

def TellsApart (platform : Platform) (texts : List String) : Prop :=
  ∀ left ∈ texts, ∀ right ∈ texts,
    slice (sha3_256Hex platform (utf8 left)) 0 16 = slice (sha3_256Hex platform (utf8 right)) 0 16 →
      left = right

theorem componentTypeOf_eq_iff {left right : Scanner.CryptoAssetType} :
    componentTypeOf left = componentTypeOf right ↔
      (left = .cryptoLibrary ↔ right = .cryptoLibrary) := by
  cases left <;> cases right <;> decide

theorem referenceText_eq_iff {left right : NamedFinding} :
    referenceText left = referenceText right ↔ SameReference left right := by
  have free : ∀ assetType, '|' ∉ (componentTypeOf assetType).toList := by
    intro assetType
    cases assetType <;> simp [componentTypeOf]
  have split : ∀ finding : NamedFinding, (referenceText finding).toList =
      (componentTypeOf finding.asset.assetType).toList ++
        '|' :: (finding.name ++ "|" ++ normalizePath finding.asset.path).toList := by
    intro finding
    simp [referenceText]
  rw [← String.toList_inj, split, split, append_separator_inj (free _) (free _), String.toList_inj,
    String.toList_inj, componentTypeOf_eq_iff, SameReference]

def documentFrom (case : CaseMapping) (packageVersion : String) (drawn : Drawn)
    (fingerprint : String) (posture : PostureSummary) (providers : List ProviderCryptoInfo)
    (results : List NamedScanResult) : CryptoBom :=
  ((CbomBuilder.new.ingestScanResults case (dedupeScanResults results)).ingestProviderInfo case
    providers).buildWithPosture packageVersion drawn fingerprint posture

def Apart (results : List NamedScanResult) : Prop :=
  (keptEntries results).Pairwise fun left right => ¬ SameReference left.2 right.2

section

variable {platform : Platform} {compact : CryptoBom → Bytes} {case : CaseMapping}
  {packageVersion : String} {drawn : Drawn} {fingerprint : String} {posture : PostureSummary}
  {providers : List ProviderCryptoInfo} {results : List NamedScanResult}

theorem bomRefs_perm :
    ((makeDeterministic platform compact (documentFrom case packageVersion drawn fingerprint posture
        providers results)).components.map CryptoComponent.bomRef).Perm
      ((keptEntries results).map fun entry =>
        "comp-" ++ slice (sha3_256Hex platform (utf8 (referenceText entry.2))) 0 16) := by
  have components : (documentFrom case packageVersion drawn fingerprint posture providers
      results).components =
        (keptEntries results).map fun entry => findingToComponent case entry.1 entry.2 :=
    congrArg CbomBuilder.components (ingestScanResults_dedupeScanResults case results)
  rw [components_makeDeterministic, components, List.map_map]
  refine ((sortOn_perm sortKey _).map _).trans (.of_eq ?_)
  rw [List.map_map, List.map_map]
  rfl

theorem nodup_bomRefs_iff
    (apart : TellsApart platform ((keptEntries results).map fun entry => referenceText entry.2)) :
    ((makeDeterministic platform compact (documentFrom case packageVersion drawn fingerprint posture
        providers results)).components.map CryptoComponent.bomRef).Nodup ↔ Apart results := by
  rw [bomRefs_perm.nodup_iff, List.Nodup, List.pairwise_map, Apart]
  refine List.Pairwise.iff_of_mem fun {left right} isLeft isRight => not_congr ?_
  rw [String.append_right_inj, ← referenceText_eq_iff]
  refine ⟨?_, fun same => by rw [same]⟩
  exact apart _ (List.mem_map_of_mem isLeft) _ (List.mem_map_of_mem isRight)

end

/-- Making a document reproducible is done once exactly if no path has a second `./`, and its
components have different references exactly if no two findings that are kept have one. -/
theorem makeDeterministic_fixed_and_unique_iff (platform : Platform)
    (compact : CryptoBom → Bytes) :
    (∀ bom, makeDeterministic platform compact (makeDeterministic platform compact bom) =
        makeDeterministic platform compact bom ↔
      ∀ component ∈ bom.components, ¬ StripsAgain component.evidence.source) ∧
    ∀ case packageVersion drawn fingerprint posture providers results,
      TellsApart platform ((keptEntries results).map fun entry => referenceText entry.2) →
        (((makeDeterministic platform compact (documentFrom case packageVersion drawn fingerprint
          posture providers results)).components.map CryptoComponent.bomRef).Nodup ↔
            Apart results) :=
  ⟨fun _ => makeDeterministic_idem_iff,
    fun _ _ _ _ _ _ _ => nodup_bomRefs_iff⟩

theorem two_libraries_have_two_references :
    TellsApart samplePlatform
        ((keptEntries sampleInventory).map fun entry => referenceText entry.2) ∧
      ((makeDeterministic samplePlatform (fun _ => []) (documentFrom asciiCase "0.1.5"
        ⟨"", epoch, epoch⟩ "cli" (summarize [] [] epoch) [] sampleInventory)).components.map
          CryptoComponent.bomRef).Nodup := by
  have apart : TellsApart samplePlatform
      ((keptEntries sampleInventory).map fun entry => referenceText entry.2) := by
    unfold TellsApart
    decide +kernel
  refine ⟨apart, ((makeDeterministic_fixed_and_unique_iff samplePlatform fun _ => []).2 _ _ _ _ _ _
    sampleInventory apart).mpr ?_⟩
  unfold Apart SameReference
  decide +kernel

def sampleEndpoint (category : Scanner.FindingCategory) : NamedFinding where
  category
  severity := .medium
  title := "TLS endpoint"
  description := "d"
  asset := ⟨.tlsConnection, none, none, none, "api.example.com:443", "network", ⟨0⟩⟩
  remediation := none
  pqcStatus := .classicalSecure
  metadata := []
  id := "finding"
  name := "api.example.com"

def sampleEndpoints : List NamedScanResult :=
  [⟨"tls", [sampleEndpoint .classicalCrypto, sampleEndpoint .missingPqc]⟩]

/-- The document of a library that was found below `././`. -/
def sampleDotted : CryptoBom :=
  documentFrom asciiCase "0.1.5" ⟨"", epoch, epoch⟩ "cli" (summarize [] [] epoch) []
    [⟨"dependency", [sampleLibrary "ring" "././Cargo.toml"]⟩]

theorem makeDeterministic_repeats :
    (∀ compact, makeDeterministic samplePlatform compact
        (makeDeterministic samplePlatform compact sampleDotted) ≠
      makeDeterministic samplePlatform compact sampleDotted) ∧
    TellsApart samplePlatform
        ((keptEntries sampleEndpoints).map fun entry => referenceText entry.2) ∧
      ∀ compact, ¬ ((makeDeterministic samplePlatform compact (documentFrom asciiCase "0.1.5"
        ⟨"", epoch, epoch⟩ "cli" (summarize [] [] epoch) [] sampleEndpoints)).components.map
          CryptoComponent.bomRef).Nodup := by
  have apart : TellsApart samplePlatform
      ((keptEntries sampleEndpoints).map fun entry => referenceText entry.2) := by
    unfold TellsApart
    decide +kernel
  refine ⟨fun compact => ?_, apart, fun compact => ?_⟩
  · rw [Ne, makeDeterministic_idem_iff]
    decide +kernel
  · rw [nodup_bomRefs_iff apart]
    unfold Apart SameReference
    decide +kernel

end QuantaWatch.Cbom.Exact
