import QuantaWatch.AttackGraph.Paths

/-!
The attack paths of weak dependencies.
-/

namespace QuantaWatch.AttackGraph

open Lib Lib.Text Scanner Store

def libraryName (finding : FindingRecord) : String :=
  replace finding.title "Crypto dependency: " ""

variable {finding : FindingRecord} {library : String}

theorem libraryOf_eq_some_iff : libraryOf finding = some library ↔
      finding.assetType = .cryptoLibrary ∧ isClassical finding.pqcStatus = true ∧
        libraryName finding = library := by
  rw [libraryOf]
  split_ifs with isLibrary
  · rw [Option.some.injEq]
    exact ⟨fun same => ⟨isLibrary.1, isLibrary.2, same⟩, fun all => all.2.2⟩
  · exact ⟨False.elim,
      fun all => absurd ⟨all.1, all.2.1⟩ isLibrary⟩

theorem libraryOf_of_weak (isLibrary : finding.assetType = .cryptoLibrary)
    (weak : finding.pqcStatus = .classicalWeak) : libraryOf finding = some (libraryName finding) :=
  libraryOf_eq_some_iff.mpr ⟨isLibrary, by rw [weak]; rfl, rfl⟩

def firstAbout (findings : List FindingRecord) (library : String) : Option FindingRecord :=
  findings.find? fun finding => libraryOf finding = some library

theorem mem_newLibraries (findings : List FindingRecord) (seen : List String) :
    (library, finding) ∈ newLibraries seen findings ↔
      library ∉ seen ∧ firstAbout findings library = some finding := by
  induction findings generalizing seen with
  | nil => simp [newLibraries, firstAbout]
  | cons head findings ih =>
    rw [newLibraries, firstAbout, List.find?_cons]
    cases about : libraryOf head with
    | none => simpa [firstAbout] using ih seen
    | some other =>
      by_cases same : other = library
      · subst same
        by_cases isSeen : other ∈ seen
        · simp [isSeen, ih]
        · simp [isSeen, ih, eq_comm]
      · have differ : library ≠ other := Ne.symm same
        have later := ih (if other ∈ seen then seen else other :: seen)
        rw [firstAbout] at later
        by_cases isSeen : other ∈ seen
        · simpa [isSeen, same] using later
        · simpa [isSeen, same, differ] using later

def IsPathFor (library : String) (path : AttackPath) : Prop :=
  path.kind = .externalAsset ∧ path.nodeIds = ["dependency:" ++ library]

def dependencyPaths (graph : Graph) : Set AttackPath :=
  {path | path ∈ graph.paths ∧ ∃ library, IsPathFor library path}

theorem isPathFor_dependencyPath {other : String} :
    IsPathFor library (dependencyPath finding other) ↔ other = library := by
  simp [IsPathFor, dependencyPath, String.append_right_inj]

theorem dependencyPath_eq_iff {other : FindingRecord} :
    dependencyPath finding library = dependencyPath other library ↔
      finding.pqcStatus = other.pqcStatus ∧ finding.location = other.location := by
  constructor
  · intro same
    have advice := congrArg AttackPath.recommendation same
    simp only [dependencyPath, String.append_left_inj, String.append_right_inj] at advice
    exact ⟨congrArg AttackPath.channelPqc same, advice⟩
  · intro ⟨status, location⟩
    rw [dependencyPath, dependencyPath, status, location]

section Graphs

variable {case : CaseMapping} {inputs : GraphInputs} {overrides : Overrides}

theorem path_for_library_iff {library : String} {path : AttackPath} :
    path ∈ (buildGraph case inputs overrides).paths ∧ IsPathFor library path ↔
      ∃ finding, firstAbout (liveFindings inputs) library = some finding ∧
        finding.pqcStatus = .classicalWeak ∧ path = dependencyPath finding library := by
  rw [paths_buildGraph.mem_iff]
  constructor
  · rintro ⟨member, isPath⟩
    simp only [allPaths, List.mem_append, List.mem_flatMap, or_assoc] at member
    obtain ⟨agent, _, isAgents⟩ | isDependency | isAsset | ⟨target, _, isService⟩ := member
    · obtain isAccess | isFlow := List.mem_append.mp isAgents
      · obtain ⟨identity, _, rfl⟩ := List.mem_map.mp isAccess
        exact PathKind.noConfusion isPath.1
      · obtain ⟨provider, _, rfl⟩ := List.mem_map.mp isFlow
        exact PathKind.noConfusion isPath.1
    · obtain ⟨⟨other, finding⟩, isEntry, rfl⟩ := List.mem_map.mp isDependency
      obtain ⟨isNew, weak⟩ := List.mem_filter.mp isEntry
      have same : other = library := isPathFor_dependencyPath.mp isPath
      subst same
      exact ⟨finding, ((mem_newLibraries _ _).mp isNew).2, of_decide_eq_true weak, rfl⟩
    · obtain ⟨asset, _, rfl⟩ := List.mem_map.mp isAsset
      have sameId := congrArg (fun ids => ids.map fun id : String => id.toList.head?) isPath.2
      simp [assetPath] at sameId
    · obtain ⟨service, _, rfl⟩ := List.mem_map.mp isService
      exact absurd (congrArg List.length isPath.2) (by simp [servicePath])
  · rintro ⟨finding, isFirst, weak, rfl⟩
    refine ⟨?_, isPathFor_dependencyPath.mpr rfl⟩
    have isNew := (mem_newLibraries (liveFindings inputs) []).mpr ⟨List.not_mem_nil, isFirst⟩
    simp only [allPaths, List.mem_append, or_assoc]
    exact .inr (.inl (List.mem_map.mpr
      ⟨(library, finding), List.mem_filter.mpr ⟨isNew, decide_eq_true weak⟩, rfl⟩))

def EachWeakHasPath (findings : List FindingRecord) (graph : Graph) : Prop :=
  ∀ finding ∈ findings, finding.status ≠ .suppressed → finding.assetType = .cryptoLibrary →
    finding.pqcStatus = .classicalWeak →
      ∃ path ∈ graph.paths, IsPathFor (libraryName finding) path

end Graphs

def Agreed (inputs : GraphInputs) : Prop :=
  ∀ finding ∈ liveFindings inputs, ∀ other ∈ liveFindings inputs, ∀ library,
    libraryOf finding = some library → libraryOf other = some library →
      finding.pqcStatus = .classicalWeak →
        other.pqcStatus = .classicalWeak ∧ other.location = finding.location

section Orders

variable {case : CaseMapping} {inputs : GraphInputs} {overrides : Overrides}

variable {arranged findings : List FindingRecord} {finding : FindingRecord} {library : String}

theorem mem_liveFindings_of_perm (reordered : arranged.Perm inputs.findings) :
    finding ∈ liveFindings { inputs with findings := arranged } ↔
      finding ∈ liveFindings inputs :=
  (reordered.filter _).mem_iff

theorem firstAbout_spec (isFirst : firstAbout findings library = some finding) :
    finding ∈ findings ∧ libraryOf finding = some library :=
  ⟨List.mem_of_find?_eq_some isFirst, by simpa using List.find?_some isFirst⟩

theorem exists_firstAbout (member : finding ∈ findings) (about : libraryOf finding = some library) :
    ∃ first, firstAbout findings library = some first :=
  Option.isSome_iff_exists.mp
    (List.find?_isSome.mpr ⟨finding, member, decide_eq_true about⟩)

theorem path_for_library_of_agreed (agreed : Agreed inputs)
    (reordered : arranged.Perm inputs.findings) {path : AttackPath} :
    path ∈ (buildGraph case { inputs with findings := arranged } overrides).paths ∧
        IsPathFor library path ↔
      ∃ finding ∈ liveFindings inputs, libraryOf finding = some library ∧
        finding.pqcStatus = .classicalWeak ∧ path = dependencyPath finding library := by
  rw [path_for_library_iff]
  constructor
  · rintro ⟨finding, isFirst, weak, isPath⟩
    obtain ⟨member, about⟩ := firstAbout_spec isFirst
    exact ⟨finding, (mem_liveFindings_of_perm reordered).mp member, about, weak, isPath⟩
  · rintro ⟨finding, member, about, weak, isPath⟩
    obtain ⟨first, isFirst⟩ :=
      exists_firstAbout ((mem_liveFindings_of_perm reordered).mpr member) about
    obtain ⟨isLive, firstAbout⟩ := firstAbout_spec isFirst
    obtain ⟨firstWeak, sameLocation⟩ := agreed finding member first
      ((mem_liveFindings_of_perm reordered).mp isLive) library about firstAbout weak
    refine ⟨first, isFirst, firstWeak, isPath.trans ?_⟩
    exact dependencyPath_eq_iff.mpr ⟨weak.trans firstWeak.symm, sameLocation.symm⟩

theorem exists_firstAbout_of_mem (member : finding ∈ liveFindings inputs)
    (about : libraryOf finding = some library) : ∃ arranged, arranged.Perm inputs.findings ∧
      firstAbout (liveFindings { inputs with findings := arranged }) library = some finding := by
  obtain ⟨stored, isLive⟩ := List.mem_filter.mp member
  obtain ⟨front, back, split⟩ := List.append_of_mem stored
  refine ⟨finding :: (front ++ back), ?_, ?_⟩
  · rw [split]
    exact List.perm_middle.symm
  · simp [firstAbout, liveFindings, of_decide_eq_true isLive, about]

/-- Every weak dependency has a path in any order of the findings, and the paths about libraries
are the same in all of them, exactly if the findings about a weak library agree. -/
theorem eachWeakHasPath_orderFree_iff :
    (∀ arranged, arranged.Perm inputs.findings →
      EachWeakHasPath arranged (buildGraph case { inputs with findings := arranged } overrides) ∧
        dependencyPaths (buildGraph case { inputs with findings := arranged } overrides) =
          dependencyPaths (buildGraph case inputs overrides)) ↔ Agreed inputs := by
  constructor
  · intro always finding member other isOther library about otherAbout weak
    obtain ⟨first, reordered, isFirst⟩ := exists_firstAbout_of_mem member about
    obtain ⟨second, otherReordered, isSecond⟩ := exists_firstAbout_of_mem isOther otherAbout
    -- with the weak finding in front, its path is in the graph
    have drawn := (@path_for_library_iff case _ overrides _ _).mpr
      ⟨finding, isFirst, weak, rfl⟩
    have same := (always first reordered).2.trans (always second otherReordered).2.symm
    have kept : dependencyPath finding library ∈
        dependencyPaths (buildGraph case { inputs with findings := second } overrides) := by
      rw [← same]
      exact ⟨drawn.1, library, drawn.2⟩
    -- with the other in front, only its own path can be
    obtain ⟨last, isLast, lastWeak, samePath⟩ := path_for_library_iff.mp
      ⟨kept.1, drawn.2⟩
    rw [isSecond, Option.some.injEq] at isLast
    subst isLast
    exact ⟨lastWeak, (dependencyPath_eq_iff.mp samePath).2.symm⟩
  · intro agreed arranged reordered
    refine ⟨?_, ?_⟩
    · intro finding member isLive isLibrary weak
      have about := libraryOf_of_weak isLibrary weak
      have live : finding ∈ liveFindings inputs :=
        List.mem_filter.mpr ⟨reordered.mem_iff.mp member, decide_eq_true isLive⟩
      exact ⟨_, path_for_library_of_agreed agreed reordered |>.mpr
        ⟨finding, live, about, weak, rfl⟩⟩
    · ext path
      simp only [dependencyPaths, Set.mem_ofPred_eq, ← exists_and_left]
      refine exists_congr fun library => ?_
      rw [path_for_library_of_agreed agreed reordered]
      exact (path_for_library_of_agreed agreed (.refl inputs.findings)).symm

end Orders

def dependencyFinding (id : String) (status : PqcStatus) (manifest : String) : FindingRecord where
  id
  scanId := "s1"
  category := .classicalCrypto
  severity := .medium
  title := "Crypto dependency: openssl"
  description := ""
  assetType := .cryptoLibrary
  algorithm := none
  pqcStatus := status
  location := manifest
  remediation := none
  createdAt := ⟨0⟩
  confidence := .high
  evidence := []
  status := .opened
  note := none

def findingInputs (findings : List FindingRecord) : GraphInputs where
  providers := []
  identities := []
  agents := []
  flows := []
  findings
  assets := []
  targets := []

def newOpenssl : FindingRecord :=
  dependencyFinding "f1" .classicalSecure "service/Cargo.toml"

def oldOpenssl : FindingRecord :=
  dependencyFinding "f2" .classicalWeak "legacy/Cargo.toml"

theorem old_openssl_has_no_path :
    ¬ EachWeakHasPath [newOpenssl, oldOpenssl]
        (buildGraph asciiCase (findingInputs [newOpenssl, oldOpenssl]) fun _ => none) ∧
      dependencyPaths
          (buildGraph asciiCase (findingInputs [newOpenssl, oldOpenssl]) fun _ => none) ≠
        dependencyPaths
          (buildGraph asciiCase (findingInputs [oldOpenssl, newOpenssl]) fun _ => none) := by
  have secureFirst :
      firstAbout (liveFindings (findingInputs [newOpenssl, oldOpenssl])) "openssl" =
        some newOpenssl := by
    decide +kernel
  have weakFirst :
      firstAbout (liveFindings (findingInputs [oldOpenssl, newOpenssl])) "openssl" =
        some oldOpenssl := by
    decide +kernel
  have noPath : ∀ path,
      path ∈ (buildGraph asciiCase (findingInputs [newOpenssl, oldOpenssl]) fun _ => none).paths →
        ¬ IsPathFor "openssl" path := by
    intro path member isPath
    obtain ⟨finding, isFirst, weak, -⟩ := path_for_library_iff.mp ⟨member, isPath⟩
    rw [secureFirst, Option.some.injEq] at isFirst
    subst isFirst
    exact PqcStatus.noConfusion weak
  refine ⟨?_, ?_⟩
  · intro each
    obtain ⟨path, member, isPath⟩ := each oldOpenssl (by simp) (by decide) rfl rfl
    have named : libraryName oldOpenssl = "openssl" := by decide +kernel
    exact noPath path member (named ▸ isPath)
  · intro same
    have drawn := (@path_for_library_iff asciiCase _ (fun _ => none) _ _).mpr
      ⟨oldOpenssl, weakFirst, rfl, rfl⟩
    have kept : dependencyPath oldOpenssl "openssl" ∈ dependencyPaths
        (buildGraph asciiCase (findingInputs [newOpenssl, oldOpenssl]) fun _ => none) := by
      rw [same]
      exact ⟨drawn.1, "openssl", drawn.2⟩
    exact noPath _ kept.1 drawn.2

end QuantaWatch.AttackGraph
