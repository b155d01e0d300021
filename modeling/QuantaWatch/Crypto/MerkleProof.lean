import QuantaWatch.Crypto.Sample

/-!
Merkle proofs of `qw-crypto` and how they are made (`merkle.rs`).
-/

namespace QuantaWatch.Crypto

open Lib.Encoding

structure ProofNode where
  hash : Digest
  isLeft : Bool

structure MerkleProof where
  leaf : Digest
  proof : List ProofNode
  root : Digest

def ProofNode.combined (node : ProofNode) (current : Digest) : Bytes :=
  if node.isLeft then node.hash.bytes ++ current.bytes else current.bytes ++ node.hash.bytes

variable (platform : Platform)

namespace MerkleTree

def walk (leaf : Digest) (path : List ProofNode) : Digest :=
  path.foldl (fun current node => platform.sha3_256 (node.combined current)) leaf

def verifyProof (proof : MerkleProof) : Bool :=
  walk platform proof.leaf proof.proof = proof.root

/-- The nodes that are hashed together, `chunks(2)` with an odd last node doubled. -/
def pairs : List Digest → List (Digest × Digest)
  | [] => []
  | [last] => [(last, last)]
  | left :: right :: rest => (left, right) :: pairs rest

def level (leaves : List Digest) (number : Nat) : List Digest :=
  (nextLevel platform)^[number] leaves

def height (leaves : List Digest) : Nat := Nat.clog 2 leaves.length

variable {platform} {leaves nodes : List Digest}

theorem nextLevel_eq_map : nextLevel platform nodes =
    (pairs nodes).map fun pair => combine platform pair.1 pair.2 := by
  fun_induction nextLevel platform nodes with
  | case1 => rfl
  | case2 last => rfl
  | case3 left right rest ih => rw [pairs, List.map_cons, ih]

theorem mem_of_mem_pairs {pair : Digest × Digest} (member : pair ∈ pairs nodes) :
    pair.1 ∈ nodes ∧ pair.2 ∈ nodes := by
  fun_induction pairs nodes with
  | case1 => contradiction
  | case2 last =>
    rw [List.mem_singleton] at member
    simp [member]
  | case3 left right rest ih =>
    rcases List.mem_cons.mp member with rfl | later
    · simp
    · simp [ih later]

theorem length_nextLevel (nodes : List Digest) :
    (nextLevel platform nodes).length = (nodes.length + 1) / 2 := by
  fun_induction nextLevel platform nodes with
  | case1 => rfl
  | case2 last => simp
  | case3 left right rest ih =>
    rw [List.length_cons, List.length_cons, List.length_cons, ih]
    omega

theorem height_nextLevel (several : 2 ≤ nodes.length) :
    height nodes = height (nextLevel platform nodes) + 1 := by
  rw [height, height, length_nextLevel, Nat.clog_of_two_le (by omega) several]
  rfl

theorem climb_eq_level {fuel : Nat} (nonempty : nodes ≠ []) (enough : height nodes ≤ fuel) :
    level platform nodes (height nodes) = [climb platform fuel nodes] := by
  induction fuel generalizing nodes with
  | zero =>
    match nodes, nonempty with
    | [root], _ => rfl
    | first :: second :: rest, _ =>
      have taller := @height_nextLevel platform (first :: second :: rest) (by simp)
      omega
  | succ fuel ih =>
    match nodes, nonempty with
    | [root], _ => rfl
    | first :: second :: rest, _ =>
      have taller := @height_nextLevel platform (first :: second :: rest) (by simp)
      have above := @ih (nextLevel platform (first :: second :: rest))
        (by simp [nextLevel]) (by omega)
      rw [taller]
      exact above

theorem level_height (nonempty : leaves ≠ []) :
    level platform leaves (height leaves) = [computeRoot platform leaves] := by
  apply climb_eq_level nonempty
  exact Nat.clog_le_of_le_pow leaves.length.lt_two_pow_self.le

variable (platform) in
def hashedBytes (leaves : List Digest) (proof : MerkleProof) : Set Bytes :=
  {bytes | (∃ number < height leaves, ∃ pair ∈ pairs (level platform leaves number),
      bytes = pair.1.bytes ++ pair.2.bytes) ∨
    ∃ front node rest, proof.proof = front ++ node :: rest ∧
      bytes = node.combined (walk platform proof.leaf front)}

theorem mem_level_succ {number : Nat} {node : Digest}
    (member : node ∈ level platform leaves (number + 1)) :
    ∃ pair ∈ pairs (level platform leaves number), combine platform pair.1 pair.2 = node := by
  rw [level, Function.iterate_succ_apply', nextLevel_eq_map] at member
  exact List.mem_map.mp member

theorem eq_of_append_eq {left right otherLeft otherRight : Digest}
    (same : left.bytes ++ right.bytes = otherLeft.bytes ++ otherRight.bytes) :
    left = otherLeft ∧ right = otherRight := by
  rcases List.append_inj same (left.length_eq.trans otherLeft.length_eq.symm) with ⟨first, second⟩
  exact ⟨Digest.bytes_injective first, Digest.bytes_injective second⟩

variable {proof : MerkleProof} {front rest : List ProofNode}

variable (collisionFree : Set.InjOn platform.sha3_256 (hashedBytes platform leaves proof))

include collisionFree

theorem walk_mem_below {node : ProofNode} (split : proof.proof = front ++ node :: rest)
    {number : Nat} (below : number < height leaves)
    (member : walk platform proof.leaf (front ++ [node]) ∈ level platform leaves (number + 1)) :
    walk platform proof.leaf front ∈ level platform leaves number := by
  rcases mem_level_succ member with ⟨pair, isPair, hashes⟩
  have inLevel := mem_of_mem_pairs isPair
  have bytes : pair.1.bytes ++ pair.2.bytes =
      node.combined (walk platform proof.leaf front) := by
    apply collisionFree (Or.inl ⟨number, below, pair, isPair, rfl⟩)
      (Or.inr ⟨front, node, rest, split, rfl⟩)
    rw [walk, List.foldl_append] at hashes
    exact hashes
  unfold ProofNode.combined at bytes
  split_ifs at bytes
  · rw [← (eq_of_append_eq bytes).2]
    exact inLevel.2
  · rw [← (eq_of_append_eq bytes).1]
    exact inLevel.1

theorem walk_mem_level (nonempty : leaves ≠ []) (isRoot : proof.root = computeRoot platform leaves)
    (verifies : verifyProof platform proof = true) (split : proof.proof = front ++ rest)
    (short : rest.length ≤ height leaves) :
    walk platform proof.leaf front ∈ level platform leaves (height leaves - rest.length) := by
  induction rest generalizing front with
  | nil =>
    rw [List.append_nil] at split
    rw [List.length_nil, Nat.sub_zero, level_height nonempty, List.mem_singleton, ← isRoot,
      ← split]
    exact of_decide_eq_true verifies
  | cons node rest ih =>
    rw [List.length_cons] at short ⊢
    have above := @ih (front ++ [node]) (by simp [split]) (by omega)
    have next : height leaves - rest.length = height leaves - (rest.length + 1) + 1 := by omega
    rw [next] at above
    exact walk_mem_below collisionFree split (by omega) above

omit collisionFree

theorem walk_concat (leaf : Digest) (front : List ProofNode) (node : ProofNode) :
    ∃ left right, walk platform leaf (front ++ [node]) = combine platform left right := by
  rw [walk, List.foldl_append]
  cases side : node.isLeft with
  | true =>
    refine ⟨node.hash, walk platform leaf front, ?_⟩
    simp [combine, ProofNode.combined, side, walk]
  | false =>
    refine ⟨walk platform leaf front, node.hash, ?_⟩
    simp [combine, ProofNode.combined, side, walk]

/-- A proof against the root of the leaves that verifies is for one of them if it has
a node for each level of the tree; if none of them is the hash of two nodes, only
then. -/
theorem leaf_mem_of_verifyProof
    (collisionFree : Set.InjOn platform.sha3_256 (hashedBytes platform leaves proof))
    (nonempty : leaves ≠ []) (isRoot : proof.root = computeRoot platform leaves)
    (verifies : verifyProof platform proof = true) :
    (proof.proof.length = height leaves → proof.leaf ∈ leaves) ∧
      ((∀ leaf ∈ leaves, ∀ left right, combine platform left right ≠ leaf) →
        proof.leaf ∈ leaves → proof.proof.length = height leaves) := by
  constructor
  · intro complete
    have start := walk_mem_level collisionFree nonempty isRoot verifies (List.nil_append _).symm
      complete.le
    rw [complete, Nat.sub_self] at start
    exact start
  · intro separate isLeaf
    rcases lt_trichotomy proof.proof.length (height leaves) with short | complete | long
    · -- the proof starts at a node above the leaves
      have start := walk_mem_level collisionFree nonempty isRoot verifies (List.nil_append _).symm
        short.le
      have above : height leaves - proof.proof.length =
          height leaves - proof.proof.length - 1 + 1 := by omega
      rw [above] at start
      rcases mem_level_succ start with ⟨pair, _, hashes⟩
      exact absurd hashes (separate _ isLeaf _ _)
    · exact complete
    · -- the proof reaches a leaf on its way
      let steps := proof.proof.length - height leaves
      have dropped : (proof.proof.drop steps).length = height leaves := by
        rw [List.length_drop]
        omega
      have reached := walk_mem_level collisionFree nonempty isRoot verifies
        (List.take_append_drop steps proof.proof).symm dropped.le
      rw [dropped, Nat.sub_self] at reached
      have taken : (proof.proof.take steps) ≠ [] := by
        rw [Ne, List.take_eq_nil_iff]
        rintro (none | empty)
        · omega
        · rw [empty, List.length_nil] at long
          omega
      rcases List.eq_nil_or_concat' (proof.proof.take steps) with empty | ⟨front, node, isLast⟩
      · exact absurd empty taken
      · rw [isLast] at reached
        rcases @walk_concat platform proof.leaf front node with ⟨left, right, hashes⟩
        rw [hashes] at reached
        exact absurd rfl (separate _ reached left right)

def sampleLeaf (byte : UInt8) : Digest where
  bytes := List.replicate 32 byte
  length_eq := by simp

def sampleLeaves : List Digest := [sampleLeaf 1, sampleLeaf 2]

def sampleProof : MerkleProof where
  leaf := sampleLeaf 1
  proof := [⟨sampleLeaf 2, false⟩]
  root := computeRoot samplePlatform sampleLeaves

theorem injOn_sample {proof : MerkleProof}
    (path : ∀ front node rest, proof.proof = front ++ node :: rest →
      node.combined (walk samplePlatform proof.leaf front) =
        (sampleLeaf 1).bytes ++ (sampleLeaf 2).bytes) :
    Set.InjOn samplePlatform.sha3_256 (hashedBytes samplePlatform sampleLeaves proof) := by
  have only : ∀ bytes ∈ hashedBytes samplePlatform sampleLeaves proof,
      bytes = (sampleLeaf 1).bytes ++ (sampleLeaf 2).bytes := by
    rintro bytes (⟨number, below, pair, member, rfl⟩ | ⟨front, node, rest, split, rfl⟩)
    · have two : height sampleLeaves = 1 := Nat.clog_eq_one (by decide) (by decide)
      have bottom : number = 0 := by omega
      subst bottom
      have isPair : pair = (sampleLeaf 1, sampleLeaf 2) := List.mem_singleton.mp member
      rw [isPair]
    · exact path front node rest split
  intro left leftHashed right rightHashed _
  rw [only left leftHashed, only right rightHashed]

theorem sampleProof_for_leaf :
    (sampleProof.proof.length = height sampleLeaves → sampleProof.leaf ∈ sampleLeaves) ∧
      ((∀ leaf ∈ sampleLeaves, ∀ left right, combine samplePlatform left right ≠ leaf) →
        sampleProof.leaf ∈ sampleLeaves → sampleProof.proof.length = height sampleLeaves) := by
  apply leaf_mem_of_verifyProof
  · apply injOn_sample
    intro front node rest split
    rcases List.append_eq_singleton_iff.mp split.symm with ⟨rfl, isNode⟩ | ⟨_, isEmpty⟩
    · rw [(List.cons.inj isNode).1]
      rfl
    · contradiction
  · exact List.cons_ne_nil _ _
  · rfl
  · decide +kernel

def rootProof : MerkleProof where
  leaf := computeRoot samplePlatform sampleLeaves
  proof := []
  root := computeRoot samplePlatform sampleLeaves

theorem rootProof_for_no_leaf :
    Set.InjOn samplePlatform.sha3_256 (hashedBytes samplePlatform sampleLeaves rootProof) ∧
      rootProof.root = computeRoot samplePlatform sampleLeaves ∧
      verifyProof samplePlatform rootProof = true ∧ rootProof.leaf ∉ sampleLeaves := by
  refine ⟨injOn_sample ?_, rfl, by decide +kernel, by decide +kernel⟩
  intro front node rest split
  have empty : [] = front ++ node :: rest := split
  simp at empty

end MerkleTree

def CollisionFree (platform : Platform) (texts : List Bytes) : Prop :=
  ∀ left ∈ texts, ∀ right ∈ texts, platform.sha3_256 left = platform.sha3_256 right → left = right

instance (platform : Platform) (texts : List Bytes) : Decidable (CollisionFree platform texts) :=
  inferInstanceAs (Decidable (∀ left ∈ texts, ∀ right ∈ texts, _ → _))

namespace MerkleTree

variable (platform : Platform)

def siblingIndex (index length : Nat) : Nat :=
  if index % 2 = 0 then if index + 1 < length then index + 1 else index
  else index - 1

/-- The loop: the nodes next to the path and the root. `none` is an index out of range. -/
def collect : Nat → List Digest → Nat → Option (List ProofNode × Digest)
  | _, [], _ => none
  | _, [root], _ => some ([], root)
  | 0, _, _ => none
  | fuel + 1, nodes, index => do
    let sibling ← nodes[siblingIndex index nodes.length]?
    let (path, root) ← collect fuel (nextLevel platform nodes) (index / 2)
    return (⟨sibling, index % 2 ≠ 0⟩ :: path, root)

/-- `none` is the panic of an index out of range. -/
def computeProof (leaves : List Digest) (index : Nat) : Option MerkleProof := do
  let (path, root) ← collect platform leaves.length leaves index
  let leaf ← leaves[index]?
  return ⟨leaf, path, root⟩

def pathTexts (leaf : Digest) : List ProofNode → List Bytes
  | [] => []
  | node :: path =>
    node.combined leaf :: pathTexts (platform.sha3_256 (node.combined leaf)) path

variable {platform} {nodes : List Digest}

theorem getElem_nextLevel {index : Nat} {node sibling : Digest} (isNode : nodes[index]? = some node)
    (isSibling : nodes[siblingIndex index nodes.length]? = some sibling) :
    (nextLevel platform nodes)[index / 2]? =
      some (platform.sha3_256 ((⟨sibling, index % 2 ≠ 0⟩ : ProofNode).combined node)) := by
  fun_induction nextLevel platform nodes generalizing index with
  | case1 => simp at isNode
  | case2 last =>
    have first : index = 0 := by
      have inRange := (List.getElem?_eq_some_iff.mp isNode).1
      simpa using inRange
    subst first
    simp [siblingIndex] at isNode isSibling
    simp [ProofNode.combined, combine, ← isNode, ← isSibling]
  | case3 left right rest ih =>
    rcases index with _ | _ | index
    · simp [siblingIndex] at isNode isSibling
      simp [ProofNode.combined, combine, isNode, isSibling]
    · simp [siblingIndex] at isNode isSibling
      simp [ProofNode.combined, combine, isNode, isSibling]
    · have later : siblingIndex (index + 2) (left :: right :: rest).length =
          siblingIndex index rest.length + 2 := by
        simp only [siblingIndex, List.length_cons]
        split_ifs <;> omega
      have half : (index + 2) / 2 = index / 2 + 1 := by omega
      have parity : (index + 2) % 2 = index % 2 := by omega
      rw [later] at isSibling
      rw [half, parity]
      exact ih isNode isSibling

theorem siblingIndex_lt {index length : Nat} (inRange : index < length) :
    siblingIndex index length < length := by
  unfold siblingIndex
  split_ifs <;> omega

theorem collect_spec {fuel index : Nat} (enough : nodes.length ≤ fuel + 1) {node : Digest}
    (isNode : nodes[index]? = some node) :
    ∃ path, collect platform fuel nodes index = some (path, climb platform fuel nodes) ∧
      walk platform node path = climb platform fuel nodes := by
  induction fuel generalizing nodes index node with
  | zero =>
    match nodes, isNode with
    | [root], isNode =>
      have isRoot : root = node := by
        have inRange := (List.getElem?_eq_some_iff.mp isNode).1
        have first : index = 0 := by simpa using inRange
        simpa [first] using isNode
      exact ⟨[], rfl, isRoot.symm⟩
    | first :: second :: rest, _ => simp at enough
  | succ fuel ih =>
    match nodes, isNode with
    | [root], isNode =>
      have isRoot : root = node := by
        have inRange := (List.getElem?_eq_some_iff.mp isNode).1
        have first : index = 0 := by simpa using inRange
        simpa [first] using isNode
      exact ⟨[], rfl, isRoot.symm⟩
    | first :: second :: rest, isNode =>
      have inRange := (List.getElem?_eq_some_iff.mp isNode).1
      have siblingInRange := siblingIndex_lt inRange
      obtain ⟨sibling, isSibling⟩ : ∃ sibling, (first :: second :: rest)[siblingIndex index
          (first :: second :: rest).length]? = some sibling :=
        ⟨_, List.getElem?_eq_getElem siblingInRange⟩
      have shorter : (nextLevel platform (first :: second :: rest)).length ≤ fuel + 1 := by
        rw [length_nextLevel]
        simp only [List.length_cons] at enough ⊢
        omega
      obtain ⟨path, collected, leads⟩ :=
        ih shorter (getElem_nextLevel isNode isSibling)
      refine ⟨⟨sibling, index % 2 ≠ 0⟩ :: path, ?_, leads⟩
      rw [collect, isSibling, Option.bind_eq_bind, Option.bind_some, collected]
      · rfl
      · simp
      · simp

theorem leaf_eq_of_walk_eq {left right : Digest} {path other : List ProofNode}
    (sides : path.map ProofNode.isLeft = other.map ProofNode.isLeft)
    (collisionFree : CollisionFree platform
      (pathTexts platform left path ++ pathTexts platform right other))
    (same : walk platform left path = walk platform right other) : left = right := by
  induction path generalizing left right other with
  | nil =>
    rw [List.map_nil] at sides
    rw [List.map_eq_nil_iff.mp sides.symm] at same
    exact same
  | cons node path ih =>
    match other, sides with
    | otherNode :: other, sides =>
      have sidesHere := (List.cons.inj sides).1
      have above := ih (List.cons.inj sides).2
        (fun one oneHashed two twoHashed => collisionFree
          one (by simp only [pathTexts, List.mem_append, List.mem_cons] at oneHashed ⊢; tauto)
          two (by simp only [pathTexts, List.mem_append, List.mem_cons] at twoHashed ⊢; tauto))
        same
      have texts : node.combined left = otherNode.combined right :=
        collisionFree _ (by simp [pathTexts]) _ (by simp [pathTexts]) above
      unfold ProofNode.combined at texts
      rw [sidesHere] at texts
      split_ifs at texts
      · exact (eq_of_append_eq texts).2
      · exact (eq_of_append_eq texts).1

/-- A proof is made for every leaf, and no proof along the same path is for another. -/
theorem computeProof_complete_binding {leaves : List Digest} {index : Nat}
    (inRange : index < leaves.length) :
    ∃ proof, computeProof platform leaves index = some proof ∧
      leaves[index]? = some proof.leaf ∧ proof.root = computeRoot platform leaves ∧
      verifyProof platform proof = true ∧
      ∀ other : MerkleProof, verifyProof platform other = true → other.root = proof.root →
        other.proof.length = proof.proof.length →
        other.proof.map ProofNode.isLeft = proof.proof.map ProofNode.isLeft →
        CollisionFree platform (pathTexts platform other.leaf other.proof ++
          pathTexts platform proof.leaf proof.proof) →
        leaves[index]? = some other.leaf := by
  have isLeaf := List.getElem?_eq_getElem inRange
  obtain ⟨path, collected, leads⟩ := @collect_spec platform leaves leaves.length index
    (Nat.le_succ _) _ isLeaf
  refine ⟨⟨leaves[index], path, computeRoot platform leaves⟩, ?_, isLeaf, rfl,
    decide_eq_true leads, ?_⟩
  · rw [computeProof, collected, Option.bind_eq_bind, Option.bind_some, isLeaf]
    rfl
  · intro other verifies sameRoot _ sides collisionFree
    have otherLeads : walk platform other.leaf other.proof = other.root :=
      of_decide_eq_true verifies
    have start := leaf_eq_of_walk_eq sides collisionFree
      (otherLeads.trans (sameRoot.trans leads.symm))
    rw [isLeaf, start]

def oddLeaves : List Digest := [sampleLeaf 1, sampleLeaf 2, sampleLeaf 3]

def oddTexts : List Bytes :=
  match computeProof samplePlatform oddLeaves 2 with
  | some proof => pathTexts samplePlatform proof.leaf proof.proof
  | none => []

theorem computeProof_complete_binding_odd :
    oddTexts.length = 2 ∧ CollisionFree samplePlatform (oddTexts ++ oddTexts) ∧
      ∃ proof, computeProof samplePlatform oddLeaves 2 = some proof ∧
        verifyProof samplePlatform proof = true ∧ oddLeaves[2]? = some proof.leaf := by
  have free : CollisionFree samplePlatform (oddTexts ++ oddTexts) := by decide +kernel
  refine ⟨by decide +kernel, free, ?_⟩
  obtain ⟨proof, computed, _, _, verifies, binding⟩ :=
    @computeProof_complete_binding samplePlatform oddLeaves 2 (by decide)
  have texts : oddTexts = pathTexts samplePlatform proof.leaf proof.proof := by
    rw [oddTexts, computed]
  rw [texts] at free
  exact ⟨proof, computed, verifies, binding proof verifies rfl rfl rfl free⟩

end MerkleTree

end QuantaWatch.Crypto
