import QuantaWatch.Lib.Transition

/-!
Requests that take turns on a shared store, one store operation at a
time, and credentials that they may use once.
-/

namespace QuantaWatch.Lib.Interleaving

variable {τ σ φ γ : Type*}

structure Machine (τ σ φ γ : Type*) where
  step : τ → σ → φ → φ × σ
  accepts : τ → σ → φ → Option γ

structure Pool (σ φ : Type*) where
  store : σ
  requests : List φ

namespace Machine

variable (machine : Machine τ σ φ γ)

def tick (pool : Pool σ φ) (turn : Nat × τ) : Pool σ φ :=
  match pool.requests[turn.1]? with
  | none => pool
  | some request =>
    let after := machine.step turn.2 pool.store request
    ⟨after.2, pool.requests.set turn.1 after.1⟩

def accepted (pool : Pool σ φ) (turn : Nat × τ) : Option γ :=
  pool.requests[turn.1]?.bind (machine.accepts turn.2 pool.store)

def run (start : Pool σ φ) (schedule : List (Nat × τ)) : Pool σ φ :=
  schedule.foldl machine.tick start

def acceptances : Pool σ φ → List (Nat × τ) → List γ
  | _, [] => []
  | pool, turn :: schedule =>
    (machine.accepted pool turn).toList ++ acceptances (machine.tick pool turn) schedule

def alone (input : τ) : Nat → φ × σ → φ × σ
  | 0, state => state
  | steps + 1, state => alone input steps (machine.step input state.2 state.1)

def Reaches (input : τ) (state final : φ × σ) : Prop :=
  ∃ steps, machine.alone input steps state = final

variable {machine} {start pool : Pool σ φ} {turn : Nat × τ} {schedule : List (Nat × τ)}

variable {input : τ} {request : φ}

theorem Reaches.refl {state : φ × σ} : machine.Reaches input state state := ⟨0, rfl⟩

theorem Reaches.head {store : σ} {final : φ × σ}
    (rest : machine.Reaches input (machine.step input store request) final) :
    machine.Reaches input (request, store) final := by
  obtain ⟨steps, reached⟩ := rest
  exact ⟨steps + 1, reached⟩

theorem tick_of_none (absent : pool.requests[turn.1]? = none) : machine.tick pool turn = pool := by
  simp only [tick, absent]

theorem tick_of_some (present : pool.requests[turn.1]? = some request) : machine.tick pool turn =
      ⟨(machine.step turn.2 pool.store request).2,
        pool.requests.set turn.1 (machine.step turn.2 pool.store request).1⟩ := by
  simp only [tick, present]

theorem accepted_of_none (absent : pool.requests[turn.1]? = none) :
    machine.accepted pool turn = none := by
  simp only [accepted, absent, Option.bind_none]

theorem accepted_of_some (present : pool.requests[turn.1]? = some request) :
    machine.accepted pool turn = machine.accepts turn.2 pool.store request := by
  simp only [accepted, present, Option.bind_some]

theorem acceptances_append (start : Pool σ φ) (front later : List (Nat × τ)) :
    machine.acceptances start (front ++ later) =
      machine.acceptances start front ++ machine.acceptances (machine.run start front) later := by
  induction front generalizing start with
  | nil => rfl
  | cons turn front ih =>
    simp only [List.cons_append, acceptances, ih, List.append_assoc]
    rfl

theorem acceptances_concat (start : Pool σ φ) (front : List (Nat × τ)) (turn : Nat × τ) :
    machine.acceptances start (front ++ [turn]) =
      machine.acceptances start front ++
        (machine.accepted (machine.run start front) turn).toList := by
  rw [acceptances_append]
  simp only [acceptances, List.append_nil]

theorem countP_run (machine : Machine τ σ φ γ) {test : φ → Bool} (counted : ∀ input store request,
      (if test (machine.step input store request).1 then 1 else 0) =
        (if test request then 1 else 0) + (machine.accepts input store request).toList.length)
    (start : Pool σ φ) (schedule : List (Nat × τ)) :
    (machine.run start schedule).requests.countP test =
      start.requests.countP test + (machine.acceptances start schedule).length := by
  induction schedule generalizing start with
  | nil => rfl
  | cons turn schedule ih =>
    have rest := ih (machine.tick start turn)
    have now : (machine.tick start turn).requests.countP test =
        start.requests.countP test + (machine.accepted start turn).toList.length := by
      cases present : start.requests[turn.1]? with
      | none => simp [tick_of_none present, accepted_of_none present]
      | some request =>
        obtain ⟨bound, here⟩ := List.getElem?_eq_some_iff.mp present
        have step := counted turn.2 start.store request
        have included : (if test request then 1 else 0) ≤ start.requests.countP test := by
          split_ifs with passes
          · exact List.countP_pos_iff.mpr ⟨request, List.mem_of_getElem? present, passes⟩
          · exact Nat.zero_le _
        rw [tick_of_some present, accepted_of_some present, List.countP_set bound, here]
        omega
    rw [run, List.foldl_cons, ← run, rest, now, acceptances, List.length_append]
    omega

theorem measure_run (machine : Machine τ σ φ γ) (measure : σ → Nat)
    (bounded : ∀ input store request, measure (machine.step input store request).2 ≤
      measure store + (machine.accepts input store request).toList.length)
    (start : Pool σ φ) (schedule : List (Nat × τ)) :
    measure (machine.run start schedule).store ≤
      measure start.store + (machine.acceptances start schedule).length := by
  induction schedule generalizing start with
  | nil => exact le_rfl
  | cons turn schedule ih =>
    have rest := ih (machine.tick start turn)
    have now : measure (machine.tick start turn).store ≤
        measure start.store + (machine.accepted start turn).toList.length := by
      cases present : start.requests[turn.1]? with
      | none => simp [tick_of_none present]
      | some request =>
        rw [tick_of_some present, accepted_of_some present]
        exact bounded turn.2 start.store request
    rw [run, List.foldl_cons, ← run, acceptances, List.length_append]
    omega

end Machine

structure OneTime (machine : Machine τ σ φ γ) where
  Stored : σ → γ → Prop
  Held : φ → γ → Prop
  Reads : φ → γ → Prop
  Mints : τ → γ → Prop
  SoundInput : τ → Prop
  Sound : σ → Prop
  SoundRequest : φ → Prop
  sound : ∀ {input store request}, SoundInput input → Sound store → SoundRequest request →
    Sound (machine.step input store request).2 ∧ SoundRequest (machine.step input store request).1
  stored : ∀ {input store request credential},
    Stored (machine.step input store request).2 credential →
      Stored store credential ∨ Held request credential ∨ Mints input credential
  held : ∀ {input store request credential},
    Held (machine.step input store request).1 credential →
      Held request credential ∨ (Reads request credential ∧ Stored store credential) ∨
        Mints input credential
  accepted : ∀ {input store request credential}, SoundRequest request →
    machine.accepts input store request = some credential →
      Held request credential ∧ ¬ Held (machine.step input store request).1 credential ∧
        ¬ Stored (machine.step input store request).2 credential

namespace OneTime

variable {machine : Machine τ σ φ γ} (rules : OneTime machine)

def Separate (pool : Pool σ φ) (turn : Nat × τ) : Prop :=
  ∀ (position : Nat) (request other : φ) (credential : γ), pool.requests[turn.1]? = some request →
    pool.requests[position]? = some other → position ≠ turn.1 →
    rules.Reads request credential → ¬ rules.Held other credential

def Known (start : Pool σ φ) (history : List (Nat × τ)) (credential : γ) : Prop :=
  rules.Stored start.store credential ∨ ∃ turn ∈ history, rules.Mints turn.2 credential

structure Starts (pool : Pool σ φ) : Prop where
  sound : rules.Sound pool.store
  requests : ∀ request ∈ pool.requests,
    rules.SoundRequest request ∧ ∀ credential, ¬ rules.Held request credential

def Fresh (start : Pool σ φ) (schedule : List (Nat × τ)) : Prop :=
  ∀ front turn later, schedule = front ++ turn :: later → rules.SoundInput turn.2 ∧
    ∀ credential, rules.Mints turn.2 credential → ¬ rules.Known start front credential

variable {rules} in
theorem fresh_of_pairwise {start : Pool σ φ} {schedule : List (Nat × τ)}
    (sound : ∀ turn ∈ schedule, rules.SoundInput turn.2)
    (unstored : ∀ turn ∈ schedule, ∀ credential, rules.Mints turn.2 credential →
      ¬ rules.Stored start.store credential)
    (apart : schedule.Pairwise fun earlier later => ∀ credential,
      rules.Mints later.2 credential → ¬ rules.Mints earlier.2 credential) :
    rules.Fresh start schedule := by
  intro front turn later split
  have member : turn ∈ schedule := by simp [split]
  refine ⟨sound turn member, ?_⟩
  rintro credential mints (stored | ⟨earlier, earlierMember, earlierMints⟩)
  · exact unstored turn member credential mints stored
  · rw [split, List.pairwise_append] at apart
    exact apart.2.2 earlier earlierMember turn List.mem_cons_self credential mints earlierMints

def Separated (start : Pool σ φ) (schedule : List (Nat × τ)) : Prop :=
  ∀ front turn later, schedule = front ++ turn :: later →
    rules.Separate (machine.run start front) turn

variable {rules} in
theorem separate_of_idle {pool : Pool σ φ} {turn : Nat × τ}
    (idle : ∀ other ∈ pool.requests.eraseIdx turn.1, ∀ credential,
      ¬ rules.Held other credential) : rules.Separate pool turn := by
  intro position request other credential _ found elsewhere _
  exact idle other (List.mem_eraseIdx_iff_getElem?.mpr ⟨position, elsewhere, found⟩) credential

variable {rules} in
theorem separated_cons {start : Pool σ φ} {turn : Nat × τ} {schedule : List (Nat × τ)}
    (first : rules.Separate start turn)
    (rest : rules.Separated (machine.tick start turn) schedule) :
    rules.Separated start (turn :: schedule) := by
  intro front next later split
  cases front with
  | nil =>
    obtain ⟨rfl, _⟩ := List.cons.inj split
    exact first
  | cons head front =>
    obtain ⟨rfl, tail⟩ := List.cons.inj split
    exact rest front next later tail

variable {rules} in
theorem separated_nil {start : Pool σ φ} : rules.Separated start [] := by
  intro front turn later split
  simp at split

private structure Holds (start : Pool σ φ) (history : List (Nat × τ)) (pool : Pool σ φ) :
    Prop where
  sound : rules.Sound pool.store
  soundRequests : ∀ (position : Nat) (request : φ), pool.requests[position]? = some request →
    rules.SoundRequest request
  storedKnown : ∀ credential, rules.Stored pool.store credential →
    rules.Known start history credential
  heldKnown : ∀ (position : Nat) (request : φ), pool.requests[position]? = some request →
    ∀ credential, rules.Held request credential → rules.Known start history credential
  usedKnown : ∀ credential ∈ machine.acceptances start history,
    rules.Known start history credential
  spentStored : ∀ credential ∈ machine.acceptances start history,
    ¬ rules.Stored pool.store credential
  spentHeld : ∀ credential ∈ machine.acceptances start history, ∀ (position : Nat) (request : φ),
    pool.requests[position]? = some request → ¬ rules.Held request credential
  exclusive : ∀ (left right : Nat) (first second : φ), left ≠ right →
    pool.requests[left]? = some first → pool.requests[right]? = some second →
    ∀ credential, rules.Held first credential → ¬ rules.Held second credential
  nodup : (machine.acceptances start history).Nodup

variable {rules} {start pool : Pool σ φ} {history schedule : List (Nat × τ)} {turn : Nat × τ}

theorem Known.concat {credential : γ} (known : rules.Known start history credential) :
    rules.Known start (history ++ [turn]) credential := by
  rcases known with stored | ⟨earlier, member, mints⟩
  · exact Or.inl stored
  · exact Or.inr ⟨earlier, List.mem_append_left _ member, mints⟩

theorem Known.minted {credential : γ} (mints : rules.Mints turn.2 credential) :
    rules.Known start (history ++ [turn]) credential :=
  Or.inr ⟨turn, by simp, mints⟩

theorem holds_start (starts : rules.Starts start) : Holds rules start [] start where
  sound := starts.sound
  soundRequests _ _ found := (starts.requests _ (List.mem_of_getElem? found)).1
  storedKnown _ stored := Or.inl stored
  heldKnown _ _ found credential held :=
    absurd held ((starts.requests _ (List.mem_of_getElem? found)).2 credential)
  usedKnown _ member := by cases member
  spentStored _ member := by cases member
  spentHeld _ member := by cases member
  exclusive _ _ _ _ _ found _ credential held :=
    absurd held ((starts.requests _ (List.mem_of_getElem? found)).2 credential)
  nodup := List.nodup_nil

theorem request_of_set {requests : List φ} {place position : Nat} {stepped request : φ}
    (found : (requests.set place stepped)[position]? = some request) :
    (position = place ∧ request = stepped) ∨
      (position ≠ place ∧ requests[position]? = some request) := by
  rw [List.getElem?_set] at found
  by_cases same : place = position
  · rw [if_pos same] at found
    split_ifs at found
    exact Or.inl ⟨same.symm, (Option.some.inj found).symm⟩
  · rw [if_neg same] at found
    exact Or.inr ⟨Ne.symm same, found⟩

theorem Holds.skip (holds : Holds rules start history (machine.run start history))
    (absent : (machine.run start history).requests[turn.1]? = none) :
    Holds rules start (history ++ [turn]) (machine.tick (machine.run start history) turn) := by
  have same : machine.acceptances start (history ++ [turn]) =
      machine.acceptances start history := by
    rw [Machine.acceptances_concat, Machine.accepted_of_none absent, Option.toList_none,
      List.append_nil]
  rw [Machine.tick_of_none absent]
  exact
    { sound := holds.sound
      soundRequests := holds.soundRequests
      storedKnown := fun credential stored => (holds.storedKnown credential stored).concat
      heldKnown := fun position request found credential held =>
        (holds.heldKnown position request found credential held).concat
      usedKnown := by
        rw [same]
        exact fun credential member => (holds.usedKnown credential member).concat
      spentStored := by
        rw [same]
        exact holds.spentStored
      spentHeld := by
        rw [same]
        exact holds.spentHeld
      exclusive := holds.exclusive
      nodup := by
        rw [same]
        exact holds.nodup }

section Step

variable {request : φ} (present : (machine.run start history).requests[turn.1]? = some request)

include present

variable {credential : γ}

theorem mem_acceptances_concat : credential ∈ machine.acceptances start (history ++ [turn]) ↔
      credential ∈ machine.acceptances start history ∨
        machine.accepts turn.2 (machine.run start history).store request = some credential := by
  rw [Machine.acceptances_concat, Machine.accepted_of_some present, List.mem_append,
    Option.mem_toList]

variable (holds : Holds rules start history (machine.run start history))
  (fresh : ∀ credential, rules.Mints turn.2 credential → ¬ rules.Known start history credential)

include holds fresh

theorem Holds.spent_step (member : credential ∈ machine.acceptances start history) :
    ¬ rules.Stored (machine.step turn.2 (machine.run start history).store request).2 credential ∧
      ¬ rules.Held (machine.step turn.2 (machine.run start history).store request).1
        credential := by
  have notStored := holds.spentStored credential member
  have notHeld := holds.spentHeld credential member _ _ present
  have notMinted : ¬ rules.Mints turn.2 credential :=
    fun mints => fresh credential mints (holds.usedKnown credential member)
  constructor
  · intro stored
    rcases rules.stored stored with before | own | minted
    · exact notStored before
    · exact notHeld own
    · exact notMinted minted
  · intro held
    rcases rules.held held with own | ⟨_, before⟩ | minted
    · exact notHeld own
    · exact notStored before
    · exact notMinted minted

theorem Holds.exclusive_step (separate : rules.Separate (machine.run start history) turn)
    {position : Nat} {other : φ} (elsewhere : position ≠ turn.1)
    (found : (machine.run start history).requests[position]? = some other)
    (held : rules.Held (machine.step turn.2 (machine.run start history).store request).1
      credential) : ¬ rules.Held other credential := by
  rcases rules.held held with own | ⟨reads, _⟩ | minted
  · exact holds.exclusive _ _ _ _ elsewhere.symm present found credential own
  · exact separate position request other credential present found elsewhere reads
  · exact fun otherHeld => fresh credential minted (holds.heldKnown _ _ found credential otherHeld)

theorem Holds.tick (soundInput : rules.SoundInput turn.2)
    (separate : rules.Separate (machine.run start history) turn) :
    Holds rules start (history ++ [turn]) (machine.tick (machine.run start history) turn) := by
  have soundRequest := holds.soundRequests _ _ present
  have kept := rules.sound soundInput holds.sound soundRequest
  have ownKnown := holds.heldKnown _ _ present
  rw [Machine.tick_of_some present]
  refine ⟨kept.1, ?soundRequests, ?storedKnown, ?heldKnown, ?usedKnown, ?spentStored, ?spentHeld,
    ?exclusive, ?nodup⟩
  case soundRequests =>
    intro position other found
    rcases request_of_set found with ⟨_, rfl⟩ | ⟨_, found⟩
    · exact kept.2
    · exact holds.soundRequests _ _ found
  case storedKnown =>
    intro credential stored
    rcases rules.stored stored with before | own | minted
    · exact (holds.storedKnown credential before).concat
    · exact (ownKnown credential own).concat
    · exact Known.minted minted
  case heldKnown =>
    intro position other found credential held
    rcases request_of_set found with ⟨_, rfl⟩ | ⟨_, found⟩
    · rcases rules.held held with own | ⟨_, before⟩ | minted
      · exact (ownKnown credential own).concat
      · exact (holds.storedKnown credential before).concat
      · exact Known.minted minted
    · exact (holds.heldKnown _ _ found credential held).concat
  case usedKnown =>
    intro credential member
    rcases (mem_acceptances_concat present).mp member with before | now
    · exact (holds.usedKnown credential before).concat
    · exact (ownKnown credential (rules.accepted soundRequest now).1).concat
  case spentStored =>
    intro credential member
    rcases (mem_acceptances_concat present).mp member with before | now
    · exact (holds.spent_step present fresh before).1
    · exact (rules.accepted soundRequest now).2.2
  case spentHeld =>
    intro credential member position other found
    rcases (mem_acceptances_concat present).mp member with before | now <;>
      rcases request_of_set found with ⟨_, rfl⟩ | ⟨elsewhere, found⟩
    · exact (holds.spent_step present fresh before).2
    · exact holds.spentHeld credential before _ _ found
    · exact (rules.accepted soundRequest now).2.1
    · exact holds.exclusive _ _ _ _ elsewhere.symm present found credential
        (rules.accepted soundRequest now).1
  case exclusive =>
    intro left right first second apart foundFirst foundSecond credential held
    rcases request_of_set foundFirst with ⟨leftHere, rfl⟩ | ⟨leftElsewhere, foundFirst⟩ <;>
      rcases request_of_set foundSecond with ⟨rightHere, rfl⟩ | ⟨rightElsewhere, foundSecond⟩
    · exact absurd (leftHere.trans rightHere.symm) apart
    · exact holds.exclusive_step present fresh separate rightElsewhere foundSecond held
    · intro own
      exact holds.exclusive_step present fresh separate leftElsewhere foundFirst own held
    · exact holds.exclusive _ _ _ _ apart foundFirst foundSecond credential held
  case nodup =>
    rw [Machine.acceptances_concat, Machine.accepted_of_some present]
    have single : (machine.accepts turn.2 (machine.run start history).store
        request).toList.Nodup := by
      cases machine.accepts turn.2 (machine.run start history).store request <;> simp
    refine holds.nodup.append single ?_
    intro credential before now
    exact holds.spentHeld credential before _ _ present
      (rules.accepted soundRequest (Option.mem_toList.mp now)).1

end Step

theorem nodup_acceptances (starts : rules.Starts start) (fresh : rules.Fresh start schedule)
    (separated : rules.Separated start schedule) : (machine.acceptances start schedule).Nodup := by
  have holds : Holds rules start schedule (machine.run start schedule) := by
    apply Transition.foldl_history (fun history pool => Holds rules start history pool)
    · exact holds_start starts
    · intro history turn later split before
      cases present : (machine.run start history).requests[turn.1]? with
      | none => exact before.skip present
      | some request =>
        obtain ⟨soundInput, unknown⟩ := fresh history turn later split
        exact before.tick present unknown soundInput (separated history turn later split)
  exact holds.nodup

end OneTime

end QuantaWatch.Lib.Interleaving
