import QuantaWatch.Lib.Collections
import QuantaWatch.Lib.Text
import QuantaWatch.Lib.TokenBucket

/-!
Per-client rate limiting of the public listeners (`ratelimit.rs`).
-/

namespace QuantaWatch.Gateway

open Lib.Collections Lib.TokenBucket Lib.Transition

structure RateLimitConfig where
  enabled : Bool
  requestsPerMinute : UInt32
  burst : UInt32
  loginPerMinute : UInt32
  loginBurst : UInt32

def RateLimitConfig.default : RateLimitConfig where
  enabled := true
  requestsPerMinute := 1200
  burst := 240
  loginPerMinute := 30
  loginBurst := 10

inductive Class where
  | api
  | login
deriving DecidableEq

def Class.asStr : Class → String
  | .api => "api"
  | .login => "login"

def limitOf (perMinute burst : UInt32) : Limit ℚ where
  refillPerSec := max (perMinute.toNat / 60) (1 / 1000)
  burst := max burst.toNat 1
  refills := lt_max_of_lt_right (by norm_num)
  room := le_max_right _ _

structure RateLimiter where
  enabled : Bool
  api : Limit ℚ
  login : Limit ℚ
  maxKeys : Nat

abbrev Buckets := AList fun _ : String => Bucket ℚ

/-- A call of `check_at`. -/
structure RateCheck where
  kind : Class
  ip : String
  now : ℚ

namespace RateLimiter

def new (config : RateLimitConfig) : RateLimiter where
  enabled := config.enabled
  api := limitOf config.requestsPerMinute config.burst
  login := limitOf config.loginPerMinute config.loginBurst
  maxKeys := 50000

variable (limiter : RateLimiter)

def limitFor : Class → Limit ℚ
  | .api => limiter.api
  | .login => limiter.login

def keyOf (kind : Class) (ip : String) : String := kind.asStr ++ ":" ++ ip

def prune (buckets : Buckets) (kind : Class) (now : ℚ) : Buckets :=
  if limiter.maxKeys < buckets.entries.length then
    filterRows (fun bucket => Bucket.since bucket.last now < (limiter.limitFor kind).idle) buckets
  else buckets

def bucketOf (buckets : Buckets) (check : RateCheck) : Bucket ℚ :=
  (buckets.lookup (keyOf check.kind check.ip)).getD
    (Bucket.full (limiter.limitFor check.kind) check.now)

def checkAt (buckets : Buckets) (check : RateCheck) : Bool × Buckets :=
  if limiter.enabled = false then (true, buckets)
  else
    let pruned := limiter.prune buckets check.kind check.now
    let answer := (limiter.bucketOf pruned check).take (limiter.limitFor check.kind) check.now
    (answer.1, pruned.insert (keyOf check.kind check.ip) answer.2)

def step (buckets : Buckets) (check : RateCheck) : Buckets := (limiter.checkAt buckets check).2

def granted (buckets : Buckets) : List RateCheck → List RateCheck
  | [] => []
  | check :: checks =>
    if (limiter.checkAt buckets check).1 then
      check :: granted (limiter.step buckets check) checks
    else granted (limiter.step buckets check) checks

def passed (kind : Class) (ip : String) (early late : ℚ) (checks : List RateCheck) : Nat :=
  (limiter.granted ∅ checks).countP fun check =>
    check.kind = kind ∧ check.ip = ip ∧ early ≤ check.now ∧ check.now ≤ late

def Forgets (kind : Class) (ip : String) (buckets : Buckets) (check : RateCheck) : Prop :=
  ∃ bucket, buckets.lookup (keyOf kind ip) = some bucket ∧
    limiter.maxKeys < buckets.entries.length ∧
    (limiter.limitFor check.kind).idle ≤ Bucket.since bucket.last check.now ∧
    bucket.refilled (limiter.limitFor kind) check.now < (limiter.limitFor kind).burst

variable {limiter} {kind : Class} {ip : String} {buckets : Buckets} {check : RateCheck}

theorem keyOf_inj {other : Class} {otherIp : String} :
    keyOf kind ip = keyOf other otherIp ↔ kind = other ∧ ip = otherIp := by
  constructor
  · intro same
    have chars := congrArg String.toList same
    cases kind <;> cases other <;> simp [keyOf, Class.asStr] at chars ⊢
    · exact String.toList_injective chars
    · exact String.toList_injective chars
  · rintro ⟨rfl, rfl⟩
    rfl

def Solvent (buckets : Buckets) : Prop :=
  ∀ key bucket, buckets.lookup key = some bucket → 0 ≤ bucket.tokens

theorem solvent_empty : Solvent ∅ := by
  intro key bucket found
  rw [AList.lookup_empty] at found
  contradiction

theorem lookup_prune {key : String} {bucket : Bucket ℚ} {now : ℚ}
    (kept : (limiter.prune buckets kind now).lookup key = some bucket) :
    buckets.lookup key = some bucket := by
  unfold prune at kept
  split_ifs at kept
  · rw [lookup_filterRows] at kept
    exact (Option.filter_eq_some_iff.mp kept).1
  · exact kept

theorem solvent_step (solvent : Solvent buckets) : Solvent (limiter.step buckets check) := by
  unfold step checkAt
  split_ifs
  · exact solvent
  · intro key bucket found
    by_cases same : key = keyOf check.kind check.ip
    · subst same
      rw [AList.lookup_insert, Option.some.injEq] at found
      rw [← found]
      apply Bucket.take_solvent
      unfold bucketOf
      cases kept : (limiter.prune buckets check.kind check.now).lookup
          (keyOf check.kind check.ip) with
      | none => exact zero_le_one.trans (limiter.limitFor check.kind).room
      | some bucket => exact solvent _ bucket (lookup_prune kept)
    · rw [AList.lookup_insert_ne same] at found
      exact solvent key bucket (lookup_prune found)

theorem not_forgets_of_idle_le (solvent : Solvent buckets)
    (longer : (limiter.limitFor kind).idle ≤ (limiter.limitFor check.kind).idle) :
    ¬ limiter.Forgets kind ip buckets check := by
  rintro ⟨bucket, found, _, idle, notFull⟩
  apply notFull.ne
  apply Bucket.refilled_of_idle (solvent _ bucket found)
  have positive : 0 < (limiter.limitFor kind).idle :=
    div_pos (zero_lt_one.trans_le (limiter.limitFor kind).room) (limiter.limitFor kind).refills
  have waited := longer.trans idle
  unfold Bucket.since at waited
  rcases le_max_iff.mp waited with passed | zero
  · exact passed
  · linarith

def held (limiter : RateLimiter) (kind : Class) (ip : String) (buckets : Buckets) (now : ℚ) : ℚ :=
  level (limiter.limitFor kind) (buckets.lookup (keyOf kind ip)) now

def cost (limiter : RateLimiter) (kind : Class) (ip : String) (buckets : Buckets)
    (check : RateCheck) : ℚ :=
  if check.kind = kind ∧ check.ip = ip ∧ (limiter.checkAt buckets check).1 = true then 1 else 0

theorem held_prune_le (keeps : ¬ limiter.Forgets kind ip buckets check) :
    limiter.held kind ip (limiter.prune buckets check.kind check.now) check.now ≤
      limiter.held kind ip buckets check.now := by
  unfold held
  cases found : buckets.lookup (keyOf kind ip) with
  | none =>
    exact level_le_burst
  | some bucket =>
    unfold prune
    split_ifs with many
    · rw [lookup_filterRows, found]
      by_cases recent : Bucket.since bucket.last check.now < (limiter.limitFor check.kind).idle
      · simp only [Option.filter_some, recent, decide_true, if_true, le_refl]
      · -- the bucket goes, but it was full
        have full : (limiter.limitFor kind).burst ≤
            bucket.refilled (limiter.limitFor kind) check.now := by
          by_contra notFull
          exact keeps ⟨bucket, found, many, not_lt.mp recent, not_le.mp notFull⟩
        exact level_le_burst.trans full
    · rw [found]

theorem level_bucketOf :
    (limiter.bucketOf buckets check).refilled (limiter.limitFor check.kind) check.now =
      limiter.held check.kind check.ip buckets check.now := by
  unfold bucketOf held
  cases buckets.lookup (keyOf check.kind check.ip) with
  | none => exact Bucket.refilled_full
  | some bucket => rfl

theorem held_step_add_cost_le (enabled : limiter.enabled = true)
    (keeps : ¬ limiter.Forgets kind ip buckets check) :
    limiter.held kind ip (limiter.step buckets check) check.now +
      limiter.cost kind ip buckets check ≤ limiter.held kind ip buckets check.now := by
  have isOn : ¬ limiter.enabled = false := by rw [enabled]; decide
  apply le_trans _ (held_prune_le keeps)
  simp only [step, cost, checkAt, if_neg isOn]
  by_cases own : check.kind = kind ∧ check.ip = ip
  · rcases own with ⟨rfl, rfl⟩
    let bucket := limiter.bucketOf (limiter.prune buckets check.kind check.now) check
    have left : (bucket.take (limiter.limitFor check.kind) check.now).2.refilled
        (limiter.limitFor check.kind) check.now +
          taken (limiter.limitFor check.kind) (some bucket) check.now =
        bucket.refilled (limiter.limitFor check.kind) check.now := Bucket.refilled_take
    rw [level_bucketOf] at left
    simp only [held, AList.lookup_insert, level, Option.elim_some, true_and, Bucket.take_fst,
      decide_eq_true_eq] at left ⊢
    exact left.le
  · have elsewhere : keyOf kind ip ≠ keyOf check.kind check.ip :=
      fun same => own ((keyOf_inj.mp same).imp Eq.symm Eq.symm)
    rw [if_neg fun all => own ⟨all.1, all.2.1⟩, add_zero, held, AList.lookup_insert_ne elsewhere]
    exact le_rfl

variable (checks : List RateCheck)

theorem granted_append {buckets : Buckets} (more : List RateCheck) :
    limiter.granted buckets (checks ++ more) =
      limiter.granted buckets checks ++
        limiter.granted (checks.foldl limiter.step buckets) more := by
  induction checks generalizing buckets with
  | nil => rfl
  | cons check checks ih =>
    rw [List.cons_append, granted, granted, ih, List.foldl_cons]
    split_ifs
    · rfl
    · rfl

theorem granted_sublist {buckets : Buckets} : (limiter.granted buckets checks).Sublist checks := by
  induction checks generalizing buckets with
  | nil => exact .slnil
  | cons check checks ih =>
    rw [granted]
    split_ifs
    · exact ih.cons_cons check
    · exact ih.cons check

theorem spent_eq_countP {buckets : Buckets} :
    spent limiter.step (limiter.cost kind ip) buckets checks =
      ((limiter.granted buckets checks).countP fun check =>
        check.kind = kind ∧ check.ip = ip : ℕ) := by
  induction checks generalizing buckets with
  | nil => rfl
  | cons check checks ih =>
    rw [spent, granted, ih, cost]
    by_cases passes : (limiter.checkAt buckets check).1 = true
    · rw [if_pos passes, List.countP_cons]
      by_cases own : check.kind = kind ∧ check.ip = ip
      · simp only [own, passes, and_self, if_true, decide_true]
        push_cast
        ring
      · simp [own, passes]
    · simp [passes]

theorem passed_stretch {before inside after : List RateCheck} {early late : ℚ}
    (allBefore : ∀ check ∈ before, check.now < early)
    (allInside : ∀ check ∈ inside, early ≤ check.now ∧ check.now ≤ late)
    (allAfter : ∀ check ∈ after, late < check.now) :
    limiter.passed kind ip early late (before ++ (inside ++ after)) =
      (limiter.granted (before.foldl limiter.step ∅) inside).countP fun check =>
        check.kind = kind ∧ check.ip = ip := by
  have none {checks : List RateCheck} {buckets : Buckets}
      (outside : ∀ check ∈ checks, ¬ (early ≤ check.now ∧ check.now ≤ late)) :
      ((limiter.granted buckets checks).countP fun check =>
        check.kind = kind ∧ check.ip = ip ∧ early ≤ check.now ∧ check.now ≤ late) = 0 := by
    rw [List.countP_eq_zero]
    intro check member counts
    exact outside check ((granted_sublist checks).subset member) (of_decide_eq_true counts).2.2
  rw [passed, granted_append, granted_append, List.countP_append, List.countP_append,
    none fun check member both => absurd both.1 (not_le.mpr (allBefore check member)),
    none fun check member both => absurd both.2 (not_le.mpr (allAfter check member)),
    zero_add, add_zero]
  apply List.countP_congr
  intro check member
  have within := allInside check ((granted_sublist inside).subset member)
  simp [within]

/-- In a run that never forgets the bucket of a client before it is full again, the
requests of the client that pass in any stretch of time fit its burst and what is
refilled meanwhile. -/
theorem passed_le (enabled : limiter.enabled = true) {checks : List RateCheck} {final : Buckets}
    (run : Run limiter.step (fun buckets check => ¬ limiter.Forgets kind ip buckets check) ∅ checks
      final)
    (timely : (checks.map RateCheck.now).Pairwise (· ≤ ·)) (early : ℚ) {width : ℚ}
    (positive : 0 ≤ width) :
    (limiter.passed kind ip early (early + width) checks : ℚ) ≤
      (limiter.limitFor kind).burst + (limiter.limitFor kind).refillPerSec * width := by
  rcases exists_stretch early (early + width) timely with
    ⟨before, inside, after, rfl, allBefore, allInside, allAfter⟩
  rcases run.split with ⟨entered, runBefore, runRest⟩
  rcases runRest.split with ⟨left, runInside, -⟩
  have kept : ∀ buckets check, ¬ limiter.Forgets kind ip buckets check → Solvent buckets →
      Solvent (limiter.step buckets check) := fun _ _ _ => solvent_step
  have solvent : Solvent entered := runBefore.invariant kept solvent_empty
  have pays := runInside.imp_of_invariant kept
    (fun buckets check keeps _ => held_step_add_cost_le enabled keeps) solvent
  have aging : ∀ buckets first second, first ≤ second → limiter.held kind ip buckets second ≤
      limiter.held kind ip buckets first +
        (limiter.limitFor kind).refillPerSec * (second - first) :=
    fun _ _ _ => level_le_add
  have insideTimely : (inside.map RateCheck.now).Pairwise (· ≤ ·) := by
    refine List.Pairwise.sublist (List.Sublist.map _ ?_) timely
    exact (List.sublist_append_left inside after).trans (List.sublist_append_right before _)
  have bound := spent_add_held_le aging pays insideTimely (by linarith) allInside
  rw [passed_stretch allBefore allInside allAfter, ← runBefore.final_eq, ← spent_eq_countP]
  have ceiling : limiter.held kind ip entered early ≤ (limiter.limitFor kind).burst :=
    level_le_burst
  have nonneg : 0 ≤ limiter.held kind ip left (early + width) :=
    level_nonneg fun bucket found => runInside.invariant kept solvent _ bucket found
  linarith

theorem run_of_idle_le {checks : List RateCheck} (solvent : Solvent buckets)
    (longer : ∀ check ∈ checks, (limiter.limitFor kind).idle ≤ (limiter.limitFor check.kind).idle) :
    Run limiter.step (fun buckets check => ¬ limiter.Forgets kind ip buckets check) buckets checks
      (checks.foldl limiter.step buckets) := by
  induction checks generalizing buckets with
  | nil => exact .nil buckets
  | cons check checks ih =>
    apply Run.cons
    · exact not_forgets_of_idle_le solvent (longer check List.mem_cons_self)
    · exact ih (solvent_step solvent) fun later member =>
        longer later (List.mem_cons_of_mem _ member)

def logins (now : ℚ) : List RateCheck := List.replicate 10 ⟨.login, "192.0.2.7", now⟩

def address (client : Nat) : String :=
  String.ofList (['1', '0', '.', '0', '.'] ++ Nat.toDigits 10 (client / 256) ++
    '.' :: Nat.toDigits 10 (client % 256))

theorem address_injective : Function.Injective address := by
  have noDot (value : Nat) : '.' ∉ Nat.toDigits 10 value := by
    intro member
    have digit := Nat.isDigit_of_mem_toDigits (by omega) (by omega) member
    revert digit
    decide
  have digits {left right : Nat} (same : Nat.toDigits 10 left = Nat.toDigits 10 right) :
      left = right := by
    rw [← Nat.ofDigitChars_ten_toDigits (n := left), same, Nat.ofDigitChars_ten_toDigits]
  intro left right same
  have chars := congrArg String.toList same
  rw [address, address, String.toList_ofList, String.toList_ofList, List.append_assoc,
    List.append_assoc, List.append_cancel_left_eq,
    Lib.Text.append_separator_inj (noDot _) (noDot _)] at chars
  have high := digits chars.1
  have low := digits chars.2
  omega

def crowd (size : Nat) : List RateCheck :=
  (List.range size).map fun client => ⟨.api, address client, 0⟩

def flood (size : Nat) : List RateCheck :=
  logins 0 ++ (crowd size ++ (⟨.api, "192.0.2.7", 12⟩ :: logins 12))

def AllUsedAt (now : ℚ) (buckets : Buckets) : Prop :=
  ∀ row ∈ buckets.entries, row.2.last = now

theorem prune_of_allUsedAt {now : ℚ} (used : AllUsedAt now buckets) :
    limiter.prune buckets kind now = buckets := by
  unfold prune
  split_ifs
  · apply AList.ext
    apply List.filter_eq_self.mpr
    intro row member
    have positive : 0 < (limiter.limitFor kind).idle :=
      div_pos (zero_lt_one.trans_le (limiter.limitFor kind).room) (limiter.limitFor kind).refills
    simp [used row member, Bucket.since, positive]
  · rfl

theorem step_of_allUsedAt (enabled : limiter.enabled = true) (used : AllUsedAt check.now buckets)
    (new : keyOf check.kind check.ip ∉ buckets) : AllUsedAt check.now (limiter.step buckets check) ∧
      (limiter.step buckets check).entries.length = buckets.entries.length + 1 ∧
      ∀ key, key ∈ limiter.step buckets check ↔
        key = keyOf check.kind check.ip ∨ key ∈ buckets := by
  have isOn : ¬ limiter.enabled = false := by rw [enabled]; decide
  simp only [step, checkAt, if_neg isOn, prune_of_allUsedAt used]
  refine ⟨?_, ?_, ?_⟩
  · intro row member
    rw [AList.entries_insert_of_notMem new] at member
    rcases List.mem_cons.mp member with rfl | old
    · exact Bucket.take_last
    · exact used row old
  · rw [AList.entries_insert_of_notMem new, List.length_cons]
  · intro key
    exact AList.mem_insert _

theorem foldl_step_of_allUsedAt (enabled : limiter.enabled = true) {now : ℚ}
    {checks : List RateCheck} (used : AllUsedAt now buckets)
    (atOnce : ∀ check ∈ checks, check.now = now)
    (distinct : (checks.map fun check => keyOf check.kind check.ip).Nodup)
    (new : ∀ check ∈ checks, keyOf check.kind check.ip ∉ buckets) :
    AllUsedAt now (checks.foldl limiter.step buckets) ∧
      (checks.foldl limiter.step buckets).entries.length =
        buckets.entries.length + checks.length := by
  induction checks generalizing buckets with
  | nil => exact ⟨used, rfl⟩
  | cons check checks ih =>
    have isNow := atOnce check List.mem_cons_self
    subst isNow
    rw [List.map_cons, List.nodup_cons] at distinct
    rcases step_of_allUsedAt enabled used (new check List.mem_cons_self) with
      ⟨after, longer, keys⟩
    have rest := ih after
      (fun later member => atOnce later (List.mem_cons_of_mem _ member)) distinct.2 ?_
    · rw [List.foldl_cons, List.length_cons]
      exact ⟨rest.1, by rw [rest.2, longer]; omega⟩
    · intro later member inTable
      rcases (keys _).mp inTable with same | old
      · exact distinct.1
          (same ▸ List.mem_map_of_mem (f := fun check => keyOf check.kind check.ip) member)
      · exact new later (List.mem_cons_of_mem _ member) old

theorem prune_of_crowded {last now : ℚ} (used : AllUsedAt last buckets)
    (many : limiter.maxKeys < buckets.entries.length)
    (idle : (limiter.limitFor kind).idle ≤ Bucket.since last now) :
    limiter.prune buckets kind now = ∅ := by
  rw [prune, if_pos many]
  apply AList.ext
  apply List.filter_eq_nil_iff.mpr
  intro row member
  simp [used row member, idle]

theorem timely_flood (size : Nat) : ((flood size).map RateCheck.now).Pairwise (· ≤ ·) := by
  have crowdTimes : (crowd size).map RateCheck.now = List.replicate size 0 := by
    simp [crowd, Function.comp_def]
  have loginTimes (now : ℚ) : (logins now).map RateCheck.now = List.replicate 10 now :=
    List.map_replicate
  rw [flood, List.map_append, List.map_append, List.map_cons, crowdTimes, loginTimes, loginTimes,
    ← List.append_assoc, List.replicate_append_replicate, ← List.replicate_succ,
    List.pairwise_append]
  simp

theorem general_requests_in_flood :
    ((new .default).passed .api "192.0.2.7" 0 (0 + 12) (flood 50000) : ℚ) ≤
      ((new .default).limitFor .api).burst + ((new .default).limitFor .api).refillPerSec * 12 := by
  have longer : ∀ kind,
      ((new .default).limitFor .api).idle ≤ ((new .default).limitFor kind).idle := by
    intro kind
    cases kind with
    | api => exact le_rfl
    | login => decide +kernel
  exact passed_le rfl (run_of_idle_le solvent_empty fun check _ => longer check.kind)
    (timely_flood 50000) 0 (by norm_num)

theorem entries_logins :
    ((logins 0).foldl (new .default).step ∅).entries = [⟨"login:192.0.2.7", ⟨0, 0⟩⟩] := by
  decide +kernel

theorem step_after_crowd {size : Nat} (large : 50000 ≤ size) :
    (new .default).step ((crowd size).foldl (new .default).step
        ((logins 0).foldl (new .default).step ∅)) ⟨.api, "192.0.2.7", 12⟩ =
      (new .default).step ∅ ⟨.api, "192.0.2.7", 12⟩ := by
  have used : AllUsedAt 0 ((logins 0).foldl (new .default).step ∅) := by
    intro row member
    rw [entries_logins, List.mem_singleton] at member
    rw [member]
  have distinct : ((crowd size).map fun check => keyOf check.kind check.ip).Nodup := by
    rw [crowd, List.map_map]
    apply List.Nodup.map _ List.nodup_range
    intro left right same
    exact address_injective (keyOf_inj.mp same).2
  have fresh : ∀ check ∈ crowd size,
      keyOf check.kind check.ip ∉ (logins 0).foldl (new .default).step ∅ := by
    intro check member
    rcases List.mem_map.mp member with ⟨client, _, rfl⟩
    rw [AList.mem_keys, AList.keys, entries_logins, List.keys, List.map_singleton,
      List.mem_singleton]
    intro (same : keyOf .api (address client) = keyOf .login "192.0.2.7")
    have kinds := (keyOf_inj.mp same).1
    contradiction
  have atOnce : ∀ check ∈ crowd size, check.now = 0 := by
    intro check member
    rcases List.mem_map.mp member with ⟨client, _, rfl⟩
    rfl
  have enabled : (new .default).enabled = true := rfl
  rcases foldl_step_of_allUsedAt enabled used atOnce distinct fresh with ⟨usedAfter, grown⟩
  have many : (new .default).maxKeys < ((crowd size).foldl (new .default).step
      ((logins 0).foldl (new .default).step ∅)).entries.length := by
    have ceiling : (new .default).maxKeys = 50000 := rfl
    rw [grown, entries_logins, crowd, List.length_map, List.length_range, ceiling,
      List.length_singleton]
    omega
  have idle : ((new .default).limitFor .api).idle ≤ Bucket.since 0 12 := by decide +kernel
  have forgotten := prune_of_crowded usedAfter many idle
  have empty : (new .default).prune ∅ .api 12 = ∅ := rfl
  have isOn : ¬ (new .default).enabled = false := by rw [enabled]; decide
  simp only [step, checkAt, if_neg isOn] at forgotten ⊢
  rw [forgotten, empty]

theorem logins_in_flood :
    ((flood 50000).map RateCheck.now).Pairwise (· ≤ ·) ∧
      ((new .default).limitFor .login).burst +
          ((new .default).limitFor .login).refillPerSec * 12 <
        ((new .default).passed .login "192.0.2.7" 0 (0 + 12) (flood 50000) : ℚ) := by
  refine ⟨timely_flood 50000, ?_⟩
  let counts : RateCheck → Bool := fun check =>
    check.kind = .login ∧ check.ip = "192.0.2.7" ∧ 0 ≤ check.now ∧ check.now ≤ 0 + 12
  have first : ((new .default).granted ∅ (logins 0)).countP counts = 10 := by decide +kernel
  have second : ((new .default).granted ((new .default).step ∅ ⟨.api, "192.0.2.7", 12⟩)
      (logins 12)).countP counts = 10 := by decide +kernel
  have twenty : 20 ≤ (new .default).passed .login "192.0.2.7" 0 (0 + 12) (flood 50000) := by
    have kept {answer : Bool} {check : RateCheck} {more : List RateCheck} :
        more.countP counts ≤ (if answer = true then check :: more else more).countP counts := by
      cases answer with
      | false => exact le_rfl
      | true => exact (List.sublist_cons_self check more).countP_le
    rw [passed, flood, granted_append, granted_append, granted, step_after_crowd le_rfl,
      List.countP_append, List.countP_append]
    apply le_trans _ (Nat.add_le_add first.ge ((second.ge.trans kept).trans (Nat.le_add_left _ _)))
    exact le_rfl
  have bound : ((new .default).limitFor .login).burst +
      ((new .default).limitFor .login).refillPerSec * 12 = 16 := by decide +kernel
  rw [bound]
  exact_mod_cast (by omega : 16 < (new .default).passed .login "192.0.2.7" 0 (0 + 12) (flood 50000))

end RateLimiter

end QuantaWatch.Gateway
