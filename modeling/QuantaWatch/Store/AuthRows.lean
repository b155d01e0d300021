import QuantaWatch.Store.Tables

/-!
The operations of `Store` on the rows that back authentication, and what the purge
deletes (`qw-store`).
-/

namespace QuantaWatch.Store

open Crypto Lib

/-- The rows, with the `expires_at` column of the sessions as it was last put. -/
structure AuthRows where
  store : SignInStore
  sessionEnds : AList fun _ : String => DateTime

inductive AuthOp where
  | putAuthSession (tokenHash : String) (session : AuthSession)
  | touchAuthSession (tokenHash : String) (session : AuthSession)
  | deleteAuthSession (tokenHash : String)
  | deleteSessionsForUser (username : String)
  | putMfaPending (tokenHash : String) (pending : MfaPending)
  | consumeMfaPending (now : DateTime) (tokenHash : String)
  | putLoginLockout (username : String) (state : LockoutState)
  | clearLoginLockout (username : String)
  | putOidcState (state : String) (expiresAt : DateTime)
  | consumeOidcState (state : String)
  | purgeExpiredAuth (now : DateTime)
  | upsertUser (user : DbUser)
  | deleteUser (username : String)

namespace AuthRows

def empty : AuthRows := ⟨⟨⟨.empty, ∅, ∅, ∅⟩, ∅⟩, ∅⟩

variable (rows : AuthRows)

def onAuth (change : AuthStore → AuthStore) : AuthRows :=
  { rows with store := { rows.store with auth := change rows.store.auth } }

def ended (now : DateTime) (tokenHash : String) : Bool :=
  (rows.sessionEnds.lookup tokenHash).any fun ends => ends.nanos < (wholeSecond now).nanos

def purgeExpiredAuth (now : DateTime) : AuthRows where
  store :=
    { auth :=
        { rows.store.auth with
          sessions := (rows.store.auth.sessions.keys.filter (rows.ended now)).foldl
            (fun sessions tokenHash => sessions.erase tokenHash) rows.store.auth.sessions }
      oidcStates := Collections.filterRows (fun ends => (wholeSecond now).nanos ≤ ends.nanos)
        rows.store.oidcStates }
  sessionEnds := rows.sessionEnds

def apply (platform : Platform) (backend : Backend) : AuthOp → AuthRows
  | .putAuthSession tokenHash session =>
    { rows.onAuth (·.putAuthSession tokenHash session) with
      sessionEnds := rows.sessionEnds.insert tokenHash (wholeSecond session.expiresAt) }
  | .touchAuthSession tokenHash session => rows.onAuth (·.touchAuthSession tokenHash session)
  | .deleteAuthSession tokenHash => rows.onAuth (·.deleteAuthSession tokenHash)
  | .deleteSessionsForUser username =>
    rows.onAuth (AuthStore.deleteSessionsForUser platform backend · username)
  | .putMfaPending tokenHash pending => rows.onAuth (·.putMfaPending tokenHash pending)
  | .consumeMfaPending now tokenHash =>
    rows.onAuth fun auth => (auth.consumeMfaPending now tokenHash).2
  | .putLoginLockout username state => rows.onAuth (·.putLoginLockout username state)
  | .clearLoginLockout username => rows.onAuth (·.clearLoginLockout username)
  | .putOidcState state expiresAt => { rows with store := rows.store.putOidcState state expiresAt }
  | .consumeOidcState state => { rows with store := (rows.store.consumeOidcState state).2 }
  | .purgeExpiredAuth now => rows.purgeExpiredAuth now
  | .upsertUser user => rows.onAuth (·.upsertUser user)
  | .deleteUser username => rows.onAuth (·.deleteUser username)

end AuthRows

inductive AuthQuery where
  | getAuthSession (tokenHash : String)
  | consumeMfaPending (now : DateTime) (tokenHash : String)
  | getLoginLockout (username : String)
  | consumeOidcState (state : String)
  | listUsers
  | getUser (username : String)

abbrev AuthQuery.Result : AuthQuery → Type
  | getAuthSession _ => Option AuthSession
  | consumeMfaPending _ _ => Option MfaPending
  | getLoginLockout _ => Option LockoutState
  | consumeOidcState _ => Option DateTime
  | listUsers => List DbUser
  | getUser _ => Option DbUser

def Database.queryAuth (database : Database) (rows : AuthRows) : (query : AuthQuery) → query.Result
  | .getAuthSession tokenHash => rows.store.auth.getAuthSession tokenHash
  | .consumeMfaPending now tokenHash => (rows.store.auth.consumeMfaPending now tokenHash).1
  | .getLoginLockout username => rows.store.auth.getLoginLockout username
  | .consumeOidcState state => (rows.store.consumeOidcState state).1
  | .listUsers =>
    database.orderBy DbUser.username (rows.store.auth.users.rows.entries.map Sigma.snd)
  | .getUser username => rows.store.auth.getUser username

/-- `LIKE` finds the same sessions on both backends. -/
def AuthRows.SameSearch (platform : Platform) (rows : AuthRows) (username : String) : Prop :=
  ∀ row ∈ rows.store.auth.sessions.entries,
    row.2.namesUser platform .sqlite username = row.2.namesUser platform .postgres username

theorem AuthRows.apply_backend {platform : Platform} {rows : AuthRows} {op : AuthOp}
    (search : ∀ username, op = .deleteSessionsForUser username →
      rows.SameSearch platform username) :
    rows.apply platform .sqlite op = rows.apply platform .postgres op := by
  cases op with
  | deleteSessionsForUser username =>
    have found := search username rfl
    have same : Collections.filterRows
        (fun session : AuthSession => !session.namesUser platform .sqlite username)
        rows.store.auth.sessions =
        Collections.filterRows
          (fun session : AuthSession => !session.namesUser platform .postgres username)
          rows.store.auth.sessions := by
      apply AList.ext
      apply List.filter_congr
      intro row member
      exact congrArg not (found row member)
    rw [apply, apply, onAuth, onAuth, AuthStore.deleteSessionsForUser,
      AuthStore.deleteSessionsForUser, same]
  | _ => rfl

/-- Months are counted from January of the year 0. -/
def monthLength (month : Nat) : Nat :=
  let year := month / 12
  match month % 12 with
  | 1 => if year % 4 = 0 ∧ (year % 100 = 0 → year % 400 = 0) then 29 else 28
  | 3 | 5 | 8 | 10 => 30
  | _ => 31

/-- The days from 0000-01-01 to the first day of a month. -/
def monthStart : Nat → Nat
  | 0 => 0
  | month + 1 => monthStart month + monthLength month

def monthOf (day : Nat) : Nat := Nat.findGreatest (fun month => monthStart month ≤ day) (day / 28)

/-- A number in decimal, with zeros up to a width. -/
def padded : Nat → Nat → List Char
  | 0, _ => []
  | width + 1, number => padded width (number / 10) ++ [Nat.digitChar (number % 10)]

/-- The seconds since 0000-01-01T00:00:00Z. -/
def secondsOf (instant : DateTime) : Int := instant.nanos / 1000000000 + 62167219200

def FourDigitYear (instant : DateTime) : Prop :=
  0 ≤ secondsOf instant ∧ monthOf ((secondsOf instant).toNat / 86400) / 12 < 10000

def stamp (second : Nat) : List Char :=
  let day := second / 86400
  let month := monthOf day
  padded 4 (month / 12) ++ ('-' :: (padded 2 (month % 12 + 1) ++
    ('-' :: (padded 2 (day - monthStart month + 1) ++
      ('T' :: (padded 2 (second % 86400 / 3600) ++
        (':' :: (padded 2 (second % 3600 / 60) ++
          (':' :: (padded 2 (second % 60) ++ ['Z']))))))))))

/-- `chrono` writes an instant as it documents `%Y-%m-%dT%H:%M:%SZ`. -/
def WritesSeconds (format : DateTime → String) : Prop :=
  ∀ instant, FourDigitYear instant → (format instant).toList = stamp (secondsOf instant).toNat

theorem monthLength_bounds (month : Nat) : 28 ≤ monthLength month ∧ monthLength month ≤ 31 := by
  unfold monthLength
  dsimp only
  split <;> try split_ifs
  all_goals decide

theorem monthStart_mono : Monotone monthStart :=
  monotone_nat_of_le_succ fun _ => Nat.le_add_right _ _

theorem le_monthStart (month : Nat) : 28 * month ≤ monthStart month := by
  induction month with
  | zero => exact Nat.zero_le _
  | succ month ih =>
    have := monthLength_bounds month
    rw [monthStart]
    omega

theorem monthOf_spec (day : Nat) :
    monthStart (monthOf day) ≤ day ∧ day < monthStart (monthOf day + 1) := by
  have starts : monthStart 0 ≤ day := Nat.zero_le day
  refine ⟨Nat.findGreatest_spec (P := fun month => monthStart month ≤ day) (Nat.zero_le _) starts,
    ?_⟩
  by_contra later
  have early : monthOf day + 1 ≤ day / 28 := by
    have := le_monthStart (monthOf day + 1)
    omega
  exact Nat.findGreatest_is_greatest (Nat.lt_succ_self _) early (Nat.le_of_not_lt later)

theorem digitChar_order : ∀ left < 10, ∀ right < 10,
    (left.digitChar < right.digitChar ↔ left < right) ∧
      (left.digitChar = right.digitChar ↔ left = right) := by
  decide

theorem padded_append_lt {width left right : Nat} {leftRest rightRest : List Char}
    (leftFits : left < 10 ^ width) (rightFits : right < 10 ^ width) :
    padded width left ++ leftRest < padded width right ++ rightRest ↔
      left < right ∨ left = right ∧ leftRest < rightRest := by
  induction width generalizing left right leftRest rightRest with
  | zero =>
    obtain rfl : left = 0 := by simpa using leftFits
    obtain rfl : right = 0 := by simpa using rightFits
    simp [padded]
  | succ width ih =>
    have leftLess : left / 10 < 10 ^ width := by omega
    have rightLess : right / 10 < 10 ^ width := by omega
    have digits := digitChar_order (left % 10) (Nat.mod_lt _ (by decide)) (right % 10)
      (Nat.mod_lt _ (by decide))
    have less : left < right ↔
        left / 10 < right / 10 ∨ left / 10 = right / 10 ∧ left % 10 < right % 10 := by omega
    have equal : left = right ↔ left / 10 = right / 10 ∧ left % 10 = right % 10 := by omega
    rw [padded, padded, List.append_assoc, List.append_assoc, ih leftLess rightLess,
      List.singleton_append, List.singleton_append, List.cons_lt_cons_iff,
      digits.1, digits.2, less, equal]
    rw [or_assoc, and_assoc, ← and_or_left]

/-- A month begins on the day after the month before it ends, so the earlier of two days is in
an earlier month or, in the same month, on an earlier day. -/
theorem day_lt_iff (left right : Nat) :
    left < right ↔ monthOf left < monthOf right ∨ monthOf left = monthOf right ∧
      left - monthStart (monthOf left) < right - monthStart (monthOf right) := by
  have leftMonth := monthOf_spec left
  have rightMonth := monthOf_spec right
  rcases Nat.lt_trichotomy (monthOf left) (monthOf right) with less | equal | more
  · have before := monthStart_mono (Nat.succ_le_of_lt less)
    simp only [less, true_or, iff_true]
    exact leftMonth.2.trans_le (before.trans rightMonth.1)
  · rw [equal] at leftMonth ⊢
    omega
  · have before := monthStart_mono (Nat.succ_le_of_lt more)
    have later : right < left := rightMonth.2.trans_le (before.trans leftMonth.1)
    omega

theorem day_fits (day : Nat) : day - monthStart (monthOf day) + 1 < 10 ^ 2 := by
  have spec := monthOf_spec day
  have length := monthLength_bounds (monthOf day)
  rw [monthStart] at spec
  omega

theorem day_eq_iff (left right : Nat) : left = right ↔ monthOf left = monthOf right ∧
      left - monthStart (monthOf left) = right - monthStart (monthOf right) := by
  refine ⟨fun same => by rw [same]; exact ⟨rfl, rfl⟩, fun same => ?_⟩
  have less := day_lt_iff left right
  have more := day_lt_iff right left
  omega

theorem stamp_lt_iff {left right : Nat} (leftYear : monthOf (left / 86400) / 12 < 10000)
    (rightYear : monthOf (right / 86400) / 12 < 10000) :
    stamp left < stamp right ↔ left < right := by
  have days := day_lt_iff (left / 86400) (right / 86400)
  have sameDay := day_eq_iff (left / 86400) (right / 86400)
  unfold stamp
  rw [padded_append_lt leftYear rightYear, List.cons_lt_cons_self,
    padded_append_lt (by omega) (by omega), List.cons_lt_cons_self,
    padded_append_lt (day_fits _) (day_fits _), List.cons_lt_cons_self,
    padded_append_lt (by omega) (by omega), List.cons_lt_cons_self,
    padded_append_lt (by omega) (by omega), List.cons_lt_cons_self,
    padded_append_lt (by omega) (by omega)]
  have ends : ¬['Z'] < ['Z'] := List.lt_irrefl _
  simp only [ends, and_false, or_false]
  omega

section Purge

variable {format : DateTime → String} {δ : Type} {expiry : δ → DateTime} {now : DateTime}

/-- Columns compare as the instants cut to whole seconds do. -/
theorem format_lt_iff (writes : WritesSeconds format) {left right : DateTime}
    (leftYear : FourDigitYear left) (rightYear : FourDigitYear right) :
    (format left).toList < (format right).toList ↔
      (wholeSecond left).nanos < (wholeSecond right).nanos := by
  rw [writes left leftYear, writes right rightYear, stamp_lt_iff leftYear.2 rightYear.2]
  unfold FourDigitYear secondsOf at *
  unfold wholeSecond
  dsimp only
  omega

/-- A row with an `expires_at` column, which is written from the expiry of its data. -/
structure Expiring (format : DateTime → String) (expiry : δ → DateTime) where
  data : δ
  expiresAt : String
  written : expiresAt = format (expiry data)

abbrev ExpiringRows (format : DateTime → String) (expiry : δ → DateTime) :=
  AList fun _ : String => Expiring format expiry

variable {rows : ExpiringRows format expiry}

/-- `DELETE … WHERE expires_at < ?1`. SQLite compares texts by code points, and so does PostgreSQL
under any collation where they differ in digits only. -/
def deleteBefore (now : String) (rows : ExpiringRows format expiry) :
    ExpiringRows format expiry :=
  Collections.filterRows (fun row => ¬row.expiresAt.toList < now.toList) rows

def Dated (rows : ExpiringRows format expiry) : Prop :=
  ∀ key row, rows.lookup key = some row → FourDigitYear (expiry row.data)

/-- No row that expires after the instant is lost, and none is left that expired a second before
it. -/
def PurgedAt (now : DateTime) (before after : ExpiringRows format expiry) : Prop :=
  ∀ key row, before.lookup key = some row →
    (now.nanos < (expiry row.data).nanos → after.lookup key = some row) ∧
      ((expiry row.data).nanos + 1000000000 ≤ now.nanos → after.lookup key = none)

theorem Dated.empty : Dated (∅ : ExpiringRows format expiry) := by
  intro key row found
  cases found

theorem Dated.insert (dated : Dated rows) (key : String) {row : Expiring format expiry}
    (year : FourDigitYear (expiry row.data)) : Dated (rows.insert key row) := by
  intro other found isFound
  by_cases same : other = key
  · subst same
    rw [AList.lookup_insert] at isFound
    rw [← Option.some.inj isFound]
    exact year
  · rw [AList.lookup_insert_ne same] at isFound
    exact dated other found isFound

theorem Dated.expiresAt_lt_iff (dated : Dated rows) (writes : WritesSeconds format)
    (nowYear : FourDigitYear now) {key : String} {row : Expiring format expiry}
    (found : rows.lookup key = some row) : row.expiresAt.toList < (format now).toList ↔
      (wholeSecond (expiry row.data)).nanos < (wholeSecond now).nanos := by
  rw [row.written, format_lt_iff writes (dated key row found) nowYear]

theorem purgedAt_deleteBefore (writes : WritesSeconds format) (nowYear : FourDigitYear now)
    (dated : Dated rows) : PurgedAt now rows (deleteBefore (format now) rows) := by
  intro key row found
  have deleted := dated.expiresAt_lt_iff writes nowYear found
  unfold wholeSecond at deleted
  dsimp only at deleted
  rw [deleteBefore, Collections.lookup_filterRows, found]
  constructor
  · intro later
    have live := mt deleted.mp (by omega)
    exact Option.filter_some_pos (decide_eq_true live)
  · intro earlier
    have expired := deleted.mpr (by omega)
    exact Option.filter_some_neg (decide_eq_false (not_not.mpr expired))

end Purge

/-- The tables `auth_sessions` and `oidc_states`. -/
structure ExpiryTables (format : DateTime → String) where
  authSessions : ExpiringRows format AuthSession.expiresAt
  oidcStates : ExpiringRows format (id : DateTime → DateTime)

namespace ExpiryTables

variable {format : DateTime → String} (tables : ExpiryTables format)

def putAuthSession (tokenHash : String) (session : AuthSession) : ExpiryTables format :=
  { tables with authSessions := tables.authSessions.insert tokenHash ⟨session, _, rfl⟩ }

def putOidcState (state : String) (expiresAt : DateTime) : ExpiryTables format :=
  { tables with oidcStates := tables.oidcStates.insert state ⟨expiresAt, _, rfl⟩ }

def purgeExpiredAuth (now : DateTime) : ExpiryTables format where
  authSessions := deleteBefore (format now) tables.authSessions
  oidcStates := deleteBefore (format now) tables.oidcStates

theorem purgeExpiredAuth_purgedAt (writes : WritesSeconds format) {tables : ExpiryTables format}
    (sessions : Dated tables.authSessions) (states : Dated tables.oidcStates) {now : DateTime}
    (nowYear : FourDigitYear now) :
    PurgedAt now tables.authSessions (tables.purgeExpiredAuth now).authSessions ∧
      PurgedAt now tables.oidcStates (tables.purgeExpiredAuth now).oidcStates :=
  ⟨purgedAt_deleteBefore writes nowYear sessions, purgedAt_deleteBefore writes nowYear states⟩

/-- The tables hold these rows, which keep the columns as instants of whole seconds. -/
structure Holds (rows : AuthRows) : Prop where
  sessions : ∀ key, rows.store.auth.sessions.lookup key =
    (tables.authSessions.lookup key).map Expiring.data
  ends : ∀ key row, tables.authSessions.lookup key = some row →
    rows.sessionEnds.lookup key = some (wholeSecond row.data.expiresAt)
  states : ∀ key, rows.store.oidcStates.lookup key =
    (tables.oidcStates.lookup key).map fun row => wholeSecond row.data

private theorem lookup_foldl_erase {β : Type} (keys : List String)
    (rows : AList fun _ : String => β) (key : String) :
    (keys.foldl (fun rows key => rows.erase key) rows).lookup key =
      if key ∈ keys then none else rows.lookup key := by
  induction keys generalizing rows with
  | nil => simp
  | cons first keys ih =>
    rw [List.foldl_cons, ih]
    by_cases same : key = first
    · subst same
      simp
    · simp [same, AList.lookup_erase_ne same]

/-- Purging by the columns and purging by the instants delete the same rows. -/
theorem Holds.purgeExpiredAuth {tables : ExpiryTables format} {rows : AuthRows} {now : DateTime}
    (holds : tables.Holds rows) (writes : WritesSeconds format)
    (sessionYears : Dated tables.authSessions) (stateYears : Dated tables.oidcStates)
    (nowYear : FourDigitYear now) :
    (tables.purgeExpiredAuth now).Holds (rows.purgeExpiredAuth now) where
  sessions key := by
    have listed : key ∈ rows.store.auth.sessions.keys ↔
        (rows.store.auth.sessions.lookup key).isSome = true := AList.lookup_isSome.symm
    simp only [AuthRows.purgeExpiredAuth, ExpiryTables.purgeExpiredAuth, deleteBefore,
      lookup_foldl_erase, Collections.lookup_filterRows, List.mem_filter, listed, holds.sessions]
    cases found : tables.authSessions.lookup key with
    | none => simp
    | some row =>
      have deleted := sessionYears.expiresAt_lt_iff writes nowYear found
      simp only [Option.map_some, Option.isSome_some, true_and, AuthRows.ended,
        holds.ends key row found, Option.any_some, decide_eq_true_eq, Option.filter_some, deleted]
      split_ifs <;> rfl
  ends key row found := by
    rw [ExpiryTables.purgeExpiredAuth, deleteBefore, Collections.lookup_filterRows] at found
    exact holds.ends key row (Option.filter_eq_some_iff.mp found).1
  states key := by
    simp only [AuthRows.purgeExpiredAuth, ExpiryTables.purgeExpiredAuth, deleteBefore,
      Collections.lookup_filterRows, holds.states]
    cases found : tables.oidcStates.lookup key with
    | none => rfl
    | some row =>
      have deleted := stateYears.expiresAt_lt_iff writes nowYear found
      simp only [Option.map_some, Option.filter_some, decide_eq_true_eq, deleted, id_eq]
      simp only [not_lt]
      split_ifs <;> rfl

def sample : ExpiryTables fun instant => String.ofList (stamp (secondsOf instant).toNat) :=
  let sessions := putAuthSession
    (putAuthSession ⟨∅, ∅⟩ "h-live" ⟨"alice", "admin", "acme", ⟨60000000000⟩, ⟨0⟩⟩)
    "h-old" ⟨"bob", "viewer", "acme", ⟨5000000000⟩, ⟨0⟩⟩
  putOidcState (putOidcState sessions "live" ⟨30000000000⟩) "old" ⟨0⟩

theorem purgeExpiredAuth_keeps_live :
    let after := sample.purgeExpiredAuth ⟨10000000000⟩
    after.authSessions.lookup "h-live" = sample.authSessions.lookup "h-live" ∧
      after.authSessions.lookup "h-old" = none ∧
      after.oidcStates.lookup "live" = sample.oidcStates.lookup "live" ∧
      after.oidcStates.lookup "old" = none := by
  have year : ∀ instant : DateTime, 0 ≤ instant.nanos → instant.nanos < 86400000000000 →
      FourDigitYear instant := by
    intro instant early late
    have month := (le_monthStart _).trans (monthOf_spec 719528).1
    have days : (instant.nanos / 1000000000 + 62167219200).toNat / 86400 = 719528 := by omega
    rw [FourDigitYear, secondsOf, days]
    omega
  have sessionYears : Dated sample.authSessions := by
    refine Dated.insert (Dated.insert Dated.empty _ ?_) _ ?_
    all_goals exact year _ (by decide) (by decide)
  have stateYears : Dated sample.oidcStates := by
    refine Dated.insert (Dated.insert Dated.empty _ ?_) _ ?_
    all_goals exact year _ (by decide) (by decide)
  obtain ⟨sessions, states⟩ := purgeExpiredAuth_purgedAt (fun _ _ => String.toList_ofList)
    sessionYears stateYears (year ⟨10000000000⟩ (by decide) (by decide))
  exact ⟨(sessions "h-live" _ rfl).1 (by decide), (sessions "h-old" _ rfl).2 (by decide),
    (states "live" _ rfl).1 (by decide), (states "old" _ rfl).2 (by decide)⟩

end ExpiryTables

end QuantaWatch.Store
