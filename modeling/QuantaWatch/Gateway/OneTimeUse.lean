import QuantaWatch.Gateway.Requests

/-!
Single use of pending tokens, OIDC nonces and backup codes under every
interleaving of the store operations of concurrent requests.
-/

namespace QuantaWatch.Gateway

open Crypto Lib Lib.Interleaving Store

namespace Credential

def OfUser (user : DbUser) : Credential → Prop
  | backup username hash => username = user.username ∧ hash ∈ user.backupCodeHashes
  | _ => False

def StoredIn (store : SignInStore) : Credential → Prop
  | pending tokenHash => tokenHash ∈ store.auth.pendings
  | nonce state => state ∈ store.oidcStates
  | backup username hash =>
    ∃ user, store.auth.getUser username = some user ∧ hash ∈ user.backupCodeHashes

def MintedBy (manager : AuthManager) (moment : Moment) : Credential → Prop
  | pending tokenHash => tokenHash = manager.tokenHash moment.random.token
  | nonce state => state = moment.random.token
  | backup _ hash => hash ∈ moment.random.backupCodes.map manager.hashBackupCode

end Credential

namespace Phase

def deletes : Phase → Option Credential
  | deletePending tokenHash _ (some _) => some (.pending tokenHash)
  | deleteNonce _ _ state _ => some (.nonce state)
  | _ => none

def writes : Phase → Option (DbUser × Option String)
  | putUser user spent _ => some (user, spent)
  | setup (.write user) => some (user, none)
  | _ => none

def readsToken : Phase → Option Credential
  | selectPending tokenHash _ => some (.pending tokenHash)
  | selectNonce _ _ state => some (.nonce state)
  | _ => none

def readsUser : Phase → Option String
  | factorUser username _ => some username
  | updateUser username _ => some username
  | _ => none

def gathers : Phase → Bool
  | selectPending _ _ => true
  | selectNonce _ _ _ => true
  | factorUser _ _ => true
  | updateUser _ _ => true
  | createUser _ _ => true
  | setup (.check _ _) => true
  | _ => false

def Quiet (phase : Phase) : Prop := phase.deletes = none ∧ phase.writes = none

def Holds (phase : Phase) (credential : Credential) : Prop :=
  phase.deletes = some credential ∨ ∃ user spent, phase.writes = some (user, spent) ∧
    (credential.OfUser user ∨ ∃ hash, spent = some hash ∧ credential = .backup user.username hash)

def Reads (phase : Phase) (credential : Credential) : Prop :=
  phase.readsToken = some credential ∨ ∃ username hash, phase.readsUser = some username ∧
    credential = .backup username hash

def Sound (phase : Phase) : Prop :=
  ∀ user spent, phase.writes = some (user, spent) →
    user.backupCodeHashes.Nodup ∧ ∀ hash, spent = some hash → hash ∉ user.backupCodeHashes

end Phase

def SoundStore (store : SignInStore) : Prop :=
  ∀ username user, store.auth.getUser username = some user → user.backupCodeHashes.Nodup

namespace Replicas

variable {replicas : Replicas} {moment : Moment} {store : SignInStore} {credential : Credential}

variable {auth : AuthStore} {user row old : DbUser} {name username : String} {phase : Phase}
    {spent : Option String}

theorem getUser_upsert (found : (auth.upsertUser user).getUser name = some row) :
    auth.getUser name = some row ∨ (row = user ∧ user.username = name) := by
  by_cases same : name = user.username
  · subst same
    exact Or.inr ⟨(Option.some.inj (UserTable.get_upsert.symm.trans found)).symm, rfl⟩
  · exact Or.inl ((UserTable.get_upsert_ne same).symm.trans found)

theorem getUser_update (found : (replicas.update moment store phase).auth.getUser name = some row) :
    store.auth.getUser name = some row ∨
      ∃ spent, phase.writes = some (row, spent) ∧ row.username = name := by
  cases phase with
  | putUser user spent sequel =>
    rcases getUser_upsert found with old | ⟨rfl, named⟩
    · exact Or.inl old
    · exact Or.inr ⟨spent, rfl, named⟩
  | setup phase =>
    cases phase with
    | check username password =>
      rcases AuthManager.setupStep_check replicas.manager moment store.auth username password
        with ⟨_, stepped, _⟩ | ⟨_, _, _, stepped, _⟩ <;>
        · simp only [update, stepped] at found
          exact Or.inl found
    | write user =>
      rcases getUser_upsert found with old | ⟨rfl, named⟩
      · exact Or.inl old
      · exact Or.inr ⟨none, rfl, named⟩
    | issue username => exact Or.inl found
    | done result => exact Or.inl found
  | deleteRow username =>
    by_cases same : name = username
    · subst same
      exact absurd (found.symm.trans (AList.lookup_erase _ _)) (by simp)
    · exact Or.inl ((AList.lookup_erase_ne same).symm.trans found)
  | _ => exact Or.inl found

theorem pendings_update {tokenHash : String}
    (member : tokenHash ∈ (replicas.update moment store phase).auth.pendings) :
    tokenHash ∈ store.auth.pendings ∨
      tokenHash = replicas.manager.tokenHash moment.random.token := by
  cases phase with
  | putPending username kind reply => exact ((AList.mem_insert _).mp member).symm
  | setup phase =>
    cases phase with
    | check username password =>
      rcases AuthManager.setupStep_check replicas.manager moment store.auth username password
        with ⟨_, stepped, _⟩ | ⟨_, _, _, stepped, _⟩ <;>
        · simp only [update, stepped] at member
          exact Or.inl member
    | write user => exact Or.inl member
    | issue username => exact ((AList.mem_insert _).mp member).symm
    | done result => exact Or.inl member
  | deletePending other purpose found => exact Or.inl (AList.mem_erase.mp member).2
  | _ => exact Or.inl member

theorem nonces_update {state : String}
    (member : state ∈ (replicas.update moment store phase).oidcStates) :
    state ∈ store.oidcStates ∨ state = moment.random.token := by
  cases phase with
  | putNonce location => exact ((AList.mem_insert _).mp member).symm
  | deleteNonce config answers other expiresAt => exact Or.inl (AList.mem_erase.mp member).2
  | _ => exact Or.inl member

theorem storedIn_update (stored : credential.StoredIn (replicas.update moment store phase)) :
    credential.StoredIn store ∨ phase.Holds credential ∨
      credential.MintedBy replicas.manager moment := by
  cases credential with
  | pending tokenHash =>
    rcases pendings_update stored with old | minted
    · exact Or.inl old
    · exact Or.inr (Or.inr minted)
  | nonce state =>
    rcases nonces_update stored with old | minted
    · exact Or.inl old
    · exact Or.inr (Or.inr minted)
  | backup username hash =>
    obtain ⟨row, found, member⟩ := stored
    rcases getUser_update found with old | ⟨spent, writes, rfl⟩
    · exact Or.inl ⟨row, old, member⟩
    · exact Or.inr (Or.inl (Or.inr ⟨row, spent, writes, Or.inl ⟨rfl, member⟩⟩))

theorem quiet_next (plain : phase.gathers = false) : (replicas.next moment store phase).Quiet := by
  cases phase with
  | login username password => simp only [next]; split <;> exact ⟨rfl, rfl⟩
  | loginUser since username password => simp only [next]; split <;> exact ⟨rfl, rfl⟩
  | failureRead since username => simp only [next]; split <;> exact ⟨rfl, rfl⟩
  | failureWrite username state => exact ⟨rfl, rfl⟩
  | clearLockout username roleName org => simp only [next]; split <;> exact ⟨rfl, rfl⟩
  | loginEnrolled username => simp only [next]; split <;> exact ⟨rfl, rfl⟩
  | putPending username kind reply => exact ⟨rfl, rfl⟩
  | putSession username role org reply => exact ⟨rfl, rfl⟩
  | setup phase =>
    cases phase with
    | check username password => cases plain
    | write user => exact ⟨rfl, rfl⟩
    | issue username => exact ⟨rfl, rfl⟩
    | done result => exact ⟨rfl, rfl⟩
  | deletePending tokenHash purpose found => simp only [next]; split <;> exact ⟨rfl, rfl⟩
  | putUser user spent sequel => cases sequel <;> exact ⟨rfl, rfl⟩
  | putNonce location => exact ⟨rfl, rfl⟩
  | deleteNonce config answers state expiresAt =>
    simp only [next]
    split
    · split <;> exact ⟨rfl, rfl⟩
    · exact ⟨rfl, rfl⟩
  | deleteUser principal username =>
    simp only [next]
    split
    · exact ⟨rfl, rfl⟩
    · split <;> exact ⟨rfl, rfl⟩
  | deleteRow username => exact ⟨rfl, rfl⟩
  | deleteSessions username => exact ⟨rfl, rfl⟩
  | done reply => exact ⟨rfl, rfl⟩
  | selectPending tokenHash purpose => cases plain
  | selectNonce config answers state => cases plain
  | factorUser username purpose => cases plain
  | updateUser username body => cases plain
  | createUser tenant body => cases plain

inductive Rewrites (manager : AuthManager) (moment : Moment) (old user : DbUser) :
    Option String → Prop where
  | keep (same : user.backupCodeHashes = old.backupCodeHashes) :
      Rewrites manager moment old user none
  | take (hash : String) (member : hash ∈ old.backupCodeHashes)
      (rest : user.backupCodeHashes = old.backupCodeHashes.erase hash) :
      Rewrites manager moment old user (some hash)
  | renew (fresh : user.backupCodeHashes =
      moment.random.backupCodes.map manager.hashBackupCode) : Rewrites manager moment old user none

theorem writes_factorNext {purpose : Purpose}
    (writes : (replicas.factorNext moment username old purpose).writes = some (user, spent)) :
    user.username = old.username ∧ Rewrites replicas.manager moment old user spent := by
  cases purpose with
  | verify code =>
    simp only [factorNext, AuthManager.consumeBackupCode] at writes
    split_ifs at writes with totp member
    · simp [Phase.writes] at writes
    · simp only [Phase.writes, Option.some.injEq, Prod.mk.injEq] at writes
      obtain ⟨rfl, rfl⟩ := writes
      exact ⟨rfl, .take _ member rfl⟩
    · simp [Phase.writes] at writes
  | begin =>
    simp only [factorNext] at writes
    split at writes
    · simp [Phase.writes] at writes
    · simp only [Phase.writes, Option.some.injEq, Prod.mk.injEq] at writes
      obtain ⟨rfl, rfl⟩ := writes
      exact ⟨rfl, .keep rfl⟩
  | confirm code =>
    simp only [factorNext] at writes
    split at writes
    · simp [Phase.writes] at writes
    · split_ifs at writes with totp
      · simp only [Phase.writes, Option.some.injEq, Prod.mk.injEq] at writes
        obtain ⟨rfl, rfl⟩ := writes
        exact ⟨rfl, .renew rfl⟩
      · simp [Phase.writes] at writes

theorem writes_createNext {tenant : String} {body : CreateUser}
    (writes : (replicas.createNext moment auth tenant body).writes = some (user, spent)) :
    user.backupCodeHashes = [] ∧ spent = none := by
  simp only [createNext] at writes
  split_ifs at writes
  case neg =>
    split at writes
    · simp [Phase.writes] at writes
    · simp only [Phase.writes, Option.some.injEq, Prod.mk.injEq] at writes
      obtain ⟨rfl, rfl⟩ := writes
      exact ⟨rfl, rfl⟩
  all_goals simp [Phase.writes] at writes

theorem withRole_keeps {role : Option String}
    (changed : replicas.users.withRole old role = .ok user) :
    user.username = old.username ∧ user.backupCodeHashes = old.backupCodeHashes := by
  cases role with
  | none =>
    obtain rfl := Except.ok.inj changed
    exact ⟨rfl, rfl⟩
  | some role =>
    simp only [UsersApi.withRole] at changed
    split_ifs at changed
    obtain rfl := Except.ok.inj changed
    exact ⟨rfl, rfl⟩

theorem withPassword_keeps {password : Option String}
    (changed : UsersApi.withPassword moment.random old password = .ok user) :
    user.username = old.username ∧ user.backupCodeHashes = old.backupCodeHashes := by
  cases password with
  | none =>
    obtain rfl := Except.ok.inj changed
    exact ⟨rfl, rfl⟩
  | some password =>
    simp only [UsersApi.withPassword] at changed
    split_ifs at changed
    split at changed
    · cases changed
    · obtain rfl := Except.ok.inj changed
      exact ⟨rfl, rfl⟩

theorem writes_updateNext {body : UpdateUser}
    (writes : (replicas.updateNext moment auth username body).writes = some (user, spent)) :
    ∃ old, auth.getUser username = some old ∧ user.username = old.username ∧
      Rewrites replicas.manager moment old user spent := by
  simp only [updateNext] at writes
  cases found : auth.getUser username with
  | none => simp [found, Phase.writes] at writes
  | some old =>
    simp only [found] at writes
    cases roleChanged : replicas.users.withRole old body.role with
    | error reply => simp [roleChanged, bind, Except.bind, Phase.writes] at writes
    | ok middle =>
      simp only [roleChanged, bind, Except.bind] at writes
      cases changed : UsersApi.withPassword moment.random middle body.password with
      | error reply => simp [changed, Phase.writes] at writes
      | ok final =>
        simp only [changed, Phase.writes, Option.some.injEq, Prod.mk.injEq] at writes
        obtain ⟨rfl, rfl⟩ := writes
        obtain ⟨sameName, sameCodes⟩ := withPassword_keeps changed
        obtain ⟨oldName, oldCodes⟩ := withRole_keeps roleChanged
        exact ⟨old, rfl, sameName.trans oldName, .keep (sameCodes.trans oldCodes)⟩

theorem writes_next (writes : (replicas.next moment store phase).writes = some (user, spent)) :
    (user.backupCodeHashes = [] ∧ spent = none) ∨
      ∃ old, phase.readsUser = some user.username ∧
        store.auth.getUser user.username = some old ∧
        Rewrites replicas.manager moment old user spent := by
  by_cases plain : phase.gathers = false
  · rw [(quiet_next plain).2] at writes
    cases writes
  cases phase with
  | factorUser username purpose =>
    simp only [next] at writes
    cases found : store.auth.getUser username with
    | none => cases purpose <;> simp [found, Purpose.refused, Phase.writes] at writes
    | some old =>
      simp only [found] at writes
      obtain ⟨sameName, rewrites⟩ := writes_factorNext writes
      have named := sameName.trans (UserTable.username_of_get found)
      exact Or.inr ⟨old, by rw [named]; rfl, by rw [named]; exact found, rewrites⟩
  | updateUser username body =>
    obtain ⟨old, found, sameName, rewrites⟩ := writes_updateNext writes
    have named := sameName.trans (UserTable.username_of_get found)
    exact Or.inr ⟨old, by rw [named]; rfl, by rw [named]; exact found, rewrites⟩
  | createUser tenant body => exact Or.inl (writes_createNext writes)
  | setup phase =>
    cases phase with
    | check username password =>
      rcases AuthManager.setupStep_check replicas.manager moment store.auth username password
        with ⟨_, stepped, _⟩ | ⟨_, _, noCodes, stepped, _⟩
      · simp [next, stepped, Phase.ofSetup, Phase.writes] at writes
      · simp only [next, stepped, Phase.ofSetup, Phase.writes, Option.some.injEq,
          Prod.mk.injEq] at writes
        obtain ⟨rfl, rfl⟩ := writes
        exact Or.inl ⟨noCodes, rfl⟩
    | _ => exact absurd rfl plain
  | selectPending tokenHash purpose => simp [next, Phase.writes] at writes
  | selectNonce config answers state =>
    simp only [next] at writes
    split at writes <;> simp [Phase.writes] at writes
  | _ => exact absurd rfl plain

theorem deletes_factorNext (username : String) (user : DbUser) (purpose : Purpose) :
    (replicas.factorNext moment username user purpose).deletes = none := by
  cases purpose with
  | verify code =>
    simp only [factorNext]
    split
    · rfl
    · split <;> rfl
  | begin =>
    simp only [factorNext]
    split <;> rfl
  | confirm code =>
    simp only [factorNext]
    split
    · rfl
    · split <;> rfl

theorem deletes_createNext (auth : AuthStore) (tenant : String) (body : CreateUser) :
    (replicas.createNext moment auth tenant body).deletes = none := by
  simp only [createNext]
  split_ifs
  case neg => cases moment.random.passwordHash <;> rfl
  all_goals rfl

theorem deletes_updateNext (auth : AuthStore) (username : String) (body : UpdateUser) :
    (replicas.updateNext moment auth username body).deletes = none := by
  simp only [updateNext]
  split
  · rfl
  · split <;> rfl

theorem deletes_next (deletes : (replicas.next moment store phase).deletes = some credential) :
    phase.readsToken = some credential ∧ credential.StoredIn store := by
  by_cases plain : phase.gathers = false
  · rw [(quiet_next plain).1] at deletes
    cases deletes
  cases phase with
  | selectPending tokenHash purpose =>
    simp only [next] at deletes
    cases found : store.auth.pendings.lookup tokenHash with
    | none => simp [found, Phase.deletes] at deletes
    | some pending =>
      rw [found] at deletes
      obtain rfl := Option.some.inj deletes
      exact ⟨rfl, AList.lookup_isSome.mp (by rw [found]; rfl)⟩
  | selectNonce config answers state =>
    simp only [next] at deletes
    cases found : store.oidcStates.lookup state with
    | none => simp [found, Phase.deletes] at deletes
    | some expiresAt =>
      rw [found] at deletes
      obtain rfl := Option.some.inj deletes
      exact ⟨rfl, AList.lookup_isSome.mp (by rw [found]; rfl)⟩
  | factorUser username purpose =>
    simp only [next] at deletes
    split at deletes
    · cases deletes
    · rw [deletes_factorNext] at deletes
      cases deletes
  | updateUser username body =>
    rw [next, deletes_updateNext] at deletes
    cases deletes
  | createUser tenant body =>
    rw [next, deletes_createNext] at deletes
    cases deletes
  | setup phase =>
    cases phase with
    | check username password =>
      rcases AuthManager.setupStep_check replicas.manager moment store.auth username password
        with ⟨_, stepped, _⟩ | ⟨_, _, _, stepped, _⟩ <;>
        simp [next, stepped, Phase.ofSetup, Phase.deletes] at deletes
    | _ => exact absurd rfl plain
  | _ => exact absurd rfl plain

theorem holds_next (holds : (replicas.next moment store phase).Holds credential) :
    phase.Holds credential ∨ (phase.Reads credential ∧ credential.StoredIn store) ∨
      credential.MintedBy replicas.manager moment := by
  rcases holds with deletes | ⟨user, spent, writes, own⟩
  · obtain ⟨reads, stored⟩ := deletes_next deletes
    exact Or.inr (Or.inl ⟨Or.inl reads, stored⟩)
  have owned : ∃ hash, credential = .backup user.username hash ∧
      (hash ∈ user.backupCodeHashes ∨ spent = some hash) := by
    rcases own with ofUser | ⟨hash, taken, rfl⟩
    · cases credential with
      | backup username hash =>
        obtain ⟨rfl, member⟩ := ofUser
        exact ⟨hash, rfl, Or.inl member⟩
      | pending tokenHash => cases ofUser
      | nonce state => cases ofUser
    · exact ⟨hash, rfl, Or.inr taken⟩
  obtain ⟨hash, rfl, which⟩ := owned
  rcases writes_next writes with ⟨noCodes, rfl⟩ | ⟨old, reads, found, rewrites⟩
  · rw [noCodes] at which
    simp at which
  -- a code of the old row was read, one of a new set is minted
  have read (member : hash ∈ old.backupCodeHashes) :
      (phase.Reads (.backup user.username hash) ∧
        (Credential.backup user.username hash).StoredIn store) :=
    ⟨Or.inr ⟨_, hash, reads, rfl⟩, old, found, member⟩
  cases rewrites with
  | keep same =>
    rw [same] at which
    rcases which with member | taken
    · exact Or.inr (Or.inl (read member))
    · cases taken
  | take taken member rest =>
    rw [rest] at which
    rcases which with kept | isTaken
    · exact Or.inr (Or.inl (read (List.mem_of_mem_erase kept)))
    · obtain rfl := Option.some.inj isTaken
      exact Or.inr (Or.inl (read member))
  | renew fresh =>
    rw [fresh] at which
    rcases which with member | taken
    · exact Or.inr (Or.inr member)
    · cases taken

theorem sound_next
    (distinct : (moment.random.backupCodes.map replicas.manager.hashBackupCode).Nodup)
    (soundStore : SoundStore store) : (replicas.next moment store phase).Sound := by
  intro user spent writes
  rcases writes_next writes with ⟨noCodes, rfl⟩ | ⟨old, _, found, rewrites⟩
  · simp [noCodes]
  have nodup := soundStore _ _ found
  cases rewrites with
  | keep same =>
    rw [same]
    exact ⟨nodup, by simp⟩
  | take hash _ rest =>
    rw [rest]
    refine ⟨nodup.erase hash, ?_⟩
    intro taken isTaken
    obtain rfl := Option.some.inj isTaken
    exact nodup.not_mem_erase
  | renew fresh =>
    rw [fresh]
    exact ⟨distinct, by simp⟩

theorem soundStore_update (soundStore : SoundStore store) (sound : phase.Sound) :
    SoundStore (replicas.update moment store phase) := by
  intro username row found
  rcases getUser_update found with old | ⟨spent, writes, _⟩
  · exact soundStore username row old
  · exact (sound row spent writes).1

theorem accepts_spends (sound : phase.Sound) (accepted : accepts moment phase = some credential) :
    phase.Holds credential ∧ ¬ (replicas.next moment store phase).Holds credential ∧
      ¬ credential.StoredIn (replicas.update moment store phase) := by
  have quiet (plain : phase.gathers = false) :
      ¬ (replicas.next moment store phase).Holds credential := by
    have isQuiet : (replicas.next moment store phase).Quiet := quiet_next plain
    rintro (deletes | ⟨user, spent, writes, _⟩)
    · simp [isQuiet.1] at deletes
    · simp [isQuiet.2] at writes
  cases phase with
  | deletePending tokenHash purpose found =>
    simp only [accepts, Option.map_eq_some_iff, challenged, Option.filter_eq_some_iff] at accepted
    obtain ⟨pending, ⟨rfl, _⟩, rfl⟩ := accepted
    refine ⟨Or.inl rfl, quiet rfl, ?_⟩
    simp [Credential.StoredIn, update, AuthStore.consumeMfaPending]
  | deleteNonce config answers state expiresAt =>
    simp only [accepts] at accepted
    split_ifs at accepted
    obtain rfl := Option.some.inj accepted
    refine ⟨Or.inl rfl, quiet rfl, ?_⟩
    simp [Credential.StoredIn, update, SignInStore.consumeOidcState]
  | putUser user spent sequel =>
    obtain ⟨hash, rfl, rfl⟩ := Option.map_eq_some_iff.mp accepted
    refine ⟨Or.inr ⟨user, some hash, rfl, Or.inr ⟨hash, rfl, rfl⟩⟩, quiet rfl, ?_⟩
    rintro ⟨row, found, member⟩
    obtain rfl : user = row := Option.some.inj (UserTable.get_upsert.symm.trans found)
    exact (sound user (some hash) rfl).2 hash rfl member
  | _ => cases accepted

def oneTime (replicas : Replicas) : OneTime replicas.machine where
  Stored store credential := credential.StoredIn store
  Held := Phase.Holds
  Reads := Phase.Reads
  Mints moment credential := credential.MintedBy replicas.manager moment
  SoundInput moment :=
    (moment.random.backupCodes.map replicas.manager.hashBackupCode).Nodup
  Sound := SoundStore
  SoundRequest := Phase.Sound
  sound distinct soundStore sound :=
    ⟨soundStore_update soundStore sound, sound_next distinct soundStore⟩
  stored := storedIn_update
  held := holds_next
  accepted := accepts_spends

theorem quiet_start (request : Request) : (replicas.start request).Quiet := by
  cases request with
  | auth call => cases call <;> exact ⟨rfl, rfl⟩
  | oidcLogin answers =>
    simp only [start]
    split
    · exact ⟨rfl, rfl⟩
    · split <;> exact ⟨rfl, rfl⟩
  | callback params answers =>
    simp only [start]
    split
    · exact ⟨rfl, rfl⟩
    · split <;> exact ⟨rfl, rfl⟩
  | users request => cases request <;> exact ⟨rfl, rfl⟩

variable {pool : Pool SignInStore Phase} {schedule : List (Nat × Moment)}

/-- Any number of requests, on one store: when random values do not repeat and no
request reads a credential that another one has read and not yet deleted or written
back, each credential is accepted at most once. -/
theorem accepted_at_most_once (requests : ∀ phase ∈ pool.requests, ∃ request,
      phase = replicas.start request)
    (codes : SoundStore pool.store) (fresh : replicas.oneTime.Fresh pool schedule)
    (separated : replicas.oneTime.Separated pool schedule) :
    (replicas.machine.acceptances pool schedule).Nodup := by
  apply OneTime.nodup_acceptances _ fresh separated
  refine ⟨codes, fun phase member => ?_⟩
  obtain ⟨request, rfl⟩ := requests phase member
  have isQuiet : (replicas.start request).Quiet := quiet_start request
  constructor
  · intro user spent writes
    simp [isQuiet.2] at writes
  · rintro credential (deletes | ⟨user, spent, writes, _⟩)
    · simp [isQuiet.1] at deletes
    · simp [isQuiet.2] at writes

end Replicas

namespace OneTimeSample

open AuthSample

def replicas : Replicas where
  users := ⟨managerOf 0, samplePlatform, .sqlite⟩
  oidc := some ⟨"cid", "https://gw/cb", "/", "groups", none, none, none, "default"⟩

def alice : DbUser where
  username := "alice"
  role := "admin"
  org := "default"
  passwordHash := "argon2"
  totpSecret := some "s3cret"
  totpEnabled := true
  backupCodeHashes := [(managerOf 0).hashBackupCode "spare"]

def store : SignInStore where
  auth :=
    ((storeOf [alice]).putMfaPending ((managerOf 0).tokenHash "p1")
      ⟨"alice", .verify, after ⟨0⟩ 600⟩).putMfaPending ((managerOf 0).tokenHash "p2")
        ⟨"alice", .verify, after ⟨0⟩ 600⟩
  oidcStates := AList.singleton "n1" (after ⟨0⟩ 600)

def secondStep (pendingToken code : String) : Phase :=
  replicas.start (.auth (.verifyTotpLogin pendingToken code))

def callback : Phase :=
  replicas.start (.callback ⟨some "code", some "n1", none⟩
    ⟨true, .ok "https://idp", .ok (some "id"), .ok (.object [])⟩)

def turn (position second : Nat) : Nat × Moment :=
  (position, { now := after ⟨0⟩ second,
               random := { token := "m" ++ toString second, secret := "", backupCodes := [],
                           passwordHash := .ok "argon2" } })

def turns (positions : List Nat) : List (Nat × Moment) :=
  positions.zipIdx.map fun entry => turn entry.1 (entry.2 + 1)

def backupTwice : Pool SignInStore Phase where
  store := store
  requests := [secondStep "p1" "spare", secondStep "p2" "spare"]

theorem alone_fresh : replicas.oneTime.Fresh backupTwice (turns [0, 0, 0, 0, 0]) := by
  have noCodes : ∀ turn ∈ turns [0, 0, 0, 0, 0], turn.2.random.backupCodes = [] := by
    decide +kernel
  have unknown : ∀ turn ∈ turns [0, 0, 0, 0, 0],
      (managerOf 0).tokenHash turn.2.random.token ∉ store.auth.pendings ∧
        turn.2.random.token ∉ store.oidcStates := by
    decide +kernel
  have distinct : (turns [0, 0, 0, 0, 0]).Pairwise fun earlier later =>
      later.2.random.token ≠ earlier.2.random.token := by
    decide +kernel
  apply OneTime.fresh_of_pairwise
  · intro turn member
    simp [Replicas.oneTime, noCodes turn member]
  · intro turn member credential mints stored
    cases credential with
    | pending tokenHash =>
      obtain rfl := mints
      exact (unknown turn member).1 stored
    | nonce state =>
      obtain rfl := mints
      exact (unknown turn member).2 stored
    | backup username hash =>
      simp [Replicas.oneTime, Credential.MintedBy, noCodes turn member] at mints
  · apply distinct.imp_of_mem
    intro earlier later _ member apart credential mints earlierMints
    cases credential with
    | pending tokenHash =>
      exact apart (tokenHash_injective 0 (mints.symm.trans earlierMints))
    | nonce state => exact apart (mints.symm.trans earlierMints)
    | backup username hash =>
      simp [Replicas.oneTime, Credential.MintedBy, noCodes later member] at mints

theorem soundStore_backupTwice : SoundStore backupTwice.store := by
  intro username user found
  have rows : ∀ row ∈ backupTwice.store.auth.users.rows.entries,
      row.2.backupCodeHashes.Nodup := by
    decide +kernel
  exact rows ⟨username, user⟩ (List.of_mem_dlookup found)

theorem alone_separated : replicas.oneTime.Separated backupTwice (turns [0, 0, 0, 0, 0]) := by
  have waiting : ∀ other ∈ [secondStep "p2" "spare"], ∀ credential,
      ¬ replicas.oneTime.Held other credential := by
    simp [secondStep, Replicas.start, Replicas.oneTime, Phase.Holds, Phase.deletes, Phase.writes]
  apply OneTime.separated_cons (OneTime.separate_of_idle waiting)
  apply OneTime.separated_cons (OneTime.separate_of_idle waiting)
  apply OneTime.separated_cons (OneTime.separate_of_idle waiting)
  apply OneTime.separated_cons (OneTime.separate_of_idle waiting)
  exact OneTime.separated_cons (OneTime.separate_of_idle waiting) OneTime.separated_nil

end OneTimeSample

namespace Replicas

open OneTimeSample

theorem backup_code_accepted_once :
    (OneTimeSample.replicas.machine.acceptances backupTwice (turns [0, 0, 0, 0, 0]) =
      [.pending ((AuthSample.managerOf 0).tokenHash "p1"),
        .backup "alice" ((AuthSample.managerOf 0).hashBackupCode "spare")]) ∧
    (OneTimeSample.replicas.machine.acceptances backupTwice (turns [0, 0, 0, 0, 0])).Nodup := by
  refine ⟨by decide +kernel, accepted_at_most_once ?_ ?_ alone_fresh alone_separated⟩
  · simp [backupTwice, secondStep]
  · exact soundStore_backupTwice

theorem accepted_twice :
    OneTimeSample.replicas.machine.acceptances
        ⟨store, [secondStep "p1" "s3cret", secondStep "p1" "s3cret"]⟩ (turns [0, 1, 0, 1]) =
      [.pending ((AuthSample.managerOf 0).tokenHash "p1"),
        .pending ((AuthSample.managerOf 0).tokenHash "p1")] ∧
    OneTimeSample.replicas.machine.acceptances ⟨store, [callback, callback]⟩ (turns [0, 1, 0, 1]) =
      [.nonce "n1", .nonce "n1"] ∧
    OneTimeSample.replicas.machine.acceptances backupTwice (turns [0, 0, 1, 1, 0, 1, 0, 1]) =
      [.pending ((AuthSample.managerOf 0).tokenHash "p1"),
        .pending ((AuthSample.managerOf 0).tokenHash "p2"),
        .backup "alice" ((AuthSample.managerOf 0).hashBackupCode "spare"),
        .backup "alice" ((AuthSample.managerOf 0).hashBackupCode "spare")] := by
  decide +kernel

end Replicas

end QuantaWatch.Gateway
