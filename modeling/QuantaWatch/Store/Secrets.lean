import QuantaWatch.Crypto.Secret
import QuantaWatch.Store.Findings

/-!
The tokens of connections over stores that are opened with different keys.
-/

namespace QuantaWatch.Store

open Crypto Lib.Encoding

structure Vault where
  database : Database
  aead : Aead
  draw : String → Except String Nonce

namespace Vault

structure Lawful (vault : Vault) : Prop where
  aead : vault.aead.Lawful
  platform : vault.database.platform.Lawful
  draws : ∀ text, ∃ nonce, vault.draw text = .ok nonce

variable (vault : Vault)

def cipher (key : Digest) : SecretCipher where
  encrypt nonce plaintext :=
    encryptSecret vault.database.platform vault.aead key (vault.draw nonce) plaintext
  decrypt stored := decryptSecret vault.database.platform vault.aead key stored

/-- `Store::with_secret_cipher` -/
def opened (key : Option Digest) : Database :=
  { vault.database with cipher := key.map vault.cipher }

structure Rewrite where
  key : Option Digest
  nonce : String

def rewrite (tenant id : String) (tables : Tables) (step : Rewrite) : Tables :=
  match (vault.opened step.key).getConnection tables tenant id with
  | some connection => (vault.opened step.key).upsertConnection tables tenant step.nonce connection
  | none => tables

structure Holds (tables : Tables) (tenant : String) (key : Digest) (connection : ConnectionRow) :
    Prop where
  stored : ∃ row ∈ tables.rows tenant .connections, row.id = connection.id
  sealed : ∀ row ∈ tables.rows tenant .connections, row.id = connection.id →
    ∃ token, row = { connection with token } ∧
      SealedAs vault.database.platform vault.aead key connection.token token

variable {vault} {tables : Tables} {tenant : String} {key : Digest} {connection : ConnectionRow}

variable {database : Database} {nonce token stored : String} {opening : Option Digest}

theorem mem_rows_upsertConnection {row : ConnectionRow} :
    row ∈ (database.upsertConnection tables tenant nonce connection).rows tenant .connections ↔
      row = { connection with token := database.sealSecret nonce connection.token } ∨
        row ∈ tables.rows tenant .connections ∧ row.id ≠ connection.id :=
  Tables.mem_rows_putKeyed

theorem Holds.of_upsert (isSealed : SealedAs vault.database.platform vault.aead key connection.token
      (database.sealSecret nonce token)) :
    vault.Holds (database.upsertConnection tables tenant nonce { connection with token }) tenant key
      connection where
  stored := ⟨_, mem_rows_upsertConnection.mpr (.inl rfl), rfl⟩
  sealed row member same := by
    rcases mem_rows_upsertConnection.mp member with rfl | ⟨_, differ⟩
    · exact ⟨_, rfl, isSealed⟩
    · exact absurd same differ

theorem Holds.getConnection (holds : vault.Holds tables tenant key connection)
    (database : Database) :
    ∃ token, SealedAs vault.database.platform vault.aead key connection.token token ∧
      database.getConnection tables tenant connection.id =
        some { connection with token := database.unsealSecret token } := by
  obtain ⟨row, member, same⟩ := holds.stored
  cases found : (tables.rows tenant .connections).find? fun row => row.id = connection.id with
  | none =>
    have absent := List.find?_eq_none.mp found row member
    simp [same] at absent
  | some first =>
    have isFirst : first.id = connection.id := by simpa using List.find?_some found
    obtain ⟨token, isRow, isSealed⟩ :=
      holds.sealed first (List.mem_of_find?_eq_some found) isFirst
    refine ⟨token, isSealed, ?_⟩
    rw [Database.getConnection, found, isRow]
    rfl

theorem sealSecret_opened {lawful : vault.Lawful} (plain : isCiphertext token = false) :
    SealedAs vault.database.platform vault.aead key token
      ((vault.opened (some key)).sealSecret nonce token) := by
  obtain ⟨drawn, isDrawn⟩ := lawful.draws nonce
  obtain ⟨stored, encrypted, isSealed⟩ :=
    @encryptSecret_plain vault.database.platform _ key _ lawful.aead plain drawn
  have result : (vault.opened (some key)).sealSecret nonce token = stored := by
    show ((encryptSecret vault.database.platform vault.aead key (vault.draw nonce)
      token).toOption).getD token = stored
    rw [isDrawn, encrypted]
    rfl
  rw [result]
  exact isSealed

theorem sealSecret_sealed
    (isSealed : SealedAs vault.database.platform vault.aead key token stored) :
    (vault.opened opening).sealSecret nonce stored = stored := by
  cases opening with
  | none => rfl
  | some other =>
    show ((encryptSecret vault.database.platform vault.aead other (vault.draw nonce)
      stored).toOption).getD stored = stored
    rw [encryptSecret_sealed isSealed]
    rfl

variable (lawful : vault.Lawful)

include lawful

theorem unsealSecret_own (isSealed : SealedAs vault.database.platform vault.aead key token stored) :
    (vault.opened (some key)).unsealSecret stored = token := by
  show ((decryptSecret vault.database.platform vault.aead key stored).toOption).getD stored = token
  rw [decryptSecret_own lawful.aead lawful.platform isSealed]
  rfl

theorem unsealSecret_other (differ : opening ≠ some key)
    (isSealed : SealedAs vault.database.platform vault.aead key token stored) :
    (vault.opened opening).unsealSecret stored = stored := by
  cases opening with
  | none => rfl
  | some other =>
    have otherKey : other ≠ key := fun same => differ (by rw [same])
    exact decryptSecret_other lawful.aead lawful.platform isSealed otherKey

theorem Holds.rewrite (plain : isCiphertext connection.token = false)
    (holds : vault.Holds tables tenant key connection) (step : Rewrite) :
    vault.Holds (vault.rewrite tenant connection.id tables step) tenant key connection := by
  obtain ⟨stored, isSealed, read⟩ := holds.getConnection (vault.opened step.key)
  rw [Vault.rewrite, read]
  apply Holds.of_upsert
  by_cases own : step.key = some key
  · rw [own, unsealSecret_own lawful isSealed]
    exact @sealSecret_opened vault key step.nonce _ lawful plain
  · rw [unsealSecret_other lawful own isSealed, sealSecret_sealed isSealed]
    exact isSealed

theorem Holds.run (plain : isCiphertext connection.token = false)
    (holds : vault.Holds tables tenant key connection) (steps : List Rewrite) :
    vault.Holds (steps.foldl (vault.rewrite tenant connection.id) tables) tenant key
      connection := by
  induction steps generalizing tables with
  | nil => exact holds
  | cons step steps ih =>
    exact ih (holds.rewrite lawful plain step)

omit lawful

/-- After any steps with any keys the key of the first write reads the connection back, and
the stored rows hold its token only sealed. -/
theorem token_survives_keys (lawful : vault.Lawful) (plain : isCiphertext connection.token = false)
    (nonce : String) (steps : List Rewrite) :
    let tables := steps.foldl (vault.rewrite tenant connection.id)
      ((vault.opened (some key)).upsertConnection tables tenant nonce connection)
    (vault.opened (some key)).getConnection tables tenant connection.id = some connection ∧
      ∀ row ∈ tables.rows tenant .connections, row.id = connection.id →
        SealedAs vault.database.platform vault.aead key connection.token row.token := by
  have first : vault.Holds ((vault.opened (some key)).upsertConnection tables tenant nonce
      connection) tenant key connection :=
    Holds.of_upsert (@sealSecret_opened vault key nonce _ lawful plain)
  have holds := first.run lawful plain steps
  refine ⟨?_, fun row member same => ?_⟩
  · obtain ⟨stored, isSealed, read⟩ := holds.getConnection (vault.opened (some key))
    rw [read, unsealSecret_own lawful isSealed]
  · obtain ⟨token, isRow, isSealed⟩ := holds.sealed row member same
    rw [isRow]
    exact isSealed

def sampleVault : Vault where
  database := Database.sampleDatabase .postgres
  aead := sampleAead
  draw _ := .ok ⟨List.replicate 12 0, by simp⟩

theorem sampleVault_lawful : sampleVault.Lawful where
  aead := sampleAead_lawful
  platform := samplePlatform_lawful
  draws _ := ⟨_, rfl⟩

def sampleConnection : ConnectionRow := ⟨⟨"github", "fields"⟩, "ghp_token"⟩

theorem length_sampleKey (byte : UInt8) : (List.replicate 32 byte).length = 32 :=
  List.length_replicate

def sampleKey (byte : UInt8) : Digest where
  bytes := List.replicate 32 byte
  length_eq := length_sampleKey byte

def sampleSteps : List Rewrite := [⟨none, ""⟩, ⟨some (sampleKey 2), ""⟩, ⟨some (sampleKey 1), ""⟩]

theorem token_survives_keys_sample :
    let tables := sampleSteps.foldl (sampleVault.rewrite "acme" sampleConnection.id)
      ((sampleVault.opened (some (sampleKey 1))).upsertConnection .empty "acme" "" sampleConnection)
    (sampleVault.opened (some (sampleKey 1))).getConnection tables "acme" sampleConnection.id =
        some sampleConnection ∧
      ∀ row ∈ tables.rows "acme" .connections, row.id = sampleConnection.id →
        SealedAs sampleVault.database.platform sampleVault.aead (sampleKey 1)
          sampleConnection.token row.token :=
  token_survives_keys sampleVault_lawful (by decide) "" sampleSteps

end Vault

end QuantaWatch.Store
