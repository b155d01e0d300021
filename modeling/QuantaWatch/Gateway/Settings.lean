import QuantaWatch.Lib.Json.Record
import QuantaWatch.Lib.Json.RoundTrip
import QuantaWatch.Lib.Text

/-!
The runtime settings of a tenant (`admin/settings_api.rs`).
-/

namespace QuantaWatch.Gateway

open Lib.Json

structure RuntimeSettings where
  scanningPaused : Bool := false
  disabledScanners : List String := []
  maxScanConcurrency : UInt32 := 8
  scanAllowlist : List String := []
  findingRetentionDays : UInt32 := 0
  requireApprovalForActiveScans : Bool := false
  externalLookupsEnabled : Bool := true
  k8sAdmissionEnforce : Bool := false

def KNOWN_SCANNERS : List String :=
  ["tls", "certificate", "ssh", "rdp", "starttls", "network", "dependency", "code",
    "data_at_rest", "ct"]

namespace RuntimeSettings

/-- The bounds that `put_settings` sets. -/
def clamp (settings : RuntimeSettings) : RuntimeSettings :=
  { settings with
    maxScanConcurrency := if settings.maxScanConcurrency ≤ 256 then settings.maxScanConcurrency
      else 256
    findingRetentionDays := if settings.findingRetentionDays ≤ 3650 then
      settings.findingRetentionDays else 3650
    disabledScanners := settings.disabledScanners.filter fun scanner =>
      KNOWN_SCANNERS.any fun known => Lib.Text.eqIgnoreAsciiCase known scanner }

def names : List String :=
  ["scanningPaused", "disabledScanners", "maxScanConcurrency", "scanAllowlist",
    "findingRetentionDays", "requireApprovalForActiveScans", "externalLookupsEnabled",
    "k8sAdmissionEnforce"]

def toFields (settings : RuntimeSettings) : Fields :=
  [("scanningPaused", .bool settings.scanningPaused),
    ("disabledScanners", .array (settings.disabledScanners.map .string)),
    ("maxScanConcurrency", .number (.posInt settings.maxScanConcurrency.toUInt64)),
    ("scanAllowlist", .array (settings.scanAllowlist.map .string)),
    ("findingRetentionDays", .number (.posInt settings.findingRetentionDays.toUInt64)),
    ("requireApprovalForActiveScans", .bool settings.requireApprovalForActiveScans),
    ("externalLookupsEnabled", .bool settings.externalLookupsEnabled),
    ("k8sAdmissionEnforce", .bool settings.k8sAdmissionEnforce)]

def toValue (settings : RuntimeSettings) : Value := .object settings.toFields

def fields : Value → Option Fields
  | .object fields => if knownOnce names fields then some fields else none
  | .array values => if values.length ≤ names.length then some (names.zip values) else none
  | _ => none

def fromValue (value : Value) : Option RuntimeSettings := do
  let standard : RuntimeSettings := {}
  let fields ← fields value
  let scanningPaused ← fields.readOr "scanningPaused" standard.scanningPaused Value.asBool
  let disabledScanners ←
    fields.readOr "disabledScanners" standard.disabledScanners Value.asStrings
  let maxScanConcurrency ←
    fields.readOr "maxScanConcurrency" standard.maxScanConcurrency Value.asU32
  let scanAllowlist ← fields.readOr "scanAllowlist" standard.scanAllowlist Value.asStrings
  let findingRetentionDays ←
    fields.readOr "findingRetentionDays" standard.findingRetentionDays Value.asU32
  let requireApprovalForActiveScans ← fields.readOr "requireApprovalForActiveScans"
    standard.requireApprovalForActiveScans Value.asBool
  let externalLookupsEnabled ←
    fields.readOr "externalLookupsEnabled" standard.externalLookupsEnabled Value.asBool
  let k8sAdmissionEnforce ←
    fields.readOr "k8sAdmissionEnforce" standard.k8sAdmissionEnforce Value.asBool
  some { scanningPaused, disabledScanners, maxScanConcurrency, scanAllowlist,
         findingRetentionDays, requireApprovalForActiveScans, externalLookupsEnabled,
         k8sAdmissionEnforce }

variable (settings : RuntimeSettings)

theorem fields_toValue : fields settings.toValue = some settings.toFields := by
  have nodup : (settings.toFields.map Prod.fst).Nodup := by simp [toFields]
  simp only [toValue, fields, knownOnce_of_nodup nodup, if_true]

theorem fromValue_toValue : fromValue settings.toValue = some settings := by
  have flag {name : String} {standard value : Bool}
      (found : settings.toFields.lookup name = some (.bool value)) :
      settings.toFields.readOr name standard Value.asBool = some value := by
    simp [Fields.readOr, found, Value.asBool]
  have texts {name : String} {standard value : List String}
      (found : settings.toFields.lookup name = some (.array (value.map .string))) :
      settings.toFields.readOr name standard Value.asStrings = some value := by
    simp [Fields.readOr, found, asStrings_map_string]
  have number {name : String} {standard value : UInt32}
      (found : settings.toFields.lookup name = some (.number (.posInt value.toUInt64))) :
      settings.toFields.readOr name standard Value.asU32 = some value := by
    simp only [Fields.readOr, found, asU32_toUInt64]
  unfold fromValue
  simp only [fields_toValue, Option.bind_eq_bind, Option.bind_some]
  rw [flag rfl, Option.bind_some, texts rfl, Option.bind_some, number rfl, Option.bind_some,
    texts rfl, Option.bind_some, number rfl, Option.bind_some, flag rfl, Option.bind_some,
    flag rfl, Option.bind_some, flag rfl, Option.bind_some]

theorem heightElements_strings (texts : List String) :
    Value.heightElements (texts.map Value.string) ≤ 0 := by
  apply Value.heightElements_le_iff.mpr
  simp [Value.height]

theorem readBack_toValue (floats : FloatText) (settings : RuntimeSettings) :
    settings.toValue.readBack floats = settings.toValue := by
  simp [toValue, toFields, Value.readBack, Value.readBackFields, Value.readBackElements_eq_map,
    Number.readBack, Function.comp_def]

theorem finiteNumbers_toValue : settings.toValue.FiniteNumbers := by
  simp [toValue, toFields, Value.FiniteNumbers, Value.FiniteFields, Value.finiteElements_iff,
    Number.Finite]

theorem height_toValue_le : settings.toValue.height ≤ nestingLimit := by
  have disabled := heightElements_strings settings.disabledScanners
  have allowed := heightElements_strings settings.scanAllowlist
  simp only [toValue, toFields, Value.height, Value.heightFields, nestingLimit]
  omega

end RuntimeSettings

abbrev SettingsTable := String → Option String

section

variable (floats : FloatText)

def loadSettings (table : SettingsTable) (tenant : String) : RuntimeSettings :=
  ((table tenant).bind fun text =>
    (parseDocument floats text.toList).bind RuntimeSettings.fromValue).getD {}

/-- `PUT /api/settings` with a body that is settings. -/
def putSettings (table : SettingsTable) (tenant : String) (settings : RuntimeSettings) :
    SettingsTable :=
  Function.update table tenant
    (some (String.ofList (settings.clamp.toValue.print floats)))

variable {floats}

theorem loadSettings_putSettings (lawful : floats.Lawful) (table : SettingsTable)
    (tenant : String) (settings : RuntimeSettings) :
    loadSettings floats (putSettings floats table tenant settings) tenant = settings.clamp := by
  have read := parseDocument_print lawful settings.clamp.finiteNumbers_toValue
    settings.clamp.height_toValue_le numberEnd_nil rfl
  rw [List.append_nil, RuntimeSettings.readBack_toValue] at read
  simp [loadSettings, putSettings, read, RuntimeSettings.fromValue_toValue]

theorem loadSettings_putSettings_of_ne (table : SettingsTable) {tenant other : String}
    (settings : RuntimeSettings) (differ : other ≠ tenant) :
    loadSettings floats (putSettings floats table tenant settings) other =
      loadSettings floats table other := by
  simp only [loadSettings, putSettings, Function.update_of_ne differ]

end

end QuantaWatch.Gateway
