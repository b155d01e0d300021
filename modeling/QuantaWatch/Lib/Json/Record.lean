import QuantaWatch.Lib.Json.Value

/-!
Reading records out of JSON values, as derived deserialisers do.
-/

namespace QuantaWatch.Lib.Json

abbrev Fields := List (String × Value)

def knownOnce (names : List String) (fields : Fields) : Bool :=
  names.all fun name => (fields.filter fun field => field.1 = name).length ≤ 1

def recordFields (names : List String) : Value → Option Fields
  | .object fields => if knownOnce names fields then some fields else none
  | .array values =>
    if values.length = names.length then some (names.zip values) else none
  | _ => none

def Value.asStrings (value : Value) : Option (List String) :=
  value.asArray.bind fun values => values.mapM Value.asStr

def Value.asU32 (value : Value) : Option UInt32 :=
  value.asU64.bind fun number =>
    if number.toNat < 2 ^ 32 then some number.toUInt32 else none

/-- A required field, read by `read`. -/
def Fields.read {α : Type} (fields : Fields) (name : String) (read : Value → Option α) : Option α :=
  (fields.lookup name).bind read

def Fields.readOr {α : Type} (fields : Fields) (name : String) (fallback : α)
    (read : Value → Option α) : Option α :=
  match fields.lookup name with
  | some value => read value
  | none => some fallback

def optional {α : Type} (read : Value → Option α) : Value → Option (Option α)
  | .null => some none
  | value => (read value).map some

variable {names : List String} {fields : Fields}

theorem knownOnce_of_nodup (nodup : (fields.map Prod.fst).Nodup) :
    knownOnce names fields = true := by
  have once : ∀ (name : String) (fields : Fields), (fields.map Prod.fst).Nodup →
      (fields.filter fun field => field.1 = name).length ≤ 1 := by
    intro name fields
    induction fields with
    | nil => simp
    | cons head rest ih =>
      intro nodup
      obtain ⟨fresh, restNodup⟩ := List.nodup_cons.mp nodup
      by_cases same : head.1 = name
      · have none : rest.filter (fun field => field.1 = name) = [] := by
          rw [List.filter_eq_nil_iff]
          intro field member equal
          have equal : field.1 = name := by simpa using equal
          exact fresh (List.mem_map.mpr ⟨field, member, equal.trans same.symm⟩)
        simp [same, none]
      · simpa [same] using ih restNodup
  simp [knownOnce, once _ fields nodup]

theorem asStrings_map_string (texts : List String) :
    (Value.array (texts.map .string)).asStrings = some texts := by
  induction texts with
  | nil => rfl
  | cons text rest ih =>
    simp only [Value.asStrings, Value.asArray_array, Option.bind_some] at ih ⊢
    simp [ih]

theorem asU32_toUInt64 (number : UInt32) :
    (Value.number (.posInt number.toUInt64)).asU32 = some number := by
  have bound := number.toNat_lt
  simp [Value.asU32, Value.asU64, bound]

end QuantaWatch.Lib.Json
