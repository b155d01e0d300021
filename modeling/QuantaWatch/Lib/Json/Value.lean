import Mathlib

/-!
JSON values as a parser delivers them and a printer takes them.
-/

namespace QuantaWatch.Lib.Json

structure F64 where
  bits : UInt64
deriving DecidableEq

def F64.isFinite (value : F64) : Bool :=
  (value.bits >>> 52) &&& 0x7ff != 0x7ff

inductive Number where
  | posInt (value : UInt64)
  /-- The number `-(below + 1)`. -/
  | negInt (below : Fin (2 ^ 63))
  | float (value : F64)
deriving DecidableEq

inductive Value where
  | null
  | bool (value : Bool)
  | number (value : Number)
  | string (value : String)
  | array (values : List Value)
  | object (fields : List (String × Value))

namespace Value

def get (key : String) : Value → Option Value
  | object fields => fields.lookup key
  | _ => none

def asStr : Value → Option String
  | string value => some value
  | _ => none

def asBool : Value → Option Bool
  | bool value => some value
  | _ => none

def asArray : Value → Option (List Value)
  | array values => some values
  | _ => none

def asU64 : Value → Option UInt64
  | number (.posInt value) => some value
  | _ => none

@[simp] theorem get_object (key : String) (fields : List (String × Value)) :
    (object fields).get key = fields.lookup key := rfl

@[simp] theorem asStr_string (value : String) : (string value).asStr = some value := rfl

@[simp] theorem asArray_array (values : List Value) : (array values).asArray = some values := rfl

def insertField (key : String) (value : Value) : List (String × Value) → List (String × Value)
  | [] => [(key, value)]
  | (known, old) :: rest =>
    if known = key then (known, value) :: rest
    else (known, old) :: insertField key value rest

mutual

def collapse : Value → Value
  | array values => array (collapseElements values)
  | object fields => object (collapseFields [] fields)
  | other => other

def collapseElements : List Value → List Value
  | [] => []
  | value :: rest => value.collapse :: collapseElements rest

def collapseFields (done : List (String × Value)) : List (String × Value) → List (String × Value)
  | [] => done
  | (key, value) :: rest => collapseFields (insertField key value.collapse done) rest

end

mutual

def UniqueKeys : Value → Prop
  | array values => UniqueKeysElements values
  | object fields => (fields.map Prod.fst).Nodup ∧ UniqueKeysFields fields
  | _ => True

def UniqueKeysElements : List Value → Prop
  | [] => True
  | value :: rest => value.UniqueKeys ∧ UniqueKeysElements rest

def UniqueKeysFields : List (String × Value) → Prop
  | [] => True
  | (_, value) :: rest => value.UniqueKeys ∧ UniqueKeysFields rest

end

theorem uniqueKeysElements_iff {values : List Value} :
    UniqueKeysElements values ↔ ∀ value ∈ values, value.UniqueKeys := by
  induction values with
  | nil => simp [UniqueKeysElements]
  | cons value rest ih => simp [UniqueKeysElements, ih]

variable {fields : List (String × Value)}

theorem uniqueKeysFields_iff : UniqueKeysFields fields ↔ ∀ field ∈ fields, field.2.UniqueKeys := by
  induction fields with
  | nil => simp [UniqueKeysFields]
  | cons field rest ih => simp [UniqueKeysFields, ih]

theorem insertField_of_fresh {key : String} {value : Value} (fresh : key ∉ fields.map Prod.fst) :
    insertField key value fields = fields ++ [(key, value)] := by
  induction fields with
  | nil => rfl
  | cons head rest ih =>
    obtain ⟨known, old⟩ := head
    simp only [List.map_cons, List.mem_cons, not_or] at fresh
    simp [insertField, Ne.symm fresh.1, ih fresh.2]

mutual

theorem collapse_of_uniqueKeys : ∀ value : Value, value.UniqueKeys → value.collapse = value
  | null, _ => rfl
  | bool _, _ => rfl
  | number _, _ => rfl
  | string _, _ => rfl
  | array values, unique => by
    simp only [collapse, collapseElements_of_uniqueKeys values (by simpa [UniqueKeys] using unique)]
  | object fields, unique => by
    simp only [UniqueKeys] at unique
    simp only [collapse]
    rw [collapseFields_of_uniqueKeys fields [] unique.2 (by simpa using unique.1)]
    simp

theorem collapseElements_of_uniqueKeys :
    ∀ values : List Value, UniqueKeysElements values → collapseElements values = values
  | [], _ => rfl
  | value :: rest, unique => by
    simp only [UniqueKeysElements] at unique
    simp only [collapseElements, collapse_of_uniqueKeys value unique.1,
      collapseElements_of_uniqueKeys rest unique.2]

theorem collapseFields_of_uniqueKeys :
    ∀ (fields done : List (String × Value)), UniqueKeysFields fields →
      ((done ++ fields).map Prod.fst).Nodup → collapseFields done fields = done ++ fields
  | [], done, _, _ => by simp [collapseFields]
  | (key, value) :: rest, done, unique, nodup => by
    simp only [UniqueKeysFields] at unique
    have fresh : key ∉ done.map Prod.fst := by
      simp only [List.map_append, List.map_cons] at nodup
      have disjoint := (List.nodup_append.mp nodup).2.2
      intro member
      exact disjoint key member key (by simp) rfl
    simp only [collapseFields, collapse_of_uniqueKeys value unique.1,
      insertField_of_fresh fresh]
    rw [collapseFields_of_uniqueKeys rest (done ++ [(key, value)]) unique.2 (by simpa using nodup)]
    simp

end

end Value

end QuantaWatch.Lib.Json
