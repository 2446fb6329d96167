import Mathlib.Algebra.Ring.Int.Defs

namespace serde_json

/-- A JSON document. A float is kept as its bits, since the program only passes
floats on. -/
inductive Value where
  | null
  | bool (value : Bool)
  | number (value : Int)
  | float (bits : UInt64)
  | string (value : String)
  | array (items : List Value)
  | object (fields : List (String × Value))
  deriving Repr, Inhabited

namespace Value

/-- The field of an object, and nothing for any other document. -/
def get (value : Value) (key : String) : Option Value :=
  match value with
  | .object fields => (fields.find? fun field => field.1 = key).map Prod.snd
  | _ => none

def as_str : Value → Option String
  | .string value => some value
  | _ => none

def as_bool : Value → Option Bool
  | .bool value => some value
  | _ => none

def as_array : Value → Option (List Value)
  | .array items => some items
  | _ => none

def as_i64 : Value → Option Int
  | .number value => if -2 ^ 63 ≤ value ∧ value < 2 ^ 63 then some value else none
  | _ => none

def as_u64 : Value → Option Nat
  | .number value => if 0 ≤ value ∧ value < 2 ^ 64 then some value.toNat else none
  | _ => none

/-- The field of an object that is a text. -/
def get_str (value : Value) (key : String) : Option String :=
  (value.get key).bind as_str

/-- An object without a field. Other documents stay as they are. -/
def remove (value : Value) (key : String) : Value :=
  match value with
  | .object fields => .object (fields.filter fun field => field.1 ≠ key)
  | _ => value

/-- An object with a field set. Other documents stay as they are. -/
def insert (value : Value) (key : String) (field : Value) : Value :=
  match value.remove key with
  | .object fields => .object (fields ++ [(key, field)])
  | other => other

def of_option (value : Option String) : Value :=
  value.elim .null .string

def of_option_nat (value : Option Nat) : Value :=
  value.elim .null fun n => .number n

theorem get_remove_same (value : Value) (key : String) : (value.remove key).get key = none := by
  cases value with
  | object fields =>
    rw [remove, get, Option.map_eq_none_iff, List.find?_eq_none]
    intro field hfield
    have hkey := (List.mem_filter.mp hfield).2
    simpa using hkey
  | _ => rfl

theorem get_remove_ne (value : Value) {key other : String} (hne : other ≠ key) :
    (value.remove key).get other = value.get other := by
  cases value with
  | object fields =>
    rw [remove, get, get]
    congr 1
    rw [List.find?_filter]
    congr 1
    funext field
    by_cases hfield : field.1 = other
    · have hkept : field.1 ≠ key := hfield ▸ hne
      simp [hfield, hne]
    · simp [hfield]
  | _ => rfl

/-- An object has the field that it has been given. -/
theorem get_insert_same (fields : List (String × Value)) (key : String) (field : Value) :
    ((Value.object fields).insert key field).get key = some field := by
  have hremoved := get_remove_same (.object fields) key
  rw [remove, get, Option.map_eq_none_iff] at hremoved
  rw [insert, remove, get, List.find?_append, hremoved, Option.none_or, List.find?_singleton,
    if_pos (decide_eq_true rfl)]
  rfl

end Value

end serde_json
