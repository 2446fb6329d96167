import RustZap.Lib.Json
import Mathlib.Data.List.Basic

namespace serde_json

/-- One step into a document. -/
inductive Step where
  | key (key : String)
  | index (index : Nat)
  deriving DecidableEq

namespace Value

/-- Every document is built from scalars, arrays and objects. -/
theorem cases_induction {P : Value → Prop}
    (scalar : ∀ value, (∀ items, value ≠ .array items) → (∀ fields, value ≠ .object fields) → P value)
    (array : ∀ items, (∀ item ∈ items, P item) → P (.array items))
    (object : ∀ fields, (∀ field ∈ fields, P field.2) → P (.object fields)) : ∀ value, P value
  | .null => scalar _ nofun nofun
  | .bool _ => scalar _ nofun nofun
  | .number _ => scalar _ nofun nofun
  | .float _ => scalar _ nofun nofun
  | .string _ => scalar _ nofun nofun
  | .array items => array items fun item _ => cases_induction scalar array object item
  | .object fields => object fields fun field _ => cases_induction scalar array object field.2
termination_by value => sizeOf value
decreasing_by
  · have := List.sizeOf_lt_of_mem ‹item ∈ items›
    rw [Value.array.sizeOf_spec]
    omega
  · have hmem := List.sizeOf_lt_of_mem ‹field ∈ fields›
    have hfield : sizeOf field.2 < sizeOf field := by
      obtain ⟨key, value⟩ := field
      rw [Prod.mk.sizeOf_spec]
      dsimp only
      omega
    rw [Value.object.sizeOf_spec]
    omega

/-- A part of a document and the way that leads to it. -/
inductive At : List Step → Value → Value → Prop
  | here (value : Value) : At [] value value
  | item {path : List Step} {part item : Value} {items : List Value} {index : Nat} :
      items[index]? = some item → At path part item → At (.index index :: path) part (.array items)
  | field {path : List Step} {part value : Value} {fields : List (String × Value)} {key : String} :
      (key, value) ∈ fields → At path part value → At (.key key :: path) part (.object fields)

/-- Some object of the document, however deep, has the key. -/
def HasKey (value : Value) (key : String) : Prop :=
  ∃ path part, At path part value ∧ .key key ∈ path

theorem hasKey_array_iff {items : List Value} {key : String} :
    HasKey (.array items) key ↔ ∃ item ∈ items, HasKey item key := by
  constructor
  · rintro ⟨path, part, hat, hkey⟩
    cases hat with
    | here => cases hkey
    | item hitem hat =>
      refine ⟨_, List.mem_of_getElem? hitem, _, part, hat, ?_⟩
      simpa using hkey
  · rintro ⟨item, hitem, path, part, hat, hkey⟩
    obtain ⟨index, hindex⟩ := List.mem_iff_getElem?.mp hitem
    exact ⟨_, part, .item hindex hat, List.mem_cons_of_mem _ hkey⟩

theorem hasKey_object_iff {fields : List (String × Value)} {key : String} :
    HasKey (.object fields) key ↔ ∃ field ∈ fields, field.1 = key ∨ HasKey field.2 key := by
  constructor
  · rintro ⟨path, part, hat, hkey⟩
    cases hat with
    | here => cases hkey
    | field hfield hat =>
      refine ⟨_, hfield, ?_⟩
      rcases List.mem_cons.mp hkey with heq | hkey
      · exact Or.inl (Step.key.inj heq).symm
      · exact Or.inr ⟨_, part, hat, hkey⟩
  · rintro ⟨⟨name, value⟩, hfield, rfl | ⟨path, part, hat, hkey⟩⟩
    · exact ⟨_, value, .field hfield (.here value), List.mem_cons_self⟩
    · exact ⟨_, part, .field hfield hat, List.mem_cons_of_mem _ hkey⟩

/-- A scalar has no parts but itself. -/
theorem At.eq_of_scalar {path : List Step} {part value : Value} (hat : At path part value)
    (harray : ∀ items, value ≠ .array items) (hobject : ∀ fields, value ≠ .object fields) :
    path = [] ∧ part = value := by
  cases hat with
  | here => exact ⟨rfl, rfl⟩
  | item => exact absurd rfl (harray _)
  | field => exact absurd rfl (hobject _)

theorem not_hasKey_of_scalar {value : Value} (harray : ∀ items, value ≠ .array items)
    (hobject : ∀ fields, value ≠ .object fields) (key : String) : ¬ HasKey value key := by
  rintro ⟨path, part, hat, hkey⟩
  rw [(hat.eq_of_scalar harray hobject).1] at hkey
  cases hkey

/-- How many arrays and objects are open at the same time while the document is read. -/
def depth : Value → Nat
  | .array items => items_depth items + 1
  | .object fields => fields_depth fields + 1
  | _ => 0
where
  items_depth : List Value → Nat
    | [] => 0
    | item :: items => max (depth item) (items_depth items)
  fields_depth : List (String × Value) → Nat
    | [] => 0
    | (_, value) :: fields => max (depth value) (fields_depth fields)

/-- The document with other floats. -/
def map_floats (f : UInt64 → UInt64) : Value → Value
  | .float bits => .float (f bits)
  | .array items => .array (map_items items)
  | .object fields => .object (map_fields fields)
  | other => other
where
  map_items : List Value → List Value
    | [] => []
    | item :: items => map_floats f item :: map_items items
  map_fields : List (String × Value) → List (String × Value)
    | [] => []
    | (key, value) :: fields => (key, map_floats f value) :: map_fields fields

section Floats

variable {f : UInt64 → UInt64}

/-- Nothing changes where no float of the document does. -/
def FloatsKept (f : UInt64 → UInt64) (value : Value) : Prop :=
  ∀ path bits, At path (.float bits) value → f bits = bits

theorem floatsKept_array_iff {items : List Value} :
    FloatsKept f (.array items) ↔ ∀ item ∈ items, FloatsKept f item := by
  constructor
  · intro h item hitem path bits hat
    obtain ⟨index, hindex⟩ := List.mem_iff_getElem?.mp hitem
    exact h _ bits (.item hindex hat)
  · intro h path bits hat
    cases hat with
    | item hitem hat => exact h _ (List.mem_of_getElem? hitem) _ bits hat

theorem floatsKept_object_iff {fields : List (String × Value)} :
    FloatsKept f (.object fields) ↔ ∀ field ∈ fields, FloatsKept f field.2 := by
  constructor
  · intro h field hfield path bits hat
    exact h _ bits (.field (show (field.1, field.2) ∈ fields from hfield) hat)
  · intro h path bits hat
    cases hat with
    | field hfield hat => exact h _ hfield _ bits hat

theorem map_items_eq (items : List Value) : map_floats.map_items f items = items.map (map_floats f) := by
  induction items with
  | nil => rfl
  | cons item items ih => rw [map_floats.map_items, ih, List.map_cons]

theorem map_fields_eq (fields : List (String × Value)) :
    map_floats.map_fields f fields = fields.map fun field => (field.1, map_floats f field.2) := by
  induction fields with
  | nil => rfl
  | cons field fields ih =>
    obtain ⟨key, value⟩ := field
    rw [map_floats.map_fields, ih, List.map_cons]

theorem map_eq_self_iff {A : Type*} {g : A → A} {as : List A} : as.map g = as ↔ ∀ a ∈ as, g a = a := by
  have hid : as.map g = as ↔ as.map g = as.map id := by rw [List.map_id]
  exact hid.trans List.map_eq_map_iff

theorem map_floats_eq_self_iff (value : Value) : map_floats f value = value ↔ FloatsKept f value := by
  induction value using cases_induction with
  | scalar value harray hobject =>
    cases value with
    | float bits =>
      constructor
      · intro h path bits' hat
        obtain ⟨-, heq⟩ := hat.eq_of_scalar harray hobject
        cases heq
        exact Value.float.inj h
      · exact fun h => congrArg Value.float (h [] bits (.here _))
    | array items => exact absurd rfl (harray items)
    | object fields => exact absurd rfl (hobject fields)
    | _ =>
      refine ⟨fun _ path bits hat => ?_, fun _ => rfl⟩
      obtain ⟨-, heq⟩ := hat.eq_of_scalar harray hobject
      cases heq
  | array items ih =>
    rw [map_floats, map_items_eq, Value.array.injEq, map_eq_self_iff, floatsKept_array_iff]
    exact forall₂_congr ih
  | object fields ih =>
    rw [map_floats, map_fields_eq, Value.object.injEq, map_eq_self_iff, floatsKept_object_iff]
    refine forall₂_congr fun field hfield => ?_
    rw [← ih field hfield]
    exact ⟨fun h => congrArg Prod.snd h, fun h => Prod.ext rfl h⟩

end Floats

/-- The document without the fields of some keys, wherever they are. -/
def without (keys : List String) : Value → Value
  | .array items => .array (without_items items)
  | .object fields => .object (without_fields fields)
  | other => other
where
  without_items : List Value → List Value
    | [] => []
    | item :: items => without keys item :: without_items items
  without_fields : List (String × Value) → List (String × Value)
    | [] => []
    | (key, value) :: fields =>
      if key ∈ keys then without_fields fields else (key, without keys value) :: without_fields fields

section Without

variable {keys : List String}

/-- A path that no field of the keys is on. -/
def Avoids (keys : List String) (path : List Step) : Prop :=
  ∀ key ∈ keys, .key key ∉ path

theorem avoids_cons_key {key : String} {path : List Step} :
    Avoids keys (.key key :: path) ↔ key ∉ keys ∧ Avoids keys path := by
  constructor
  · exact fun h => ⟨fun hmem => h key hmem List.mem_cons_self,
      fun other hother hmem => h other hother (List.mem_cons_of_mem _ hmem)⟩
  · rintro ⟨hkey, hpath⟩ other hother hmem
    rcases List.mem_cons.mp hmem with heq | hmem
    · exact hkey (Step.key.inj heq ▸ hother)
    · exact hpath other hother hmem

theorem avoids_cons_index {index : Nat} {path : List Step} :
    Avoids keys (.index index :: path) ↔ Avoids keys path := by
  simp [Avoids]

theorem without_array (items : List Value) :
    without keys (.array items) = .array (items.map (without keys)) := by
  rw [without]
  congr 1
  induction items with
  | nil => rfl
  | cons item items ih => rw [without.without_items, ih, List.map_cons]

theorem without_object (fields : List (String × Value)) :
    without keys (.object fields) =
      .object ((fields.filter fun field => field.1 ∉ keys).map fun field => (field.1, without keys field.2)) := by
  rw [without]
  congr 1
  induction fields with
  | nil => rfl
  | cons field fields ih =>
    obtain ⟨key, value⟩ := field
    rw [without.without_fields, ih]
    by_cases hkey : key ∈ keys <;> simp [hkey]

theorem without_of_scalar {value : Value} (harray : ∀ items, value ≠ .array items)
    (hobject : ∀ fields, value ≠ .object fields) : without keys value = value := by
  cases value with
  | array items => exact absurd rfl (harray items)
  | object fields => exact absurd rfl (hobject fields)
  | _ => rfl

theorem without_without (value : Value) : without keys (without keys value) = without keys value := by
  induction value using cases_induction with
  | scalar value harray hobject => rw [without_of_scalar harray hobject, without_of_scalar harray hobject]
  | array items ih =>
    rw [without_array, without_array, List.map_map]
    exact congrArg Value.array (List.map_congr_left ih)
  | object fields ih =>
    have hkept : ((fun field : String × Value => decide (field.1 ∉ keys)) ∘
        fun field : String × Value => (field.1, without keys field.2)) =
          fun field => decide (field.1 ∉ keys) := rfl
    rw [without_object, without_object, List.filter_map, List.map_map, hkept, List.filter_filter]
    simp only [Bool.and_self]
    refine congrArg Value.object (List.map_congr_left fun field hfield => ?_)
    exact congrArg (Prod.mk field.1) (ih field (List.mem_filter.mp hfield).1)

/-- What is reached without going through the keys is still there. -/
theorem At.without {path : List Step} {part value : Value} (hat : At path part value)
    (hpath : Avoids keys path) : At path (part.without keys) (value.without keys) := by
  induction hat with
  | here value => exact .here _
  | item hitem _ ih =>
    rw [without_array]
    refine .item ?_ (ih (avoids_cons_index.mp hpath))
    rw [List.getElem?_map, hitem]
    rfl
  | field hfield _ ih =>
    obtain ⟨hkey, hpath⟩ := avoids_cons_key.mp hpath
    rw [without_object]
    refine .field (List.mem_map.mpr ⟨_, List.mem_filter.mpr ⟨hfield, ?_⟩, rfl⟩) (ih hpath)
    simpa using hkey

/-- A part of what is left has been a part of the document, reached without the keys. -/
theorem At.of_without {value : Value} : ∀ {path : List Step} {part : Value},
    At path part (value.without keys) →
      Avoids keys path ∧ ∃ whole, At path whole value ∧ whole.without keys = part := by
  induction value using cases_induction with
  | scalar value harray hobject =>
    intro path part hat
    rw [without_of_scalar harray hobject] at hat
    obtain ⟨rfl, rfl⟩ := hat.eq_of_scalar harray hobject
    exact ⟨fun _ _ => List.not_mem_nil, _, .here _, without_of_scalar harray hobject⟩
  | array items ih =>
    intro path part hat
    rw [without_array] at hat
    cases hat with
    | here => exact ⟨fun _ _ => List.not_mem_nil, _, .here _, without_array items⟩
    | item hitem hat =>
      rw [List.getElem?_map, Option.map_eq_some_iff] at hitem
      obtain ⟨item, hitem, rfl⟩ := hitem
      obtain ⟨hpath, whole, hwhole, heq⟩ := ih item (List.mem_of_getElem? hitem) hat
      exact ⟨avoids_cons_index.mpr hpath, whole, .item hitem hwhole, heq⟩
  | object fields ih =>
    intro path part hat
    rw [without_object] at hat
    cases hat with
    | here => exact ⟨fun _ _ => List.not_mem_nil, _, .here _, without_object fields⟩
    | field hfield hat =>
      obtain ⟨field, hkept, heq⟩ := List.mem_map.mp hfield
      cases heq
      obtain ⟨hmem, hkey⟩ := List.mem_filter.mp hkept
      obtain ⟨hpath, whole, hwhole, heq⟩ := ih field hmem hat
      exact ⟨avoids_cons_key.mpr ⟨of_decide_eq_true hkey, hpath⟩, whole, .field hmem hwhole, heq⟩

theorem hasKey_without_iff {value : Value} {key : String} :
    (value.without keys).HasKey key ↔ ∃ path part, At path part value ∧ Avoids keys path ∧ .key key ∈ path := by
  constructor
  · rintro ⟨path, part, hat, hkey⟩
    obtain ⟨hpath, whole, hwhole, -⟩ := hat.of_without
    exact ⟨path, whole, hwhole, hpath, hkey⟩
  · rintro ⟨path, part, hat, hpath, hkey⟩
    exact ⟨path, _, hat.without hpath, hkey⟩

end Without

end Value

end serde_json
