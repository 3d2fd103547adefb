import Mathlib.Data.List.Basic
import Mathlib.Data.Int.Notation
import Mathlib.Data.Nat.Notation

/-!
# JSON values

Values as a serializer builds them and a parser returns them. Numbers are integers.
A record is read from an object field by field, and fields that the record does not
have are skipped. How values are written as text is a parameter: a text format is
any pair of functions that reads back what it has written.
-/

set_option autoImplicit false

namespace Sp1Cluster

inductive Json where
  | null
  | bool (value : Bool)
  | number (value : ℤ)
  | string (value : String)
  | array (items : List Json)
  | object (fields : List (String × Json))

namespace Json

/-- The value of a field of an object. -/
def get? (key : String) : Json → Option Json
  | .object fields => fields.lookup key
  | _ => none

/-- An object with one field set; other values stay as they are. -/
def insert (json : Json) (key : String) (value : Json) : Json :=
  match json with
  | .object fields => .object (fields.filter (fun field => field.1 != key) ++ [(key, value)])
  | other => other

/-- An integer between two bounds. -/
def readInt (least most : ℤ) : Json → Option ℤ
  | .number value => if least ≤ value ∧ value ≤ most then some value else none
  | _ => none

def readString : Json → Option String
  | .string value => some value
  | _ => none

/-- An array whose items all can be read. -/
def readArray {α : Type} (read : Json → Option α) : Json → Option (List α)
  | .array items => items.mapM read
  | _ => none

/-- A field of a record. A field that is absent is an error, unless absent fields have a
default. -/
def readField {α : Type} (absent : Option α) (read : Json → Option α) (key : String)
    (json : Json) : Option α :=
  match json.get? key with
  | some value => read value
  | none => absent

theorem lookup_cons_eq (key name : String) (value : Json) (fields : List (String × Json)) :
    List.lookup key ((name, value) :: fields) =
      if key = name then some value else fields.lookup key := by
  rw [List.lookup_cons]
  by_cases same : key = name
  · rw [if_pos same, beq_iff_eq.mpr same]
  · rw [if_neg same, beq_eq_false_iff_ne.mpr same]

theorem lookup_filter_append (key other : String) (value : Json) (fields : List (String × Json)) :
    (fields.filter (fun field => field.1 != key) ++ [(key, value)]).lookup other =
      if other = key then some value else fields.lookup other := by
  induction fields with
  | nil => exact lookup_cons_eq other key value []
  | cons field fields ih =>
    obtain ⟨name, here⟩ := field
    by_cases dropped : name = key
    · subst dropped
      have kept : ((name, here) :: fields).filter (fun field => field.1 != name) =
          fields.filter (fun field => field.1 != name) := by simp
      rw [kept, ih, lookup_cons_eq]
      split <;> rfl
    · have kept : ((name, here) :: fields).filter (fun field => field.1 != key) =
          (name, here) :: fields.filter (fun field => field.1 != key) := by simp [dropped]
      rw [kept, List.cons_append, lookup_cons_eq, ih, lookup_cons_eq]
      by_cases found : other = name
      · rw [if_pos found, if_neg (found ▸ dropped), if_pos found]
      · rw [if_neg found, if_neg found]

@[simp] theorem get?_insert (key other : String) (value : Json) (fields : List (String × Json)) :
    ((Json.object fields).insert key value).get? other =
      if other = key then some value else (Json.object fields).get? other :=
  lookup_filter_append key other value fields

theorem readArray_map {α : Type} {read : Json → Option α} {write : α → Json}
    (reads : ∀ value, read (write value) = some value) (values : List α) :
    readArray read (.array (values.map write)) = some values := by
  unfold readArray
  induction values with
  | nil => rfl
  | cons value values ih => simp [reads, ih]

theorem readInt_number {least most value : ℤ} (low : least ≤ value) (high : value ≤ most) :
    readInt least most (.number value) = some value :=
  if_pos ⟨low, high⟩

end Json

/-- A way to write values as text that reads back what it has written. -/
structure JsonText (Text : Type) where
  print : Json → Text
  parse : Text → Option Json
  parse_print : ∀ value, parse (print value) = some value

/-- The values themselves as text. -/
def JsonText.plain : JsonText Json where
  print := id
  parse := some
  parse_print _ := rfl

end Sp1Cluster
