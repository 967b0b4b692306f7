import Mathlib.Data.List.Sort
import PasswallNode.Foundation.Json

/-! JSON values as a decoder into untyped maps returns them: an object is the list of its fields. -/

namespace PasswallNode.Foundation

/-- A number as it is printed again, and what its conversion to a 64-bit integer gives. -/
structure JsonNumber where
  text : String
  int64 : Int
  deriving DecidableEq, Repr

inductive Json where
  | null
  | bool (value : Bool)
  | number (value : JsonNumber)
  | string (value : String)
  | array (items : List Json)
  | object (fields : List (String × Json))
  deriving Repr

abbrev JsonObject := List (String × Json)

namespace JsonObject

/-- `object[name]`; an absent field reads as nil. -/
def get? (object : JsonObject) (name : String) : Option Json :=
  (object.find? (fun field => decide (field.1 = name))).map (·.2)

/-- `object[name] = value`. -/
def set (object : JsonObject) (name : String) (value : Json) : JsonObject :=
  object.filter (fun field => decide (field.1 ≠ name)) ++ [(name, value)]

@[simp] theorem get?_set (object : JsonObject) (name other : String) (value : Json) :
    (set object name value).get? other = if other = name then some value else object.get? other := by
  unfold get? set
  rw [List.find?_append]
  by_cases same : other = name
  · subst same
    have gone : (object.filter (fun field => decide (field.1 ≠ other))).find?
        (fun field => decide (field.1 = other)) = none := by
      rw [List.find?_eq_none]
      intro field member
      have kept := (List.mem_filter.mp member).2
      simpa using kept
    rw [gone, if_pos rfl]
    simp
  · rw [if_neg same]
    have kept : (object.filter (fun field => decide (field.1 ≠ name))).find?
        (fun field => decide (field.1 = other)) =
        object.find? (fun field => decide (field.1 = other)) := by
      induction object with
      | nil => rfl
      | cons field rest ih =>
        by_cases here : field.1 = name
        · have apart : field.1 ≠ other := fun equal => same (equal.symm.trans here)
          rw [List.filter_cons_of_neg (by simp [here]), ih, List.find?_cons_of_neg (by simp [apart])]
        · rw [List.filter_cons_of_pos (by simp [here]), List.find?_cons, List.find?_cons, ih]
    rw [kept]
    cases object.find? (fun field => decide (field.1 = other)) with
    | none => simp [Ne.symm same]
    | some field => simp

end JsonObject

namespace Json

/-- `value.(string)`, empty for every other value. -/
def stringValue : Option Json → String
  | some (.string value) => value
  | _ => ""

def boolValue : Option Json → Bool
  | some (.bool value) => value
  | _ => false

def int64Value : Option Json → Int
  | some (.number value) => value.int64
  | _ => 0

/-- `value.(map[string]any)`, empty for every other value. -/
def mapValue : Option Json → JsonObject
  | some (.object fields) => fields
  | _ => []

/-- A text is a list of one; items that are no text or empty are dropped. -/
def stringSlice : Option Json → List String
  | some (.string value) => if value ≠ "" then [value] else []
  | some (.array items) =>
    (items.map (fun item => stringValue (some item))).filter (fun text => decide (text ≠ ""))
  | _ => []

def texts (values : List String) : Json := .array (values.map .string)

def int (value : Int) : Json := .number ⟨value.repr, value⟩

def bracketed (left right : String) (margin : List UInt8) (items : List (List UInt8)) : List UInt8 :=
  if items = [] then textBytes (left ++ right)
  else textBytes (left ++ "\n  ") ++ margin ++ (textBytes ",\n  " ++ margin).intercalate items ++
    textBytes "\n" ++ margin ++ textBytes right

def quoted (text : String) : List UInt8 := textBytes "\"" ++ textBytes text ++ textBytes "\""

mutual

/-- What `json.MarshalIndent` prints behind a margin, if no text needs an escape. -/
def indented (margin : List UInt8) : Json → List UInt8
  | .null => textBytes "null"
  | .bool value => textBytes (toString value)
  | .number value => textBytes value.text
  | .string value => quoted value
  | .array items => bracketed "[" "]" margin (indentedItems (textBytes "  " ++ margin) items)
  | .object fields =>
    -- The fields of a map are printed in the order of their names.
    let printed := (indentedFields (textBytes "  " ++ margin) fields).insertionSort (fun a b => a.1 ≤ b.1)
    bracketed "\x7b" "\x7d" margin (printed.map (fun (name, value) => quoted name ++ textBytes ": " ++ value))

def indentedItems (margin : List UInt8) : List Json → List (List UInt8)
  | [] => []
  | item :: rest => indented margin item :: indentedItems margin rest

def indentedFields (margin : List UInt8) : List (String × Json) → List (String × List UInt8)
  | [] => []
  | (name, value) :: rest => (name, indented margin value) :: indentedFields margin rest

end

end Json

end PasswallNode.Foundation
