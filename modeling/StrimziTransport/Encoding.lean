import StrimziTransport.MergePatch

/-!
Go values and `encoding/json`. A Go value of type `t` is held as the JSON tree of its
fields; a missing member or a `null` reads as the zero value of its type, and a pointer
is held as what it points to (`null` when nil). `encode` is `json.Marshal`, honouring
`omitempty`; `decode` is `json.Unmarshal` into a zero value, matching members by their
exact name and ignoring unknown ones, and yields every struct with all of its fields.
-/

namespace StrimziTransport

/-- The Go types of the modelled objects: a struct lists its fields' JSON names,
whether the tag says `omitempty`, and their types. `map` is a `map[string]string` or
`map[string]interface{}`, held as the JSON object it encodes to; `raw` is
`apiextensions.JSON`, held as the document its `Raw` bytes spell. -/
inductive Ty where
  | bool
  | int
  | string
  | raw
  | map
  | ptr (elem : Ty)
  | slice (elem : Ty)
  | struct (fields : List (String × Bool × Ty))
  deriving Inhabited, Repr

namespace Json

/-- A `bool`, an `int` and a `string` as `reflect` reads them: zero unless set. -/
def asBool : Json → Bool
  | .bool b => b
  | _ => false

def asInt : Json → Int
  | .num n => n
  | _ => 0

def asStr : Json → String
  | .str s => s
  | _ => ""

@[simp] theorem asBool_bool (b : Bool) : (Json.bool b).asBool = b := rfl
@[simp] theorem asInt_num (n : Int) : (Json.num n).asInt = n := rfl
@[simp] theorem asStr_str (s : String) : (Json.str s).asStr = s := rfl

end Json

namespace Ty

mutual
def zero : Ty → Json
  | .bool => .bool false
  | .int => .num 0
  | .string => .str ""
  | .struct fs => .obj (zeroFields fs)
  | _ => .null

def zeroFields : List (String × Bool × Ty) → List (String × Json)
  | [] => []
  | (name, _, t) :: fs => (name, zero t) :: zeroFields fs
end

/-- `isEmptyValue` of `encoding/json`, which decides what `omitempty` leaves out; a
struct is never empty. -/
def isEmpty : Ty → Json → Bool
  | .bool, v => !v.asBool
  | .int, v => v.asInt == 0
  | .string, v => v.asStr == ""
  | .ptr _, v => v == .null
  | .slice _, .arr xs => xs.isEmpty
  | .slice _, _ => true
  | .map, .obj ms => ms.isEmpty
  | .map, _ => true
  | .raw, _ | .struct _, _ => false

mutual
/-- `json.Marshal`. -/
def encode : Ty → Json → Json
  | .bool, v => .bool v.asBool
  | .int, v => .num v.asInt
  | .string, v => .str v.asStr
  | .raw, v => v
  | .map, .obj ms => .obj ms
  | .map, _ => .null
  | .ptr _, .null => .null
  | .ptr t, v => encode t v
  | .slice t, .arr xs => .arr (xs.map (encode t))
  | .slice _, _ => .null
  | .struct fs, v => .obj (encodeFields fs v)

def encodeFields : List (String × Bool × Ty) → Json → List (String × Json)
  | [], _ => []
  | (name, omitEmpty, t) :: fs, v =>
      if omitEmpty && t.isEmpty (v.field name) then encodeFields fs v
      else (name, encode t (v.field name)) :: encodeFields fs v
end

mutual
/-- `json.Unmarshal` into a zero value; `none` is an `UnmarshalTypeError`. -/
def decode : Ty → Json → Option Json
  | .bool, .bool b => some (.bool b)
  | .int, .num n => some (.num n)
  | .string, .str s => some (.str s)
  | .bool, .null => some (.bool false)
  | .int, .null => some (.num 0)
  | .string, .null => some (.str "")
  | .raw, v => some v
  | .map, .obj ms => some (.obj ms)
  | .map, .null | .ptr _, .null | .slice _, .null => some .null
  | .ptr t, v => decode t v
  | .slice t, .arr xs => (xs.mapM (decode t)).map .arr
  | .struct fs, .obj ms => (decodeFields fs ms).map .obj
  | .struct fs, .null => some (.obj (zeroFields fs))
  | _, _ => none

def decodeFields : List (String × Bool × Ty) → List (String × Json) →
    Option (List (String × Json))
  | [], _ => some []
  | (name, _, t) :: fs, ms => do
      let x ← match ms.lookup name with
        | some j => decode t j
        | none => some (zero t)
      let rest ← decodeFields fs ms
      pure ((name, x) :: rest)
end

end Ty
end StrimziTransport
