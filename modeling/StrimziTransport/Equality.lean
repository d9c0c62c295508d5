import StrimziTransport.Encoding

/-!
The two comparisons the reconcilers make before writing: `reflect.DeepEqual` and
`equality.Semantic.DeepDerivative` of `k8s.io/apimachinery`. DeepDerivative ignores what
its first argument leaves unset (a nil pointer, slice or map, an empty string or slice)
and accepts a first slice that is a prefix of the second. Map and `interface{}` values
are compared member by member, whatever order their members were written in.
-/

namespace StrimziTransport
namespace Json

mutual
/-- `reflect.DeepEqual` on values decoded into `interface{}`. -/
def deepEqual : Json → Json → Bool
  | .null, .null => true
  | .bool a, .bool b => a == b
  | .num a, .num b => a == b
  | .str a, .str b => a == b
  | .arr xs, .arr ys => xs.length == ys.length && deepEqualList xs ys
  | .obj xs, .obj ys => xs.length == ys.length && deepEqualMembers xs ys
  | _, _ => false

def deepEqualList : List Json → List Json → Bool
  | [], _ => true
  | x :: xs, y :: ys => deepEqual x y && deepEqualList xs ys
  | _ :: _, [] => false

def deepEqualMembers : List (String × Json) → List (String × Json) → Bool
  | [], _ => true
  | (k, x) :: xs, ys => (match ys.lookup k with
      | some y => deepEqual x y
      | none => false) && deepEqualMembers xs ys
end

mutual
/-- `deepValueDerive` on values decoded into `interface{}`: the dynamic types must agree
once the first value is set. -/
def derive : Json → Json → Bool
  | .null, _ => true
  | .bool a, .bool b => a == b
  | .num a, .num b => a == b
  | .str a, .str b => a == "" || a == b
  | .arr xs, .arr ys => xs.isEmpty || (xs.length ≤ ys.length && deriveList xs ys)
  | .arr xs, _ => xs.isEmpty
  | .obj xs, .obj ys => xs.isEmpty || (xs.length ≤ ys.length && deriveMembers xs ys)
  | .obj xs, _ => xs.isEmpty
  | _, _ => false

def deriveList : List Json → List Json → Bool
  | [], _ => true
  | x :: xs, y :: ys => derive x y && deriveList xs ys
  | _ :: _, [] => false

def deriveMembers : List (String × Json) → List (String × Json) → Bool
  | [], _ => true
  | (k, x) :: xs, ys => (match ys.lookup k with
      | some y => derive x y
      | none => false) && deriveMembers xs ys
end

end Json

namespace Ty

mutual
/-- `reflect.DeepEqual` at a type; `Raw` bytes are compared as the documents they spell. -/
def deepEqual : Ty → Json → Json → Bool
  | .bool, a, b => a.asBool == b.asBool
  | .int, a, b => a.asInt == b.asInt
  | .string, a, b => a.asStr == b.asStr
  | .raw, a, b => a == b
  | .map, a, b => a.deepEqual b
  | .ptr _, .null, b => b == .null
  | .ptr _, _, .null => false
  | .ptr t, a, b => deepEqual t a b
  | .slice t, .arr xs, .arr ys =>
      xs.length == ys.length && (xs.zip ys).all (fun p => deepEqual t p.1 p.2)
  | .slice _, .arr _, _ => false
  | .slice _, _, .arr _ => false
  | .slice _, _, _ => true
  | .struct fs, a, b => deepEqualFields fs a b

def deepEqualFields : List (String × Bool × Ty) → Json → Json → Bool
  | [], _, _ => true
  | (name, _, t) :: fs, a, b =>
      deepEqual t (a.field name) (b.field name) && deepEqualFields fs a b
end

mutual
/-- `equality.Semantic.DeepEqual` at a type: `reflect.DeepEqual`, except that a nil and an empty
slice or map are alike. -/
def semanticDeepEqual : Ty → Json → Json → Bool
  | .bool, a, b => a.asBool == b.asBool
  | .int, a, b => a.asInt == b.asInt
  | .string, a, b => a.asStr == b.asStr
  | .raw, a, b => a == b
  | .map, a, b => (Ty.map.isEmpty a && Ty.map.isEmpty b) || a.deepEqual b
  | .ptr _, .null, b => b == .null
  | .ptr _, _, .null => false
  | .ptr t, a, b => semanticDeepEqual t a b
  | .slice t, a, b => (a.arrElems.isEmpty && b.arrElems.isEmpty) ||
      (a.arrElems.length == b.arrElems.length &&
        (a.arrElems.zip b.arrElems).all fun p => semanticDeepEqual t p.1 p.2)
  | .struct fs, a, b => semanticDeepEqualFields fs a b

def semanticDeepEqualFields : List (String × Bool × Ty) → Json → Json → Bool
  | [], _, _ => true
  | (name, _, t) :: fs, a, b =>
      semanticDeepEqual t (a.field name) (b.field name) && semanticDeepEqualFields fs a b
end

mutual
/-- `equality.Semantic.DeepDerivative(a, b)` at a type. -/
def deepDerivative : Ty → Json → Json → Bool
  | .bool, a, b => a.asBool == b.asBool
  | .int, a, b => a.asInt == b.asInt
  | .string, a, b => a.asStr == "" || a.asStr == b.asStr
  | .raw, a, b => a == .null || a == b
  | .map, a, b => a.derive b
  | .ptr _, .null, _ => true
  | .ptr _, _, .null => false
  | .ptr t, a, b => deepDerivative t a b
  | .slice t, .arr xs, .arr ys => xs.isEmpty ||
      (xs.length ≤ ys.length && (xs.zip ys).all (fun p => deepDerivative t p.1 p.2))
  | .slice _, .arr xs, _ => xs.isEmpty
  | .slice _, _, _ => true
  | .struct fs, a, b => deepDerivativeFields fs a b

def deepDerivativeFields : List (String × Bool × Ty) → Json → Json → Bool
  | [], _, _ => true
  | (name, _, t) :: fs, a, b =>
      deepDerivative t (a.field name) (b.field name) && deepDerivativeFields fs a b
end

end Ty
end StrimziTransport
