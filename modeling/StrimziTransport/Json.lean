import Mathlib.Data.List.Basic

/-!
JSON documents as `encoding/json` writes them and `evanphx/json-patch` reads them.
Object members are kept in the order they were written; every reader in this
development looks a member up by name, so that order is never observed. The same
trees also stand for Go values (see `StrimziTransport.Encoding`).
-/

namespace StrimziTransport

inductive Json where
  | null
  | bool (b : Bool)
  | num (n : Int)
  | str (s : String)
  | arr (elems : List Json)
  | obj (members : List (String × Json))
  deriving Inhabited, Repr

namespace Json

mutual
def beq : Json → Json → Bool
  | .null, .null => true
  | .bool a, .bool b => a == b
  | .num a, .num b => a == b
  | .str a, .str b => a == b
  | .arr xs, .arr ys => beqList xs ys
  | .obj xs, .obj ys => beqMembers xs ys
  | _, _ => false

def beqList : List Json → List Json → Bool
  | [], [] => true
  | x :: xs, y :: ys => beq x y && beqList xs ys
  | _, _ => false

def beqMembers : List (String × Json) → List (String × Json) → Bool
  | [], [] => true
  | (k, x) :: xs, (l, y) :: ys => k == l && beq x y && beqMembers xs ys
  | _, _ => false
end

mutual
theorem eq_of_beq : ∀ {a b : Json}, beq a b = true → a = b
  | .null, .null, _ => rfl
  | .bool a, .bool b, h | .num a, .num b, h | .str a, .str b, h => by rw [beq_iff_eq.mp h]
  | .arr xs, .arr ys, h => by rw [eq_of_beqList h]
  | .obj xs, .obj ys, h => by rw [eq_of_beqMembers h]
  | .null, .bool _, h | .null, .num _, h | .null, .str _, h | .null, .arr _, h
  | .null, .obj _, h | .bool _, .null, h | .bool _, .num _, h | .bool _, .str _, h
  | .bool _, .arr _, h | .bool _, .obj _, h | .num _, .null, h | .num _, .bool _, h
  | .num _, .str _, h | .num _, .arr _, h | .num _, .obj _, h | .str _, .null, h
  | .str _, .bool _, h | .str _, .num _, h | .str _, .arr _, h | .str _, .obj _, h
  | .arr _, .null, h | .arr _, .bool _, h | .arr _, .num _, h | .arr _, .str _, h
  | .arr _, .obj _, h | .obj _, .null, h | .obj _, .bool _, h | .obj _, .num _, h
  | .obj _, .str _, h | .obj _, .arr _, h => by cases h

theorem eq_of_beqList : ∀ {xs ys : List Json}, beqList xs ys = true → xs = ys
  | [], [], _ => rfl
  | x :: xs, y :: ys, h => by
      have h := (Bool.and_eq_true _ _).mp h
      rw [eq_of_beq h.1, eq_of_beqList h.2]
  | [], _ :: _, h | _ :: _, [], h => by cases h

theorem eq_of_beqMembers : ∀ {xs ys : List (String × Json)}, beqMembers xs ys = true → xs = ys
  | [], [], _ => rfl
  | (k, x) :: xs, (l, y) :: ys, h => by
      have h := (Bool.and_eq_true _ _).mp h
      have h₁ := (Bool.and_eq_true _ _).mp h.1
      rw [beq_iff_eq.mp h₁.1, eq_of_beq h₁.2, eq_of_beqMembers h.2]
  | [], _ :: _, h | _ :: _, [], h => by cases h
end

mutual
theorem beq_self : ∀ a : Json, beq a a = true
  | .null => rfl
  | .bool _ | .num _ | .str _ => beq_self_eq_true _
  | .arr xs => beqList_self xs
  | .obj xs => beqMembers_self xs

theorem beqList_self : ∀ xs : List Json, beqList xs xs = true
  | [] => rfl
  | x :: xs => (Bool.and_eq_true _ _).mpr ⟨beq_self x, beqList_self xs⟩

theorem beqMembers_self : ∀ xs : List (String × Json), beqMembers xs xs = true
  | [] => rfl
  | (_, x) :: xs =>
      (Bool.and_eq_true _ _).mpr ⟨(Bool.and_eq_true _ _).mpr
          ⟨beq_self_eq_true _, beq_self x⟩, beqMembers_self xs⟩
end

instance : DecidableEq Json := fun a b =>
  decidable_of_iff (beq a b = true) ⟨eq_of_beq, fun h => h ▸ beq_self a⟩

end Json
end StrimziTransport

namespace StrimziTransport
namespace Json

/-- The member `k` of an object, as a Go map or a decoded struct reads it. -/
def get? (k : String) : Json → Option Json
  | .obj ms => ms.lookup k
  | _ => none

/-- A struct field of a Go value: a missing member reads as `null`, the zero value. -/
def field (k : String) (j : Json) : Json := (j.get? k).getD .null

def arrElems : Json → List Json
  | .arr xs => xs
  | _ => []

@[simp] theorem get?_obj (k : String) (ms : List (String × Json)) :
    (Json.obj ms).get? k = ms.lookup k := rfl

@[simp] theorem field_nil (k : String) : (Json.obj []).field k = .null := rfl

@[simp] theorem field_cons (k l : String) (v : Json) (ms : List (String × Json)) :
    (Json.obj ((l, v) :: ms)).field k = if k = l then v else (Json.obj ms).field k := by
  by_cases h : k = l
  · simp [field, get?, h]
  · simp [field, get?, List.lookup_cons, beq_eq_false_iff_ne.mpr h, h]

@[simp] theorem arrElems_arr (xs : List Json) : (Json.arr xs).arrElems = xs := rfl

mutual
/-- A patch that `merge` applies once for all: no `null` and no repeated key anywhere
inside. -/
def clean : Json → Bool
  | .null => false
  | .arr xs => cleanList xs
  | .obj ms => decide (ms.map Prod.fst).Nodup && cleanMembers ms
  | _ => true

def cleanList : List Json → Bool
  | [] => true
  | x :: xs => clean x && cleanList xs

def cleanMembers : List (String × Json) → Bool
  | [] => true
  | (_, v) :: ms => clean v && cleanMembers ms
end

end Json

/-- `(*doc)[k] = v` on a `partialDoc`: every member named `k` takes the value `v`, and a new
member is added when there is none. -/
def setMember (k : String) (v : Json) (ms : List (String × Json)) : List (String × Json) :=
  if ms.any (·.1 == k) then ms.map (fun m => if m.1 == k then (k, v) else m) else ms ++ [(k, v)]

/-- `delete(*doc, k)` on a `partialDoc`. -/
def eraseMember (k : String) (ms : List (String × Json)) : List (String × Json) :=
  ms.filter (·.1 != k)

end StrimziTransport
