import StrimziTransport.MergeObjects
import StrimziTransport.Transporter

/-!
Go field selectors through pointers, `x.F₁.F₂.….Fₙ`, on typed values: every pointer met
before the last field is dereferenced, and a nil one panics. Reading returns the last
field; assigning replaces it and leaves every other field as it was. Struct values are
objects, as `decode` and the object builders make them. Below a selector the desired value
fills with objects, a merge patch keeps a member the desired value's encoding leaves out.
-/

namespace StrimziTransport

namespace Outcome

/-- Sequencing in Go: the first panic or returned error ends the run. -/
def bind {α β : Type} : Outcome α → (α → Outcome β) → Outcome β
  | .ok a, f => f a
  | .error e, _ => .error e
  | .panic e, _ => .panic e

instance : Monad Outcome where
  pure := .ok
  bind := bind

@[simp] theorem bind_ok {α β : Type} (a : α) (f : α → Outcome β) : bind (.ok a) f = f a := rfl

@[simp] theorem bind_eq_bind {α β : Type} (x : Outcome α) (f : α → Outcome β) :
    x >>= f = bind x f :=
  rfl

@[simp] theorem pure_eq_ok {α : Type} (a : α) : (pure a : Outcome α) = .ok a := rfl

theorem bind_eq_ok {α β : Type} {x : Outcome α} {f : α → Outcome β} {b : β}
    (h : bind x f = .ok b) : ∃ a, x = .ok a ∧ f a = .ok b := by
  cases x with
  | ok a => exact ⟨a, rfl, h⟩
  | error e | panic e => cases h

end Outcome

namespace Ty

mutual
/-- `x.F₁.….Fₙ` on a value `x` of type `t`. -/
def read : Ty → List String → Json → Outcome Json
  | _, [], x => .ok x
  | .ptr t, name :: path, x =>
      if x = .null then .panic nilDereference else read t (name :: path) x
  | .struct fs, name :: path, x => readField fs name path (x.field name)
  | _, _ :: _, x => .ok x

/-- The rest of a selector, from the field `name` of a struct with fields `fs`. -/
def readField : List (String × Bool × Ty) → String → List String → Json → Outcome Json
  | [], _, _, y => .ok y
  | (n, _, t) :: fs, name, path, y => if n = name then read t path y else readField fs name path y
end

mutual
/-- `x.F₁.….Fₙ = v` on a value `x` of type `t`: the value `x` becomes. -/
def assign : Ty → List String → Json → Json → Outcome Json
  | _, [], v, _ => .ok v
  | .ptr t, name :: path, v, x =>
      if x = .null then .panic nilDereference else assign t (name :: path) v x
  | .struct fs, name :: path, v, x =>
      (x.setField name ·) <$> assignField fs name path v (x.field name)
  | _, _ :: _, _, x => .ok x

/-- The assignment of the rest of a selector to the field `name`, holding `y`, of a struct
with fields `fs`: the value that field becomes. -/
def assignField : List (String × Bool × Ty) → String → List String → Json → Json → Outcome Json
  | [], _, _, _, y => .ok y
  | (n, _, t) :: fs, name, path, v, y =>
      if n = name then assign t path v y else assignField fs name path v y
end

/-- `x.P = v` for each selector `P` in turn. -/
def assignAll (t : Ty) (paths : List (List String)) (v x : Json) : Outcome Json :=
  paths.foldlM (fun x path => t.assign path v x) x

mutual
/-- The type a selector reaches from a value of type `t`, when every name on it is a field. -/
def pathTy : Ty → List String → Option Ty
  | t, [] => some t
  | .ptr t, name :: path => pathTy t (name :: path)
  | .struct fs, name :: path => fieldsPathTy fs name path
  | _, _ :: _ => none

def fieldsPathTy : List (String × Bool × Ty) → String → List String → Option Ty
  | [], _, _ => none
  | (n, _, t) :: fs, name, path => if n = name then pathTy t path else fieldsPathTy fs name path
end

section Unfold
variable (t : Ty) (fs : List (String × Bool × Ty)) (f : String × Bool × Ty) (name : String)
  (path : List String) (v x : Json)

theorem read_ptr_cons :
    read (.ptr t) (name :: path) x = if x =
        .null then .panic nilDereference else read t (name :: path) x :=
  rfl

theorem read_struct_cons : read (.struct fs) (name :: path) x =
    readField fs name path (x.field name) := rfl

theorem readField_cons :
    readField (f :: fs) name path x = if f.1 =
        name then read f.2.2 path x else readField fs name path x :=
  rfl

theorem assign_ptr_cons : assign (.ptr t) (name :: path) v x =
    if x = .null then .panic nilDereference else assign t (name :: path) v x := rfl

theorem assign_struct_cons :
    assign (.struct fs) (name :: path) v x =
        (x.setField name ·) <$> assignField fs name path v (x.field name) :=
  rfl

theorem assignField_cons : assignField (f :: fs) name path v x =
    if f.1 = name then assign f.2.2 path v x else assignField fs name path v x := rfl

theorem fieldsPathTy_cons :
    fieldsPathTy (f :: fs) name path = if f.1 =
        name then pathTy f.2.2 path else fieldsPathTy fs name path :=
  rfl

end Unfold

end Ty

namespace Json

/-- The field at the end of a selector, reading a nil pointer or a missing member as `null`. -/
def fieldAt (j : Json) (path : List String) : Json := path.foldl (fun j name => j.field name) j

@[simp] theorem fieldAt_nil (j : Json) : j.fieldAt [] = j := rfl

@[simp] theorem fieldAt_cons (j : Json) (name : String) (path : List String) :
    j.fieldAt (name :: path) = (j.field name).fieldAt path := rfl

/-- `j` with the field at the end of a selector replaced by `v`: what `Ty.assign` gives when no
pointer on the way is nil. -/
def setFieldAt (j : Json) : List String → Json → Json
  | [], v => v
  | name :: path, v => j.setField name ((j.field name).setFieldAt path v)

@[simp] theorem setFieldAt_nil (j v : Json) : j.setFieldAt [] v = v := rfl

@[simp] theorem setFieldAt_cons (j : Json) (name : String) (path : List String) (v : Json) :
    j.setFieldAt (name :: path) v = j.setField name ((j.field name).setFieldAt path v) := rfl

def objectsAlong : Json → List String → Bool
  | _, [] => true
  | .obj ms, name :: path => objectsAlong ((Json.obj ms).field name) path
  | _, _ :: _ => false

@[simp] theorem objectsAlong_nil (j : Json) : j.objectsAlong [] = true := by cases j <;> rfl

@[simp] theorem objectsAlong_obj_cons (ms : List (String × Json)) (name : String)
    (path : List String) :
    (Json.obj ms).objectsAlong (name :: path) = ((Json.obj ms).field name).objectsAlong path := rfl

theorem field_setField_of_ne (j : Json) {k k' : String} (h : k' ≠ k) (v : Json) :
    (j.setField k v).field k' = j.field k' := by
  cases j with
  | obj ms => rw [field_setField, if_neg h]
  | _ => rfl

def parts : List String → List String → Bool
  | a :: p, b :: q => a != b || parts p q
  | _, _ => false

theorem fieldAt_setFieldAt_of_parts (j : Json) {p q : List String}
    (h : parts p q = true) (v : Json) :
    (j.setFieldAt p v).fieldAt q = j.fieldAt q := by
  induction p generalizing j q with
  | nil => cases h
  | cons a p ih =>
      cases q with
      | nil => cases h
      | cons b q =>
          cases j with
          | obj ms =>
              simp only [setFieldAt_cons, fieldAt_cons, field_setField]
              by_cases hab : b = a
              · subst hab
                rw [if_pos rfl, ih _ (by simpa [parts] using h)]
              · rw [if_neg hab]
          | _ => rfl

theorem parts_append {p q : List String} (h : parts p q = true) (r r' : List String) :
    parts (p ++ r) (q ++ r') = true := by
  induction p generalizing q with
  | nil => cases h
  | cons a p ih =>
      cases q with
      | nil => cases h
      | cons b q =>
          simp only [List.cons_append, parts, Bool.or_eq_true] at h ⊢
          exact h.imp_right ih

theorem parts_self_append (p r : List String) : parts p (p ++ r) = false := by
  induction p with
  | nil => rfl
  | cons a p ih => simp [parts, ih]

theorem append_cons_ne_of_parts {p q : List String} (h : parts p q = true)
    (x : String) (r : List String) :
    p ++ x :: r ≠ q := by
  rintro rfl
  rw [parts_self_append] at h
  cases h

theorem fieldAt_append (j : Json) (p q : List String) : j.fieldAt (p ++ q) =
    (j.fieldAt p).fieldAt q :=
  List.foldl_append _ _ _ _

theorem objectsAlong_append (j : Json) (p : List String) {q : List String} (hq : q ≠ []) :
    j.objectsAlong (p ++ q) = (j.objectsAlong p && (j.fieldAt p).objectsAlong q) := by
  induction p generalizing j with
  | nil => cases q with
    | nil => exact absurd rfl hq
    | cons _ _ => cases j <;> rfl
  | cons n p ih =>
      cases j with
      | obj ms => exact ih _
      | _ => rfl

theorem exists_obj_of_objectsAlong {j : Json} {n : String} {p : List String}
    (h : j.objectsAlong (n :: p) = true) : ∃ ms, j = .obj ms := by
  cases j <;> first | exact ⟨_, rfl⟩ | cases h

theorem objectsAlong_append_singleton (j : Json) (p : List String) (x y : String) :
    j.objectsAlong (p ++ [x]) = j.objectsAlong (p ++ [y]) := by
  rw [objectsAlong_append _ _ (List.cons_ne_nil _ _),
      objectsAlong_append _ _ (List.cons_ne_nil _ _)]
  cases j.fieldAt p <;> first | rfl | simp

@[simp] theorem null_fieldAt (path : List String) : Json.null.fieldAt path = .null := by
  induction path with
  | nil => rfl
  | cons _ _ ih => exact ih

theorem objectsAlong_setFieldAt (j : Json) (p q : List String) (v : Json)
    (hpq : ∀ x r, p ++ x :: r ≠ q) (hq : j.objectsAlong q = true) :
    (j.setFieldAt p v).objectsAlong q = true := by
  induction q generalizing j p with
  | nil => cases j.setFieldAt p v <;> rfl
  | cons n q ih =>
      cases j with
      | obj ms =>
          cases p with
          | nil => exact absurd rfl (hpq n q)
          | cons m p =>
              change ((Json.obj ms).setField m
                  (((Json.obj ms).field m).setFieldAt p v)).objectsAlong
                (n :: q) = true
              change objectsAlong ((Json.obj (setMember m _ ms)).field n) q = true
              change objectsAlong ((Json.obj ms).field n) q = true at hq
              rw [show Json.obj (setMember m (((Json.obj ms).field m).setFieldAt p v) ms) =
                (Json.obj ms).setField m (((Json.obj ms).field m).setFieldAt p v) from rfl,
                field_setField]
              by_cases hnm : n = m
              · rw [if_pos hnm]
                subst hnm
                exact ih _ p (fun x r h => hpq x r (by rw [List.cons_append, h])) hq
              · rw [if_neg hnm]; exact hq
      | _ => cases hq

theorem fieldAt_setFieldAt_append (j : Json) (p q : List String) (v : Json)
    (hp : j.objectsAlong p = true) : (j.setFieldAt p v).fieldAt (p ++ q) = v.fieldAt q := by
  induction p generalizing j with
  | nil => rfl
  | cons n p ih =>
      cases j with
      | obj ms =>
          simp only [List.cons_append, setFieldAt_cons, fieldAt_cons, field_setField, if_pos,
            ih _ hp]
      | _ => cases hp

theorem append_cons_ne_of_length_le {p q : List String} (h : q.length ≤ p.length) (x : String)
    (r : List String) : p ++ x :: r ≠ q := fun e => by
  have := congrArg List.length e
  simp only [List.length_append, List.length_cons] at this
  omega

/-- `j` with the field at the end of each selector replaced by `v`, in turn: what
`Ty.assignAll` gives when no pointer on the way is nil. -/
def setFieldsAt (j : Json) (paths : List (List String)) (v : Json) : Json :=
  paths.foldl (fun j p => j.setFieldAt p v) j

@[simp] theorem setFieldsAt_nil (j v : Json) : j.setFieldsAt [] v = j := rfl

@[simp] theorem setFieldsAt_cons (j : Json) (p : List String) (ps : List (List String)) (v : Json) :
    j.setFieldsAt (p :: ps) v = (j.setFieldAt p v).setFieldsAt ps v := rfl

theorem objectsAlong_setFieldsAt {paths : List (List String)} {q : List String}
    (hq : ∀ p ∈ paths, ∀ x r, p ++ x :: r ≠ q) {j : Json}
        (hj : j.objectsAlong q = true) (v : Json) :
    (j.setFieldsAt paths v).objectsAlong q = true := by
  induction paths generalizing j with
  | nil => exact hj
  | cons p ps ih =>
      exact ih (fun p' h => hq p' (.tail _ h)) (objectsAlong_setFieldAt _ _ _ _ (hq p (.head _)) hj)

theorem fieldAt_setFieldsAt_of_parts {paths : List (List String)} {q : List String}
    (hq : ∀ p ∈ paths, parts p q = true) (j v : Json) :
    (j.setFieldsAt paths v).fieldAt q = j.fieldAt q := by
  induction paths generalizing j with
  | nil => rfl
  | cons p ps ih =>
      rw [setFieldsAt_cons, ih (fun p' h => hq p' (.tail _ h)),
        fieldAt_setFieldAt_of_parts _ (hq p (.head _))]

theorem fieldAt_setFieldsAt_append {paths : List (List String)} {p : List String} (hp : p ∈ paths)
    (hparts : ∀ p' ∈ paths, p' = p ∨ parts p' p = true)
    (hlen : ∀ p' ∈ paths, ∀ q ∈ paths, q.length ≤ p'.length) {j : Json}
    (hj : ∀ p' ∈ paths, j.objectsAlong p' = true) (v : Json) (r : List String) :
    (j.setFieldsAt paths v).fieldAt (p ++ r) = v.fieldAt r := by
  induction paths generalizing j with
  | nil => cases hp
  | cons p₀ ps ih =>
      rw [setFieldsAt_cons]
      by_cases h : p ∈ ps
      · exact ih h (fun p' h' => hparts p' (.tail _ h'))
          (fun p' h' q hq => hlen p' (.tail _ h') q (.tail _ hq)) fun p' h' =>
            objectsAlong_setFieldAt _ _ _ _
              (append_cons_ne_of_length_le (hlen p₀ (.head _) p' (.tail _ h'))) (hj p' (.tail _ h'))
      · obtain rfl : p = p₀ := (List.mem_cons.mp hp).resolve_right h
        rw [fieldAt_setFieldsAt_of_parts (fun p' h' => ?_),
            fieldAt_setFieldAt_append _ _ _ _ (hj p (.head _))]
        rcases hparts p' (.tail _ h') with rfl | hp'
        · exact absurd h' h
        · simpa using parts_append hp' [] r

end Json

namespace Ty

theorem fieldsPathTy_eq_some {fs : List (String × Bool × Ty)} {name : String} {path : List String}
    {t' : Ty} (h : fieldsPathTy fs name path = some t') :
    ∃ f ∈ fs, f.1 = name ∧ f.2.2.pathTy path = some t' ∧
      (∀ y, readField fs name path y = f.2.2.read path y) ∧
      ∀ v y, assignField fs name path v y = f.2.2.assign path v y := by
  induction fs with
  | nil => cases h
  | cons f fs ih =>
      obtain ⟨n, om, t⟩ := f
      by_cases hn : n = name
      · rw [fieldsPathTy_cons, if_pos hn] at h
        exact ⟨_, .head _, hn, h, fun y => by rw [readField_cons, if_pos hn],
          fun v y => by rw [assignField_cons, if_pos hn]⟩
      · rw [fieldsPathTy_cons, if_neg hn] at h
        obtain ⟨f, hf, rest⟩ := ih h
        exact ⟨f, .tail _ hf, rest.1, rest.2.1,
            fun y => by rw [readField_cons, if_neg hn, rest.2.2.1],
          fun v y => by rw [assignField_cons, if_neg hn, rest.2.2.2]⟩

theorem assign_of_read (t : Ty) :
    ∀ {path : List String} {t' : Ty} {x y : Json}, t.pathTy path = some t' → t.read path x = .ok y →
      y = x.fieldAt path ∧ ∀ v, t.assign path v x = .ok (x.setFieldAt path v) := by
  induction t using Ty.induction with
  | bool | int | string | raw | map | slice _ _ =>
      intro path t' x y hp hr
      cases path with
      | nil => cases hr; exact ⟨rfl, fun _ => rfl⟩
      | cons _ _ => cases hp
  | ptr t ih =>
      intro path t' x y hp hr
      cases path with
      | nil => cases hr; exact ⟨rfl, fun _ => rfl⟩
      | cons n p =>
          by_cases hx : x = .null
          · rw [read_ptr_cons, if_pos hx] at hr; cases hr
          · rw [read_ptr_cons, if_neg hx] at hr
            obtain ⟨hy, hv⟩ := ih hp hr
            exact ⟨hy, fun v => by rw [assign_ptr_cons, if_neg hx]; exact hv v⟩
  | struct fs ih =>
      intro path t' x y hp hr
      cases path with
      | nil => cases hr; exact ⟨rfl, fun _ => rfl⟩
      | cons n p =>
          obtain ⟨f, hf, rfl, hpf, hread, hassign⟩ := fieldsPathTy_eq_some hp
          rw [read_struct_cons, hread] at hr
          obtain ⟨hy, hv⟩ := ih f hf hpf hr
          refine ⟨hy, fun v => ?_⟩
          rw [assign_struct_cons, hassign, hv]
          rfl

theorem read_of_objectsAlong (t : Ty) :
    ∀ {path : List String} {t' : Ty} {x : Json}, t.pathTy path = some t' →
      x.objectsAlong path = true → t.read path x = .ok (x.fieldAt path) := by
  induction t using Ty.induction with
  | bool | int | string | raw | map | slice _ _ =>
      intro path t' x hp _
      cases path with
      | nil => rfl
      | cons _ _ => cases hp
  | ptr t ih =>
      intro path t' x hp hx
      cases path with
      | nil => rfl
      | cons n p =>
          have hx0 : x ≠ .null := by rintro rfl; cases hx
          rw [read_ptr_cons, if_neg hx0]
          exact ih hp hx
  | struct fs ih =>
      intro path t' x hp hx
      cases path with
      | nil => rfl
      | cons n p =>
          obtain ⟨f, hf, rfl, hpf, hread, -⟩ := fieldsPathTy_eq_some hp
          cases x with
          | obj ms => rw [read_struct_cons, hread]; exact ih f hf hpf hx
          | _ => cases hx

theorem assign_of_objectsAlong (t : Ty) {path : List String} {t' : Ty} {x : Json}
    (hp : t.pathTy path = some t') (hx : x.objectsAlong path = true) (v : Json) :
    t.assign path v x = .ok (x.setFieldAt path v) :=
  (assign_of_read t hp (read_of_objectsAlong t hp hx)).2 v

theorem assignAll_eq_ok (t : Ty) {paths : List (List String)}
    (hp : ∀ p ∈ paths, ∃ t', t.pathTy p = some t')
    (hlen : ∀ p ∈ paths, ∀ q ∈ paths, q.length ≤ p.length) {x : Json}
    (hx : ∀ p ∈ paths, x.objectsAlong p = true) (v : Json) :
    t.assignAll paths v x = .ok (x.setFieldsAt paths v) := by
  induction paths generalizing x with
  | nil => rfl
  | cons p ps ih =>
      obtain ⟨t', ht⟩ := hp p (.head _)
      rw [assignAll, List.foldlM_cons, assign_of_objectsAlong t ht (hx p (.head _))]
      exact ih (fun q h => hp q (.tail _ h)) (fun q h q' h' => hlen q (.tail _ h) q' (.tail _ h'))
        fun q h => Json.objectsAlong_setFieldAt _ _ _ _
          (Json.append_cons_ne_of_length_le (hlen p (.head _) q (.tail _ h))) (hx q (.tail _ h))

mutual
/-- The type behind the last field of a selector whose fields are pointers or structs and whose
last field is a pointer: the selectors along which `omitempty` drops only nil pointers. -/
def ptrPath : Ty → List String → Option Ty
  | .ptr t, [] => some t
  | .ptr t, name :: path => ptrPath t (name :: path)
  | .struct fs, name :: path => fieldsPtrPath fs name path
  | _, _ => none

def fieldsPtrPath : List (String × Bool × Ty) → String → List String → Option Ty
  | [], _, _ => none
  | (n, _, t) :: fs, name, path => if n = name then ptrPath t path else fieldsPtrPath fs name path
end

theorem fieldsPtrPath_eq_some {fs : List (String × Bool × Ty)} {name : String} {path : List String}
    {t' : Ty} (h : fieldsPtrPath fs name path = some t') :
    ∃ f ∈ fs, f.1 = name ∧ f.2.2.ptrPath path = some t' := by
  induction fs with
  | nil => cases h
  | cons f fs ih =>
      obtain ⟨n, om, t⟩ := f
      by_cases hn : n = name
      · simp only [fieldsPtrPath, if_pos hn] at h
        exact ⟨_, .head _, hn, h⟩
      · simp only [fieldsPtrPath, if_neg hn] at h
        obtain ⟨f, hf, rest⟩ := ih h
        exact ⟨f, .tail _ hf, rest⟩

theorem eq_null_of_ptrPath {t : Ty} {path : List String} {t' : Ty} (hp : t.ptrPath path = some t')
    {v : Json} (he : t.isEmpty v = true) : v = .null := by
  cases t with
  | ptr t => exact beq_iff_eq.mp he
  | struct fs => cases he
  | _ => cases hp

theorem encode_fieldAt (t : Ty) (hd : t.distinct = true) :
    ∀ {path : List String} {t' : Ty}, t.ptrPath path = some t' →
      ∀ v, (t.encode v).fieldAt path = (Ty.ptr t').encode (v.fieldAt path) := by
  induction t using Ty.induction with
  | bool | int | string | raw | map | slice _ _ => intro path t' hp; cases hp
  | ptr t ih =>
      intro path t' hp v
      cases path with
      | nil => cases hp; rfl
      | cons n p =>
          by_cases hv : v = .null
          · subst hv
            show (Json.null.field n).fieldAt p = (Ty.ptr t').encode ((Json.null.field n).fieldAt p)
            rw [show Json.null.field n = .null from rfl, Json.null_fieldAt]
            rfl
          · rw [encode_ptr_of_ne_null t hv]; exact ih hd hp v
  | struct fs ih =>
      intro path t' hp v
      cases path with
      | nil => cases hp
      | cons n p =>
          obtain ⟨f, hf, rfl, hpf⟩ := fieldsPtrPath_eq_some hp
          have hd' := (distinct_struct_iff fs).mp hd
          rw [Json.fieldAt_cons, field_encode_struct hd'.1 hf, Json.fieldAt_cons]
          split
          · rename_i he
            rw [eq_null_of_ptrPath hpf ((Bool.and_eq_true _ _).mp he).2]
            simp only [Json.null_fieldAt]; rfl
          · exact ih f hf (hd'.2 f hf) hpf _

/-- What `json.Marshal` writes for an `omitempty` field holding `v`; `null` stands for the
dropped member. -/
def encodeOmitEmpty (t : Ty) (v : Json) : Json := if t.isEmpty v then .null else t.encode v

theorem distinct_of_ptrPath (t : Ty) (hd : t.distinct = true) :
    ∀ {path : List String} {t' : Ty}, t.ptrPath path = some t' → t'.distinct = true := by
  induction t using Ty.induction with
  | bool | int | string | raw | map | slice _ _ => intro path t' hp; cases hp
  | ptr t ih =>
      intro path t' hp
      cases path with
      | nil => cases hp; exact hd
      | cons n p => exact ih hd hp
  | struct fs ih =>
      intro path t' hp
      cases path with
      | nil => cases hp
      | cons n p =>
          obtain ⟨f, hf, -, hpf⟩ := fieldsPtrPath_eq_some hp
          exact ih f hf (((distinct_struct_iff fs).mp hd).2 f hf) hpf

theorem isEmpty_of_ptrPath {t : Ty} {p : List String} {t' : Ty}
    (hp : t.ptrPath p = some t') {v : Json}
    (hv : v ≠ .null) : t.isEmpty v = false := by
  cases t with
  | ptr t => exact beq_eq_false_iff_ne.mpr hv
  | struct fs => rfl
  | _ => cases hp

theorem encode_ne_null_of_ptrPath : ∀ {t : Ty} {n : String} {p : List String} {t' : Ty},
    t.ptrPath (n :: p) = some t' → ∀ {d : Json}, d ≠ .null → t.encode d ≠ .null
  | .ptr t, _, _, _, hp, _, hd => by
      rw [encode_ptr_of_ne_null t hd]
      exact @encode_ne_null_of_ptrPath t _ _ _ hp _ hd
  | .struct _, _, _, _, _, _, _ => fun h => by cases h
  | .bool, _, _, _, hp, _, _ | .int, _, _, _, hp, _, _ | .string, _, _, _, hp, _, _
  | .raw, _, _, _, hp, _, _ | .map, _, _, _, hp, _, _ | .slice _, _, _, _, hp, _, _ => by cases hp

theorem encode_fieldAt_omitEmpty (t : Ty) (hd : t.distinct = true) {path : List String}
    {gs : List (String × Bool × Ty)} (hp : t.ptrPath path = some (.struct gs))
        {m : String} {tm : Ty}
    (hm : (m, true, tm) ∈ gs) (hnull : tm.isEmpty .null = true) (v : Json) :
    (t.encode v).fieldAt (path ++ [m]) = tm.encodeOmitEmpty (v.fieldAt (path ++ [m])) := by
  rw [Json.fieldAt_append, Json.fieldAt_append, encode_fieldAt t hd hp v]
  by_cases hv : v.fieldAt path = .null
  · rw [hv, Json.null_fieldAt, encodeOmitEmpty, if_pos hnull]
    rfl
  · rw [encode_ptr_of_ne_null _ hv]
    exact field_encode_struct ((distinct_struct_iff gs).mp (distinct_of_ptrPath t hd hp)).1 hm _

theorem encodeOmitEmpty_of_decode (t : Ty) (hd : t.distinct = true) {a w : Json}
    (ha : t.typed a = true)
    (h : t.decode (t.encodeOmitEmpty a) = some w) : t.encodeOmitEmpty w = t.encodeOmitEmpty a := by
  unfold encodeOmitEmpty at h ⊢
  by_cases he : t.isEmpty a = true
  · rw [if_pos he, decode_null, Option.some.injEq] at h
    subst h
    rw [if_pos he, if_pos (isEmpty_zero t he)]
  · rw [if_neg he] at h ⊢
    have hw := encode_of_decode_encode t hd ha h
    rw [isEmpty_congr t (typed_of_decode t hd h) ha hw, if_neg he, hw]

theorem decode_merge_fieldAt (t : Ty) (hd : t.distinct = true) :
    ∀ {path : List String} {gs : List (String × Bool × Ty)}, t.ptrPath path = some (.struct gs) →
      ∀ {m : String} {tm : Ty}, (m, true, tm) ∈ gs → ∀ {x d u : Json},
        d.objectsAlong (path ++ [m]) = true → tm.isEmpty (d.fieldAt (path ++ [m])) = true →
        t.decode (merge x (t.encode d)) = some u →
        tm.decode (x.fieldAt (path ++ [m])) = some (u.fieldAt (path ++ [m])) := by
  induction t using Ty.induction with
  | bool | int | string | raw | map | slice _ _ => intro path gs hp; cases hp
  | ptr t ih =>
      intro path gs hp m tm hm x d u hdo he h
      have hd0 : d ≠ .null := by rintro rfl; cases path <;> cases hdo
      cases path with
      | nil =>
          cases hp
          have h' := decode_merge_ptr _
            (by rw [encode_ptr_of_ne_null _ hd0]; exact fun h => by cases h) h
          have := decode_merge_field ((distinct_struct_iff gs).mp hd).1 hm h'
          rwa [if_pos (by exact he)] at this
      | cons n p =>
          exact ih hd hp hm hdo he (decode_merge_ptr _ (encode_ne_null_of_ptrPath hp hd0) h)
  | struct fs ih =>
      intro path gs hp m tm hm x d u hdo he h
      cases path with
      | nil => cases hp
      | cons n p =>
          obtain ⟨f, hf, rfl, hpf⟩ := fieldsPtrPath_eq_some hp
          have hd' := (distinct_struct_iff fs).mp hd
          cases d with
          | obj ms =>
              have hne : (Json.obj ms).field f.1 ≠ .null := by
                intro h0
                change ((Json.obj ms).field f.1).objectsAlong (p ++ [m]) = true at hdo
                rw [h0] at hdo
                cases p <;> cases hdo
              have hw : (f.2.1 && f.2.2.isEmpty ((Json.obj ms).field f.1)) = false := by
                rw [isEmpty_of_ptrPath hpf hne, Bool.and_false]
              exact ih f hf (hd'.2 f hf) hpf hm hdo he (decode_merge_written hd'.1 hf hw h)
          | _ => cases hdo


end Ty

end StrimziTransport
