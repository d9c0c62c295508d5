import StrimziTransport.Transporter

/-!
The object store behind `runtimeClient`, and the reconcilers as the sequence of store calls
they make. Each call is atomic and answered before the next one is issued: `Get` returns
the stored body with its `resourceVersion`, `Create` fails when the name is taken, and
`Update` fails with a conflict when the object was written after the version it carries.
Objects are keyed by kind, namespace and name. A body is the JSON the client sends or
receives; an object's `resourceVersion` travels beside it (`MergeObjects` keeps the
existing object's, since the desired one leaves it empty). A reconciler runs alone with
`Prog.run`; several interleave call by call with `interleave`. `Delete` is a store call of its
own, made by `Prune` alone; the interleaved reconcilers make none.

What the API server adds to these rules is left out: an `Update` whose body equals the stored
one keeps its `resourceVersion`, a Secret's `stringData` is merged into its `data`, a data change
of an immutable ConfigMap or Secret is refused, and an object with finalizers is deleted only
once an `Update` removes the last of them. The results stated over the store keep clear of these
cases: they assume writes that change the object, no `stringData`, no stored immutable object,
and objects not being deleted.
-/

namespace StrimziTransport

/-- The `metav1.StatusReason` of an API error the reconcilers meet. -/
inductive ApiError where
  | notFound
  | alreadyExists
  | conflict
  deriving DecidableEq, Repr

def ApiError.reason : ApiError → String
  | .notFound => "NotFound"
  | .alreadyExists => "AlreadyExists"
  | .conflict => "Conflict"

/-- A reconciler: the store calls it makes, each followed by what it does with the reply.
A call names the object's kind, namespace and name. -/
inductive Prog (α : Type) where
  | pure (a : α)
  | get (kind ns name : String) (next : Except ApiError (Nat × Json) → Prog α)
  | create (kind ns name : String) (body : Json) (next : Except ApiError Unit → Prog α)
  | update (kind ns name : String) (resourceVersion : Nat) (body : Json)
      (next : Except ApiError Unit → Prog α)

/-- A call as the store sees it. -/
inductive Call where
  | get (kind ns name : String)
  | create (kind ns name : String)
  | update (kind ns name : String)
  | delete (kind ns name : String)
  deriving DecidableEq, Repr

/-- Each kind's objects by namespace and name, with the `resourceVersion` of their last
write, and the last version issued. -/
structure Store where
  objects : String → String → String → Option (Nat × Json)
  revision : Nat

namespace Store

def empty : Store := ⟨fun _ _ _ => none, 0⟩

section Calls
variable (s : Store) (kind ns name : String)

def get : Except ApiError (Nat × Json) :=
  match s.objects kind ns name with
  | some o => .ok o
  | none => .error .notFound

/-- `body` stored under its key at the next version. -/
def write (body : Json) : Store where
  objects k n m := if k = kind ∧ n = ns ∧ m =
      name then some (s.revision + 1, body) else s.objects k n m
  revision := s.revision + 1

def create (body : Json) : Except ApiError Unit × Store :=
  match s.objects kind ns name with
  | some _ => (.error .alreadyExists, s)
  | none => (.ok (), s.write kind ns name body)

def update (resourceVersion : Nat) (body : Json) : Except ApiError Unit × Store :=
  match s.objects kind ns name with
  | some (v, _) =>
      if v = resourceVersion then (.ok (), s.write kind ns name body) else (.error .conflict, s)
  | none => (.error .notFound, s)

/-- `Delete`: the object is removed, and a missing one is `NotFound`. -/
def delete : Except ApiError Unit × Store :=
  match s.objects kind ns name with
  | some _ =>
      (.ok (), { s with objects := fun k n m =>
        if k = kind ∧ n = ns ∧ m = name then none else s.objects k n m })
  | none => (.error .notFound, s)

@[simp] theorem write_objects (body : Json) (k n m : String) :
    (s.write kind ns name body).objects k n m =
      if k = kind ∧ n = ns ∧ m = name then some (s.revision + 1, body) else s.objects k n m :=
  rfl

theorem write_objects_self (body : Json) :
    (s.write kind ns name body).objects kind ns name = some (s.revision + 1, body) := by
  simp

theorem write_objects_of_ne {m : String} (h : m ≠ name) (body : Json) (k n : String) :
    (s.write kind ns name body).objects k n m = s.objects k n m := by
  simp [h]

end Calls

section Replies
variable {s : Store} {kind ns name : String}

theorem get_of_some {o : Nat × Json} (h : s.objects kind ns name = some o) :
    s.get kind ns name = .ok o := by
  simp [get, h]

theorem get_of_none (h : s.objects kind ns name = none) : s.get kind ns name =
    .error .notFound := by
  simp [get, h]

theorem get_eq_ok {o : Nat × Json} : s.get kind ns name = .ok o ↔
    s.objects kind ns name = some o := by
  unfold get
  split <;> simp_all

theorem get_eq_notFound : s.get kind ns name = .error .notFound ↔
    s.objects kind ns name = none := by
  unfold get
  split <;> simp_all

theorem create_of_none (body : Json) (h : s.objects kind ns name = none) :
    s.create kind ns name body = (.ok (), s.write kind ns name body) := by
  simp [create, h]

theorem create_of_some {o : Nat × Json} (body : Json) (h : s.objects kind ns name = some o) :
    s.create kind ns name body = (.error .alreadyExists, s) := by
  simp [create, h]

theorem update_of_version {v : Nat} {b : Json} (body : Json)
    (h : s.objects kind ns name = some (v, b)) :
    s.update kind ns name v body = (.ok (), s.write kind ns name body) := by
  simp [update, h]

theorem delete_of_none (h : s.objects kind ns name = none) : s.delete kind ns name =
    (.error .notFound, s) := by
  simp [delete, h]

end Replies

end Store

/-- A run of a reconciler: what it returned, the store it left and the calls it made. -/
structure Run (α : Type) where
  result : α
  store : Store
  calls : List Call

namespace Prog

/-- A reconciler run alone against the store. -/
def run {α : Type} : Prog α → Store → Run α
  | .pure a, s => ⟨a, s, []⟩
  | .get kind ns name next, s =>
      let r := (next (s.get kind ns name)).run s
      { r with calls := .get kind ns name :: r.calls }
  | .create kind ns name body next, s =>
      let r := (next (s.create kind ns name body).1).run (s.create kind ns name body).2
      { r with calls := .create kind ns name :: r.calls }
  | .update kind ns name v body next, s =>
      let r := (next (s.update kind ns name v body).1).run (s.update kind ns name v body).2
      { r with calls := .update kind ns name :: r.calls }

def step {α : Type} : Prog α → Store → Prog α × Store
  | .pure a, s => (.pure a, s)
  | .get kind ns name next, s => (next (s.get kind ns name), s)
  | .create kind ns name body next, s =>
      (next (s.create kind ns name body).1, (s.create kind ns name body).2)
  | .update kind ns name v body next, s =>
      (next (s.update kind ns name v body).1, (s.update kind ns name v body).2)

section RunLaws
variable {α : Type} (kind ns name : String) (s : Store)

@[simp] theorem run_pure (a : α) : (Prog.pure a).run s = ⟨a, s, []⟩ := rfl

@[simp] theorem run_get (next : Except ApiError (Nat × Json) → Prog α) :
    (Prog.get kind ns name next).run s =
      { (next (s.get kind ns name)).run s with
        calls := .get kind ns name :: ((next (s.get kind ns name)).run s).calls } := rfl

@[simp] theorem run_create (body : Json) (next : Except ApiError Unit → Prog α) :
    (Prog.create kind ns name body next).run s =
      { (next (s.create kind ns name body).1).run (s.create kind ns name body).2 with
        calls := .create kind ns name ::
          ((next (s.create kind ns name body).1).run (s.create kind ns name body).2).calls } := rfl

@[simp] theorem run_update (v : Nat) (body : Json) (next : Except ApiError Unit → Prog α) :
    (Prog.update kind ns name v body next).run s =
      { (next (s.update kind ns name v body).1).run (s.update kind ns name v body).2 with
        calls := .update kind ns name ::
          ((next (s.update kind ns name v body).1).run (s.update kind ns name v body).2).calls } :=
  rfl

end RunLaws

def result? {α : Type} : Prog α → Option α
  | .pure a => some a
  | _ => none

/-- The store a reconciler leaves after `n` runs in a row, each alone against the store the
one before left. -/
def rerun {α : Type} (p : Prog α) (n : Nat) (s : Store) : Store :=
  (fun s => (p.run s).store)^[n] s

section Reruns
variable {α : Type} (p : Prog α)

@[simp] theorem rerun_zero (s : Store) : p.rerun 0 s = s := rfl

theorem rerun_succ (n : Nat) (s : Store) : p.rerun (n + 1) s = (p.run (p.rerun n s)).store :=
  Function.iterate_succ_apply' _ n s

theorem rerun_invariant {P : Store → Prop} (hp : ∀ s, P s → P (p.run s).store)
    {s : Store} (hs : P s) :
    ∀ n, P (p.rerun n s)
  | 0 => hs
  | n + 1 => by rw [rerun_succ]; exact hp _ (rerun_invariant hp hs n)

end Reruns

end Prog

/-- Reconcilers interleaved call by call against one store: each entry of the schedule
lets the reconciler at that index make its next call. -/
def interleave {α : Type} : List Nat → List (Prog α) → Store → List (Prog α) × Store
  | [], ps, s => (ps, s)
  | i :: schedule, ps, s =>
      match ps[i]? with
      | some p => interleave schedule (ps.set i (p.step s).1) (p.step s).2
      | none => interleave schedule ps s

end StrimziTransport
