import StrimziTransport.FieldPath
import StrimziTransport.HubAnnotations

/-!
`ApplyConfigMap` and `ApplySecret` of `utils.go`: one reconciler, with the object's type, its
kind and the noun of its error texts as parameters. It reads the object stored under the
required one's namespace and name, creates the required object when there is none, and
otherwise gives the stored object the required `Data` and writes it back when
`reflect.DeepEqual` tells the two maps apart. It reports whether it wrote. A `Get` that fails
other than with NotFound, which includes a stored object the client cannot decode, is reported
as no write and no error. The `corev1` types are not in the sources: each lists the members of
its struct, with `TypeMeta` and the metadata members no modelled code reads left out.

What follows from the reconciler's shape: one run settles the object, so that the next run only
reads, exactly when the required data is nil or a non-empty map. A non-nil empty map is left
out of the encoding (`omitempty`) and read back as nil, which `DeepEqual` tells from the empty
map: every later run writes again and reports a change.
-/

namespace StrimziTransport

def configMapKind : String := "ConfigMap"

def secretKind : String := "Secret"

/-- `corev1.ConfigMap`. -/
def configMapTy : Ty :=
  .struct [("metadata", true, objectMetaTy), ("immutable", true, .ptr .bool), ("data", true, .map),
    ("binaryData", true, .map)]

/-- `corev1.Secret`; a `[]byte` value is held as its base64 text. -/
def secretTy : Ty :=
  .struct [("metadata", true, objectMetaTy), ("immutable", true, .ptr .bool), ("data", true, .map),
    ("stringData", true, .map), ("type", true, .string)]

/-- `GetNamespace`. -/
def getNamespace (obj : Json) : String := ((obj.field "metadata").field "namespace").asStr

def applyError (verb noun ns name reason : String) : String :=
  s!"failed to {verb} {noun}, namespace: {ns}, name: {name}, error:{reason}"

section Apply
variable (ty : Ty) (kind noun : String)

/-- What the reconciler does with the object it read: `current.Data = required.Data` and the
`Update`, unless `DeepEqual` finds the two maps alike. -/
def updateData (required : Json) (resourceVersion : Nat) (current : Json) : Prog
    (Bool × Option String) :=
  if Json.deepEqual (current.field "data") (required.field "data") then .pure (false, none)
  else
    .update kind (getNamespace required) (getName required) resourceVersion
      (ty.encode (current.setField "data" (required.field "data"))) fun
      | .ok () => .pure (true, none)
      | .error e =>
          .pure (false, some (applyError "update" noun (getNamespace required) (getName required)
            e.reason))

def applyData (required : Json) : Prog (Bool × Option String) :=
  .get kind (getNamespace required) (getName required) fun
    | .error .notFound =>
        .create kind (getNamespace required) (getName required) (ty.encode required) fun
          | .ok () => .pure (true, none)
          | .error e =>
              .pure (false, some (applyError "create" noun (getNamespace required)
                  (getName required) e.reason))
    | .error _ => .pure (false, none)
    | .ok (resourceVersion, body) =>
        match ty.decode body with
        | none => .pure (false, none)
        | some current => updateData ty kind noun required resourceVersion current

end Apply

def applyConfigMap (required : Json) : Prog (Bool × Option String) :=
  applyData configMapTy configMapKind "alert configmap" required

def applySecret (required : Json) : Prog (Bool × Option String) :=
  applyData secretTy secretKind "secret" required

section Runs
variable (ty : Ty) (kind noun : String) (required : Json) {s : Store}

theorem applyData_run_of_none
    (h : s.objects kind (getNamespace required) (getName required) = none) :
    (applyData ty kind noun required).run s =
      ⟨(true, none), s.write kind (getNamespace required) (getName required) (ty.encode required),
        [.get kind (getNamespace required) (getName required),
            .create kind (getNamespace required) (getName required)]⟩ := by
  rw [applyData, Prog.run_get, Store.get_of_none h]
  simp only [Prog.run_create, Store.create_of_none _ h, Prog.run_pure]

theorem applyData_run_of_unchanged {v : Nat} {b : Json}
    (h : s.objects kind (getNamespace required) (getName required) = some (v, b))
    (hb : ∀ current, ty.decode b = some current →
      Json.deepEqual (current.field "data") (required.field "data") = true) :
    (applyData ty kind noun required).run s =
      ⟨(false, none), s, [.get kind (getNamespace required) (getName required)]⟩ := by
  rw [applyData, Prog.run_get, Store.get_of_some h]
  dsimp only
  cases hd : ty.decode b with
  | none => rfl
  | some current => simp only [updateData, if_pos (hb current hd), Prog.run_pure]

theorem applyData_run_of_differs {v : Nat} {b current : Json}
    (h : s.objects kind (getNamespace required) (getName required) = some (v, b))
    (hb : ty.decode b = some current)
    (hne : Json.deepEqual (current.field "data") (required.field "data") = false) :
    (applyData ty kind noun required).run s =
      ⟨(true, none), s.write kind (getNamespace required) (getName required)
          (ty.encode (current.setField "data" (required.field "data"))),
        [.get kind (getNamespace required) (getName required),
            .update kind (getNamespace required) (getName required)]⟩ := by
  rw [applyData, Prog.run_get, Store.get_of_some h]
  simp only [hb, updateData, hne, Bool.false_eq_true, if_false, Prog.run_update,
      Store.update_of_version _ h,
    Prog.run_pure]

end Runs

/-- The types the reconciler is applied at: structs that name each field once and hold the data
map under `data`, left out when empty. -/
structure DataTy (ty : Ty) : Prop where
  distinct : ty.distinct = true
  fields : ∃ fs, ty = .struct fs ∧ ("data", true, Ty.map) ∈ fs

theorem configMapTy_dataTy : DataTy configMapTy :=
  ⟨by decide, _, rfl, .tail _ (.tail _ (.head _))⟩

theorem secretTy_dataTy : DataTy secretTy :=
  ⟨by decide, _, rfl, .tail _ (.tail _ (.head _))⟩

section ReadBack
variable {ty : Ty} (h : DataTy ty)
include h

theorem DataTy.field_data_of_decode_encode {x w : Json} (hw : ty.decode (ty.encode x) = some w) :
    w.field "data" = Ty.map.encodeOmitEmpty (x.field "data") := by
  obtain ⟨fs, rfl, hm⟩ := h.fields
  have hnd := ((Ty.distinct_struct_iff fs).mp h.distinct).1
  have hf := Ty.field_decode_struct hnd hw hm
  rw [Ty.field_encode_struct hnd hm] at hf
  unfold Ty.encodeOmitEmpty
  split at hf <;> rename_i he
  · rw [if_pos (by simpa using he)]
    exact (Option.some.inj hf).symm
  · rw [if_neg (by simpa using he)]
    generalize x.field "data" = d at hf
    cases d <;> exact (Option.some.inj hf).symm

theorem DataTy.decode_encode {x : Json} (hx : ty.typed x = true) :
    ∃ w, ty.decode (ty.encode x) = some w ∧ ty.typed w = true ∧ w.field "data" =
        Ty.map.encodeOmitEmpty (x.field "data") := by
  obtain ⟨w, hw, -⟩ := Ty.decode_encode ty h.distinct hx
  exact ⟨w, hw, Ty.typed_of_decode ty h.distinct hw, h.field_data_of_decode_encode hw⟩

theorem DataTy.typed_setField {x d : Json} (hx : ty.typed x = true) (hd : Ty.map.typed d = true) :
    ty.typed (x.setField "data" d) = true := by
  obtain ⟨fs, rfl, hm⟩ := h.fields
  obtain ⟨⟨ms, rfl⟩, -⟩ := (Ty.typed_struct_iff fs _).mp hx
  exact Ty.typed_setField ((Ty.distinct_struct_iff fs).mp h.distinct).1 hm hx hd

theorem DataTy.typed_data {x : Json} (hx : ty.typed x = true) : Ty.map.typed
    (x.field "data") = true := by
  obtain ⟨fs, rfl, hm⟩ := h.fields
  exact ((Ty.typed_struct_iff fs _).mp hx).2 _ hm

theorem DataTy.field_setField_data {x : Json} (hx : ty.typed x = true) (d : Json) :
    (x.setField "data" d).field "data" = d := by
  obtain ⟨fs, rfl, -⟩ := h.fields
  obtain ⟨⟨ms, rfl⟩, -⟩ := (Ty.typed_struct_iff fs _).mp hx
  rw [Json.field_setField, if_pos rfl]

end ReadBack

/-- The data maps `DeepEqual` finds alike to their read-back: nil, and non-empty maps with
distinct keys and string values. -/
def Settles (data : Json) : Prop := data = .null ∨ ∃ ms, data = .obj ms ∧ ms ≠ [] ∧ StringMap ms

theorem deepEqual_encodeOmitEmpty {data : Json} (h : Settles data) :
    Json.deepEqual (Ty.map.encodeOmitEmpty data) data = true := by
  rcases h with rfl | ⟨ms, rfl, hne, hm⟩
  · rfl
  · have hms : Ty.map.isEmpty (.obj ms) = false := by simpa [Ty.isEmpty] using hne
    rw [Ty.encodeOmitEmpty, hms, if_neg Bool.false_ne_true]
    exact (deepEqual_obj_iff hm hm).mpr fun _ => rfl

theorem deepEqual_encodeOmitEmpty_empty {data : Json} (h : Ty.map.typed data = true) :
    Json.deepEqual (Ty.map.encodeOmitEmpty data) (.obj []) = false := by
  cases data with
  | null => rfl
  | obj ms => cases ms <;> rfl
  | _ => cases h

/-- The required object's key holding what the client writes: the encoding of a typed value. -/
def HeldEncoded (ty : Ty) (kind : String) (required : Json) (s : Store) : Prop :=
  ∃ v x, ty.typed x = true ∧ s.objects kind (getNamespace required) (getName required) =
      some (v, ty.encode x)

section Settle
variable {ty : Ty} (h : DataTy ty) (kind noun : String) {required : Json}
include h

theorem applyData_run_cases (hr : ty.typed required = true) (s : Store) :
    (applyData ty kind noun required).run s =
        ⟨(false, none), s, [.get kind (getNamespace required) (getName required)]⟩ ∨
      ((applyData ty kind noun required).run s).result = (true, none) ∧ ∃ x, ty.typed x = true ∧
        x.field "data" = required.field "data" ∧
        ((applyData ty kind noun required).run s).store =
          s.write kind (getNamespace required) (getName required) (ty.encode x) := by
  cases hs : s.objects kind (getNamespace required) (getName required) with
  | none =>
      rw [applyData_run_of_none ty kind noun required hs]
      exact .inr ⟨rfl, required, hr, rfl, rfl⟩
  | some o =>
      obtain ⟨v, b⟩ := o
      by_cases hb : ∀ current, ty.decode b = some current →
          Json.deepEqual (current.field "data") (required.field "data") = true
      · exact .inl (applyData_run_of_unchanged ty kind noun required hs hb)
      · push_neg at hb
        obtain ⟨current, hc, hne⟩ := hb
        rw [applyData_run_of_differs ty kind noun required hs hc (Bool.eq_false_iff.mpr hne)]
        have hcur := Ty.typed_of_decode ty h.distinct hc
        exact .inr ⟨rfl, _, h.typed_setField hcur (h.typed_data hr),
            h.field_setField_data hcur _, rfl⟩

theorem applyData_run_of_encoded {s : Store} {v : Nat} {x : Json}
    (hs : s.objects kind (getNamespace required) (getName required) = some (v, ty.encode x))
    (hdata : Json.deepEqual (Ty.map.encodeOmitEmpty (x.field "data"))
        (required.field "data") = true) :
    (applyData ty kind noun required).run s =
      ⟨(false, none), s, [.get kind (getNamespace required) (getName required)]⟩ :=
  applyData_run_of_unchanged ty kind noun required hs fun current hc => by
    rwa [h.field_data_of_decode_encode hc]

theorem applyData_settles (hr : ty.typed required = true)
    (hs : Settles (required.field "data")) (s : Store) :
    (applyData ty kind noun required).run ((applyData ty kind noun required).run s).store =
      ⟨(false, none), ((applyData ty kind noun required).run s).store,
        [.get kind (getNamespace required) (getName required)]⟩ := by
  rcases applyData_run_cases h kind noun hr s with hrun | ⟨-, x, -, hxd, hst⟩
  · rw [hrun]; exact hrun
  · rw [hst]
    exact applyData_run_of_encoded h kind noun (Store.write_objects_self ..)
      (by rw [hxd]; exact deepEqual_encodeOmitEmpty hs)

theorem applyData_run_of_empty (hd : required.field "data" = .obj []) {s : Store}
    (hs : HeldEncoded ty kind required s) :
    ((applyData ty kind noun required).run s).result = (true, none) ∧
      ((applyData ty kind noun required).run s).calls =
        [.get kind (getNamespace required) (getName required),
            .update kind (getNamespace required) (getName required)] ∧
      HeldEncoded ty kind required ((applyData ty kind noun required).run s).store := by
  obtain ⟨v, x, hx, hsx⟩ := hs
  obtain ⟨w, hw, hwt, hwd⟩ := h.decode_encode hx
  have hne : Json.deepEqual (w.field "data") (required.field "data") = false := by
    rw [hwd, hd]; exact deepEqual_encodeOmitEmpty_empty (h.typed_data hx)
  rw [applyData_run_of_differs ty kind noun required hsx hw hne]
  refine ⟨rfl, rfl, _, _, h.typed_setField hwt ?_, Store.write_objects_self ..⟩
  rw [hd]; rfl

theorem applyData_never_settles (hr : ty.typed required = true)
    (hd : required.field "data" = .obj [])
    {s : Store} (hs : s.objects kind (getNamespace required) (getName required) = none ∨
      HeldEncoded ty kind required s) (n : Nat) :
    ((applyData ty kind noun required).run
        ((applyData ty kind noun required).rerun (n + 1) s)).result = (true, none) ∧
      ((applyData ty kind noun required).run
          ((applyData ty kind noun required).rerun (n + 1) s)).calls =
        [.get kind (getNamespace required) (getName required),
            .update kind (getNamespace required) (getName required)] := by
  have step : ∀ s : Store, s.objects kind (getNamespace required) (getName required) = none ∨
      HeldEncoded ty kind required s →
      HeldEncoded ty kind required ((applyData ty kind noun required).run s).store := by
    rintro s (hs | hs)
    · rw [applyData_run_of_none ty kind noun required hs]
      exact ⟨_, required, hr, Store.write_objects_self ..⟩
    · exact (applyData_run_of_empty h kind noun hd hs).2.2
  have held := step _ (Prog.rerun_invariant _ (P := fun s =>
    s.objects kind (getNamespace required) (getName required) = none ∨
        HeldEncoded ty kind required s)
    (fun s hs => .inr (step s hs)) hs n)
  rw [← Prog.rerun_succ] at held
  exact ⟨(applyData_run_of_empty h kind noun hd held).1,
      (applyData_run_of_empty h kind noun hd held).2.1⟩

end Settle

section Members

/-- The store holds no immutable object under the required object's key. The API server refuses
to change the data of an immutable ConfigMap or Secret, which the store does not do. -/
def NotImmutable (kind : String) (required : Json) (s : Store) : Prop :=
  ∀ v b, s.objects kind (getNamespace required) (getName required) = some (v, b) →
    b.field "immutable" ≠ .bool true

/-- `ApplyConfigMap` and `ApplySecret` settle a required object whose data is nil or a non-empty
map: from every store, the run after the first reads the object and does nothing else, and
reports no change and no error. The API server merges a Secret's `stringData` into its `data`,
and refuses data changes of immutable objects, neither of which the store does: the statement
keeps to required Secrets without `stringData`, and to stores with no immutable object there. -/
theorem applyConfigMap_applySecret_settle (required : Json) (hs : Settles (required.field "data"))
    (s : Store) :
    (configMapTy.typed required = true → NotImmutable configMapKind required s →
      (applyConfigMap required).run ((applyConfigMap required).run s).store =
        ⟨(false, none), ((applyConfigMap required).run s).store,
          [.get configMapKind (getNamespace required) (getName required)]⟩) ∧
    (secretTy.typed required = true → required.field "stringData" = .null →
      NotImmutable secretKind required s →
      (applySecret required).run ((applySecret required).run s).store =
        ⟨(false, none), ((applySecret required).run s).store,
          [.get secretKind (getNamespace required) (getName required)]⟩) :=
  ⟨fun hr _ => applyData_settles configMapTy_dataTy _ _ hr hs s,
    fun hr _ _ => applyData_settles secretTy_dataTy _ _ hr hs s⟩

theorem applyConfigMap_applySecret_settle_alerts :
    let required : Json := .obj [("metadata",
        .obj [("name", .str "alerts"), ("namespace", .str "mgh")]),
      ("data", .obj [("alerting.yaml", .str "groups: []")]), ("type", .str "Opaque")]
    Settles (required.field "data") ∧ configMapTy.typed required = true ∧
        secretTy.typed required = true ∧
      required.field "stringData" = .null ∧ NotImmutable configMapKind required Store.empty ∧
      NotImmutable secretKind required Store.empty ∧
      (applyConfigMap required).run ((applyConfigMap required).run Store.empty).store =
        ⟨(false, none), ((applyConfigMap required).run Store.empty).store,
            [.get configMapKind "mgh" "alerts"]⟩ ∧
      (applySecret required).run ((applySecret required).run Store.empty).store =
        ⟨(false, none), ((applySecret required).run Store.empty).store,
            [.get secretKind "mgh" "alerts"]⟩ := by
  intro required
  have hs : Settles (required.field "data") :=
    .inr ⟨_, rfl, List.cons_ne_nil _ _, ⟨by decide,
        fun m hm => by rw [List.mem_singleton.mp hm]; exact ⟨_, rfl⟩⟩⟩
  have hc : configMapTy.typed required = true := by decide
  have hsec : secretTy.typed required = true := by decide
  have hi : ∀ kind, NotImmutable kind required Store.empty := fun _ _ _ h => nomatch h
  exact ⟨hs, hc, hsec, rfl, hi _, hi _,
    (applyConfigMap_applySecret_settle required hs Store.empty).1 hc (hi _),
    (applyConfigMap_applySecret_settle required hs Store.empty).2 hsec rfl (hi _)⟩

/-- `ApplyConfigMap` and `ApplySecret` never settle a required object whose data is a non-nil
empty map: from a store where the object is missing or stored as the client writes it, every run
after the first issues an Update and reports a change. The API server refuses data changes of
immutable objects, which the store does not do: the statement keeps to a required object that is
not immutable, and to a store with no immutable object there. -/
theorem applyConfigMap_applySecret_rewrite_empty_data (required : Json)
    (hd : required.field "data" = .obj [])
    (n : Nat) :
    (configMapTy.typed required = true → required.field "immutable" ≠ .bool true → ∀ s : Store,
      s.objects configMapKind (getNamespace required) (getName required) = none ∨
        HeldEncoded configMapTy configMapKind required s →
      NotImmutable configMapKind required s →
      ((applyConfigMap required).run ((applyConfigMap required).rerun (n + 1) s)).result =
          (true, none) ∧
        ((applyConfigMap required).run ((applyConfigMap required).rerun (n + 1) s)).calls =
          [.get configMapKind (getNamespace required) (getName required),
            .update configMapKind (getNamespace required) (getName required)]) ∧
    (secretTy.typed required = true → required.field "immutable" ≠ .bool true → ∀ s : Store,
      s.objects secretKind (getNamespace required) (getName required) = none ∨
        HeldEncoded secretTy secretKind required s →
      NotImmutable secretKind required s →
      ((applySecret required).run ((applySecret required).rerun (n + 1) s)).result = (true, none) ∧
        ((applySecret required).run ((applySecret required).rerun (n + 1) s)).calls =
          [.get secretKind (getNamespace required) (getName required),
            .update secretKind (getNamespace required) (getName required)]) :=
  ⟨fun hr _ _ hs _ => applyData_never_settles configMapTy_dataTy _ _ hr hd hs n,
    fun hr _ _ hs _ => applyData_never_settles secretTy_dataTy _ _ hr hd hs n⟩

theorem applyConfigMap_applySecret_rewrite_empty_alerts :
    let required : Json := .obj [("metadata",
        .obj [("name", .str "alerts"), ("namespace", .str "mgh")]),
      ("data", .obj []), ("type", .str "Opaque")]
    configMapTy.typed required = true ∧ secretTy.typed required = true ∧
      required.field "immutable" ≠ .bool true ∧ NotImmutable configMapKind required Store.empty ∧
      NotImmutable secretKind required Store.empty ∧
      ((applyConfigMap required).run ((applyConfigMap required).rerun 3 Store.empty)).result =
          (true, none) ∧
      ((applySecret required).run ((applySecret required).rerun 3 Store.empty)).result
          = (true, none) := by
  intro required
  have hc : configMapTy.typed required = true := by decide
  have hsec : secretTy.typed required = true := by decide
  have hm : required.field "immutable" ≠ .bool true := by decide
  have hi : ∀ kind, NotImmutable kind required Store.empty := fun _ _ _ h => nomatch h
  exact ⟨hc, hsec, hm, hi _, hi _,
    ((applyConfigMap_applySecret_rewrite_empty_data required rfl 2).1 hc hm Store.empty
        (.inl rfl) (hi _)).1,
    ((applyConfigMap_applySecret_rewrite_empty_data required rfl 2).2 hsec hm Store.empty
        (.inl rfl) (hi _)).1⟩

end Members

end StrimziTransport
