import StrimziTransport.FieldPath
import StrimziTransport.HubAnnotations

/-!
`RemoveManagedHubClusterFinalizer` of `utils.go`: the hub's cleanup finalizer is taken off every
managed cluster the hub lists but `local-cluster`, and a cluster is written back when
`controllerutil.RemoveFinalizer` reports that its finalizers changed. The body takes the address
of the listed item, so what it removes reaches the item that is written: unlike the annotation
loop, the run leaves no listed cluster with the finalizer, and a run over a fresh `List` of the
clusters it left writes nothing. Both loops are `updateListed` over their turn.
`controllerutil` is not in the sources: `RemoveFinalizer` is modelled as its documentation
states it, every occurrence of the finalizer dropped, the others kept in their order, and a
report of whether the list changed. `commonconstants.GlobalHubCleanupFinalizer` is a parameter.
-/

namespace StrimziTransport

/-- `GetFinalizers` and `SetFinalizers`. -/
def getFinalizers (o : Json) : List String :=
  ((o.field "metadata").field "finalizers").arrElems.map Json.asStr

def setFinalizers (o : Json) (finalizers : List String) : Json :=
  o.setField "metadata" ((o.field "metadata").setField "finalizers" (.arr (finalizers.map .str)))

def getDeletionTimestamp (o : Json) : Json := (o.field "metadata").field "deletionTimestamp"

/-- `controllerutil.RemoveFinalizer`: the object with every occurrence of the finalizer dropped,
and whether that shortened its finalizers. -/
def removeFinalizer (finalizer : String) (o : Json) : Json × Bool :=
  let f := getFinalizers o
  let kept := f.filter (· != finalizer)
  (setFinalizers o kept, f.length != kept.length)

/-- `RemoveManagedHubClusterFinalizer`, from the reply of its `List` call. -/
def removeManagedHubClusterFinalizer (cs : HubConstants) (finalizer : String) :
    Except ApiError (List (Nat × Json)) → Prog (Option String)
  | .error e => .pure (some e.reason)
  | .ok clusters =>
      updateListed managedClusterTy cs.localClusterName (removeFinalizer finalizer) clusters

section Finalizers

theorem finalizers_mem : ("finalizers", true, Ty.slice .string) ∈
    [("name", true, Ty.string), ("namespace", true, .string), ("labels", true, .map),
      ("annotations", true, .map), ("finalizers", true, .slice .string),
      ("deletionTimestamp", true, .ptr .string)] :=
  .tail _ (.tail _ (.tail _ (.tail _ (.head _))))

theorem strings_encode (j : Json) :
    ((Ty.slice .string).encodeOmitEmpty j).arrElems.map Json.asStr = j.arrElems.map Json.asStr := by
  cases j with
  | arr xs =>
      cases xs with
      | nil => rfl
      | cons x xs =>
          show (List.map (Ty.encode .string) (x :: xs)).map Json.asStr = (x :: xs).map Json.asStr
          rw [List.map_map]
          rfl
  | _ => rfl

theorem strings_of_decode {j w : Json} (h : (Ty.slice .string).decode j = some w) :
    w.arrElems.map Json.asStr = j.arrElems.map Json.asStr := by
  have hstr : ∀ {x y : Json}, Ty.string.decode x = some y → y.asStr = x.asStr := by
    intro x y hx
    cases x <;> cases hx <;> rfl
  cases j with
  | null => cases Option.some.inj h; rfl
  | arr xs =>
      obtain ⟨ys, hys, rfl⟩ := Option.map_eq_some'.mp h
      clear h
      show ys.map Json.asStr = xs.map Json.asStr
      induction xs generalizing ys with
      | nil => cases Option.some.inj hys; rfl
      | cons x xs ih =>
          rw [List.mapM_option_cons] at hys
          obtain ⟨y, hy, hys⟩ := Option.bind_eq_some.mp hys
          obtain ⟨ys', hys', e⟩ := Option.bind_eq_some.mp hys
          cases Option.some.inj e
          rw [List.map_cons, List.map_cons, hstr hy, ih ys' hys']
  | _ => cases h

theorem getFinalizers_encode (o : Json) :
    getFinalizers (managedClusterTy.encode o) = getFinalizers o := by
  unfold getFinalizers
  rw [show managedClusterTy = .struct _ from rfl,
    @Ty.field_encode_struct _ (by decide) ("metadata", true, managedClusterMetaTy)
        (List.mem_cons_self _ _) o]
  show ((Ty.encode (.struct _) (o.field "metadata")).field "finalizers").arrElems.map Json.asStr = _
  rw [@Ty.field_encode_struct _ (by decide) ("finalizers", true, .slice .string) finalizers_mem]
  exact strings_encode _

theorem getFinalizers_of_decode {b o : Json} (h : managedClusterTy.decode b = some o) :
    getFinalizers o = getFinalizers b :=
  strings_of_decode (Ty.field_decode_struct (by decide)
    (Ty.field_decode_struct (by decide) h (List.mem_cons_self _ _)) finalizers_mem)

theorem getFinalizers_setFinalizers {b o : Json} (h : managedClusterTy.decode b = some o)
    (finalizers : List String) : getFinalizers (setFinalizers o finalizers) = finalizers := by
  obtain ⟨ms, ys, -, rfl, -⟩ := Ty.decode_struct_eq_some h
  obtain ⟨ms', ys', -, hm, -⟩ :=
    Ty.decode_struct_eq_some (Ty.field_decode_struct (by decide) h (List.mem_cons_self _ _))
  unfold getFinalizers setFinalizers
  rw [Json.field_setField, if_pos rfl, show (Json.obj ys).field "metadata" = .obj ys' from hm,
    Json.field_setField, if_pos rfl]
  show (finalizers.map Json.str).map Json.asStr = finalizers
  rw [List.map_map]
  exact List.map_id _

theorem removeFinalizer_snd (finalizer : String) (o : Json) :
    (removeFinalizer finalizer o).2 = decide (finalizer ∈ getFinalizers o) := by
  show ((getFinalizers o).length != ((getFinalizers o).filter (· != finalizer)).length) = _
  by_cases hm : finalizer ∈ getFinalizers o
  · have hlt : ((getFinalizers o).filter (· != finalizer)).length < (getFinalizers o).length :=
      List.length_filter_lt_length_iff_exists.mpr ⟨finalizer, hm, by simp⟩
    rw [decide_eq_true hm, bne_iff_ne]
    omega
  · rw [decide_eq_false hm, List.filter_eq_self.mpr fun x hx =>
      bne_iff_ne.mpr fun (e : x = finalizer) => hm (e ▸ hx),
      bne_self_eq_false]

theorem writesBack_removeFinalizer (cs : HubConstants) (finalizer : String) (o : Json) :
    writesBack cs.localClusterName (removeFinalizer finalizer) o =
      (getName o != cs.localClusterName && decide (finalizer ∈ getFinalizers o)) := by
  rw [writesBack, removeFinalizer_snd]

end Finalizers

section Runs
variable (cs : HubConstants) (finalizer : String)

theorem getFinalizers_stored_of_run (clusters : List (Nat × Json)) {s : Store}
    (hl : Listed s clusters) {c : Nat × Json} (hc : c ∈ clusters)
    (hn : getName c.2 ≠ cs.localClusterName) :
    ∃ v b, ((removeManagedHubClusterFinalizer cs finalizer (.ok clusters)).run s).store.objects
        managedClusterKind "" (getName c.2) = some (v, b) ∧
      getFinalizers b = (getFinalizers c.2).filter (· != finalizer) := by
  have R := updateListed_run managedClusterTy cs.localClusterName (removeFinalizer finalizer)
    clusters (fun c hc => (hl.stored c hc).imp fun _ h => h.1) hl.nodup
  obtain ⟨b, hs, hb⟩ := hl.stored c hc
  cases hw : writesBack cs.localClusterName (removeFinalizer finalizer) c.2 with
  | true =>
      obtain ⟨v, hv⟩ := R.written c hc hw
      exact ⟨v, _, hv, by rw [getFinalizers_encode]; exact getFinalizers_setFinalizers hb _⟩
  | false =>
      have hm : finalizer ∉ getFinalizers c.2 := by
        simpa [writesBack_removeFinalizer, hn] using hw
      refine ⟨c.1, b, ?_, ?_⟩
      · rw [← hs]
        refine R.frame _ _ _ fun c' hc' hw' h => ?_
        rw [List.inj_on_of_nodup_map hl.nodup hc hc' h.2.2, hw'] at hw
        cases hw
      · rw [← getFinalizers_of_decode hb, List.filter_eq_self.mpr]
        intro x hx
        simpa using fun e : x = finalizer => hm (e ▸ hx)

/-- What the loop does: it returns nil after one Update per listed cluster but `local-cluster`
that carries the finalizer, in the listed order, and no other object changes. A cluster not being
deleted is written as listed with only its finalizers replaced, and stored without the finalizer
and with its other finalizers in their order. The API server removes a cluster being deleted once
its last finalizer is gone, which the store does not do, so those clusters are left out. -/
theorem removeManagedHubClusterFinalizer_strips_listed_hubs
    (clusters : List (Nat × Json)) {s : Store}
    (hl : Listed s clusters) :
    let r := (removeManagedHubClusterFinalizer cs finalizer (.ok clusters)).run s
    r.result = none ∧
      r.calls = (clusters.filter fun c =>
          getName c.2 != cs.localClusterName && decide (finalizer ∈ getFinalizers c.2)).map
        (fun c => .update managedClusterKind "" (getName c.2)) ∧
      (∀ c ∈ clusters, getName c.2 ≠ cs.localClusterName → finalizer ∈ getFinalizers c.2 →
        getDeletionTimestamp c.2 = .null →
        ∃ v, r.store.objects managedClusterKind "" (getName c.2) = some (v,
          managedClusterTy.encode (setFinalizers c.2
              ((getFinalizers c.2).filter (· != finalizer))))) ∧
      (∀ c ∈ clusters, getName c.2 ≠ cs.localClusterName → getDeletionTimestamp c.2 = .null →
        ∃ v b, r.store.objects managedClusterKind "" (getName c.2) = some (v, b) ∧
          getFinalizers b = (getFinalizers c.2).filter (· != finalizer)) ∧
      ∀ kind ns name, (∀ c ∈ clusters, getName c.2 ≠ cs.localClusterName →
          finalizer ∈ getFinalizers c.2 →
          ¬(kind = managedClusterKind ∧ ns = "" ∧ name = getName c.2)) →
        r.store.objects kind ns name = s.objects kind ns name := by
  have R := updateListed_run managedClusterTy cs.localClusterName (removeFinalizer finalizer)
    clusters (fun c hc => (hl.stored c hc).imp fun _ h => h.1) hl.nodup
  have hw : ∀ o, writesBack cs.localClusterName (removeFinalizer finalizer) o = true ↔
      getName o ≠ cs.localClusterName ∧ finalizer ∈ getFinalizers o := by
    intro o; simp [writesBack_removeFinalizer]
  refine ⟨R.result, ?_, fun c hc hn hm _ => R.written c hc ((hw c.2).mpr ⟨hn, hm⟩),
    fun c hc hn _ => getFinalizers_stored_of_run cs finalizer clusters hl hc hn,
    fun k n m h => R.frame k n m fun c hc hc' => h c hc ((hw c.2).mp hc').1 ((hw c.2).mp hc').2⟩
  show ((updateListed _ _ _ clusters).run s).calls = _
  rw [R.calls, List.filter_congr fun c _ => writesBack_removeFinalizer cs finalizer c.2]

theorem removeManagedHubClusterFinalizer_strips_hub1 :
    let cs : HubConstants := ⟨"local-cluster",
        "addon.open-cluster-management.io/on-multicluster-hub",
      "policy.open-cluster-management.io/on-multicluster-hub"⟩
    let finalizer := "cleanup"
    let localCluster : Json := .obj [("metadata",
        .obj [("name", .str "local-cluster"), ("namespace", .str ""),
      ("labels", .null), ("annotations", .null), ("finalizers", .arr [.str finalizer]),
      ("deletionTimestamp", .null)]),
      ("spec", .null), ("status", .null)]
    let hub1 : Json := .obj [("metadata", .obj [("name", .str "hub1"), ("namespace", .str ""),
      ("labels", .null), ("annotations", .null),
          ("finalizers", .arr [.str finalizer, .str "other"]),
      ("deletionTimestamp", .null)]),
      ("spec", .null), ("status", .null)]
    let s := (Store.empty.write managedClusterKind "" "local-cluster"
        (.obj [("metadata", .obj [("name", .str "local-cluster"),
            ("finalizers", .arr [.str finalizer])])])).write
      managedClusterKind "" "hub1"
        (.obj [("metadata", .obj [("name", .str "hub1"),
            ("finalizers", .arr [.str finalizer, .str "other"])])])
    let clusters := [(1, localCluster), (2, hub1)]
    let r := (removeManagedHubClusterFinalizer cs finalizer (.ok clusters)).run s
    r.result = none ∧
      r.calls = (clusters.filter fun c =>
          getName c.2 != cs.localClusterName && decide (finalizer ∈ getFinalizers c.2)).map
        (fun c => .update managedClusterKind "" (getName c.2)) ∧
      (∀ c ∈ clusters, getName c.2 ≠ cs.localClusterName → finalizer ∈ getFinalizers c.2 →
        getDeletionTimestamp c.2 = .null →
        ∃ v, r.store.objects managedClusterKind "" (getName c.2) = some (v,
          managedClusterTy.encode (setFinalizers c.2
              ((getFinalizers c.2).filter (· != finalizer))))) ∧
      (∀ c ∈ clusters, getName c.2 ≠ cs.localClusterName → getDeletionTimestamp c.2 = .null →
        ∃ v b, r.store.objects managedClusterKind "" (getName c.2) = some (v, b) ∧
          getFinalizers b = (getFinalizers c.2).filter (· != finalizer)) ∧
      ∀ kind ns name, (∀ c ∈ clusters, getName c.2 ≠ cs.localClusterName →
          finalizer ∈ getFinalizers c.2 →
          ¬(kind = managedClusterKind ∧ ns = "" ∧ name = getName c.2)) →
        r.store.objects kind ns name = s.objects kind ns name :=
  removeManagedHubClusterFinalizer_strips_listed_hubs _ _ _ ⟨fun c hc => by
    simp only [List.mem_cons, List.mem_singleton, List.not_mem_nil, or_false] at hc
    rcases hc with rfl | rfl <;> exact ⟨_, rfl, rfl⟩, by decide⟩

/-- A run over a fresh `List` of the clusters a run left, each at the version it is stored at,
makes no call and returns nil: the loop has settled. -/
theorem removeManagedHubClusterFinalizer_relist_writes_nothing
    (clusters : List (Nat × Json)) {s : Store}
    (hl : Listed s clusters) {clusters' : List (Nat × Json)}
    (hl' : Listed
      ((removeManagedHubClusterFinalizer cs finalizer (.ok clusters)).run s).store clusters')
    (hn : ∀ c ∈ clusters', getName c.2 ∈ clusters.map fun c => getName c.2) :
    let s' := ((removeManagedHubClusterFinalizer cs finalizer (.ok clusters)).run s).store
    (removeManagedHubClusterFinalizer cs finalizer (.ok clusters')).run s' = ⟨none, s', []⟩ := by
  refine updateListed_run_of_writesBack_false _ _ _ clusters' (fun c' hc' => ?_) _
  obtain ⟨c, hc, he⟩ := List.mem_map.mp (hn c' hc')
  rw [writesBack_removeFinalizer]
  by_cases h0 : getName c'.2 = cs.localClusterName
  · simp [h0]
  · obtain ⟨v, b, hs, hb⟩ := getFinalizers_stored_of_run cs finalizer clusters hl hc (he ▸ h0)
    obtain ⟨b', hs', hb'⟩ := hl'.stored c' hc'
    rw [← he, hs] at hs'
    obtain ⟨-, rfl⟩ := Prod.mk.inj (Option.some.inj hs')
    have hm : finalizer ∉ getFinalizers c'.2 := by rw [getFinalizers_of_decode hb', hb]; simp
    simp [hm]

theorem removeManagedHubClusterFinalizer_relist_hub1_writes_nothing :
    let cs : HubConstants := ⟨"local-cluster",
        "addon.open-cluster-management.io/on-multicluster-hub",
      "policy.open-cluster-management.io/on-multicluster-hub"⟩
    let finalizer := "cleanup"
    let hub1 (finalizers : List Json) : Json := .obj [("metadata", .obj [("name", .str "hub1"),
      ("namespace", .str ""), ("labels", .null), ("annotations", .null),
          ("finalizers", .arr finalizers),
      ("deletionTimestamp", .null)]),
      ("spec", .null), ("status", .null)]
    let s := Store.empty.write managedClusterKind "" "hub1"
      (.obj [("metadata", .obj [("name", .str "hub1"),
          ("finalizers", .arr [.str finalizer, .str "other"])])])
    let s' := ((removeManagedHubClusterFinalizer cs finalizer
        (.ok [(1, hub1 [.str finalizer, .str "other"])])).run s).store
    (removeManagedHubClusterFinalizer cs finalizer (.ok [(2, hub1 [.str "other"])])).run
        s' = ⟨none, s', []⟩ :=
  removeManagedHubClusterFinalizer_relist_writes_nothing _ _ _
    ⟨fun c hc => by rw [List.mem_singleton.mp hc]; exact ⟨_, rfl, rfl⟩, by decide⟩
    ⟨fun c hc => by rw [List.mem_singleton.mp hc]; exact ⟨_, rfl, rfl⟩, by decide⟩
    fun c hc => by rw [List.mem_singleton.mp hc]; exact .head _

end Runs

end StrimziTransport
