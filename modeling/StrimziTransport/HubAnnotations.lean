import StrimziTransport.KafkaResources
import StrimziTransport.Store

/-!
`AnnotateManagedHubCluster` of `utils.go`: every managed cluster the hub lists but
`local-cluster` is given the two annotations that mark a managed hub, and written back when
`DeepEqual` tells its annotations before and after the assignments apart. The loop ranges over
copies of the listed items, and a copy of a Go struct shares the item's maps: the assignments
reach the item that is written back only when it already has an annotation map. The `List`
call is the list it replies with, each cluster with the `resourceVersion` it was listed at.
`constants.LocalClusterName` and the two annotation keys belong to `operator/pkg/constants`,
which is not in the sources: they are parameters.
-/

namespace StrimziTransport

/-- The kind the managed clusters are stored under; they have no namespace. -/
def managedClusterKind : String := "ManagedCluster"

/-- `metav1.ObjectMeta` of a managed cluster, with the members that the two loops of `utils.go`
over managed clusters read and write. -/
def managedClusterMetaTy : Ty :=
  .struct [("name", true, .string), ("namespace", true, .string), ("labels", true, .map),
    ("annotations", true, .map), ("finalizers", true, .slice .string),
    ("deletionTimestamp", true, .ptr .string)]

/-- `clusterv1.ManagedCluster`. The loops write the spec and the status back as listed, so they
are kept as the documents they were listed as. -/
def managedClusterTy : Ty :=
  .struct [("metadata", true, managedClusterMetaTy), ("spec", false, .raw), ("status", true, .raw)]

/-- `GetName` and `GetAnnotations`. -/
def getName (cluster : Json) : String := ((cluster.field "metadata").field "name").asStr

def getAnnotations (cluster : Json) : Json := (cluster.field "metadata").field "annotations"

/-- `CopyMap(newMap, originalMap)`: each entry of the original map assigned in the new one. -/
def copyMap (newMap originalMap : List (String × Json)) : List (String × Json) :=
  originalMap.foldl (fun m entry => setMember entry.1 entry.2 m) newMap

/-- The constants of `operator/pkg/constants` the loop reads. -/
structure HubConstants where
  localClusterName : String
  annotationONMulticlusterHub : String
  annotationPolicyONMulticlusterHub : String

section Annotate
variable (cs : HubConstants)

/-- The two assignments of the loop's body, to the map `orgAnnotations` names. -/
def setHubAnnotations (orgAnnotations : List (String × Json)) : List (String × Json) :=
  setMember cs.annotationPolicyONMulticlusterHub (.str "true")
    (setMember cs.annotationONMulticlusterHub (.str "true") orgAnnotations)

/-- One turn of the loop on `clusters.Items[idx]`: the item as the turn leaves it, and whether
`DeepEqual` tells the copied annotations from the assigned ones. `managedHub` is a copy of the
item that shares its annotation map. When the item has one, `orgAnnotations` is that map and the
assignments reach the item; when it has none, `orgAnnotations` is a new map that nothing the
item holds refers to. -/
def annotateManagedHub (managedHub : Json) : Json × Bool :=
  match getAnnotations managedHub with
  | .obj orgAnnotations =>
      let annotations := copyMap [] orgAnnotations
      let orgAnnotations := setHubAnnotations cs orgAnnotations
      (managedHub.setField "metadata"
          ((managedHub.field "metadata").setField "annotations" (.obj orgAnnotations)),
        !Json.deepEqual (.obj annotations) (.obj orgAnnotations))
  | _ =>
      let annotations := copyMap [] []
      (managedHub, !Json.deepEqual (.obj annotations) (.obj (setHubAnnotations cs [])))

def annotateClusters : List (Nat × Json) → Prog (Option String)
  | [] => .pure none
  | (resourceVersion, managedHub) :: clusters =>
      if getName managedHub = cs.localClusterName then annotateClusters clusters
      else if (annotateManagedHub cs managedHub).2 then
        .update managedClusterKind "" (getName managedHub) resourceVersion
          (managedClusterTy.encode (annotateManagedHub cs managedHub).1) fun
          | .ok () => annotateClusters clusters
          | .error e => .pure (some e.reason)
      else annotateClusters clusters

/-- `AnnotateManagedHubCluster`, from the reply of its `List` call. -/
def annotateManagedHubCluster : Except ApiError (List (Nat × Json)) → Prog (Option String)
  | .error e => .pure (some e.reason)
  | .ok clusters => annotateClusters cs clusters

end Annotate

section StringMaps

/-- A Go `map[string]string` as the members of its JSON object: each key once, each value a
string. -/
structure StringMap (ms : List (String × Json)) : Prop where
  nodup : (ms.map Prod.fst).Nodup
  strings : ∀ m ∈ ms, ∃ v, m.2 = .str v

theorem lookup_eq_some_of_mem {ms : List (String × Json)} (hd : (ms.map Prod.fst).Nodup)
    {k : String} {x : Json} (h : (k, x) ∈ ms) : ms.lookup k = some x := by
  induction ms with
  | nil => cases h
  | cons m ms ih =>
      obtain ⟨a, b⟩ := m
      simp only [List.map_cons, List.nodup_cons] at hd
      rw [lookup_cons_eq_ite]
      rcases List.mem_cons.mp h with h | h
      · cases h; rw [if_pos rfl]
      · rw [if_neg (show k ≠ a from fun e => hd.1 (e ▸ List.mem_map_of_mem Prod.fst h))]
        exact ih hd.2 h

theorem mem_of_lookup_eq_some {ms : List (String × Json)} {k : String} {x : Json}
    (h : ms.lookup k = some x) : (k, x) ∈ ms := by
  induction ms with
  | nil => cases h
  | cons m ms ih =>
      obtain ⟨a, b⟩ := m
      rw [lookup_cons_eq_ite] at h
      split at h
      · cases h; subst ‹k = a›; exact .head _
      · exact .tail _ (ih h)

theorem lookup_eq_none_iff {ms : List (String × Json)} {k : String} :
    ms.lookup k = none ↔ k ∉ ms.map Prod.fst := by
  induction ms with
  | nil => simp
  | cons m ms ih =>
      obtain ⟨a, b⟩ := m
      rw [lookup_cons_eq_ite]
      by_cases h : k = a
      · simp [h]
      · simp [h, ih]

theorem deepEqual_str_iff (a : String) (y : Json) : Json.deepEqual (.str a) y =
    true ↔ y = .str a := by
  cases y with
  | str b => show (a == b) = true ↔ _; rw [beq_iff_eq, Json.str.injEq, eq_comm]
  | _ => exact ⟨fun h => (by cases h), fun h => (by cases h)⟩

theorem deepEqualMembers_iff (xs ys : List (String × Json)) :
    Json.deepEqualMembers xs ys = true ↔
      ∀ m ∈ xs, ∃ y, ys.lookup m.1 = some y ∧ Json.deepEqual m.2 y = true := by
  induction xs with
  | nil => exact iff_of_true rfl fun _ h => absurd h (List.not_mem_nil _)
  | cons m xs ih =>
      obtain ⟨k, x⟩ := m
      show ((match ys.lookup k with
        | some y => Json.deepEqual x y
        | none => false) && Json.deepEqualMembers xs ys) = true ↔ _
      rw [Bool.and_eq_true, ih, List.forall_mem_cons]
      cases ys.lookup k <;> simp

theorem deepEqual_obj_iff {xs ys : List (String × Json)} (hx : StringMap xs) (hy : StringMap ys) :
    Json.deepEqual (.obj xs) (.obj ys) = true ↔ ∀ k, xs.lookup k = ys.lookup k := by
  have hmem : (∀ m ∈ xs, ∃ y, ys.lookup m.1 = some y ∧ Json.deepEqual m.2 y = true) ↔
      ∀ m ∈ xs, ys.lookup m.1 = some m.2 := by
    refine forall₂_congr fun m hm => ?_
    obtain ⟨v, hv⟩ := hx.strings m hm
    rw [hv]
    exact ⟨fun ⟨y, h, e⟩ => (deepEqual_str_iff v y).mp e ▸ h,
        fun h => ⟨_, h, (deepEqual_str_iff v _).mpr rfl⟩⟩
  show (xs.length == ys.length && Json.deepEqualMembers xs ys) = true ↔ _
  rw [Bool.and_eq_true, beq_iff_eq, deepEqualMembers_iff, hmem]
  constructor
  · rintro ⟨hlen, h⟩ k
    have hsub : xs.map Prod.fst ⊆ ys.map Prod.fst := fun k hk => by
      obtain ⟨m, hm, rfl⟩ := List.mem_map.mp hk
      exact List.mem_map_of_mem Prod.fst (mem_of_lookup_eq_some (h m hm))
    have hperm := (List.subperm_of_subset hx.nodup hsub).perm_of_length_le (by simp [hlen])
    cases hk : xs.lookup k with
    | none => rw [eq_comm, lookup_eq_none_iff, ← hperm.mem_iff, ← lookup_eq_none_iff, hk]
    | some x => exact (h _ (mem_of_lookup_eq_some hk)).symm
  · intro h
    have hperm : (xs.map Prod.fst).Perm (ys.map Prod.fst) :=
      (List.perm_ext_iff_of_nodup hx.nodup hy.nodup).mpr fun k => by
        rw [← not_iff_not, ← lookup_eq_none_iff, ← lookup_eq_none_iff, h k]
    refine ⟨by simpa using hperm.length_eq, fun m hm => ?_⟩
    rw [← h]
    exact lookup_eq_some_of_mem hx.nodup hm

theorem setMember_ne_nil (k : String) (v : Json) (ms : List (String × Json)) :
    setMember k v ms ≠ [] := by
  unfold setMember
  split
  · rename_i h
    rw [Ne, List.map_eq_nil_iff]
    rintro rfl
    cases h
  · exact List.append_ne_nil_of_right_ne_nil _ (List.cons_ne_nil _ _)

theorem StringMap.setMember {ms : List (String × Json)} (h : StringMap ms) (k v : String) :
    StringMap (setMember k (.str v) ms) := by
  unfold StrimziTransport.setMember
  split
  · refine ⟨?_, fun m hm => ?_⟩
    · rw [List.map_map]
      convert h.nodup using 1
      refine List.map_congr_left fun m _ => ?_
      by_cases hm : m.1 = k <;> simp [hm]
    · obtain ⟨m₀, hm₀, rfl⟩ := List.mem_map.mp hm
      split
      · exact ⟨v, rfl⟩
      · exact h.strings m₀ hm₀
  · rename_i hany
    refine ⟨?_, fun m hm => ?_⟩
    · rw [List.map_append, List.nodup_append]
      refine ⟨h.nodup, List.nodup_singleton _, List.disjoint_singleton.mpr fun hk => hany ?_⟩
      obtain ⟨m, hm, rfl⟩ := List.mem_map.mp hk
      exact List.any_eq_true.mpr ⟨m, hm, beq_self_eq_true _⟩
    · rcases List.mem_append.mp hm with hm | hm
      · exact h.strings m hm
      · rw [List.mem_singleton.mp hm]; exact ⟨v, rfl⟩

theorem copyMap_eq_append {acc ms : List (String × Json)} (hd : ((acc ++ ms).map Prod.fst).Nodup) :
    copyMap acc ms = acc ++ ms := by
  rw [List.map_append] at hd
  induction ms generalizing acc with
  | nil => exact (List.append_nil acc).symm
  | cons m ms ih =>
      have hm : m.1 ∉ acc.map Prod.fst := fun h =>
        (List.nodup_append.mp hd).2.2 h (List.mem_map_of_mem Prod.fst (List.mem_cons_self m ms))
      have hset : setMember m.1 m.2 acc = acc ++ [m] := by
        rw [setMember, if_neg]
        simp only [List.any_eq_true, beq_iff_eq, not_exists, not_and]
        exact fun n hn he => hm (he ▸ List.mem_map_of_mem Prod.fst hn)
      show copyMap (setMember m.1 m.2 acc) ms = _
      rw [hset, ih (by simpa using hd), List.append_assoc, List.singleton_append]

theorem copyMap_nil {ms : List (String × Json)} (hd : (ms.map Prod.fst).Nodup) :
    copyMap [] ms = ms :=
  copyMap_eq_append (by rwa [List.nil_append])

end StringMaps

section Turns
variable (cs : HubConstants)

/-- `after` as the loop means to leave `before`: both marks `"true"`, every other annotation as
it was. -/
def HubAnnotated (before after : List (String × Json)) : Prop :=
  after.lookup cs.annotationONMulticlusterHub = some (.str "true") ∧
    after.lookup cs.annotationPolicyONMulticlusterHub = some (.str "true") ∧
    ∀ key, key ≠ cs.annotationONMulticlusterHub → key ≠ cs.annotationPolicyONMulticlusterHub →
      after.lookup key = before.lookup key

theorem StringMap.setHubAnnotations {ms : List (String × Json)} (h : StringMap ms) :
    StringMap (setHubAnnotations cs ms) :=
  (h.setMember _ _).setMember _ _

theorem hubAnnotated_setHubAnnotations (ms : List (String × Json)) :
    HubAnnotated cs ms (setHubAnnotations cs ms) := by
  refine ⟨?_, ?_, fun key h₁ h₂ => ?_⟩ <;> simp_all [setHubAnnotations]

theorem lookup_setHubAnnotations_iff (ms : List (String × Json)) :
    (∀ k, ms.lookup k = (setHubAnnotations cs ms).lookup k) ↔ HubAnnotated cs ms ms := by
  constructor
  · intro h
    obtain ⟨h₁, h₂, -⟩ := hubAnnotated_setHubAnnotations cs ms
    exact ⟨(h _).trans h₁, (h _).trans h₂, fun _ _ _ => rfl⟩
  · rintro ⟨h₁, h₂, -⟩ k
    simp only [setHubAnnotations, lookup_setMember]
    split_ifs with hp ho
    · rw [hp, h₂]
    · rw [ho, h₁]
    · rfl

theorem annotateManagedHub_of_null {managedHub : Json} (h : getAnnotations managedHub = .null) :
    annotateManagedHub cs managedHub = (managedHub, true) := by
  unfold annotateManagedHub
  rw [h]
  show (managedHub, !((0 == (setHubAnnotations cs []).length) && _)) = _
  cases hl : (setHubAnnotations cs []).length with
  | zero => exact absurd (List.length_eq_zero.mp hl) (setMember_ne_nil _ _ _)
  | succ n => rfl

theorem getAnnotations_setField {managedHub : Json} {ms : List (String × Json)}
    (h : getAnnotations managedHub = .obj ms) (v : Json) :
    getAnnotations (managedHub.setField "metadata"
      ((managedHub.field "metadata").setField "annotations" v)) = v := by
  cases managedHub with
  | obj fs =>
      unfold getAnnotations at h ⊢
      rw [Json.field_setField, if_pos rfl]
      cases hm : (Json.obj fs).field "metadata" with
      | obj ns => rw [Json.field_setField, if_pos rfl]
      | _ => rw [hm] at h; cases h
  | _ => cases h

theorem annotateManagedHub_of_obj {managedHub : Json} {ms : List (String × Json)}
    (h : getAnnotations managedHub = .obj ms) (hm : StringMap ms) :
    getAnnotations (annotateManagedHub cs managedHub).1 = .obj (setHubAnnotations cs ms) ∧
      ((annotateManagedHub cs managedHub).2 = false ↔ HubAnnotated cs ms ms) := by
  unfold annotateManagedHub
  rw [h]
  refine ⟨getAnnotations_setField h _, ?_⟩
  show (!Json.deepEqual (.obj (copyMap [] ms)) _) = false ↔ _
  rw [copyMap_nil hm.nodup, Bool.not_eq_false', deepEqual_obj_iff hm (hm.setHubAnnotations cs),
    lookup_setHubAnnotations_iff]

theorem getAnnotations_encode (managedHub : Json) :
    getAnnotations (managedClusterTy.encode managedHub) =
      if Ty.map.isEmpty (getAnnotations managedHub) then .null else Ty.map.encode
          (getAnnotations managedHub) := by
  have hmeta : (managedClusterTy.encode managedHub).field "metadata" =
      managedClusterMetaTy.encode (managedHub.field "metadata") :=
    @Ty.field_encode_struct _ (by decide) ("metadata", true, managedClusterMetaTy)
        (.head _) managedHub
  unfold getAnnotations
  rw [hmeta]
  exact @Ty.field_encode_struct _ (by decide) ("annotations", true, .map)
    (.tail _ (.tail _ (.tail _ (.head _)))) _

theorem getAnnotations_of_decode {b managedHub : Json}
    (h : managedClusterTy.decode b = some managedHub)
    {ms : List (String × Json)} (hm : getAnnotations managedHub = .obj ms) :
        getAnnotations b = .obj ms := by
  have hmeta := @Ty.field_decode_struct _ _ _ (by decide) h
      ("metadata", true, managedClusterMetaTy) (.head _)
  have hann := @Ty.field_decode_struct _ _ _ (by decide) hmeta ("annotations", true, .map)
    (.tail _ (.tail _ (.tail _ (.head _))))
  unfold getAnnotations at hm ⊢
  rw [hm] at hann
  generalize (b.field "metadata").field "annotations" = x at hann
  cases x <;> cases hann
  rfl

end Turns

section Loop
variable (ty : Ty) (localClusterName : String) (turn : Json → Json × Bool)

/-- The loop `AnnotateManagedHubCluster` and `RemoveManagedHubClusterFinalizer` share over the
listed clusters: each one but `local-cluster` goes through one turn, which gives the item as the
turn leaves it and whether to write it back; a failed `Update` ends the loop with its error. -/
def updateListed : List (Nat × Json) → Prog (Option String)
  | [] => .pure none
  | (resourceVersion, managedHub) :: clusters =>
      if getName managedHub = localClusterName then updateListed clusters
      else if (turn managedHub).2 then
        .update managedClusterKind "" (getName managedHub) resourceVersion
            (ty.encode (turn managedHub).1) fun
          | .ok () => updateListed clusters
          | .error e => .pure (some e.reason)
      else updateListed clusters

/-- Whether the loop writes a listed cluster back. -/
def writesBack (managedHub : Json) : Bool :=
  getName managedHub != localClusterName && (turn managedHub).2

/-- What the loop leaves: it returns nil after one Update per cluster it writes, in the listed
order; each written cluster holds its item as the turn left it, and every other object is as it
was. -/
structure UpdatedRun (clusters : List (Nat × Json)) (s : Store)
    (r : Run (Option String)) : Prop where
  result : r.result = none
  calls : r.calls = (clusters.filter fun c => writesBack localClusterName turn c.2).map fun c =>
    .update managedClusterKind "" (getName c.2)
  written : ∀ c ∈ clusters, writesBack localClusterName turn c.2 = true →
    ∃ v, r.store.objects managedClusterKind "" (getName c.2) = some (v, ty.encode (turn c.2).1)
  frame : ∀ kind ns name, (∀ c ∈ clusters, writesBack localClusterName turn c.2 = true →
      ¬(kind = managedClusterKind ∧ ns = "" ∧ name = getName c.2)) →
    r.store.objects kind ns name = s.objects kind ns name

theorem updateListed_cons_of_writesBack_false {resourceVersion : Nat} {managedHub : Json}
    (h : writesBack localClusterName turn managedHub = false) (clusters : List (Nat × Json)) :
    updateListed ty localClusterName turn ((resourceVersion, managedHub) :: clusters) =
      updateListed ty localClusterName turn clusters := by
  unfold writesBack at h
  rw [updateListed]
  split_ifs with hn hw
  · rfl
  · simp [hn, hw] at h
  · rfl

theorem updateListed_cons_of_writesBack {resourceVersion : Nat} {managedHub : Json}
    (h : writesBack localClusterName turn managedHub = true) (clusters : List (Nat × Json)) :
    updateListed ty localClusterName turn ((resourceVersion, managedHub) :: clusters) =
      .update managedClusterKind "" (getName managedHub) resourceVersion
          (ty.encode (turn managedHub).1) fun
        | .ok () => updateListed ty localClusterName turn clusters
        | .error e => .pure (some e.reason) := by
  simp only [writesBack, Bool.and_eq_true, bne_iff_ne] at h
  rw [updateListed, if_neg h.1, if_pos h.2]

theorem updateListed_run (clusters : List (Nat × Json)) {s : Store}
    (hv : ∀ c ∈ clusters, ∃ b, s.objects managedClusterKind "" (getName c.2) = some (c.1, b))
    (hnd : (clusters.map fun c => getName c.2).Nodup) :
    UpdatedRun ty localClusterName turn clusters s
        ((updateListed ty localClusterName turn clusters).run s) := by
  induction clusters generalizing s with
  | nil => exact ⟨rfl, rfl, fun _ h => absurd h (List.not_mem_nil _), fun _ _ _ _ => rfl⟩
  | cons c clusters ih =>
      obtain ⟨rv, managedHub⟩ := c
      obtain ⟨b, hs⟩ := hv _ (.head _)
      have hnd' := List.nodup_cons.mp hnd
      have hne : ∀ c ∈ clusters, getName c.2 ≠ getName managedHub := fun c hc e =>
        hnd'.1 (List.mem_map.mpr ⟨c, hc, e⟩)
      cases hw : writesBack localClusterName turn managedHub with
      | false =>
          rw [updateListed_cons_of_writesBack_false ty localClusterName turn hw]
          have R := ih (fun c hc => hv c (.tail _ hc)) hnd'.2
          refine ⟨R.result, by rw [R.calls, List.filter_cons_of_neg (by simp [hw])],
            fun c hc hc' => ?_, fun k n m h => R.frame k n m fun c hc => h c (.tail _ hc)⟩
          rcases List.mem_cons.mp hc with rfl | hc
          · rw [hw] at hc'; cases hc'
          · exact R.written c hc hc'
      | true =>
          rw [updateListed_cons_of_writesBack ty localClusterName turn hw, Prog.run_update,
            Store.update_of_version _ hs]
          have R := ih (s := s.write managedClusterKind "" (getName managedHub)
              (ty.encode (turn managedHub).1))
            (fun c hc => by
              rw [Store.write_objects_of_ne _ _ _ _ (hne c hc)]; exact hv c (.tail _ hc)) hnd'.2
          refine ⟨R.result, by rw [R.calls, List.filter_cons_of_pos (by simp [hw])]; rfl,
            fun c hc hc' => ?_, fun k n m h => ?_⟩
          · rcases List.mem_cons.mp hc with rfl | hc
            · exact ⟨_, (R.frame _ _ _ fun c hc _ h => hne c hc h.2.2.symm).trans
                (Store.write_objects_self ..)⟩
            · exact R.written c hc hc'
          · rw [R.frame k n m fun c hc => h c (.tail _ hc), Store.write_objects,
              if_neg (h _ (.head _) hw)]

theorem updateListed_run_of_writesBack_false (clusters : List (Nat × Json))
    (h : ∀ c ∈ clusters, writesBack localClusterName turn c.2 = false) (s : Store) :
    (updateListed ty localClusterName turn clusters).run s = ⟨none, s, []⟩ := by
  induction clusters with
  | nil => rfl
  | cons c clusters ih =>
      obtain ⟨rv, managedHub⟩ := c
      rw [updateListed_cons_of_writesBack_false ty localClusterName turn (h _ (.head _))]
      exact ih fun c hc => h c (.tail _ hc)

end Loop

section Runs
variable (cs : HubConstants)

def annotates (managedHub : Json) : Bool :=
  getName managedHub != cs.localClusterName && (annotateManagedHub cs managedHub).2

/-- The reply of `List` from a store that holds each listed cluster under its name, at the
version it was listed at and read back as the listed value, no name twice. -/
structure Listed (s : Store) (clusters : List (Nat × Json)) : Prop where
  stored : ∀ c ∈ clusters, ∃ b, s.objects managedClusterKind "" (getName c.2) = some (c.1, b) ∧
    managedClusterTy.decode b = some c.2
  nodup : (clusters.map fun c => getName c.2).Nodup

/-- What the loop leaves: it returns nil after one Update per cluster it writes, in the listed
order; each written cluster holds its item as the loop left it, and every other object is as it
was. -/
structure AnnotatedRun (clusters : List (Nat × Json)) (s : Store)
    (r : Run (Option String)) : Prop where
  result : r.result = none
  calls : r.calls = (clusters.filter fun c => annotates cs c.2).map fun c =>
    .update managedClusterKind "" (getName c.2)
  written : ∀ c ∈ clusters, annotates cs c.2 = true →
    ∃ v, r.store.objects managedClusterKind "" (getName c.2) =
      some (v, managedClusterTy.encode (annotateManagedHub cs c.2).1)
  frame : ∀ kind ns name, (∀ c ∈ clusters, annotates cs c.2 = true →
      ¬(kind = managedClusterKind ∧ ns = "" ∧ name = getName c.2)) →
    r.store.objects kind ns name = s.objects kind ns name

theorem annotateClusters_eq (clusters : List (Nat × Json)) :
    annotateClusters cs clusters = updateListed managedClusterTy cs.localClusterName
        (annotateManagedHub cs) clusters := by
  induction clusters with
  | nil => rfl
  | cons c clusters ih =>
      obtain ⟨rv, managedHub⟩ := c
      simp only [annotateClusters, updateListed, ih]

theorem annotateClusters_run (clusters : List (Nat × Json)) {s : Store} (hl : Listed s clusters) :
    AnnotatedRun cs clusters s ((annotateClusters cs clusters).run s) := by
  have R := updateListed_run managedClusterTy cs.localClusterName (annotateManagedHub cs) clusters
    (fun c hc => (hl.stored c hc).imp fun _ h => h.1) hl.nodup
  rw [annotateClusters_eq]
  exact ⟨R.result, R.calls, R.written, R.frame⟩

theorem annotates_of_mem_calls {clusters : List (Nat × Json)} {s : Store} (hl : Listed s clusters)
    {c : Nat × Json} (hc : c ∈ clusters)
    (h : .update managedClusterKind "" (getName c.2) ∈
      ((annotateClusters cs clusters).run s).calls) :
    annotates cs c.2 = true := by
  rw [(annotateClusters_run cs clusters hl).calls] at h
  obtain ⟨c', hc', he⟩ := List.mem_map.mp h
  obtain ⟨hc'm, hw⟩ := List.mem_filter.mp hc'
  rw [List.inj_on_of_nodup_map hl.nodup hc'm hc (Call.update.inj he).2.2] at hw
  exact hw

end Runs

section Marks
variable (cs : HubConstants)

/-- A listed cluster other than `local-cluster` with no annotations: `orgAnnotations` is a new
map, `DeepEqual` tells it from the empty copy, and the cluster is written as it was listed.
The call returns nil, and the cluster is stored without either annotation. -/
theorem annotateManagedHubCluster_leaves_unannotated_hub (clusters : List (Nat × Json)) {s : Store}
    (hl : Listed s clusters) {rv : Nat} {managedHub : Json} (hc : (rv, managedHub) ∈ clusters)
    (hn : getName managedHub ≠ cs.localClusterName) (ha : getAnnotations managedHub = .null) :
    let r := (annotateManagedHubCluster cs (.ok clusters)).run s
    r.result = none ∧ .update managedClusterKind "" (getName managedHub) ∈ r.calls ∧
      ∃ v b, r.store.objects managedClusterKind "" (getName managedHub) = some (v, b) ∧
        getAnnotations b = .null := by
  have R := annotateClusters_run cs clusters hl
  have hw : annotates cs managedHub = true := by
    simp [annotates, hn, annotateManagedHub_of_null cs ha]
  obtain ⟨v, hv⟩ := R.written _ hc hw
  refine ⟨R.result, ?_, v, _, hv, ?_⟩
  · show _ ∈ ((annotateClusters cs clusters).run s).calls
    rw [R.calls]
    exact List.mem_map.mpr ⟨_, List.mem_filter.mpr ⟨hc, hw⟩, rfl⟩
  · rw [annotateManagedHub_of_null cs ha, getAnnotations_encode, ha]; rfl

theorem annotateManagedHubCluster_leaves_hub1_unannotated :
    let cs : HubConstants := ⟨"local-cluster",
        "addon.open-cluster-management.io/on-multicluster-hub",
      "policy.open-cluster-management.io/on-multicluster-hub"⟩
    let hub1 : Json := .obj [("metadata", .obj [("name", .str "hub1"), ("namespace", .str ""),
      ("labels", .null), ("annotations", .null), ("finalizers", .null),
      ("deletionTimestamp", .null)]), ("spec", .null), ("status", .null)]
    let s := Store.empty.write managedClusterKind "" "hub1"
        (.obj [("metadata", .obj [("name", .str "hub1")])])
    let r := (annotateManagedHubCluster cs (.ok [(1, hub1)])).run s
    r.result = none ∧ .update managedClusterKind "" "hub1" ∈ r.calls ∧
      ∃ v b, r.store.objects managedClusterKind "" "hub1" = some (v, b) ∧
          getAnnotations b = .null := by
  intro cs hub1 s r
  exact annotateManagedHubCluster_leaves_unannotated_hub cs [(1, hub1)]
    ⟨fun c hc => by rw [List.mem_singleton.mp hc]; exact ⟨_, rfl, rfl⟩, by decide⟩
        (.head _) (by decide) rfl

/-- What the loop does as meant: it returns nil, never writes `local-cluster`, never writes a
cluster whose annotations already carry both marks `"true"`, and leaves every other cluster that
has an annotation map stored with both marks `"true"` and its other annotations as they were. -/
theorem annotateManagedHubCluster_marks_annotated_hubs (clusters : List (Nat × Json)) {s : Store}
    (hl : Listed s clusters) :
    let r := (annotateManagedHubCluster cs (.ok clusters)).run s
    r.result = none ∧
      (∀ c ∈ clusters, getName c.2 = cs.localClusterName →
        .update managedClusterKind "" (getName c.2) ∉ r.calls) ∧
      ∀ c ∈ clusters, ∀ ms, getAnnotations c.2 = .obj ms → StringMap ms →
        (HubAnnotated cs ms ms → .update managedClusterKind "" (getName c.2) ∉ r.calls) ∧
        (getName c.2 ≠ cs.localClusterName → ∃ v b ms',
          r.store.objects managedClusterKind "" (getName c.2) = some (v, b) ∧
            getAnnotations b = .obj ms' ∧ HubAnnotated cs ms ms') := by
  have R := annotateClusters_run cs clusters hl
  refine ⟨R.result, fun c hc hn h => ?_, fun c hc ms ha hm => ⟨fun hh h => ?_, fun hn => ?_⟩⟩
  · have := annotates_of_mem_calls cs hl hc h
    simp [annotates, hn] at this
  · have := annotates_of_mem_calls cs hl hc h
    simp [annotates, (annotateManagedHub_of_obj cs ha hm).2.mpr hh] at this
  · cases hw : annotates cs c.2 with
    | true =>
        obtain ⟨v, hv⟩ := R.written c hc hw
        refine ⟨v, _, _, hv, ?_, hubAnnotated_setHubAnnotations cs ms⟩
        have hne : Ty.map.isEmpty (.obj (setHubAnnotations cs ms)) ≠ true := fun h =>
          setMember_ne_nil _ _ _ (List.isEmpty_iff.mp h)
        rw [getAnnotations_encode, (annotateManagedHub_of_obj cs ha hm).1, if_neg hne]
        rfl
    | false =>
        obtain ⟨b, hs, hb⟩ := hl.stored c hc
        refine ⟨c.1, b, ms, ?_, getAnnotations_of_decode hb ha,
          (annotateManagedHub_of_obj cs ha hm).2.mp (by simpa [annotates, hn] using hw)⟩
        rw [← hs]
        refine R.frame _ _ _ fun c' hc' hw' h => ?_
        rw [List.inj_on_of_nodup_map hl.nodup hc hc' h.2.2, hw'] at hw
        cases hw

theorem annotateManagedHubCluster_marks_hub2 :
    let cs : HubConstants := ⟨"local-cluster",
        "addon.open-cluster-management.io/on-multicluster-hub",
      "policy.open-cluster-management.io/on-multicluster-hub"⟩
    let localCluster : Json := .obj [("metadata",
        .obj [("name", .str "local-cluster"), ("namespace", .str ""),
      ("labels", .null), ("annotations", .null), ("finalizers", .null),
      ("deletionTimestamp", .null)]), ("spec", .null), ("status", .null)]
    let hub2 : Json := .obj [("metadata", .obj [("name", .str "hub2"), ("namespace", .str ""),
      ("labels", .null), ("annotations", .obj [("team", .str "a")]), ("finalizers", .null),
      ("deletionTimestamp", .null)]), ("spec", .null), ("status", .null)]
    let s := (Store.empty.write managedClusterKind "" "local-cluster"
        (.obj [("metadata", .obj [("name", .str "local-cluster")])])).write
            managedClusterKind "" "hub2"
      (.obj [("metadata", .obj [("name", .str "hub2"),
          ("annotations", .obj [("team", .str "a")])])])
    let clusters := [(1, localCluster), (2, hub2)]
    let r := (annotateManagedHubCluster cs (.ok clusters)).run s
    r.result = none ∧
      (∀ c ∈ clusters, getName c.2 = cs.localClusterName →
        .update managedClusterKind "" (getName c.2) ∉ r.calls) ∧
      ∀ c ∈ clusters, ∀ ms, getAnnotations c.2 = .obj ms → StringMap ms →
        (HubAnnotated cs ms ms → .update managedClusterKind "" (getName c.2) ∉ r.calls) ∧
        (getName c.2 ≠ cs.localClusterName → ∃ v b ms',
          r.store.objects managedClusterKind "" (getName c.2) = some (v, b) ∧
            getAnnotations b = .obj ms' ∧ HubAnnotated cs ms ms') := by
  intro cs localCluster hub2 s clusters r
  refine annotateManagedHubCluster_marks_annotated_hubs cs clusters ⟨fun c hc => ?_, by decide⟩
  simp only [clusters, List.mem_cons, List.mem_singleton, List.not_mem_nil, or_false] at hc
  rcases hc with rfl | rfl <;> exact ⟨_, rfl, rfl⟩

end Marks

end StrimziTransport
