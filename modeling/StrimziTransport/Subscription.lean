import StrimziTransport.HubAnnotations
import StrimziTransport.Placement

/-!
`ensureSubscription` and `newSubscription` of `strimzi_transporter.go`: the OLM Subscription
that installs the Strimzi operator. The reconciler reads the Subscription named by the
transporter's `subName` in the hub's namespace and creates `newSubscription`'s when there is
none. Otherwise it writes the stored one back, with the expected spec unless
`equality.Semantic.DeepEqual` finds the stored spec alike (a nil and an empty map or slice are
alike), and with `StartingCSV` emptied: no comparison skips the `Update`, and the stored
metadata is written back as it was read. The stored spec is dereferenced for its
channel, so a stored Subscription without a spec panics. The `operators.coreos.com/v1alpha1`
types are not in the sources: the spec lists its members, the config only the two that
`newSubscription` sets, and the status, a subresource that `Update` does not write, is left
out.

Where the operator's pods run is read off the stored Subscription: OLM gives them its
`spec.config.nodeSelector` as their pod `nodeSelector` (Kubernetes' semantics, as in
`StrimziTransport.Placement`).
-/

namespace StrimziTransport

/-- The subscription constants of `strimzi_transporter.go`. -/
def defaultKafkaSubName : String := "strimzi-kafka-operator"

/-- `subv1alpha1.ApprovalAutomatic`. -/
def defaultInstallPlanApproval : String := "Automatic"

def defaultCatalogSourceNamespace : String := "openshift-marketplace"

def defaultAMQChannel : String := "amq-streams-2.7.x"

def defaultAMQPackageName : String := "amq-streams"

def defaultCatalogSourceName : String := "redhat-operators"

def communityChannel : String := "strimzi-0.40.x"

def communityPackageName : String := "strimzi-kafka-operator"

def communityCatalogSourceName : String := "community-operators"

/-- `subv1alpha1.SubscriptionKind` and `SubscriptionCRDAPIVersion`; the kind is also what the
Subscriptions are stored under. -/
def subscriptionKind : String := "Subscription"

def subscriptionCRDAPIVersion : String := "operators.coreos.com/v1alpha1"

/-- `constants.GHOperatorOwnerLabelVal` of `pkg/constants`, which is not in the sources. -/
def gHOperatorOwnerLabelVal : String := "global-hub-operator"

/-- The subscription properties of `strimziTransporter`. -/
structure SubscriptionProperties where
  subName : String
  subCommunity : Bool
  subChannel : String
  subCatalogSourceName : String
  subPackageName : String
  deriving DecidableEq, Repr

/-- The subscription properties `NewStrimziTransporter` leaves, given what its options set last:
the name (`WithSubName`, `DefaultKafkaSubName` without one) and the community flag
(`WithCommunity`, false without one). The channel, package and catalog source are the
community ones when the flag is set. -/
def newSubscriptionProperties (subName : String) (subCommunity : Bool) : SubscriptionProperties :=
  let k : SubscriptionProperties :=
    ⟨subName, subCommunity, defaultAMQChannel, defaultCatalogSourceName, defaultAMQPackageName⟩
  if k.subCommunity then
    { k with
      subChannel := communityChannel
      subPackageName := communityPackageName
      subCatalogSourceName := communityCatalogSourceName }
  else k

section Types

/-- `subv1alpha1.SubscriptionConfig`: the members `newSubscription` sets. -/
def subscriptionConfigTy : Ty :=
  .struct [("nodeSelector", true, .map), ("tolerations", true, .slice corev1TolerationTy)]

/-- `subv1alpha1.SubscriptionSpec`. -/
def subscriptionSpecFields : List (String × Bool × Ty) :=
  [("source", false, .string), ("sourceNamespace", false, .string), ("name", false, .string),
    ("channel", true, .string), ("startingCSV", true, .string),
        ("installPlanApproval", true, .string),
    ("config", true, .ptr subscriptionConfigTy)]

def subscriptionSpecTy : Ty := .ptr (.struct subscriptionSpecFields)

/-- `subv1alpha1.Subscription`. -/
def subscriptionTy : Ty :=
  .struct [("kind", true, .string), ("apiVersion", true, .string),
      ("metadata", false, objectMetaTy),
    ("spec", false, subscriptionSpecTy)]

end Types

/-- A `map[string]string` given by its entries, `null` when nil. -/
def stringMapJson (m : Option (List (String × String))) : Json :=
  (m.map fun entries => Json.obj (entries.map fun (k, v) => (k, .str v))).getD .null

/-- `newSubscription`. `mghName` is the hub's `Name`, which `Mgh` does not hold. -/
def newSubscription (sp : SubscriptionProperties) (mghName : String) (mgh : Mgh) : Json :=
  let labels : Json := .obj [("installer.name", .str mghName), ("installer.namespace", .str mgh.ns),
    (globalHubOwnerLabelKey, .str gHOperatorOwnerLabelVal)]
  let subConfig : Json := .obj [("nodeSelector", stringMapJson mgh.nodeSelector),
    ("tolerations", (mgh.tolerations.map Json.arr).getD .null)]
  .obj [("kind", .str subscriptionKind), ("apiVersion", .str subscriptionCRDAPIVersion),
    ("metadata", .obj [("name", .str sp.subName), ("namespace", .str mgh.ns), ("labels", labels),
      ("annotations", .null)]),
    ("spec", .obj [("source", .str sp.subCatalogSourceName),
      ("sourceNamespace", .str defaultCatalogSourceNamespace), ("name", .str sp.subPackageName),
      ("channel", .str sp.subChannel), ("startingCSV", .str ""),
      ("installPlanApproval", .str defaultInstallPlanApproval), ("config", subConfig)])]

/-- What `ensureSubscription` writes back over the Subscription it read: the expected spec unless
`equality.Semantic.DeepEqual` finds the stored one alike, with `StartingCSV` emptied when the
channel changes and
the expected one's otherwise. The stored spec is dereferenced for its channel. -/
def updateSubscription (existingSub expectedSub : Json) : Outcome Json :=
  if existingSub.field "spec" = .null then .panic nilDereference
  else
    let startingCSV := ((expectedSub.field "spec").field "startingCSV").asStr
    let startingCSV :=
      if ((existingSub.field "spec").field "channel").asStr ≠
          ((expectedSub.field "spec").field "channel").asStr
      then "" else startingCSV
    let spec :=
      if !subscriptionSpecTy.semanticDeepEqual (existingSub.field "spec") (expectedSub.field "spec")
      then expectedSub.field "spec" else existingSub.field "spec"
    .ok (existingSub.setField "spec" (spec.setField "startingCSV" (.str startingCSV)))

def ensureSubscription (sp : SubscriptionProperties) (mghName : String) (mgh : Mgh) :
    Prog (Outcome Unit) :=
  .get subscriptionKind mgh.ns sp.subName fun
    | .error .notFound =>
        .create subscriptionKind mgh.ns sp.subName
            (subscriptionTy.encode (newSubscription sp mghName mgh)) fun
          | .ok () => .pure (.ok ())
          | .error e => .pure (.error e.reason)
    | .error e => .pure (.error e.reason)
    | .ok (resourceVersion, body) =>
        match subscriptionTy.decode body with
        | none => .pure (.error unmarshalTypeError)
        | some existingSub =>
            match updateSubscription existingSub (newSubscription sp mghName mgh) with
            | .ok existingSub =>
                .update subscriptionKind mgh.ns sp.subName resourceVersion
                    (subscriptionTy.encode existingSub) fun
                  | .ok () => .pure (.ok ())
                  | .error e => .pure (.error e.reason)
            | .error e => .pure (.error e)
            | .panic e => .pure (.panic e)

/-- A `map[string]string` member read as a pod `nodeSelector`: its entries, nil when unset. -/
def nodeSelectorOf : Json → Option (List (String × String))
  | .obj ms => some (ms.map fun m => (m.1, m.2.asStr))
  | _ => none

/-- The pod `nodeSelector` OLM gives the operator a Subscription installs: the Subscription's
`spec.config.nodeSelector` as the API server holds it. -/
def subscriptionNodeSelector (sub : Json) : Option (List (String × String)) :=
  nodeSelectorOf (sub.fieldAt ["spec", "config", "nodeSelector"])

/-- The hub's tolerations are values of `corev1.Toleration`. -/
def TolerationsTyped (mgh : Mgh) : Prop :=
  ∀ ts, mgh.tolerations = some ts → ∀ t ∈ ts, corev1TolerationTy.typed t = true

section Typing
variable (sp : SubscriptionProperties) (mghName : String) (mgh : Mgh)

theorem subscriptionTy_distinct : subscriptionTy.distinct = true := by decide

theorem newSubscription_startingCSV :
    (((newSubscription sp mghName mgh).field "spec").field "startingCSV").asStr = "" := rfl

theorem typed_newSubscription_spec (ht : TolerationsTyped mgh) :
    (Ty.struct subscriptionSpecFields).typed
        ((newSubscription sp mghName mgh).field "spec") = true := by
  have hns : Ty.map.typed (stringMapJson mgh.nodeSelector) = true := by
    cases mgh.nodeSelector <;> rfl
  have hts : (Ty.slice corev1TolerationTy).typed
      ((mgh.tolerations.map Json.arr).getD .null) = true := by
    cases h : mgh.tolerations with
    | none => rfl
    | some ts => exact List.all_eq_true.mpr (ht ts h)
  show (true && (true && (true && (true && (true && (true &&
    ((Ty.map.typed (stringMapJson mgh.nodeSelector) &&
      ((Ty.slice corev1TolerationTy).typed ((mgh.tolerations.map Json.arr).getD .null) && true))
          && true))))))) = true
  rw [hns, hts]
  rfl

theorem typed_newSubscription (ht : TolerationsTyped mgh) :
    subscriptionTy.typed (newSubscription sp mghName mgh) = true := by
  show (true && (true && (true &&
    ((Ty.struct subscriptionSpecFields).typed
        ((newSubscription sp mghName mgh).field "spec") && true)))) = true
  rw [typed_newSubscription_spec sp mghName mgh ht]
  rfl

theorem typed_spec_of_decode {b e : Json} (hb : subscriptionTy.decode b = some e)
    (hs : e.field "spec" ≠ .null) :
    (Ty.struct subscriptionSpecFields).typed (e.field "spec") = true := by
  have he := ((Ty.typed_struct_iff _ e).mp (Ty.typed_of_decode _ subscriptionTy_distinct hb)).2
    ("spec", false, subscriptionSpecTy) (by simp [subscriptionTy])
  rwa [subscriptionSpecTy, Ty.typed_ptr_of_ne_null _ hs] at he

theorem typed_setSpec {e S : Json} (he : subscriptionTy.typed e = true)
    (hS : (Ty.struct subscriptionSpecFields).typed S = true) :
    subscriptionTy.typed (e.setField "spec" (S.setField "startingCSV" (.str ""))) = true := by
  obtain ⟨⟨ms, rfl⟩, -⟩ := (Ty.typed_struct_iff _ S).mp hS
  obtain ⟨⟨ns, rfl⟩, -⟩ := (Ty.typed_struct_iff _ e).mp he
  have hS' := @Ty.typed_setField subscriptionSpecFields (by decide) ("startingCSV", true, .string)
    (by simp [subscriptionSpecFields]) ms (.str "") hS rfl
  refine @Ty.typed_setField _ (by decide) ("spec", false, subscriptionSpecTy) (by simp) ns _ he ?_
  show subscriptionSpecTy.typed _ = true
  rwa [subscriptionSpecTy, Ty.typed_ptr_of_ne_null _ (by simp [Json.setField])]

theorem field_encode_metadata (v : Json) :
    (subscriptionTy.encode v).field "metadata" = objectMetaTy.encode (v.field "metadata") :=
  @Ty.field_encode_struct _ (by decide) ("metadata", false, objectMetaTy)
      (by simp [subscriptionTy]) v

theorem field_encode_spec (v : Json) :
    (subscriptionTy.encode v).field "spec" = subscriptionSpecTy.encode (v.field "spec") :=
  @Ty.field_encode_struct _ (by decide) ("spec", false, subscriptionSpecTy)
      (by simp [subscriptionTy]) v

end Typing

section Runs
variable (sp : SubscriptionProperties) (mghName : String) (mgh : Mgh) {s : Store}

theorem ensureSubscription_run_of_none (h : s.objects subscriptionKind mgh.ns sp.subName = none) :
    (ensureSubscription sp mghName mgh).run s =
      ⟨.ok (), s.write subscriptionKind mgh.ns sp.subName
          (subscriptionTy.encode (newSubscription sp mghName mgh)),
        [.get subscriptionKind mgh.ns sp.subName, .create subscriptionKind mgh.ns sp.subName]⟩ := by
  rw [ensureSubscription, Prog.run_get, Store.get_of_none h]
  simp only [Prog.run_create, Store.create_of_none _ h, Prog.run_pure]

theorem ensureSubscription_run_of_spec {v : Nat} {b e : Json}
    (h : s.objects subscriptionKind mgh.ns sp.subName = some (v, b))
        (hb : subscriptionTy.decode b = some e)
    (hs : e.field "spec" ≠ .null) :
    (ensureSubscription sp mghName mgh).run s =
      ⟨.ok (), s.write subscriptionKind mgh.ns sp.subName (subscriptionTy.encode (e.setField "spec"
          ((if !subscriptionSpecTy.semanticDeepEqual (e.field "spec")
              ((newSubscription sp mghName mgh).field "spec")
            then (newSubscription sp mghName mgh).field "spec" else e.field "spec").setField
                "startingCSV"
              (.str "")))),
        [.get subscriptionKind mgh.ns sp.subName, .update subscriptionKind mgh.ns sp.subName]⟩ := by
  rw [ensureSubscription, Prog.run_get, Store.get_of_some h]
  simp only [hb, updateSubscription, if_neg hs, newSubscription_startingCSV,
      ite_self, Prog.run_update,
    Store.update_of_version _ h, Prog.run_pure]

theorem ensureSubscription_run_of_null_spec {v : Nat} {b e : Json}
    (h : s.objects subscriptionKind mgh.ns sp.subName = some (v, b))
        (hb : subscriptionTy.decode b = some e)
    (hs : e.field "spec" = .null) :
    (ensureSubscription sp mghName mgh).run s =
      ⟨.panic nilDereference, s, [.get subscriptionKind mgh.ns sp.subName]⟩ := by
  rw [ensureSubscription, Prog.run_get, Store.get_of_some h]
  simp only [hb, updateSubscription, if_pos hs, Prog.run_pure]

end Runs

/-- The Subscription stored under the transporter's key with a spec, and with its metadata
encoded as `metadata`. -/
def StoredWithSpec (sp : SubscriptionProperties) (mgh : Mgh) (metadata : Json) (s : Store) : Prop :=
  ∃ v b e, s.objects subscriptionKind mgh.ns sp.subName = some (v, b) ∧
      subscriptionTy.decode b = some e ∧
    e.field "spec" ≠ .null ∧ (subscriptionTy.encode e).field "metadata" = metadata

section Settling
variable (sp : SubscriptionProperties) (mghName : String) {mgh : Mgh} (ht : TolerationsTyped mgh)
include ht

theorem typed_written_spec {b e : Json} (hb : subscriptionTy.decode b = some e)
    (hs : e.field "spec" ≠ .null) :
    (Ty.struct subscriptionSpecFields).typed
      (if !subscriptionSpecTy.semanticDeepEqual (e.field "spec")
          ((newSubscription sp mghName mgh).field "spec")
        then (newSubscription sp mghName mgh).field "spec" else e.field "spec") = true := by
  split
  · exact typed_newSubscription_spec sp mghName mgh ht
  · exact typed_spec_of_decode hb hs

theorem ensureSubscription_run_of_stored {metadata : Json} {s : Store}
    (hs : StoredWithSpec sp mgh metadata s) :
    ((ensureSubscription sp mghName mgh).run s).result = .ok () ∧
      ((ensureSubscription sp mghName mgh).run s).calls =
        [.get subscriptionKind mgh.ns sp.subName, .update subscriptionKind mgh.ns sp.subName] ∧
      StoredWithSpec sp mgh metadata ((ensureSubscription sp mghName mgh).run s).store := by
  obtain ⟨v, b, e, hsb, hb, hspec, hmeta⟩ := hs
  rw [ensureSubscription_run_of_spec sp mghName mgh hsb hb hspec]
  refine ⟨rfl, rfl, ?_⟩
  have he := Ty.typed_of_decode _ subscriptionTy_distinct hb
  have hx := typed_setSpec he (typed_written_spec sp mghName ht hb hspec)
  obtain ⟨w, hw, hew⟩ := Ty.decode_encode _ subscriptionTy_distinct hx
  obtain ⟨⟨ns, rfl⟩, -⟩ := (Ty.typed_struct_iff _ _).mp he
  refine ⟨_, _, w, Store.write_objects_self .., hw, fun h0 => ?_, ?_⟩
  · obtain ⟨⟨ms, hms⟩, -⟩ := (Ty.typed_struct_iff _ _).mp
      (typed_written_spec sp mghName ht hb hspec)
    have hsp := congrArg (Json.field "spec") hew
    rw [field_encode_spec, field_encode_spec, h0, Json.field_setField, if_pos rfl, hms] at hsp
    exact absurd hsp.symm fun h => by cases h
  · rw [← hmeta, congrArg (Json.field "metadata") hew, field_encode_metadata, field_encode_metadata,
      Json.field_setField, if_neg (by decide)]

/-- `ensureSubscription` never settles. From a store holding its Subscription with a spec, every
run, the first and each one after it, reads the Subscription and writes it back whatever spec
the store holds, and returns nil; each leaves the Subscription stored with a spec and with the
metadata it was first read with, so labels the stored Subscription lacks, those
`newSubscription` sets included, are never added. -/
theorem ensureSubscription_writes_every_run {s : Store} {v : Nat} {b e : Json}
    (hs : s.objects subscriptionKind mgh.ns sp.subName = some (v, b))
        (hb : subscriptionTy.decode b = some e)
    (hspec : e.field "spec" ≠ .null) (n : Nat) :
    ((ensureSubscription sp mghName mgh).run
        ((ensureSubscription sp mghName mgh).rerun n s)).result = .ok () ∧
      ((ensureSubscription sp mghName mgh).run
          ((ensureSubscription sp mghName mgh).rerun n s)).calls =
        [.get subscriptionKind mgh.ns sp.subName, .update subscriptionKind mgh.ns sp.subName] ∧
      StoredWithSpec sp mgh ((subscriptionTy.encode e).field "metadata")
        ((ensureSubscription sp mghName mgh).run
            ((ensureSubscription sp mghName mgh).rerun n s)).store :=
  ensureSubscription_run_of_stored sp mghName ht
    (Prog.rerun_invariant _ (P := StoredWithSpec sp mgh
        ((subscriptionTy.encode e).field "metadata"))
      (fun _ hs => (ensureSubscription_run_of_stored sp mghName ht hs).2.2)
          ⟨v, b, e, hs, hb, hspec, rfl⟩ n)

end Settling

namespace Ty

theorem semanticDeepEqual_struct_iff (fs : List (String × Bool × Ty)) (a b : Json) :
    (Ty.struct fs).semanticDeepEqual a b = true ↔
      ∀ f ∈ fs, f.2.2.semanticDeepEqual (a.field f.1) (b.field f.1) = true := by
  show semanticDeepEqualFields fs a b = true ↔ _
  induction fs with
  | nil => exact iff_of_true rfl (by simp)
  | cons f fs ih =>
      obtain ⟨n, om, t⟩ := f
      show (semanticDeepEqual t (a.field n) (b.field n) &&
        semanticDeepEqualFields fs a b) = true ↔ _
      rw [Bool.and_eq_true, ih, List.forall_mem_cons]

theorem semanticDeepEqual_ptr_of_ne_null (t : Ty) {a b : Json} (ha : a ≠ .null) (hb : b ≠ .null) :
    (Ty.ptr t).semanticDeepEqual a b = t.semanticDeepEqual a b := by
  cases a <;> cases b <;> first | exact absurd rfl ha | exact absurd rfl hb | rfl

theorem semanticDeepEqual_map_iff (a b : Json) :
    Ty.map.semanticDeepEqual a b = true ↔
      (Ty.map.isEmpty a = true ∧ Ty.map.isEmpty b = true) ∨ a.deepEqual b = true := by
  simp only [semanticDeepEqual, Bool.or_eq_true, Bool.and_eq_true]

end Ty

section Placement
variable (labels : List (String × String))

theorem deepEqual_str_right {x : Json} {a : String}
    (h : Json.deepEqual x (.str a) = true) : x = .str a := by
  cases x with
  | str b => rw [beq_iff_eq.mp h]
  | _ => cases h

theorem mem_iff_of_lookup {xs ys : List (String × Json)} (hx : (xs.map Prod.fst).Nodup)
    (hy : (ys.map Prod.fst).Nodup) (h : ∀ k, xs.lookup k = ys.lookup k) (m : String × Json) :
    m ∈ xs ↔ m ∈ ys :=
  ⟨fun hm => mem_of_lookup_eq_some ((h m.1).symm.trans (lookup_eq_some_of_mem hx hm)),
    fun hm => mem_of_lookup_eq_some ((h m.1).trans (lookup_eq_some_of_mem hy hm))⟩

theorem stringMap_entries {ns : List (String × String)} (h : (ns.map Prod.fst).Nodup) :
    StringMap (ns.map fun (k, v) => (k, Json.str v)) :=
  ⟨by simpa [List.map_map] using h, fun m hm => by
    obtain ⟨⟨k, v⟩, -, rfl⟩ := List.mem_map.mp hm; exact ⟨v, rfl⟩⟩

theorem stringMapJson_self {sel : Option (List (String × String))}
    (hkeys : ∀ ns, sel = some ns → (ns.map Prod.fst).Nodup) :
    Json.deepEqual (stringMapJson sel) (stringMapJson sel) = true ∧
      ∀ ms, stringMapJson sel = .obj ms → (ms.map Prod.fst).Nodup := by
  cases sel with
  | none => exact ⟨rfl, fun _ h => by cases h⟩
  | some ns =>
      have hy := stringMap_entries (hkeys ns rfl)
      exact ⟨(deepEqual_obj_iff hy hy).mpr fun _ => rfl, fun ms h => by cases h; exact hy.nodup⟩

theorem selectorAdmits_nodeSelectorOf (ms : List (String × Json)) :
    selectorAdmits labels (nodeSelectorOf (.obj ms)) = true ↔ ∀ m ∈ ms, labels.lookup m.1 =
        some m.2.asStr := by
  show (ms.map fun m => (m.1, m.2.asStr)).all
      (fun (key, value) => labels.lookup key = some value) = true ↔ _
  simp only [List.all_eq_true, List.forall_mem_map, decide_eq_true_eq]

theorem selectorAdmits_of_deepEqual {sel : Option (List (String × String))} (hsel : sel ≠ some [])
    (hkeys : ∀ ns, sel = some ns → (ns.map Prod.fst).Nodup) {d : Json}
    (hdk : ∀ ms, d = .obj ms → (ms.map Prod.fst).Nodup)
        (h : Json.deepEqual d (stringMapJson sel) = true) :
    selectorAdmits labels (nodeSelectorOf (Ty.map.encodeOmitEmpty d)) =
        selectorAdmits labels sel := by
  cases sel with
  | none => cases d <;> first | rfl | cases h
  | some ns =>
      cases d with
      | obj xs =>
          have hy := stringMap_entries (hkeys ns rfl)
          have hm := (deepEqualMembers_iff _ _).mp (Bool.and_eq_true _ _ ▸ h).2
          have hx : StringMap xs := ⟨hdk xs rfl, fun m hmx => by
            obtain ⟨y, hy', hmy⟩ := hm m hmx
            obtain ⟨v, hv⟩ := hy.strings _ (mem_of_lookup_eq_some hy')
            rw [show y = .str v from hv] at hmy
            exact ⟨v, deepEqual_str_right hmy⟩⟩
          have hl := (deepEqual_obj_iff hx hy).mp h
          have hne : xs ≠ [] := by
            rintro rfl
            cases ns with
            | nil => exact hsel rfl
            | cons p l =>
                have h1 := hl p.1
                rw [List.map_cons, lookup_cons_eq_ite, if_pos rfl] at h1
                cases h1
          rw [Ty.encodeOmitEmpty, if_neg (by simpa [Ty.isEmpty] using hne)]
          refine Bool.eq_iff_iff.mpr ((selectorAdmits_nodeSelectorOf labels xs).trans ?_)
          simp only [selectorAdmits, Option.getD_some, List.all_eq_true, decide_eq_true_eq]
          refine ⟨fun H kv hkv => ?_, fun H m hmx => ?_⟩
          · have := H _ ((mem_iff_of_lookup hx.nodup hy.nodup hl _).mpr (List.mem_map_of_mem _ hkv))
            simpa using this
          · obtain ⟨⟨k, v⟩, hkv, rfl⟩ :=
              List.mem_map.mp ((mem_iff_of_lookup hx.nodup hy.nodup hl _).mp hmx)
            exact H _ hkv
      | _ => cases ns <;> cases h

theorem selectorAdmits_of_semanticDeepEqual {sel : Option (List (String × String))}
    (hsel : sel ≠ some [])
    (hkeys : ∀ ns, sel = some ns → (ns.map Prod.fst).Nodup) {d : Json}
    (hdk : ∀ ms, d = .obj ms → (ms.map Prod.fst).Nodup)
    (h : Ty.map.semanticDeepEqual d (stringMapJson sel) = true) :
    selectorAdmits labels (nodeSelectorOf (Ty.map.encodeOmitEmpty d)) =
        selectorAdmits labels sel := by
  rcases (Ty.semanticDeepEqual_map_iff _ _).mp h with ⟨hd, hs⟩ | h
  · have hnone : sel = none := by
      rcases sel with _ | (_ | ⟨p, ns⟩)
      · rfl
      · exact absurd rfl hsel
      · cases hs
    rw [hnone, Ty.encodeOmitEmpty, if_pos hd]
    rfl
  · exact selectorAdmits_of_deepEqual labels hsel hkeys hdk h

theorem subscriptionNodeSelector_encode (x : Json) :
    subscriptionNodeSelector (subscriptionTy.encode x) =
      nodeSelectorOf (Ty.map.encodeOmitEmpty (x.fieldAt ["spec", "config", "nodeSelector"])) :=
  congrArg nodeSelectorOf (@Ty.encode_fieldAt_omitEmpty subscriptionTy subscriptionTy_distinct
    ["spec", "config"] _ rfl _ _ (.head _) rfl x)

theorem fieldAt_setSpec {e S : Json} (he : ∃ ns, e = .obj ns) (hS : ∃ ms, S = .obj ms) :
    (e.setField "spec" (S.setField "startingCSV" (.str ""))).fieldAt
        ["spec", "config", "nodeSelector"] =
      S.fieldAt ["config", "nodeSelector"] := by
  obtain ⟨ns, rfl⟩ := he
  obtain ⟨ms, rfl⟩ := hS
  simp only [Json.fieldAt_cons, Json.fieldAt_nil, Json.field_setField, if_true,
    if_neg (by decide : "config" ≠ "startingCSV")]

theorem semanticDeepEqual_nodeSelector_of_spec (sp : SubscriptionProperties)
    (mghName : String) (mgh : Mgh)
    {S : Json} (hS : S ≠ .null)
    (h : subscriptionSpecTy.semanticDeepEqual S
        ((newSubscription sp mghName mgh).field "spec") = true) :
    Ty.map.semanticDeepEqual (S.fieldAt ["config", "nodeSelector"])
        (stringMapJson mgh.nodeSelector) = true := by
  rw [subscriptionSpecTy, Ty.semanticDeepEqual_ptr_of_ne_null _ hS fun h => by cases h] at h
  have hc := (Ty.semanticDeepEqual_struct_iff _ _ _).mp h
      ("config", true, .ptr subscriptionConfigTy)
    (by simp [subscriptionSpecFields])
  by_cases hcn : S.field "config" = .null
  · rw [hcn] at hc; cases hc
  · rw [Ty.semanticDeepEqual_ptr_of_ne_null _ hcn fun h => by cases h] at hc
    exact (Ty.semanticDeepEqual_struct_iff _ _ _).mp hc ("nodeSelector", true, .map) (.head _)

theorem ensureSubscription_run_nodeSelector (sp : SubscriptionProperties)
    (mghName : String) (mgh : Mgh)
    (hkeys : ∀ ns, mgh.nodeSelector = some ns → (ns.map Prod.fst).Nodup) {s : Store}
    (hs : s.objects subscriptionKind mgh.ns sp.subName = none ∨
      ∃ v b e, s.objects subscriptionKind mgh.ns sp.subName = some (v, b) ∧
          subscriptionTy.decode b = some e ∧
        e.field "spec" ≠ .null ∧ ∀ ms, e.fieldAt ["spec", "config", "nodeSelector"] = .obj ms →
            (ms.map Prod.fst).Nodup) :
    ((ensureSubscription sp mghName mgh).run s).result = .ok () ∧
      ∃ v' x, ((ensureSubscription sp mghName mgh).run s).store.objects
          subscriptionKind mgh.ns sp.subName =
          some (v', subscriptionTy.encode x) ∧
        (∀ ms, x.fieldAt ["spec", "config", "nodeSelector"] = .obj ms → (ms.map Prod.fst).Nodup) ∧
        Ty.map.semanticDeepEqual (x.fieldAt ["spec", "config", "nodeSelector"])
          (stringMapJson mgh.nodeSelector) = true := by
  obtain ⟨hexp, hexpk⟩ := stringMapJson_self hkeys
  replace hexp := (Ty.semanticDeepEqual_map_iff _ _).mpr (.inr hexp)
  rcases hs with hs | ⟨v, b, e, hsb, hb, hspec, hek⟩
  · rw [ensureSubscription_run_of_none sp mghName mgh hs]
    exact ⟨rfl, _, _, Store.write_objects_self .., hexpk, hexp⟩
  · rw [ensureSubscription_run_of_spec sp mghName mgh hsb hb hspec]
    refine ⟨rfl, _, _, Store.write_objects_self .., ?_⟩
    have he := ((Ty.typed_struct_iff _ _).mp (Ty.typed_of_decode _ subscriptionTy_distinct hb)).1
    have hS : ∀ S, (Ty.struct subscriptionSpecFields).typed S = true → ∃ ms, S = .obj ms :=
      fun S h => ((Ty.typed_struct_iff _ _).mp h).1
    split
    · rw [@fieldAt_setSpec _ ((newSubscription sp mghName mgh).field "spec") he ⟨_, rfl⟩]
      exact ⟨hexpk, hexp⟩
    · rename_i hdeq
      rw [fieldAt_setSpec he (hS _ (typed_spec_of_decode hb hspec))]
      exact ⟨hek, semanticDeepEqual_nodeSelector_of_spec sp mghName mgh hspec (by simpa using hdeq)⟩

end Placement

/-- The operator's pods and the Kafka pods are placed alike. Whenever the hub's node selector is
nil or sets a label, one run of `ensureSubscription`, from a store where the Subscription is
missing or stored with a spec, returns nil and leaves a Subscription whose operator pods admit
a node exactly when each pod template of the cluster `newKafkaCluster` builds admits it. -/
theorem ensureSubscription_places_operator_with_kafka
    (defaults : ResourceDefaults) (k : Transporter)
    (sp : SubscriptionProperties) (mghName : String) (mgh : Mgh) (labels : List (String × String))
    (hsel : mgh.nodeSelector ≠ some []) (hkeys : ∀ ns, mgh.nodeSelector = some ns →
        (ns.map Prod.fst).Nodup)
    {s : Store} (hs : s.objects subscriptionKind mgh.ns sp.subName = none ∨
      ∃ v b e, s.objects subscriptionKind mgh.ns sp.subName = some (v, b) ∧
          subscriptionTy.decode b = some e ∧
        e.field "spec" ≠ .null ∧ ∀ ms, e.fieldAt ["spec", "config", "nodeSelector"] = .obj ms →
            (ms.map Prod.fst).Nodup) :
    ((ensureSubscription sp mghName mgh).run s).result = .ok () ∧
      ∃ v' b', ((ensureSubscription sp mghName mgh).run s).store.objects
          subscriptionKind mgh.ns sp.subName =
          some (v', b') ∧
        ∃ c, newKafkaCluster defaults mgh k = .ok c ∧ ∀ comp ∈ kafkaComponents,
          affinityAdmits labels (templateAffinity c comp) =
              selectorAdmits labels (subscriptionNodeSelector b') := by
  obtain ⟨hr, v', x, hst, hxk, hxd⟩ := ensureSubscription_run_nodeSelector sp mghName mgh hkeys hs
  obtain ⟨c, hc, hpods⟩ := newKafkaCluster_pod_templates defaults mgh k
  refine ⟨hr, v', _, hst, c, hc, fun comp hcomp => ?_⟩
  rw [templateAffinity, show ["spec", comp, "template", "pod", "affinity"] =
      podPath comp "affinity" from rfl,
    (hpods comp hcomp).1, affinityAdmits_nodeSelector labels hsel, subscriptionNodeSelector_encode,
    selectorAdmits_of_semanticDeepEqual labels hsel hkeys hxk hxd]

theorem ensureSubscription_places_operator_on_infra :
    let k : Transporter := ⟨"kafka", "multicluster-global-hub",
        ⟨"gh-spec", "gh-status.*"⟩, 1, true, false⟩
    let defaults : ResourceDefaults := ⟨⟨"1Gi", "25m", "4Gi", "0"⟩, ⟨"500Mi", "20m", "3Gi", "0"⟩⟩
    let mgh : Mgh := ⟨"multicluster-global-hub",
        some [("node-role.kubernetes.io/infra", "")], none, "", false,
      "", "10Gi", none, none⟩
    let sp := newSubscriptionProperties defaultKafkaSubName false
    let labels := [("node-role.kubernetes.io/infra", "")]
    mgh.nodeSelector ≠ some [] ∧ (∀ ns, mgh.nodeSelector = some ns → (ns.map Prod.fst).Nodup) ∧
      ((ensureSubscription sp "multicluster-global-hub" mgh).run Store.empty).result = .ok () ∧
      ∃ v' b', ((ensureSubscription sp "multicluster-global-hub" mgh).run Store.empty).store.objects
          subscriptionKind mgh.ns sp.subName = some (v', b') ∧
        ∃ c, newKafkaCluster defaults mgh k = .ok c ∧ ∀ comp ∈ kafkaComponents,
          affinityAdmits labels (templateAffinity c comp) =
              selectorAdmits labels (subscriptionNodeSelector b') := by
  intro k defaults mgh sp labels
  have hsel : mgh.nodeSelector ≠ some [] := by decide
  have hkeys : ∀ ns, mgh.nodeSelector = some ns → (ns.map Prod.fst).Nodup := fun ns h => by
    cases h; decide
  exact ⟨hsel, hkeys, ensureSubscription_places_operator_with_kafka defaults k sp _ mgh labels
      hsel hkeys (.inl rfl)⟩

theorem ensureSubscription_writes_every_run_amq :
    let sp := newSubscriptionProperties defaultKafkaSubName false
    let mgh : Mgh := ⟨"multicluster-global-hub", none, none, "", false, "", "10Gi", none, none⟩
    let b : Json := .obj [("metadata", .obj [("name", .str defaultKafkaSubName)]),
      ("spec", .obj [("source", .str defaultCatalogSourceName),
          ("name", .str defaultAMQPackageName),
        ("channel", .str defaultAMQChannel)])]
    let s := Store.empty.write subscriptionKind mgh.ns sp.subName b
    TolerationsTyped mgh ∧ subscriptionTy.decode b = some ((subscriptionTy.decode b).getD .null) ∧
      ((subscriptionTy.decode b).getD .null).field "spec" ≠ .null ∧
      ((ensureSubscription sp "multicluster-global-hub" mgh).run
        ((ensureSubscription sp "multicluster-global-hub" mgh).rerun 2 s)).calls =
        [.get subscriptionKind mgh.ns sp.subName, .update subscriptionKind mgh.ns sp.subName] := by
  intro sp mgh b s
  have ht : TolerationsTyped mgh := fun _ h => by cases h
  have hb : subscriptionTy.decode b = some ((subscriptionTy.decode b).getD .null) := rfl
  have hspec : ((subscriptionTy.decode b).getD .null).field "spec" ≠ .null := by decide
  exact ⟨ht, hb, hspec, (ensureSubscription_writes_every_run sp "multicluster-global-hub" ht
    (Store.write_objects_self ..) hb hspec 2).2.1⟩

end StrimziTransport
