import StrimziTransport.PodTemplates

/-!
Where the Kubernetes scheduler may place a pod, read off the JSON the API server holds.
`newSubscription` hands the hub's node selector to the operator pods as a pod `nodeSelector`;
`setAffinity` hands it to the Kafka, ZooKeeper and entity-operator pods as a required node
affinity. The two are compared on a node's label map, a list whose first entry for a key is
its value. These semantics are Kubernetes', not code of the repository.
-/

namespace StrimziTransport

section Scheduling
variable (labels : List (String × String))

/-- A `NodeSelectorRequirement` on the node's labels. `Gt` and `Lt`, which compare integers,
and requirements without a known operator admit no node. -/
def requirementAdmits (req : Json) : Bool :=
  let values := (req.field "values").arrElems
  match req.field "operator", labels.lookup (req.field "key").asStr with
  | .str "In", some v => values.contains (.str v)
  | .str "NotIn", some v => !values.contains (.str v)
  | .str "NotIn", none => true
  | .str "Exists", some _ => true
  | .str "DoesNotExist", none => true
  | _, _ => false

/-- A `NodeSelectorTerm`: the conjunction of its requirements; a term without any matches no
node. `matchFields`, which select on node fields and which no modelled code sets, are left
out. -/
def termAdmits (term : Json) : Bool :=
  let reqs := (term.field "matchExpressions").arrElems
  !reqs.isEmpty && reqs.all (requirementAdmits labels)

/-- A pod affinity: with a required node affinity, some term of it admits the node; without
one, every node does. -/
def affinityAdmits (affinity : Json) : Bool :=
  match (affinity.field "nodeAffinity").field "requiredDuringSchedulingIgnoredDuringExecution" with
  | .null => true
  | required => (required.field "nodeSelectorTerms").arrElems.any (termAdmits labels)

/-- A pod `nodeSelector`: the node carries every one of its labels. A nil or empty selector
selects every node. -/
def selectorAdmits (nodeSelector : Option (List (String × String))) : Bool :=
  (nodeSelector.getD []).all fun (key, value) => labels.lookup key = some value

end Scheduling

/-- The affinity of a component's pod template in the object the API server holds. -/
def templateAffinity (kafkaCluster : Json) (component : String) : Json :=
  (kafkaTy.encode kafkaCluster).fieldAt ["spec", component, "template", "pod", "affinity"]

section Affinity

theorem encode_nodeSelectorReqs (nodeSelector : List (String × String)) :
    (nodeSelectorReqs nodeSelector).map corev1NodeSelectorRequirementTy.encode =
        nodeSelectorReqs nodeSelector ∧
      (nodeSelectorReqs nodeSelector).map nodeSelectorRequirementTy.encode =
          nodeSelectorReqs nodeSelector ∧
      (nodeSelectorReqs nodeSelector).all nodeSelectorRequirementTy.typed = true := by
  induction nodeSelector with
  | nil => exact ⟨rfl, rfl, rfl⟩
  | cons p ns ih =>
      obtain ⟨k, v⟩ := p
      exact ⟨congrArg (List.cons _) ih.1, congrArg (List.cons _) ih.2.1, ih.2.2⟩

theorem nodeSelectorTerms_eq (p : String × String) (ns : List (String × String)) :
    (Ty.slice nodeSelectorTermTy).encodeOmitEmpty ((((Ty.slice nodeSelectorTermTy).decode
      ((Ty.slice corev1NodeSelectorTermTy).encode
        (.arr [.obj [("matchExpressions", .arr (nodeSelectorReqs (p :: ns)))]])))).getD (.arr [])) =
      .arr [.obj [("matchExpressions", .arr (nodeSelectorReqs (p :: ns)))]] := by
  obtain ⟨h₁, h₂, h₃⟩ := encode_nodeSelectorReqs (p :: ns)
  have hcore : (Ty.slice corev1NodeSelectorTermTy).encode
      (.arr [.obj [("matchExpressions", .arr (nodeSelectorReqs (p :: ns)))]]) =
        .arr [.obj [("matchExpressions", .arr (nodeSelectorReqs (p :: ns)))]] := by
    show Json.arr [.obj [("matchExpressions",
      .arr ((nodeSelectorReqs (p :: ns)).map corev1NodeSelectorRequirementTy.encode))]] = _
    rw [h₁]
  have henc : (Ty.slice nodeSelectorTermTy).encode
      (.arr [.obj [("matchExpressions", .arr (nodeSelectorReqs (p :: ns)))]]) =
        .arr [.obj [("matchExpressions", .arr (nodeSelectorReqs (p :: ns)))]] := by
    show Json.arr [.obj [("matchExpressions",
      .arr ((nodeSelectorReqs (p :: ns)).map nodeSelectorRequirementTy.encode))]] = _
    rw [h₂]
  have htyped : (Ty.slice nodeSelectorTermTy).typed
      (.arr [.obj [("matchExpressions", .arr (nodeSelectorReqs (p :: ns)))]]) = true := by
    show ((nodeSelectorReqs (p :: ns)).all nodeSelectorRequirementTy.typed &&
        (true && true) && true) = true
    rw [h₃]
    rfl
  obtain ⟨w, hw, hew⟩ := Ty.decode_encode _ (by decide) htyped
  rw [henc] at hw hew
  rw [hcore, hw, Option.getD_some, Ty.encodeOmitEmpty,
    Ty.isEmpty_congr _ (Ty.typed_of_decode _ (by decide) hw) htyped
        (hew.trans henc.symm), if_neg (by
      show ¬(nodeSelectorReqs (p :: ns)).isEmpty = true
      exact fun h => by cases h), hew]

theorem requirementAdmits_req (labels : List (String × String)) (key value : String) :
    requirementAdmits labels
        (.obj [("key", .str key), ("operator", .str nodeSelectorOpIn),
            ("values", .arr [.str value])]) =
      decide (labels.lookup key = some value) := by
  simp [requirementAdmits, nodeSelectorOpIn]
  cases labels.lookup key <;> simp

theorem all_requirementAdmits (labels nodeSelector : List (String × String)) :
    (nodeSelectorReqs nodeSelector).all (requirementAdmits labels) =
      nodeSelector.all fun (key, value) => decide (labels.lookup key = some value) := by
  induction nodeSelector with
  | nil => rfl
  | cons kv ns ih => exact congrArg₂ (· && ·) (requirementAdmits_req labels kv.1 kv.2) ih

theorem affinityAdmits_podAffinity (labels : List (String × String)) (p : String × String)
    (ns : List (String × String)) :
    affinityAdmits labels ((Ty.ptr affinityTy).encodeOmitEmpty (podAffinity (p :: ns))) =
      selectorAdmits labels (some (p :: ns)) := by
  have hd : (Ty.ptr affinityTy).distinct = true := by decide
  have hp : (Ty.ptr affinityTy).ptrPath ["nodeAffinity",
      "requiredDuringSchedulingIgnoredDuringExecution"] =
      some (.struct [("nodeSelectorTerms", true, .slice nodeSelectorTermTy)]) := rfl
  have hreq := Ty.encode_fieldAt _ hd hp (podAffinity (p :: ns))
  have hterms := Ty.encode_fieldAt_omitEmpty _ hd hp (.head _) rfl (podAffinity (p :: ns))
  have hX : (podAffinity (p :: ns)).fieldAt
      (["nodeAffinity", "requiredDuringSchedulingIgnoredDuringExecution"] ++
        ["nodeSelectorTerms"]) =
        ((Ty.slice nodeSelectorTermTy).decode ((Ty.slice corev1NodeSelectorTermTy).encode
          (.arr [.obj [("matchExpressions", .arr (nodeSelectorReqs (p :: ns)))]]))).getD
            (.arr []) := rfl
  obtain ⟨ms, hms⟩ : ∃ ms, ((Ty.ptr affinityTy).encode (podAffinity (p :: ns))).fieldAt
      ["nodeAffinity", "requiredDuringSchedulingIgnoredDuringExecution"] =
          .obj ms := ⟨_, hreq.trans rfl⟩
  rw [hX, nodeSelectorTerms_eq, Json.fieldAt_append, hms] at hterms
  rw [Json.fieldAt_cons, Json.fieldAt_cons, Json.fieldAt_nil] at hms
  rw [Ty.encodeOmitEmpty, if_neg (fun h => by cases h)]
  unfold affinityAdmits
  rw [hms]
  dsimp only
  rw [show (Json.obj ms).field "nodeSelectorTerms" = _ from hterms]
  show ((nodeSelectorReqs (p :: ns)).all (requirementAdmits labels) || false) = _
  rw [Bool.or_false, all_requirementAdmits]
  rfl

theorem affinityAdmits_nodeSelector (labels : List (String × String))
    {nodeSelector : Option (List (String × String))} (hs : nodeSelector ≠ some []) :
    affinityAdmits labels ((Ty.ptr affinityTy).encodeOmitEmpty
        ((nodeSelector.map podAffinity).getD .null)) =
      selectorAdmits labels nodeSelector := by
  cases nodeSelector with
  | none => rfl
  | some nodeSelector =>
      cases nodeSelector with
      | nil => exact absurd rfl hs
      | cons p ns => exact affinityAdmits_podAffinity labels p ns

end Affinity

/-- An empty node selector that is not nil is a selector all the same: `setAffinity` turns it
into one term without requirements, which matches no node, while as a pod `nodeSelector` it
selects every node. Whatever labels a node carries, none of the three templates admits it. -/
theorem newKafkaCluster_empty_selector_admits_no_node (labels : List (String × String)) :
    let k : Transporter := ⟨"kafka", "multicluster-global-hub",
        ⟨"gh-spec", "gh-status.*"⟩, 1, true, false⟩
    let defaults : ResourceDefaults := ⟨⟨"1Gi", "25m", "4Gi", "0"⟩, ⟨"500Mi", "20m", "3Gi", "0"⟩⟩
    let mgh : Mgh :=
      ⟨"multicluster-global-hub", some [], none, "", false, "", "10Gi", none, none⟩
    (fun c => kafkaComponents.map fun comp => affinityAdmits labels (templateAffinity c comp)) <$>
        newKafkaCluster defaults mgh k = .ok [false, false, false] ∧
      selectorAdmits labels mgh.nodeSelector = true := by
  exact ⟨rfl, rfl⟩

/-- A node selector that is nil or sets a label places the Kafka, ZooKeeper and
entity-operator pods where `newSubscription` places the operator pods: whatever labels a
node carries, each template's affinity admits it exactly when the selector does, and neither
`setTolerations`, `setMetricsConfig` nor the merge patch of `setImagePullSecret` changes that. -/
theorem newKafkaCluster_admits_as_selector (defaults : ResourceDefaults)
    (mgh : Mgh) (k : Transporter)
    (labels : List (String × String)) (hs : mgh.nodeSelector ≠ some []) :
    ∃ c, newKafkaCluster defaults mgh k = .ok c ∧ ∀ comp ∈ kafkaComponents,
      affinityAdmits labels (templateAffinity c comp) = selectorAdmits labels mgh.nodeSelector := by
  obtain ⟨c, hc, hpods⟩ := newKafkaCluster_pod_templates defaults mgh k
  refine ⟨c, hc, fun comp hcomp => ?_⟩
  rw [templateAffinity, show ["spec", comp, "template", "pod", "affinity"] =
      podPath comp "affinity" from rfl,
    (hpods comp hcomp).1]
  exact affinityAdmits_nodeSelector labels hs

theorem newKafkaCluster_admits_infra_node :
    let k : Transporter := ⟨"kafka", "multicluster-global-hub",
        ⟨"gh-spec", "gh-status.*"⟩, 1, true, false⟩
    let defaults : ResourceDefaults := ⟨⟨"1Gi", "25m", "4Gi", "0"⟩, ⟨"500Mi", "20m", "3Gi", "0"⟩⟩
    let mgh : Mgh := ⟨"multicluster-global-hub",
        some [("node-role.kubernetes.io/infra", "")], none, "", false,
      "", "10Gi", none, none⟩
    mgh.nodeSelector ≠ some [] ∧ ∃ c, newKafkaCluster defaults mgh k = .ok c ∧
        ∀ comp ∈ kafkaComponents,
      affinityAdmits [("node-role.kubernetes.io/infra", "")] (templateAffinity c comp) =
        selectorAdmits [("node-role.kubernetes.io/infra", "")] mgh.nodeSelector :=
  ⟨by decide, newKafkaCluster_admits_as_selector _ _ _ _ (by decide)⟩

end StrimziTransport
