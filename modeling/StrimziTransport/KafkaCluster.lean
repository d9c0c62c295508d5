import StrimziTransport.FieldPath
import StrimziTransport.KafkaResources
import StrimziTransport.Store

/-!
The `Kafka` cluster object: `newKafkaCluster` with its four setters, and
`CreateUpdateKafkaCluster`, which creates the cluster when it is missing and otherwise merges
the desired object into the stored one (`MergeObjects`), resets both metrics configs to the
desired ones, and writes the result back when `reflect.DeepEqual` tells the specs apart.
The Go types are those of the `kafka.strimzi.io/v1beta2` package of `strimzi-client-go`,
which is not in the sources: each lists the JSON members of its struct that the modelled
code sets or reads, with their `omitempty` tags. The Kafka, ZooKeeper and entity-operator
templates are three Go types with one JSON shape, so one type stands for the three.
-/

namespace StrimziTransport

def kafkaKind : String := "Kafka"

/-- `KafkaStorageIdentifier`, `KafkaStorageDeleteClaim` and `KafkaVersion`. -/
def kafkaStorageIdentifier : Int := 0

def kafkaStorageDeleteClaim : Bool := false

def kafkaVersion : String := "3.7.0"

def kakfaMetricsConfigmapName : String := "kafka-metrics"

def kafkaMetricsConfigmapKeyRef : String := "kafka-metrics-config.yml"

def zooKeeperMetricsConfigmapKeyRef : String := "zookeeper-metrics-config.yml"

/-- The annotation that stops `CreateUpdateKafkaCluster` from patching an existing cluster. -/
def skipPatchIfExist : String := "skip-patch-if-exist"

def nodeSelectorOpIn : String := "In"

section Types

/-! The `corev1` node-selector and toleration types `setAffinity` and `setTolerations` marshal,
and Strimzi's `kafkav1beta2` types, each named after its Go type with the Strimzi prefix left
off (`KafkaSpecKafkaTemplatePod` is `podTy`). -/

def corev1NodeSelectorRequirementTy : Ty :=
  .struct [("key", false, .string), ("operator", false, .string), ("values", true, .slice .string)]

def corev1NodeSelectorTermTy : Ty :=
  .struct [("matchExpressions", true, .slice corev1NodeSelectorRequirementTy),
    ("matchFields", true, .slice corev1NodeSelectorRequirementTy)]

def corev1TolerationTy : Ty :=
  .struct [("key", true, .string), ("operator", true, .string), ("value", true, .string),
    ("effect", true, .string), ("tolerationSeconds", true, .ptr .int)]

def nodeSelectorRequirementTy : Ty :=
  .struct [("key", true, .ptr .string), ("operator", true, .ptr .string),
    ("values", true, .slice .string)]

def nodeSelectorTermTy : Ty :=
  .struct [("matchExpressions", true, .slice nodeSelectorRequirementTy),
    ("matchFields", true, .slice nodeSelectorRequirementTy)]

/-- `…TemplatePodAffinity`; the preferred terms and the pod (anti-)affinities, which no
modelled code sets, are kept as raw documents. -/
def affinityTy : Ty :=
  .struct [("nodeAffinity", true, .ptr (.struct
      [("preferredDuringSchedulingIgnoredDuringExecution", true, .slice .raw),
        ("requiredDuringSchedulingIgnoredDuringExecution", true,
          .ptr (.struct [("nodeSelectorTerms", true, .slice nodeSelectorTermTy)]))])),
    ("podAffinity", true, .ptr .raw), ("podAntiAffinity", true, .ptr .raw)]

def tolerationTy : Ty :=
  .struct [("effect", true, .ptr .string), ("key", true, .ptr .string),
    ("operator", true, .ptr .string), ("tolerationSeconds", true, .ptr .int),
    ("value", true, .ptr .string)]

def podTy : Ty :=
  .struct [("affinity", true, .ptr affinityTy),
    ("imagePullSecrets", true, .slice (.struct [("name", true, .ptr .string)])),
    ("tolerations", true, .slice tolerationTy)]

def templateTy : Ty := .struct [("pod", true, .ptr podTy)]

def metricsConfigTy : Ty :=
  .struct [("type", false, .string), ("valueFrom", false, .struct [("configMapKeyRef", true,
    .ptr (.struct [("key", true, .ptr .string), ("name", true, .ptr .string),
      ("optional", true, .ptr .bool)]))])]

def resourcesTy : Ty := .struct [("limits", true, .map), ("requests", true, .map)]

def kafkaListenerTy : Ty :=
  .struct [("authentication", true, .ptr (.struct [("type", false, .string)])),
    ("name", false, .string), ("port", false, .int), ("tls", false, .bool),
        ("type", false, .string)]

def kafkaStorageVolumeTy : Ty :=
  .struct [("class", true, .ptr .string), ("deleteClaim", true, .ptr .bool),
      ("id", true, .ptr .int),
    ("size", true, .ptr .string), ("type", false, .string)]

def kafkaSpecKafkaFields : List (String × Bool × Ty) :=
  [("authorization", true, .ptr (.struct [("type", false, .string)])), ("config", true, .ptr .raw),
    ("listeners", false, .slice kafkaListenerTy), ("metricsConfig", true, .ptr metricsConfigTy),
    ("replicas", false, .int), ("resources", true, .ptr resourcesTy),
    ("storage", false, .struct [("type", false, .string),
        ("volumes", true, .slice kafkaStorageVolumeTy)]),
    ("template", true, .ptr templateTy), ("version", true, .ptr .string)]

def kafkaSpecZookeeperFields : List (String × Bool × Ty) :=
  [("metricsConfig", true, .ptr metricsConfigTy), ("replicas", false, .int),
    ("resources", true, .ptr resourcesTy),
    ("storage", false, .struct [("class", true, .ptr .string), ("deleteClaim", true, .ptr .bool),
      ("size", true, .ptr .string), ("type", false, .string)]),
    ("template", true, .ptr templateTy)]

def kafkaSpecEntityOperatorFields : List (String × Bool × Ty) :=
  [("template", true, .ptr templateTy), ("topicOperator", true, .ptr (.struct [])),
    ("userOperator", true, .ptr (.struct []))]

def kafkaSpecFields : List (String × Bool × Ty) :=
  [("entityOperator", true, .ptr (.struct kafkaSpecEntityOperatorFields)),
    ("kafka", false, .struct kafkaSpecKafkaFields),
        ("zookeeper", false, .struct kafkaSpecZookeeperFields)]

def kafkaSpecTy : Ty := .ptr (.struct kafkaSpecFields)

def kafkaTy : Ty := .struct [("metadata", true, objectMetaTy), ("spec", true, kafkaSpecTy)]

end Types

/-- Resource quantities as `Quantity.String` writes them, `"0"` for an unset one: those a
`v1alpha4.ResourceRequirements` of the hub sets, or a component's defaults. -/
structure Quantities where
  requestsMemory : String
  requestsCpu : String
  limitsMemory : String
  limitsCpu : String

/-- The quantities `GetResources` starts from for the Kafka and the ZooKeeper, constants of
`operator/pkg/constants`, which is not in the sources; neither sets a CPU limit. -/
structure ResourceDefaults where
  kafka : Quantities
  zookeeper : Quantities

/-- The `MulticlusterGlobalHub` as the cluster reconciler reads it. `nodeSelector` lists the
entries of the map in the order this call's `range` visits them: Go leaves that order
unspecified, and it may differ from one call to the next. `storageSize` is what
`config.GetKafkaStorageSize` returns, which is not in the sources. `kafkaResources` and
`zookeeperResources` are the resources of `Spec.AdvancedConfig` for the two components,
`none` when the config, the component or its resources are nil. -/
structure Mgh where
  ns : String
  nodeSelector : Option (List (String × String))
  tolerations : Option (List Json)
  imagePullSecret : String
  enableMetrics : Bool
  storageClass : String
  storageSize : String
  kafkaResources : Option Quantities
  zookeeperResources : Option Quantities

section Resources

/-- `setResourcesFromCR` on one quantity: the hub's when it sets one. -/
def quantityFromCR (res : Option Quantities) (get : Quantities → String) (q : String) : String :=
  match res with
  | some r => if get r = "0" then q else get r
  | none => q

def resourceList (quantities : List (String × String)) : Json :=
  .obj ((quantities.filter (·.2 ≠ "0")).map fun (n, q) => (n, .str q))

/-- `GetResources` for the Kafka or the ZooKeeper: the component's defaults, each replaced by
the one the hub sets. Both lists are written in the sorted order `json.Marshal` gives a map. -/
def getResources (defaults : Quantities) (res : Option Quantities) : Json :=
  .obj [("limits", resourceList [("cpu", quantityFromCR res (·.limitsCpu) defaults.limitsCpu),
      ("memory", quantityFromCR res (·.limitsMemory) defaults.limitsMemory)]),
    ("requests", resourceList [("cpu", quantityFromCR res (·.requestsCpu) defaults.requestsCpu),
      ("memory", quantityFromCR res (·.requestsMemory) defaults.requestsMemory)])]

/-- `getKafkaResources` and `getZookeeperResources`: the requirements marshalled and unmarshalled
into Strimzi's type; an error is only logged. -/
def specResources (defaults : Quantities) (res : Option Quantities) : Json :=
  (resourcesTy.decode (resourcesTy.encode (getResources defaults res))).getD (.obj [])

end Resources

section Builders
variable (defaults : ResourceDefaults) (mgh : Mgh)

def kafkaComponents : List String := ["kafka", "zookeeper", "entityOperator"]

/-- `nodeSelectorReqs` of `setAffinity`: one `In` requirement per entry, in visiting order. -/
def nodeSelectorReqs (nodeSelector : List (String × String)) : List Json :=
  nodeSelector.map fun (key, value) =>
    .obj [("key", .str key), ("operator", .str nodeSelectorOpIn), ("values", .arr [.str value])]

/-- The pod affinity `setAffinity` builds: one term holding every requirement, marshalled from
`corev1` and unmarshalled into Strimzi's terms; an unmarshal error is only logged. -/
def podAffinity (nodeSelector : List (String × String)) : Json :=
  let nodeSelectorTerms : Json := .arr [.obj
      [("matchExpressions", .arr (nodeSelectorReqs nodeSelector))]]
  let jsonData := (Ty.slice corev1NodeSelectorTermTy).encode nodeSelectorTerms
  let nodeSelectorTermsElem := ((Ty.slice nodeSelectorTermTy).decode jsonData).getD (.arr [])
  .obj [("nodeAffinity", .obj [("requiredDuringSchedulingIgnoredDuringExecution",
    .obj [("nodeSelectorTerms", nodeSelectorTermsElem)])])]

/-- The tolerations `setTolerations` builds from `mgh.Spec.Tolerations`. -/
def tolerationsElem (tolerations : List Json) : Json :=
  ((Ty.slice tolerationTy).decode
    ((Ty.slice corev1TolerationTy).encode (.arr tolerations))).getD (.arr [])

/-- What `setAffinity` and `setTolerations` share: one member of the pod template written into
the three components, whose templates are created holding only it when the Kafka has none. -/
def setPodMember (member : String) (value kafkaCluster : Json) : Outcome Json := do
  let template ← kafkaTy.read ["spec", "kafka", "template"] kafkaCluster
  if template = .null then
    kafkaTy.assignAll (kafkaComponents.map fun c => ["spec", c, "template"])
      (.obj [("pod", .obj [(member, value)])]) kafkaCluster
  else
    kafkaTy.assignAll (kafkaComponents.map fun c => ["spec", c, "template", "pod", member]) value
      kafkaCluster

def setAffinity (kafkaCluster : Json) : Outcome Json :=
  match mgh.nodeSelector with
  | none => .ok kafkaCluster
  | some nodeSelector => setPodMember "affinity" (podAffinity nodeSelector) kafkaCluster

def setTolerations (kafkaCluster : Json) : Outcome Json :=
  match mgh.tolerations with
  | none => .ok kafkaCluster
  | some tolerations => setPodMember "tolerations" (tolerationsElem tolerations) kafkaCluster

def metricsConfig (key : String) : Json :=
  .obj [("type", .str "jmxPrometheusExporter"), ("valueFrom", .obj [("configMapKeyRef",
    .obj [("name", .str kakfaMetricsConfigmapName), ("key", .str key)])])]

def setMetricsConfig (kafkaCluster : Json) : Outcome Json :=
  if mgh.enableMetrics then do
    let kafkaCluster ← kafkaTy.assign ["spec", "kafka", "metricsConfig"]
      (metricsConfig kafkaMetricsConfigmapKeyRef) kafkaCluster
    kafkaTy.assign ["spec", "zookeeper", "metricsConfig"]
        (metricsConfig zooKeeperMetricsConfigmapKeyRef)
      kafkaCluster
  else .ok kafkaCluster

/-- The spec is merge-patched with a copy whose three templates hold only the pull secret;
a failed patch or unmarshal is only logged and leaves the cluster as it was. -/
def setImagePullSecret (kafkaCluster : Json) : Outcome Json :=
  if mgh.imagePullSecret = "" then .ok kafkaCluster
  else do
    let existingKafkaSpec := kafkaCluster.field "spec"
    let desiredKafkaSpec ← kafkaSpecTy.assignAll
      [["entityOperator", "template"], ["kafka", "template"], ["zookeeper", "template"]]
      (.obj [("pod", .obj [("imagePullSecrets",
          .arr [.obj [("name", .str mgh.imagePullSecret)]])])])
      existingKafkaSpec
    match mergePatch (kafkaSpecTy.encode existingKafkaSpec)
        (kafkaSpecTy.encode desiredKafkaSpec) with
    | .error _ => .ok kafkaCluster
    | .ok patchedData =>
        match (Ty.struct kafkaSpecFields).decode patchedData with
        | none => .ok kafkaCluster
        | some updatedKafkaSpec => .ok (kafkaCluster.setField "spec" updatedKafkaSpec)

def kafkaConfig : Json :=
  .obj [("default.replication.factor", .num 3), ("inter.broker.protocol.version", .str "3.7"),
    ("min.insync.replicas", .num 2), ("offsets.topic.replication.factor", .num 3),
    ("transaction.state.log.min.isr", .num 2), ("transaction.state.log.replication.factor", .num 3)]

def kafkaListeners : List Json :=
  [.obj [("name", .str "plain"), ("port", .num 9092), ("tls", .bool false),
      ("type", .str "internal")],
    .obj [("name", .str "tls"), ("port", .num 9093), ("tls", .bool true), ("type", .str "route"),
      ("authentication", .obj [("type", .str "tls")])]]

def withStorageClass (storage : List (String × Json)) : Json :=
  .obj (if mgh.storageClass = "" then storage else storage ++ [("class", .str mgh.storageClass)])

/-- The cluster `newKafkaCluster` builds before its setters run. -/
def kafkaClusterLiteral (k : Transporter) : Json :=
  .obj [("metadata", .obj [("name", .str k.kafkaClusterName),
      ("namespace", .str k.kafkaClusterNamespace),
      ("labels", .obj [(globalHubOwnerLabelKey, .str globalHubOwnerLabelVal)])]),
    ("spec", .obj [
      ("kafka", .obj [("config", kafkaConfig), ("listeners", .arr kafkaListeners),
        ("resources", specResources defaults.kafka mgh.kafkaResources),
            ("authorization", .obj [("type", .str "simple")]),
        ("replicas", .num 3),
        ("storage", .obj [("type", .str "jbod"), ("volumes", .arr [withStorageClass mgh
          [("id", .num kafkaStorageIdentifier), ("size", .str mgh.storageSize),
            ("type", .str "persistent-claim"), ("deleteClaim", .bool kafkaStorageDeleteClaim)]])]),
        ("version", .str kafkaVersion)]),
      ("zookeeper", .obj [("replicas", .num 3),
        ("storage", withStorageClass mgh
            [("type", .str "persistent-claim"), ("size", .str mgh.storageSize),
          ("deleteClaim", .bool kafkaStorageDeleteClaim)]),
        ("resources", specResources defaults.zookeeper mgh.zookeeperResources)]),
      ("entityOperator", .obj [("topicOperator", .obj []), ("userOperator", .obj [])])])]

def newKafkaCluster (k : Transporter) : Outcome Json := do
  let kafkaCluster ← setAffinity mgh (kafkaClusterLiteral defaults mgh k)
  let kafkaCluster ← setTolerations mgh kafkaCluster
  let kafkaCluster ← setMetricsConfig mgh kafkaCluster
  setImagePullSecret mgh kafkaCluster

end Builders

/-- `updatedKafka.Spec.C.MetricsConfig = desiredKafka.Spec.C.MetricsConfig` for the Kafka and
then the ZooKeeper. -/
def resetMetricsConfig (updatedKafka desiredKafka : Json) : Outcome Json := do
  let kafkaMetricsConfig ← kafkaTy.read ["spec", "kafka", "metricsConfig"] desiredKafka
  let updatedKafka ← kafkaTy.assign ["spec", "kafka", "metricsConfig"]
      kafkaMetricsConfig updatedKafka
  let zookeeperMetricsConfig ← kafkaTy.read ["spec", "zookeeper", "metricsConfig"] desiredKafka
  kafkaTy.assign ["spec", "zookeeper", "metricsConfig"] zookeeperMetricsConfig updatedKafka

def callError : Except ApiError Unit → Option String
  | .ok () => none
  | .error e => some e.reason

section Reconciler
variable (k : Transporter) (defaults : ResourceDefaults) (mgh : Mgh)

/-- What `CreateUpdateKafkaCluster` does with the cluster it read: the pair of the error it
returns and whether it wrote. The update goes to the merged object's name and namespace,
which are the desired object's. -/
def updateKafkaCluster (resourceVersion : Nat) (existingKafka desiredKafka : Json) :
    Prog (Outcome (Option String × Bool)) :=
  match mergeObjects kafkaTy existingKafka desiredKafka with
  | .error e => .pure (.ok (some e, false))
  | .ok updatedKafka =>
      match resetMetricsConfig updatedKafka desiredKafka with
      | .ok updatedKafka =>
          if !kafkaSpecTy.deepEqual (updatedKafka.field "spec") (existingKafka.field "spec") then
            .update kafkaKind k.kafkaClusterNamespace k.kafkaClusterName resourceVersion
              (kafkaTy.encode updatedKafka) fun r => .pure (.ok (callError r, true))
          else .pure (.ok (none, false))
      | .error e => .pure (.error e)
      | .panic e => .pure (.panic e)

/-- `CreateUpdateKafkaCluster`: it reads the cluster in the hub's namespace and creates it in
the transporter's. -/
def createUpdateKafkaCluster : Prog (Outcome (Option String × Bool)) :=
  .get kafkaKind mgh.ns k.kafkaClusterName fun
    | .error .notFound =>
        match newKafkaCluster defaults mgh k with
        | .ok kafkaCluster =>
            .create kafkaKind k.kafkaClusterNamespace k.kafkaClusterName
                (kafkaTy.encode kafkaCluster)
              fun r => .pure (.ok (callError r, true))
        | .error e => .pure (.error e)
        | .panic e => .pure (.panic e)
    | .error e => .pure (.ok (some e.reason, false))
    | .ok (resourceVersion, body) =>
        match kafkaTy.decode body with
        | none => .pure (.ok (some unmarshalTypeError, false))
        | some existingKafka =>
            if ((existingKafka.field "metadata").field "annotations").get?
                skipPatchIfExist |>.isSome then
              .pure (.ok (none, false))
            else
              match newKafkaCluster defaults mgh k with
              | .ok desiredKafka => updateKafkaCluster k resourceVersion existingKafka desiredKafka
              | .error e => .pure (.error e)
              | .panic e => .pure (.panic e)

/-- Go's map iteration may visit a two-entry node selector in either order. When the second
pass visits it in the other order than the pass that created the cluster, the merged spec
lists the requirements in the new order, `reflect.DeepEqual` tells it from the stored one, and
the second pass writes. -/
theorem createUpdateKafkaCluster_reordered_selector_updates :
    let k : Transporter := ⟨"kafka", "multicluster-global-hub",
        ⟨"gh-spec", "gh-status.*"⟩, 1, true, false⟩
    let defaults : ResourceDefaults := ⟨⟨"1Gi", "25m", "4Gi", "0"⟩, ⟨"500Mi", "20m", "3Gi", "0"⟩⟩
    let mgh₁ : Mgh :=
      ⟨"multicluster-global-hub", some [("a", "x"), ("b", "y")], none, "", false,
          "", "10Gi", none, none⟩
    let mgh₂ : Mgh := { mgh₁ with nodeSelector := some [("b", "y"), ("a", "x")] }
    let s₁ := ((createUpdateKafkaCluster k defaults mgh₁).run Store.empty).store
    let r := (createUpdateKafkaCluster k defaults mgh₂).run s₁
    (mgh₂.nodeSelector.getD []).Perm (mgh₁.nodeSelector.getD []) ∧
      ((createUpdateKafkaCluster k defaults mgh₁).run Store.empty).result = .ok (none, true) ∧
      r.result = .ok (none, true) ∧
      r.calls = [.get kafkaKind "multicluster-global-hub" "kafka",
          .update kafkaKind "multicluster-global-hub" "kafka"] := by
  decide

/-- A cluster created with tolerations, reconciled once the hub sets none: the desired
cluster has no template, the merge keeps the stored one, and no write happens, so the
stored pod templates keep the tolerations the hub dropped. -/
theorem createUpdateKafkaCluster_keeps_dropped_tolerations :
    let k : Transporter := ⟨"kafka", "multicluster-global-hub",
        ⟨"gh-spec", "gh-status.*"⟩, 1, true, false⟩
    let defaults : ResourceDefaults := ⟨⟨"1Gi", "25m", "4Gi", "0"⟩, ⟨"500Mi", "20m", "3Gi", "0"⟩⟩
    let toleration : Json :=
      .obj [("key", .str "dedicated"), ("operator", .str "Equal"), ("value", .str "kafka"),
        ("effect", .str "NoSchedule")]
    let mgh₁ : Mgh :=
      ⟨"multicluster-global-hub", none, some [toleration], "", false, "", "10Gi", none, none⟩
    let mgh₂ : Mgh := { mgh₁ with tolerations := none }
    let s₁ := ((createUpdateKafkaCluster k defaults mgh₁).run Store.empty).store
    let r := (createUpdateKafkaCluster k defaults mgh₂).run s₁
    r.result = .ok (none, false) ∧ r.calls = [.get kafkaKind "multicluster-global-hub" "kafka"] ∧
      (r.store.objects kafkaKind "multicluster-global-hub" "kafka").map (fun o =>
        kafkaComponents.map fun c => o.2.fieldAt ["spec", c, "template", "pod", "tolerations"]) =
        some (List.replicate 3 (.arr [.obj
            [("effect", .str "NoSchedule"), ("key", .str "dedicated"),
          ("operator", .str "Equal"), ("value", .str "kafka")]])) ∧
      (fun c => kafkaComponents.map fun comp =>
        (kafkaTy.encode c).fieldAt ["spec", comp, "template", "pod", "tolerations"]) <$>
          newKafkaCluster defaults mgh₂ k = .ok [.null, .null, .null] := by
  decide

end Reconciler

end StrimziTransport
