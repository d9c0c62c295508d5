import StrimziTransport.Subscription

/-!
`NewStrimziTransporter` up to its call of `ensureKafka`: the transporter's defaults, the options
applied in the order given, the community catalog when the community flag is set, and one
partition replica for a hub with basic availability. What it builds is the `Transporter` and the
`SubscriptionProperties` the other reconcilers read. `WithNamespacedName` may put the Kafka
cluster in another namespace than the hub's, and `CreateUpdateKafkaCluster` reads the cluster in
the hub's namespace but creates it in the transporter's: with the two apart, every call after the
first fails with `AlreadyExists` and the cluster is never updated. `SetClientCA` and the manager
are outside the model; `WithContext` sets only the context.
-/

namespace StrimziTransport

/-- `KafkaClusterName` and `DefaultPartitionReplicas`. -/
def kafkaClusterName : String := "kafka"

def defaultPartitionReplicas : Int := 3

/-- The options of `NewStrimziTransporter`. -/
inductive KafkaOption where
  | withNamespacedName (name ns : String)
  | withContext
  | withCommunity (val : Bool)
  | withSubName (name : String)
  | withWaitReady (wait : Bool)

def applyOption (k : Transporter × SubscriptionProperties) : KafkaOption →
    Transporter × SubscriptionProperties
  | .withNamespacedName name ns =>
      ({ k.1 with kafkaClusterName := name, kafkaClusterNamespace := ns }, k.2)
  | .withContext => k
  | .withCommunity val => (k.1, { k.2 with subCommunity := val })
  | .withSubName name => (k.1, { k.2 with subName := name })
  | .withWaitReady wait => ({ k.1 with waitReady := wait }, k.2)

/-- `NewStrimziTransporter` before `ensureKafka`, for a hub in namespace `mghNs` whose
availability is basic when `haBasic`; the topics are those of `operator/pkg/config`. -/
def newStrimziTransporter (mghNs : String) (haBasic : Bool) (topics : TopicConfig)
    (opts : List KafkaOption) : Transporter × SubscriptionProperties :=
  let k : Transporter × SubscriptionProperties :=
    (⟨kafkaClusterName, mghNs, topics, defaultPartitionReplicas, true, true⟩,
      ⟨defaultKafkaSubName, false, defaultAMQChannel, defaultCatalogSourceName,
          defaultAMQPackageName⟩)
  let k := opts.foldl applyOption k
  let k := if k.2.subCommunity then
      (k.1, { k.2 with
        subChannel := communityChannel
        subPackageName := communityPackageName
        subCatalogSourceName := communityCatalogSourceName })
    else k
  if haBasic then ({ k.1 with topicPartitionReplicas := 1 }, k.2) else k

/-- The value the last option of a kind gives, `d` when no option is of that kind. -/
def lastOf {β : Type} (g : KafkaOption → Option β) : List KafkaOption → β → β
  | [], d => d
  | o :: os, d => lastOf g os ((g o).getD d)

section Options

def namespacedNameOf : KafkaOption → Option (String × String)
  | .withNamespacedName name ns => some (name, ns)
  | _ => none

def communityOf : KafkaOption → Option Bool
  | .withCommunity val => some val
  | _ => none

def subNameOf : KafkaOption → Option String
  | .withSubName name => some name
  | _ => none

def waitReadyOf : KafkaOption → Option Bool
  | .withWaitReady wait => some wait
  | _ => none

theorem foldl_applyOption (opts : List KafkaOption) (k : Transporter × SubscriptionProperties) :
    opts.foldl applyOption k =
      ({ k.1 with
          kafkaClusterName := (lastOf namespacedNameOf opts
              (k.1.kafkaClusterName, k.1.kafkaClusterNamespace)).1
          kafkaClusterNamespace :=
            (lastOf namespacedNameOf opts (k.1.kafkaClusterName, k.1.kafkaClusterNamespace)).2
          waitReady := lastOf waitReadyOf opts k.1.waitReady },
        { k.2 with
          subName := lastOf subNameOf opts k.2.subName
          subCommunity := lastOf communityOf opts k.2.subCommunity }) := by
  induction opts generalizing k with
  | nil => rfl
  | cons o opts ih => cases o <;> simp only [List.foldl, ih] <;> rfl

end Options

/-- Whatever the options and their order, `NewStrimziTransporter` takes the last namespaced name,
wait flag, subscription name and community flag given, or the defaults without one; the
subscription properties are those `newSubscriptionProperties` gives for that name and flag; the
partition replicas are one for a hub with basic availability and three otherwise; and TLS is on. -/
theorem newStrimziTransporter_takes_last_options (mghNs : String) (haBasic : Bool)
    (topics : TopicConfig)
    (opts : List KafkaOption) :
    let k := newStrimziTransporter mghNs haBasic topics opts
    (k.1.kafkaClusterName, k.1.kafkaClusterNamespace) =
        lastOf namespacedNameOf opts (kafkaClusterName, mghNs) ∧
      k.1.waitReady = lastOf waitReadyOf opts true ∧
      k.2 = newSubscriptionProperties (lastOf subNameOf opts defaultKafkaSubName)
        (lastOf communityOf opts false) ∧
      k.1.topicPartitionReplicas = (if haBasic then 1 else defaultPartitionReplicas) ∧
      k.1.enableTLS = true ∧ k.1.topics = topics := by
  simp only [newStrimziTransporter, foldl_applyOption, newSubscriptionProperties]
  split <;> split <;> simp_all

section Reconciler
variable (k : Transporter) (defaults : ResourceDefaults) (mgh : Mgh)

theorem createUpdateKafkaCluster_run_of_none {s : Store}
    (h : s.objects kafkaKind mgh.ns k.kafkaClusterName = none) {c : Json}
    (hc : newKafkaCluster defaults mgh k = .ok c) :
    (createUpdateKafkaCluster k defaults mgh).run s =
      ⟨.ok (callError (s.create kafkaKind k.kafkaClusterNamespace k.kafkaClusterName
          (kafkaTy.encode c)).1, true),
        (s.create kafkaKind k.kafkaClusterNamespace k.kafkaClusterName (kafkaTy.encode c)).2,
        [.get kafkaKind mgh.ns k.kafkaClusterName,
            .create kafkaKind k.kafkaClusterNamespace k.kafkaClusterName]⟩ := by
  rw [createUpdateKafkaCluster, Prog.run_get, Store.get_of_none h]
  dsimp only
  rw [hc]
  rfl

/-- With the transporter's namespace apart from the hub's, every call after the first reads no
cluster in the hub's namespace, tries to create the one the first call created in the
transporter's, and fails with `AlreadyExists`: it writes nothing and never updates the cluster. -/
theorem createUpdateKafkaCluster_fails_after_create_elsewhere
    (hns : k.kafkaClusterNamespace ≠ mgh.ns)
    {s : Store} (hs : s.objects kafkaKind mgh.ns k.kafkaClusterName = none) (n : Nat) :
    let p := createUpdateKafkaCluster k defaults mgh
    let r := p.run (p.rerun (n + 1) s)
    r.result = .ok (some ApiError.alreadyExists.reason, true) ∧
      r.calls = [.get kafkaKind mgh.ns k.kafkaClusterName,
          .create kafkaKind k.kafkaClusterNamespace k.kafkaClusterName] ∧
      r.store = p.rerun (n + 1) s := by
  obtain ⟨c, hc, -⟩ := newKafkaCluster_pod_templates defaults mgh k
  let P : Store → Prop := fun s => s.objects kafkaKind mgh.ns k.kafkaClusterName = none ∧
    ∃ o, s.objects kafkaKind k.kafkaClusterNamespace k.kafkaClusterName = some o
  have hcreate : ∀ s : Store, s.objects kafkaKind mgh.ns k.kafkaClusterName = none →
      P (s.create kafkaKind k.kafkaClusterNamespace k.kafkaClusterName (kafkaTy.encode c)).2 := by
    intro s hs
    cases ho : s.objects kafkaKind k.kafkaClusterNamespace k.kafkaClusterName with
    | none =>
        rw [Store.create_of_none _ ho]
        exact ⟨by simp [hns.symm, hs], _, Store.write_objects_self ..⟩
    | some o => rw [Store.create_of_some _ ho]; exact ⟨hs, o, ho⟩
  have hstep : ∀ s, P s → P ((createUpdateKafkaCluster k defaults mgh).run s).store :=
      fun s hs => by
    rw [createUpdateKafkaCluster_run_of_none k defaults mgh hs.1 hc]
    exact hcreate s hs.1
  have hP : P (Prog.rerun (createUpdateKafkaCluster k defaults mgh) (n + 1) s) := by
    rw [Prog.rerun, Function.iterate_succ_apply, ← Prog.rerun]
    refine Prog.rerun_invariant _ hstep ?_ n
    rw [createUpdateKafkaCluster_run_of_none k defaults mgh hs hc]
    exact hcreate s hs
  obtain ⟨h1, o, h2⟩ := hP
  dsimp only
  rw [createUpdateKafkaCluster_run_of_none k defaults mgh h1 hc, Store.create_of_some _ h2]
  exact ⟨rfl, rfl, rfl⟩

theorem createUpdateKafkaCluster_fails_after_create_in_kafka_ns :
    let k : Transporter := ⟨"kafka", "kafka-ns", ⟨"gh-spec", "gh-status.*"⟩, 3, true, true⟩
    let defaults : ResourceDefaults := ⟨⟨"1Gi", "25m", "4Gi", "0"⟩, ⟨"500Mi", "20m", "3Gi", "0"⟩⟩
    let mgh : Mgh := ⟨"multicluster-global-hub", none, none, "", false, "", "10Gi", none, none⟩
    let p := createUpdateKafkaCluster k defaults mgh
    let r := p.run (p.rerun 2 Store.empty)
    k.kafkaClusterNamespace ≠ mgh.ns ∧ Store.empty.objects kafkaKind mgh.ns
        k.kafkaClusterName = none ∧
      r.result = .ok (some ApiError.alreadyExists.reason, true) ∧
      r.calls = [.get kafkaKind mgh.ns k.kafkaClusterName,
          .create kafkaKind k.kafkaClusterNamespace k.kafkaClusterName] ∧
      r.store = p.rerun 2 Store.empty :=
  ⟨by decide, rfl, createUpdateKafkaCluster_fails_after_create_elsewhere _ _ _ (by decide) rfl 1⟩

end Reconciler

end StrimziTransport
