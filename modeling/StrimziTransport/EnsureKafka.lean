import StrimziTransport.GlobalHubObjects
import StrimziTransport.NewTransporter
import StrimziTransport.Poll

/-!
`ensureKafka` and `renderKafkaResources` of `strimzi_transporter.go`, composed from the
modelled reconcilers as one run against the store: `ensureSubscription`, then the first wait,
whose condition runs `CreateUpdateKafkaCluster` and `renderKafkaResources` at every tick, then,
with `waitReady` set, `kafkaClusterReady`. The store threads through the Subscription's calls
and each tick's cluster calls. A tick also reads what is outside the store: the CRD flag of
`config.GetKafkaResourceReady`, and the answers of the manifest renderer, of
`discovery.NewDiscoveryClientForConfig` and of the calls `ManipulateGlobalHubObjects` makes.
The ready wait reads the hub and the status the Strimzi operator writes as observations.
-/

namespace StrimziTransport

def defaultGlobalHubKafkaUserName : String := "global-hub-kafka-user"

/-- The values `renderKafkaResources` hands the Kafka manifests. -/
structure KafkaManifestValues where
  enableMetrics : Bool
  mghNamespace : String
  kafkaCluster : String
  globalHubKafkaUser : String
  specTopic : String
  statusTopic : StatusTopicParams
  topicPartition : Int
  topicReplicas : Int
  deriving DecidableEq, Repr

def kafkaManifestValues (k : Transporter) (mgh : Mgh) : KafkaManifestValues where
  enableMetrics := mgh.enableMetrics
  mghNamespace := mgh.ns
  kafkaCluster := kafkaClusterName
  globalHubKafkaUser := defaultGlobalHubKafkaUserName
  specTopic := k.topics.specTopic
  statusTopic := statusTopicParams k.topics.rawStatusTopic
  topicPartition := defaultPartition
  topicReplicas := defaultPartitionReplicas

/-- What `renderKafkaResources` calls outside the sources, as one tick finds it: the renderer
of the embedded manifests, `discovery.NewDiscoveryClientForConfig`, and the calls of
`ManipulateGlobalHubObjects`. -/
structure KafkaRenderer where
  render : KafkaManifestValues → Except String (List Json)
  discoveryClient : Option String
  handlers : ObjectHandlers

/-- `renderKafkaResources`: the error it returns, `nil` as `none`. -/
def renderKafkaResources (k : Transporter) (mgh : Mgh) (r : KafkaRenderer) : Option String :=
  match r.render (kafkaManifestValues k mgh) with
  | .error e => some s!"failed to render kafka manifests: {e}"
  | .ok kafkaObjects =>
      match r.discoveryClient with
      | some e => some e
      | none => (manipulateGlobalHubObjects r.handlers kafkaObjects).2.map
          fun e => s!"failed to create/update kafka objects: {e}"

/-- What a tick of the first wait reads outside the store. -/
structure KafkaResourcesObservation where
  kafkaResourceReady : Bool
  renderer : KafkaRenderer

def kafkaCrdsNotReady : String := "the kafka crds is not ready"

section Pipeline
variable (k : Transporter) (defaults : ResourceDefaults) (mgh : Mgh)

/-- The condition of the first wait of `ensureKafka`. An `Outcome.error` of the cluster's
builders is an error `CreateUpdateKafkaCluster` returns, like the one of its pair. -/
def kafkaResourcesCondition (s : Store) (o : KafkaResourcesObservation) : Outcome Bool × Store :=
  if !o.kafkaResourceReady then (.error kafkaCrdsNotReady, s)
  else
    let r := (createUpdateKafkaCluster k defaults mgh).run s
    match r.result with
    | .ok (none, _) =>
        match renderKafkaResources k mgh o.renderer with
        | none => (.ok true, r.store)
        | some _ => (.ok false, r.store)
    | .ok (some _, _) | .error _ => (.ok false, r.store)
    | .panic e => (.panic e, r.store)

/-- `ensureKafka`: how it ends, the transporter `kafkaClusterReady` leaves, and the store. -/
def ensureKafka (sp : SubscriptionProperties) (mghName : String) (s : Store)
    (first : KafkaResourcesObservation) (rest : List (PollEvent KafkaResourcesObservation))
    (firstReady : KafkaReadyObservation) (restReady : List (PollEvent KafkaReadyObservation)) :
    WaitResult × Transporter × Store :=
  let sub := (ensureSubscription sp mghName mgh).run s
  match sub.result with
  | .error e => (.failed e, k, sub.store)
  | .panic e => (.crashed e, k, sub.store)
  | .ok () =>
      let w := pollUntilContextTimeout (kafkaResourcesCondition k defaults mgh) sub.store first rest
      match w.1 with
      | .succeeded =>
          if !k.waitReady then (.succeeded, k, w.2)
          else
            let r := kafkaClusterReady k firstReady restReady
            (r.1, r.2, w.2)
      | r => (r, k, w.2)

/-- A tick on which the first wait polls again: the CRDs are registered, and
`CreateUpdateKafkaCluster`, run in the tick's store, or `renderKafkaResources` returned an
error. -/
def KafkaResourcesNotYet (p : Store × KafkaResourcesObservation) : Prop :=
  p.2.kafkaResourceReady = true ∧
    let r := ((createUpdateKafkaCluster k defaults mgh).run p.1).result
    (∃ e wrote, r = .ok (some e, wrote)) ∨ (∃ e, r = .error e) ∨
      ∃ wrote e, r = .ok (none, wrote) ∧ renderKafkaResources k mgh p.2.renderer = some e

/-- A tick on which `CreateUpdateKafkaCluster` panics. -/
def KafkaResourcesPanics (p : Store × KafkaResourcesObservation) (msg : String) : Prop :=
  p.2.kafkaResourceReady = true ∧
    ((createUpdateKafkaCluster k defaults mgh).run p.1).result = .panic msg

end Pipeline

/-- The tick that ends the first wait with an error: the CRDs are not registered. -/
def KafkaResourcesFatal (p : Store × KafkaResourcesObservation) (e : String) : Prop :=
  p.2.kafkaResourceReady = false ∧ e = kafkaCrdsNotReady

section Condition
variable (k : Transporter) (defaults : ResourceDefaults) (mgh : Mgh)
  (p : Store × KafkaResourcesObservation)

theorem kafkaResourcesCondition_eq_false :
    (kafkaResourcesCondition k defaults mgh p.1 p.2).1 = .ok false ↔
      KafkaResourcesNotYet k defaults mgh p := by
  obtain ⟨s, ⟨_ | _, r⟩⟩ := p <;> simp only [kafkaResourcesCondition, KafkaResourcesNotYet]
  · simp
  · rcases ((createUpdateKafkaCluster k defaults mgh).run s).result with ⟨_ | e, b⟩ | e | e
    · cases renderKafkaResources k mgh r <;> simp
    all_goals simp

theorem kafkaResourcesCondition_eq_error (e : String) :
    (kafkaResourcesCondition k defaults mgh p.1 p.2).1 = .error e ↔ KafkaResourcesFatal p e := by
  obtain ⟨s, ⟨_ | _, r⟩⟩ := p <;> simp only [kafkaResourcesCondition, KafkaResourcesFatal]
  · simp [eq_comm]
  · rcases ((createUpdateKafkaCluster k defaults mgh).run s).result with ⟨_ | e, b⟩ | e | e
    · cases renderKafkaResources k mgh r <;> simp
    all_goals simp

theorem kafkaResourcesCondition_eq_panic (msg : String) :
    (kafkaResourcesCondition k defaults mgh p.1 p.2).1 = .panic msg ↔
      KafkaResourcesPanics k defaults mgh p msg := by
  obtain ⟨s, ⟨_ | _, r⟩⟩ := p <;> simp only [kafkaResourcesCondition, KafkaResourcesPanics]
  · simp
  · rcases ((createUpdateKafkaCluster k defaults mgh).run s).result with ⟨_ | e, b⟩ | e | e
    · cases renderKafkaResources k mgh r <;> simp
    all_goals simp

end Condition

section Waits
variable (k : Transporter) (defaults : ResourceDefaults) (mgh : Mgh) (s : Store)
  (first : KafkaResourcesObservation) (rest : List (PollEvent KafkaResourcesObservation))

theorem kafkaResources_failed_iff (e : String) :
    (pollUntilContextTimeout (kafkaResourcesCondition k defaults mgh) s first rest).1 = .failed e ↔
      FailsAt (KafkaResourcesNotYet k defaults mgh) KafkaResourcesFatal
        (along (kafkaResourcesCondition k defaults mgh) s (.tick first :: rest)) e := by
  rw [pollUntilContextTimeout, pollLoop_eq_firstStop_along]
  exact firstStop_failed_iff _ _ _ (fun p _ => kafkaResourcesCondition_eq_false k defaults mgh p) _
    (fun p _ => kafkaResourcesCondition_eq_error k defaults mgh p) e

theorem kafkaResources_crashed_iff (msg : String) :
    (pollUntilContextTimeout (kafkaResourcesCondition k defaults mgh) s first rest).1 =
        .crashed msg ↔
      CrashesAt (KafkaResourcesNotYet k defaults mgh) (KafkaResourcesPanics k defaults mgh)
        (along (kafkaResourcesCondition k defaults mgh) s (.tick first :: rest)) msg := by
  rw [pollUntilContextTimeout, pollLoop_eq_firstStop_along]
  exact firstStop_crashed_iff _ _ _ (fun p _ => kafkaResourcesCondition_eq_false k defaults mgh p) _
    (fun p _ => kafkaResourcesCondition_eq_panic k defaults mgh p) msg

end Waits

section Pipeline
variable (k : Transporter) (defaults : ResourceDefaults) (mgh : Mgh) (sp : SubscriptionProperties)
  (mghName : String) (s : Store)
  (first : KafkaResourcesObservation) (rest : List (PollEvent KafkaResourcesObservation))
  (firstReady : KafkaReadyObservation) (restReady : List (PollEvent KafkaReadyObservation))
  (ht : ∀ o, .tick o ∈ (.tick firstReady :: restReady : List _) → KafkaConditionsTyped o)
include ht

/-- `ensureKafka` fails exactly when `ensureSubscription` does, or when one of its waits stops
on a fatal tick or the context's end after ticks that only polled again; the first wait's
ticks are judged in the store each runs in. -/
theorem ensureKafka_failed_iff (e : String) :
    (ensureKafka k defaults mgh sp mghName s first rest firstReady restReady).1 = .failed e ↔
      ((ensureSubscription sp mghName mgh).run s).result = .error e ∨
      (((ensureSubscription sp mghName mgh).run s).result = .ok () ∧
        FailsAt (KafkaResourcesNotYet k defaults mgh) KafkaResourcesFatal
          (along (kafkaResourcesCondition k defaults mgh)
              ((ensureSubscription sp mghName mgh).run s).store
            (.tick first :: rest)) e) ∨
      (((ensureSubscription sp mghName mgh).run s).result = .ok () ∧
        (pollUntilContextTimeout (kafkaResourcesCondition k defaults mgh)
          ((ensureSubscription sp mghName mgh).run s).store first rest).1 = .succeeded ∧
        k.waitReady = true ∧
        FailsAt KafkaNotReady KafkaReadyFatal (.tick firstReady :: restReady) e) := by
  rw [← kafkaResources_failed_iff, ← kafkaClusterReady_failed_iff k firstReady restReady ht]
  simp only [ensureKafka]
  rcases ((ensureSubscription sp mghName mgh).run s).result with ⟨⟩ | e' | e'
  · simp only [reduceCtorEq, false_or, true_and]
    rcases (pollUntilContextTimeout (kafkaResourcesCondition k defaults mgh) _ first rest).1 with
      _ | e' | _ | _ <;> cases k.waitReady <;> simp
  all_goals simp

/-- With every status condition typed, `ensureKafka` panics exactly when `ensureSubscription`
does, or when `CreateUpdateKafkaCluster` does at a tick of the first wait after ticks that
only polled again. -/
theorem ensureKafka_crashed_iff (msg : String) :
    (ensureKafka k defaults mgh sp mghName s first rest firstReady restReady).1 = .crashed msg ↔
      ((ensureSubscription sp mghName mgh).run s).result = .panic msg ∨
      (((ensureSubscription sp mghName mgh).run s).result = .ok () ∧
        CrashesAt (KafkaResourcesNotYet k defaults mgh) (KafkaResourcesPanics k defaults mgh)
          (along (kafkaResourcesCondition k defaults mgh)
              ((ensureSubscription sp mghName mgh).run s).store
            (.tick first :: rest)) msg) := by
  rw [← kafkaResources_crashed_iff]
  have hready := kafkaClusterReady_ne_crashed k firstReady restReady ht msg
  simp only [ensureKafka]
  rcases ((ensureSubscription sp mghName mgh).run s).result with ⟨⟩ | e' | e'
  · simp only [reduceCtorEq, false_or, true_and]
    rcases (pollUntilContextTimeout (kafkaResourcesCondition k defaults mgh) _ first rest).1 with
      _ | e' | _ | _ <;> cases k.waitReady <;> simp [hready]
  all_goals simp

end Pipeline

theorem ensureKafka_fails_on_unreadable_mgh :
    (ensureKafka ⟨"kafka", "multicluster-global-hub", ⟨"gh-spec", "gh-status.*"⟩, 1, true, false⟩
      ⟨⟨"1Gi", "25m", "4Gi", "0"⟩, ⟨"500Mi", "20m", "3Gi", "0"⟩⟩
      ⟨"multicluster-global-hub", none, none, "", false, "", "10Gi", none, none⟩
      (newSubscriptionProperties defaultKafkaSubName false) "multiclusterglobalhub" Store.empty
      ⟨true, ⟨fun _ => .ok [], none, ⟨fun _ => .ok true, .ok, fun _ => none⟩⟩⟩ []
      ⟨.error "mgh not found", .error "kafka not found"⟩ []).1 = .failed "mgh not found" :=
  (ensureKafka_failed_iff _ _ _ _ _ _ _ _ _ _
    (fun o ho kafkaCluster hk => by
      simp only [List.mem_singleton, PollEvent.tick.injEq] at ho
      subst ho
      cases hk) _).2
    (.inr (.inr ⟨rfl, rfl, rfl, [], _, [], rfl, by simp, .inr ⟨_, rfl, .inl rfl⟩⟩))

theorem ensureKafka_crashes_on_subscription_without_spec :
    (ensureKafka ⟨"kafka", "multicluster-global-hub", ⟨"gh-spec", "gh-status.*"⟩, 1, true, false⟩
      ⟨⟨"1Gi", "25m", "4Gi", "0"⟩, ⟨"500Mi", "20m", "3Gi", "0"⟩⟩
      ⟨"multicluster-global-hub", none, none, "", false, "", "10Gi", none, none⟩
      (newSubscriptionProperties defaultKafkaSubName false) "multiclusterglobalhub"
      (Store.empty.write subscriptionKind "multicluster-global-hub" defaultKafkaSubName
        (.obj [("metadata", .obj [("name", .str defaultKafkaSubName)])]))
      ⟨true, ⟨fun _ => .ok [], none, ⟨fun _ => .ok true, .ok, fun _ => none⟩⟩⟩ []
      ⟨.error "mgh not found", .error "kafka not found"⟩ []).1 = .crashed nilDereference :=
  (ensureKafka_crashed_iff _ _ _ _ _ _ _ _ _ _
    (fun o ho kafkaCluster hk => by
      simp only [List.mem_singleton, PollEvent.tick.injEq] at ho
      subst ho
      cases hk) _).2 (.inl rfl)

section Runs
variable (k : Transporter) (defaults : ResourceDefaults) (mgh : Mgh) (sp : SubscriptionProperties)
  (mghName : String)

theorem ensureSubscription_run_objects_of_ne (s : Store) (kind : String)
    (hk : kind ≠ subscriptionKind) (ns name : String) :
    ((ensureSubscription sp mghName mgh).run s).store.objects kind ns name =
        s.objects kind ns name := by
  cases h : s.objects subscriptionKind mgh.ns sp.subName with
  | none => simp [ensureSubscription_run_of_none sp mghName mgh h, hk]
  | some o =>
      obtain ⟨v, b⟩ := o
      simp only [ensureSubscription, Prog.run_get, Store.get_of_some h]
      cases subscriptionTy.decode b with
      | none => rfl
      | some e =>
          dsimp only
          cases updateSubscription e (newSubscription sp mghName mgh) with
          | ok e' => simp [Store.update_of_version _ h, hk]
          | error _ | panic _ => rfl

theorem kafkaResourcesCondition_of_created_elsewhere {s : Store}
    (hs : s.objects kafkaKind mgh.ns k.kafkaClusterName = none) {o : Nat × Json}
    (ho : s.objects kafkaKind k.kafkaClusterNamespace k.kafkaClusterName = some o)
    (obs : KafkaResourcesObservation) :
    kafkaResourcesCondition k defaults mgh s obs =
      (if obs.kafkaResourceReady then .ok false else .error kafkaCrdsNotReady, s) := by
  obtain ⟨c, hc, -⟩ := newKafkaCluster_pod_templates defaults mgh k
  have hr := createUpdateKafkaCluster_run_of_none k defaults mgh hs hc
  rw [Store.create_of_some _ ho] at hr
  cases h : obs.kafkaResourceReady <;> simp [kafkaResourcesCondition, h, hr, callError]

theorem kafkaResourcesCondition_of_none {s : Store}
    (hs : s.objects kafkaKind mgh.ns k.kafkaClusterName = none)
    (hk : s.objects kafkaKind k.kafkaClusterNamespace k.kafkaClusterName = none)
    (obs : KafkaResourcesObservation) (hready : obs.kafkaResourceReady = true)
    (hrender : renderKafkaResources k mgh obs.renderer = none) :
    (kafkaResourcesCondition k defaults mgh s obs).1 = .ok true := by
  obtain ⟨c, hc, -⟩ := newKafkaCluster_pod_templates defaults mgh k
  have hr := createUpdateKafkaCluster_run_of_none k defaults mgh hs hc
  rw [Store.create_of_none _ hk] at hr
  simp [kafkaResourcesCondition, hready, hr, callError, hrender]

/-- Once the cluster has been created in the transporter's namespace, and none is in the hub's,
no `ensureKafka` succeeds: at every tick of its first wait `CreateUpdateKafkaCluster` reads no
cluster in the hub's namespace and has its `Create` refused, so the wait polls again until the
context ends or the CRDs are found unregistered, and it writes nothing. -/
theorem ensureKafka_never_succeeds_after_create_elsewhere {s : Store}
    (hs : s.objects kafkaKind mgh.ns k.kafkaClusterName = none) {o : Nat × Json}
    (ho : s.objects kafkaKind k.kafkaClusterNamespace k.kafkaClusterName = some o)
    (first : KafkaResourcesObservation) (rest : List (PollEvent KafkaResourcesObservation))
    (firstReady : KafkaReadyObservation) (restReady : List (PollEvent KafkaReadyObservation)) :
    (ensureKafka k defaults mgh sp mghName s first rest firstReady restReady).1 ≠ .succeeded ∧
      (ensureKafka k defaults mgh sp mghName s first rest firstReady restReady).2.2 =
        ((ensureSubscription sp mghName mgh).run s).store := by
  have hframe := ensureSubscription_run_objects_of_ne mgh sp mghName s kafkaKind (by decide)
  obtain ⟨hw, hws⟩ := pollLoop_of_stuck (kafkaResourcesCondition k defaults mgh)
    (fun obs => by
      rw [kafkaResourcesCondition_of_created_elsewhere k defaults mgh (by rwa [hframe])
        (by rw [hframe]; exact ho) obs]
      split <;> simp) (.tick first :: rest)
  simp only [ensureKafka]
  rcases ((ensureSubscription sp mghName mgh).run s).result with ⟨⟩ | e | e
  · rw [pollUntilContextTimeout] at *
    revert hw hws
    rcases pollLoop (kafkaResourcesCondition k defaults mgh) _ (.tick first :: rest) with ⟨r, s'⟩
    rintro hw rfl
    cases r <;> simp_all
  all_goals simp

end Runs

theorem ensureKafka_never_succeeds_after_create_in_kafka_ns :
    let k : Transporter := ⟨"kafka", "kafka-ns", ⟨"gh-spec", "gh-status.*"⟩, 3, true, true⟩
    let mgh : Mgh := ⟨"multicluster-global-hub", none, none, "", false, "", "10Gi", none, none⟩
    let s := Store.empty.write kafkaKind "kafka-ns" "kafka" .null
    s.objects kafkaKind mgh.ns k.kafkaClusterName = none ∧
      s.objects kafkaKind k.kafkaClusterNamespace k.kafkaClusterName = some (1, .null) ∧
      (ensureKafka k ⟨⟨"1Gi", "25m", "4Gi", "0"⟩, ⟨"500Mi", "20m", "3Gi", "0"⟩⟩ mgh
        (newSubscriptionProperties defaultKafkaSubName false) "multiclusterglobalhub" s
        ⟨true, ⟨fun _ => .ok [], none, ⟨fun _ => .ok true, .ok, fun _ => none⟩⟩⟩ []
        ⟨.error "mgh not found", .error "kafka not found"⟩ []).1 ≠ .succeeded :=
  ⟨rfl, rfl, (ensureKafka_never_succeeds_after_create_elsewhere _ _ _ _ _ rfl rfl _ _ _ _).1⟩

/-- Two not-yet observations end the run. Whatever the store, once `ensureSubscription` returns
nil, a first poll that finds the Kafka CRDs not registered fails `ensureKafka` at once. And from
the empty store, with the resources rendered, the first wait creates the cluster and ends, and a
status condition with no `Type` makes the ready wait dereference a nil pointer. -/
theorem ensureKafka_ends_on_not_yet_observations (k : Transporter) (defaults : ResourceDefaults)
    (mgh : Mgh) (sp : SubscriptionProperties) (mghName : String) {s : Store}
    (hsub : ((ensureSubscription sp mghName mgh).run s).result = .ok ()) (r : KafkaRenderer)
    (h : ObjectHandlers) (rest : List (PollEvent KafkaResourcesObservation))
    (firstReady : KafkaReadyObservation) (restReady : List (PollEvent KafkaReadyObservation)) :
    (ensureKafka k defaults mgh sp mghName s ⟨false, r⟩ rest firstReady restReady).1 =
        .failed kafkaCrdsNotReady ∧
      (ensureKafka { k with waitReady := true } defaults mgh sp mghName Store.empty
        ⟨true, ⟨fun _ => .ok [], none, h⟩⟩ rest
        ⟨.ok (.obj []), .ok (.obj [("status", .obj [("conditions", .arr [.obj []])])])⟩
        restReady).1 = .crashed nilDereference := by
  refine ⟨by simp [ensureKafka, hsub, pollUntilContextTimeout, pollLoop,
    kafkaResourcesCondition], ?_⟩
  have hsub₀ := ensureSubscription_run_of_none sp mghName mgh (s := Store.empty) rfl
  have hkind : kafkaKind ≠ subscriptionKind := by decide
  have hready := kafkaResourcesCondition_of_none { k with waitReady := true } defaults mgh
    (s := (Store.empty.write subscriptionKind mgh.ns sp.subName
      (subscriptionTy.encode (newSubscription sp mghName mgh))))
    (by simp [hkind]; rfl) (by simp [hkind]; rfl) ⟨true, ⟨fun _ => .ok [], none, h⟩⟩ rfl rfl
  simp only [ensureKafka, hsub₀, pollUntilContextTimeout, pollLoop]
  rcases hc : kafkaResourcesCondition { k with waitReady := true } defaults mgh _ _ with ⟨v, s'⟩
  rw [hc] at hready
  cases hready
  rfl

theorem ensureKafka_ends_on_crds_not_ready_from_empty :
    ((ensureSubscription (newSubscriptionProperties defaultKafkaSubName false)
        "multiclusterglobalhub"
        ⟨"multicluster-global-hub", none, none, "", false, "", "10Gi", none, none⟩).run
        Store.empty).result = .ok () ∧
      (ensureKafka ⟨"kafka", "multicluster-global-hub", ⟨"gh-spec", "gh-status.*"⟩, 1, true, false⟩
        ⟨⟨"1Gi", "25m", "4Gi", "0"⟩, ⟨"500Mi", "20m", "3Gi", "0"⟩⟩
        ⟨"multicluster-global-hub", none, none, "", false, "", "10Gi", none, none⟩
        (newSubscriptionProperties defaultKafkaSubName false) "multiclusterglobalhub" Store.empty
        ⟨false, ⟨fun _ => .ok [], none, ⟨fun _ => .ok true, .ok, fun _ => none⟩⟩⟩ []
        ⟨.error "mgh not found", .error "kafka not found"⟩ []).1 = .failed kafkaCrdsNotReady :=
  have hsub : ((ensureSubscription (newSubscriptionProperties defaultKafkaSubName false)
      "multiclusterglobalhub" ⟨"multicluster-global-hub", none, none, "", false, "",
          "10Gi", none, none⟩).run
        Store.empty).result = .ok () := rfl
  ⟨hsub, (ensureKafka_ends_on_not_yet_observations _ _ _ _ _ hsub _
    ⟨fun _ => .ok true, .ok, fun _ => none⟩ _ _ _).1⟩

end StrimziTransport
