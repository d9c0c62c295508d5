import StrimziTransport.KafkaResources
import StrimziTransport.Store

/-!
`EnsureUser` and `EnsureTopic`, the per-hub reconcilers of `strimzi_transporter.go`, as the
store calls they make. Each reads its object, creates it when it is missing, and otherwise
merges the desired object into it (`MergeObjects`) and writes the result back only when
DeepDerivative does not accept the merged spec against the stored one. `EnsureTopic` does
this for the spec topic and then the status topic, carrying the live replicas of the
stored topic into the merged one. `config.GetKafkaUserName` is not in the sources: it is
a parameter.
-/

namespace StrimziTransport

section Reconcilers
variable (k : Transporter)

/-- What `EnsureUser` does with the user it read. -/
def updateKafkaUser (userName clusterName : String) (resourceVersion : Nat) (kafkaUser : Json) :
    Prog (Outcome String) :=
  match mergeObjects kafkaUserTy kafkaUser (desiredKafkaUser k userName clusterName) with
  | .error e => .pure (.error e)
  | .ok updatedKafkaUser =>
      if !(Ty.ptr (.struct kafkaUserSpecFields)).deepDerivative (updatedKafkaUser.field "spec")
          (kafkaUser.field "spec") then
        .update kafkaUserKind k.kafkaClusterNamespace userName resourceVersion
            (kafkaUserTy.encode updatedKafkaUser) fun
          | .ok () => .pure (.ok userName)
          | .error e => .pure (.error e.reason)
      else .pure (.ok userName)

def ensureUser (getKafkaUserName : String → String) (clusterName : String) :
    Prog (Outcome String) :=
  let userName := getKafkaUserName clusterName
  .get kafkaUserKind k.kafkaClusterNamespace userName fun
    | .error .notFound =>
        .create kafkaUserKind k.kafkaClusterNamespace userName
            (kafkaUserTy.encode (desiredKafkaUser k userName clusterName))
          fun
          | .ok () => .pure (.ok userName)
          | .error e => .pure (.error e.reason)
    | .error e => .pure (.error e.reason)
    | .ok (resourceVersion, body) =>
        match kafkaUserTy.decode body with
        | none => .pure (.error unmarshalTypeError)
        | some kafkaUser => updateKafkaUser k userName clusterName resourceVersion kafkaUser

/-- `updatedTopic.Spec.Replicas = kafkaTopic.Spec.Replicas`, which dereferences both specs. -/
def carryReplicas (updatedTopic kafkaTopic : Json) : Outcome Json :=
  if updatedTopic.field "spec" = .null ∨ kafkaTopic.field "spec" = .null then .panic nilDereference
  else .ok (updatedTopic.setField "spec"
    ((updatedTopic.field "spec").setField "replicas" ((kafkaTopic.field "spec").field "replicas")))

/-- What `EnsureTopic` does with a topic it read; `next` is the rest of its loop. -/
def updateKafkaTopic (topicName : String) (resourceVersion : Nat) (kafkaTopic : Json)
    (next : Prog (Outcome ClusterTopic)) : Prog (Outcome ClusterTopic) :=
  match mergeObjects kafkaTopicTy kafkaTopic (newKafkaTopic k topicName) with
  | .error e => .pure (.error e)
  | .ok updatedTopic =>
      match carryReplicas updatedTopic kafkaTopic with
      | .ok updatedTopic =>
          if !(Ty.ptr (.struct kafkaTopicSpecFields)).deepDerivative (updatedTopic.field "spec")
              (kafkaTopic.field "spec") then
            .update kafkaTopicKind k.kafkaClusterNamespace topicName resourceVersion
                (kafkaTopicTy.encode updatedTopic) fun
              | .ok () => next
              | .error e => .pure (.error e.reason)
          else next
      | .error e => .pure (.error e)
      | .panic e => .pure (.panic e)

/-- One turn of `EnsureTopic`'s loop over its topic names. -/
def ensureTopicName (topicName : String) (next : Prog (Outcome ClusterTopic)) :
    Prog (Outcome ClusterTopic) :=
  .get kafkaTopicKind k.kafkaClusterNamespace topicName fun
    | .error .notFound =>
        .create kafkaTopicKind k.kafkaClusterNamespace topicName
            (kafkaTopicTy.encode (newKafkaTopic k topicName)) fun
          | .ok () => next
          | .error e => .pure (.error e.reason)
    | .error e => .pure (.error e.reason)
    | .ok (resourceVersion, body) =>
        match kafkaTopicTy.decode body with
        | none => .pure (.error unmarshalTypeError)
        | some kafkaTopic => updateKafkaTopic k topicName resourceVersion kafkaTopic next

def ensureTopic (clusterName : String) : Prog (Outcome ClusterTopic) :=
  let clusterTopic := getClusterTopic k.topics clusterName
  [clusterTopic.specTopic, clusterTopic.statusTopic].foldr (ensureTopicName k)
    (.pure (.ok clusterTopic))

end Reconcilers

section UserRuns
variable (k : Transporter) (getKafkaUserName : String → String) (clusterName : String)

theorem ensureUser_run_ok {s : Store} {x : String}
    (h : ((ensureUser k getKafkaUserName clusterName).run s).result = .ok x) :
    (s.objects kafkaUserKind k.kafkaClusterNamespace (getKafkaUserName clusterName) = none ∧
      ((ensureUser k getKafkaUserName clusterName).run s).store =
        s.write kafkaUserKind k.kafkaClusterNamespace (getKafkaUserName clusterName)
          (kafkaUserTy.encode (desiredKafkaUser k (getKafkaUserName clusterName) clusterName))) ∨
    ∃ v b e u, s.objects kafkaUserKind k.kafkaClusterNamespace
        (getKafkaUserName clusterName) = some (v, b) ∧
      kafkaUserTy.decode b = some e ∧
      mergeObjects kafkaUserTy e (desiredKafkaUser k (getKafkaUserName clusterName) clusterName) =
        .ok u ∧
      ((Ty.ptr (.struct kafkaUserSpecFields)).deepDerivative (u.field "spec")
          (e.field "spec") = false ∧
          ((ensureUser k getKafkaUserName clusterName).run s).store =
            s.write kafkaUserKind k.kafkaClusterNamespace (getKafkaUserName clusterName)
                (kafkaUserTy.encode u) ∨
        (Ty.ptr (.struct kafkaUserSpecFields)).deepDerivative (u.field "spec")
            (e.field "spec") = true ∧
          ((ensureUser k getKafkaUserName clusterName).run s).store = s) := by
  cases hs : s.objects kafkaUserKind k.kafkaClusterNamespace (getKafkaUserName clusterName) with
  | none =>
      left
      simp only [ensureUser, Prog.run_get, Store.get_of_none hs, Prog.run_create,
        Store.create_of_none _ hs, Prog.run_pure] at h ⊢
      trivial
  | some o =>
      obtain ⟨v, b⟩ := o
      right
      simp only [ensureUser, Prog.run_get, Store.get_of_some hs] at h ⊢
      cases hb : kafkaUserTy.decode b with
      | none => simp only [hb, Prog.run_pure] at h; cases h
      | some e =>
          simp only [hb] at h ⊢
          delta updateKafkaUser at h ⊢
          cases hm : mergeObjects kafkaUserTy e
              (desiredKafkaUser k (getKafkaUserName clusterName) clusterName) with
          | error err => simp only [hm, Prog.run_pure] at h; cases h
          | ok u =>
              refine ⟨v, b, e, u, rfl, hb, hm, ?_⟩
              simp only [hm] at h ⊢
              cases hdd : (Ty.ptr (.struct kafkaUserSpecFields)).deepDerivative
                  (u.field "spec") (e.field "spec")
              · simp only [hdd, Bool.not_false, if_true, Prog.run_update,
                  Store.update_of_version _ hs,
                  Prog.run_pure] at h ⊢
                exact .inl ⟨trivial, trivial⟩
              · simp only [hdd, Bool.not_true, Bool.false_eq_true, if_false, Prog.run_pure] at h ⊢
                exact .inr ⟨trivial, trivial⟩

end UserRuns

theorem kafkaUser_spec_mem :
    ("spec", true, Ty.ptr (.struct kafkaUserSpecFields)) ∈ kafkaUserFields :=
  .tail _ (.head _)

theorem kafkaUserSpec_authorization_mem :
    ("authorization", true, Ty.ptr (.struct kafkaUserAuthorizationFields)) ∈ kafkaUserSpecFields :=
  .tail _ (.head _)

section UserSettled
variable (k : Transporter) (userName clusterName : String)

/-- A stored user that `EnsureUser` leaves alone: it reads back, and the desired user merged
into it is DeepDerivative of it. -/
def UserSettled (body : Json) : Prop :=
  ∃ kafkaUser updated, kafkaUserTy.decode body = some kafkaUser ∧
    mergeObjects kafkaUserTy kafkaUser (desiredKafkaUser k userName clusterName) = .ok updated ∧
    (Ty.ptr (.struct kafkaUserSpecFields)).deepDerivative (updated.field "spec")
      (kafkaUser.field "spec") = true

theorem userSettled_desired :
    UserSettled k userName clusterName (kafkaUserTy.encode
        (desiredKafkaUser k userName clusterName)) := by
  obtain ⟨e, he, -⟩ := Ty.decode_encode _ kafkaUserTy_distinct
      (desiredKafkaUser_typed k userName clusterName)
  exact ⟨e, e, he, Ty.mergeObjects_of_decode_encode kafkaUserTy_distinct
    (desiredKafkaUser_typed k userName clusterName)
        (desiredKafkaUser_clean k userName clusterName) he,
    Ty.deepDerivative_refl (.ptr (.struct kafkaUserSpecFields)) rfl _⟩

theorem userSettled_merged {e u : Json}
    (hm : mergeObjects kafkaUserTy e (desiredKafkaUser k userName clusterName) = .ok u) :
    UserSettled k userName clusterName (kafkaUserTy.encode u) := by
  have hut : kafkaUserTy.typed u = true :=
    Ty.typed_of_decode _ kafkaUserTy_distinct (Ty.mergeObjects_struct_eq_ok.mp hm)
  obtain ⟨e', he', -⟩ := Ty.decode_encode _ kafkaUserTy_distinct hut
  obtain ⟨u', hm', heu'⟩ := Ty.mergeObjects_settle kafkaUserTy_distinct
    (desiredKafkaUser_typed k userName clusterName)
        (desiredKafkaUser_clean k userName clusterName) hm he'
  refine ⟨e', u', he', hm', Ty.deepDerivative_field_of_encode_eq
      kafkaUserTy_distinct kafkaUser_spec_mem
    rfl (Ty.typed_of_decode _ kafkaUserTy_distinct (Ty.mergeObjects_struct_eq_ok.mp hm'))
    (Ty.typed_of_decode _ kafkaUserTy_distinct he') ?_⟩
  rw [heu']
  exact (Ty.encode_of_decode_encode _ kafkaUserTy_distinct hut he').symm

end UserSettled

section Authorization
variable (k : Transporter) (userName clusterName : String)

/-- `kafkaUser.Spec.Authorization`. -/
def authorizationOf (kafkaUser : Json) : Json := (kafkaUser.field "spec").field "authorization"

theorem typed_authorizationOf {x : Json} (hx : kafkaUserTy.typed x = true) :
    (Ty.ptr (.struct kafkaUserAuthorizationFields)).typed (authorizationOf x) = true := by
  have hs := Ty.typed_field hx kafkaUser_spec_mem
  by_cases h0 : x.field "spec" = .null
  · simp only [authorizationOf, h0]; rfl
  · rw [Ty.typed_ptr_of_ne_null _ h0] at hs
    exact Ty.typed_field hs kafkaUserSpec_authorization_mem

theorem authorizationOf_encode_eq {x y : Json} (hx : kafkaUserTy.typed x = true)
    (hy : kafkaUserTy.typed y = true) (h : kafkaUserTy.encode x = kafkaUserTy.encode y) :
    (Ty.ptr (.struct kafkaUserAuthorizationFields)).encode (authorizationOf x) =
      (Ty.ptr (.struct kafkaUserAuthorizationFields)).encode (authorizationOf y) := by
  have hs := Ty.encode_ptr_field_congr (by decide) kafkaUser_spec_mem h
  have hxs := Ty.typed_field hx kafkaUser_spec_mem
  have hys := Ty.typed_field hy kafkaUser_spec_mem
  by_cases h0 : x.field "spec" = .null
  · have h0' : y.field "spec" = .null := (Ty.encode_eq_null_iff _ hys).mp (by rw [← hs, h0]; rfl)
    simp only [authorizationOf, h0, h0']
  · have h0' : y.field "spec" ≠ .null :=
      fun e => h0 ((Ty.encode_eq_null_iff _ hxs).mp (by rw [hs, e]; rfl))
    rw [Ty.encode_ptr_of_ne_null _ h0, Ty.encode_ptr_of_ne_null _ h0'] at hs
    exact Ty.encode_ptr_field_congr (by decide) kafkaUserSpec_authorization_mem hs

theorem mergeObjects_authorizationOf {e u : Json}
    (hm : mergeObjects kafkaUserTy e (desiredKafkaUser k userName clusterName) = .ok u) :
    u.field "spec" ≠ .null ∧
      (Ty.ptr (.struct kafkaUserAuthorizationFields)).encode (authorizationOf u) =
        (Ty.ptr (.struct kafkaUserAuthorizationFields)).encode
            (derivedAuthorization k.topics clusterName) := by
  have h₁ := Ty.decode_merge_ptr _ (fun h => by cases h)
    (Ty.decode_merge_written (by decide) kafkaUser_spec_mem (by rfl)
        (Ty.mergeObjects_struct_eq_ok.mp hm))
  have h₂ := Ty.decode_merge_ptr _ (fun h => by cases h)
    (Ty.decode_merge_written (by decide) kafkaUserSpec_authorization_mem (by rfl) h₁)
  have h₃ := Ty.decode_merge_replacing (by decide) (by rfl)
      (Ty.clean_encode _ (by decide) (by rfl) (by rfl))
    (by
      intro f hf
      simp only [kafkaUserAuthorizationFields, List.mem_cons, List.mem_singleton,
        List.not_mem_nil, or_false] at hf
      rcases hf with rfl | rfl <;> exact ⟨rfl, fun _ h => by cases h⟩) h₂
  refine ⟨Ty.decode_struct_ne_null h₁, ?_⟩
  rw [authorizationOf, Ty.encode_ptr_of_ne_null _ (Ty.decode_struct_ne_null h₂),
    Ty.encode_ptr_of_ne_null _ (fun h => by cases h)]
  exact h₃

theorem deepDerivative_authorizationOf {u e : Json} (hu0 : u.field "spec" ≠ .null)
    (h : (Ty.ptr (.struct kafkaUserSpecFields)).deepDerivative (u.field "spec")
        (e.field "spec") = true) :
    (Ty.ptr (.struct kafkaUserAuthorizationFields)).deepDerivative (authorizationOf u)
      (authorizationOf e) = true := by
  rw [Ty.deepDerivative_ptr_of_ne_null _ hu0, Bool.and_eq_true] at h
  exact (Ty.deepDerivativeFields_iff _ _ _).mp h.2 _ kafkaUserSpec_authorization_mem

end Authorization

section UserRerun
variable (k : Transporter) (getKafkaUserName : String → String) (clusterName : String)

theorem ensureUser_run_of_settled {s : Store} {v : Nat} {b : Json}
    (hs : s.objects kafkaUserKind k.kafkaClusterNamespace
        (getKafkaUserName clusterName) = some (v, b))
    (hb : UserSettled k (getKafkaUserName clusterName) clusterName b) :
    (ensureUser k getKafkaUserName clusterName).run s =
      ⟨.ok (getKafkaUserName clusterName), s,
          [.get kafkaUserKind k.kafkaClusterNamespace (getKafkaUserName clusterName)]⟩ := by
  obtain ⟨e, u, he, hm, hdd⟩ := hb
  simp only [ensureUser, Prog.run_get, Store.get_of_some hs, he]
  delta updateKafkaUser
  rw [hm]
  simp only [hdd, Bool.not_true, Bool.false_eq_true, if_false, Prog.run_pure]

theorem ensureUser_settles {s : Store} {x : String}
    (h : ((ensureUser k getKafkaUserName clusterName).run s).result = .ok x) :
    ∃ v b, ((ensureUser k getKafkaUserName clusterName).run s).store.objects kafkaUserKind
        k.kafkaClusterNamespace
        (getKafkaUserName clusterName) = some (v, b) ∧
      UserSettled k (getKafkaUserName clusterName) clusterName b := by
  rcases ensureUser_run_ok k getKafkaUserName clusterName h with
    ⟨-, hst⟩ | ⟨v, b, e, u, hs, he, hm, ⟨-, hst⟩ | ⟨hdd, hst⟩⟩
  · rw [hst]
    exact ⟨s.revision + 1, _, by simp, userSettled_desired k _ clusterName⟩
  · rw [hst]
    exact ⟨s.revision + 1, _, by simp, userSettled_merged k _ clusterName hm⟩
  · rw [hst]
    exact ⟨v, b, hs, e, u, he, hm, hdd⟩

end UserRerun


theorem kafkaTopic_spec_mem :
    ("spec", true, Ty.ptr (.struct kafkaTopicSpecFields)) ∈ kafkaTopicFields :=
  .tail _ (.head _)

theorem kafkaTopicSpec_replicas_mem : ("replicas", true, Ty.ptr .int) ∈ kafkaTopicSpecFields :=
  .tail _ (.tail _ (.head _))

theorem kafkaTopicSpec_distinct : (Ty.struct kafkaTopicSpecFields).distinct = true := by decide

theorem carryReplicas_of_ne_null {u e : Json} (hu : u.field "spec" ≠ .null)
    (he : e.field "spec" ≠ .null) :
    carryReplicas u e = .ok (u.setField "spec"
      ((u.field "spec").setField "replicas" ((e.field "spec").field "replicas"))) := by
  simp [carryReplicas, hu, he]

theorem carryReplicas_eq_ok {u e c : Json} (hu : kafkaTopicTy.typed u = true)
    (he : kafkaTopicTy.typed e = true) (h : carryReplicas u e = .ok c) :
    kafkaTopicTy.typed c = true ∧
      c.field "spec" = (u.field "spec").setField "replicas" ((e.field "spec").field "replicas") ∧
      u.field "spec" ≠ .null ∧ e.field "spec" ≠ .null := by
  unfold carryReplicas at h
  split at h
  · cases h
  rename_i h0
  simp only [not_or] at h0
  cases h
  obtain ⟨⟨ms, rfl⟩, -⟩ := (Ty.typed_struct_iff _ _).mp hu
  have hus := Ty.typed_field hu kafkaTopic_spec_mem
  have hes := Ty.typed_field he kafkaTopic_spec_mem
  rw [Ty.typed_ptr_of_ne_null _ h0.1] at hus
  rw [Ty.typed_ptr_of_ne_null _ h0.2] at hes
  obtain ⟨⟨ss, hss⟩, -⟩ := (Ty.typed_struct_iff _ _).mp hus
  have hrep := Ty.typed_field hes kafkaTopicSpec_replicas_mem
  have hspec := Ty.typed_setField (by decide) kafkaTopicSpec_replicas_mem (hss ▸ hus) hrep
  rw [← hss] at hspec
  refine ⟨Ty.typed_setField (by decide) kafkaTopic_spec_mem hu ?_,
      by rw [Json.field_setField, if_pos rfl], h0⟩
  rw [hss] at hspec ⊢
  rwa [Ty.typed_ptr_of_ne_null _ (fun h => by cases h)]

section TopicSettled
variable (k : Transporter) (topicName : String)

/-- A stored topic that `EnsureTopic` leaves alone: it reads back, and the desired topic
merged into it, with the stored replicas carried over, is DeepDerivative of it. -/
def TopicSettled (body : Json) : Prop :=
  ∃ kafkaTopic updatedTopic carried, kafkaTopicTy.decode body = some kafkaTopic ∧
    mergeObjects kafkaTopicTy kafkaTopic (newKafkaTopic k topicName) = .ok updatedTopic ∧
    carryReplicas updatedTopic kafkaTopic = .ok carried ∧
    (Ty.ptr (.struct kafkaTopicSpecFields)).deepDerivative (carried.field "spec")
      (kafkaTopic.field "spec") = true

theorem mergeObjects_topic_spec {e u : Json}
    (hm : mergeObjects kafkaTopicTy e (newKafkaTopic k topicName) = .ok u) :
    (Ty.struct kafkaTopicSpecFields).decode
      (merge ((Ty.ptr (.struct kafkaTopicSpecFields)).encode (e.field "spec"))
        ((Ty.struct kafkaTopicSpecFields).encode ((newKafkaTopic k topicName).field "spec"))) =
      some (u.field "spec") := by
  have := Ty.decode_merge_ptr _ (fun h => by cases h)
    (Ty.decode_merge_written (by decide) kafkaTopic_spec_mem (by rfl)
        (Ty.mergeObjects_struct_eq_ok.mp hm))
  rwa [Ty.field_encode_ptr (by decide) kafkaTopic_spec_mem] at this

theorem topicSettled_desired : TopicSettled k topicName
    (kafkaTopicTy.encode (newKafkaTopic k topicName)) := by
  have hdt := newKafkaTopic_typed k topicName
  obtain ⟨e, he, hee⟩ := Ty.decode_encode _ kafkaTopicTy_distinct hdt
  have het := Ty.typed_of_decode _ kafkaTopicTy_distinct he
  have hm := Ty.mergeObjects_of_decode_encode kafkaTopicTy_distinct hdt
      (newKafkaTopic_clean k topicName) he
  have he0 : e.field "spec" ≠ .null := fun h0 => by
    have := Ty.encode_ptr_field_congr (by decide) kafkaTopic_spec_mem hee
    rw [h0] at this; cases this
  refine ⟨e, e, _, he, hm, carryReplicas_of_ne_null he0 he0, ?_⟩
  obtain ⟨hct, hcs, -⟩ := carryReplicas_eq_ok het het (carryReplicas_of_ne_null he0 he0)
  have hes := Ty.typed_field het kafkaTopic_spec_mem
  obtain ⟨⟨ss, hss⟩, -⟩ := (Ty.typed_struct_iff _ _).mp
      (by rwa [Ty.typed_ptr_of_ne_null _ he0] at hes)
  refine Ty.deepDerivative_of_encode_eq _ (by decide) (by rfl)
      (Ty.typed_field hct kafkaTopic_spec_mem) hes ?_
  rw [hcs, hss, Ty.encode_ptr_of_ne_null _ (fun h => by cases h),
    Ty.encode_ptr_of_ne_null _ (fun h => by cases h), Ty.encode_setField_self]

theorem topicSettled_carried {e₁ u₁ c₁ : Json} (he₁ : kafkaTopicTy.typed e₁ = true)
    (hm₁ : mergeObjects kafkaTopicTy e₁ (newKafkaTopic k topicName) = .ok u₁)
    (hc₁ : carryReplicas u₁ e₁ = .ok c₁) :
    TopicSettled k topicName (kafkaTopicTy.encode c₁) := by
  have hdt := newKafkaTopic_typed k topicName
  have hu₁t := Ty.typed_of_decode _ kafkaTopicTy_distinct (Ty.mergeObjects_struct_eq_ok.mp hm₁)
  obtain ⟨hc₁t, hc₁s, hu₁0, he₁0⟩ := carryReplicas_eq_ok hu₁t he₁ hc₁
  have hr₁ : (Ty.ptr .int).typed ((e₁.field "spec").field "replicas") = true := by
    have := Ty.typed_field he₁ kafkaTopic_spec_mem
    rw [Ty.typed_ptr_of_ne_null _ he₁0] at this
    exact Ty.typed_field this kafkaTopicSpec_replicas_mem
  -- the spec written: the first merge's, with the stored replicas, is settled
  obtain ⟨w, hw, hew⟩ := Ty.settle_setField kafkaTopicSpec_distinct kafkaTopicSpec_replicas_mem
    (by rfl) (Ty.clean_encode _ kafkaTopicSpec_distinct (by rfl) (by rfl))
    (mergeObjects_topic_spec k topicName hm₁) hr₁
  dsimp only at hw hew
  obtain ⟨-, ws, -, rfl, -⟩ := Ty.decode_struct_eq_some hw
  have hu₁s := Ty.typed_field hu₁t kafkaTopic_spec_mem
  rw [Ty.typed_ptr_of_ne_null _ hu₁0] at hu₁s
  obtain ⟨⟨s₁, hs₁⟩, -⟩ := (Ty.typed_struct_iff _ _).mp hu₁s
  -- the topic read back
  obtain ⟨e, he, hee⟩ := Ty.decode_encode _ kafkaTopicTy_distinct hc₁t
  have het := Ty.typed_of_decode _ kafkaTopicTy_distinct he
  have hspec : (Ty.ptr (.struct kafkaTopicSpecFields)).encode (e.field "spec") =
      (Ty.struct kafkaTopicSpecFields).encode ((u₁.field "spec").setField "replicas"
        ((e₁.field "spec").field "replicas")) := by
    rw [Ty.encode_ptr_field_congr (by decide) kafkaTopic_spec_mem hee, hc₁s, hs₁,
      Ty.encode_ptr_of_ne_null _ (fun h => by cases h)]
  have he0 : e.field "spec" ≠ .null := fun h0 => by
    rw [h0, hs₁] at hspec; cases hspec
  -- the second merge reads the written spec, so gives the settled one
  obtain ⟨u, hu⟩ := Ty.decode_merge_encode _ kafkaTopicTy_distinct het hdt
      (newKafkaTopic_clean k topicName)
  have hm : mergeObjects kafkaTopicTy e (newKafkaTopic k topicName) = .ok u :=
    Ty.mergeObjects_struct_eq_ok.mpr hu
  have hus := mergeObjects_topic_spec k topicName hm
  rw [hspec, hw, Option.some.injEq] at hus
  have hu0 : u.field "spec" ≠ .null := by rw [← hus]; exact fun h => by cases h
  refine ⟨e, u, _, he, hm, carryReplicas_of_ne_null hu0 he0, ?_⟩
  obtain ⟨hct, hcs, -⟩ := carryReplicas_eq_ok (Ty.typed_of_decode _ kafkaTopicTy_distinct hu) het
    (carryReplicas_of_ne_null hu0 he0)
  refine Ty.deepDerivative_of_encode_eq _ (by decide) (by rfl)
      (Ty.typed_field hct kafkaTopic_spec_mem)
    (Ty.typed_field het kafkaTopic_spec_mem) ?_
  -- the replicas read back encode as those written
  have hes : (Ty.struct kafkaTopicSpecFields).encode (e.field "spec") =
      (Ty.struct kafkaTopicSpecFields).encode ((u₁.field "spec").setField "replicas"
        ((e₁.field "spec").field "replicas")) := by
    rwa [Ty.encode_ptr_of_ne_null _ he0] at hspec
  have hrr := Ty.encode_ptr_field_congr (by decide) kafkaTopicSpec_replicas_mem hes
  rw [hs₁, Json.field_setField, if_pos rfl] at hrr
  have hwt := Ty.typed_of_decode _ kafkaTopicSpec_distinct hw
  have hes' := Ty.typed_field het kafkaTopic_spec_mem
  rw [Ty.typed_ptr_of_ne_null _ he0] at hes'
  rw [hcs, ← hus, Ty.encode_ptr_of_ne_null _ (fun h => by cases h), hspec, ← hew]
  exact Ty.encode_setField_congr (by decide) kafkaTopicSpec_replicas_mem hwt hwt rfl
    (Ty.typed_field hes' kafkaTopicSpec_replicas_mem) hr₁ hrr

end TopicSettled

section TopicRuns
variable (k : Transporter) (topicName : String)

theorem ensureTopicName_run_of_settled {s : Store} {v : Nat} {b : Json}
    {next : Prog (Outcome ClusterTopic)}
    (hs : s.objects kafkaTopicKind k.kafkaClusterNamespace topicName = some (v, b))
        (hb : TopicSettled k topicName b) :
    (ensureTopicName k topicName next).run s =
      { next.run s with calls := .get kafkaTopicKind k.kafkaClusterNamespace topicName ::
          (next.run s).calls } := by
  obtain ⟨e, u, c, he, hm, hc, hdd⟩ := hb
  simp only [ensureTopicName, Prog.run_get, Store.get_of_some hs, he]
  delta updateKafkaTopic
  rw [hm]
  simp only [hc, hdd, Bool.not_true, Bool.false_eq_true, if_false]

theorem ensureTopicName_run_ok {s : Store} {next : Prog (Outcome ClusterTopic)} {x : ClusterTopic}
    (h : ((ensureTopicName k topicName next).run s).result = .ok x) :
    ∃ s', (∃ v b, s'.objects kafkaTopicKind k.kafkaClusterNamespace topicName = some (v, b) ∧
        TopicSettled k topicName b) ∧
      (∀ n, n ≠ topicName → s'.objects kafkaTopicKind k.kafkaClusterNamespace n =
          s.objects kafkaTopicKind k.kafkaClusterNamespace n) ∧
      ((ensureTopicName k topicName next).run s).result = (next.run s').result ∧
      ((ensureTopicName k topicName next).run s).store = (next.run s').store := by
  cases hs : s.objects kafkaTopicKind k.kafkaClusterNamespace topicName with
  | none =>
      simp only [ensureTopicName, Prog.run_get, Store.get_of_none hs, Prog.run_create,
        Store.create_of_none _ hs] at h ⊢
      exact ⟨_, ⟨_, _, Store.write_objects_self .., topicSettled_desired k topicName⟩,
        fun n hn => Store.write_objects_of_ne _ _ _ _ hn _ _ _, rfl, rfl⟩
  | some o =>
      obtain ⟨v, b⟩ := o
      simp only [ensureTopicName, Prog.run_get, Store.get_of_some hs] at h ⊢
      cases he : kafkaTopicTy.decode b with
      | none => simp only [he, Prog.run_pure] at h; cases h
      | some e =>
          simp only [he] at h ⊢
          delta updateKafkaTopic at h ⊢
          cases hm : mergeObjects kafkaTopicTy e (newKafkaTopic k topicName) with
          | error err => simp only [hm, Prog.run_pure] at h; cases h
          | ok u =>
              simp only [hm] at h ⊢
              cases hc : carryReplicas u e with
              | error err => simp only [hc, Prog.run_pure] at h; cases h
              | panic err => simp only [hc, Prog.run_pure] at h; cases h
              | ok c =>
                  simp only [hc] at h ⊢
                  cases hdd : (Ty.ptr (.struct kafkaTopicSpecFields)).deepDerivative
                      (c.field "spec")
                    (e.field "spec")
                  · simp only [hdd, Bool.not_false, if_true, Prog.run_update,
                      Store.update_of_version _ hs] at h ⊢
                    exact ⟨_, ⟨_, _, Store.write_objects_self .., topicSettled_carried k topicName
                      (Ty.typed_of_decode _ kafkaTopicTy_distinct he) hm hc⟩,
                      fun n hn => Store.write_objects_of_ne _ _ _ _ hn _ _ _, rfl, rfl⟩
                  · simp only [hdd, Bool.not_true, Bool.false_eq_true, if_false] at h ⊢
                    exact ⟨s, ⟨v, b, hs, e, u, c, he, hm, hc, hdd⟩, fun _ _ => rfl, rfl, rfl⟩

end TopicRuns

section TopicRerun
variable (k : Transporter) (clusterName : String)

theorem ensureTopic_settles {s : Store} {x : ClusterTopic}
    (h : ((ensureTopic k clusterName).run s).result = .ok x) :
    ∀ n ∈ [(getClusterTopic k.topics clusterName).specTopic,
      (getClusterTopic k.topics clusterName).statusTopic],
      ∃ v b, ((ensureTopic k clusterName).run s).store.objects kafkaTopicKind
          k.kafkaClusterNamespace n = some (v, b) ∧
        TopicSettled k n b := by
  simp only [ensureTopic, List.foldr_cons, List.foldr_nil] at h ⊢
  obtain ⟨s₁, hset₁, -, hres₁, hst₁⟩ := ensureTopicName_run_ok k _ h
  rw [hres₁] at h
  obtain ⟨s₂, hset₂, hfr₂, -, hst₂⟩ := ensureTopicName_run_ok k _ h
  rw [hst₁, hst₂, Prog.run_pure]
  intro n hn
  simp only [List.mem_cons, List.mem_singleton, List.not_mem_nil, or_false] at hn
  rcases hn with rfl | rfl
  · by_cases heq : (getClusterTopic k.topics clusterName).specTopic =
        (getClusterTopic k.topics clusterName).statusTopic
    · rw [heq]; exact hset₂
    · rw [hfr₂ _ heq]; exact hset₁
  · exact hset₂

theorem ensureTopic_run_of_settled {s : Store}
    (h : ∀ n ∈ [(getClusterTopic k.topics clusterName).specTopic,
      (getClusterTopic k.topics clusterName).statusTopic],
      ∃ v b, s.objects kafkaTopicKind k.kafkaClusterNamespace n = some (v, b) ∧
        TopicSettled k n b) :
    (ensureTopic k clusterName).run s =
      ⟨.ok (getClusterTopic k.topics clusterName), s,
        [.get kafkaTopicKind k.kafkaClusterNamespace
            (getClusterTopic k.topics clusterName).specTopic,
          .get kafkaTopicKind k.kafkaClusterNamespace
              (getClusterTopic k.topics clusterName).statusTopic]⟩ := by
  obtain ⟨v₁, b₁, hs₁, hb₁⟩ := h _ (List.mem_cons_self _ _)
  obtain ⟨v₂, b₂, hs₂, hb₂⟩ := h _ (List.mem_cons_of_mem _ (List.mem_cons_self _ _))
  simp only [ensureTopic, List.foldr_cons, List.foldr_nil]
  rw [ensureTopicName_run_of_settled k _ hs₁ hb₁, ensureTopicName_run_of_settled k _ hs₂ hb₂,
    Prog.run_pure]

end TopicRerun

section TopicReplicas
variable (k : Transporter)

theorem mergeObjects_newKafkaTopic {e : Json} (he : kafkaTopicTy.typed e = true)
    (topicName : String) :
    ∃ u, mergeObjects kafkaTopicTy e (newKafkaTopic k topicName) = .ok u := by
  obtain ⟨u, hu⟩ := Ty.decode_merge_encode _ kafkaTopicTy_distinct he
      (newKafkaTopic_typed k topicName)
    (newKafkaTopic_clean k topicName)
  exact ⟨u, Ty.mergeObjects_struct_eq_ok.mpr hu⟩

/-- A topic stored under the spec topic's name without a spec, as one created outside the
operator may be: the desired topic merges into it, and carrying its replicas over dereferences
its nil spec. -/
theorem ensureTopic_panics_on_specless_topic (clusterName : String) {s : Store}
    {v : Nat} {b e : Json}
    (hs : s.objects kafkaTopicKind k.kafkaClusterNamespace
        (getClusterTopic k.topics clusterName).specTopic =
      some (v, b))
    (he : kafkaTopicTy.decode b = some e) (h0 : e.field "spec" = .null) :
    ((ensureTopic k clusterName).run s).result = .panic nilDereference := by
  obtain ⟨u, hm⟩ := mergeObjects_newKafkaTopic k (Ty.typed_of_decode _ kafkaTopicTy_distinct he)
    (getClusterTopic k.topics clusterName).specTopic
  simp only [ensureTopic, List.foldr_cons, ensureTopicName, Prog.run_get, Store.get_of_some hs, he]
  delta updateKafkaTopic
  rw [hm]
  simp only [carryReplicas, h0, or_true, if_true, Prog.run_pure]

theorem carryReplicas_keeps_replicas {u e c : Json} (hu : kafkaTopicTy.typed u = true)
    (he : kafkaTopicTy.typed e = true) (hc : carryReplicas u e = .ok c) :
    ∃ e', kafkaTopicTy.decode (kafkaTopicTy.encode c) = some e' ∧ e'.field "spec" ≠ .null ∧
      (Ty.ptr .int).encode ((e'.field "spec").field "replicas") =
        (Ty.ptr .int).encode ((e.field "spec").field "replicas") := by
  obtain ⟨hct, hcs, hu0, -⟩ := carryReplicas_eq_ok hu he hc
  obtain ⟨e', he', hee'⟩ := Ty.decode_encode _ kafkaTopicTy_distinct hct
  have hus := Ty.typed_field hu kafkaTopic_spec_mem
  rw [Ty.typed_ptr_of_ne_null _ hu0] at hus
  obtain ⟨⟨ss, hss⟩, -⟩ := (Ty.typed_struct_iff _ _).mp hus
  have hc0 : c.field "spec" ≠ .null := by rw [hcs, hss]; exact fun h => by cases h
  have hspec := Ty.encode_ptr_field_congr (by decide) kafkaTopic_spec_mem hee'
  have he'0 : e'.field "spec" ≠ .null := fun h => by
    rw [h] at hspec
    exact hc0 ((Ty.encode_eq_null_iff _ (Ty.typed_field hct kafkaTopic_spec_mem)).mp hspec.symm)
  refine ⟨e', he', he'0, ?_⟩
  rw [Ty.encode_ptr_of_ne_null _ he'0, Ty.encode_ptr_of_ne_null _ hc0] at hspec
  have := Ty.encode_ptr_field_congr (by decide) kafkaTopicSpec_replicas_mem hspec
  rwa [hcs, hss, Json.field_setField, if_pos rfl] at this

/-- The topic stored under `topicName` reads back with a spec whose replicas encode as `r`. -/
def ReplicasKept (topicName : String) (r : Json) (s : Store) : Prop :=
  ∃ v b e, s.objects kafkaTopicKind k.kafkaClusterNamespace topicName = some (v, b) ∧
    kafkaTopicTy.decode b = some e ∧ e.field "spec" ≠ .null ∧
    (Ty.ptr .int).encode ((e.field "spec").field "replicas") = r

theorem ensureTopicName_keeps_replicas (topicName n : String) (r : Json)
    {next : Prog (Outcome ClusterTopic)}
    (hnext : ∀ s, ReplicasKept k n r s → ReplicasKept k n r (next.run s).store) {s : Store}
    (hs : ReplicasKept k n r s) : ReplicasKept k n r
        ((ensureTopicName k topicName next).run s).store := by
  obtain ⟨v₀, b₀, e₀, hs₀, he₀, h0₀, hr₀⟩ := hs
  have hs := (⟨v₀, b₀, e₀, hs₀, he₀, h0₀, hr₀⟩ : ReplicasKept k n r s)
  have hwrite : ∀ body, n ≠ topicName →
      ReplicasKept k n r (s.write kafkaTopicKind k.kafkaClusterNamespace topicName body) :=
          fun body hne =>
    ⟨v₀, b₀, e₀, by rw [Store.write_objects_of_ne _ _ _ _ hne]; exact hs₀, he₀, h0₀, hr₀⟩
  cases hst : s.objects kafkaTopicKind k.kafkaClusterNamespace topicName with
  | none =>
      have hne : n ≠ topicName := by rintro rfl; rw [hs₀] at hst; cases hst
      simp only [ensureTopicName, Prog.run_get, Store.get_of_none hst, Prog.run_create,
        Store.create_of_none _ hst]
      exact hnext _ (hwrite _ hne)
  | some o =>
      obtain ⟨v, b⟩ := o
      simp only [ensureTopicName, Prog.run_get, Store.get_of_some hst]
      cases he : kafkaTopicTy.decode b with
      | none => exact hs
      | some e =>
          dsimp only
          delta updateKafkaTopic
          cases hm : mergeObjects kafkaTopicTy e (newKafkaTopic k topicName) with
          | error => exact hs
          | ok u =>
              simp only
              cases hc : carryReplicas u e with
              | error => exact hs
              | panic => exact hs
              | ok c =>
                  simp only
                  split
                  · simp only [Prog.run_update, Store.update_of_version _ hst]
                    refine hnext _ ?_
                    by_cases hn : n = topicName
                    · subst hn
                      rw [hs₀, Option.some.injEq, Prod.mk.injEq] at hst
                      rw [← hst.2, he₀, Option.some.injEq] at he
                      subst he
                      obtain ⟨e', he', h0', hr'⟩ := carryReplicas_keeps_replicas
                        (Ty.typed_of_decode _ kafkaTopicTy_distinct
                            (Ty.mergeObjects_struct_eq_ok.mp hm))
                        (Ty.typed_of_decode _ kafkaTopicTy_distinct he₀) hc
                      exact ⟨_, _, e', Store.write_objects_self .., he', h0', hr'.trans hr₀⟩
                    · exact hwrite _ hn
                  · exact hnext _ hs

/-- Whatever `EnsureTopic` returns, a topic stored with a spec keeps its live replicas: every
Update it issues carries them. -/
theorem ensureTopic_keeps_live_replicas (clusterName n : String) {s : Store} {r : Json}
    (hs : ReplicasKept k n r s) : ReplicasKept k n r ((ensureTopic k clusterName).run s).store := by
  simp only [ensureTopic, List.foldr_cons, List.foldr_nil]
  refine ensureTopicName_keeps_replicas k _ n r (fun _ hs' => ?_) hs
  apply ensureTopicName_keeps_replicas k _ n r _ hs'
  exact fun _ h => h

theorem ensureTopic_keeps_three_replicas :
    let k : Transporter := ⟨"kafka", "multicluster-global-hub",
        ⟨"gh-spec", "gh-status.*"⟩, 1, true, false⟩
    let s := Store.empty.write kafkaTopicKind "multicluster-global-hub" "gh-spec"
      (.obj [("metadata", .obj [("name", .str "gh-spec")]), ("spec", .obj [("replicas", .num 3)])])
    ReplicasKept k "gh-spec" (.num 3) s ∧
      ReplicasKept k "gh-spec" (.num 3) ((ensureTopic k "hub1").run s).store := by
  intro k s
  have h : ReplicasKept k "gh-spec" (.num 3) s := ⟨1, _, _, rfl, rfl, by decide, rfl⟩
  exact ⟨h, ensureTopic_keeps_live_replicas k "hub1" "gh-spec" h⟩

theorem ensureTopic_panics_on_topic_without_spec :
    let k : Transporter := ⟨"kafka", "multicluster-global-hub",
        ⟨"gh-spec", "gh-status.*"⟩, 1, true, false⟩
    let s := Store.empty.write kafkaTopicKind "multicluster-global-hub" "gh-spec"
      (.obj [("metadata", .obj [("name", .str "gh-spec")])])
    ((ensureTopic k "hub1").run s).result = .panic nilDereference :=
  ensureTopic_panics_on_specless_topic _ "hub1" rfl rfl rfl

end TopicReplicas

section UserPolicy

/-- A stored user carrying the derived rules and one more, granting everything on every
topic: `EnsureUser` succeeds without writing, and the extra rule stays granted. -/
theorem ensureUser_keeps_extra_rule :
    let k : Transporter :=
      ⟨"kafka", "multicluster-global-hub", ⟨"gh-spec", "gh-status.*"⟩, 1, true, false⟩
    let stored := kafkaUserTy.encode (newKafkaUser k "hub1-kafka-user"
      kafkaUserSpecAuthenticationTypeTlsExternal
      (clusterACLs k.topics "hub1" ++ [aclRule "topic" "*" "literal" ["All"]]))
    let s := Store.empty.write kafkaUserKind k.kafkaClusterNamespace "hub1-kafka-user" stored
    let r := (ensureUser k (· ++ "-kafka-user") "hub1").run s
    r.result = .ok "hub1-kafka-user" ∧ r.calls =
        [.get kafkaUserKind k.kafkaClusterNamespace "hub1-kafka-user"] ∧
      r.store.objects kafkaUserKind k.kafkaClusterNamespace "hub1-kafka-user" =
          some (1, stored) := by
  decide

/-- Once `EnsureUser` returns without error, DeepDerivative accepts the stored user's
authorization against the derived one. A stored list may extend the derived list, so the
stored rules start with three rules that extend the derived ones, whose operations may grant
more, and further rules may follow. -/
theorem ensureUser_stored_authorization_derives (k : Transporter)
    (getKafkaUserName : String → String) (clusterName : String) (s : Store) (x : String)
    (h : ((ensureUser k getKafkaUserName clusterName).run s).result = .ok x) :
    ∃ v body kafkaUser,
      ((ensureUser k getKafkaUserName clusterName).run s).store.objects kafkaUserKind
          k.kafkaClusterNamespace
        (getKafkaUserName clusterName) = some (v, body) ∧
      kafkaUserTy.decode body = some kafkaUser ∧
      (Ty.ptr (.struct kafkaUserAuthorizationFields)).deepDerivative
        (derivedAuthorization k.topics clusterName) (authorizationOf kafkaUser) = true := by
  have hdist : (Ty.ptr (.struct kafkaUserAuthorizationFields)).distinct = true := by decide
  have derives : ∀ {w : Json}, kafkaUserTy.typed w = true →
      (Ty.ptr (.struct kafkaUserAuthorizationFields)).encode (authorizationOf w) =
        (Ty.ptr (.struct kafkaUserAuthorizationFields)).encode
            (derivedAuthorization k.topics clusterName) →
      (Ty.ptr (.struct kafkaUserAuthorizationFields)).deepDerivative
        (derivedAuthorization k.topics clusterName) (authorizationOf w) = true :=
    fun hw he => Ty.deepDerivative_of_encode_eq _ hdist (by rfl) (by rfl)
        (typed_authorizationOf hw) he.symm
  rcases ensureUser_run_ok k getKafkaUserName clusterName h with
    ⟨-, hst⟩ | ⟨v, b, e, u, hs, he, hm, ⟨-, hst⟩ | ⟨hdd, hst⟩⟩
  · -- created: the stored user is the desired one
    have hdt := desiredKafkaUser_typed k (getKafkaUserName clusterName) clusterName
    obtain ⟨e, he, hee⟩ := Ty.decode_encode _ kafkaUserTy_distinct hdt
    have het := Ty.typed_of_decode _ kafkaUserTy_distinct he
    rw [hst]
    exact ⟨_, _, e, Store.write_objects_self .., he,
        derives het (authorizationOf_encode_eq het hdt hee)⟩
  · -- written back: the merge replaced the authorization
    have hut := Ty.typed_of_decode _ kafkaUserTy_distinct (Ty.mergeObjects_struct_eq_ok.mp hm)
    obtain ⟨e', he', hee'⟩ := Ty.decode_encode _ kafkaUserTy_distinct hut
    have het := Ty.typed_of_decode _ kafkaUserTy_distinct he'
    rw [hst]
    refine ⟨_, _, e', Store.write_objects_self .., he', derives het ?_⟩
    rw [authorizationOf_encode_eq het hut hee']
    exact (mergeObjects_authorizationOf k _ clusterName hm).2
  · -- left alone: DeepDerivative accepted the merge, whose authorization is the derived one
    have hut := Ty.typed_of_decode _ kafkaUserTy_distinct (Ty.mergeObjects_struct_eq_ok.mp hm)
    obtain ⟨hu0, hua⟩ := mergeObjects_authorizationOf k _ clusterName hm
    rw [hst]
    refine ⟨v, b, e, hs, he, ?_⟩
    rw [← Ty.deepDerivative_congr_left _ hdist (typed_authorizationOf hut) (by rfl) hua]
    exact deepDerivative_authorizationOf hu0 hdd

theorem ensureUser_stored_authorization_on_create :
    let k : Transporter :=
      ⟨"kafka", "multicluster-global-hub", ⟨"gh-spec", "gh-status.*"⟩, 1, true, false⟩
    ∃ v body kafkaUser,
      ((ensureUser k (· ++ "-kafka-user") "hub1").run Store.empty).store.objects kafkaUserKind
          k.kafkaClusterNamespace
        "hub1-kafka-user" = some (v, body) ∧
      kafkaUserTy.decode body = some kafkaUser ∧
      (Ty.ptr (.struct kafkaUserAuthorizationFields)).deepDerivative
        (derivedAuthorization k.topics "hub1") (authorizationOf kafkaUser) = true := by
  intro k
  exact ensureUser_stored_authorization_derives k (· ++ "-kafka-user") "hub1" Store.empty
    "hub1-kafka-user" (by decide)

end UserPolicy

section Rerun

/-- A second `EnsureUser`, or `EnsureTopic`, on the store a successful first one left, only
reads: the merged spec is DeepDerivative of the stored one, so no Create and no Update. -/
theorem ensure_second_call_only_reads (k : Transporter) (getKafkaUserName : String → String)
    (clusterName : String) (s : Store) :
    (∀ x, ((ensureUser k getKafkaUserName clusterName).run s).result = .ok x →
      (ensureUser k getKafkaUserName clusterName).run
          ((ensureUser k getKafkaUserName clusterName).run s).store =
        ⟨.ok (getKafkaUserName clusterName),
            ((ensureUser k getKafkaUserName clusterName).run s).store,
          [.get kafkaUserKind k.kafkaClusterNamespace (getKafkaUserName clusterName)]⟩) ∧
    (∀ x, ((ensureTopic k clusterName).run s).result = .ok x →
      (ensureTopic k clusterName).run ((ensureTopic k clusterName).run s).store =
        ⟨.ok (getClusterTopic k.topics clusterName), ((ensureTopic k clusterName).run s).store,
          [.get kafkaTopicKind k.kafkaClusterNamespace
              (getClusterTopic k.topics clusterName).specTopic,
            .get kafkaTopicKind k.kafkaClusterNamespace
                (getClusterTopic k.topics clusterName).statusTopic]⟩) := by
  refine ⟨fun x h => ?_, fun x h => ensureTopic_run_of_settled k clusterName
      (ensureTopic_settles k clusterName h)⟩
  obtain ⟨v, b, hs, hb⟩ := ensureUser_settles k getKafkaUserName clusterName h
  exact ensureUser_run_of_settled k getKafkaUserName clusterName hs hb

theorem ensure_second_call_only_reads_from_empty :
    let k : Transporter :=
      ⟨"kafka", "multicluster-global-hub", ⟨"gh-spec", "gh-status.*"⟩, 1, true, false⟩
    let s₁ := ((ensureUser k (· ++ "-kafka-user") "hub1").run Store.empty).store
    let t₁ := ((ensureTopic k "hub1").run Store.empty).store
    (ensureUser k (· ++ "-kafka-user") "hub1").run s₁ =
        ⟨.ok "hub1-kafka-user", s₁,
          [.get kafkaUserKind k.kafkaClusterNamespace "hub1-kafka-user"]⟩ ∧
      (ensureTopic k "hub1").run t₁ =
        ⟨.ok ⟨"gh-spec", "gh-status.hub1"⟩, t₁,
          [.get kafkaTopicKind k.kafkaClusterNamespace "gh-spec",
              .get kafkaTopicKind k.kafkaClusterNamespace "gh-status.hub1"]⟩ := by
  intro k s₁ t₁
  exact ⟨(ensure_second_call_only_reads k (· ++ "-kafka-user") "hub1" Store.empty).1
      "hub1-kafka-user" (by decide),
    (ensure_second_call_only_reads k (· ++ "-kafka-user") "hub1" Store.empty).2
      ⟨"gh-spec", "gh-status.hub1"⟩ (by decide)⟩

end Rerun

section Concurrent

end Concurrent

end StrimziTransport
