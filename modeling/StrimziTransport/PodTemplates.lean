import StrimziTransport.KafkaCluster

/-!
What the setters of `newKafkaCluster` write into the pods of the Kafka, ZooKeeper and
entity-operator templates, each stated once. `setPodMember` writes one member of the three
pods, creating the templates when the Kafka has none; `setMetricsConfig` writes beside the
templates; `setImagePullSecret` merge-patches the spec with templates holding only the pull
secret, and the patch keeps every other member of the pods up to the encoding. The pull
secrets themselves are outside these results. The cluster is read as `json.Marshal` writes
it, which is what the API server holds.
-/

namespace StrimziTransport

/-- The selector of a member of a component's pod. -/
def podPath (component member : String) : List String :=
    ["spec", component, "template", "pod", member]

theorem podPath_eq_template_append (comp m : String) : podPath comp m =
    ["spec", comp, "template"] ++ ["pod", m] := rfl

theorem podPath_eq_pod_append (comp m : String) : podPath comp m =
    ["spec", comp, "template", "pod"] ++ [m] := rfl

theorem field_obj_singleton (k k' : String) (v : Json) :
    (Json.obj [(k, v)]).field k' = if k' = k then v else .null := by
  rw [obj_field, lookup_cons_eq_ite]
  split <;> rfl

theorem mem_kafkaComponents {comp : String} (h : comp ∈ kafkaComponents) :
    comp = "kafka" ∨ comp = "zookeeper" ∨ comp = "entityOperator" := by
  simpa [kafkaComponents] using h

theorem pathTy_template {comp : String} (h : comp ∈ kafkaComponents) :
    kafkaTy.pathTy ["spec", comp, "template"] = some (.ptr templateTy) := by
  rcases mem_kafkaComponents h with rfl | rfl | rfl <;> rfl

/-- The shape the setters find and keep: the spec and its three components are objects, and
the three templates are either all missing or all hold a pod object. -/
structure Shaped (kafkaCluster : Json) : Prop where
  components : ∀ comp ∈ kafkaComponents, kafkaCluster.objectsAlong ["spec", comp, "template"] = true
  templates : (∀ comp ∈ kafkaComponents, kafkaCluster.fieldAt ["spec", comp, "template"] = .null) ∨
    ∀ comp ∈ kafkaComponents, ∀ member, kafkaCluster.objectsAlong (podPath comp member) = true

/-- `c'` is `c` with the member `member` of the three pods replaced by `value` when there is
one, and what parts from the templates as it was. -/
structure WritesPodMember (member : String) (value : Option Json) (c c' : Json) : Prop where
  shaped : Shaped c'
  reads : ∀ comp ∈ kafkaComponents, ∀ m, c'.fieldAt (podPath comp m) =
    if m = member then value.getD (c.fieldAt (podPath comp m)) else c.fieldAt (podPath comp m)
  frame : ∀ q, (∀ comp ∈ kafkaComponents, Json.parts ["spec", comp, "template"] q = true) →
    c'.fieldAt q = c.fieldAt q

theorem WritesPodMember.refl (member : String) {c : Json} (hc : Shaped c) :
    WritesPodMember member none c c :=
  ⟨hc, fun _ _ m => by split <;> rfl, fun _ _ => rfl⟩

section Components
variable (rest : List String) (v : Json)

/-! Writing `v` at `spec.<component>.rest` for the three components, as `setPodMember` does. -/

theorem length_components : ∀ p ∈ kafkaComponents.map (fun c => "spec" :: c :: rest),
    ∀ q ∈ kafkaComponents.map (fun c => "spec" :: c :: rest), q.length ≤ p.length :=
  List.forall_mem_map.mpr fun _ _ => List.forall_mem_map.mpr fun _ _ => le_rfl

theorem assignAll_components {c : Json}
    (hp : ∀ comp ∈ kafkaComponents, ∃ t, kafkaTy.pathTy ("spec" :: comp :: rest) = some t)
    (hc : ∀ comp ∈ kafkaComponents, c.objectsAlong ("spec" :: comp :: rest) = true) :
    kafkaTy.assignAll (kafkaComponents.map fun c => "spec" :: c :: rest) v c =
      .ok (c.setFieldsAt (kafkaComponents.map fun c => "spec" :: c :: rest) v) :=
  Ty.assignAll_eq_ok kafkaTy (List.forall_mem_map.mpr hp) (length_components rest)
      (List.forall_mem_map.mpr hc) v

theorem objectsAlong_setComponents {c : Json} {q : List String}
    (hq : ∀ comp ∈ kafkaComponents, ∀ x r, ("spec" :: comp :: rest) ++ x :: r ≠ q)
        (hc : c.objectsAlong q = true) :
    (c.setFieldsAt (kafkaComponents.map fun c => "spec" :: c :: rest) v).objectsAlong q = true :=
  Json.objectsAlong_setFieldsAt (List.forall_mem_map.mpr hq) hc v

theorem fieldAt_setComponents_of_parts (c : Json) {q : List String}
    (hq : ∀ comp ∈ kafkaComponents, Json.parts ("spec" :: comp :: rest) q = true) :
    (c.setFieldsAt (kafkaComponents.map fun c => "spec" :: c :: rest) v).fieldAt q = c.fieldAt q :=
  Json.fieldAt_setFieldsAt_of_parts (List.forall_mem_map.mpr hq) c v

theorem fieldAt_setComponents {c : Json}
    (hc : ∀ comp ∈ kafkaComponents, c.objectsAlong ("spec" :: comp :: rest) = true) {comp : String}
    (hcomp : comp ∈ kafkaComponents) (r : List String) :
    (c.setFieldsAt (kafkaComponents.map fun c => "spec" :: c :: rest) v).fieldAt
        (("spec" :: comp :: rest) ++ r) =
      v.fieldAt r :=
  Json.fieldAt_setFieldsAt_append (List.mem_map_of_mem _ hcomp)
      (List.forall_mem_map.mpr fun comp' _ => by
    by_cases h : comp' = comp
    · exact .inl (by rw [h])
    · exact .inr (by simp [Json.parts, h])) (length_components rest)
        (List.forall_mem_map.mpr hc) v r

end Components

theorem template_ne_null {c : Json} {comp m : String} (h : c.objectsAlong (podPath comp m) = true) :
    c.fieldAt ["spec", comp, "template"] ≠ .null := fun h0 => by
  rw [podPath_eq_template_append, Json.objectsAlong_append _ _ (List.cons_ne_nil _ _), h0,
      Bool.and_eq_true] at h
  cases h.2

section PodMember
variable {member : String} (value : Json)

theorem writesPodMember_templates {c : Json} (hc : Shaped c)
    (hnull : ∀ comp ∈ kafkaComponents, c.fieldAt ["spec", comp, "template"] = .null) :
    WritesPodMember member (some value) c
        (c.setFieldsAt (kafkaComponents.map fun c => ["spec", c, "template"])
      (.obj [("pod", .obj [(member, value)])])) := by
  have hT := @fieldAt_setComponents ["template"]
      (.obj [("pod", .obj [(member, value)])]) c hc.components
  have hshort : ∀ comp ∈ kafkaComponents,
      (c.setFieldsAt (kafkaComponents.map fun c => ["spec", c, "template"])
      (.obj [("pod", .obj [(member, value)])])).objectsAlong ["spec", comp, "template"] =
          true := fun comp hcomp =>
    objectsAlong_setComponents _ _ (fun _ _ => Json.append_cons_ne_of_length_le le_rfl)
        (hc.components comp hcomp)
  refine ⟨⟨hshort, .inr fun comp hcomp m => ?_⟩, fun comp hcomp m => ?_,
    fun q hq => fieldAt_setComponents_of_parts _ _ _ hq⟩
  · have h0 := hT hcomp []
    rw [List.append_nil] at h0
    rw [podPath_eq_template_append, Json.objectsAlong_append _ _ (List.cons_ne_nil _ _),
        h0, hshort comp hcomp]
    simp [field_obj_singleton]
  · rw [podPath_eq_template_append, hT hcomp, Json.fieldAt_append,
      hnull comp hcomp, Json.null_fieldAt]
    exact field_obj_singleton _ _ _

theorem writesPodMember_members {c : Json} (hc : Shaped c)
    (hpods : ∀ comp ∈ kafkaComponents, ∀ m, c.objectsAlong (podPath comp m) = true) :
    WritesPodMember member (some value) c
      (c.setFieldsAt (kafkaComponents.map fun c => ["spec", c, "template", "pod", member])
          value) := by
  refine ⟨⟨fun comp hcomp => objectsAlong_setComponents _ _
      (fun _ _ => Json.append_cons_ne_of_length_le (by simp)) (hc.components comp hcomp),
    .inr fun comp hcomp m => objectsAlong_setComponents _ _
      (fun _ _ => Json.append_cons_ne_of_length_le le_rfl) (hpods comp hcomp m)⟩,
    fun comp hcomp m => ?_, fun q hq => fieldAt_setComponents_of_parts _ _ _ fun comp hcomp => by
      simpa using Json.parts_append (hq comp hcomp) ["pod", member] []⟩
  by_cases hm : m = member
  · subst hm
    rw [if_pos rfl]
    simpa using fieldAt_setComponents ["template", "pod", m] value
        (fun comp hcomp => hpods comp hcomp m) hcomp []
  · rw [if_neg hm]
    exact fieldAt_setComponents_of_parts _ _ _ fun _ _ => by simp [Json.parts, podPath, Ne.symm hm]

theorem setPodMember_spec (hm : ∀ comp ∈ kafkaComponents, ∃ t,
    kafkaTy.pathTy (podPath comp member) = some t)
    {c : Json} (hc : Shaped c) :
    ∃ c', setPodMember member value c = .ok c' ∧ WritesPodMember member (some value) c c' := by
  have hread := Ty.read_of_objectsAlong kafkaTy (pathTy_template (.head _))
      (hc.components "kafka" (.head _))
  rw [setPodMember, Outcome.bind_eq_bind, hread, Outcome.bind_ok]
  rcases hc.templates with hnull | hpods
  · rw [if_pos (hnull "kafka" (.head _))]
    exact ⟨_, assignAll_components ["template"] _ (fun _ h => ⟨_, pathTy_template h⟩) hc.components,
      writesPodMember_templates value hc hnull⟩
  · rw [if_neg (template_ne_null (hpods "kafka" (.head _) member))]
    exact ⟨_, assignAll_components _ _ hm fun comp h => hpods comp h member,
        writesPodMember_members value hc hpods⟩

end PodMember

theorem pathTy_podPath {comp : String} (h : comp ∈ kafkaComponents) (m : String) :
    kafkaTy.pathTy (podPath comp m) = (Ty.ptr podTy).pathTy [m] := by
  rcases mem_kafkaComponents h with rfl | rfl | rfl <;> rfl

section Setters
variable (mgh : Mgh)

theorem setAffinity_spec {c : Json} (hc : Shaped c) :
    ∃ c', setAffinity mgh c = .ok c' ∧ WritesPodMember "affinity"
        (mgh.nodeSelector.map podAffinity) c c' := by
  unfold setAffinity
  cases mgh.nodeSelector with
  | none => exact ⟨c, rfl, .refl _ hc⟩
  | some ns =>
      exact setPodMember_spec (podAffinity ns)
        (fun _ h => ⟨_, (pathTy_podPath h "affinity").trans rfl⟩) hc

theorem setTolerations_spec {c : Json} (hc : Shaped c) :
    ∃ c', setTolerations mgh c = .ok c' ∧
      WritesPodMember "tolerations" (mgh.tolerations.map tolerationsElem) c c' := by
  unfold setTolerations
  cases mgh.tolerations with
  | none => exact ⟨c, rfl, .refl _ hc⟩
  | some ts =>
      exact setPodMember_spec (tolerationsElem ts)
          (fun _ h => ⟨_, (pathTy_podPath h "tolerations").trans rfl⟩) hc

theorem setMetricsConfig_spec {c : Json} (hc : Shaped c) :
    ∃ c', setMetricsConfig mgh c = .ok c' ∧ Shaped c' ∧
      ∀ q, Json.parts ["spec", "kafka", "metricsConfig"] q = true →
        Json.parts ["spec", "zookeeper", "metricsConfig"] q = true →
            c'.fieldAt q = c.fieldAt q := by
  unfold setMetricsConfig
  by_cases h : mgh.enableMetrics = true
  · have hk : c.objectsAlong ["spec", "kafka", "metricsConfig"] = true :=
      (Json.objectsAlong_append_singleton c ["spec", "kafka"] _ _).trans
          (hc.components "kafka" (.head _))
    have hz : c.objectsAlong ["spec", "zookeeper", "metricsConfig"] = true :=
      (Json.objectsAlong_append_singleton c ["spec", "zookeeper"] _ _).trans
        (hc.components "zookeeper" (.tail _ (.head _)))
    have hpk : kafkaTy.pathTy ["spec", "kafka", "metricsConfig"] =
        some (.ptr metricsConfigTy) := rfl
    have hpz : kafkaTy.pathTy ["spec", "zookeeper", "metricsConfig"] =
        some (.ptr metricsConfigTy) := rfl
    rw [if_pos h, Outcome.bind_eq_bind, Ty.assign_of_objectsAlong kafkaTy hpk hk, Outcome.bind_ok,
      Ty.assign_of_objectsAlong kafkaTy hpz
        (Json.objectsAlong_setFieldAt c ["spec", "kafka", "metricsConfig"] _ _
          (Json.append_cons_ne_of_length_le le_rfl) hz)]
    have hparts : ∀ comp ∈ kafkaComponents, ∀ r,
        Json.parts ["spec", "kafka", "metricsConfig"] (["spec", comp, "template"] ++ r) = true ∧
          Json.parts ["spec", "zookeeper", "metricsConfig"]
              (["spec", comp, "template"] ++ r) = true :=
      fun comp _ r => by simp [Json.parts]
    have frame : ∀ q, Json.parts ["spec", "kafka", "metricsConfig"] q = true →
        Json.parts ["spec", "zookeeper", "metricsConfig"] q = true →
        ((c.setFieldAt ["spec", "kafka", "metricsConfig"]
            (metricsConfig kafkaMetricsConfigmapKeyRef)).setFieldAt
          ["spec", "zookeeper", "metricsConfig"]
              (metricsConfig zooKeeperMetricsConfigmapKeyRef)).fieldAt q =
          c.fieldAt q := fun q hk hz => by
      rw [Json.fieldAt_setFieldAt_of_parts _ hz, Json.fieldAt_setFieldAt_of_parts _ hk]
    have along : ∀ q, (∀ x r, ["spec", "kafka", "metricsConfig"] ++ x :: r ≠ q) →
        (∀ x r, ["spec", "zookeeper", "metricsConfig"] ++ x :: r ≠ q) → c.objectsAlong q = true →
        ((c.setFieldAt ["spec", "kafka", "metricsConfig"]
            (metricsConfig kafkaMetricsConfigmapKeyRef)).setFieldAt
          ["spec", "zookeeper", "metricsConfig"]
              (metricsConfig zooKeeperMetricsConfigmapKeyRef)).objectsAlong q =
          true := fun q hk hz hq =>
      Json.objectsAlong_setFieldAt _ _ _ _ hz (Json.objectsAlong_setFieldAt _ _ _ _ hk hq)
    refine ⟨_, rfl, ⟨fun comp hcomp => along _ (Json.append_cons_ne_of_length_le le_rfl)
      (Json.append_cons_ne_of_length_le le_rfl) (hc.components comp hcomp), ?_⟩, frame⟩
    rcases hc.templates with hnull | hpods
    · exact .inl fun comp hcomp => by
        have := hparts comp hcomp []
        rw [List.append_nil] at this
        rw [frame _ this.1 this.2, hnull comp hcomp]
    · exact .inr fun comp hcomp m => along _
        (Json.append_cons_ne_of_parts (hparts comp hcomp ["pod", m]).1)
        (Json.append_cons_ne_of_parts (hparts comp hcomp ["pod", m]).2) (hpods comp hcomp m)
  · exact ⟨c, if_neg h, hc, fun _ _ _ => rfl⟩

theorem assignAll_spec_templates {spec : Json}
    (h : ∀ comp ∈ kafkaComponents, spec.objectsAlong [comp, "template"] = true) (v : Json) :
    ∃ d, kafkaSpecTy.assignAll [["entityOperator", "template"], ["kafka", "template"],
        ["zookeeper", "template"]]
        v spec = .ok d ∧
      ∀ comp ∈ kafkaComponents, d.objectsAlong [comp, "template"] = true ∧
        ∀ r, d.fieldAt ([comp, "template"] ++ r) = v.fieldAt r := by
  have hlen : ∀ p ∈ [["entityOperator", "template"], ["kafka", "template"],
      ["zookeeper", "template"]],
      ∀ q ∈ [["entityOperator", "template"], ["kafka", "template"], ["zookeeper", "template"]],
        q.length ≤ p.length := by decide
  have hx : ∀ p ∈ [["entityOperator", "template"], ["kafka", "template"],
      ["zookeeper", "template"]],
      spec.objectsAlong p = true := by
    simp only [List.forall_mem_cons]
    exact ⟨h _ (by decide), h _ (by decide), h _ (by decide),
        fun _ h => absurd h (List.not_mem_nil _)⟩
  refine ⟨_, Ty.assignAll_eq_ok kafkaSpecTy (by
    simp only [List.forall_mem_cons]
    exact ⟨⟨_, rfl⟩, ⟨_, rfl⟩, ⟨_, rfl⟩, fun _ h => absurd h (List.not_mem_nil _)⟩) hlen hx v,
        fun comp hcomp => ?_⟩
  have hmem : [comp, "template"] ∈ [["entityOperator", "template"], ["kafka", "template"],
      ["zookeeper", "template"]] ∧
      ∀ p ∈ [["entityOperator", "template"], ["kafka", "template"], ["zookeeper", "template"]],
        p = [comp, "template"] ∨ Json.parts p [comp, "template"] = true := by
    rcases mem_kafkaComponents hcomp with rfl | rfl | rfl <;> decide
  exact ⟨Json.objectsAlong_setFieldsAt (fun p hp => Json.append_cons_ne_of_length_le
      (hlen p hp _ hmem.1))
    (h comp hcomp) v, Json.fieldAt_setFieldsAt_append hmem.1 hmem.2 hlen hx v⟩

theorem ptrPath_pod {comp : String} (h : comp ∈ kafkaComponents) :
    kafkaTy.ptrPath ["spec", comp, "template", "pod"] = some podTy ∧
      (Ty.struct kafkaSpecFields).ptrPath [comp, "template", "pod"] = some podTy := by
  rcases mem_kafkaComponents h with rfl | rfl | rfl <;> exact ⟨rfl, rfl⟩

theorem kafkaTy_distinct : kafkaTy.distinct = true := by decide

theorem decode_merge_spec_keeps_member (secret : String) {spec d u : Json}
    (hd : ∀ comp ∈ kafkaComponents, d.objectsAlong [comp, "template"] = true ∧ ∀ r,
        d.fieldAt ([comp, "template"] ++ r) =
      (Json.obj [("pod", .obj [("imagePullSecrets",
        .arr [.obj [("name", .str secret)]])])]).fieldAt r)
    (h : (Ty.struct kafkaSpecFields).decode
        (merge (kafkaSpecTy.encode spec) ((Ty.struct kafkaSpecFields).encode d)) =
      some u)
    {gs : List (String × Bool × Ty)} (hpod : podTy = .struct gs) {m : String} {tm : Ty}
        (hm : (m, true, tm) ∈ gs)
    (hne : m ≠ "imagePullSecrets") (hnull : tm.isEmpty .null = true) {comp : String}
        (hcomp : comp ∈ kafkaComponents)
    (htyped : tm.typed (spec.fieldAt ([comp, "template", "pod"] ++ [m])) = true) :
    tm.encodeOmitEmpty (u.fieldAt ([comp, "template", "pod"] ++ [m])) =
      tm.encodeOmitEmpty (spec.fieldAt ([comp, "template", "pod"] ++ [m])) := by
  have hps := (ptrPath_pod hcomp).2
  rw [hpod] at hps
  have hks : (Ty.struct kafkaSpecFields).distinct = true := by decide
  have hdo : d.objectsAlong ([comp, "template", "pod"] ++ [m]) = true := by
    have h0 := (hd comp hcomp).2 []
    rw [List.append_nil] at h0
    rw [show [comp, "template", "pod"] ++ [m] = [comp, "template"] ++ ["pod", m] from rfl,
      Json.objectsAlong_append _ _ (List.cons_ne_nil _ _), (hd comp hcomp).1, h0]
    simp [field_obj_singleton]
  have he : tm.isEmpty (d.fieldAt ([comp, "template", "pod"] ++ [m])) = true := by
    rw [show [comp, "template", "pod"] ++ [m] = [comp, "template"] ++
        ["pod", m] from rfl, (hd comp hcomp).2]
    simp [field_obj_singleton, hne, hnull]
  have hu := Ty.decode_merge_fieldAt _ hks hps hm hdo he h
  have hps' : kafkaSpecTy.ptrPath [comp, "template", "pod"] = some (.struct gs) := hps
  rw [Ty.encode_fieldAt_omitEmpty kafkaSpecTy hks hps' hm hnull] at hu
  exact Ty.encodeOmitEmpty_of_decode tm (((Ty.distinct_struct_iff gs).mp
      (Ty.distinct_of_ptrPath _ hks hps)).2 _ hm)
    htyped hu

theorem setImagePullSecret_keeps_members {c : Json}
    (hc : ∀ comp ∈ kafkaComponents, c.objectsAlong ["spec", comp, "template"] = true)
    {gs : List (String × Bool × Ty)} (hpod : podTy = .struct gs) :
    ∃ c', setImagePullSecret mgh c = .ok c' ∧ ∀ m tm, (m, true, tm) ∈ gs → m ≠ "imagePullSecrets" →
      tm.isEmpty .null = true → ∀ comp ∈ kafkaComponents,
          tm.typed (c.fieldAt (podPath comp m)) = true →
        (kafkaTy.encode c').fieldAt (podPath comp m) =
            (kafkaTy.encode c).fieldAt (podPath comp m) := by
  unfold setImagePullSecret
  by_cases hs : mgh.imagePullSecret = ""
  · exact ⟨c, if_pos hs, fun _ _ _ _ _ _ _ _ => rfl⟩
  obtain ⟨cs, rfl⟩ := Json.exists_obj_of_objectsAlong (hc "kafka" (.head _))
  obtain ⟨d, hd, hdc⟩ := @assignAll_spec_templates ((Json.obj cs).field "spec") hc
    (.obj [("pod", .obj [("imagePullSecrets", .arr [.obj [("name", .str mgh.imagePullSecret)]])])])
  rw [if_neg hs, Outcome.bind_eq_bind, hd, Outcome.bind_ok]
  have hk : ((Json.obj cs).field "spec").objectsAlong ["kafka", "template"] = true :=
      hc "kafka" (.head _)
  obtain ⟨es, hes⟩ := Json.exists_obj_of_objectsAlong hk
  obtain ⟨ds, rfl⟩ := Json.exists_obj_of_objectsAlong (hdc "kafka" (.head _)).1
  have hpatch : mergePatch (kafkaSpecTy.encode ((Json.obj cs).field "spec"))
      (kafkaSpecTy.encode (.obj ds)) =
      .ok (merge (kafkaSpecTy.encode ((Json.obj cs).field "spec"))
          ((Ty.struct kafkaSpecFields).encode (.obj ds))) := by
    rw [hes]; rfl
  rw [hpatch]
  dsimp only
  split
  · exact ⟨_, rfl, fun _ _ _ _ _ _ _ _ => rfl⟩
  next u hdec =>
    refine ⟨_, rfl, fun m tm hm hne hnull comp hcomp htyped => ?_⟩
    have hpk := (ptrPath_pod hcomp).1
    rw [hpod] at hpk
    rw [podPath_eq_pod_append, Ty.encode_fieldAt_omitEmpty kafkaTy kafkaTy_distinct hpk hm hnull,
      Ty.encode_fieldAt_omitEmpty kafkaTy kafkaTy_distinct hpk hm hnull]
    change tm.encodeOmitEmpty ((((Json.obj cs).setField "spec" u).field "spec").fieldAt _) =
      tm.encodeOmitEmpty (((Json.obj cs).field "spec").fieldAt _)
    rw [Json.field_setField, if_pos rfl]
    exact decode_merge_spec_keeps_member _ hdc hdec hpod hm hne hnull hcomp htyped

end Setters

theorem typed_podAffinity (nodeSelector : List (String × String)) :
    (Ty.ptr affinityTy).typed (podAffinity nodeSelector) = true := by
  have hterms : ∀ j, (Ty.slice nodeSelectorTermTy).typed
      (((Ty.slice nodeSelectorTermTy).decode j).getD (.arr [])) = true := by
    intro j
    cases h : (Ty.slice nodeSelectorTermTy).decode j with
    | none => rfl
    | some v => exact Ty.typed_of_decode _ (by decide) h
  show (true && ((Ty.slice nodeSelectorTermTy).typed
      (((Ty.slice nodeSelectorTermTy).decode _).getD (.arr [])) &&
    true && true) && (true && (true && true))) = true
  rw [hterms]
  rfl

theorem typed_tolerationsElem (tolerations : List Json) :
    (Ty.slice tolerationTy).typed (tolerationsElem tolerations) = true := by
  unfold tolerationsElem
  cases h : (Ty.slice tolerationTy).decode _ with
  | none => rfl
  | some v => exact Ty.typed_of_decode _ (by decide) h

section Builder
variable (defaults : ResourceDefaults) (mgh : Mgh) (k : Transporter)

theorem kafkaClusterLiteral_shaped : Shaped (kafkaClusterLiteral defaults mgh k) ∧
    ∀ comp ∈ kafkaComponents, ∀ m, (kafkaClusterLiteral defaults mgh k).fieldAt
        (podPath comp m) = .null := by
  have h : ∀ comp ∈ kafkaComponents,
      (kafkaClusterLiteral defaults mgh k).objectsAlong ["spec", comp, "template"] = true ∧
        (kafkaClusterLiteral defaults mgh k).fieldAt ["spec", comp, "template"] = .null := by
    intro comp hcomp
    rcases mem_kafkaComponents hcomp with rfl | rfl | rfl <;> exact ⟨rfl, rfl⟩
  refine ⟨⟨fun comp hc => (h comp hc).1, .inl fun comp hc => (h comp hc).2⟩, fun comp hc m => ?_⟩
  rw [podPath_eq_template_append, Json.fieldAt_append, (h comp hc).2, Json.null_fieldAt]

theorem newKafkaCluster_pod_templates :
    ∃ c, newKafkaCluster defaults mgh k = .ok c ∧ ∀ comp ∈ kafkaComponents,
      (kafkaTy.encode c).fieldAt (podPath comp "affinity") =
          (Ty.ptr affinityTy).encodeOmitEmpty ((mgh.nodeSelector.map podAffinity).getD .null) ∧
        (kafkaTy.encode c).fieldAt (podPath comp "tolerations") =
          (Ty.slice tolerationTy).encodeOmitEmpty
              ((mgh.tolerations.map tolerationsElem).getD .null) := by
  obtain ⟨h0, hnull⟩ := kafkaClusterLiteral_shaped defaults mgh k
  obtain ⟨c1, h1, w1⟩ := setAffinity_spec mgh h0
  obtain ⟨c2, h2, w2⟩ := setTolerations_spec mgh w1.shaped
  obtain ⟨c3, h3, s3, f3⟩ := setMetricsConfig_spec mgh w2.shaped
  obtain ⟨c4, h4, k4⟩ := setImagePullSecret_keeps_members mgh s3.components rfl
  have hpods : ∀ comp ∈ kafkaComponents, ∀ m, c3.fieldAt (podPath comp m) =
      c2.fieldAt (podPath comp m) :=
    fun comp _ m => f3 _ (by simp [Json.parts, podPath]) (by simp [Json.parts, podPath])
  refine ⟨c4, by simp only [newKafkaCluster, Outcome.bind_eq_bind, h1, Outcome.bind_ok, h2, h3, h4],
    fun comp hc => ⟨?_, ?_⟩⟩
  · have hA : c3.fieldAt (["spec", comp, "template", "pod"] ++ ["affinity"]) =
        (mgh.nodeSelector.map podAffinity).getD .null := by
      rw [← podPath_eq_pod_append, hpods comp hc, w2.reads comp hc, if_neg (by decide),
          w1.reads comp hc, if_pos rfl,
        hnull comp hc]
    rw [k4 _ _ (.head _) (by decide) rfl comp hc (by
        rw [podPath_eq_pod_append comp "affinity", hA]
        cases mgh.nodeSelector with
        | none => rfl
        | some ns => exact typed_podAffinity ns),
      podPath_eq_pod_append comp "affinity",
      Ty.encode_fieldAt_omitEmpty kafkaTy kafkaTy_distinct (ptrPath_pod hc).1 (.head _) rfl, hA]
  · have hT : c3.fieldAt (["spec", comp, "template", "pod"] ++ ["tolerations"]) =
        (mgh.tolerations.map tolerationsElem).getD .null := by
      rw [← podPath_eq_pod_append, hpods comp hc, w2.reads comp hc, if_pos rfl,
          w1.reads comp hc, if_neg (by decide),
        hnull comp hc]
    rw [k4 _ _ (.tail _ (.tail _ (.head _))) (by decide) rfl comp hc (by
        rw [podPath_eq_pod_append comp "tolerations", hT]
        cases mgh.tolerations with
        | none => rfl
        | some ts => exact typed_tolerationsElem ts),
      podPath_eq_pod_append comp "tolerations",
      Ty.encode_fieldAt_omitEmpty kafkaTy kafkaTy_distinct (ptrPath_pod hc).1
          (.tail _ (.tail _ (.head _))) rfl, hT]

/-- Whatever the hub sets, `newKafkaCluster` builds a cluster whose three pods carry the hub's
tolerations as `setTolerations` converts them, dropped when the hub sets none: neither
`setMetricsConfig` nor the merge patch of `setImagePullSecret` loses them. -/
theorem newKafkaCluster_pod_tolerations :
    ∃ c, newKafkaCluster defaults mgh k = .ok c ∧ ∀ comp ∈ kafkaComponents,
      (kafkaTy.encode c).fieldAt (podPath comp "tolerations") =
        (Ty.slice tolerationTy).encodeOmitEmpty
            ((mgh.tolerations.map tolerationsElem).getD .null) :=
  let ⟨c, hc, hpods⟩ := newKafkaCluster_pod_templates defaults mgh k
  ⟨c, hc, fun comp h => (hpods comp h).2⟩

end Builder

end StrimziTransport
