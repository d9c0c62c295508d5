import StrimziTransport.Subscription

/-!
`ManipulateGlobalHubObjects` of `utils.go`, which `renderKafkaResources` calls on the rendered
Kafka objects: each object in turn is given the hub as controller owner when its kind is
namespaced, the operator's owner label, and is deployed; the first error ends the loop. The REST
mapper, `controllerutil.SetControllerReference` and the deployer are outside the sources and are
parameters. `GetLabels` and `SetLabels` are those of `unstructured.Unstructured`: a missing
`metadata` map is created, and one that is no map makes `SetLabels` a no-op.
-/

namespace StrimziTransport

/-- What `ManipulateGlobalHubObjects` calls outside the sources: whether the REST mapping of an
object's kind is namespaced, `SetControllerReference` with the hub as owner, and `Deploy`. -/
structure ObjectHandlers where
  restMapping : Json → Except String Bool
  setControllerReference : Json → Except String Json
  deploy : Json → Option String

def allStrings (ms : List (String × Json)) : Bool := ms.all fun m => m.2 matches .str _

/-- `GetLabels`: the labels, nil when `metadata.labels` is no map of strings. -/
def getLabels (obj : Json) : List (String × Json) :=
  match (obj.field "metadata").field "labels" with
  | .obj ms => if allStrings ms then ms else []
  | _ => []

/-- `SetLabels` with a non-nil map. -/
def setLabels (obj : Json) (labels : List (String × Json)) : Json :=
  match obj with
  | .obj ms =>
      match ms.lookup "metadata" with
      | none => .obj (setMember "metadata" (.obj [("labels", .obj labels)]) ms)
      | some (.obj meta) =>
          .obj (setMember "metadata" (.obj (setMember "labels" (.obj labels) meta)) ms)
      | some _ => obj
  | _ => obj

def labelObject (obj : Json) : Json :=
  setLabels obj (setMember globalHubOwnerLabelKey (.str gHOperatorOwnerLabelVal) (getLabels obj))

def MetadataMap (obj : Json) : Prop :=
  ∃ ms, obj = .obj ms ∧ (ms.lookup "metadata" = none ∨ ∃ meta,
      ms.lookup "metadata" = some (.obj meta))

theorem allStrings_getLabels (obj : Json) : allStrings (getLabels obj) = true := by
  unfold getLabels
  split
  · split <;> first | assumption | rfl
  · rfl

theorem allStrings_setMember {ms : List (String × Json)} (h : allStrings ms = true) (k v : String) :
    allStrings (setMember k (.str v) ms) = true := by
  simp only [allStrings, List.all_eq_true] at h ⊢
  intro m hm
  unfold setMember at hm
  split at hm
  · obtain ⟨m', hm', rfl⟩ := List.mem_map.mp hm
    by_cases hk : (m'.1 == k) = true
    · rw [if_pos hk]
    · rw [if_neg hk]; exact h m' hm'
  · rcases List.mem_append.mp hm with hm | hm
    · exact h m hm
    · rw [List.mem_singleton.mp hm]

theorem getLabels_setLabels {obj : Json} (ho : MetadataMap obj) {labels : List (String × Json)}
    (hs : allStrings labels = true) : getLabels (setLabels obj labels) = labels := by
  obtain ⟨ms, rfl, hm | ⟨meta, hm⟩⟩ := ho
  all_goals
    simp only [setLabels, hm]
    simp [getLabels, Json.field, Json.get?, lookup_setMember, hs]

theorem labelObject_labels {obj : Json} (ho : MetadataMap obj) (k : String) :
    (getLabels (labelObject obj)).lookup k =
      if k = globalHubOwnerLabelKey then some (.str gHOperatorOwnerLabelVal) else
          (getLabels obj).lookup k := by
  rw [labelObject, getLabels_setLabels ho
      (allStrings_setMember (allStrings_getLabels obj) _ _), lookup_setMember]

section Manipulate
variable (h : ObjectHandlers)

def controlObject (obj : Json) : Except String Json := do
  let namespaced ← h.restMapping obj
  if namespaced then h.setControllerReference obj else pure obj

/-- `ManipulateGlobalHubObjects`: the objects deployed, in order, and the error it returns. -/
def manipulateGlobalHubObjects : List Json → List Json × Option String
  | [] => ([], none)
  | obj :: objects =>
      match controlObject h obj with
      | .error e => ([], some e)
      | .ok obj =>
          match h.deploy (labelObject obj) with
          | some e => ([], some e)
          | none =>
              let r := manipulateGlobalHubObjects objects
              (labelObject obj :: r.1, r.2)

def FailsOn (obj : Json) (e : String) : Prop :=
  controlObject h obj = .error e ∨ ∃ c, controlObject h obj = .ok c ∧
      h.deploy (labelObject c) = some e

/-- An object that went through: the object handed to the deployer, which accepted it, labelled
after its controller reference; where `SetLabels` writes, it carries the owner label and keeps
its other labels. -/
def Deployed (obj obj' : Json) : Prop :=
  (∃ c, controlObject h obj = .ok c ∧ obj' = labelObject c ∧ (MetadataMap c → ∀ k,
    (getLabels obj').lookup k =
      if k = globalHubOwnerLabelKey then some (.str gHOperatorOwnerLabelVal) else
          (getLabels c).lookup k)) ∧
    h.deploy obj' = none

end Manipulate

section Loop
variable (h : ObjectHandlers)

/-- The loop deploys, in order, the objects before the first one that fails, each labelled after
its controller reference, and returns nil when none fails or else the error of the first that
fails. -/
theorem manipulateGlobalHubObjects_deploys_until_first_error (objects : List Json) :
    let r := manipulateGlobalHubObjects h objects
    ∃ pre, List.Forall₂ (Deployed h) pre r.1 ∧
      ((r.2 = none ∧ pre = objects) ∨
        ∃ e obj post, r.2 = some e ∧ objects = pre ++ obj :: post ∧ FailsOn h obj e) := by
  induction objects with
  | nil => exact ⟨[], .nil, .inl ⟨rfl, rfl⟩⟩
  | cons obj objects ih =>
      show ∃ pre, List.Forall₂ (Deployed h) pre
          (manipulateGlobalHubObjects h (obj :: objects)).1 ∧ _
      rw [manipulateGlobalHubObjects]
      cases hc : controlObject h obj with
      | error e => exact ⟨[], .nil, .inr ⟨e, obj, objects, rfl, rfl, .inl hc⟩⟩
      | ok c =>
          dsimp only
          cases hd : h.deploy (labelObject c) with
          | some e => exact ⟨[], .nil, .inr ⟨e, obj, objects, rfl, rfl, .inr ⟨c, hc, hd⟩⟩⟩
          | none =>
              dsimp only
              obtain ⟨pre, hpre, hend⟩ := ih
              refine ⟨obj :: pre,
                .cons ⟨⟨c, hc, rfl, fun hm => labelObject_labels hm⟩, hd⟩ hpre, ?_⟩
              rcases hend with ⟨hr, rfl⟩ | ⟨e, o, post, hr, rfl, hf⟩
              · exact .inl ⟨hr, rfl⟩
              · exact .inr ⟨e, o, post, hr, rfl, hf⟩

end Loop

end StrimziTransport
