import StrimziTransport.AccessPolicy

/-!
The `strimziTransporter` record, as far as the modelled methods read it, and the outcome
of a Go call: a value, a returned error, or a run-time panic (a nil dereference or an
index past the end of a slice), which the model keeps apart from an error.
-/

namespace StrimziTransport

/-- What a Go function call ends with. -/
inductive Outcome (α : Type) where
  | ok (a : α)
  | error (msg : String)
  | panic (msg : String)
  deriving DecidableEq, Repr

namespace Outcome

def isPanic {α : Type} : Outcome α → Bool
  | .panic _ => true
  | _ => false

end Outcome

/-- `runtime error: invalid memory address or nil pointer dereference`. -/
def nilDereference : String := "invalid memory address or nil pointer dereference"

/-- `runtime error: index out of range [i] with length n`. -/
def indexOutOfRange (i n : Nat) : String := s!"index out of range [{i}] with length {n}"

def deref (p : Json) : Outcome String :=
  if p = .null then .panic nilDereference else .ok p.asStr

def index (s : Json) (i : Nat) : Outcome Json :=
  match s.arrElems[i]? with
  | some x => .ok x
  | none => .panic (indexOutOfRange i s.arrElems.length)

/-- `*condition.Type == "Ready" && *condition.Status == "True"` on a status condition of
the Kafka cluster, as both readiness loops test it (`&&` short-circuits). -/
def isReadyCondition (condition : Json) : Outcome Bool :=
  match deref (condition.field "type") with
  | .ok "Ready" =>
      match deref (condition.field "status") with
      | .ok "True" => .ok true
      | .ok _ => .ok false
      | .error e => .error e
      | .panic e => .panic e
  | .ok _ => .ok false
  | .error e => .error e
  | .panic e => .panic e

/-- The fields of `strimziTransporter` read by the modelled methods; the topic settings
come from `operator/pkg/config`. -/
structure Transporter where
  kafkaClusterName : String
  kafkaClusterNamespace : String
  topics : TopicConfig
  topicPartitionReplicas : Int
  waitReady : Bool
  enableTLS : Bool
  deriving DecidableEq, Repr

theorem deref_eq_ok {p : Json} {s : String} (h : deref p = .ok s) : p ≠ .null ∧ p.asStr = s := by
  unfold deref at h
  split at h
  · cases h
  · cases h; exact ⟨‹_›, rfl⟩

theorem deref_eq_ok_str {p : Json} {s : String} (h : deref p = .ok s) (hs : s ≠ "") :
    p = .str s := by
  obtain ⟨hp, rfl⟩ := deref_eq_ok h
  cases p <;> simp_all [Json.asStr]

theorem index_eq_ok {s x : Json} {i : Nat} (h : index s i = .ok x) : s.arrElems[i]? = some x := by
  unfold index at h
  split at h <;> simp_all

theorem isReadyCondition_eq_true {condition : Json} (h : isReadyCondition condition = .ok true) :
    condition.field "type" = .str "Ready" ∧ condition.field "status" = .str "True" := by
  unfold isReadyCondition at h
  split at h
  · rename_i ht
    split at h
    · exact ⟨deref_eq_ok_str ht (by decide), deref_eq_ok_str ‹_› (by decide)⟩
    all_goals cases h
  all_goals cases h

/-- A status condition the readiness loops can test without a panic: its `Type` is set,
and so is its `Status` when the type is `Ready`. -/
def ConditionTyped (condition : Json) : Prop :=
  condition.field "type" ≠ .null ∧
    (condition.field "type" = .str "Ready" → condition.field "status" ≠ .null)

instance (condition : Json) : Decidable (ConditionTyped condition) :=
  inferInstanceAs (Decidable (_ ∧ _))

theorem isReadyCondition_of_typed {condition : Json} (h : ConditionTyped condition) :
    isReadyCondition condition = .ok (condition.field "type" == .str "Ready" &&
      condition.field "status" == .str "True") := by
  obtain ⟨ht, hs⟩ := h
  unfold isReadyCondition
  generalize condition.field "type" = t at *
  generalize condition.field "status" = st at *
  cases t with
  | null => exact absurd rfl ht
  | str x =>
      by_cases hx : x = "Ready"
      · subst hx
        cases st with
        | null => exact absurd rfl (hs rfl)
        | str y => by_cases hy : y = "True" <;> simp [deref, hy]
        | _ => simp [deref, Json.asStr]
      · simp [deref, hx]
  | _ => simp [deref, Json.asStr]

end StrimziTransport
