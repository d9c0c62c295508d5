import StrimziTransport.KafkaCluster
import StrimziTransport.Tenant

/-!
`Prune` of `strimzi_transporter.go`, called when a hub leaves: it reads the hub's KafkaUser
and deletes it when found. The deletion of the hub's status topic is commented out in the
source, so `Prune` deletes nothing else. It runs alone against the store.
-/

namespace StrimziTransport

section Prune
variable (k : Transporter) (getKafkaUserName : String → String) (clusterName : String)

/-- `Prune`; the merge patch's `prune` has the plain name. -/
def Transporter.prune (s : Store) : Run (Option String) :=
  let userName := getKafkaUserName clusterName
  let get := Call.get kafkaUserKind k.kafkaClusterNamespace userName
  match s.get kafkaUserKind k.kafkaClusterNamespace userName with
  | .ok _ =>
      let r := s.delete kafkaUserKind k.kafkaClusterNamespace userName
      ⟨callError r.1, r.2, [get, .delete kafkaUserKind k.kafkaClusterNamespace userName]⟩
  | .error .notFound => ⟨none, s, [get]⟩
  | .error e => ⟨some e.reason, s, [get]⟩

end Prune

end StrimziTransport
