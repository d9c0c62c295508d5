import StrimziTransport.Transporter

/-!
`getConnCredentailByCluster` and `GetConnCredential`: the connection facts of the Kafka
cluster, read from the status the Strimzi operator publishes. The loop dereferences each
condition's `Type` (and, for a `Ready` one, its `Status`) and then indexes
`Status.Listeners[1]` and its `Certificates[0]` without a check.
-/

namespace StrimziTransport

private def base64Digit (n : Nat) : Char :=
  "ABCDEFGHIJKLMNOPQRSTUVWXYZabcdefghijklmnopqrstuvwxyz0123456789+/".data.getD n '='

def base64Encode : List UInt8 → List Char
  | [] => []
  | [a] => [base64Digit (a.toNat / 4), base64Digit (a.toNat % 4 * 16), '=', '=']
  | [a, b] => [base64Digit (a.toNat / 4), base64Digit (a.toNat % 4 * 16 + b.toNat / 16),
      base64Digit (b.toNat % 16 * 4), '=']
  | a :: b :: c :: rest => [base64Digit (a.toNat / 4),
      base64Digit (a.toNat % 4 * 16 + b.toNat / 16),
      base64Digit (b.toNat % 16 * 4 + c.toNat / 64), base64Digit (c.toNat % 64)] ++
      base64Encode rest

def encodeToString (s : String) : String := ⟨base64Encode s.toUTF8.toList⟩

/-- `transport.KafkaConnCredential`. -/
structure KafkaConnCredential where
  bootstrapServer : String := ""
  statusTopic : String := ""
  specTopic : String := ""
  clusterID : String := ""
  caCert : String := ""
  clientCert : String := ""
  clientKey : String := ""
  caSecretName : String := ""
  clientSecretName : String := ""
  deriving DecidableEq, Repr

/-- The credential built from a ready cluster, evaluated in the order of the composite
literal: the identity, then `*Listeners[1].BootstrapServers`, then
`Listeners[1].Certificates[0]`. -/
def readyCredential (kafkaCluster : Json) : Outcome KafkaConnCredential :=
  let status := kafkaCluster.field "status"
  let clusterIdentity := match status.field "clusterId" with
    | .null => ((kafkaCluster.field "metadata").field "uid").asStr
    | clusterId => clusterId.asStr
  match index (status.field "listeners") 1 with
  | .ok listener =>
      match deref (listener.field "bootstrapServers") with
      | .ok bootstrapServer =>
          match index (listener.field "certificates") 0 with
          | .ok cert => .ok
              { clusterID := clusterIdentity
                bootstrapServer := bootstrapServer
                caCert := encodeToString cert.asStr }
          | .error e => .error e
          | .panic e => .panic e
      | .error e => .error e
      | .panic e => .panic e
  | .error e => .error e
  | .panic e => .panic e

/-- The `range` loop over `Status.Conditions`, returning from the first ready one. -/
def credentialOfConditions (k : Transporter) (kafkaCluster : Json) :
    List Json → Outcome KafkaConnCredential
  | [] =>
      let ns := k.kafkaClusterNamespace
      let name := k.kafkaClusterName
      .error s!"kafka cluster {ns}/{name} is not ready"
  | condition :: rest =>
      match isReadyCondition condition with
      | .ok true => readyCredential kafkaCluster
      | .ok false => credentialOfConditions k kafkaCluster rest
      | .error e => .error e
      | .panic e => .panic e

/-- `getConnCredentailByCluster`, given what the `Get` of the cluster returned. -/
def getConnCredentailByCluster (k : Transporter) (get : Except String Json) :
    Outcome KafkaConnCredential :=
  match get with
  | .error e => .error e
  | .ok kafkaCluster =>
      let status := kafkaCluster.field "status"
      let name := ((kafkaCluster.field "metadata").field "name").asStr
      if status = .null ∨ status.field "conditions" = .null then
        .error s!"kafka cluster {name} has no status conditions"
      else credentialOfConditions k kafkaCluster (status.field "conditions").arrElems

def getClusterCASecret (clusterName : String) : String := clusterName ++ "-cluster-ca-cert"

/-- `GetConnCredential`; `agentCertificateSecretName` is what
`certificates.AgentCertificateSecretName()` returns, which is not in the sources. -/
def getConnCredential (k : Transporter) (agentCertificateSecretName : String)
    (get : Except String Json) (clusterName : String) : Outcome KafkaConnCredential :=
  match getConnCredentailByCluster k get with
  | .ok credential => .ok { credential with
      caSecretName := getClusterCASecret k.kafkaClusterName
      clientSecretName := agentCertificateSecretName
      statusTopic := getStatusTopic k.topics clusterName
      specTopic := k.topics.specTopic }
  | .error e => .error e
  | .panic e => .panic e

end StrimziTransport

namespace StrimziTransport

theorem readyCredential_eq_ok {kafkaCluster : Json} {cred : KafkaConnCredential}
    (h : readyCredential kafkaCluster = .ok cred) :
    ∃ listener cert,
      ((kafkaCluster.field "status").field "listeners").arrElems[1]? = some listener ∧
      listener.field "bootstrapServers" ≠ .null ∧
      cred.bootstrapServer = (listener.field "bootstrapServers").asStr ∧
      (listener.field "certificates").arrElems[0]? = some cert ∧
      cred.caCert = encodeToString cert.asStr := by
  unfold readyCredential at h
  dsimp only at h
  split at h <;> try cases h
  rename_i listener hl
  split at h <;> try cases h
  rename_i bootstrapServer hb
  split at h <;> cases h
  rename_i cert hc
  obtain ⟨hne, rfl⟩ := deref_eq_ok hb
  exact ⟨listener, cert, index_eq_ok hl, hne, rfl, index_eq_ok hc, rfl⟩

theorem credentialOfConditions_eq_ok {k : Transporter} {kafkaCluster : Json}
    {conditions : List Json} {cred : KafkaConnCredential}
    (h : credentialOfConditions k kafkaCluster conditions = .ok cred) :
    (∃ condition ∈ conditions, condition.field "type" = .str "Ready" ∧
      condition.field "status" = .str "True") ∧ readyCredential kafkaCluster = .ok cred := by
  induction conditions with
  | nil => cases h
  | cons condition rest ih =>
      unfold credentialOfConditions at h
      split at h
      · exact ⟨⟨condition, List.mem_cons_self _ _, isReadyCondition_eq_true ‹_›⟩, h⟩
      · obtain ⟨⟨c, hc, hr⟩, h'⟩ := ih h
        exact ⟨⟨c, List.mem_cons_of_mem _ hc, hr⟩, h'⟩
      all_goals cases h

theorem getConnCredentailByCluster_eq_ok {k : Transporter} {get : Except String Json}
    {cred : KafkaConnCredential} (h : getConnCredentailByCluster k get = .ok cred) :
    ∃ kafkaCluster, get = .ok kafkaCluster ∧
      (∃ condition ∈ ((kafkaCluster.field "status").field "conditions").arrElems,
        condition.field "type" = .str "Ready" ∧ condition.field "status" = .str "True") ∧
      ∃ listener cert,
        ((kafkaCluster.field "status").field "listeners").arrElems[1]? = some listener ∧
        listener.field "bootstrapServers" ≠ .null ∧
        cred.bootstrapServer = (listener.field "bootstrapServers").asStr ∧
        (listener.field "certificates").arrElems[0]? = some cert ∧
        cred.caCert = encodeToString cert.asStr := by
  unfold getConnCredentailByCluster at h
  split at h
  · cases h
  · rename_i kafkaCluster
    dsimp only at h
    split at h
    · cases h
    · obtain ⟨hready, hcred⟩ := credentialOfConditions_eq_ok h
      exact ⟨kafkaCluster, rfl, hready, readyCredential_eq_ok hcred⟩

/-- A `Ready` status that lists no listener: `Status.Listeners[1]` panics. -/
theorem getConnCredentailByCluster_panics_without_listeners (k : Transporter) :
    getConnCredentailByCluster k (.ok (.obj [("status", .obj [
        ("conditions", .arr [.obj [("type", .str "Ready"), ("status", .str "True")]]),
        ("listeners", .arr [])])])) = .panic (indexOutOfRange 1 0) := by
  rfl

end StrimziTransport
