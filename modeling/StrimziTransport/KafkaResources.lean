import StrimziTransport.MergeObjects
import StrimziTransport.Transporter

/-!
The `KafkaUser` and `KafkaTopic` objects as the transporter writes and compares them, and
their constructors `newKafkaUser` and `newKafkaTopic`. The Go types are those of the
`kafka.strimzi.io/v1beta2` package of `strimzi-client-go`, which is not in the sources:
each type lists the JSON members of its struct in declaration order, with their `omitempty`
tags. Of an object's metadata only what the reconcilers set is kept; `status`, `TypeMeta`
and the spec members that no modelled code sets or reads (quotas, templates, passwords)
are left out.
-/

namespace StrimziTransport

/-- `constants.GlobalHubOwnerLabelKey` and `GlobalHubOwnerLabelVal` of `pkg/constants`. -/
def globalHubOwnerLabelKey : String := "global-hub.open-cluster-management.io/managed-by"

def globalHubOwnerLabelVal : String := "global-hub"

/-- `DefaultPartition`. -/
def defaultPartition : Int := 1

def kafkaUserSpecAuthenticationTypeTlsExternal : String := "tls-external"

def kafkaUserSpecAuthorizationTypeSimple : String := "simple"

/-- The kinds the transporter stores its objects under. -/
def kafkaUserKind : String := "KafkaUser"

def kafkaTopicKind : String := "KafkaTopic"

/-- `metav1.ObjectMeta`: the members the reconcilers set. -/
def objectMetaTy : Ty :=
  .struct [("name", true, .string), ("namespace", true, .string), ("labels", true, .map),
    ("annotations", true, .map)]

/-- `KafkaUserSpecAuthorizationAclsElemResource`. -/
def aclResourceTy : Ty :=
  .struct [("name", true, .ptr .string), ("patternType", true, .ptr .string),
    ("type", false, .string)]

/-- `KafkaUserSpecAuthorizationAclsElem`. -/
def aclRuleTy : Ty :=
  .struct [("host", true, .ptr .string), ("operation", true, .ptr .string),
    ("operations", true, .slice .string), ("resource", false, aclResourceTy),
    ("type", true, .ptr .string)]

/-- `KafkaUserSpecAuthorization`. -/
def kafkaUserAuthorizationFields : List (String × Bool × Ty) :=
  [("acls", false, .slice aclRuleTy), ("type", false, .string)]

/-- `KafkaUserSpecAuthentication`. -/
def kafkaUserAuthenticationTy : Ty := .struct [("type", false, .string)]

/-- `KafkaUserSpec`. -/
def kafkaUserSpecFields : List (String × Bool × Ty) :=
  [("authentication", true, .ptr kafkaUserAuthenticationTy),
    ("authorization", true, .ptr (.struct kafkaUserAuthorizationFields))]

/-- `KafkaUser`. -/
def kafkaUserFields : List (String × Bool × Ty) :=
  [("metadata", true, objectMetaTy), ("spec", true, .ptr (.struct kafkaUserSpecFields))]

def kafkaUserTy : Ty := .struct kafkaUserFields

/-- `KafkaTopicSpec`. -/
def kafkaTopicSpecFields : List (String × Bool × Ty) :=
  [("config", true, .ptr .raw), ("partitions", true, .ptr .int), ("replicas", true, .ptr .int),
    ("topicName", true, .ptr .string)]

/-- `KafkaTopic`. -/
def kafkaTopicFields : List (String × Bool × Ty) :=
  [("metadata", true, objectMetaTy), ("spec", true, .ptr (.struct kafkaTopicSpecFields))]

def kafkaTopicTy : Ty := .struct kafkaTopicFields

def ownedLabels (k : Transporter) : Json :=
  .obj [("strimzi.io/cluster", .str k.kafkaClusterName),
    (globalHubOwnerLabelKey, .str globalHubOwnerLabelVal)]

def newKafkaTopic (k : Transporter) (topicName : String) : Json :=
  .obj [("metadata", .obj [("name", .str topicName), ("namespace", .str k.kafkaClusterNamespace),
      ("labels", ownedLabels k)]),
    ("spec", .obj [("partitions", .num defaultPartition),
        ("replicas", .num k.topicPartitionReplicas),
      ("config", .obj [("cleanup.policy", .str "compact")])])]

def newKafkaUser (k : Transporter) (userName : String) (authnType : String)
    (simpleACLs : List Json) : Json :=
  .obj [("metadata", .obj [("name", .str userName), ("namespace", .str k.kafkaClusterNamespace),
      ("labels", ownedLabels k)]),
    ("spec", .obj [("authentication", .obj [("type", .str authnType)]),
      ("authorization", .obj [("type", .str kafkaUserSpecAuthorizationTypeSimple),
        ("acls", .arr simpleACLs)])])]

/-- The user `EnsureUser` wants for a managed hub. -/
def desiredKafkaUser (k : Transporter) (userName clusterName : String) : Json :=
  newKafkaUser k userName kafkaUserSpecAuthenticationTypeTlsExternal
      (clusterACLs k.topics clusterName)

/-- The authorization the desired user carries: type `simple` and the hub's three rules. -/
def derivedAuthorization (cfg : TopicConfig) (clusterName : String) : Json :=
  .obj [("type", .str kafkaUserSpecAuthorizationTypeSimple),
      ("acls", .arr (clusterACLs cfg clusterName))]

section Desired
variable (k : Transporter) (userName clusterName topicName : String)

theorem kafkaUserTy_distinct : kafkaUserTy.distinct = true := by decide

theorem kafkaTopicTy_distinct : kafkaTopicTy.distinct = true := by decide

theorem desiredKafkaUser_typed : kafkaUserTy.typed
    (desiredKafkaUser k userName clusterName) = true :=
  rfl

theorem desiredKafkaUser_clean :
    (kafkaUserTy.encode (desiredKafkaUser k userName clusterName)).clean = true :=
  Ty.clean_encode _ kafkaUserTy_distinct (desiredKafkaUser_typed k userName clusterName) rfl

theorem newKafkaTopic_typed : kafkaTopicTy.typed (newKafkaTopic k topicName) = true := rfl

theorem newKafkaTopic_clean : (kafkaTopicTy.encode (newKafkaTopic k topicName)).clean = true :=
  Ty.clean_encode _ kafkaTopicTy_distinct (newKafkaTopic_typed k topicName) rfl

end Desired

end StrimziTransport
