import StrimziTransport.Json
import StrimziTransport.MergePatch
import StrimziTransport.MergeLaws
import StrimziTransport.Encoding
import StrimziTransport.Equality
import StrimziTransport.Typed
import StrimziTransport.MergeObjects
import StrimziTransport.AccessPolicy
import StrimziTransport.Transporter
import StrimziTransport.Credential
import StrimziTransport.Poll
import StrimziTransport.Store
import StrimziTransport.KafkaResources
import StrimziTransport.Tenant
import StrimziTransport.FieldPath
import StrimziTransport.KafkaCluster
import StrimziTransport.PodTemplates
import StrimziTransport.Placement
import StrimziTransport.HubAnnotations
import StrimziTransport.ApplyObjects
import StrimziTransport.Subscription
import StrimziTransport.Finalizers
import StrimziTransport.Waits
import StrimziTransport.AlertCounts
import StrimziTransport.GlobalHubObjects
import StrimziTransport.NewTransporter
import StrimziTransport.Retry
import StrimziTransport.ListedLoops
import StrimziTransport.EnsureKafka
import StrimziTransport.Prune
