import StrimziTransport.Equality

/-!
Topic names and ACL rules. `getClusterTopic` and the three ACL builders of
`strimzi_transporter.go`; the topic settings of `operator/pkg/config` are not in the
sources, so the status topic of a managed hub is modelled from the spec: the configured
template with the hub's name put in place of every wildcard `*`.
-/

namespace StrimziTransport

/-- `strings.Replace(s, "*", new, -1)`. -/
def replaceWildcard (s new : String) : String :=
  ⟨s.data.flatMap fun c => if c = '*' then new.data else [c]⟩

/-- `strings.Contains(s, "*")`. -/
def hasWildcard (s : String) : Bool := s.data.contains '*'

/-- The topic settings the transporter reads from `operator/pkg/config`. -/
structure TopicConfig where
  specTopic : String
  rawStatusTopic : String
  deriving DecidableEq, Repr

/-- Modelled from the spec: `config.GetStatusTopic` is not in the sources. "StatusTopic is
either a literal per-tenant name or, when the configured status-topic template contains a
wildcard placeholder, a name built by substituting the tenant identifier". -/
def getStatusTopic (cfg : TopicConfig) (clusterName : String) : String :=
  replaceWildcard cfg.rawStatusTopic clusterName

/-- `transport.ClusterTopic`. -/
structure ClusterTopic where
  specTopic : String
  statusTopic : String
  deriving DecidableEq, Repr

def getClusterTopic (cfg : TopicConfig) (clusterName : String) : ClusterTopic :=
  { specTopic := cfg.specTopic, statusTopic := getStatusTopic cfg clusterName }

/-- A `KafkaUserSpecAuthorizationAclsElem` on host `*`. -/
def aclRule (resourceType name patternType : String) (operations : List String) : Json :=
  .obj [("host", .str "*"),
    ("resource", .obj [("type", .str resourceType), ("name", .str name),
      ("patternType", .str patternType)]),
    ("operations", .arr (operations.map .str))]

def writeTopicACL (topicName : String) : Json :=
  aclRule "topic" topicName "literal" ["Write"]

def readTopicACL (topicName : String) (prefixParttern : Bool) : Json :=
  aclRule "topic" topicName (if prefixParttern then "prefix" else "literal") ["Describe", "Read"]

def consumeGroupReadACL : Json :=
  aclRule "group" "*" "literal" ["Read"]

/-- The `simpleACLs` that `EnsureUser` builds for a managed hub. -/
def clusterACLs (cfg : TopicConfig) (clusterName : String) : List Json :=
  let clusterTopic := getClusterTopic cfg clusterName
  [consumeGroupReadACL, readTopicACL clusterTopic.specTopic false,
    writeTopicACL clusterTopic.statusTopic]

/-- The topic resources a rule grants `op` on, by name. -/
def topicGrants (op : String) (rule : Json) : List String :=
  let resource := rule.field "resource"
  if resource.field "type" = .str "topic" ∧ .str op ∈ (rule.field "operations").arrElems
  then [(resource.field "name").asStr] else []

end StrimziTransport

namespace StrimziTransport

/-- The status-topic values `renderKafkaResources` hands the manifests: `StatusTopic`,
`StatusPlaceholderTopic` and `StatusTopicParttern`. -/
structure StatusTopicParams where
  statusTopic : String
  statusPlaceholderTopic : String
  topicParttern : String
  deriving DecidableEq, Repr

def statusTopicParams (rawStatusTopic : String) : StatusTopicParams :=
  if hasWildcard rawStatusTopic then
    { statusTopic := replaceWildcard rawStatusTopic ""
      statusPlaceholderTopic := replaceWildcard rawStatusTopic "global-hub"
      topicParttern := "prefix" }
  else
    { statusTopic := rawStatusTopic, statusPlaceholderTopic := rawStatusTopic
      topicParttern := "literal" }

/-- The status rule of `global-hub-kafka-user` in the rendered manifests. -/
def globalHubStatusReadACL (p : StatusTopicParams) : Json :=
  aclRule "topic" p.statusTopic p.topicParttern ["Describe", "Read"]

/-- Whether a rule's resource matches a topic name: a literal name is the topic itself, a
prefix name any topic that begins with it. -/
def coversTopic (rule : Json) (topic : String) : Bool :=
  let resource := rule.field "resource"
  resource.field "type" == .str "topic" &&
    match resource.field "patternType" with
    | .str "literal" => (resource.field "name").asStr == topic
    | .str "prefix" => (resource.field "name").asStr.data.isPrefixOf topic.data
    | _ => false

end StrimziTransport

namespace StrimziTransport

theorem clusterACLs_write_grants (cfg : TopicConfig) (clusterName : String) :
    (clusterACLs cfg clusterName).flatMap (topicGrants "Write") =
      [(getClusterTopic cfg clusterName).statusTopic] := by
  simp [clusterACLs, topicGrants, consumeGroupReadACL, readTopicACL, writeTopicACL, aclRule]

private theorem wildcard_expand_length (cs new : List Char) :
    (cs.flatMap fun c => if c = '*' then new else [c]).length + cs.count '*' =
      cs.length + cs.count '*' * new.length := by
  induction cs with
  | nil => simp
  | cons c cs ih =>
      by_cases h : c = '*'
      · simp only [List.flatMap_cons, h, if_true, List.length_append, List.count_cons_self,
          List.length_cons, Nat.succ_mul]
        omega
      · simp only [List.flatMap_cons, h, if_false, List.length_append, List.length_singleton,
          List.count_cons_of_ne (Ne.symm h), List.length_cons, List.length_nil]
        omega

private theorem wildcard_expand_inj {cs c d : List Char} (hs : '*' ∈ cs)
    (hl : c.length = d.length)
    (h : (cs.flatMap fun x => if x = '*' then c else [x]) =
      cs.flatMap fun x => if x = '*' then d else [x]) : c = d := by
  induction cs with
  | nil => simp at hs
  | cons x cs ih =>
      by_cases hx : x = '*'
      · simp only [List.flatMap_cons, hx, if_true] at h
        exact (List.append_inj h hl).1
      · simp only [List.flatMap_cons, hx, if_false, List.singleton_append,
          List.cons.injEq, true_and] at h
        exact ih ((List.mem_cons.mp hs).resolve_left (Ne.symm hx)) h

theorem getStatusTopic_injective (cfg : TopicConfig) {c d : String}
    (hw : hasWildcard cfg.rawStatusTopic) (h : getStatusTopic cfg c = getStatusTopic cfg d) :
    c = d := by
  have hs : '*' ∈ cfg.rawStatusTopic.data := by simpa [hasWildcard] using hw
  have hd := congrArg String.data h
  simp only [getStatusTopic, replaceWildcard] at hd
  have hc : 0 < cfg.rawStatusTopic.data.count '*' := List.count_pos_iff.mpr hs
  have hl := wildcard_expand_length cfg.rawStatusTopic.data c.data
  have hl' := wildcard_expand_length cfg.rawStatusTopic.data d.data
  rw [hd] at hl
  have hlen : c.data.length = d.data.length :=
    Nat.eq_of_mul_eq_mul_left hc (by omega)
  exact String.ext (wildcard_expand_inj hs hlen hd)

end StrimziTransport

namespace StrimziTransport

/-- The policy of a managed hub grants `Write` on its status topic alone; with a wildcard
in the template that topic is the hub's own, so at most one hub's status topic can be the
spec topic. -/
theorem clusterACLs_write_status_topic (cfg : TopicConfig) (c d : String) (hcd : c ≠ d) :
    (clusterACLs cfg c).flatMap (topicGrants "Write") = [(getClusterTopic cfg c).statusTopic] ∧
      (hasWildcard cfg.rawStatusTopic →
        (getClusterTopic cfg c).statusTopic ≠ (getClusterTopic cfg d).statusTopic ∧
        ((getClusterTopic cfg c).statusTopic = cfg.specTopic →
          (getClusterTopic cfg d).statusTopic ≠ cfg.specTopic)) :=
  ⟨clusterACLs_write_grants cfg c, fun hw =>
    ⟨fun h => hcd (getStatusTopic_injective cfg hw h),
      fun hc hd => hcd (getStatusTopic_injective cfg hw (hc.trans hd.symm))⟩⟩

theorem clusterACLs_write_status_topic_hubs :
    "hub1" ≠ "hub2" ∧
      ((clusterACLs ⟨"gh-spec", "gh-status.*"⟩ "hub1").flatMap (topicGrants "Write") =
          [(getClusterTopic ⟨"gh-spec", "gh-status.*"⟩ "hub1").statusTopic] ∧
        (hasWildcard "gh-status.*" →
          (getClusterTopic ⟨"gh-spec", "gh-status.*"⟩ "hub1").statusTopic ≠
            (getClusterTopic ⟨"gh-spec", "gh-status.*"⟩ "hub2").statusTopic ∧
          ((getClusterTopic ⟨"gh-spec", "gh-status.*"⟩ "hub1").statusTopic = "gh-spec" →
            (getClusterTopic ⟨"gh-spec", "gh-status.*"⟩ "hub2").statusTopic ≠ "gh-spec"))) :=
  ⟨by decide, clusterACLs_write_status_topic ⟨"gh-spec", "gh-status.*"⟩ "hub1" "hub2" (by decide)⟩

/-- A managed hub named after the rest of the spec topic writes to the spec topic. -/
theorem statusTopic_eq_specTopic_of_hub_name :
    (getClusterTopic ⟨"gh-spec", "gh-*"⟩ "spec").statusTopic =
      (getClusterTopic ⟨"gh-spec", "gh-*"⟩ "spec").specTopic := by
  decide

private theorem wildcard_expand_of_not_mem {cs : List Char} (h : '*' ∉ cs) (new : List Char) :
    (cs.flatMap fun x => if x = '*' then new else [x]) = cs := by
  induction cs with
  | nil => rfl
  | cons x cs ih =>
      have hx : x ≠ '*' := fun e => h (e ▸ List.mem_cons_self _ _)
      simp [List.flatMap_cons, hx, ih (fun m => h (List.mem_cons_of_mem _ m))]

private theorem wildcard_expand_stars {cs : List Char} (h : ∀ ch ∈ cs, ch = '*') :
    (cs.flatMap fun x => if x = '*' then ([] : List Char) else [x]) = [] := by
  induction cs with
  | nil => rfl
  | cons x cs ih =>
      simp [List.flatMap_cons, h x (List.mem_cons_self _ _),
        ih (fun ch m => h ch (List.mem_cons_of_mem _ m))]

private theorem wildcard_expand_split (cs new : List Char)
    (htrail : ∀ ch ∈ cs.dropWhile (· != '*'), ch = '*') :
    (cs.flatMap fun x => if x = '*' then new else [x]) =
        cs.takeWhile (· != '*') ++
          ((cs.dropWhile (· != '*')).flatMap fun x => if x = '*' then new else [x]) ∧
      (cs.flatMap fun x => if x = '*' then ([] : List Char) else [x]) =
        cs.takeWhile (· != '*') := by
  have hp : '*' ∉ cs.takeWhile (· != '*') := fun m => by
    simpa using List.mem_takeWhile_imp m
  have key : ∀ new : List Char, (cs.flatMap fun x => if x = '*' then new else [x]) =
      cs.takeWhile (· != '*') ++
        ((cs.dropWhile (· != '*')).flatMap fun x => if x = '*' then new else [x]) := by
    intro new
    conv_lhs => rw [← List.takeWhile_append_dropWhile (· != '*') cs]
    rw [List.flatMap_append, wildcard_expand_of_not_mem hp]
  exact ⟨key new, by rw [key, wildcard_expand_stars htrail, List.append_nil]⟩

end StrimziTransport

namespace StrimziTransport

/-- When the wildcards of the template all stand at its end, the status rule of the global
hub user covers the status topic of every managed hub and the placeholder topic. -/
theorem globalHubStatusReadACL_covers (cfg : TopicConfig) (c : String)
    (htrail : ∀ ch ∈ cfg.rawStatusTopic.data.dropWhile (· != '*'), ch = '*') :
    coversTopic (globalHubStatusReadACL (statusTopicParams cfg.rawStatusTopic))
        (getClusterTopic cfg c).statusTopic = true ∧
      coversTopic (globalHubStatusReadACL (statusTopicParams cfg.rawStatusTopic))
        (statusTopicParams cfg.rawStatusTopic).statusPlaceholderTopic = true := by
  obtain ⟨hc, hempty⟩ := wildcard_expand_split cfg.rawStatusTopic.data c.data htrail
  have hg := (wildcard_expand_split cfg.rawStatusTopic.data "global-hub".data htrail).1
  by_cases hw : hasWildcard cfg.rawStatusTopic
  · simp [coversTopic, globalHubStatusReadACL, statusTopicParams, hw, aclRule, getClusterTopic,
      getStatusTopic, replaceWildcard, hc, hg, hempty]
  · have hn : '*' ∉ cfg.rawStatusTopic.data := by simpa [hasWildcard] using hw
    simp [coversTopic, globalHubStatusReadACL, statusTopicParams, hw, aclRule, getClusterTopic,
      getStatusTopic, replaceWildcard, wildcard_expand_of_not_mem hn]

theorem globalHubStatusReadACL_covers_hub1 :
    (∀ ch ∈ "gh-status.*".data.dropWhile (· != '*'), ch = '*') ∧
      coversTopic (globalHubStatusReadACL (statusTopicParams "gh-status.*"))
          (getClusterTopic ⟨"gh-spec", "gh-status.*"⟩ "hub1").statusTopic = true ∧
        coversTopic (globalHubStatusReadACL (statusTopicParams "gh-status.*"))
          (statusTopicParams "gh-status.*").statusPlaceholderTopic = true :=
  ⟨by decide, globalHubStatusReadACL_covers ⟨"gh-spec", "gh-status.*"⟩ "hub1" (by decide)⟩

/-- A wildcard inside the template: the rule's prefix, the template without its wildcard,
does not begin the hub's status topic. -/
theorem globalHubStatusReadACL_misses_inner_wildcard :
    coversTopic (globalHubStatusReadACL (statusTopicParams "gh-status.*.v1"))
      (getClusterTopic ⟨"gh-spec", "gh-status.*.v1"⟩ "hub1").statusTopic = false := by
  decide

end StrimziTransport
