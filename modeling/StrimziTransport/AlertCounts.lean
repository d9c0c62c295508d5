import StrimziTransport.HubAnnotations

/-!
`GetAlertGPCcount` and `IsAlertGPCcountEqual` of `utils.go`: the numbers of groups, policies and
contact points of a Grafana alerting document. `yaml.Unmarshal` into `map[string]interface{}` is
a parameter: its result is the document's members in the order the `range` visits them, which Go
leaves unspecified, and a Go map holds each key once. The `range` loop computes the lengths the
map holds under the three keys, so the counts depend on the map only, never on the order.
-/

namespace StrimziTransport

/-- `len(vArray)` with `vArray, _ := v.([]interface{})`: a member that is no list counts as a nil
slice. -/
def countOf (v : Json) : Nat := v.arrElems.length

def countRange : Nat × Nat × Nat → List (String × Json) → Nat × Nat × Nat
  | counts, [] => counts
  | (groupCount, policyCount, contactCount), (k, v) :: rest =>
      if !(k = "groups" ∨ k = "policies" ∨ k = "contactPoints") then
        countRange (groupCount, policyCount, contactCount) rest
      else
        let vArray := countOf v
        let groupCount := if k = "groups" then vArray else groupCount
        let policyCount := if k = "policies" then vArray else policyCount
        let contactCount := if k = "contactPoints" then vArray else contactCount
        countRange (groupCount, policyCount, contactCount) rest

section Counts
variable (yamlUnmarshal : List UInt8 → Except String (List (String × Json)))

/-- `GetAlertGPCcount`: the three counts and the error, which comes with zero counts. -/
def getAlertGPCcount (a : List UInt8) : (Nat × Nat × Nat) × Option String :=
  if a.length = 0 then ((0, 0, 0), none)
  else match yamlUnmarshal a with
    | .error err => ((0, 0, 0), some err)
    | .ok o1 => (countRange (0, 0, 0) o1, none)

def isAlertGPCcountEqual (a b : List UInt8) : Bool × Option String :=
  match getAlertGPCcount yamlUnmarshal a with
  | (_, some err) => (false, some err)
  | (ca, none) =>
      match getAlertGPCcount yamlUnmarshal b with
      | (_, some err) => (false, some err)
      | (cb, none) => (ca == cb, none)

end Counts

/-- What the loop counts, read from the map: the length of the list under each key. -/
def alertCounts (o1 : List (String × Json)) : Nat × Nat × Nat :=
  (((o1.lookup "groups").map countOf).getD 0, ((o1.lookup "policies").map countOf).getD 0,
    ((o1.lookup "contactPoints").map countOf).getD 0)

/-- Two orders of one Go map: the same members, each key once. -/
def SameMap : Except String (List (String × Json)) → Except String (List (String × Json)) → Prop
  | .error e, .error e' => e = e'
  | .ok o1, .ok o1' => o1.Perm o1' ∧ (o1.map Prod.fst).Nodup
  | _, _ => False

section Loop

theorem countRange_eq (o1 : List (String × Json)) (hn : (o1.map Prod.fst).Nodup) :
    ∀ g p c, countRange (g, p, c) o1 = (((o1.lookup "groups").map countOf).getD g,
      ((o1.lookup "policies").map countOf).getD p,
          ((o1.lookup "contactPoints").map countOf).getD c) := by
  induction o1 with
  | nil => intro g p c; rfl
  | cons m o1 ih =>
      obtain ⟨k, v⟩ := m
      obtain ⟨hk, hn⟩ := List.nodup_cons.mp hn
      have hnone : ∀ key, k = key → o1.lookup key = none := fun key e =>
        lookup_eq_none_iff.mpr (e ▸ hk)
      intro g p c
      simp only [countRange, lookup_cons_eq_ite, ih hn]
      by_cases hg : k = "groups"
      · subst hg; simp [hnone]
      by_cases hp : k = "policies"
      · subst hp; simp [hnone]
      by_cases hc : k = "contactPoints"
      · subst hc; simp [hnone]
      simp [hg, hp, hc, Ne.symm hg, Ne.symm hp, Ne.symm hc]

theorem lookup_eq_of_perm {o1 o1' : List (String × Json)} (hp : o1.Perm o1')
    (hn : (o1.map Prod.fst).Nodup)
    (k : String) : o1.lookup k = o1'.lookup k := by
  have hn' : (o1'.map Prod.fst).Nodup := (hp.map Prod.fst).nodup_iff.mp hn
  cases h : o1.lookup k with
  | some x => exact (lookup_eq_some_of_mem hn' (hp.subset (mem_of_lookup_eq_some h))).symm
  | none =>
      rw [eq_comm, lookup_eq_none_iff]
      rw [lookup_eq_none_iff] at h
      exact fun h' => h ((hp.map Prod.fst).symm.subset h')

end Loop

section Counts
variable (yamlUnmarshal : List UInt8 → Except String (List (String × Json)))

/-- On a document that parses, `GetAlertGPCcount` counts what the map holds under the three
keys, and `IsAlertGPCcountEqual` compares the counts of two such documents. -/
theorem isAlertGPCcountEqual_compares_counts {a b : List UInt8} (ha : a ≠ []) (hb : b ≠ [])
    {o1 o2 : List (String × Json)} (hua : yamlUnmarshal a = .ok o1) (hub : yamlUnmarshal b = .ok o2)
    (hn1 : (o1.map Prod.fst).Nodup) (hn2 : (o2.map Prod.fst).Nodup) :
    getAlertGPCcount yamlUnmarshal a = (alertCounts o1, none) ∧
      isAlertGPCcountEqual yamlUnmarshal a b =
          (decide (alertCounts o1 = alertCounts o2), none) := by
  have hcount : ∀ {x : List UInt8} {o : List (String × Json)}, x ≠ [] → yamlUnmarshal x = .ok o →
      (o.map Prod.fst).Nodup → getAlertGPCcount yamlUnmarshal x = (alertCounts o, none) := by
    intro x o hx hu hn
    rw [getAlertGPCcount, if_neg (mt List.length_eq_zero.mp hx), hu]
    exact congrArg (·, none) (countRange_eq o hn 0 0 0)
  refine ⟨hcount ha hua hn1, ?_⟩
  rw [isAlertGPCcountEqual, hcount ha hua hn1, hcount hb hub hn2]
  exact congrArg (·, none) (Bool.beq_eq_decide_eq _ _)

theorem isAlertGPCcountEqual_compares_two_documents :
    let yamlUnmarshal : List UInt8 → Except String (List (String × Json)) := fun x =>
      if x = [1] then .ok [("groups", .arr [.null, .null]), ("contactPoints", .str "email")]
      else .ok [("policies", .arr [.null]), ("groups", .arr [.null, .null])]
    (getAlertGPCcount yamlUnmarshal [1] = ((2, 0, 0), none) ∧
      isAlertGPCcountEqual yamlUnmarshal [1] [2] = (false, none)) := by
  intro yamlUnmarshal
  exact isAlertGPCcountEqual_compares_counts yamlUnmarshal (List.cons_ne_nil 1 [])
      (List.cons_ne_nil 2 [])
    rfl rfl (by decide) (by decide)

/-- Go's `range` may visit a map's keys in any order: two runs whose unmarshalled maps list the
same members in other orders give the same counts and the same comparison, on every input. -/
theorem alertCounts_range_order_independent
    (yamlUnmarshal' : List UInt8 → Except String (List (String × Json)))
    (h : ∀ a, SameMap (yamlUnmarshal a) (yamlUnmarshal' a)) (a b : List UInt8) :
    getAlertGPCcount yamlUnmarshal a = getAlertGPCcount yamlUnmarshal' a ∧
      isAlertGPCcountEqual yamlUnmarshal a b = isAlertGPCcountEqual yamlUnmarshal' a b := by
  have hcount : ∀ a, getAlertGPCcount yamlUnmarshal a = getAlertGPCcount yamlUnmarshal' a := by
    intro a
    unfold getAlertGPCcount
    split_ifs
    · rfl
    · have ha := h a
      revert ha
      cases yamlUnmarshal a <;> cases yamlUnmarshal' a <;> simp only [SameMap, false_implies]
      · rintro rfl; rfl
      · rintro ⟨hp, hn⟩
        rw [countRange_eq _ hn, countRange_eq _ ((hp.map Prod.fst).nodup_iff.mp hn)]
        simp only [lookup_eq_of_perm hp hn]
  exact ⟨hcount a, by simp only [isAlertGPCcountEqual, hcount]⟩

theorem alertCounts_range_order_independent_swapped :
    let yamlUnmarshal : List UInt8 → Except String (List (String × Json)) := fun _ =>
      .ok [("groups", .arr [.null]), ("policies", .arr [])]
    let yamlUnmarshal' : List UInt8 → Except String (List (String × Json)) := fun _ =>
      .ok [("policies", .arr []), ("groups", .arr [.null])]
    (∀ a, SameMap (yamlUnmarshal a) (yamlUnmarshal' a)) ∧
      (getAlertGPCcount yamlUnmarshal [1] = getAlertGPCcount yamlUnmarshal' [1] ∧
        isAlertGPCcountEqual yamlUnmarshal [1] [2] =
            isAlertGPCcountEqual yamlUnmarshal' [1] [2]) := by
  intro yamlUnmarshal yamlUnmarshal'
  have h : ∀ a, SameMap (yamlUnmarshal a) (yamlUnmarshal' a) :=
      fun _ => ⟨List.Perm.swap _ _ _, by decide⟩
  exact ⟨h, alertCounts_range_order_independent yamlUnmarshal yamlUnmarshal' h [1] [2]⟩

end Counts

end StrimziTransport
