import StrimziTransport.MergePatch

/-!
Laws of `merge` on documents. A patch object acts on each member on its own: reading a
member of the result is merging that member of the patch into the same member of the
target. A patch with no `null` inside and no repeated key is applied once for all:
merging it again changes nothing.
-/

namespace StrimziTransport

section Members

theorem lookup_cons_eq_ite (k a : String) (b : Json) (es : List (String × Json)) :
    ((a, b) :: es).lookup k = if k = a then some b else es.lookup k := by
  by_cases h : k = a
  · simp [h]
  · simp [List.lookup_cons, beq_eq_false_iff_ne.mpr h, h]

theorem lookup_map_setMember (k k' : String) (v : Json) (ms : List (String × Json)) :
    (ms.map fun m => if m.1 == k then (k, v) else m).lookup k' =
      if k' = k then (if ms.any (·.1 == k) then some v else none) else ms.lookup k' := by
  induction ms with
  | nil => simp
  | cons m ms ih =>
      obtain ⟨a, b⟩ := m
      by_cases ha : a = k
      · subst ha
        simp only [List.map_cons, beq_self_eq_true, if_true, lookup_cons_eq_ite, ih,
          List.any_cons, Bool.true_or]
        split_ifs <;> rfl
      · simp only [List.map_cons, beq_eq_false_iff_ne.mpr ha, Bool.false_eq_true, if_false,
          lookup_cons_eq_ite, ih, List.any_cons, Bool.false_or]
        by_cases hk : k' = a
        · simp [hk, ha]
        · simp [hk]

theorem lookup_append_single (k k' : String) (v : Json) (ms : List (String × Json))
    (h : ms.any (·.1 == k) = false) :
    (ms ++ [(k, v)]).lookup k' = if k' = k then some v else ms.lookup k' := by
  induction ms with
  | nil => simp [lookup_cons_eq_ite]
  | cons m ms ih =>
      obtain ⟨a, b⟩ := m
      simp only [List.any_cons, Bool.or_eq_false_iff, beq_eq_false_iff_ne] at h
      simp only [List.cons_append, lookup_cons_eq_ite, ih h.2]
      by_cases hk : k' = a
      · simp [hk, h.1]
      · simp [hk]

@[simp] theorem lookup_setMember (k k' : String) (v : Json) (ms : List (String × Json)) :
    (setMember k v ms).lookup k' = if k' = k then some v else ms.lookup k' := by
  unfold setMember
  split
  · rw [lookup_map_setMember]; simp_all
  · exact lookup_append_single k k' v ms (Bool.eq_false_iff.mpr ‹_›)

@[simp] theorem lookup_eraseMember (k k' : String) (ms : List (String × Json)) :
    (eraseMember k ms).lookup k' = if k' = k then none else ms.lookup k' := by
  induction ms with
  | nil => simp [eraseMember]
  | cons m ms ih =>
      obtain ⟨a, b⟩ := m
      simp only [eraseMember] at ih ⊢
      rw [List.filter_cons]
      by_cases ha : a = k
      · subst ha
        rw [if_neg (by simp), ih, lookup_cons_eq_ite]
        by_cases hk : k' = a <;> simp [hk]
      · rw [if_pos (bne_iff_ne.mpr ha), lookup_cons_eq_ite, lookup_cons_eq_ite, ih]
        by_cases hk : k' = a
        · simp [hk, ha]
        · simp [hk]

end Members

section Merge

@[simp] theorem merge_null_left (v : Json) : merge .null v = prune v := by
  cases v <;> rfl

@[simp] theorem merge_null_right (x : Json) : merge x .null = .null := by
  cases x <;> rfl

theorem obj_field (ms : List (String × Json)) (n : String) :
    (Json.obj ms).field n = (ms.lookup n).getD .null := rfl

theorem merge_field_lookup (doc : List (String × Json)) (k : String) (v : Json) :
    (match doc.lookup k with
      | none | some .null => prune v
      | some cur => merge cur v) = merge ((Json.obj doc).field k) v := by
  rw [obj_field]
  rcases doc.lookup k with _ | cur
  · exact (merge_null_left v).symm
  · cases cur
    · exact (merge_null_left v).symm
    all_goals rfl

theorem mergeDocs_cons_of_ne_null (doc ps : List (String × Json)) (k : String) {v : Json}
    (hv : v ≠ .null) :
    mergeDocs doc ((k, v) :: ps) =
      mergeDocs (setMember k (merge ((Json.obj doc).field k) v) doc) ps := by
  rw [← merge_field_lookup]
  cases v
  · exact absurd rfl hv
  all_goals rfl

theorem field_mergeDocs (doc ps : List (String × Json)) (hps : (ps.map Prod.fst).Nodup)
    (n : String) :
    (Json.obj (mergeDocs doc ps)).field n =
      match ps.lookup n with
      | none => (Json.obj doc).field n
      | some v => merge ((Json.obj doc).field n) v := by
  induction ps generalizing doc with
  | nil => rfl
  | cons m ps ih =>
      obtain ⟨k, v⟩ := m
      simp only [List.map_cons, List.nodup_cons, List.mem_map, Prod.exists, exists_and_right,
        exists_eq_right, not_exists] at hps
      have hk : ps.lookup k = none := List.lookup_eq_none_iff.mpr fun p hp =>
        bne_iff_ne.mpr fun h => hps.1 p.2 (h ▸ hp)
      by_cases hv : v = .null
      · subst hv
        show (Json.obj (mergeDocs (eraseMember k doc) ps)).field n = _
        rw [ih _ hps.2, lookup_cons_eq_ite]
        by_cases hn : n = k
        · subst hn; simp [hk, obj_field]
        · simp [hn, obj_field]
      · rw [mergeDocs_cons_of_ne_null _ _ _ hv, ih _ hps.2, lookup_cons_eq_ite]
        by_cases hn : n = k
        · subst hn; simp [hk, obj_field]
        · simp [hn, obj_field]

theorem field_pruneMembers (ps : List (String × Json)) (hps : (ps.map Prod.fst).Nodup)
    (n : String) :
    (Json.obj (pruneMembers ps)).field n =
      match ps.lookup n with
      | none => .null
      | some v => prune v := by
  induction ps with
  | nil => rfl
  | cons m ps ih =>
      obtain ⟨k, v⟩ := m
      simp only [List.map_cons, List.nodup_cons, List.mem_map, Prod.exists, exists_and_right,
        exists_eq_right, not_exists] at hps
      have hk : ps.lookup k = none := List.lookup_eq_none_iff.mpr fun p hp =>
        bne_iff_ne.mpr fun h => hps.1 p.2 (h ▸ hp)
      have key : (Json.obj (pruneMembers ((k, v) :: ps))).field n =
          if n = k then prune v else (Json.obj (pruneMembers ps)).field n := by
        cases v
        case null =>
          show (Json.obj (pruneMembers ps)).field n = _
          by_cases hn : n = k
          · subst hn; rw [ih hps.2, hk, if_pos rfl]; rfl
          · simp [hn]
        all_goals exact Json.field_cons n k _ _
      rw [key, lookup_cons_eq_ite, ih hps.2]
      by_cases hn : n = k
      · simp [hn]
      · simp [hn]

theorem field_merge_obj (x : Json) (ps : List (String × Json)) (hps : (ps.map Prod.fst).Nodup)
    (n : String) :
    (merge x (.obj ps)).field n =
      match ps.lookup n with
      | none => x.field n
      | some v => merge (x.field n) v := by
  cases x
  case obj doc => exact field_mergeDocs doc ps hps n
  all_goals
    show (Json.obj (pruneMembers ps)).field n = _
    rw [field_pruneMembers ps hps n]
    rcases ps.lookup n with _ | v
    · rfl
    · exact (merge_null_left v).symm

end Merge

section Idempotence

mutual
theorem prune_of_clean : ∀ p : Json, p.clean = true → prune p = p
  | .null, h => by cases h
  | .bool _, _ | .num _, _ | .str _, _ => rfl
  | .arr xs, h => congrArg Json.arr (pruneElems_of_clean xs h)
  | .obj ms, h => congrArg Json.obj (pruneMembers_of_clean ms ((Bool.and_eq_true _ _).mp h).2)

theorem pruneElems_of_clean : ∀ xs : List Json, Json.cleanList xs = true → pruneElems xs = xs
  | [], _ => rfl
  | x :: xs, h => by
      have h' := (Bool.and_eq_true _ _).mp h
      show prune x :: pruneElems xs = _
      rw [prune_of_clean x h'.1, pruneElems_of_clean xs h'.2]

theorem pruneMembers_of_clean :
    ∀ ms : List (String × Json), Json.cleanMembers ms = true → pruneMembers ms = ms
  | [], _ => rfl
  | (k, v) :: ms, h => by
      have h' := (Bool.and_eq_true _ _).mp h
      cases v
      · cases h'.1
      all_goals
        show (k, prune _) :: pruneMembers ms = _
        rw [prune_of_clean _ h'.1, pruneMembers_of_clean ms h'.2]
end

theorem merge_ne_null (x : Json) {v : Json} (hv : v ≠ .null) : merge x v ≠ .null := by
  cases x <;> cases v <;> first | exact absurd rfl hv | exact fun h => by cases h

theorem merge_of_not_obj (x : Json) {p : Json} (hp : ∀ ms, p ≠ .obj ms) (hc : p.clean = true) :
    merge x p = p := by
  cases x
  case obj => cases p <;> first | rfl | exact absurd rfl (hp _)
  all_goals
    rw [show merge _ p = prune p by cases p <;> rfl]
    exact prune_of_clean p hc

/-- Every member named `k` holds `m`. -/
def MembersAt (k : String) (m : Json) (ms : List (String × Json)) : Prop :=
  ∀ e ∈ ms, e.1 = k → e.2 = m

theorem membersAt_setMember_self (k : String) (m : Json) (ms : List (String × Json)) :
    MembersAt k m (setMember k m ms) := by
  intro e he hk
  unfold setMember at he
  split at he
  · obtain ⟨e₀, -, rfl⟩ := List.mem_map.mp he
    by_cases h0 : e₀.1 = k
    · simp [h0]
    · simp only [beq_eq_false_iff_ne.mpr h0, Bool.false_eq_true, if_false] at hk
      exact absurd hk h0
  · rename_i hany
    rcases List.mem_append.mp he with he | he
    · have : ms.any (fun x => x.1 == k) = true := List.any_eq_true.mpr ⟨e, he, beq_iff_eq.mpr hk⟩
      exact absurd this hany
    · simp only [List.mem_singleton] at he; subst he; rfl

theorem membersAt_setMember_of_ne {k k' : String} {m : Json} (v : Json)
    {ms : List (String × Json)} (hk : k ≠ k') (h : MembersAt k m ms) :
    MembersAt k m (setMember k' v ms) := by
  intro e he hek
  unfold setMember at he
  split at he
  · obtain ⟨e₀, he₀, rfl⟩ := List.mem_map.mp he
    by_cases h0 : e₀.1 = k'
    · simp only [h0, beq_self_eq_true, if_true] at hek; exact absurd hek.symm hk
    · simp only [beq_eq_false_iff_ne.mpr h0, Bool.false_eq_true, if_false] at hek ⊢
      exact h e₀ he₀ hek
  · rcases List.mem_append.mp he with he | he
    · exact h e he hek
    · simp only [List.mem_singleton] at he; subst he; exact absurd hek.symm hk

theorem membersAt_eraseMember {k : String} {m : Json} (k' : String)
    {ms : List (String × Json)} (h : MembersAt k m ms) : MembersAt k m (eraseMember k' ms) :=
  fun e he => h e (List.mem_of_mem_filter he)

theorem membersAt_mergeDocs {k : String} {m : Json} {doc : List (String × Json)}
    (ps : List (String × Json)) (hk : k ∉ ps.map Prod.fst) (h : MembersAt k m doc) :
    MembersAt k m (mergeDocs doc ps) := by
  induction ps generalizing doc with
  | nil => exact h
  | cons p ps ih =>
      obtain ⟨k', v⟩ := p
      simp only [List.map_cons, List.mem_cons, not_or] at hk
      by_cases hv : v = .null
      · subst hv
        exact ih hk.2 (membersAt_eraseMember k' h)
      · rw [mergeDocs_cons_of_ne_null _ _ _ hv]
        exact ih hk.2 (membersAt_setMember_of_ne _ hk.1 h)

theorem membersAt_mergeDocs_of_mem (doc ps : List (String × Json))
    (hps : (ps.map Prod.fst).Nodup) {k : String} {v : Json} (hkv : (k, v) ∈ ps)
    (hv : v ≠ .null) :
    MembersAt k (merge ((Json.obj doc).field k) v) (mergeDocs doc ps) := by
  induction ps generalizing doc with
  | nil => simp at hkv
  | cons p ps ih =>
      obtain ⟨k', v'⟩ := p
      simp only [List.map_cons, List.nodup_cons] at hps
      rcases List.mem_cons.mp hkv with he | hkv'
      · obtain ⟨rfl, rfl⟩ := Prod.mk.inj he
        rw [mergeDocs_cons_of_ne_null _ _ _ hv]
        exact membersAt_mergeDocs ps hps.1 (membersAt_setMember_self _ _ _)
      · have hne : k ≠ k' := fun h => hps.1 (h ▸ List.mem_map_of_mem Prod.fst hkv')
        by_cases hv' : v' = .null
        · subst hv'
          have := ih (eraseMember k' doc) hps.2 hkv'
          rwa [obj_field, lookup_eraseMember, if_neg hne, ← obj_field] at this
        · rw [mergeDocs_cons_of_ne_null _ _ _ hv']
          have := ih (setMember k' (merge ((Json.obj doc).field k') v') doc) hps.2 hkv'
          rwa [obj_field, lookup_setMember, if_neg hne, ← obj_field] at this

theorem setMember_of_membersAt {k : String} {m : Json} {ms : List (String × Json)}
    (hk : ms.any (·.1 == k) = true) (h : MembersAt k m ms) : setMember k m ms = ms := by
  unfold setMember
  rw [if_pos hk]
  conv_rhs => rw [← List.map_id ms]
  refine List.map_congr_left fun e he => ?_
  split
  · rename_i heq
    have := h e he (beq_iff_eq.mp heq)
    obtain ⟨a, b⟩ := e
    simp_all
  · rfl

theorem mergeDocs_stable (doc ps : List (String × Json))
    (h : ∀ k v, (k, v) ∈ ps → v ≠ .null ∧ doc.any (·.1 == k) = true ∧
      MembersAt k ((Json.obj doc).field k) doc ∧
      merge ((Json.obj doc).field k) v = (Json.obj doc).field k) :
    mergeDocs doc ps = doc := by
  induction ps with
  | nil => rfl
  | cons p ps ih =>
      obtain ⟨k, v⟩ := p
      obtain ⟨hv, hany, hm, hfix⟩ := h k v (List.mem_cons_self _ _)
      rw [mergeDocs_cons_of_ne_null _ _ _ hv, hfix, setMember_of_membersAt hany hm]
      exact ih fun k' v' hm' => h k' v' (List.mem_cons_of_mem _ hm')

theorem any_of_lookup {ms : List (String × Json)} {k : String} {v : Json}
    (h : ms.lookup k = some v) : ms.any (·.1 == k) = true := by
  have := List.lookup_isSome_iff.mp (by simp [h] : (ms.lookup k).isSome)
  obtain ⟨p, hp, hk⟩ := this
  exact List.any_eq_true.mpr ⟨p, hp, by rw [beq_iff_eq] at hk ⊢; exact hk.symm⟩

theorem lookup_of_mem_nodup {ps : List (String × Json)} (hps : (ps.map Prod.fst).Nodup)
    {k : String} {v : Json} (h : (k, v) ∈ ps) : ps.lookup k = some v := by
  induction ps with
  | nil => simp at h
  | cons p ps ih =>
      obtain ⟨k', v'⟩ := p
      simp only [List.map_cons, List.nodup_cons] at hps
      rw [lookup_cons_eq_ite]
      rcases List.mem_cons.mp h with he | h
      · obtain ⟨rfl, rfl⟩ := Prod.mk.inj he; simp
      · have hne : k ≠ k' := fun e => hps.1 (e ▸ List.mem_map_of_mem Prod.fst h)
        simp [hne, ih hps.2 h]

theorem clean_of_mem {ms : List (String × Json)} (h : Json.cleanMembers ms = true)
    {k : String} {v : Json} (hm : (k, v) ∈ ms) : v.clean = true := by
  induction ms with
  | nil => simp at hm
  | cons p ms ih =>
      replace h := (Bool.and_eq_true _ _).mp h
      rcases List.mem_cons.mp hm with rfl | hm
      · exact h.1
      · exact ih h.2 hm

theorem mergeDocs_fresh (acc ps : List (String × Json)) (hnd : (ps.map Prod.fst).Nodup)
    (hps : Json.cleanMembers ps = true)
    (hfresh : ∀ k ∈ ps.map Prod.fst, acc.any (·.1 == k) = false) : mergeDocs acc
        ps = acc ++ ps := by
  induction ps generalizing acc with
  | nil => exact (List.append_nil acc).symm
  | cons p ps ih =>
      obtain ⟨k, v⟩ := p
      simp only [List.map_cons, List.nodup_cons] at hnd
      replace hps := (Bool.and_eq_true _ _).mp hps
      have hv : v ≠ .null := by rintro rfl; cases hps.1
      have hk := hfresh k (List.mem_cons_self _ _)
      have hnone : (Json.obj acc).field k = .null := by
        rw [obj_field, List.lookup_eq_none_iff.mpr]; · rfl
        intro e he
        have := List.any_eq_false.mp hk e he
        rw [bne_iff_ne]; intro h; exact this (by rw [beq_iff_eq]; exact h.symm)
      rw [mergeDocs_cons_of_ne_null _ _ _ hv, hnone, merge_null_left, prune_of_clean v hps.1]
      unfold setMember
      rw [if_neg (by simp [hk]), ih _ hnd.2 hps.2, List.append_assoc, List.singleton_append]
      intro k' hk'
      rw [List.any_append, hfresh k' (List.mem_cons_of_mem _ hk'), Bool.false_or]
      simp only [List.any_cons, List.any_nil, Bool.or_false, beq_eq_false_iff_ne]
      exact fun h => hnd.1 (h ▸ hk')

mutual
theorem merge_merge_of_clean : ∀ p : Json, p.clean = true → ∀ x : Json,
    merge (merge x p) p = merge x p
  | .null, h, _ => by cases h
  | .bool _, h, x | .num _, h, x | .str _, h, x | .arr _, h, x => by
      rw [merge_of_not_obj x (by simp) h, merge_of_not_obj _ (by simp) h]
  | .obj ps, h, x => by
      obtain ⟨hnd, hps⟩ := (Bool.and_eq_true _ _).mp h
      replace hnd := of_decide_eq_true hnd
      have hmem := mergeMembers_of_clean ps hps
      have hfield : ∀ doc k v, (k, v) ∈ ps →
          (Json.obj (mergeDocs doc ps)).field k = merge ((Json.obj doc).field k) v := by
        intro doc k v hkv
        rw [field_mergeDocs doc ps hnd, lookup_of_mem_nodup hnd hkv]
      have hstable : ∀ doc, merge (.obj (mergeDocs doc ps)) (.obj ps) =
          .obj (mergeDocs doc ps) := by
        intro doc
        show Json.obj (mergeDocs (mergeDocs doc ps) ps) = _
        congr 1
        refine mergeDocs_stable _ ps fun k v hkv => ?_
        have hv : v ≠ .null := by
          rintro rfl; cases clean_of_mem hps hkv
        have hne := merge_ne_null ((Json.obj doc).field k) hv
        have hlk : (mergeDocs doc ps).lookup k = some (merge ((Json.obj doc).field k) v) := by
          have := hfield doc k v hkv
          rw [obj_field] at this
          rcases hl : (mergeDocs doc ps).lookup k with _ | w
          · rw [hl] at this; exact absurd this.symm hne
          · rw [hl] at this; rw [← this]; rfl
        rw [hfield doc k v hkv]
        exact ⟨hv, any_of_lookup hlk, membersAt_mergeDocs_of_mem doc ps hnd hkv hv,
          hmem k v hkv _⟩
      cases x
      case obj doc => exact hstable doc
      all_goals
        show merge (.obj (pruneMembers ps)) (.obj ps) = .obj (pruneMembers ps)
        rw [pruneMembers_of_clean ps hps]
        have := hstable []
        rwa [mergeDocs_fresh [] ps hnd hps (by simp), List.nil_append] at this
termination_by structural p => p

theorem mergeMembers_of_clean : ∀ ps : List (String × Json), Json.cleanMembers ps = true →
    ∀ k v, (k, v) ∈ ps → ∀ x : Json, merge (merge x v) v = merge x v
  | [], _, _, _, h, _ => by simp at h
  | (k', v') :: ps, h, k, v, hm, x => by
      replace h := (Bool.and_eq_true _ _).mp h
      rcases List.mem_cons.mp hm with he | hm
      · rw [(Prod.mk.inj he).2]
        exact merge_merge_of_clean v' h.1 x
      · exact mergeMembers_of_clean ps h.2 k v hm x
termination_by structural ps => ps
end

theorem merge_self_of_clean {p : Json} (h : p.clean = true) : merge p p = p := by
  have := merge_merge_of_clean p h .null
  rwa [merge_null_left, prune_of_clean p h] at this

end Idempotence

end StrimziTransport
