import StrimziTransport.Store

/-!
`UpdateObject` of `utils.go`: `retry.RetryOnConflict(retry.DefaultRetry, ...)` around one `Update`
of the object it is given. client-go's `retry` is not in the sources: `RetryOnConflict` is
modelled as its documentation states it, the function called again while it fails with a
conflict, at most `Steps` times, and the last conflict returned when they run out. The object is
not read again between attempts, so every attempt carries the `resourceVersion` the first did.
Store versions only grow, so once that version is stale no attempt succeeds, whether the call
runs alone or interleaved with any other reconcilers.
-/

namespace StrimziTransport

/-- Reconcilers in sequence: `p`'s calls, then those of `f` applied to what `p` returned. -/
def Prog.bind {α β : Type} : Prog α → (α → Prog β) → Prog β
  | .pure a, f => f a
  | .get kind ns name next, f => .get kind ns name fun r => (next r).bind f
  | .create kind ns name body next, f => .create kind ns name body fun r => (next r).bind f
  | .update kind ns name v body next, f => .update kind ns name v body fun r => (next r).bind f

/-- `retry.DefaultRetry.Steps`. -/
def defaultRetrySteps : Nat := 5

/-- `retry.RetryOnConflict` with a backoff of `steps` steps. -/
def retryOnConflict (fn : Prog (Except ApiError Unit)) : Nat → Prog (Except ApiError Unit)
  | 0 => .pure (.ok ())
  | n + 1 => fn.bind fun
      | .error .conflict => if n = 0 then .pure (.error .conflict) else retryOnConflict fn n
      | r => .pure r

/-- `UpdateObject` on an object read at `resourceVersion`. -/
def updateObject (kind ns name : String) (resourceVersion : Nat) (body : Json) : Prog
    (Except ApiError Unit) :=
  retryOnConflict (.update kind ns name resourceVersion body .pure) defaultRetrySteps

/-- The object under the key is stored at a version other than `resourceVersion`, which has
been issued. -/
def StaleAt (kind ns name : String) (resourceVersion : Nat) (s : Store) : Prop :=
  resourceVersion ≤ s.revision ∧
    ∃ v b, s.objects kind ns name = some (v, b) ∧ v ≠ resourceVersion

section Steps

theorem Store.update_of_ne {s : Store} {kind ns name : String} {v rv : Nat} {b : Json} (body : Json)
    (h : s.objects kind ns name = some (v, b)) (hne : v ≠ rv) :
    s.update kind ns name rv body = (.error .conflict, s) := by
  simp [Store.update, h, hne]

theorem Prog.step_store {α : Type} (p : Prog α) (s : Store) :
    (p.step s).2 = s ∨ ∃ kind ns name body, (p.step s).2 = s.write kind ns name body := by
  cases p with
  | pure | get => exact .inl rfl
  | create kind ns name body =>
      show (s.create kind ns name body).2 = s ∨
        ∃ k n m b, (s.create kind ns name body).2 = s.write k n m b
      unfold Store.create
      split
      · exact .inl rfl
      · exact .inr ⟨_, _, _, _, rfl⟩
  | update kind ns name v body =>
      show (s.update kind ns name v body).2 = s ∨
        ∃ k n m b, (s.update kind ns name v body).2 = s.write k n m b
      unfold Store.update
      split
      · split
        · exact .inr ⟨_, _, _, _, rfl⟩
        · exact .inl rfl
      · exact .inl rfl

theorem StaleAt.write {kind ns name : String} {rv : Nat} {s : Store} (h : StaleAt kind ns name rv s)
    (k n m : String) (body : Json) : StaleAt kind ns name rv (s.write k n m body) := by
  obtain ⟨hrv, v, b, hs, hv⟩ := h
  refine ⟨Nat.le_succ_of_le hrv, ?_⟩
  by_cases hk : kind = k ∧ ns = n ∧ name = m
  · exact ⟨s.revision + 1, body, by rw [Store.write_objects, if_pos hk], by omega⟩
  · exact ⟨v, b, by rw [Store.write_objects, if_neg hk, hs], hv⟩

theorem StaleAt.step {kind ns name : String} {rv : Nat} {s : Store} (h : StaleAt kind ns name rv s)
    {α : Type} (p : Prog α) : StaleAt kind ns name rv (p.step s).2 := by
  rcases p.step_store s with e | ⟨k, n, m, body, e⟩ <;> rw [e]
  · exact h
  · exact h.write k n m body

end Steps

section Retrying
variable (kind ns name : String) (rv : Nat) (body : Json)

def Retrying (p : Prog (Except ApiError Unit)) : Prop :=
  p = .pure (.error .conflict) ∨ ∃ n, 0 < n ∧ p =
      retryOnConflict (.update kind ns name rv body .pure) n

theorem retryOnConflict_succ (n : Nat) :
    retryOnConflict (.update kind ns name rv body .pure) (n + 1) =
      .update kind ns name rv body fun
        | .error .conflict => if n = 0 then .pure (.error .conflict)
            else retryOnConflict (.update kind ns name rv body .pure) n
        | r => .pure r := rfl

variable {s : Store} {v : Nat} {b : Json}

theorem Retrying.step {p : Prog (Except ApiError Unit)} (hp : Retrying kind ns name rv body p)
    (hv : s.objects kind ns name = some (v, b)) (hne : v ≠ rv) :
    Retrying kind ns name rv body (p.step s).1 ∧ (p.step s).2 = s := by
  rcases hp with rfl | ⟨n, hn, rfl⟩
  · exact ⟨.inl rfl, rfl⟩
  · obtain ⟨n, rfl⟩ := Nat.exists_eq_succ_of_ne_zero (Nat.pos_iff_ne_zero.mp hn)
    rw [retryOnConflict_succ]
    simp only [Prog.step, Store.update_of_ne body hv hne, and_true]
    split
    · exact .inl rfl
    · exact .inr ⟨n, by omega, rfl⟩

theorem retryOnConflict_run_of_ne (hv : s.objects kind ns name = some (v, b))
    (hne : v ≠ rv) (n : Nat)
    (hn : 0 < n) : (retryOnConflict (.update kind ns name rv body .pure) n).run s =
      ⟨.error .conflict, s, List.replicate n (.update kind ns name)⟩ := by
  induction n with
  | zero => omega
  | succ n ih =>
      rw [retryOnConflict_succ, Prog.run_update, Store.update_of_ne body hv hne]
      dsimp only
      split
      · subst_vars; rfl
      · rw [ih (by omega)]; rfl

end Retrying

theorem updateObject_run (kind ns name : String) (rv : Nat) (body : Json) (s : Store) :
    (updateObject kind ns name rv body).run s =
      match s.objects kind ns name with
      | some (v, _) =>
          if v = rv then ⟨.ok (), s.write kind ns name body, [.update kind ns name]⟩
          else ⟨.error .conflict, s, List.replicate defaultRetrySteps (.update kind ns name)⟩
      | none => ⟨.error .notFound, s, [.update kind ns name]⟩ := by
  cases hv : s.objects kind ns name with
  | none =>
      simp only [updateObject, defaultRetrySteps, retryOnConflict_succ,
          Prog.run_update, Store.update, hv]
      rfl
  | some o =>
      obtain ⟨v, b⟩ := o
      dsimp only
      split
      · subst_vars
        simp only [updateObject, defaultRetrySteps, retryOnConflict_succ, Prog.run_update,
          Store.update_of_version body hv]
        rfl
      · exact retryOnConflict_run_of_ne kind ns name rv body hv ‹_› _ (by decide)

theorem interleave_invariant {α : Type} {Q : List (Prog α) → Store → Prop}
    (hstep : ∀ ps s i p, ps[i]? = some p → Q ps s → Q (ps.set i (p.step s).1) (p.step s).2) :
    ∀ schedule ps s, Q ps s → Q (interleave schedule ps s).1 (interleave schedule ps s).2
  | [], _, _, h => h
  | i :: schedule, ps, s, h => by
      unfold interleave
      split
      · exact interleave_invariant hstep schedule _ _ (hstep ps s i _ ‹_› h)
      · exact interleave_invariant hstep schedule ps s h

section Interleaved
variable (kind ns name : String) (rv : Nat) (body : Json)

def StaleRetry (ps : List (Prog (Except ApiError Unit))) (s : Store) : Prop :=
  StaleAt kind ns name rv s ∧ ∃ p, ps[0]? = some p ∧ Retrying kind ns name rv body p

theorem StaleRetry.step {ps : List (Prog (Except ApiError Unit))} {s : Store}
    (h : StaleRetry kind ns name rv body ps s) {i : Nat} {p : Prog (Except ApiError Unit)}
        (hp : ps[i]? = some p) :
    StaleRetry kind ns name rv body (ps.set i (p.step s).1) (p.step s).2 := by
  obtain ⟨hs, q, hq, hr⟩ := h
  rcases Nat.eq_zero_or_pos i with rfl | hi
  · rw [hq] at hp; cases hp
    obtain ⟨-, v, b, hv, hne⟩ := id hs
    obtain ⟨hr', he⟩ := hr.step kind ns name rv body hv hne
    rw [he]
    exact ⟨hs, _, List.getElem?_set_self (List.getElem?_eq_some_iff.mp hq).1, hr'⟩
  · exact ⟨hs.step p, q, by rw [List.getElem?_set_ne (by omega), hq], hr⟩

/-- Once the version `UpdateObject` carries is stale, no interleaving with any other reconcilers
lets it succeed: whenever it has returned, it has returned the conflict. -/
theorem updateObject_never_succeeds_once_stale (others : List (Prog (Except ApiError Unit)))
    (schedule : List Nat) {s : Store} (hs : StaleAt kind ns name rv s) (r : Except ApiError Unit)
    (hr : ((interleave schedule (updateObject kind ns name rv body :: others) s).1.map
        Prog.result?)[0]? =
      some (some r)) :
    r = .error .conflict := by
  obtain ⟨-, p, hp, hret⟩ :=
    interleave_invariant (fun _ _ _ _ hp h => StaleRetry.step kind ns name rv body h hp)
      schedule (updateObject kind ns name rv body :: others) s
      ⟨hs, _, List.getElem?_cons_zero, .inr ⟨defaultRetrySteps, by decide, rfl⟩⟩
  rw [List.getElem?_map, hp] at hr
  rcases hret with rfl | ⟨_ | n, hn, rfl⟩
  · cases hr; rfl
  · omega
  · cases hr

theorem updateObject_never_succeeds_against_writer :
    StaleAt "Kafka" "ns" "kafka" 1 ((Store.empty.write "Kafka" "ns" "kafka" .null).write "Kafka"
        "ns" "kafka" .null) ∧
      ∀ r, ((interleave [1, 0, 1, 0, 0, 0, 0] [updateObject "Kafka" "ns" "kafka" 1 .null,
          updateObject "Kafka" "ns" "kafka" 2 .null]
          ((Store.empty.write "Kafka" "ns" "kafka" .null).write "Kafka" "ns" "kafka" .null)).1.map
              Prog.result?)[0]? =
          some (some r) →
        r = .error .conflict :=
  have hs : StaleAt "Kafka" "ns" "kafka" 1
      ((Store.empty.write "Kafka" "ns" "kafka" .null).write "Kafka" "ns" "kafka" .null) :=
    ⟨by decide, _, _, Store.write_objects_self .., by decide⟩
  ⟨hs, fun r => updateObject_never_succeeds_once_stale _ _ _ _ _ _ _ hs r⟩

end Interleaved

end StrimziTransport
