import StrimziTransport.Transporter

/-!
`wait.PollUntilContextTimeout` with `immediate = true`, and `kafkaClusterReady`, the second
wait of `ensureKafka`. Time is a trace of events: the timer fires and the condition runs on what
it observes, or the context is done first (its deadline passed or it was cancelled) and
the wait returns the context's error. The condition runs once before the first wait.
-/

namespace StrimziTransport

/-- One wake-up of the poll loop. -/
inductive PollEvent (Obs : Type) where
  | tick (o : Obs)
  | done (err : String)
  deriving Repr

/-- How a wait, or a longer run, ends when its trace is read to the end. -/
inductive WaitResult where
  | succeeded
  | failed (err : String)
  | crashed (msg : String)
  | waiting
  deriving DecidableEq, Repr

/-- `loopConditionUntilContext`: the condition may update the caller's state `σ`. -/
def pollLoop {σ Obs : Type} (condition : σ → Obs → Outcome Bool × σ) :
    σ → List (PollEvent Obs) → WaitResult × σ
  | s, [] => (.waiting, s)
  | s, .done e :: _ => (.failed e, s)
  | s, .tick o :: rest =>
      match condition s o with
      | (.ok true, s') => (.succeeded, s')
      | (.ok false, s') => pollLoop condition s' rest
      | (.error e, s') => (.failed e, s')
      | (.panic e, s') => (.crashed e, s')

/-- `wait.PollUntilContextTimeout(ctx, interval, timeout, true, condition)`. -/
def pollUntilContextTimeout {σ Obs : Type} (condition : σ → Obs → Outcome Bool × σ) (s : σ)
    (first : Obs) (rest : List (PollEvent Obs)) : WaitResult × σ :=
  pollLoop condition s (.tick first :: rest)

/-- What the condition of `kafkaClusterReady` observes: the `Get` of the
MulticlusterGlobalHub and the `Get` of the Kafka cluster. -/
structure KafkaReadyObservation where
  mgh : Except String Json
  kafka : Except String Json

/-- The `range` loop of `kafkaClusterReady` over the status conditions. -/
def readyOfConditions : List Json → Outcome Bool
  | [] => .ok false
  | condition :: rest =>
      match isReadyCondition condition with
      | .ok true => .ok true
      | .ok false => readyOfConditions rest
      | .error e => .error e
      | .panic e => .panic e

/-- The error of `kafkaClusterReady` on a MulticlusterGlobalHub marked for deletion. -/
def mghDeletingMessage (mgh : Json) : String :=
  let ns := ((mgh.field "metadata").field "namespace").asStr
  s!"deleting the mgh: {ns}, no need waiting the kafka ready"

/-- The condition of `kafkaClusterReady`; on a cluster with a status it records whether a
listener of the spec has TLS on. -/
def kafkaClusterReadyCondition (k : Transporter) (o : KafkaReadyObservation) :
    Outcome Bool × Transporter :=
  match o.mgh with
  | .error e => (.error e, k)
  | .ok mgh =>
      if (mgh.field "metadata").field "deletionTimestamp" ≠ .null then
        (.error (mghDeletingMessage mgh), k)
      else match o.kafka with
        | .error _ => (.ok false, k)
        | .ok kafkaCluster =>
            let status := kafkaCluster.field "status"
            if status = .null ∨ status.field "conditions" = .null then (.ok false, k)
            else
              let spec := kafkaCluster.field "spec"
              let listeners := (spec.field "kafka").field "listeners"
              let k' := if spec ≠ .null ∧ listeners ≠ .null then
                { k with enableTLS := listeners.arrElems.any fun l => (l.field "tls").asBool }
                else k
              (readyOfConditions (status.field "conditions").arrElems, k')

/-- `kafkaClusterReady`: a wait of ten minutes, polled every five seconds. -/
def kafkaClusterReady (k : Transporter) (first : KafkaReadyObservation)
    (rest : List (PollEvent KafkaReadyObservation)) : WaitResult × Transporter :=
  pollUntilContextTimeout kafkaClusterReadyCondition k first rest

end StrimziTransport

namespace StrimziTransport

/-- What one event does to a wait whose condition reads `step`: `waiting` when the loop
goes on. -/
def stopsWith {Obs : Type} (step : Obs → Outcome Bool) : PollEvent Obs → WaitResult
  | .done e => .failed e
  | .tick o =>
      match step o with
      | .ok true => .succeeded
      | .ok false => .waiting
      | .error e => .failed e
      | .panic e => .crashed e

def firstStop {Obs : Type} (f : PollEvent Obs → WaitResult) : List (PollEvent Obs) → WaitResult
  | [] => .waiting
  | x :: xs => if f x = .waiting then firstStop f xs else f x

section
variable {σ Obs : Type} (condition : σ → Obs → Outcome Bool × σ)

theorem pollLoop_result (hind : ∀ s s' o, (condition s o).1 = (condition s' o).1)
    (s₀ s : σ) (events : List (PollEvent Obs)) :
    (pollLoop condition s events).1 =
      firstStop (stopsWith fun o => (condition s₀ o).1) events := by
  induction events generalizing s with
  | nil => rfl
  | cons x xs ih =>
      cases x with
      | done e => simp [pollLoop, firstStop, stopsWith]
      | tick o =>
          simp only [pollLoop, firstStop, stopsWith, hind s₀ s o]
          rcases condition s o with ⟨(_ | _) | _ | _, s'⟩ <;> simp [ih]

theorem pollLoop_of_stuck {s : σ} (h : ∀ o, (condition s o).2 = s ∧ (condition s o).1 ≠ .ok true)
    (events : List (PollEvent Obs)) :
    (pollLoop condition s events).1 ≠ .succeeded ∧ (pollLoop condition s events).2 = s := by
  induction events with
  | nil => exact ⟨by simp [pollLoop], rfl⟩
  | cons x xs ih =>
      cases x with
      | done e => exact ⟨by simp [pollLoop], rfl⟩
      | tick o =>
          obtain ⟨hs, hv⟩ := h o
          simp only [pollLoop]
          rcases hc : condition s o with ⟨(_ | _) | _ | _, s'⟩ <;> rw [hc] at hs hv <;>
            subst hs <;> simp_all

/-- The events of a trace, each tick paired with the state it runs in: the one the tick before
left. -/
def along : σ → List (PollEvent Obs) → List (PollEvent (σ × Obs))
  | _, [] => []
  | s, .done e :: rest => .done e :: along s rest
  | s, .tick o :: rest => .tick (s, o) :: along (condition s o).2 rest

theorem pollLoop_eq_firstStop_along (s : σ) (events : List (PollEvent Obs)) :
    (pollLoop condition s events).1 =
      firstStop (stopsWith fun p => (condition p.1 p.2).1) (along condition s events) := by
  induction events generalizing s with
  | nil => rfl
  | cons x xs ih =>
      cases x with
      | done e => simp [pollLoop, along, firstStop, stopsWith]
      | tick o =>
          simp only [pollLoop, along, firstStop, stopsWith]
          rcases condition s o with ⟨(_ | _) | _ | _, s'⟩ <;> simp [ih]

end

theorem firstStop_eq_iff {Obs : Type} (f : PollEvent Obs → WaitResult)
    (events : List (PollEvent Obs)) {r : WaitResult} (hr : r ≠ .waiting) :
    firstStop f events = r ↔
      ∃ pre ev post, events = pre ++ ev :: post ∧ (∀ x ∈ pre, f x = .waiting) ∧ f ev = r := by
  induction events with
  | nil =>
      simp only [firstStop, List.nil_eq_append_iff, reduceCtorEq, and_false, false_and,
        exists_false, iff_false]
      exact Ne.symm hr
  | cons x xs ih =>
      simp only [firstStop]
      by_cases hx : f x = .waiting
      · simp only [hx, if_true, ih]
        constructor
        · rintro ⟨pre, ev, post, rfl, hpre, hev⟩
          exact ⟨x :: pre, ev, post, rfl, by simpa [hx] using hpre, hev⟩
        · rintro ⟨pre, ev, post, he, hpre, hev⟩
          cases pre with
          | nil => simp only [List.nil_append, List.cons.injEq] at he; subst_vars; simp_all
          | cons y pre =>
              simp only [List.cons_append, List.cons.injEq] at he
              obtain ⟨rfl, rfl⟩ := he
              exact ⟨pre, ev, post, rfl, fun z hz => hpre z (List.mem_cons_of_mem _ hz), hev⟩
      · simp only [hx, if_false]
        constructor
        · rintro rfl; exact ⟨[], x, xs, rfl, by simp, rfl⟩
        · rintro ⟨pre, ev, post, he, hpre, hev⟩
          cases pre with
          | nil => simp only [List.nil_append, List.cons.injEq] at he; obtain
                     ⟨rfl, rfl⟩ := he; exact hev
          | cons y pre =>
              simp only [List.cons_append, List.cons.injEq] at he
              obtain ⟨rfl, rfl⟩ := he
              exact absurd (hpre _ (List.mem_cons_self _ _)) hx

end StrimziTransport

namespace StrimziTransport

/-- A wait that fails with `e` at one step, after steps on which it only polled again: the
step observes something fatal, or the context is done first. -/
def FailsAt {Obs : Type} (NotYet : Obs → Prop) (Fatal : Obs → String → Prop)
    (events : List (PollEvent Obs)) (e : String) : Prop :=
  ∃ pre ev post, events = pre ++ ev :: post ∧ (∀ x ∈ pre, ∃ o, x = .tick o ∧ NotYet o) ∧
    (ev = .done e ∨ ∃ o, ev = .tick o ∧ Fatal o e)

theorem stopsWith_waiting_iff {Obs : Type} (step : Obs → Outcome Bool) (x : PollEvent Obs) :
    stopsWith step x = .waiting ↔ ∃ o, x = .tick o ∧ step o = .ok false := by
  rcases x with o | e
  · simp only [stopsWith, PollEvent.tick.injEq, exists_eq_left']
    rcases step o with (_ | _) | _ | _ <;> simp
  · simp [stopsWith]

theorem stopsWith_failed_iff {Obs : Type} (step : Obs → Outcome Bool) (x : PollEvent Obs)
    (e : String) :
    stopsWith step x = .failed e ↔ x = .done e ∨ ∃ o, x = .tick o ∧ step o = .error e := by
  rcases x with o | e'
  · simp only [stopsWith, PollEvent.tick.injEq, exists_eq_left', reduceCtorEq, false_or]
    rcases step o with (_ | _) | _ | _ <;> simp
  · simp [stopsWith]

theorem stopsWith_crashed_iff {Obs : Type} (step : Obs → Outcome Bool) (x : PollEvent Obs)
    (msg : String) :
    stopsWith step x = .crashed msg ↔ ∃ o, x = .tick o ∧ step o = .panic msg := by
  rcases x with o | e
  · simp only [stopsWith, PollEvent.tick.injEq, exists_eq_left']
    rcases step o with (_ | _) | _ | _ <;> simp
  · simp [stopsWith]

/-- A wait that panics with `msg` at a tick, after ticks on which it only polled again. -/
def CrashesAt {Obs : Type} (NotYet : Obs → Prop) (Panics : Obs → String → Prop)
    (events : List (PollEvent Obs)) (msg : String) : Prop :=
  ∃ pre ev post, events = pre ++ ev :: post ∧ (∀ x ∈ pre, ∃ o, x = .tick o ∧ NotYet o) ∧
    ∃ o, ev = .tick o ∧ Panics o msg

section Stops
variable {Obs : Type} (step : Obs → Outcome Bool) (NotYet : Obs → Prop)
    (events : List (PollEvent Obs))
  (hwait : ∀ o, .tick o ∈ events → (step o = .ok false ↔ NotYet o))
include hwait

theorem stopsWith_waiting_pre_iff {pre : List (PollEvent Obs)} (hpre : ∀ x ∈ pre, x ∈ events) :
    (∀ x ∈ pre, stopsWith step x = .waiting) ↔ ∀ x ∈ pre, ∃ o, x = .tick o ∧ NotYet o :=
  forall₂_congr fun x hx => by
    rw [stopsWith_waiting_iff]
    exact exists_congr fun o => and_congr_right fun h => hwait o (h ▸ hpre x hx)

theorem firstStop_failed_iff (Fatal : Obs → String → Prop)
    (hfail : ∀ o, .tick o ∈ events → ∀ e, (step o = .error e ↔ Fatal o e)) (e : String) :
    firstStop (stopsWith step) events = .failed e ↔ FailsAt NotYet Fatal events e := by
  rw [firstStop_eq_iff _ events (by simp)]
  refine exists_congr fun pre => exists_congr fun ev => exists_congr fun post =>
    and_congr_right fun he => ?_
  subst he
  rw [stopsWith_waiting_pre_iff step NotYet _ hwait fun x hx => by simp [hx], stopsWith_failed_iff]
  exact and_congr_right fun _ => or_congr_right <| exists_congr fun o =>
    and_congr_right fun h => hfail o (by simp [h]) e

theorem firstStop_crashed_iff (Panics : Obs → String → Prop)
    (hpanic : ∀ o, .tick o ∈ events → ∀ msg, (step o = .panic msg ↔ Panics o msg)) (msg : String) :
    firstStop (stopsWith step) events = .crashed msg ↔ CrashesAt NotYet Panics events msg := by
  rw [firstStop_eq_iff _ events (by simp)]
  refine exists_congr fun pre => exists_congr fun ev => exists_congr fun post =>
    and_congr_right fun he => ?_
  subst he
  rw [stopsWith_waiting_pre_iff step NotYet _ hwait fun x hx => by simp [hx], stopsWith_crashed_iff]
  exact and_congr_right fun _ => exists_congr fun o => and_congr_right fun h =>
      hpanic o (by simp [h]) msg

end Stops

/-- An observation on which `kafkaClusterReady` polls again: the MulticlusterGlobalHub is
read and not being deleted, and the Kafka cluster is unreadable, has no status or no
conditions, or no `Ready` condition with status `True`. -/
def KafkaNotReady (o : KafkaReadyObservation) : Prop :=
  ∃ mgh, o.mgh = .ok mgh ∧ (mgh.field "metadata").field "deletionTimestamp" = .null ∧
    ((∃ e, o.kafka = .error e) ∨ ∃ kafkaCluster, o.kafka = .ok kafkaCluster ∧
      ((kafkaCluster.field "status") = .null ∨
        (kafkaCluster.field "status").field "conditions" = .null ∨
        ∀ c ∈ ((kafkaCluster.field "status").field "conditions").arrElems,
          ¬(c.field "type" = .str "Ready" ∧ c.field "status" = .str "True")))

/-- An observation that ends `kafkaClusterReady` with the error `e`: the
MulticlusterGlobalHub could not be read, or it is being deleted. -/
def KafkaReadyFatal (o : KafkaReadyObservation) (e : String) : Prop :=
  o.mgh = .error e ∨ ∃ mgh, o.mgh = .ok mgh ∧
    (mgh.field "metadata").field "deletionTimestamp" ≠ .null ∧ e = mghDeletingMessage mgh

/-- Every status condition of the Kafka cluster observed can be tested without a panic. -/
def KafkaConditionsTyped (o : KafkaReadyObservation) : Prop :=
  ∀ kafkaCluster, o.kafka = .ok kafkaCluster →
    ∀ c ∈ ((kafkaCluster.field "status").field "conditions").arrElems, ConditionTyped c

theorem readyOfConditions_of_typed {conditions : List Json}
    (h : ∀ c ∈ conditions, ConditionTyped c) :
    readyOfConditions conditions = .ok (conditions.any fun c =>
      c.field "type" == .str "Ready" && c.field "status" == .str "True") := by
  induction conditions with
  | nil => rfl
  | cons c rest ih =>
      have hc := isReadyCondition_of_typed (h c (List.mem_cons_self _ _))
      have ih := ih (fun c' hc' => h c' (List.mem_cons_of_mem _ hc'))
      unfold readyOfConditions
      cases hb : (c.field "type" == .str "Ready" && c.field "status" == .str "True") <;>
        simp_all

theorem kafkaClusterReadyCondition_verdict (k k' : Transporter) (o : KafkaReadyObservation) :
    (kafkaClusterReadyCondition k o).1 = (kafkaClusterReadyCondition k' o).1 := by
  unfold kafkaClusterReadyCondition
  split
  · rfl
  · dsimp only
    split
    · rfl
    · split
      · rfl
      · split <;> rfl

theorem kafkaClusterReadyCondition_verdict_eq (k : Transporter) (o : KafkaReadyObservation)
    (ht : KafkaConditionsTyped o) :
    (kafkaClusterReadyCondition k o).1 =
      match o.mgh with
      | .error e => .error e
      | .ok mgh =>
          if (mgh.field "metadata").field "deletionTimestamp" ≠ .null then
            .error (mghDeletingMessage mgh)
          else match o.kafka with
            | .error _ => .ok false
            | .ok kafkaCluster =>
                if kafkaCluster.field "status" = .null ∨
                    (kafkaCluster.field "status").field "conditions" = .null then .ok false
                else .ok ((((kafkaCluster.field "status").field "conditions").arrElems).any
                  fun c => c.field "type" == .str "Ready" && c.field "status" == .str "True") := by
  obtain ⟨mgh, kafka⟩ := o
  unfold kafkaClusterReadyCondition
  cases mgh with
  | error e => rfl
  | ok mgh =>
      dsimp only
      split
      · rfl
      · cases kafka with
        | error e => rfl
        | ok kafkaCluster =>
            dsimp only
            split
            · rfl
            · exact readyOfConditions_of_typed (ht kafkaCluster rfl)

theorem kafkaClusterReadyCondition_eq_false (k : Transporter) (o : KafkaReadyObservation)
    (ht : KafkaConditionsTyped o) :
    (kafkaClusterReadyCondition k o).1 = .ok false ↔ KafkaNotReady o := by
  rw [kafkaClusterReadyCondition_verdict_eq k o ht]
  rcases o with ⟨_ | mgh, _ | kafkaCluster⟩
  · simp [KafkaNotReady]
  · simp [KafkaNotReady]
  · by_cases hd : (mgh.field "metadata").field "deletionTimestamp" = .null <;>
      simp [KafkaNotReady, hd]
  · by_cases hd : (mgh.field "metadata").field "deletionTimestamp" = .null
    · by_cases hs : kafkaCluster.field "status" = .null ∨
          (kafkaCluster.field "status").field "conditions" = .null
      · simp only [hd, hs, ne_eq, not_true_eq_false, if_false, if_true, true_iff]
        exact ⟨mgh, rfl, hd, .inr ⟨kafkaCluster, rfl, hs.elim .inl (.inr ∘ .inl)⟩⟩
      · simp_all [KafkaNotReady]
    · simp [KafkaNotReady, hd]

theorem kafkaClusterReadyCondition_eq_error (k : Transporter) (o : KafkaReadyObservation)
    (ht : KafkaConditionsTyped o) (e : String) :
    (kafkaClusterReadyCondition k o).1 = .error e ↔ KafkaReadyFatal o e := by
  rw [kafkaClusterReadyCondition_verdict_eq k o ht]
  rcases o with ⟨_ | mgh, _ | kafkaCluster⟩
  · simp [KafkaReadyFatal]
  · simp [KafkaReadyFatal]
  · by_cases hd : (mgh.field "metadata").field "deletionTimestamp" = .null <;>
      simp [KafkaReadyFatal, hd, eq_comm (a := e)]
  · by_cases hd : (mgh.field "metadata").field "deletionTimestamp" = .null
    · by_cases hs : kafkaCluster.field "status" = .null ∨
          (kafkaCluster.field "status").field "conditions" = .null <;>
        simp [KafkaReadyFatal, hd, hs]
    · simp [KafkaReadyFatal, hd, eq_comm (a := e)]

theorem kafkaClusterReadyCondition_ne_panic (k : Transporter) (o : KafkaReadyObservation)
    (ht : KafkaConditionsTyped o) (msg : String) :
    (kafkaClusterReadyCondition k o).1 ≠ .panic msg := by
  rw [kafkaClusterReadyCondition_verdict_eq k o ht]
  rcases o with ⟨_ | mgh, _ | kafkaCluster⟩
  · simp
  · simp
  · dsimp only; split_ifs <;> simp
  · dsimp only; split_ifs <;> simp

theorem firstStop_ne_crashed {Obs : Type} (step : Obs → Outcome Bool)
    (events : List (PollEvent Obs)) (h : ∀ o, .tick o ∈ events → ∀ msg, step o ≠ .panic msg)
    (msg : String) : firstStop (stopsWith step) events ≠ .crashed msg := by
  rw [Ne, firstStop_eq_iff _ _ (by simp)]
  rintro ⟨pre, ev, post, rfl, -, hev⟩
  obtain ⟨o, rfl, ho⟩ := (stopsWith_crashed_iff step ev msg).1 hev
  exact h o (by simp) msg ho

section
variable (k : Transporter) (first : KafkaReadyObservation)
  (rest : List (PollEvent KafkaReadyObservation))
  (ht : ∀ o, .tick o ∈ (.tick first :: rest : List _) → KafkaConditionsTyped o)
include ht

theorem kafkaClusterReady_failed_iff (e : String) :
    (kafkaClusterReady k first rest).1 = .failed e ↔
      FailsAt KafkaNotReady KafkaReadyFatal (.tick first :: rest) e := by
  rw [kafkaClusterReady, pollUntilContextTimeout,
    pollLoop_result _ kafkaClusterReadyCondition_verdict k]
  exact firstStop_failed_iff _ _ _ (fun o h => kafkaClusterReadyCondition_eq_false k o (ht o h)) _
    (fun o h => kafkaClusterReadyCondition_eq_error k o (ht o h)) e

theorem kafkaClusterReady_ne_crashed (msg : String) :
    (kafkaClusterReady k first rest).1 ≠ .crashed msg := by
  rw [kafkaClusterReady, pollUntilContextTimeout,
    pollLoop_result _ kafkaClusterReadyCondition_verdict k]
  exact firstStop_ne_crashed _ _ (fun o h => kafkaClusterReadyCondition_ne_panic k o (ht o h)) msg

end

end StrimziTransport
