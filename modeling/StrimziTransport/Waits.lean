import StrimziTransport.Poll

/-!
`WaitGlobalHubReady` and `WaitTransporterReady` of `utils.go`, over every trace of their poll
loops. `WaitGlobalHubReady` reads the MulticlusterGlobalHub into one variable at each tick and
returns it once its ready condition is true; `NotFound` and a hub not yet ready poll again, and
any other error of the `Get` ends the wait. Its five-minute deadline, like a cancellation, is a
`done` event. `config.CONDITION_TYPE_GLOBALHUB_READY` and `config.GetTransporter` belong to
`operator/pkg/config`, which is not in the sources: the condition type is a parameter, and what
a tick of `WaitTransporterReady` observes is whether the transporter is set.
-/

namespace StrimziTransport

/-- `meta.IsStatusConditionTrue`: the first condition of the type has status `True`. -/
def isStatusConditionTrue (conditions : List Json) (conditionType : String) : Bool :=
  match conditions.find? fun c => (c.field "type").asStr == conditionType with
  | some c => (c.field "status").asStr == "True"
  | none => false

/-- The reply of the `Get` of the MulticlusterGlobalHub. -/
inductive MghReply where
  | found (mgh : Json)
  | notFound
  | failed (err : String)

section WaitGlobalHubReady
variable (readyType : String)

def mghReady (mgh : Json) : Bool :=
  isStatusConditionTrue ((mgh.field "status").field "conditions").arrElems readyType

/-- The condition of `WaitGlobalHubReady`; a successful `Get` reads into `mgh`. -/
def waitGlobalHubReadyCondition (mgh : Json) : MghReply → Outcome Bool × Json
  | .notFound => (.ok false, mgh)
  | .failed err => (.error err, mgh)
  | .found mgh' => (.ok (mghReady readyType mgh'), mgh')

/-- `WaitGlobalHubReady`: how the wait ends, and the hub its variable holds, which the function
returns when the wait succeeded. The variable starts as the zero hub, `null` here. -/
def waitGlobalHubReady (first : MghReply) (rest : List (PollEvent MghReply)) : WaitResult × Json :=
  pollUntilContextTimeout (waitGlobalHubReadyCondition readyType) .null first rest

def MghNotYet (r : MghReply) : Prop :=
  r = .notFound ∨ ∃ mgh, r = .found mgh ∧ mghReady readyType mgh = false

def MghFatal (r : MghReply) (e : String) : Prop := r = .failed e

theorem waitGlobalHubReadyCondition_verdict (s s' : Json) (r : MghReply) :
    (waitGlobalHubReadyCondition readyType s r).1 =
        (waitGlobalHubReadyCondition readyType s' r).1 := by
  cases r <;> rfl

theorem waitGlobalHubReadyCondition_eq_false (s : Json) (r : MghReply) :
    (waitGlobalHubReadyCondition readyType s r).1 = .ok false ↔ MghNotYet readyType r := by
  cases r <;> simp [waitGlobalHubReadyCondition, MghNotYet]

theorem waitGlobalHubReadyCondition_eq_error (s : Json) (r : MghReply) (e : String) :
    (waitGlobalHubReadyCondition readyType s r).1 = .error e ↔ MghFatal r e := by
  cases r <;> simp [waitGlobalHubReadyCondition, MghFatal]

end WaitGlobalHubReady

theorem exists_prefix_cons_iff {α : Type} (Q : α → Prop) (R : Prop) (x y : α) (xs : List α) :
    (∃ pre post, x :: xs = pre ++ y :: post ∧ (∀ z ∈ pre, Q z) ∧ R) ↔
      (x = y ∧ R) ∨ (Q x ∧ ∃ pre post, xs = pre ++ y :: post ∧ (∀ z ∈ pre, Q z) ∧ R) := by
  constructor
  · rintro ⟨pre, post, he, hq, hr⟩
    cases pre with
    | nil => cases he; exact .inl ⟨rfl, hr⟩
    | cons z pre =>
        obtain ⟨rfl, rfl⟩ := List.cons.inj he
        exact .inr ⟨hq _ (.head _), pre, post, rfl, fun z hz => hq z (.tail _ hz), hr⟩
  · rintro (⟨rfl, hr⟩ | ⟨hx, pre, post, rfl, hq, hr⟩)
    · exact ⟨[], xs, rfl, by simp, hr⟩
    · exact ⟨x :: pre, post, rfl, List.forall_mem_cons.mpr ⟨hx, hq⟩, hr⟩

section WaitGlobalHubReady
variable (readyType : String)

theorem pollLoop_tick_found_ready {s m : Json} (h : mghReady readyType m = true)
    (events : List (PollEvent MghReply)) :
    pollLoop (waitGlobalHubReadyCondition readyType) s (.tick (.found m) :: events) =
        (.succeeded, m) := by
  simp only [pollLoop, waitGlobalHubReadyCondition, h]

theorem pollLoop_tick_found_not_ready {s m : Json} (h : mghReady readyType m = false)
    (events : List (PollEvent MghReply)) :
    pollLoop (waitGlobalHubReadyCondition readyType) s (.tick (.found m) :: events) =
      pollLoop (waitGlobalHubReadyCondition readyType) m events := by
  simp only [pollLoop, waitGlobalHubReadyCondition, h]

theorem pollLoop_waitGlobalHubReady_eq_succeeded (s mgh : Json)
    (events : List (PollEvent MghReply)) :
    pollLoop (waitGlobalHubReadyCondition readyType) s events = (.succeeded, mgh) ↔
      ∃ pre post, events = pre ++ .tick (.found mgh) :: post ∧
        (∀ x ∈ pre, ∃ r, x = .tick r ∧ MghNotYet readyType r) ∧ mghReady readyType mgh = true := by
  induction events generalizing s with
  | nil => simp [pollLoop]
  | cons x events ih =>
      rw [exists_prefix_cons_iff (fun x : PollEvent MghReply => ∃ r, x = .tick r ∧
          MghNotYet readyType r)]
      rcases x with (m | _ | err) | e
      · cases hm : mghReady readyType m
        · rw [pollLoop_tick_found_not_ready readyType hm, ih]
          refine ⟨fun h => .inr ⟨⟨_, rfl, .inr ⟨m, rfl, hm⟩⟩, h⟩, ?_⟩
          rintro (⟨he, hr⟩ | ⟨-, h⟩)
          · cases he; rw [hm] at hr; cases hr
          · exact h
        · rw [pollLoop_tick_found_ready readyType hm]
          refine ⟨(fun h => by cases h; exact .inl ⟨rfl, hm⟩), ?_⟩
          rintro (⟨he, -⟩ | ⟨⟨r, hr, hq⟩, -⟩)
          · cases he; rfl
          · cases hr; rcases hq with h | ⟨_, h, hf⟩
            · cases h
            · cases h; rw [hm] at hf; cases hf
      · show pollLoop (waitGlobalHubReadyCondition readyType) s events = (.succeeded, mgh) ↔ _
        rw [ih]
        exact ⟨fun h => .inr ⟨⟨_, rfl, .inl rfl⟩, h⟩,
            fun h => h.elim (fun ⟨he, _⟩ => by cases he) And.right⟩
      · refine ⟨(fun h => by cases h), ?_⟩
        rintro (⟨he, -⟩ | ⟨⟨r, hr, hq⟩, -⟩)
        · cases he
        · cases hr; rcases hq with h | ⟨_, h, -⟩ <;> cases h
      · refine ⟨(fun h => by cases h), ?_⟩
        rintro (⟨he, -⟩ | ⟨⟨r, he, -⟩, -⟩) <;> cases he

/-- `WaitGlobalHubReady` ends as the first event that stops it says, over every trace: it
returns a hub just when a tick reads that hub with its ready condition true after ticks that
read no hub or one not yet ready; it fails with an error just when a `Get` fails so, or the
context is done, after such ticks; and it never panics. -/
theorem waitGlobalHubReady_ends_at_first_stop (first : MghReply)
    (rest : List (PollEvent MghReply)) :
    (∀ mgh, waitGlobalHubReady readyType first rest = (.succeeded, mgh) ↔
      ∃ pre post, .tick first :: rest = pre ++ .tick (.found mgh) :: post ∧
        (∀ x ∈ pre, ∃ r, x = .tick r ∧ MghNotYet readyType r) ∧ mghReady readyType mgh = true) ∧
    (∀ e, (waitGlobalHubReady readyType first rest).1 = .failed e ↔
      FailsAt (MghNotYet readyType) MghFatal (.tick first :: rest) e) ∧
    ∀ msg, (waitGlobalHubReady readyType first rest).1 ≠ .crashed msg := by
  have hv := pollLoop_result _ (waitGlobalHubReadyCondition_verdict readyType) .null .null
    (.tick first :: rest)
  refine ⟨fun mgh => pollLoop_waitGlobalHubReady_eq_succeeded readyType _ mgh _,
      fun e => ?_, fun msg => ?_⟩
  · rw [waitGlobalHubReady, pollUntilContextTimeout, hv]
    exact firstStop_failed_iff _ _ _
      (fun o _ => waitGlobalHubReadyCondition_eq_false readyType _ o) _
      (fun o _ => waitGlobalHubReadyCondition_eq_error readyType _ o) e
  · rw [waitGlobalHubReady, pollUntilContextTimeout, hv]
    exact firstStop_ne_crashed _ _
      (fun o _ msg => by cases o <;> simp [waitGlobalHubReadyCondition]) msg

end WaitGlobalHubReady

/-- The condition of `WaitTransporterReady`, on whether `config.GetTransporter` is set. -/
def waitTransporterReadyCondition (u : Unit) (transporterSet : Bool) : Outcome Bool × Unit :=
  (.ok transporterSet, u)

/-- `WaitTransporterReady`, polled every second until its timeout. -/
def waitTransporterReady (first : Bool) (rest : List (PollEvent Bool)) : WaitResult :=
  (pollUntilContextTimeout waitTransporterReadyCondition () first rest).1

theorem waitTransporterReady_eq_succeeded_iff (first : Bool) (rest : List (PollEvent Bool)) :
    waitTransporterReady first rest = .succeeded ↔
      ∃ pre post, .tick first :: rest = pre ++ .tick true :: post ∧ ∀ x ∈ pre, x = .tick false := by
  rw [waitTransporterReady, pollUntilContextTimeout, pollLoop_result _ (fun _ _ _ => rfl) (),
    firstStop_eq_iff _ _ (by simp)]
  constructor
  · rintro ⟨pre, ev, post, he, hpre, hev⟩
    refine ⟨pre, post, ?_, fun x hx => ?_⟩
    · rcases ev with (_ | _) | e <;> first | exact he | cases hev
    · obtain ⟨o, rfl, ho⟩ := (stopsWith_waiting_iff _ x).1 (hpre x hx)
      cases ho; rfl
  · rintro ⟨pre, post, he, hpre⟩
    exact ⟨pre, _, post, he, fun x hx => by rw [hpre x hx]; rfl, rfl⟩

end StrimziTransport
