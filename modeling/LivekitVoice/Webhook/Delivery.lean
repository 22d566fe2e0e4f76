import LivekitVoice.Transition.Pool
import LivekitVoice.Transition.Run

/-! # Webhook delivery

`send_event` spawns a task for every URL. The task posts the event and sleeps between its attempts;
it stops at the first attempt that is answered at all, whatever the status, and makes as many
attempts as there are delays, so that the last delay is never slept.

* **`deliver_as_documented_iff`** — when a task makes one attempt and five retries, up to the first
  2xx answer, as its comment says,
* **`deliveries_in_order`** — when the accepted deliveries to each URL are in the order of the
  calls. -/

namespace LivekitVoice.Webhook

open Transition

/-! ## One task -/

/-- How an attempt ends. -/
inductive Outcome
  | transportError
  | status (code : Nat)
  deriving DecidableEq

/-- `post_once(..).is_ok()`. -/
def Outcome.isOk : Outcome → Bool
  | .transportError => false
  | .status _ => true

/-- The receiver has accepted the event. -/
def Outcome.Accepted : Outcome → Prop
  | .transportError => False
  | .status code => 200 ≤ code ∧ code < 300

instance (o : Outcome) : Decidable o.Accepted := by
  cases o <;> unfold Outcome.Accepted <;> infer_instance

/-- `delays`, in milliseconds. -/
def delays : List Nat := [250, 500, 1000, 2000, 4000]

/-- What a task does next; `left` are the delays of the attempts that remain. -/
inductive Phase
  | posting (left : List Nat)
  | sleeping (delay : Nat) (left : List Nat)
  /-- The task has returned. -/
  | ended

/-- The task has not returned: it posts, or sleeps between two attempts. -/
def Phase.running : Phase → Bool
  | .posting _ | .sleeping _ _ => true
  | .ended => false

/-- The loop body after the attempt: it returns if there was an answer, and does not sleep after the
last attempt. -/
def afterPost (o : Outcome) (delay : Nat) (left : List Nat) : Phase :=
  if o.isOk then .ended
  else if left = [] then .ended
  else .sleeping delay left

/-- What a task does. -/
inductive Doing
  | post (o : Outcome)
  | sleep (delay : Nat)
  deriving DecidableEq

/-- **The loop** over the delays, given how each attempt ends. -/
def deliver (outcomes : Nat → Outcome) : List Nat → List Doing
  | [] => []
  | delay :: left => .post (outcomes 0) ::
    match afterPost (outcomes 0) delay left with
    | .sleeping delay _ => .sleep delay :: deliver (fun k => outcomes (k + 1)) left
    | _ => []

/-- **As documented**: one attempt and a retry after each of the delays, up to the first that is
accepted. -/
def documented (outcomes : Nat → Outcome) : List Nat → List Doing
  | [] => [.post (outcomes 0)]
  | delay :: left => .post (outcomes 0) ::
    if (outcomes 0).Accepted then []
    else .sleep delay :: documented (fun k => outcomes (k + 1)) left

/-- One of the first `n` attempts is accepted, and those before it fail in transport. -/
def AcceptedWithin (outcomes : Nat → Outcome) (n : Nat) : Prop :=
  ∃ k < n, (outcomes k).Accepted ∧ ∀ j < k, outcomes j = .transportError

theorem acceptedWithin_succ {outcomes : Nat → Outcome} {n : Nat} :
    AcceptedWithin outcomes (n + 1) ↔ (outcomes 0).Accepted ∨
      outcomes 0 = .transportError ∧ AcceptedWithin (fun k => outcomes (k + 1)) n := by
  constructor
  · rintro ⟨k, hk, haccepted, hbefore⟩
    cases k with
    | zero => exact .inl haccepted
    | succ k => exact .inr ⟨hbefore 0 (by omega), k, by omega, haccepted,
        fun j hj => hbefore (j + 1) (by omega)⟩
  · rintro (haccepted | ⟨herror, k, hk, haccepted, hbefore⟩)
    · exact ⟨0, by omega, haccepted, by simp⟩
    · refine ⟨k + 1, by omega, haccepted, fun j hj => ?_⟩
      cases j with
      | zero => exact herror
      | succ j => exact hbefore j (by omega)

/-- **When a task does what is documented.** -/
theorem deliver_as_documented_iff (outcomes : Nat → Outcome) :
    deliver outcomes delays = documented outcomes delays ↔ AcceptedWithin outcomes 5 := by
  have hall : ∀ (left : List Nat) (outcomes : Nat → Outcome),
      deliver outcomes left = documented outcomes left ↔ AcceptedWithin outcomes left.length := by
    intro left
    induction left with
    | nil => simp [deliver, documented, AcceptedWithin]
    | cons delay left ih =>
      intro outcomes
      rw [List.length_cons, acceptedWithin_succ, ← ih]
      -- a task that is answered stops, and one that is not goes on only if it sleeps
      cases h : outcomes 0 with
      | transportError =>
        cases left with
        | nil => simp [deliver, documented, afterPost, Outcome.isOk, Outcome.Accepted, h]
        | cons next left =>
          rw [deliver, documented]
          simp [afterPost, Outcome.isOk, Outcome.Accepted, h]
      | status code =>
        by_cases haccepted : (Outcome.status code).Accepted <;>
          simp [deliver, documented, afterPost, Outcome.isOk, haccepted, h]
  exact hall delays outcomes

/-- **Given up too early.** A task stops at an answer that is no acceptance, and after five
transport errors it makes no sixth attempt. -/
theorem deliver_gives_up :
    deliver (fun _ => .status 503) delays = [.post (.status 503)] ∧
    deliver (fun k => if k < 5 then .transportError else .status 200) delays =
      [.post .transportError, .sleep 250, .post .transportError, .sleep 500, .post .transportError,
        .sleep 1000, .post .transportError, .sleep 2000, .post .transportError] := by
  decide

/-! ## All tasks -/

/-- **A task**: the event of a call of `send_event`, for a URL. -/
structure Task where
  url : String
  event : String
  /-- The number of the call. -/
  call : Nat
  phase : Phase

/-- **The notifier.** -/
structure Notifier where
  urls : List String
  calls : Nat := 0
  tasks : List Task := []
  /-- The accepted deliveries, with their URLs and calls. -/
  log : List (String × Nat) := []

/-- What can happen. -/
inductive NotifierAction
  | sendEvent (event : String)
  /-- An attempt of a task ends. -/
  | posted (task : Nat) (o : Outcome)
  /-- A task wakes up. -/
  | wake (task : Nat)

namespace Notifier

/-- One step. -/
def step (s : Notifier) : NotifierAction → Option Notifier
  | .sendEvent event => some { s with
      calls := s.calls + 1
      tasks := s.tasks ++ s.urls.map fun url => ⟨url, event, s.calls, .posting delays⟩ }
  | .posted task o =>
    match s.tasks[task]? with
    | some ⟨url, event, call, .posting (delay :: left)⟩ => some { s with
        tasks := s.tasks.set task ⟨url, event, call, afterPost o delay left⟩
        log := if o.Accepted then s.log ++ [(url, call)] else s.log }
    | _ => none
  | .wake task =>
    match s.tasks[task]? with
    | some ⟨url, event, call, .sleeping _ left⟩ => some { s with
        tasks := s.tasks.set task ⟨url, event, call, .posting left⟩ }
    | _ => none

/-- The deliveries to each URL are in the order of the calls. -/
def InOrder (s : Notifier) : Prop := s.log.Pairwise fun a b => a.1 = b.1 → a.2 ≤ b.2

/-- **Earlier calls have ended**: when an attempt is accepted, no task of an earlier call for the
same URL still posts or sleeps. -/
def EarlierEnded (s : Notifier) : NotifierAction → Prop
  | .posted task o => o.Accepted → ∀ t ∈ s.tasks[task]?, ∀ earlier ∈ s.tasks,
      earlier.url = t.url → earlier.call < t.call → earlier.phase.running = false
  | .sendEvent _ | .wake _ => True

instance decidableEarlierEnded (s : Notifier) (a : NotifierAction) :
    Decidable (s.EarlierEnded a) := by
  unfold EarlierEnded
  split <;> infer_instance

/-- **What keeps the order**: no task that runs is of a call before one whose event its URL has
accepted. -/
structure Ordered (s : Notifier) : Prop where
  inOrder : s.InOrder
  /-- A later call has a number that no task and no delivery has. -/
  tasks : ∀ t ∈ s.tasks, t.call < s.calls
  log : ∀ delivery ∈ s.log, delivery.2 < s.calls
  running : ∀ t ∈ s.tasks, t.phase.running →
    ∀ delivery ∈ s.log, delivery.1 = t.url → delivery.2 ≤ t.call

variable {s s' : Notifier}

/-- A task goes on without a delivery. -/
theorem Ordered.set (hs : s.Ordered) {i : Nat} {t : Task} {phase : Phase}
    (ht : s.tasks[i]? = some t) (hrunning : t.phase.running) :
    Ordered { s with tasks := s.tasks.set i { t with phase } } := by
  have hmem : t ∈ s.tasks := List.mem_of_getElem? ht
  refine ⟨hs.inOrder, forall_mem_set hs.tasks (hs.tasks t hmem), hs.log, ?_⟩
  exact forall_mem_set hs.running fun _ => hs.running t hmem hrunning

/-- A delivery: the task was of the first call that had not been accepted. -/
theorem Ordered.deliver (hs : s.Ordered) {t : Task} (ht : t ∈ s.tasks)
    (hrunning : t.phase.running)
    (hearlier : ∀ earlier ∈ s.tasks, earlier.url = t.url → earlier.call < t.call →
      earlier.phase.running = false) :
    Ordered { s with log := s.log ++ [(t.url, t.call)] } := by
  refine ⟨?_, hs.tasks, forall_mem_concat hs.log (hs.tasks t ht), fun other hother hruns => ?_⟩
  · rw [InOrder, List.pairwise_append]
    refine ⟨hs.inOrder, List.pairwise_singleton _ _, fun delivery hmem last hlast hurl => ?_⟩
    obtain rfl := List.mem_singleton.mp hlast
    exact hs.running t ht hrunning delivery hmem hurl
  · refine forall_mem_concat (hs.running other hother hruns) fun hurl => ?_
    by_contra hlt
    exact absurd hruns (by simp [hearlier other hother hurl.symm (Nat.lt_of_not_le hlt)])

/-- **One step keeps the order**, if an attempt is accepted only when the earlier calls have
ended. -/
theorem Ordered.step {a : NotifierAction} (hs : s.Ordered) (hG : s.EarlierEnded a)
    (hstep : s.step a = some s') : s'.Ordered := by
  revert hstep
  fun_cases Notifier.step s a <;> rintro ⟨⟩
  case case1 event =>
    refine ⟨hs.inOrder, fun t ht => ?_, fun d hd => Nat.lt_succ_of_lt (hs.log d hd),
      fun t ht hrunning d hd hurl => ?_⟩
    all_goals rcases List.mem_append.mp ht with hold | hnew
    · exact Nat.lt_succ_of_lt (hs.tasks t hold)
    · obtain ⟨url, -, rfl⟩ := List.mem_map.mp hnew
      exact Nat.lt_succ_self _
    · exact hs.running t hold hrunning d hd hurl
    · obtain ⟨url, -, rfl⟩ := List.mem_map.mp hnew
      exact Nat.le_of_lt (hs.log d hd)
  case case2 task o url event call delay left htask =>
    by_cases haccepted : o.Accepted
    · rw [if_pos haccepted]
      have hmem := List.mem_of_getElem? htask
      exact (hs.deliver hmem rfl (hG haccepted _ htask)).set htask rfl
    · rw [if_neg haccepted]
      exact hs.set htask rfl
  case case4 task url event call _ left htask => exact hs.set htask rfl

/-- **Deliveries are in order** for all URLs, events and outcomes, and every schedule in which an
attempt is accepted only when no task of an earlier call for its URL still posts or sleeps. -/
theorem deliveries_in_order (urls : List String) (acts : List NotifierAction)
    (h : Along step EarlierEnded { urls } acts) : Throughout step InOrder { urls } acts := by
  intro n s hrun
  have hnew : Ordered { urls } := ⟨List.Pairwise.nil, by simp, by simp, by simp⟩
  exact (throughout_of_along (fun _ _ _ hs hG hstep => hs.step hG hstep) hnew h n s hrun).inOrder

/-- Three events for two URLs; one of the URLs fails once and then refuses the second event. -/
def retriedInOrder : List NotifierAction :=
  [.sendEvent "room_started", .sendEvent "participant_joined", .posted 0 .transportError,
    .posted 1 (.status 200), .posted 3 (.status 204), .wake 0, .posted 0 (.status 200),
    .posted 2 (.status 503), .sendEvent "room_finished", .posted 5 (.status 200),
    .posted 4 (.status 200)]

theorem deliveries_in_order_retried :
    ∃ s, run step { urls := ["https://a", "https://b"] } retriedInOrder = some s ∧
      s.log = [("https://b", 0), ("https://b", 1), ("https://a", 0), ("https://b", 2),
        ("https://a", 2)] ∧ s.InOrder := by
  refine (show ∃ s ∈ run step { urls := ["https://a", "https://b"] } retriedInOrder,
    s.log = [("https://b", 0), ("https://b", 1), ("https://a", 0), ("https://b", 2),
      ("https://a", 2)] by decide +kernel).imp fun s ⟨hrun, hlog⟩ => ⟨hrun, hlog, ?_⟩
  exact deliveries_in_order ["https://a", "https://b"] retriedInOrder (by decide +kernel)
    retriedInOrder.length s (by rw [List.take_length]; exact hrun)

/-- **An event that is overtaken.** The first attempt for `room_started` fails; while its task
sleeps `participant_joined` is accepted, and `room_started` afterwards. -/
theorem delivery_overtaken :
    (run step { urls := ["https://hook"] }
      [.sendEvent "room_started", .sendEvent "participant_joined", .posted 0 .transportError,
        .posted 1 (.status 200), .wake 0, .posted 0 (.status 200)]).map Notifier.log =
    some [("https://hook", 1), ("https://hook", 0)] := by
  decide

end Notifier
end LivekitVoice.Webhook
