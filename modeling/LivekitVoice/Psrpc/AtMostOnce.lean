import LivekitVoice.Psrpc.Network
import Mathlib.Data.List.Nodup

/-! # At most one execution

A subscription of the Redis bus is one connection for all its channels, so a subscriber gets what it
gets in the order in which the `PUBLISH` commands were executed. A packet is published twice when
`RedisBus::publish` repeats a command whose reply was lost. A call handles bids only after its
request is published, so both copies of a request come before any grant of it, and a task that has
started the handler of a request does not see the request again (`OnceInv`).

* **`handlers_at_most_once`** — the handlers of all servers run at most once per request id. -/

namespace LivekitVoice.Psrpc

open Transition

section Once

variable {τ κ : Type}

/-- **The bus keeps its order**: a task gets a packet only if it comes after all it has received
so far. Packets may still be lost. -/
def InOrder (s : Net τ κ) : NetAction τ κ → Prop
  | .deliver t i _ => s.seen t ≤ i
  | _ => True

instance (s : Net τ κ) (a : NetAction τ κ) : Decidable (InOrder s a) := by
  cases a <;> unfold InOrder <;> infer_instance

/-- Every request on the bus stands before every grant of it. -/
def RequestsFirst (log : List Packet) : Prop :=
  ∀ (i j : Nat) channel channel' req grant, log[i]? = some ⟨channel, .request req⟩ →
    log[j]? = some ⟨channel', .claimResponse grant⟩ → req.requestId = grant.requestId → i < j

/-- **The invariant of executions.** -/
structure OnceInv (reg : τ → Registration) (s : Net τ κ) : Prop where
  /-- Requests come before their grants. -/
  order : RequestsFirst s.log
  /-- The task that started a handler has received the grant and dropped the request. -/
  dropped : ∀ st ∈ s.started, (s.task st.task).pending st.requestId = none ∧
    ∃ j < s.seen st.task, s.log[j]? = some ((reg st.task).grantPacket st.requestId)
  /-- No request was started twice. -/
  once : (s.started.map Started.requestId).Nodup

section Step

variable {reg : τ → Registration} {spec : κ → CallSpec} {s s' : Net τ κ} {a : NetAction τ κ}

theorem onceInv_init : OnceInv reg (Net.init : Net τ κ) where
  order := by simp [RequestsFirst, Net.init]
  dropped := by simp [Net.init]
  once := by simp [Net.init]

/-- **Packets keep the order** if a request is appended only while it is not granted, and not
together with a grant of it. -/
theorem RequestsFirst.append {log ps : List Packet} (h : RequestsFirst log)
    (hps : ∀ channel req, ⟨channel, .request req⟩ ∈ ps →
      ∀ server, ¬ GrantedTo (log ++ ps) req.requestId server) : RequestsFirst (log ++ ps) := by
  intro i j channel channel' req grant hi hj hrid
  by_cases hlt : i < log.length
  · by_cases hlt' : j < log.length
    · rw [List.getElem?_append_left hlt] at hi
      rw [List.getElem?_append_left hlt'] at hj
      exact h i j channel channel' req grant hi hj hrid
    · omega
  · -- the request is new, so it is not granted
    rw [List.getElem?_append_right (by omega)] at hi
    refine absurd ?_ (hps channel req (List.mem_of_getElem? hi) grant.serverId)
    exact ⟨_, List.mem_of_getElem? hj, by rw [hrid]⟩

theorem OnceInv.append (hI : OnceInv reg s) {ps : List Packet}
    (hps : RequestsFirst (s.log ++ ps)) : OnceInv reg { s with log := s.log ++ ps } := by
  refine ⟨hps, fun st hst => ?_, hI.once⟩
  obtain ⟨hnone, j, hj, hgrant⟩ := hI.dropped st hst
  have hlt := (List.getElem?_eq_some_iff.mp hgrant).1
  exact ⟨hnone, j, hj, (List.getElem?_append_left hlt).trans hgrant⟩

/-! ## One task per request

From here on request ids are distinct, so are server ids, and a server registers a method and topic
once. -/

variable (hids : Function.Injective fun k => (spec k).requestId)
  (hservers : ∀ t t', (reg t).server.serverId = (reg t').server.serverId →
    (reg t).server = (reg t').server)
  (honce : ∀ t t', (reg t).server = (reg t').server → (reg t).method = (reg t').method →
    (reg t).topic = (reg t').topic → t = t')

include hids hservers honce

/-- **The task of a request**: the handlers of one request id are started by one task. -/
theorem GrantInv.task_eq (hI : GrantInv reg spec s) {t t' : τ} {rid : String}
    (ht : (reg t).grantPacket rid ∈ s.log) (ht' : (reg t').grantPacket rid ∈ s.log) : t = t' := by
  have hserver : (reg t).server = (reg t').server :=
    hservers t t' (hI.agree rid _ _ ⟨_, ht, rfl⟩ ⟨_, ht', rfl⟩)
  -- both grants are on the channel of the one call with that request id
  obtain ⟨k, hk, hrid⟩ := hI.grants _ _ ht
  obtain ⟨k', hk', hrid'⟩ := hI.grants _ _ ht'
  obtain rfl : k = k' := hids (hrid.symm.trans hrid')
  have hchannel : (reg t).rclaimCh = (reg t').rclaimCh :=
    (Packet.mk.inj hk).1.trans (Packet.mk.inj hk').1.symm
  rw [Registration.rclaimCh, Registration.rclaimCh, hserver] at hchannel
  obtain ⟨hmethod, htopic⟩ :=
    claimResponseChannel_injective (reg t).method_ne (reg t').method_ne hchannel
  exact honce t t' hserver hmethod htopic

/-- **A packet arrives in order at a task**: it does not bring back a request that the task has
started, and a handler it starts is the first one of its request. -/
theorem OnceInv.receives (hG : GrantInv reg spec s) (hI : OnceInv reg s) {t : τ} {i : Nat}
    {now : Int} {p : Packet} {reaction : Reaction} (hseen : s.seen t ≤ i) (hp : s.log[i]? = some p)
    (h : (reg t).Receives (s.task t).pending now p reaction) :
    (∀ st ∈ s.started, st.task = t → reaction.pending st.requestId = none) ∧
    ∀ rid q, reaction.spawn = some (rid, q) → reaction.pending rid = none ∧
      p = (reg t).grantPacket rid ∧ ∀ st ∈ s.started, st.requestId ≠ rid := by
  cases h with
  | request req hlt =>
    refine ⟨fun st hst ht => ?_, fun _ _ h => by cases h⟩
    subst ht
    obtain ⟨hnone, j, hj, hgrant⟩ := hI.dropped st hst
    -- a copy of the request after its grant would break the order of the log
    have hne : st.requestId ≠ req.requestId := by
      intro hrid
      have hij := hI.order i j _ _ _ _ hp hgrant hrid.symm
      omega
    simp [Function.update_of_ne hne, PendingMap.retain, hnone, Option.filter_none]
  | grant rid' q' hq' =>
    refine ⟨fun st hst ht => ?_, fun rid q hspawn => ?_⟩
    · subst ht
      by_cases hrid : st.requestId = rid'
      · simp [hrid, Function.update_self]
      · simp [Function.update_of_ne hrid, (hI.dropped st hst).1]
    · obtain ⟨rfl, rfl⟩ : rid' = rid ∧ q' = q := by simpa using hspawn
      refine ⟨Function.update_self _ _ _, rfl, fun st hst hrid => ?_⟩
      -- an earlier handler was started by this very task, which has dropped the request
      subst hrid
      obtain rfl : st.task = t := hG.task_eq hids hservers honce (hG.started st hst).1
        (List.mem_of_getElem? hp)
      cases (hI.dropped st hst).1.symm.trans hq'
  | ignored _ _ _ =>
    refine ⟨fun st hst ht => ?_, fun _ _ h => by cases h⟩
    subst ht
    exact (hI.dropped st hst).1

/-- **One step keeps the invariant of executions.** -/
theorem onceInv_step [DecidableEq τ] [DecidableEq κ] (hG : GrantInv reg spec s)
    (hI : OnceInv reg s) (hinOrder : InOrder s a) (h : s.step reg spec a = some s') :
    OnceInv reg s' := by
  revert h
  fun_cases Net.step reg spec s a <;> intro h
  case case1 k a =>
    obtain ⟨⟨c, ps⟩, hstep, rfl⟩ := Option.map_eq_some_iff.mp h
    -- a step of a call publishes its request before any grant of it
    have hI' := hI.append (hI.order.append fun channel req hp server hgranted => by
      have hpacket := (callOk_step (hG.call k) hstep).2 _ hp
      generalize hpkt : (⟨channel, .request req⟩ : Packet) = p at hp hpacket
      cases hpacket with
      | request now hungranted =>
        cases hpkt
        rcases grantedTo_append.mp hgranted with hg | ⟨p', hp', hmsg⟩
        · exact hungranted server hg
        · rw [CallSpec.eq_of_mem_step hstep hp' hp] at hmsg
          cases hmsg
      | grant server' _ => cases hpkt)
    exact ⟨hI'.order, hI'.dropped, hI'.once⟩
  all_goals cases h
  case case2 | case10 => exact { hI with }
  case case5 t i now p hp _ _ reaction =>
    have hreceive := (reg t).receives_receive (s.task t).pending now p
    have hseen : s.seen t ≤ i := hinOrder
    obtain ⟨hold, hnew⟩ := hI.receives hids hservers honce hG hseen hp hreceive
    refine ⟨hI.order, fun st hst => ?_, ?_⟩
    · rcases List.mem_append.mp hst with hst | hst
      · obtain ⟨hnone, j, hj, hgrant⟩ := hI.dropped st hst
        by_cases ht : st.task = t
        · simp only [ht, Function.update_self]
          refine ⟨hold st hst ht, j, ?_, ht ▸ hgrant⟩
          rw [ht] at hj
          omega
        · simp only [Function.update_of_ne ht]
          exact ⟨hnone, j, hj, hgrant⟩
      · obtain ⟨rid, q, hspawn, rfl⟩ := Reaction.mem_started.mp hst
        obtain ⟨hnone, rfl, -⟩ := hnew rid q hspawn
        simp only [Function.update_self]
        exact ⟨hnone, i, Nat.lt_succ_self i, hp⟩
    · simp only [List.map_append, List.nodup_append]
      refine ⟨hI.once, ?_, ?_⟩
      · unfold Reaction.started
        cases reaction.spawn <;> simp
      · intro rid hrid rid' hrid'
        obtain ⟨st, hst, rfl⟩ := List.mem_map.mp hrid
        obtain ⟨st', hst', rfl⟩ := List.mem_map.mp hrid'
        obtain ⟨rid', q, hspawn, rfl⟩ := Reaction.mem_started.mp hst'
        exact (hnew rid' q hspawn).2.2 st hst
  case case8 t o bid attempt hbid =>
    obtain ⟨claim, hclaim⟩ := hG.bids t bid attempt hbid
    have horder : RequestsFirst (s.log ++ o.packets bid) :=
      hI.order.append fun channel req hp => by
        simp [← mem_packets hp] at hclaim
    have hI' := hI.append horder
    refine ⟨hI'.order, fun st hst => ?_, hI'.once⟩
    obtain ⟨hnone, hgrant⟩ := hI'.dropped st hst
    refine ⟨?_, hgrant⟩
    by_cases ht : st.task = t
    · simp only [ht, Function.update_self]
      exact ht ▸ hnone
    · simpa only [Function.update_of_ne ht] using hnone
  case case12 n o st result attempt hphase hst =>
    have horder : RequestsFirst (s.log ++ o.packets (answerPacket reg st result)) :=
      hI.order.append fun channel req hp => by cases mem_packets hp
    have hI' := hI.append horder
    exact ⟨hI'.order, hI'.dropped, hI'.once⟩

end Step

/-- **A request is executed at most once.** Any number of calls and server tasks share a bus that
keeps its order; a publish whose reply is lost is repeated. Request ids are distinct, so are server
ids, and a server registers a method and topic once. Then the handlers of all servers together were
started at most once for any request id. -/
theorem handlers_at_most_once [DecidableEq τ] [DecidableEq κ] (reg : τ → Registration)
    (spec : κ → CallSpec) (hids : Function.Injective fun k => (spec k).requestId)
    (hservers : ∀ t t', (reg t).server.serverId = (reg t').server.serverId →
      (reg t).server = (reg t').server)
    (honce : ∀ t t', (reg t).server = (reg t').server → (reg t).method = (reg t').method →
      (reg t).topic = (reg t').topic → t = t')
    {as : List (NetAction τ κ)} {s : Net τ κ}
    (horder : Along (Net.step reg spec) InOrder Net.init as)
    (hrun : run (Net.step reg spec) Net.init as = some s) (rid : String) :
    (s.started.map Started.requestId).count rid ≤ 1 := by
  have hI : GrantInv reg spec s ∧ OnceInv reg s :=
    run_invariant_along (I := fun s => GrantInv reg spec s ∧ OnceInv reg s)
      (fun _ _ _ hI hG h =>
        ⟨grantInv_step hids hI.1 h, onceInv_step hids hservers honce hI.1 hI.2 hG h⟩)
      ⟨grantInv_init, onceInv_init⟩ horder hrun
  exact List.nodup_iff_count_le_one.mp hI.2.once rid

end Once

/-- The replies to the request and to the grant are lost, and both are published twice. -/
def startTwice : List (NetAction Bool Unit) :=
  [.call () (.start 0), .call () (.publish (.failed true)), .deliver false 0 1, .bid false .ok,
    .call () (.publish .ok), .deliver false 2 2, .bid false .ok, .dispatch () 1, .dispatch () 3,
    .call () .claim, .call () (.publish (.failed true)), .deliver false 4 3,
    .call () (.publish .ok), .deliver false 5 4]

/-- The theorem at that run: the server gets two requests and two grants and runs the handler
once. -/
theorem handlers_at_most_once_retried :
    ∃ s, run (Net.step startTasks startCall) Net.init startTwice = some s ∧
      s.started.map Started.requestId = ["R"] ∧
      (s.started.map Started.requestId).count "R" ≤ 1 := by
  refine (show ∃ s ∈ run _ _ _, s.started.map Started.requestId = ["R"] by decide +kernel).imp
    fun s ⟨hrun, hstarted⟩ => ⟨hrun, hstarted,
      handlers_at_most_once startTasks startCall (fun _ _ _ => rfl) (by decide)
        (by decide) (by decide +kernel) hrun "R"⟩

end LivekitVoice.Psrpc
