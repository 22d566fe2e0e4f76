import LivekitVoice.Egress.Recorder

/-! # The history of a recording

A recording is reported when it is started, once the recorder is in the room, and when the file has
been uploaded or something has failed. Each report is built from nothing, with the clock as it is
then: its `started_at` is the time of the report, and so are the beginning and the end of the file,
whose duration counts milliseconds.

* **`Recorder.reports`**, **`timeline`** — what a run reports of a call, and what the schedule says
  of it: the readings of the clock, and the frames that are uploaded,
* **`Recorder.reports_timeline`** — the times and durations of the reports are those of the
  schedule,
* **`Recorder.history_consistent_iff`** — when the reports of a call agree. -/

namespace LivekitVoice

open List Transition

/-! ## Infos -/

/-- What an info is about. -/
def EgressInfo.job (info : EgressInfo) : EgressJob :=
  ⟨info.egressId, info.roomId, info.roomName, info.request⟩

/-- When an info was made, and how long its files last. -/
def EgressInfo.times (info : EgressInfo) : Int × List Int :=
  (info.updatedAt, info.fileResults.map FileInfo.duration)

/-- **One consistent history.** -/
structure ConsistentHistory (infos : List EgressInfo) : Prop where
  same : ∀ x ∈ infos, ∀ y ∈ infos,
    x.job = y.job ∧ x.sourceType = y.sourceType ∧ x.startedAt = y.startedAt
  updated : infos.Pairwise fun x y => x.updatedAt ≤ y.updatedAt
  /-- All times of a file are in nanoseconds. -/
  files : ∀ x ∈ infos, ∀ file ∈ x.fileResults,
    file.startedAt ≤ file.endedAt ∧ file.duration ≤ file.endedAt - file.startedAt

/-- **A report of a recording**: everything in it begins when it is made. -/
structure ReportOf (job : Option EgressJob) (info : EgressInfo) : Prop where
  job : some info.job = job
  source : info.sourceType = 1
  started : info.startedAt = info.updatedAt
  files : ∀ file ∈ info.fileResults,
    file.startedAt = info.updatedAt ∧ file.endedAt = info.updatedAt ∧ 0 ≤ file.duration

section Reports

variable (job : EgressJob) (now : Int)

theorem EgressJob.reportOf_finished (filename location : String) (frames size : Nat) :
    ReportOf (some job) (job.finished filename location frames size now) := by
  refine ⟨rfl, rfl, rfl, fun file hfile => ?_⟩
  cases mem_singleton.mp hfile
  exact ⟨rfl, rfl, Int.mul_nonneg (Int.natCast_nonneg frames) (by decide)⟩

end Reports

/-- **Reports of one recording agree** if they are made at one time and no file has a duration. -/
theorem consistentHistory_iff {job : Option EgressJob} {infos : List EgressInfo}
    (hall : ∀ x ∈ infos, ReportOf job x)
    (hupdated : infos.Pairwise fun x y => x.updatedAt ≤ y.updatedAt) :
    ConsistentHistory infos ↔
      (∀ x ∈ infos.map EgressInfo.times, ∀ y ∈ infos.map EgressInfo.times, x.1 = y.1) ∧
        ∀ x ∈ infos.map EgressInfo.times, ∀ duration ∈ x.2, duration = 0 := by
  simp only [forall_mem_map, EgressInfo.times]
  constructor
  · intro h
    refine ⟨fun x hx y hy => ?_, fun x hx file hfile => ?_⟩
    · rw [← (hall x hx).started, ← (hall y hy).started]
      exact (h.same x hx y hy).2.2
    · obtain ⟨hstarted, hended, hnonneg⟩ := (hall x hx).files file hfile
      have hduration := (h.files x hx file hfile).2
      omega
  · rintro ⟨htimes, hdurations⟩
    refine ⟨fun x hx y hy => ⟨?_, ?_, ?_⟩, hupdated, fun x hx file hfile => ?_⟩
    · exact Option.some.inj ((hall x hx).job.trans (hall y hy).job.symm)
    · rw [(hall x hx).source, (hall y hy).source]
    · rw [(hall x hx).started, (hall y hy).started]
      exact htimes x hx y hy
    · obtain ⟨hstarted, hended, -⟩ := (hall x hx).files file hfile
      rw [hstarted, hended, hdurations x hx file hfile, sub_self]
      exact ⟨le_refl _, le_refl _⟩

/-! ## What is reported -/

/-- The reading of the clock in a step. -/
def RecorderAction.now : RecorderAction → Option Int
  | .start _ now | .connected _ now | .uploaded _ _ now | .failed _ _ now => some now
  | _ => none

/-- The call whose step reads the clock, if `n` calls have begun before: a start is a step of the
call it begins. -/
def RecorderAction.caller (n : Nat) : RecorderAction → Option Nat
  | .start _ _ => some n
  | .connected i _ | .uploaded i _ _ | .failed i _ _ => some i
  | _ => none

/-- The calls that have begun after a step. -/
def RecorderAction.callsAfter (n : Nat) : RecorderAction → Nat
  | .start _ _ => n + 1
  | _ => n

/-- The frames that call `i` has recorded after a step. -/
def RecorderAction.framesAfter (i frames : Nat) : RecorderAction → Nat
  | .recorded j count _ => if j = i then count else frames
  | _ => frames

/-- The frames that are uploaded in a step, of those the call has recorded. -/
def RecorderAction.uploads (frames : Nat) : RecorderAction → Option Nat
  | .uploaded _ _ _ => some frames
  | _ => none

/-- **The steps of call `i` that read the clock**, in a schedule that begins when `n` calls have
begun and call `i` has recorded `frames`: what the clock reads, and what is uploaded. -/
def timeline (i : Nat) : (n frames : Nat) → List RecorderAction → List (Int × Option Nat)
  | _, _, [] => []
  | n, frames, a :: as =>
    (if a.caller n = some i then a.now.map (·, a.uploads frames) else none).toList ++
      timeline i (a.callsAfter n) (a.framesAfter i frames) as

namespace RecorderCall

/-- The info that the call has given to `create_egress` or `update_egress`. -/
def awaited : RecorderCall → Option EgressInfo
  | .recording plan .creating => some plan.info
  | .recording _ (.activating info)
  | .recording _ (.finishing info)
  | .recording _ (.failing info) => some info
  | _ => none

/-- The frames of the file that the call is about to upload. -/
def toUpload : RecorderCall → Option Nat
  | .recording _ (.uploading frames _) => some frames
  | _ => none

/-- What the call records. -/
def job : RecorderCall → Option EgressJob
  | .recording plan _ => some plan.job
  | _ => none

end RecorderCall

namespace Recorder

/-- **The report of a step**, and the call it is about. -/
def report (s : Recorder) (a : RecorderAction) (s' : Recorder) : Option (Nat × EgressInfo) :=
  (a.caller s.calls.length).bind fun i => (s'.calls[i]?.bind RecorderCall.awaited).map (i, ·)

/-- **The reports of a run.** -/
def reports (conf : EgressConfig) (parallelism : Option Nat) :
    Recorder → List RecorderAction → List (Nat × EgressInfo)
  | _, [] => []
  | s, a :: as =>
    match step conf parallelism s a with
    | none => []
    | some s' => (s.report a s').toList ++ reports conf parallelism s' as

/-- **The history of a call**: the reports about it, from the start of the recorder. -/
def history (conf : EgressConfig) (parallelism : Option Nat) (as : List RecorderAction) (i : Nat) :
    List EgressInfo :=
  ((reports conf parallelism new as).filter (·.1 = i)).map Prod.snd

variable {conf : EgressConfig} {parallelism : Option Nat} {s s' : Recorder} {a : RecorderAction}
  {as : List RecorderAction} {i : Nat} {info : EgressInfo}

/-- What call `i` records. -/
def jobOf (s : Recorder) (i : Nat) : Option EgressJob := s.calls[i]?.bind RecorderCall.job

/-- A call that moves on records what it did. -/
theorem jobOf_moveTo {plan : RecordingPlan} {before after : RecordingPhase} {j : Nat}
    (hc : s.calls[j]? = some (.recording plan before)) :
    (s.moveTo j plan after).jobOf i = s.jobOf i := by
  by_cases hij : i = j
  · subst hij
    rw [jobOf, jobOf, hc, moveTo, getElem?_set_stepped hc]
    rfl
  · rw [jobOf, jobOf, moveTo, List.getElem?_set_ne (Ne.symm hij)]

/-- **A call records the same thing all the time**, and the calls that have begun are counted. -/
theorem jobOf_step (h : step conf parallelism s a = some s') :
    s'.calls.length = a.callsAfter s.calls.length ∧
      (i < s.calls.length → s'.jobOf i = s.jobOf i) := by
  revert h
  fun_cases step conf parallelism s a <;> rintro ⟨⟩
  case case1 =>
    refine ⟨length_append, fun hi => ?_⟩
    rw [jobOf, List.getElem?_append_left hi, ← jobOf]
  case case23 => exact ⟨rfl, fun _ => rfl⟩
  all_goals
    have hc := ‹s.calls[_]? = some _›
    exact ⟨length_set, fun _ => jobOf_moveTo hc⟩

/-- A call that records something has begun. -/
theorem lt_of_jobOf {job : EgressJob} (h : s.jobOf i = some job) : i < s.calls.length := by
  obtain ⟨c, hc, -⟩ := Option.bind_eq_some_iff.mp h
  exact (List.getElem?_eq_some_iff.mp hc).1

/-- A call that has begun records the same thing at the end of a run. -/
theorem jobOf_run (hrun : run (step conf parallelism) s as = some s') (hi : i < s.calls.length) :
    s'.jobOf i = s.jobOf i := by
  have hkept := run_invariant (I := fun t => i < t.calls.length ∧ t.jobOf i = s.jobOf i)
    (fun t a t' ht h => ?_) ⟨hi, rfl⟩ hrun
  · exact hkept.2
  · obtain ⟨hlength, hjob⟩ := jobOf_step (i := i) h
    refine ⟨?_, (hjob ht.1).trans ht.2⟩
    rw [hlength]
    cases a with
    | start => exact Nat.lt_succ_of_lt ht.1
    | _ => exact ht.1

/-- **What is uploaded**: if call `i` is about to upload a file, the file has these frames. -/
def Uploading (s : Recorder) (i frames : Nat) : Prop :=
  ∀ count ∈ s.calls[i]?.bind RecorderCall.toUpload, count = frames

/-- **A call moves on**: if it is call `i`, the frames are those it is about to upload. -/
theorem Uploading.set {frames frames' j : Nat} {c c' : RecorderCall} (hs : s.Uploading i frames)
    (hc : s.calls[j]? = some c) (hcalls : s'.calls = s.calls.set j c')
    (hself : j = i → ∀ count ∈ c'.toUpload, count = frames') (hother : j ≠ i → frames' = frames) :
    s'.Uploading i frames' := by
  rw [Uploading, hcalls]
  by_cases hij : j = i
  · subst hij
    rw [getElem?_set_stepped hc]
    exact hself rfl
  · rw [List.getElem?_set_ne hij, hother hij]
    exact hs

/-- **The frames to be uploaded** are those of the last recording step of the call. -/
theorem Uploading.step {frames : Nat} (hs : s.Uploading i frames)
    (h : step conf parallelism s a = some s') : s'.Uploading i (a.framesAfter i frames) := by
  revert h
  fun_cases Recorder.step conf parallelism s a <;> rintro ⟨⟩
  case case1 call now =>
    -- a call begins with nothing to upload
    have hnew : (startEgress conf parallelism s.active.card call now).toUpload = none := by
      fun_cases startEgress <;> rfl
    rcases Nat.lt_or_ge i s.calls.length with hlt | hge
    · rw [Uploading, List.getElem?_append_left hlt]
      exact hs
    · rintro count hcount
      rw [List.getElem?_append_right hge] at hcount
      obtain ⟨c, hc, hup⟩ := Option.bind_eq_some_iff.mp hcount
      rw [mem_singleton.mp (mem_of_getElem? hc), hnew] at hup
      cases hup
  case case12 j count size plan hc =>
    refine hs.set hc rfl (fun hij => ?_) fun hij => if_neg hij
    rintro _ ⟨⟩
    exact (if_pos hij).symm
  case case23 => exact hs
  all_goals
    have hc := ‹s.calls[_]? = some _›
    exact hs.set hc rfl (by rintro _ _ ⟨⟩) fun _ => rfl

/-- What a call that moves on reports: what it awaits then. -/
theorem report_moveTo {plan : RecordingPlan} {before after : RecordingPhase} {j : Nat}
    (hc : s.calls[j]? = some (.recording plan before))
    (hcaller : a.caller s.calls.length = some j) :
    s.report a (s.moveTo j plan after) =
      (RecorderCall.recording plan after).awaited.map (j, ·) := by
  have hafter : (s.moveTo j plan after).calls[j]? = some (.recording plan after) :=
    getElem?_set_stepped hc
  rw [report, hcaller, Option.bind_some, hafter, Option.bind_some]

/-- A request that is admitted awaits the report of its first info. -/
theorem awaited_startEgress (activeCount : Nat) (call : StartEgressCall) (now : Int) :
    (startEgress conf parallelism activeCount call now).awaited =
      (startEgress conf parallelism activeCount call now).job.map (·.starting now) := by
  fun_cases startEgress conf parallelism activeCount call now <;> rfl

/-- **A report of a step** is about the recording of its call, as new as the clock says, and of the
duration of what is uploaded. -/
structure Reported (s : Recorder) (a : RecorderAction) (s' : Recorder) (i : Nat)
    (info : EgressInfo) : Prop where
  now : a.now = some info.updatedAt
  of : ReportOf (s'.jobOf i) info
  durations : ∀ frames, s.Uploading i frames →
    info.fileResults.map FileInfo.duration =
      (a.uploads frames).toList.map fun n : Nat => (n : Int) * 20

/-- **What a step reports**: a step of call `i` that reads the clock reports something exactly if
the call records something. -/
theorem report_spec (h : step conf parallelism s a = some s')
    (hcaller : a.caller s.calls.length = some i) :
    ∃ told : Option EgressInfo, s.report a s' = told.map (i, ·) ∧ i < s'.calls.length ∧
      told.isSome = (s'.jobOf i).isSome ∧ ∀ info ∈ told, Reported s a s' i info := by
  have hjob : ∀ {plan : RecordingPlan} {before after : RecordingPhase},
      s.calls[i]? = some (.recording plan before) →
      (s.moveTo i plan after).jobOf i = some plan.job := by
    intro plan before after hc
    rw [jobOf_moveTo hc, jobOf, hc]
    rfl
  revert h
  fun_cases step conf parallelism s a <;> rintro ⟨⟩ <;> cases hcaller
  case case1 call now =>
    have hself : jobOf { s with
        calls := s.calls ++ [startEgress conf parallelism s.active.card call now] }
        s.calls.length = (startEgress conf parallelism s.active.card call now).job := by
      rw [jobOf, List.getElem?_concat_length, Option.bind_some]
    refine ⟨(startEgress conf parallelism s.active.card call now).job.map (·.starting now),
      ?_, by simp, ?_, ?_⟩
    · rw [report, RecorderAction.caller, Option.bind_some, List.getElem?_concat_length,
        Option.bind_some, awaited_startEgress]
    · rw [hself, Option.isSome_map]
    · intro info hinfo
      obtain ⟨job, hsome, rfl⟩ := Option.map_eq_some_iff.mp hinfo
      refine ⟨rfl, ⟨?_, rfl, rfl, by simp [EgressJob.starting]⟩, fun _ _ => rfl⟩
      rw [hself, hsome]
      rfl
  case case8 now plan hc =>
    refine ⟨_, report_moveTo hc rfl, lt_of_jobOf (hjob hc), by rw [hjob hc]; rfl, ?_⟩
    rintro _ ⟨⟩
    exact ⟨rfl, hjob hc ▸ ⟨rfl, rfl, rfl, by simp [EgressJob.active]⟩, fun _ _ => rfl⟩
  case case14 location now plan frames size key told hc =>
    refine ⟨_, report_moveTo hc rfl, lt_of_jobOf (hjob hc), by rw [hjob hc]; rfl,
      fun info hinfo => ?_⟩
    obtain rfl := Option.some.inj hinfo
    refine ⟨rfl, hjob hc ▸ plan.job.reportOf_finished _ _ _ _ _, fun count hup => ?_⟩
    obtain rfl : frames = count := hup frames (by rw [hc]; rfl)
    rfl
  case case16 error now plan hc | case17 error now plan hc | case18 error now plan _ _ hc =>
    refine ⟨_, report_moveTo hc rfl, lt_of_jobOf (hjob hc), by rw [hjob hc]; rfl, ?_⟩
    rintro _ ⟨⟩
    exact ⟨rfl, hjob hc ▸ ⟨rfl, rfl, rfl, by simp [EgressJob.failed]⟩, fun _ _ => rfl⟩

/-- A report is about the call of the step, and as `report_spec` says. -/
theorem reported_of_report (h : step conf parallelism s a = some s')
    (hreport : s.report a s' = some (i, info)) :
    a.caller s.calls.length = some i ∧ Reported s a s' i info := by
  obtain ⟨j, hcaller, hinfo⟩ := Option.bind_eq_some_iff.mp hreport
  obtain ⟨_, -, ⟨⟩⟩ := Option.map_eq_some_iff.mp hinfo
  obtain ⟨told, htold, -, -, hall⟩ := report_spec h hcaller
  obtain ⟨_, hmem, ⟨⟩⟩ := Option.map_eq_some_iff.mp (htold.symm.trans hreport)
  exact ⟨hcaller, hall _ hmem⟩

/-! ## Whole runs -/

/-- **Every report of a run** is about the recording that its call has at the end. -/
theorem mem_reports (hrun : run (step conf parallelism) s as = some s')
    (hmem : (i, info) ∈ reports conf parallelism s as) :
    ReportOf (s'.jobOf i) info := by
  induction as generalizing s with
  | nil => cases hmem
  | cons a as ih =>
    obtain ⟨t, hstep, hrest⟩ := run_cons_eq_some.mp hrun
    rw [reports, hstep] at hmem
    rcases mem_append.mp hmem with hhead | htail
    · have hof := (reported_of_report hstep (Option.mem_toList.mp hhead)).2.of
      rw [jobOf_run hrest (lt_of_jobOf hof.job.symm)]
      exact hof
    · exact ih hrest htail

/-- **The reports come in the order of the clock.** -/
theorem reports_sublist :
    ((reports conf parallelism s as).map (·.2.updatedAt)).Sublist
      (as.filterMap RecorderAction.now) := by
  induction as generalizing s with
  | nil => exact List.Sublist.slnil
  | cons a as ih =>
    rw [reports]
    cases hstep : step conf parallelism s a with
    | none => exact nil_sublist _
    | some t =>
      rw [map_append, ← singleton_append, filterMap_append]
      refine List.Sublist.append ?_ ih
      cases hreport : s.report a t with
      | none => exact nil_sublist _
      | some entry =>
        simp [(reported_of_report hstep hreport).2.now]

/-- **What is reported of a recording is what the schedule says**: one report for each of its steps
that read the clock, with the time of that step, and the file lasts as long as its frames. -/
theorem reports_timeline {frames : Nat} (hrun : run (step conf parallelism) s as = some s')
    (hjob : (s'.jobOf i).isSome) (hs : s.Uploading i frames) :
    ((reports conf parallelism s as).filter (·.1 = i)).map (·.2.times) =
      (timeline i s.calls.length frames as).map fun e =>
        (e.1, e.2.toList.map fun n : Nat => (n : Int) * 20) := by
  induction as generalizing s frames with
  | nil => rfl
  | cons a as ih =>
    obtain ⟨t, hstep, hrest⟩ := run_cons_eq_some.mp hrun
    obtain ⟨hlength, -⟩ := jobOf_step (i := i) hstep
    have htail := ih hrest (hs.step hstep)
    rw [hlength] at htail
    rw [reports, hstep, timeline]
    dsimp only
    rw [filter_append, map_append, map_append, htail]
    congr 1
    by_cases hcaller : a.caller s.calls.length = some i
    · -- the call has begun, and so records at the end what it does now
      obtain ⟨told, hreport, hbegun, hsome, hall⟩ := report_spec hstep hcaller
      rw [← jobOf_run hrest hbegun, hjob] at hsome
      obtain ⟨info, rfl⟩ := Option.isSome_iff_exists.mp hsome
      have hreported := hall info rfl
      rw [hreport, if_pos hcaller, hreported.now]
      simp [EgressInfo.times, hreported.durations frames hs]
    · rw [if_neg hcaller]
      cases hreport : s.report a t with
      | none => rfl
      | some entry =>
        have hne : entry.1 ≠ i :=
          fun h => hcaller (h ▸ (reported_of_report hstep hreport).1)
        simp [hne]

/-- **One history.** With a clock that does not go back, the reports of a call are always about one
recording, in the order of their times, and no file ends before it begins. They agree on when the
recording was started, and the duration of the file fits, exactly if the clock reads the same at all
steps of the call that read it, and no frames are uploaded; a call that is refused reports
nothing. -/
theorem history_consistent_iff (hrun : run (step conf parallelism) new as = some s)
    (hclock : (as.filterMap RecorderAction.now).Pairwise (· ≤ ·)) (i : Nat) :
    (∀ x ∈ history conf parallelism as i, ∀ y ∈ history conf parallelism as i,
        x.job = y.job ∧ x.sourceType = y.sourceType) ∧
      (history conf parallelism as i).Pairwise (fun x y => x.updatedAt ≤ y.updatedAt) ∧
      (∀ x ∈ history conf parallelism as i, ∀ file ∈ x.fileResults,
        file.startedAt ≤ file.endedAt) ∧
      (ConsistentHistory (history conf parallelism as i) ↔
        ((s.jobOf i).isSome →
          (∀ x ∈ timeline i 0 0 as, ∀ y ∈ timeline i 0 0 as, x.1 = y.1) ∧
            ∀ x ∈ timeline i 0 0 as, ∀ frames ∈ x.2, frames = 0)) := by
  have hall : ∀ x ∈ history conf parallelism as i, ReportOf (s.jobOf i) x := by
    intro x hx
    obtain ⟨⟨j, _⟩, hin, rfl⟩ := mem_map.mp hx
    obtain ⟨hreport, hj⟩ := mem_filter.mp hin
    obtain rfl : j = i := of_decide_eq_true hj
    exact mem_reports hrun hreport
  have hupdated : (history conf parallelism as i).Pairwise
      fun x y => x.updatedAt ≤ y.updatedAt := by
    have hall : (reports conf parallelism new as).Pairwise
        fun x y => x.2.updatedAt ≤ y.2.updatedAt :=
      pairwise_map.mp (hclock.sublist reports_sublist)
    exact pairwise_map.mpr (hall.sublist filter_sublist)
  refine ⟨fun x hx y hy => ⟨?_, ?_⟩, hupdated, fun x hx file hfile => ?_, ?_⟩
  · exact Option.some.inj ((hall x hx).job.trans (hall y hy).job.symm)
  · rw [(hall x hx).source, (hall y hy).source]
  · obtain ⟨hstarted, hended, -⟩ := (hall x hx).files file hfile
    rw [hstarted, hended]
  · rw [consistentHistory_iff hall hupdated]
    cases hjob : s.jobOf i with
    | none =>
      have hnone : history conf parallelism as i = [] :=
        eq_nil_iff_forall_not_mem.mpr fun x hx => by cases hjob ▸ (hall x hx).job
      simp [hnone]
    | some job =>
      have htimes : (history conf parallelism as i).map EgressInfo.times =
          (timeline i 0 0 as).map fun e => (e.1, e.2.toList.map fun n : Nat => (n : Int) * 20) := by
        rw [history, map_map]
        exact reports_timeline hrun (by rw [hjob]; rfl) (by rintro _ ⟨⟩)
      rw [htimes]
      simp only [forall_mem_map, Option.isSome_some, forall_const]
      refine and_congr_right fun _ => forall₂_congr fun e _ => ?_
      simp

/-- Two recordings: the first one is completed before the clock moves, without any frame. -/
def completedAtOnce : List RecorderAction :=
  [.start (plainCall "EG_1") 7, .start (plainCall "EG_2") 7, .created 0, .created 1, .registered 1,
    .registered 0, .connected 0 7, .activated 0, .stop "EG_1", .recorded 0 0 44,
    .uploaded 0 "/out/EG_1.wav" 7, .reported 0, .connected 1 9, .activated 1, .recorded 1 50 1964,
    .uploaded 1 "/out/EG_2.wav" 9, .reported 1]

theorem history_consistent_completedAtOnce :
    (history oneCpuConfig (some 2) completedAtOnce 0).map EgressInfo.times =
        [(7, []), (7, []), (7, [0])] ∧
      ConsistentHistory (history oneCpuConfig (some 2) completedAtOnce 0) := by
  have hrun : (run (step oneCpuConfig (some 2)) new completedAtOnce).isSome := by
    decide +kernel
  obtain ⟨s, hs⟩ := Option.isSome_iff_exists.mp hrun
  refine ⟨by decide +kernel, (history_consistent_iff hs (by decide) 0).2.2.2.mpr fun _ => ?_⟩
  decide +kernel

/-- A recording of a second. -/
def completedRun : List RecorderAction :=
  [.start (plainCall "EG_1") 1, .created 0, .registered 0, .connected 0 2, .activated 0,
    .recorded 0 50 960, .uploaded 0 "/out/EG_1.wav" 3, .reported 0]

/-- **A history that does not agree.** The recording is said to have started at three times, and its
file, which lasts, to have begun when it ended. -/
theorem history_inconsistent :
    (run (step oneCpuConfig (some 1)) new completedRun).isSome ∧
      (history oneCpuConfig (some 1) completedRun 0).map (fun x => (x.startedAt, x.updatedAt)) =
        [(1, 1), (2, 2), (3, 3)] ∧
      (history oneCpuConfig (some 1) completedRun 0).flatMap
        (fun x => x.fileResults.map fun f => (f.startedAt, f.endedAt, f.duration)) =
          [(3, 3, 1000)] :=
  ⟨by decide +kernel, by decide +kernel, by decide +kernel⟩

end Recorder

end LivekitVoice
