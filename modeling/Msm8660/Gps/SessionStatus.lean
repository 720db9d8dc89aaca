import Msm8660.Gps.LocEngControl

/-!
# The session as the framework sees it

The framework learns of sessions from the statuses delivered to `status_cb`. The
flag `navigating` of the adapter is written by starts, stops, single shots and
restarts, and the statuses that the modem reports go through a filter that reads
the flag and the mute state.

While the flag is set, the last session status delivered is
`GPS_STATUS_SESSION_BEGIN` (`believes_run`); and the filter delivers no status of
the modem that contradicts the flag (`reportsConsistently`).
-/

set_option autoImplicit false

namespace Msm8660.Gps

/-- The last session status delivered to `status_cb`. -/
def lastSessionStatus (last : Option GpsStatusValue) : Call → Option GpsStatusValue
  | .statusCb .gpsStatusSessionBegin => some .gpsStatusSessionBegin
  | .statusCb .gpsStatusSessionEnd => some .gpsStatusSessionEnd
  | _ => last

/-- While the engine navigates, a framework that listens was last told that a
session has begun. -/
def Believes (data : LocEngData) (last : Option GpsStatusValue) : Prop :=
  data.navigating = true → data.statusCb = true → last = some .gpsStatusSessionBegin

/-- The handler keeps it so. -/
def KeepsBelief (last : Option GpsStatusValue) (outcome : Handling) : Prop :=
  outcome.Observed lastSessionStatus Believes last

section Handlers

variable {data : LocEngData} {last : Option GpsStatusValue}

/-- A call that does not belong to a session tells nothing about it. -/
theorem lastSessionStatus_of_silent {call : Call} (silent : call.controls = false)
    (last : Option GpsStatusValue) : lastSessionStatus last call = last := by
  cases call with
  | statusCb status => cases silent
  | _ => rfl

namespace KeepsBelief

theorem of_quiet (believes : Believes data last) {outcome : Handling}
    (quiet : Quiet data.control outcome) : KeepsBelief last outcome := by
  refine Outcome.Observed.of_ensures
    (Outcome.Ensures.mono quiet (fun _ same => same)
      fun call silent => lastSessionStatus_of_silent silent) fun after same => ?_
  intro inSession set
  have navigating : after.navigating = data.navigating :=
    congrArg SessionControl.navigating same
  have statusCb : after.statusCb = data.statusCb := congrArg SessionControl.statusCb same
  exact believes (navigating.symm.trans inSession) (statusCb.symm.trans set)

theorem andThen {first : Handling} {next : LocEngData → Handling} (start : KeepsBelief last first)
    (rest : ∀ (data : LocEngData) last, Believes data last → KeepsBelief last (next data)) :
    KeepsBelief last (first.andThen next) :=
  Outcome.Observed.andThen start rest

theorem done {calls : List Call}
    (believes : Believes data (calls.foldl lastSessionStatus last)) :
    KeepsBelief last (data.done calls) :=
  Outcome.Observed.some believes

theorem done_nil (believes : Believes data last) : KeepsBelief last (data.done []) :=
  KeepsBelief.done believes

theorem ite {c : Prop} [Decidable c] {first second : Handling} (yes : c → KeepsBelief last first)
    (no : ¬ c → KeepsBelief last second) : KeepsBelief last (if c then first else second) :=
  iteInduction yes no

end KeepsBelief

namespace LocEngData

theorem locEngStartHandler_keepsBelief (believes : Believes data last) (answers : Answers) :
    KeepsBelief last (data.locEngStartHandler answers) := by
  rw [locEngStartHandler_eq]
  split
  · exact KeepsBelief.done_nil believes
  · apply KeepsBelief.done
    intro started set
    have started : starts answers = true := started
    have set : data.statusCb = true := set
    simp [startCalls, started, set, lastSessionStatus]

/-- Behind a stop the flag is not set. -/
theorem believes_stopped (stopped : data.navigating = false) : Believes data last := by
  intro inSession
  rw [stopped] at inSession
  cases inSession

theorem locEngStopHandler_keepsBelief (believes : Believes data last) (answers : Answers) :
    KeepsBelief last (data.locEngStopHandler answers) := by
  rw [locEngStopHandler_eq]
  split
  · exact KeepsBelief.done (believes_stopped rfl)
  · exact KeepsBelief.done_nil believes

/-- In a session the filter lets no end of a session through. -/
theorem locEngReportStatus_keepsBelief (believes : Believes data last) (status : GpsStatusValue) :
    KeepsBelief last (data.locEngReportStatus status) := by
  rw [locEngReportStatus_eq]
  apply KeepsBelief.done
  intro inSession set
  have navigating : data.navigating = true := inSession
  have told : last = some .gpsStatusSessionBegin := believes navigating set
  split
  · next passes =>
      cases status with
      | gpsStatusSessionEnd => simp [passesOn, navigating] at passes
      | gpsStatusSessionBegin => rfl
      | gpsStatusNone => exact told
      | gpsStatusEngineOn => exact told
      | gpsStatusEngineOff => exact told
  · exact told

theorem reportPosition_keepsBelief (believes : Believes data last) (conf : LocGpsCfg)
    (nmea : NmeaGenerator) (answers : Answers) (location : GpsLocation)
    (locationExtended : GpsLocationExtended) (locationExt : Pointer) (status : LocSessStatus)
    (technologyMask : BitVec 32) :
    KeepsBelief last (data.reportPosition conf nmea answers location locationExtended locationExt
      status technologyMask) := by
  unfold reportPosition
  split
  · exact KeepsBelief.done_nil believes
  · refine KeepsBelief.andThen (KeepsBelief.andThen (?_ : KeepsBelief last _)
      fun after last believes => ?_) fun after last believes => ?_
    · refine KeepsBelief.of_quiet believes (Quiet.done rfl fun call member => ?_)
      split at member
      · split at member
        · rw [List.mem_singleton.mp member]
          rfl
        · split at member
          · rw [List.mem_singleton.mp member]
            rfl
          · exact absurd member List.not_mem_nil
      · exact absurd member List.not_mem_nil
    · exact KeepsBelief.ite (fun _ => KeepsBelief.done (believes_stopped (by rfl)))
        fun _ => KeepsBelief.done_nil believes
    · refine KeepsBelief.ite (fun _ => ?_) fun _ => KeepsBelief.done_nil believes
      exact KeepsBelief.of_quiet believes (locEngNmeaSend_quiet (by rfl) _)

theorem restartFix_keepsBelief (believes : Believes data last) (answers : Answers) :
    KeepsBelief last (data.restartFix answers) := by
  unfold restartFix
  split
  · refine KeepsBelief.andThen (KeepsBelief.done (believes_stopped (by rfl))) ?_
    intro after last believes
    exact locEngStartHandler_keepsBelief believes answers
  · exact KeepsBelief.done_nil believes

theorem locEngHandleEngineUp_keepsBelief (believes : Believes data last) (conf : LocGpsCfg)
    (answers : Answers) : KeepsBelief last (data.locEngHandleEngineUp conf answers) := by
  refine (KeepsBelief.of_quiet believes (locEngReinit_quiet rfl conf answers)).andThen
    fun after last believes => ?_
  refine (KeepsBelief.of_quiet believes (engineUpNifs_quiet rfl answers)).andThen
    fun after last believes => ?_
  exact (locEngReportStatus_keepsBelief believes _).andThen fun after last believes =>
    restartFix_keepsBelief believes answers

theorem handleMsg_keepsBelief (believes : Believes data last) (conf : LocGpsCfg)
    (nmea : NmeaGenerator) (answers : Answers) (msg : LocEngMsg) :
    KeepsBelief last (data.handleMsg conf nmea answers msg) := by
  cases controls : msg.controls with
  | false => exact KeepsBelief.of_quiet believes (handleMsg_quiet conf nmea data answers controls)
  | true =>
      cases msg with
      | startFix => exact locEngStartHandler_keepsBelief believes answers
      | stopFix =>
          simp only [handleMsg]
          split
          · exact KeepsBelief.done_nil (by exact believes)
          · exact locEngStopHandler_keepsBelief believes answers
      | reportPosition location locationExtended locationExt status technologyMask =>
          exact reportPosition_keepsBelief believes conf nmea answers _ _ _ _ _
      | reportStatus status => exact locEngReportStatus_keepsBelief believes status
      | deleteAidingData type => exact KeepsBelief.done_nil (by exact believes)
      | engineDown =>
          exact (KeepsBelief.of_quiet believes (withNi_quiet rfl _)).andThen
            fun after last believes => locEngReportStatus_keepsBelief believes _
      | engineUp => exact locEngHandleEngineUp_keepsBelief believes conf answers
      | _ => cases controls

theorem afterMsg_keepsBelief (believes : Believes data last) (answers : Answers)
    (msg : LocEngMsg) : KeepsBelief last (data.afterMsg answers msg) := by
  rw [afterMsg_eq]
  apply KeepsBelief.done
  intro inSession set
  obtain ⟨inSession, kept⟩ := Bool.and_eq_true_iff.mp inSession
  have kept : data.stopsAfter msg = false := by simpa using kept
  have told : last = some .gpsStatusSessionBegin := believes inSession set
  simp only [kept, Bool.false_eq_true, if_false, List.nil_append]
  split
  · exact told
  · exact told

theorem handle_keepsBelief (believes : Believes data last) (conf : LocGpsCfg)
    (nmea : NmeaGenerator) (answers : Answers) (msg : LocEngMsg) :
    KeepsBelief last (data.handle conf nmea answers msg) := by
  unfold handle
  split
  · exact (handleMsg_keepsBelief believes conf nmea answers msg).andThen
      fun after last believes => afterMsg_keepsBelief believes answers msg
  · intro after reached
    exact absurd reached (Option.not_mem_none after)

/-- A status that the modem reports is delivered as the filter says, and nothing
else is. -/
theorem handle_reportStatus (conf : LocGpsCfg) (nmea : NmeaGenerator) (data : LocEngData)
    (answers : Answers) {reported status : GpsStatusValue}
    (delivered : .statusCb status ∈ (data.handle conf nmea answers (.reportStatus reported)).2) :
    status = reported ∧ data.passesOn reported = true := by
  unfold handle at delivered
  split at delivered
  · rcases Outcome.emitted_of_andThen delivered with passed | ⟨after, -, later⟩
    · rw [handleMsg, locEngReportStatus_eq] at passed
      simp only [done] at passed
      split at passed
      · next passes => exact ⟨by simpa using passed, passes⟩
      · exact absurd passed List.not_mem_nil
    · rw [afterMsg_eq] at later
      simp [stopsAfter, endsDataCall, done] at later
  · exact absurd delivered List.not_mem_nil

end LocEngData

/-! ## Runs -/

variable {conf : LocGpsCfg} {nmea : NmeaGenerator}

theorem locEngThread_keepsBelief {state : Option LocEngData}
    (believes : ∀ data ∈ state, Believes data last) (input : ThreadInput) :
    ∀ after ∈ ((locEngThread conf nmea).step state input).1,
      Believes after
        (((locEngThread conf nmea).step state input).2.foldl lastSessionStatus last) := by
  intro after reached
  cases state with
  | none => exact absurd reached (Option.not_mem_none after)
  | some data =>
      cases input with
      | handle msg answers =>
          exact data.handle_keepsBelief (believes data rfl) conf nmea answers msg after reached
      | niWrite niNotifyCb ni =>
          cases reached
          exact believes data rfl

/-- The status that the modem reports in a step is delivered only if it does not
contradict the flag. -/
def ReportsConsistently (taken : Machine.Step (Option LocEngData) ThreadInput Call) : Prop :=
  ∀ data ∈ taken.before, ∀ status answers, taken.input = .handle (.reportStatus status) answers →
    (.statusCb .gpsStatusSessionBegin ∈ taken.outputs → data.navigating = true) ∧
      (.statusCb .gpsStatusSessionEnd ∈ taken.outputs → data.navigating = false)

theorem reportsConsistently (state : Option LocEngData) (input : ThreadInput) :
    ReportsConsistently ((locEngThread conf nmea).stepOn state input) := by
  rintro data rfl status answers rfl
  refine ⟨fun delivered => ?_, fun delivered => ?_⟩
  · obtain ⟨rfl, passes⟩ := data.handle_reportStatus conf nmea answers delivered
    by_contra idle
    simp [LocEngData.passesOn, idle] at passes
  · obtain ⟨rfl, passes⟩ := data.handle_reportStatus conf nmea answers delivered
    by_contra inSession
    simp [LocEngData.passesOn, inSession] at passes

end Handlers

/-- **The framework never believes the session is over while the engine
navigates.** From any instance outside of a session, in any mute state, after every
sequence of messages the last session status delivered while the flag is set is a
begin; and the modem's own begins and ends are delivered only when they agree with
the flag. -/
theorem believes_run (conf : LocGpsCfg) (nmea : NmeaGenerator) (data : LocEngData)
    (idle : data.navigating = false) (inputs : List ThreadInput) :
    (∀ after ∈ (locEngThread conf nmea).run (some data) inputs, Believes after
      (((locEngThread conf nmea).outputs (some data) inputs).foldl lastSessionStatus none)) ∧
    ∀ taken ∈ (locEngThread conf nmea).steps (some data) inputs, ReportsConsistently taken := by
  constructor
  · have start : ∀ after ∈ some data, Believes after none := fun after same => by
      cases same
      exact LocEngData.believes_stopped idle
    exact @Machine.run_observed _ _ _ _ (locEngThread conf nmea) lastSessionStatus
      (fun state last => ∀ after ∈ state, Believes after last) (fun _ => True)
      (fun _ _ input believes _ => locEngThread_keepsBelief believes input) (some data) none start
      inputs (fun _ _ => trivial)
  · intro taken member
    obtain ⟨earlier, input, later, -, rfl⟩ := Machine.mem_steps.mp member
    exact reportsConsistently _ input

/-- A session that the engine crashes in: the restart begins it anew. -/
theorem believes_run_restart :
    LocEngData.listening.navigating = false ∧
    (∀ after ∈ (locEngThread locDefaultParameters .silent).run (some .listening)
        [.handle .startFix .success, .handle .engineDown .success, .handle .engineUp .success],
      Believes after (((locEngThread locDefaultParameters .silent).outputs (some .listening)
        [.handle .startFix .success, .handle .engineDown .success,
          .handle .engineUp .success]).foldl lastSessionStatus none)) :=
  ⟨rfl, (believes_run locDefaultParameters .silent .listening rfl _).1⟩

end Msm8660.Gps
