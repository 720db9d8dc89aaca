import Msm8660.Gps.LocEngFrames

/-!
# Muted sessions

A request with `GPS_NI_PRIVACY_OVERRIDE` mutes the session that begins next: until
it ends, no fix, satellite report or NMEA sentence should reach a client.
`Privacy` is this purpose, as a monitor that reads the steps of the thread; the
thread itself keeps `mute_session_state`.

While the session lasts the two agree, unless a further request of this kind is
accepted: it takes the state back to `LOC_MUTE_SESS_WAIT`. And of the three
handlers that report, the one for `LOC_ENG_MSG_REPORT_NMEA` does not look at the
state. These two are the only leaks (`mutedSession_silent`).
-/

set_option autoImplicit false

namespace Msm8660.Gps

/-- Whether a muted session is to come or lasts. -/
inductive Privacy where
  | unmuted
  | requested
  | muted
deriving DecidableEq, Repr

namespace Privacy

/-- A request that overrides privacy waits for the next session, which is muted
until its end or the end of the engine. -/
def afterMsg (privacy : Privacy) (data : LocEngData) (msg : LocEngMsg) : Privacy :=
  if data.overridesPrivacy msg then (if privacy = .muted then .muted else .requested)
  else match privacy, msg.reportedStatus with
    | .requested, some .gpsStatusSessionBegin | .requested, some .gpsStatusEngineOn => .muted
    | .muted, some .gpsStatusSessionEnd | .muted, some .gpsStatusEngineOff => .unmuted
    | _, _ => privacy

/-- The monitor. -/
def after (privacy : Privacy) (taken : Machine.Step (Option LocEngData) ThreadInput Call) :
    Privacy :=
  match taken.before, taken.input with
  | some data, .handle msg _ => privacy.afterMsg data msg
  | _, _ => privacy

/-- The mute state that the thread should be in. -/
def muteSessionState : Privacy → LocMuteSession
  | .unmuted => .locMuteSessNone
  | .requested => .locMuteSessWait
  | .muted => .locMuteSessInSession

end Privacy

/-- The thread with the monitor. -/
abbrev muteWatched (conf : LocGpsCfg) (nmea : NmeaGenerator) :
    Machine (Option LocEngData × Privacy) ThreadInput Call :=
  (locEngThread conf nmea).monitored Privacy.after

/-- Whether a message overrides privacy or passes a sentence of the modem on. -/
def ThreadInput.leaks : Option LocEngData → ThreadInput → Bool
  | some data, .handle msg _ => data.overridesPrivacy msg || data.forwardsNmea msg
  | _, _ => false

/-- A step in a muted session that takes the state back to `LOC_MUTE_SESS_WAIT`
or passes a sentence of the modem on. -/
def Leaks (taken : Machine.Step (Option LocEngData × Privacy) ThreadInput Call) : Prop :=
  taken.before.2 = .muted ∧ taken.input.leaks taken.before.1 = true

instance (taken : Machine.Step (Option LocEngData × Privacy) ThreadInput Call) :
    Decidable (Leaks taken) := inferInstanceAs (Decidable (_ ∧ _))

/-- The thread and the monitor agree. -/
def Agrees (watched : Option LocEngData × Privacy) : Prop :=
  ∀ data ∈ watched.1, data.muteSessionState = watched.2.muteSessionState

section Runs

variable {conf : LocGpsCfg} {nmea : NmeaGenerator} {data : LocEngData} {privacy : Privacy}

/-- Without a further override the mute state follows the session. -/
theorem muteAfter_eq {msg : LocEngMsg}
    (agrees : data.muteSessionState = privacy.muteSessionState)
    (spared : privacy = .muted → data.overridesPrivacy msg = false) :
    data.muteAfter msg = (privacy.afterMsg data msg).muteSessionState := by
  simp only [LocEngData.muteAfter, Privacy.afterMsg]
  cases overrides : data.overridesPrivacy msg with
  | true =>
      have other : privacy ≠ .muted := fun muted => by simp [spared muted] at overrides
      simp [other, Privacy.muteSessionState]
  | false =>
      cases msg.reportedStatus with
      | none => cases privacy <;> simp [agrees]
      | some status =>
          rw [agrees]
          cases privacy <;> cases status <;> rfl

/-- A report leaves the monitor where it is. -/
theorem Privacy.afterMsg_report {msg : LocEngMsg} (report : msg.isReport = true) :
    privacy.afterMsg data msg = privacy := by
  cases msg <;> first | (cases privacy <;> rfl) | cases report

theorem spared_handle {msg : LocEngMsg} {answers : Answers}
    (spared : ¬ Leaks ((muteWatched conf nmea).stepOn (some data, privacy)
      (.handle msg answers))) (muted : privacy = .muted) :
    data.overridesPrivacy msg = false ∧ data.forwardsNmea msg = false := by
  have sealed : ¬ (data.overridesPrivacy msg || data.forwardsNmea msg) = true :=
    fun leaks => spared ⟨muted, leaks⟩
  simpa using sealed

theorem Agrees.step {watched : Option LocEngData × Privacy} (agrees : Agrees watched)
    (input : ThreadInput) (spared : ¬ Leaks ((muteWatched conf nmea).stepOn watched input)) :
    Agrees ((muteWatched conf nmea).step watched input).1 := by
  obtain ⟨state, privacy⟩ := watched
  cases state with
  | none => cases input <;> exact fun data reached => absurd reached (Option.not_mem_none data)
  | some data =>
      cases input with
      | niWrite niNotifyCb ni =>
          intro after same
          cases same
          exact agrees data rfl
      | handle msg answers =>
          intro after reached
          have moved := ((data.handle_frame conf nmea answers msg).post after reached).2.2
          exact moved.trans
            (muteAfter_eq (agrees data rfl) fun muted => (spared_handle spared muted).1)

/-- Nothing is reported in a step that begins or ends in a muted session. -/
def Discreet (taken : Machine.Step (Option LocEngData × Privacy) ThreadInput Call) : Prop :=
  taken.before.2 = .muted ∨ taken.after.2 = .muted →
    ∀ call ∈ taken.outputs, call.isReport = false

instance (taken : Machine.Step (Option LocEngData × Privacy) ThreadInput Call) :
    Decidable (Discreet taken) := inferInstanceAs (Decidable (_ ∨ _ → _))

theorem Agrees.discreet {watched : Option LocEngData × Privacy} (agrees : Agrees watched)
    (input : ThreadInput) (spared : ¬ Leaks ((muteWatched conf nmea).stepOn watched input)) :
    Discreet ((muteWatched conf nmea).stepOn watched input) := by
  obtain ⟨state, privacy⟩ := watched
  intro muted call member
  cases state with
  | none => cases input <;> exact absurd member List.not_mem_nil
  | some data =>
      cases input with
      | niWrite niNotifyCb ni => exact absurd member List.not_mem_nil
      | handle msg answers =>
          by_contra report
          obtain ⟨fix, leak⟩ :=
            (data.handle_frame conf nmea answers msg).every call member (by simpa using report)
          have inSession : privacy = .muted :=
            muted.elim id fun after => (Privacy.afterMsg_report fix).symm.trans after
          rcases leak with outside | forwards
          · exact outside ((agrees data rfl).trans (by rw [inSession]; rfl))
          · exact absurd forwards (by simp [(spared_handle spared inSession).2])

/-- **A muted session leaks only through the two leaks.** In every run in which
no request overrides privacy again while a muted session lasts, and no sentence
of the modem arrives for a client during it, no client is told anything from the
beginning of a muted session to its end. -/
theorem mutedSession_silent (conf : LocGpsCfg) (nmea : NmeaGenerator) (data : LocEngData)
    (unmuted : data.muteSessionState = .locMuteSessNone) (inputs : List ThreadInput)
    (spared : ∀ taken ∈ (muteWatched conf nmea).steps (some data, .unmuted) inputs,
      ¬ Leaks taken) :
    ∀ taken ∈ (muteWatched conf nmea).steps (some data, .unmuted) inputs, Discreet taken := by
  have start : Agrees (some data, .unmuted) := fun _ same => by cases same; exact unmuted
  exact Machine.steps_spared
    (fun _ input agrees (_ : True) spared => agrees.step input spared)
    (fun _ input agrees _ spared => agrees.discreet input spared) start (fun _ _ => trivial) spared

/-- The fixes of a muted session are dropped. -/
theorem mutedSession_silent_fix :
    LocEngData.listening.muteSessionState = .locMuteSessNone ∧
    ∀ taken ∈ (muteWatched locDefaultParameters .silent).steps (some .listening, .unmuted)
        [.handle (.requestNi ⟨0, gpsNiPrivacyOverride, 30⟩ (some 7)) .success,
          .handle (.reportStatus .gpsStatusSessionBegin) .success,
          .handle (.reportPosition ⟨0, 0, 0, 0, 0, 0, 0, 0, 0⟩ ⟨0, 0, 0, 0, 0, 0⟩ 0
            .locSessFailure 0) .success], Discreet taken :=
  ⟨rfl, mutedSession_silent _ _ _ rfl _ (by decide)⟩

/-- A sentence of the modem reaches the client in a muted session, and so does a
fix after a second request that overrides privacy. -/
theorem not_mutedSession_silent :
    LocEngData.listening.muteSessionState = .locMuteSessNone ∧
    (¬ ∀ taken ∈ (muteWatched locDefaultParameters .silent).steps (some .listening, .unmuted)
        [.handle (.requestNi ⟨0, gpsNiPrivacyOverride, 30⟩ (some 7)) .success,
          .handle (.reportStatus .gpsStatusSessionBegin) .success,
          .handle (.reportNmea [36, 71, 80]) .success], Discreet taken) ∧
    ¬ ∀ taken ∈ (muteWatched locDefaultParameters .silent).steps (some .listening, .unmuted)
        [.handle (.requestNi ⟨0, gpsNiPrivacyOverride, 30⟩ (some 7)) .success,
          .handle (.reportStatus .gpsStatusSessionBegin) .success,
          .niWrite true ⟨0, false, none, 1, gpsNiResponseAccept⟩,
          .handle (.requestNi ⟨1, gpsNiPrivacyOverride, 30⟩ (some 8)) .success,
          .handle (.reportPosition ⟨0, 0, 0, 0, 0, 0, 0, 0, 0⟩ ⟨0, 0, 0, 0, 0, 0⟩ 0
            .locSessFailure 0) .success], Discreet taken := by
  decide

end Runs

end Msm8660.Gps
