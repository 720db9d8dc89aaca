import Msm8660.Gps.LocEngControl

/-!
# Settings

The members of `loc_eng_data_s_type` that the framework sets by calls of its own,
the callbacks first of all. No message changes them (`handle_settings`).
-/

set_option autoImplicit false

namespace Msm8660.Gps

/-- The members that no handler writes. -/
structure Settings where
  context : Bool
  locationCb : Bool
  statusCb : Bool
  svStatusCb : Bool
  agpsStatusCb : Bool
  nmeaCb : Bool
  downloadRequestCb : Bool
  requestUtcTimeCb : Bool
  ulpNetworkCallback : Bool
  ulpPhoneContextReqCb : Bool
  intermediateFix : ℕ
  generateNmea : Bool
  suplHost : Option HostBuf
  c2kHost : Option HostBuf
deriving DecidableEq

def LocEngData.settings (data : LocEngData) : Settings :=
  ⟨data.context, data.locationCb, data.statusCb, data.svStatusCb, data.agpsStatusCb, data.nmeaCb,
    data.downloadRequestCb, data.requestUtcTimeCb, data.ulpNetworkCallback,
    data.ulpPhoneContextReqCb, data.intermediateFix, data.generateNmea, data.suplHost,
    data.c2kHost⟩

/-- The handler leaves the settings as they are in `origin`. -/
def KeepsSettings (origin : Settings) (outcome : Handling) : Prop :=
  ∀ after ∈ outcome.1, after.settings = origin

section Handlers

variable {origin : Settings} {data : LocEngData}

namespace KeepsSettings

theorem done (same : data.settings = origin) (calls : List Call) :
    KeepsSettings origin (data.done calls) := by
  intro after reached
  cases reached
  exact same

theorem none (calls : List Call) : KeepsSettings origin (none, calls) :=
  fun after reached => absurd reached (Option.not_mem_none after)

theorem andThen {first : Handling} {next : LocEngData → Handling}
    (start : KeepsSettings origin first)
    (rest : ∀ data : LocEngData, data.settings = origin → KeepsSettings origin (next data)) :
    KeepsSettings origin (first.andThen next) := by
  intro final reached
  obtain ⟨after, early, late⟩ := Outcome.exists_of_mem_andThen reached
  exact rest after (start after early) final late

theorem ite {c : Prop} [Decidable c] {first second : Handling}
    (yes : c → KeepsSettings origin first) (no : ¬ c → KeepsSettings origin second) :
    KeepsSettings origin (if c then first else second) :=
  iteInduction yes no

end KeepsSettings

namespace LocEngData

theorem callNif_settings (same : data.settings = origin) (nif : Nif) (op : AgpsOp) :
    KeepsSettings origin (data.callNif nif op) := by
  unfold callNif
  split
  · exact KeepsSettings.none _
  · refine KeepsSettings.ite (fun _ => KeepsSettings.none _) fun _ => KeepsSettings.done ?_ _
    cases nif <;> exact same

theorem locEngStartHandler_settings (same : data.settings = origin) (answers : Answers) :
    KeepsSettings origin (data.locEngStartHandler answers) := by
  rw [locEngStartHandler_eq]
  exact KeepsSettings.ite (fun _ => KeepsSettings.done same _) fun _ =>
    KeepsSettings.done (by exact same) _

theorem locEngStopHandler_settings (same : data.settings = origin) (answers : Answers) :
    KeepsSettings origin (data.locEngStopHandler answers) := by
  rw [locEngStopHandler_eq]
  exact KeepsSettings.ite (fun _ => KeepsSettings.done (by exact same) _) fun _ =>
    KeepsSettings.done same _

theorem locEngReportStatus_settings (same : data.settings = origin) (status : GpsStatusValue) :
    KeepsSettings origin (data.locEngReportStatus status) := by
  rw [locEngReportStatus_eq]
  exact KeepsSettings.done (by exact same) _

theorem locEngNmeaSend_settings (same : data.settings = origin) (sentences : List (List UInt8)) :
    KeepsSettings origin (data.locEngNmeaSend sentences) :=
  KeepsSettings.ite (fun _ => KeepsSettings.done same _) fun _ => KeepsSettings.none _

theorem reportPosition_settings (same : data.settings = origin) (conf : LocGpsCfg)
    (nmea : NmeaGenerator) (answers : Answers) (location : GpsLocation)
    (locationExtended : GpsLocationExtended) (locationExt : Pointer) (status : LocSessStatus)
    (technologyMask : BitVec 32) :
    KeepsSettings origin (data.reportPosition conf nmea answers location locationExtended
      locationExt status technologyMask) := by
  apply KeepsSettings.ite (fun _ => KeepsSettings.done same _)
  intro _
  refine KeepsSettings.andThen (KeepsSettings.andThen (KeepsSettings.done same _)
    fun after same => (?_ : KeepsSettings origin _)) fun after same => ?_
  · exact KeepsSettings.ite (fun _ => KeepsSettings.done (by exact same) _) fun _ =>
      KeepsSettings.done same _
  · exact KeepsSettings.ite (fun _ => locEngNmeaSend_settings (by exact same) _) fun _ =>
      KeepsSettings.done same _

theorem reportSv_settings (same : data.settings = origin) (nmea : NmeaGenerator)
    (svStatus : GpsSvStatus) (locationExtended : GpsLocationExtended) (svExt : Pointer) :
    KeepsSettings origin (data.reportSv nmea svStatus locationExtended svExt) := by
  apply KeepsSettings.ite (fun _ => KeepsSettings.done same _)
  intro _
  apply KeepsSettings.andThen (KeepsSettings.done same _)
  intro after same
  exact KeepsSettings.ite (fun _ => locEngNmeaSend_settings (by exact same) _) fun _ =>
    KeepsSettings.done same _

theorem locEngSetServer_settings (same : data.settings = origin) (answers : Answers)
    (type : LocServerType) (hostname : List UInt8) (port : ℤ) :
    KeepsSettings origin (data.locEngSetServer answers type hostname port) := by
  unfold locEngSetServer
  split <;> exact KeepsSettings.done same _

theorem locEngAgpsReinit_settings (same : data.settings = origin) (answers : Answers) :
    KeepsSettings origin (data.locEngAgpsReinit answers) := by
  unfold locEngAgpsReinit
  refine KeepsSettings.andThen (?_ : KeepsSettings origin _) fun after same => ?_
  · split
    · exact locEngSetServer_settings same _ _ _ _
    · exact KeepsSettings.done same _
  · split
    · exact locEngSetServer_settings same _ _ _ _
    · exact KeepsSettings.done same _

theorem restartFix_settings (same : data.settings = origin) (answers : Answers) :
    KeepsSettings origin (data.restartFix answers) := by
  refine KeepsSettings.ite (fun _ => ?_) fun _ => KeepsSettings.done same _
  exact (KeepsSettings.done (by exact same) _).andThen fun after same =>
    locEngStartHandler_settings same answers

theorem locEngHandleEngineUp_settings (same : data.settings = origin) (conf : LocGpsCfg)
    (answers : Answers) : KeepsSettings origin (data.locEngHandleEngineUp conf answers) := by
  refine (KeepsSettings.done same _).andThen fun after same => ?_
  refine KeepsSettings.andThen (?_ : KeepsSettings origin _) fun after same => ?_
  · refine KeepsSettings.ite (fun _ => ?_) fun _ => KeepsSettings.done same _
    exact (callNif_settings same _ _).andThen fun _ same =>
      (callNif_settings same _ _).andThen fun _ same => locEngAgpsReinit_settings same answers
  · exact (locEngReportStatus_settings same _).andThen fun after same =>
      restartFix_settings same answers

theorem handleMsg_settings (conf : LocGpsCfg) (nmea : NmeaGenerator) (data : LocEngData)
    (answers : Answers) (msg : LocEngMsg) :
    KeepsSettings data.settings (data.handleMsg conf nmea answers msg) := by
  have same : data.settings = data.settings := rfl
  cases msg with
  | quit => exact KeepsSettings.none _
  | startFix => exact locEngStartHandler_settings same answers
  | stopFix =>
      exact KeepsSettings.ite (fun _ => KeepsSettings.done (by rfl) _) fun _ =>
        locEngStopHandler_settings same answers
  | reportPosition location locationExtended locationExt status technologyMask =>
      exact reportPosition_settings same conf nmea answers _ _ _ _ _
  | reportSv svStatus locationExtended svExt => exact reportSv_settings same nmea _ _ _
  | reportStatus status => exact locEngReportStatus_settings same status
  | requestBit ifType ipv4Addr ipv6Addr =>
      simp only [handleMsg, requestBit]
      split
      · exact callNif_settings same _ _
      · exact KeepsSettings.done same _
  | releaseBit ifType ipv4Addr ipv6Addr =>
      simp only [handleMsg, releaseBit]
      split
      · exact callNif_settings same _ _
      · exact KeepsSettings.done same _
  | requestAtl handle type => exact callNif_settings same _ _
  | releaseAtl handle =>
      refine (callNif_settings same .agnssNif _).andThen fun after same => ?_
      split
      · exact KeepsSettings.ite (fun _ => KeepsSettings.done same _) fun _ =>
          callNif_settings same _ _
      · exact KeepsSettings.done same _
  | requestWifi senderId ssid password =>
      exact KeepsSettings.ite (fun _ => callNif_settings same _ _) fun _ =>
        KeepsSettings.done same _
  | releaseWifi senderId ssid password => exact callNif_settings same _ _
  | atlOpenSuccess agpsType apn length bearerType =>
      exact (callNif_settings same _ _).andThen fun _ same =>
        (callNif_settings same _ _).andThen fun _ same => callNif_settings same _ _
  | atlClosed agpsType => exact callNif_settings same _ _
  | atlOpenFailed agpsType => exact callNif_settings same _ _
  | engineDown =>
      exact (KeepsSettings.done (by rfl) _).andThen fun after same =>
        locEngReportStatus_settings same _
  | engineUp => exact locEngHandleEngineUp_settings same conf answers
  | _ => exact KeepsSettings.done (by rfl) _

/-- **No message changes the settings.** -/
theorem handle_settings (conf : LocGpsCfg) (nmea : NmeaGenerator) (data : LocEngData)
    (answers : Answers) (msg : LocEngMsg) :
    KeepsSettings data.settings (data.handle conf nmea answers msg) := by
  refine KeepsSettings.ite (fun _ => ?_) fun _ => KeepsSettings.none _
  refine (handleMsg_settings conf nmea data answers msg).andThen fun after same => ?_
  rw [afterMsg_eq]
  exact KeepsSettings.done (by exact same) _

end LocEngData

end Handlers

end Msm8660.Gps
