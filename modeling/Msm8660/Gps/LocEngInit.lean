import Msm8660.Lib.CString
import Msm8660.Gps.LocEngSettings

/-!
# Starting an instance

`loc_eng_init` and `loc_eng_set_server_proxy`, and an instance with all that
happens to it: the framework calls `loc_eng_init`, `loc_eng_agps_init` and
`loc_eng_set_server_proxy` in any order, and the thread handles messages in
between. The data is a static variable, all zero at first; `loc_eng_init` clears
it once more.
-/

set_option autoImplicit false

namespace Msm8660.Gps

/-- `LOC_API_ADAPTER_BIT_NMEA_1HZ_REPORT`. -/
def locApiAdapterBitNmea1hzReport : BitVec 32 := 0x4#32

/-- `sizeof(supl_host_buf)`, and that of `c2k_host_buf`. -/
def hostBufSize : ℕ := 101

/-- What `loc_eng_init` is given and what it finds. -/
structure InitCall where
  callbacks : Option LocCallbacks
  event : BitVec 32
  /-- `gps_conf.INTERMEDIATE_POS` -/
  intermediatePos : ℕ
  /-- `gps_conf.NMEA_PROVIDER == NMEA_PROVIDER_AP` -/
  nmeaProviderAp : Bool
  /-- `getLocApiAdapter` returns a client -/
  client : Bool
  /-- what `reinit` answers, by the number of tries left -/
  reinits : ℕ → Answers

namespace LocEngData

/-- The data before the first call. -/
def static : LocEngData :=
  { Gps.locEngInit ⟨false, false, false, false, false⟩ 0 false with context := false }

/-- "Call reinit to send initialization messages", until it succeeds. -/
def reinitUntil (conf : LocGpsCfg) (data : LocEngData) (reinits : ℕ → Answers) : ℕ → Handling
  | 0 => data.done []
  | tries + 1 =>
      (data.locEngReinit conf (reinits (tries + 1))).andThen fun data =>
        if (reinits (tries + 1)).reinit = .success then data.done []
        else data.reinitUntil conf reinits tries

/-- `loc_eng_init`. -/
def locEngInit (conf : LocGpsCfg) (data : LocEngData) (call : InitCall) : Handling :=
  match call.callbacks with
  | none => data.done []
  | some callbacks =>
      if call.event = 0 then data.done []
      else if data.context then data.done []
      else
        let data := Gps.locEngInit callbacks call.intermediatePos
          (call.event &&& locApiAdapterBitNmea1hzReport != 0 && call.nmeaProviderAp)
        if call.client then data.reinitUntil conf call.reinits 30
        else { data with context := false }.done []

/-- `loc_eng_set_server_proxy`. -/
def locEngSetServerProxy (data : LocEngData) (answers : Answers) (type : LocServerType)
    (hostname : List UInt8) (port : ℤ) : Handling :=
  if data.context then data.locEngSetServer answers type hostname port
  else match type with
    | .locAgpsSuplServer =>
        { data with suplHost := some ⟨strlcpy hostname hostBufSize, port⟩ }.done []
    | .locAgpsCdmaPdeServer =>
        { data with c2kHost := some ⟨strlcpy hostname hostBufSize, port⟩ }.done []
    | _ => data.done []

end LocEngData

/-- What happens to an instance next. -/
inductive InstanceInput where
  | init (call : InitCall)
  | agpsInit (statusCb : Bool) (answers : Answers)
  | setServerProxy (type : LocServerType) (hostname : List UInt8) (port : ℤ) (answers : Answers)
  | thread (input : ThreadInput)

/-- An instance. Its state is missing once the thread is over. -/
def locEngInstance (conf : LocGpsCfg) (nmea : NmeaGenerator) :
    Machine (Option LocEngData) InstanceInput Call where
  step state input := match state, input with
    | none, _ => (none, [])
    | some data, .init call => data.locEngInit conf call
    | some data, .agpsInit statusCb answers => data.locEngAgpsInit answers statusCb
    | some data, .setServerProxy type hostname port answers =>
        data.locEngSetServerProxy answers type hostname port
    | some data, .thread input => (locEngThread conf nmea).step (some data) input

section Calls

variable {conf : LocGpsCfg} {nmea : NmeaGenerator} {data : LocEngData}

/-- The arguments with which `loc_eng_init` succeeds: a client is there, and one
of the tries to open it does. -/
structure InitCall.Succeeds (call : InitCall) : Prop where
  callbacks : call.callbacks.isSome = true
  event : call.event ≠ 0
  client : call.client = true
  reinit : ∃ tries, 0 < tries ∧ tries ≤ 30 ∧ (call.reinits tries).reinit = .success

namespace LocEngData

theorem reinitUntil_data (conf : LocGpsCfg) (data : LocEngData) (reinits : ℕ → Answers)
    (tries : ℕ) : (data.reinitUntil conf reinits tries).1 = some data := by
  induction tries with
  | zero => rfl
  | succ tries ih =>
      rw [reinitUntil, locEngReinit, done, Outcome.andThen_some]
      split
      · rfl
      · exact ih

/-- The first `loc_eng_init` that succeeds leaves the data of a fresh instance,
whatever it held before. -/
theorem locEngInit_data (idle : data.context = false) {call : InitCall}
    (succeeds : call.Succeeds) :
    ∃ callbacks generateNmea, (data.locEngInit conf call).1 =
      some (Gps.locEngInit callbacks call.intermediatePos generateNmea) := by
  obtain ⟨callbacks, given⟩ := Option.isSome_iff_exists.mp succeeds.callbacks
  refine ⟨callbacks, call.event &&& locApiAdapterBitNmea1hzReport != 0 && call.nmeaProviderAp, ?_⟩
  simp only [locEngInit, given, if_neg succeeds.event, idle, Bool.false_eq_true, if_false,
    succeeds.client, if_true]
  exact reinitUntil_data conf _ _ 30

end LocEngData

end Calls

end Msm8660.Gps
