import Msm8660.Gps.LocEngInit

/-!
# Configured servers

`loc_eng_set_server_proxy` "buffers server settings and calls loc_eng_set_server
when the client is open", and `loc_eng_agps_reinit` sends the buffered ones after
`loc_eng_agps_init` and after every restart of the modem. Neither works: an address
that comes before `loc_eng_init` is cleared by its `memset`, and an address that
comes later is sent at once and not buffered. No started instance holds an address
(`ServersForgotten`), so that the first is never sent (`serverBeforeInit_lost`) and
the second is not sent again (`serverAfterRestart_lost`).
-/

set_option autoImplicit false

namespace Msm8660.Gps

/-- A message that tells the modem a server is queued. -/
def Call.setsServer : Call → Bool
  | .queued (.setServerUrl _) | .queued (.setServerIpv4 ..) => true
  | _ => false

/-- The server of a `LOC_ENG_MSG_SET_SERVER_URL` that is queued. -/
def Call.serverUrl : Call → Option (List UInt8)
  | .queued (.setServerUrl url) => some url
  | _ => none

/-- Once there is a context, no address is buffered. -/
def LocEngData.ServersForgotten (data : LocEngData) : Prop :=
  data.context = true → data.suplHost = none ∧ data.c2kHost = none

section Calls

variable {conf : LocGpsCfg} {nmea : NmeaGenerator} {data : LocEngData}

namespace LocEngData

theorem ServersForgotten.of_settings (forgotten : data.ServersForgotten) {after : LocEngData}
    (same : after.settings = data.settings) : after.ServersForgotten := by
  intro alive
  have context : after.context = data.context := congrArg Settings.context same
  have supl : after.suplHost = data.suplHost := congrArg Settings.suplHost same
  have c2k : after.c2kHost = data.c2kHost := congrArg Settings.c2kHost same
  rw [supl, c2k]
  exact forgotten (context.symm.trans alive)

theorem locEngInit_forgets (forgotten : data.ServersForgotten) (call : InitCall) :
    ∀ after ∈ (data.locEngInit conf call).1, after.ServersForgotten := by
  intro after reached
  unfold locEngInit at reached
  split at reached
  · cases reached
    exact forgotten
  · split at reached
    · cases reached
      exact forgotten
    · split at reached
      · cases reached
        exact forgotten
      · simp only [] at reached
        split at reached
        · rw [reinitUntil_data] at reached
          cases reached
          intro _
          exact ⟨rfl, rfl⟩
        · cases reached
          intro _
          exact ⟨rfl, rfl⟩

theorem locEngAgpsInit_forgets (forgotten : data.ServersForgotten) (statusCb : Bool)
    (answers : Answers) :
    ∀ after ∈ (data.locEngAgpsInit answers statusCb).1, after.ServersForgotten := by
  intro after reached
  unfold locEngAgpsInit at reached
  split at reached
  · cases reached
    exact forgotten
  · have kept := locEngAgpsReinit_settings (by rfl) answers after reached
    exact ServersForgotten.of_settings (by exact forgotten) kept

theorem locEngSetServerProxy_forgets (forgotten : data.ServersForgotten) (answers : Answers)
    (type : LocServerType) (hostname : List UInt8) (port : ℤ) :
    ∀ after ∈ (data.locEngSetServerProxy answers type hostname port).1,
      after.ServersForgotten := by
  intro after reached
  unfold locEngSetServerProxy at reached
  split at reached
  · exact forgotten.of_settings (locEngSetServer_settings rfl answers type hostname port after
      reached)
  · next idle =>
      split at reached <;> · cases reached
                             intro alive
                             exact absurd alive idle

end LocEngData

theorem locEngInstance_forgets {state : Option LocEngData}
    (forgotten : ∀ data ∈ state, data.ServersForgotten) (input : InstanceInput) :
    ∀ after ∈ ((locEngInstance conf nmea).step state input).1, after.ServersForgotten := by
  intro after reached
  cases state with
  | none => exact absurd reached (Option.not_mem_none after)
  | some data =>
      have forgotten := forgotten data rfl
      cases input with
      | init call => exact LocEngData.locEngInit_forgets forgotten call after reached
      | agpsInit statusCb answers =>
          exact LocEngData.locEngAgpsInit_forgets forgotten statusCb answers after reached
      | setServerProxy type hostname port answers =>
          exact LocEngData.locEngSetServerProxy_forgets forgotten answers type hostname port after
            reached
      | thread input =>
          cases input with
          | handle msg answers =>
              exact forgotten.of_settings (data.handle_settings conf nmea answers msg after reached)
          | niWrite niNotifyCb ni =>
              cases reached
              exact forgotten

/-- However an instance was started, it holds no address. -/
theorem serversForgotten_run (inputs : List InstanceInput) :
    ∀ data ∈ (locEngInstance conf nmea).run (some .static) inputs, data.ServersForgotten := by
  have start : ∀ data ∈ some LocEngData.static, data.ServersForgotten := by
    intro data same
    cases same
    intro alive
    exact absurd alive (by decide)
  exact @Machine.run_induction _ _ _ (locEngInstance conf nmea)
    (fun state => ∀ data ∈ state, data.ServersForgotten) (fun _ => True)
    (fun _ input forgotten _ => locEngInstance_forgets forgotten input) (some .static) start inputs
    fun _ _ => trivial

/-! ## What is queued -/

/-- The handler queues no server, and changes no setting. -/
def SetsNoServer (origin : Settings) (outcome : Handling) : Prop :=
  outcome.Ensures (·.settings = origin) (·.setsServer = false)

theorem SetsNoServer.done {origin : Settings} (same : data.settings = origin) {calls : List Call}
    (silent : ∀ call ∈ calls, call.setsServer = false) : SetsNoServer origin (data.done calls) :=
  Outcome.Ensures.some same silent

theorem SetsNoServer.done_nil {origin : Settings} (same : data.settings = origin) :
    SetsNoServer origin (data.done []) :=
  Outcome.Ensures.silent same

theorem SetsNoServer.andThen {origin : Settings} {first : Handling} {next : LocEngData → Handling}
    (start : SetsNoServer origin first)
    (rest : ∀ data : LocEngData, data.settings = origin → SetsNoServer origin (next data)) :
    SetsNoServer origin (first.andThen next) :=
  Outcome.Ensures.andThen start rest

namespace LocEngData

variable {origin : Settings}

/-- `loc_eng_reinit` queues configurations. -/
theorem locEngReinit_setsNoServer (same : data.settings = origin) (conf : LocGpsCfg)
    (answers : Answers) : SetsNoServer origin (data.locEngReinit conf answers) := by
  apply SetsNoServer.done same
  intro call member
  rcases List.mem_cons.mp member with rfl | queued
  · rfl
  · split at queued
    · split at queued <;> simp at queued <;> rcases queued with rfl | rfl | rfl | rfl | rfl <;> rfl
    · exact absurd queued List.not_mem_nil

theorem reinitUntil_setsNoServer (same : data.settings = origin) (conf : LocGpsCfg)
    (reinits : ℕ → Answers) (tries : ℕ) :
    SetsNoServer origin (data.reinitUntil conf reinits tries) := by
  induction tries generalizing data with
  | zero => exact SetsNoServer.done_nil same
  | succ tries ih =>
      refine (locEngReinit_setsNoServer same conf _).andThen fun after same => ?_
      split
      · exact SetsNoServer.done_nil same
      · exact ih same

theorem callNif_setsNoServer (same : data.settings = origin) (nif : Nif) (op : AgpsOp) :
    SetsNoServer origin (data.callNif nif op) := by
  refine ⟨callNif_settings same nif op, fun call member => ?_⟩
  unfold callNif at member
  split at member
  · rw [List.mem_singleton.mp member]
    rfl
  · simp only [] at member
    split at member
    · rw [List.mem_singleton.mp member]
      rfl
    · obtain ⟨effect, -, rfl⟩ := List.mem_map.mp member
      rfl

/-- With nothing buffered, nothing is sent. -/
theorem locEngAgpsReinit_setsNoServer (same : data.settings = origin)
    (supl : origin.suplHost = none) (c2k : origin.c2kHost = none) (answers : Answers) :
    SetsNoServer origin (data.locEngAgpsReinit answers) := by
  have supl : data.suplHost = none := (congrArg Settings.suplHost same).trans supl
  have c2k : data.c2kHost = none := (congrArg Settings.c2kHost same).trans c2k
  have nothing : data.locEngAgpsReinit answers = data.done [] := by
    simp [locEngAgpsReinit, supl, c2k, done]
  rw [nothing]
  exact SetsNoServer.done_nil same

theorem locEngStartHandler_setsNoServer (same : data.settings = origin) (answers : Answers) :
    SetsNoServer origin (data.locEngStartHandler answers) := by
  refine ⟨locEngStartHandler_settings same answers, fun call member => ?_⟩
  rw [locEngStartHandler_eq] at member
  split at member
  · exact absurd member List.not_mem_nil
  · rcases mem_startCalls member with rfl | rfl <;> rfl

theorem locEngReportStatus_setsNoServer (same : data.settings = origin)
    (status : GpsStatusValue) : SetsNoServer origin (data.locEngReportStatus status) := by
  rw [locEngReportStatus_eq]
  apply SetsNoServer.done (by exact same)
  intro call member
  split at member
  · rw [List.mem_singleton.mp member]
    rfl
  · exact absurd member List.not_mem_nil

theorem locEngHandleEngineUp_setsNoServer (same : data.settings = origin)
    (supl : origin.suplHost = none) (c2k : origin.c2kHost = none) (conf : LocGpsCfg)
    (answers : Answers) : SetsNoServer origin (data.locEngHandleEngineUp conf answers) := by
  refine (locEngReinit_setsNoServer same conf answers).andThen fun after same => ?_
  refine SetsNoServer.andThen (?_ : SetsNoServer origin _) fun after same => ?_
  · split
    · exact (callNif_setsNoServer same _ _).andThen fun _ same =>
        (callNif_setsNoServer same _ _).andThen fun _ same =>
          locEngAgpsReinit_setsNoServer same supl c2k answers
    · exact SetsNoServer.done_nil same
  · refine (locEngReportStatus_setsNoServer same _).andThen fun after same => ?_
    unfold restartFix
    split
    · refine SetsNoServer.andThen (SetsNoServer.done (by exact same)
        (List.forall_mem_singleton.mpr rfl)) fun after same => ?_
      exact locEngStartHandler_setsNoServer same answers
    · exact SetsNoServer.done_nil same

/-- A restart sends no server to an instance that has forgotten them. -/
theorem handle_engineUp_setsNoServer (forgotten : data.ServersForgotten) (conf : LocGpsCfg)
    (nmea : NmeaGenerator) (answers : Answers) :
    ∀ call ∈ (data.handle conf nmea answers .engineUp).2, call.setsServer = false := by
  intro call member
  unfold handle at member
  split at member
  · next alive =>
      obtain ⟨supl, c2k⟩ := forgotten alive
      rcases Outcome.emitted_of_andThen member with early | ⟨after, -, late⟩
      · exact (locEngHandleEngineUp_setsNoServer rfl supl c2k conf answers).every call early
      · rcases mem_afterMsg late with stop | ⟨rfl, -⟩
        · rcases mem_stopCalls stop with rfl | rfl <;> rfl
        · rfl
  · exact absurd member List.not_mem_nil

end LocEngData

/-- The servers in a list of calls. -/
def serverUrls (calls : List Call) : List (List UInt8) := calls.filterMap Call.serverUrl

theorem serverUrls_of_setsNoServer {calls : List Call}
    (silent : ∀ call ∈ calls, call.setsServer = false) : serverUrls calls = [] := by
  apply List.filterMap_eq_nil_iff.mpr
  intro call member
  have silent := silent call member
  cases call with
  | queued msg =>
      cases msg with
      | setServerUrl url => cases silent
      | _ => rfl
  | _ => rfl

end Calls

/-! ## A server that comes too early -/

/-- A call of `loc_eng_set_server_proxy`. -/
def InstanceInput.isSetServerProxy : InstanceInput → Bool
  | .setServerProxy .. => true
  | _ => false

section TooEarly

variable {conf : LocGpsCfg} {nmea : NmeaGenerator} {data : LocEngData}

namespace LocEngData

/-- Without a context nothing is sent. -/
theorem locEngSetServerProxy_idle (idle : data.context = false) (answers : Answers)
    (type : LocServerType) (hostname : List UInt8) (port : ℤ) :
    ∃ after : LocEngData,
      data.locEngSetServerProxy answers type hostname port = after.done [] ∧
      after.context = false := by
  unfold locEngSetServerProxy
  rw [if_neg (by simp [idle])]
  cases type with
  | locAgpsSuplServer => exact ⟨_, rfl, idle⟩
  | locAgpsCdmaPdeServer => exact ⟨_, rfl, idle⟩
  | _ => exact ⟨_, rfl, idle⟩

/-- With a context an address that fits is queued. -/
theorem locEngSetServerProxy_alive (alive : data.context = true) (answers : Answers)
    {hostname : List UInt8} {port : ℤ} (fits : (serverUrl hostname port).length < maxUrlLen) :
    data.locEngSetServerProxy answers .locAgpsSuplServer hostname port =
      data.done [.queued (.setServerUrl (serverUrl hostname port))] := by
  rw [locEngSetServerProxy, if_pos alive]
  simp only [locEngSetServer, if_pos fits]

/-- `loc_eng_init` starts with the buffers cleared, and queues no server. -/
theorem locEngInit_fresh (idle : data.context = false) {call : InitCall}
    (succeeds : call.Succeeds) :
    ∃ callbacks generateNmea,
      (data.locEngInit conf call).1 =
        some (Gps.locEngInit callbacks call.intermediatePos generateNmea) ∧
      serverUrls (data.locEngInit conf call).2 = [] := by
  obtain ⟨callbacks, given⟩ := Option.isSome_iff_exists.mp succeeds.callbacks
  obtain ⟨_, _, reached⟩ := locEngInit_data idle succeeds
  refine ⟨_, _, reached, serverUrls_of_setsNoServer ?_⟩
  simp only [locEngInit, given, if_neg succeeds.event, idle, Bool.false_eq_true, if_false,
    succeeds.client, if_true]
  exact (reinitUntil_setsNoServer rfl conf call.reinits 30).every

end LocEngData

/-- Any number of calls before `loc_eng_init` leaves the instance without a context. -/
theorem setServerProxies_idle (idle : data.context = false) {calls : List InstanceInput}
    (proxies : ∀ input ∈ calls, input.isSetServerProxy = true) :
    (locEngInstance conf nmea).outputs (some data) calls = [] ∧
      ∃ after, (locEngInstance conf nmea).run (some data) calls = some after ∧
        after.context = false := by
  induction calls generalizing data with
  | nil => exact ⟨rfl, data, rfl, idle⟩
  | cons input rest ih =>
      have proxy := proxies input (List.mem_cons_self ..)
      have rest_proxies : ∀ later ∈ rest, later.isSetServerProxy = true :=
        fun later member => proxies later (List.mem_cons_of_mem _ member)
      cases input with
      | setServerProxy type hostname port answers =>
          obtain ⟨after, same, idle⟩ :=
            LocEngData.locEngSetServerProxy_idle idle answers type hostname port
          have same : (locEngInstance conf nmea).step (some data)
              (.setServerProxy type hostname port answers) = after.done [] := same
          rw [Machine.outputs_cons, Machine.run_cons, same]
          exact ih idle rest_proxies
      | init call => cases proxy
      | agpsInit statusCb answers => cases proxy
      | thread input => cases proxy

/-- `loc_eng_init` and `loc_eng_agps_init` queue no server, and leave an instance
that accepts one. -/
theorem initAgpsInit (idle : data.context = false) {call : InitCall} (succeeds : call.Succeeds)
    (statusCb : Bool) (answers : Answers) :
    serverUrls ((locEngInstance conf nmea).outputs (some data)
        [.init call, .agpsInit statusCb answers]) = [] ∧
      ∃ after, (locEngInstance conf nmea).run (some data)
        [.init call, .agpsInit statusCb answers] = some after ∧ after.context = true := by
  obtain ⟨callbacks, generateNmea, reached, silent⟩ :=
    LocEngData.locEngInit_fresh idle succeeds
  have reached : ((locEngInstance conf nmea).step (some data) (.init call)).1 = _ := reached
  have silent : serverUrls ((locEngInstance conf nmea).step (some data) (.init call)).2 = [] :=
    silent
  rw [Machine.outputs_cons, Machine.run_cons, reached, serverUrls, List.filterMap_append]
  rw [serverUrls] at silent
  rw [silent]
  exact ⟨rfl, _, rfl, rfl⟩

end TooEarly

/-- **A server that is set before `loc_eng_init` is not used.** Take any data without a
context, whatever addresses are stored in it, any calls of `loc_eng_set_server_proxy`,
and any address that fits. Set last, after `loc_eng_init` and `loc_eng_agps_init`, it is
queued for the modem; set before them, neither it nor any other is. -/
theorem serverBeforeInit_lost (conf : LocGpsCfg) (nmea : NmeaGenerator) (data : LocEngData)
    (idle : data.context = false) (earlier : List InstanceInput)
    (proxies : ∀ input ∈ earlier, input.isSetServerProxy = true) (hostname : List UInt8)
    (port : ℤ) (fits : (serverUrl hostname port).length < maxUrlLen)
    (answers agpsAnswers : Answers) (call : InitCall) (succeeds : call.Succeeds)
    (statusCb : Bool) :
    serverUrls ((locEngInstance conf nmea).outputs (some data)
        (earlier ++ [.setServerProxy .locAgpsSuplServer hostname port answers] ++
          [.init call, .agpsInit statusCb agpsAnswers])) = [] ∧
    serverUrls ((locEngInstance conf nmea).outputs (some data)
        ([.init call, .agpsInit statusCb agpsAnswers] ++
          [.setServerProxy .locAgpsSuplServer hostname port answers])) =
      [serverUrl hostname port] := by
  constructor
  · have proxies : ∀ input ∈ earlier ++
        [.setServerProxy .locAgpsSuplServer hostname port answers],
        input.isSetServerProxy = true := by
      intro input member
      rcases List.mem_append.mp member with early | last
      · exact proxies input early
      · rw [List.mem_singleton.mp last]
        rfl
    obtain ⟨silent, before, reached, idle⟩ :=
      setServerProxies_idle idle proxies
    rw [Machine.outputs_append, silent, reached, List.nil_append]
    exact (initAgpsInit idle succeeds statusCb agpsAnswers).1
  · obtain ⟨silent, after, reached, alive⟩ :=
      initAgpsInit idle succeeds statusCb agpsAnswers
    have sent : (locEngInstance conf nmea).step (some after)
        (.setServerProxy .locAgpsSuplServer hostname port answers) = _ :=
      LocEngData.locEngSetServerProxy_alive alive answers fits
    rw [Machine.outputs_append, serverUrls, List.filterMap_append, ← serverUrls, silent, reached,
      Machine.outputs_cons, sent]
    rfl

/-- The first call of `loc_eng_init`, with the callbacks of the framework. -/
def InitCall.first : InitCall where
  callbacks := some ⟨true, true, true, true, true⟩
  event := 1
  intermediatePos := 0
  nmeaProviderAp := false
  client := true
  reinits _ := .success

theorem InitCall.first_succeeds : InitCall.first.Succeeds :=
  ⟨rfl, by decide, rfl, 1, by decide, by decide, rfl⟩

/-- The second of two addresses that come before `loc_eng_init` is lost, and so is the
first. -/
theorem serverBeforeInit_lost_second :
    LocEngData.static.context = false ∧
    (serverUrl [104] 7275).length < maxUrlLen ∧
    serverUrls ((locEngInstance locDefaultParameters .silent).outputs (some .static)
        ([.setServerProxy .locAgpsSuplServer [103] 7276 .success] ++
          [.setServerProxy .locAgpsSuplServer [104] 7275 .success] ++
          [.init .first, .agpsInit true .success])) = [] ∧
    serverUrls ((locEngInstance locDefaultParameters .silent).outputs (some .static)
        ([.init .first, .agpsInit true .success] ++
          [.setServerProxy .locAgpsSuplServer [104] 7275 .success])) = [serverUrl [104] 7275] :=
  ⟨rfl, by decide, serverBeforeInit_lost _ _ _ rfl _
    (List.forall_mem_singleton.mpr rfl) _ _ (by decide) _ _ _ InitCall.first_succeeds _⟩

/-- The two orders do not queue the same servers. -/
theorem not_serverBeforeInit :
    (serverUrl [104] 7275).length < maxUrlLen ∧
    serverUrls ((locEngInstance locDefaultParameters .silent).outputs (some .static)
        [.setServerProxy .locAgpsSuplServer [104] 7275 .success, .init .first,
          .agpsInit true .success]) ≠
      serverUrls ((locEngInstance locDefaultParameters .silent).outputs (some .static)
        [.init .first, .agpsInit true .success,
          .setServerProxy .locAgpsSuplServer [104] 7275 .success]) := by
  decide

/-- What is queued for an address sets a server, and there is a context. -/
theorem locEngSetServerProxy_accepted {data : LocEngData} {answers : Answers}
    {type : LocServerType} {hostname : List UInt8} {port : ℤ} {call : Call}
    (accepted : call ∈ (data.locEngSetServerProxy answers type hostname port).2) :
    data.context = true ∧ call.setsServer = true := by
  cases alive : data.context with
  | false =>
      obtain ⟨_, silent, -⟩ :=
        LocEngData.locEngSetServerProxy_idle alive answers type hostname port
      rw [silent] at accepted
      exact absurd accepted List.not_mem_nil
  | true =>
      unfold LocEngData.locEngSetServerProxy at accepted
      rw [if_pos alive] at accepted
      refine ⟨rfl, ?_⟩
      unfold LocEngData.locEngSetServer LocEngData.done at accepted
      split at accepted
      · split at accepted
        · rw [List.mem_singleton.mp accepted]
          rfl
        · exact absurd accepted List.not_mem_nil
      · split at accepted
        · rw [List.mem_singleton.mp accepted]
          rfl
        · exact absurd accepted List.not_mem_nil

/-- **A server that is set after `loc_eng_init` is not sent again.** Whatever happens
before and after an address is accepted, no restart of the modem queues it. -/
theorem serverAfterRestart_lost (conf : LocGpsCfg) (nmea : NmeaGenerator)
    (earlier later : List InstanceInput) (type : LocServerType) (hostname : List UInt8) (port : ℤ)
    (answers upAnswers : Answers) (msg : LocEngMsg)
    (accepted : .queued msg ∈ ((locEngInstance conf nmea).step
      ((locEngInstance conf nmea).run (some .static) earlier)
      (.setServerProxy type hostname port answers)).2) :
    ∀ data ∈ (locEngInstance conf nmea).run (some .static)
        (earlier ++ .setServerProxy type hostname port answers :: later),
      .queued msg ∉ (data.handle conf nmea upAnswers .engineUp).2 := by
  intro data reached again
  have forgotten := serversForgotten_run _ data reached
  have silent := LocEngData.handle_engineUp_setsNoServer forgotten conf nmea upAnswers _ again
  have sets : (Call.queued msg).setsServer = true := by
    cases before : (locEngInstance conf nmea).run (some .static) earlier with
    | none =>
        rw [before] at accepted
        exact absurd accepted List.not_mem_nil
    | some data =>
        rw [before] at accepted
        exact (locEngSetServerProxy_accepted accepted).2
  rw [sets] at silent
  cases silent

/-- A SUPL server is sent when it is set, and not after a restart. -/
theorem serverAfterRestart_lost_supl :
    .queued (.setServerUrl (serverUrl [104] 7275)) ∈
      ((locEngInstance locDefaultParameters .silent).step
        ((locEngInstance locDefaultParameters .silent).run (some .static)
          [.init .first, .agpsInit true .success])
        (.setServerProxy .locAgpsSuplServer [104] 7275 .success)).2 ∧
    ∀ data ∈ (locEngInstance locDefaultParameters .silent).run (some .static)
        ([.init .first, .agpsInit true .success] ++
          [.setServerProxy .locAgpsSuplServer [104] 7275 .success]),
      .queued (.setServerUrl (serverUrl [104] 7275)) ∉
        (data.handle locDefaultParameters .silent .success .engineUp).2 :=
  have accepted : .queued (.setServerUrl (serverUrl [104] 7275)) ∈
      ((locEngInstance locDefaultParameters .silent).step
        ((locEngInstance locDefaultParameters .silent).run (some .static)
          [.init .first, .agpsInit true .success])
        (.setServerProxy .locAgpsSuplServer [104] 7275 .success)).2 := by decide
  ⟨accepted, serverAfterRestart_lost _ _ _ [] _ _ _ _ _ _ accepted⟩

/-- The last SUPL server was accepted, and the restart queues none. -/
theorem not_serverAfterRestart :
    ∃ data, (locEngInstance locDefaultParameters .silent).run (some .static)
        [.init .first, .agpsInit true .success,
          .setServerProxy .locAgpsSuplServer [104] 7275 .success] = some data ∧
      serverUrls ((locEngInstance locDefaultParameters .silent).outputs (some .static)
        [.init .first, .agpsInit true .success,
          .setServerProxy .locAgpsSuplServer [104] 7275 .success]) = [serverUrl [104] 7275] ∧
      data.agpsStatusCb = true ∧
      serverUrls (data.handle locDefaultParameters .silent .success .engineUp).2 = [] :=
  ⟨_, rfl, by decide, rfl, by decide⟩

end Msm8660.Gps
