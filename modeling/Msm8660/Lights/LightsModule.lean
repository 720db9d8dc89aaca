import Msm8660.Lib.Fields
import Msm8660.Lib.Machine

/-!
# The lights

`lights.c` turns calls of `set_light` into texts for files of the kernel. What a file is given
depends on calls for other lights as well: the setting that keeps the button light off is read
with every call for the backlight, and whether the files for notifications are there is looked
up once, when the first light is opened. `lights_show` tells from the calls alone what the files
hold after any run.

The interval at which a notification blinks goes through a buffer of ten bytes, which is too
small for two numbers with more than eight characters (`intervalReads_iff`).
-/

set_option autoImplicit false

namespace Msm8660.Lights

/-- `EINVAL`. -/
def einval : ℤ := 22

/-- `struct light_state_t`, as far as it is read. -/
structure LightState where
  color : BitVec 32
  flashOnMS : ℤ
  flashOffMS : ℤ
deriving DecidableEq

/-- The files that are written. -/
inductive LightFile where
  /-- `LCD_FILE` -/
  | lcd
  /-- `BUTTONS_FILE` -/
  | buttons
  /-- `NOTIFICATION_BLINK_FILE` -/
  | notificationBlink
  /-- `NOTIFICATION_BLINK_RATE_FILE` -/
  | notificationBlinkRate
deriving DecidableEq, Repr

/-- The names for `open_lights`. -/
inductive LightId where
  | backlight
  | keyboard
  | buttons
  | battery
  | notifications
  | other
deriving DecidableEq, Repr

/-- What becomes of `write_str`: the text is written, or `open` or `write` fails. -/
inductive WriteAnswer where
  | written
  | failed (errno : {e : ℤ // 0 < e})
deriving DecidableEq

/-- The variables of the module, with what the files hold of it. -/
structure LightGlobals where
  /-- whether `init_globals` has run -/
  gInit : Bool
  gNotificationBlinkSupport : Bool
  gNotificationBlinkRateSupport : Bool
  gEnableTouchlight : ℤ
  files : LightFile → Option (List UInt8)

namespace LightGlobals

/-- The variables at the start. -/
def initial : LightGlobals where
  gInit := false
  gNotificationBlinkSupport := false
  gNotificationBlinkRateSupport := false
  gEnableTouchlight := -1
  files _ := none

/-- `init_globals`, with the files that `access` finds writable. -/
def initGlobals (lights : LightGlobals) (access : LightFile → Bool) : LightGlobals :=
  { lights with
    gNotificationBlinkSupport := access .notificationBlink
    gNotificationBlinkRateSupport := access .notificationBlinkRate }

/-- `write_str`. -/
def writeStr (lights : LightGlobals) (path : LightFile) (str : List UInt8) (answer : WriteAnswer) :
    ℤ × LightGlobals :=
  match answer with
  | .written => (0, { lights with files := Function.update lights.files path (some str) })
  | .failed errno => (-errno, lights)

/-- `write_int`. -/
def writeInt (lights : LightGlobals) (path : LightFile) (value : ℤ) (answer : WriteAnswer) :
    ℤ × LightGlobals :=
  lights.writeStr path (formatInt 0 value ++ [10]) answer

/-- `load_settings`, with what is in the file if it can be opened. -/
def loadSettings (lights : LightGlobals) (disableTouchlight : Option (List UInt8)) : LightGlobals :=
  { lights with gEnableTouchlight := match disableTouchlight with
    | none => 1
    | some content => if content.head? = some 49 then 0 else 1 }

end LightGlobals

/-- `(color >> shift) & 0x00ff`. -/
def channel (color : BitVec 32) (shift : ℕ) : ℕ := (color >>> shift &&& 0x00ff#32).toNat

/-- `rgb_to_brightness`. -/
def rgbToBrightness (state : LightState) : ℕ :=
  let color := state.color &&& 0x00ffffff#32
  (77 * channel color 16 + 150 * channel color 8 + 29 * channel color 0) / 256

/-- `state->color & 0x00ffffff`. -/
def LightState.lit (state : LightState) : Bool := state.color &&& 0x00ffffff#32 ≠ 0

/-- `snprintf(buffer, sizeof(buffer), "%d %d", state->flashOnMS, state->flashOffMS)`. -/
def intervalText (state : LightState) : List UInt8 :=
  (formatInt 0 state.flashOnMS ++ ascii " " ++ formatInt 0 state.flashOffMS).take (10 - 1)

/-- The answers to a call of `set_light`. -/
structure LightAnswers where
  disableTouchlight : Option (List UInt8)
  write : LightFile → WriteAnswer

namespace LightGlobals

/-- `set_light_backlight`. -/
def setLightBacklight (lights : LightGlobals) (state : LightState) (answers : LightAnswers) :
    Option ℤ × LightGlobals :=
  let lights := lights.loadSettings answers.disableTouchlight
  let (err, lights) := lights.writeInt .lcd (rgbToBrightness state) (answers.write .lcd)
  (some err, lights)

/-- `set_light_buttons`. -/
def setLightButtons (lights : LightGlobals) (state : LightState) (answers : LightAnswers) :
    Option ℤ × LightGlobals :=
  let touchLedControl := if state.lit then 1 else 2
  if lights.gEnableTouchlight = -1 ∨ 0 < lights.gEnableTouchlight then
    let (res, lights) := lights.writeInt .buttons touchLedControl (answers.write .buttons)
    (some res, lights)
  else (some 0, lights)

/-- `set_light_notifications`. Where blinking is not supported it returns a variable that has
not been written. -/
def setLightNotifications (lights : LightGlobals) (state : LightState) (answers : LightAnswers) :
    Option ℤ × LightGlobals :=
  let blnLedControl := if state.lit then 1 else 0
  if lights.gNotificationBlinkSupport then
    let lights := if lights.gNotificationBlinkRateSupport then
        (lights.writeStr .notificationBlinkRate (intervalText state)
          (answers.write .notificationBlinkRate)).2
      else lights
    let (res, lights) :=
      lights.writeInt .notificationBlink blnLedControl (answers.write .notificationBlink)
    (some res, lights)
  else (none, lights)

/-- `open_lights`. -/
def openLights (lights : LightGlobals) (name : LightId) (access : LightFile → Bool) :
    ℤ × LightGlobals :=
  if name = .other then (-einval, lights)
  else if lights.gInit then (0, lights)
  else (0, { lights.initGlobals access with gInit := true })

/-- `set_light` of an opened light. -/
def setLight (lights : LightGlobals) (light : LightId) (state : LightState)
    (answers : LightAnswers) : Option ℤ × LightGlobals :=
  match light with
  | .backlight => lights.setLightBacklight state answers
  | .buttons => lights.setLightButtons state answers
  | .notifications => lights.setLightNotifications state answers
  | .keyboard => (some 0, lights)
  | .battery => (some 0, lights)
  | .other => (some 0, lights)

end LightGlobals

/-- The calls of the framework. -/
inductive LightCall where
  | open_ (name : LightId) (access : LightFile → Bool)
  | setLight (light : LightId) (state : LightState) (answers : LightAnswers)

/-- The module, with the values that it returns. -/
def lightsModule : Machine LightGlobals LightCall (Option ℤ) where
  step lights call := match call with
    | .open_ name access =>
        let (result, lights) := lights.openLights name access
        (lights, [some result])
    | .setLight light state answers =>
        let (result, lights) := lights.setLight light state answers
        (lights, [result])

/-! ## What the calls say -/

/-- Whether the button light may be used: the last call for the backlight has not found a `1` in
the settings. The history has the last call first. -/
def touchlightOn : List LightCall → Bool
  | [] => true
  | .setLight .backlight _ answers :: _ =>
      answers.disableTouchlight.all fun content => content.head? ≠ some 49
  | _ :: earlier => touchlightOn earlier

/-- A call that opens a light. -/
def LightCall.opens : LightCall → Bool
  | .open_ name _ => name ≠ .other
  | .setLight _ _ _ => false

/-- Whether a file was writable when the first light was opened. -/
def supported (file : LightFile) : List LightCall → Bool
  | [] => false
  | .open_ name access :: earlier =>
      if name = .other ∨ earlier.any LightCall.opens then supported file earlier else access file
  | .setLight _ _ _ :: earlier => supported file earlier

/-- What a call writes to a file, by the calls before it. -/
def written (earlier : List LightCall) (file : LightFile) : LightCall → Option (List UInt8)
  | .open_ _ _ => none
  | .setLight light state answers =>
      if answers.write file ≠ .written then none
      else match light, file with
        | .backlight, .lcd => some (formatInt 0 (rgbToBrightness state) ++ [10])
        | .buttons, .buttons =>
            if touchlightOn earlier then some (ascii (if state.lit then "1" else "2") ++ [10])
            else none
        | .notifications, .notificationBlink =>
            if supported .notificationBlink earlier then
              some (ascii (if state.lit then "1" else "0") ++ [10])
            else none
        | .notifications, .notificationBlinkRate =>
            if supported .notificationBlink earlier ∧ supported .notificationBlinkRate earlier then
              some (intervalText state)
            else none
        | _, _ => none

/-- What was written last. -/
def lastWritten (file : LightFile) : List LightCall → Option (List UInt8)
  | [] => none
  | call :: earlier => (written earlier file call).or (lastWritten file earlier)

/-! ## The files follow the calls -/

/-- The variables and the files are what the history says. -/
structure Follows (lights : LightGlobals) (history : List LightCall) : Prop where
  opened : lights.gInit = history.any LightCall.opens
  blink : lights.gNotificationBlinkSupport = supported .notificationBlink history
  rate : lights.gNotificationBlinkRateSupport = supported .notificationBlinkRate history
  touchlight : lights.gEnableTouchlight = -1 ∨ 0 < lights.gEnableTouchlight ↔
    touchlightOn history = true
  files : ∀ file, lights.files file = lastWritten file history

theorem follows_initial : Follows .initial [] where
  opened := rfl
  blink := rfl
  rate := rfl
  touchlight := by decide
  files _ := rfl

section Step

variable {lights : LightGlobals} {history : List LightCall}

/-- What a write changes. -/
theorem writeStr_files (path : LightFile) (str : List UInt8) (answer : WriteAnswer)
    (file : LightFile) : (lights.writeStr path str answer).2.files file =
      if answer = .written ∧ file = path then some str else lights.files file := by
  cases answer with
  | written =>
      by_cases here : file = path
      · simp [LightGlobals.writeStr, here]
      · simp [LightGlobals.writeStr, here]
  | failed errno => simp [LightGlobals.writeStr]

/-- A write leaves the variables as they are. -/
theorem writeStr_gInit (path : LightFile) (str : List UInt8) (answer : WriteAnswer) :
    (lights.writeStr path str answer).2.gInit = lights.gInit := by cases answer <;> rfl

theorem writeStr_blink (path : LightFile) (str : List UInt8) (answer : WriteAnswer) :
    (lights.writeStr path str answer).2.gNotificationBlinkSupport =
      lights.gNotificationBlinkSupport := by cases answer <;> rfl

theorem writeStr_rate (path : LightFile) (str : List UInt8) (answer : WriteAnswer) :
    (lights.writeStr path str answer).2.gNotificationBlinkRateSupport =
      lights.gNotificationBlinkRateSupport := by cases answer <;> rfl

theorem writeStr_touchlight (path : LightFile) (str : List UInt8) (answer : WriteAnswer) :
    (lights.writeStr path str answer).2.gEnableTouchlight = lights.gEnableTouchlight := by
  cases answer <;> rfl

/-- A call of `set_light` writes what the history says. -/
theorem setLight_files (follows : Follows lights history) (light : LightId) (state : LightState)
    (answers : LightAnswers) (file : LightFile) :
    (lights.setLight light state answers).2.files file =
      (written history file (.setLight light state answers)).or (lights.files file) := by
  cases light with
  | backlight =>
      simp only [LightGlobals.setLight, LightGlobals.setLightBacklight, LightGlobals.writeInt,
        writeStr_files, written]
      by_cases done : answers.write file = .written
      · cases file <;> simp [done, LightGlobals.loadSettings]
      · cases file <;> simp [done, LightGlobals.loadSettings]
  | buttons =>
      simp only [LightGlobals.setLight, LightGlobals.setLightButtons, follows.touchlight]
      have text : formatInt 0 (if state.lit then 1 else 2) =
          ascii (if state.lit then "1" else "2") := by
        cases state.lit <;> decide
      by_cases usable : touchlightOn history = true
      · rw [if_pos usable]
        simp only [LightGlobals.writeInt, writeStr_files, written, usable, text]
        by_cases done : answers.write file = .written
        · cases file <;> simp [done]
        · cases file <;> simp [done]
      · rw [if_neg usable]
        simp only [written, usable]
        cases file <;> simp
  | notifications =>
      simp only [LightGlobals.setLight, LightGlobals.setLightNotifications, follows.blink,
        follows.rate]
      have text : formatInt 0 (if state.lit then 1 else 0) =
          ascii (if state.lit then "1" else "0") := by
        cases state.lit <;> decide
      cases blinks : supported .notificationBlink history with
      | false =>
          simp only [written, blinks]
          cases file <;> simp
      | true =>
          by_cases done : answers.write file = .written
          · cases rated : supported .notificationBlinkRate history <;> cases file <;>
              simp [LightGlobals.writeInt, writeStr_files, written, blinks, rated, text, done]
          · cases supported .notificationBlinkRate history <;> cases file <;>
              simp [LightGlobals.writeInt, writeStr_files, written, text, done]
  | keyboard => cases file <;> simp [LightGlobals.setLight, written]
  | battery => cases file <;> simp [LightGlobals.setLight, written]
  | other => cases file <;> simp [LightGlobals.setLight, written]

/-- What a call for the backlight finds in the settings. -/
theorem loadSettings_touchlight (content : Option (List UInt8)) :
    (lights.loadSettings content).gEnableTouchlight = -1 ∨
        0 < (lights.loadSettings content).gEnableTouchlight ↔
      (content.all fun content => content.head? ≠ some 49) = true := by
  cases content with
  | none => simp [LightGlobals.loadSettings]
  | some content =>
      by_cases one : content.head? = some 49 <;> simp [LightGlobals.loadSettings, one]

/-- A call for a light changes the variables at most by what it finds in the settings. -/
theorem setLight_globals (light : LightId) (state : LightState) (answers : LightAnswers) :
    (lights.setLight light state answers).2.gInit = lights.gInit ∧
      (lights.setLight light state answers).2.gNotificationBlinkSupport =
        lights.gNotificationBlinkSupport ∧
      (lights.setLight light state answers).2.gNotificationBlinkRateSupport =
        lights.gNotificationBlinkRateSupport ∧
      (lights.setLight light state answers).2.gEnableTouchlight =
        if light = .backlight then
          (lights.loadSettings answers.disableTouchlight).gEnableTouchlight
        else lights.gEnableTouchlight := by
  cases light with
  | backlight =>
      simp [LightGlobals.setLight, LightGlobals.setLightBacklight, LightGlobals.writeInt,
        LightGlobals.loadSettings, writeStr_gInit, writeStr_blink, writeStr_rate,
        writeStr_touchlight]
  | buttons =>
      simp only [LightGlobals.setLight, LightGlobals.setLightButtons, LightGlobals.writeInt]
      split
      · simp [writeStr_gInit, writeStr_blink, writeStr_rate, writeStr_touchlight]
      · simp
  | notifications =>
      simp only [LightGlobals.setLight, LightGlobals.setLightNotifications, LightGlobals.writeInt]
      cases blinks : lights.gNotificationBlinkSupport <;>
        cases rated : lights.gNotificationBlinkRateSupport <;>
          simp [writeStr_gInit, writeStr_blink, writeStr_rate, writeStr_touchlight, blinks, rated]
  | keyboard => simp [LightGlobals.setLight]
  | battery => simp [LightGlobals.setLight]
  | other => simp [LightGlobals.setLight]

/-- The settings as the history has them after a call for a light. -/
theorem touchlightOn_setLight (light : LightId) (state : LightState) (answers : LightAnswers) :
    touchlightOn (.setLight light state answers :: history) =
      if light = .backlight then
        answers.disableTouchlight.all fun content => content.head? ≠ some 49
      else touchlightOn history := by
  cases light <;> simp [touchlightOn]

/-- A call for a light keeps to the history. -/
theorem Follows.setLight (follows : Follows lights history) (light : LightId) (state : LightState)
    (answers : LightAnswers) :
    Follows (lights.setLight light state answers).2
      (.setLight light state answers :: history) := by
  obtain ⟨opened, blink, rate, touchlight⟩ := @setLight_globals lights light state answers
  constructor
  case opened => rw [opened, follows.opened]; simp [LightCall.opens]
  case blink => rw [blink, follows.blink, supported]
  case rate => rw [rate, follows.rate, supported]
  case touchlight =>
    rw [touchlight, touchlightOn_setLight]
    by_cases back : light = .backlight
    · rw [if_pos back, if_pos back]
      exact loadSettings_touchlight answers.disableTouchlight
    · rw [if_neg back, if_neg back]
      exact follows.touchlight
  case files =>
    intro file
    rw [setLight_files follows, follows.files, lastWritten]

/-- Opening a light looks at the files once. -/
theorem Follows.openLights (follows : Follows lights history) (name : LightId)
    (access : LightFile → Bool) :
    Follows (lights.openLights name access).2 (.open_ name access :: history) := by
  have touchlight : touchlightOn (.open_ name access :: history) = touchlightOn history := rfl
  have files : ∀ file, lastWritten file (.open_ name access :: history) =
      lastWritten file history := fun _ => rfl
  by_cases known : name = .other
  · have same : (lights.openLights name access).2 = lights := by
      rw [LightGlobals.openLights, if_pos known]
    rw [same]
    constructor
    case opened => rw [follows.opened]; simp [LightCall.opens, known]
    case blink => rw [follows.blink, supported, if_pos (Or.inl known)]
    case rate => rw [follows.rate, supported, if_pos (Or.inl known)]
    case touchlight => rw [touchlight]; exact follows.touchlight
    case files => exact fun file => (follows.files file).trans (files file).symm
  · by_cases before : lights.gInit = true
    · have same : (lights.openLights name access).2 = lights := by
        rw [LightGlobals.openLights, if_neg known, if_pos before]
      have earlier : history.any LightCall.opens = true := follows.opened ▸ before
      rw [same]
      constructor
      case opened => rw [before]; simp [LightCall.opens, known]
      case blink => rw [follows.blink, supported, if_pos (Or.inr earlier)]
      case rate => rw [follows.rate, supported, if_pos (Or.inr earlier)]
      case touchlight => rw [touchlight]; exact follows.touchlight
      case files => exact fun file => (follows.files file).trans (files file).symm
    · have same : (lights.openLights name access).2 =
          { lights.initGlobals access with gInit := true } := by
        rw [LightGlobals.openLights, if_neg known, if_neg before]
      have first : ¬ (name = .other ∨ history.any LightCall.opens = true) := by
        rw [← follows.opened]
        exact fun either => either.elim known before
      rw [same]
      constructor
      case opened => simp [LightCall.opens, known]
      case blink => rw [supported, if_neg first]; rfl
      case rate => rw [supported, if_neg first]; rfl
      case touchlight => rw [touchlight]; exact follows.touchlight
      case files => exact fun file => (follows.files file).trans (files file).symm

end Step

/-- **After any run a file holds what the calls say.** The button light is not touched while the
last call for the backlight has found a `1` in the settings, and a notification is written only
where its file was there when the first light was opened. -/
theorem lights_show (calls : List LightCall) (file : LightFile) :
    (lightsModule.run .initial calls).files file = lastWritten file calls.reverse := by
  have follows : Follows (lightsModule.run .initial calls) (calls.reverse ++ []) := by
    refine Machine.run_past (fun lights history call follows => ?_) follows_initial calls
    cases call with
    | open_ name access => exact follows.openLights name access
    | setLight light state answers => exact follows.setLight light state answers
  rw [List.append_nil] at follows
  exact follows.files file

/-! ## The interval -/

/-- The two numbers of an interval. -/
def readInterval (text : List UInt8) : Option (ℤ × ℤ) :=
  match text.splitOn 32 with
  | [flashOnMS, flashOffMS] => do return (← readInt flashOnMS, ← readInt flashOffMS)
  | _ => none

/-- A printed number has no space in it. -/
theorem space_notMem_formatInt (n : ℤ) : (32 : UInt8) ∉ formatInt 0 n := by
  intro member
  rcases isDigit_of_mem_formatInt member with sign | digit
  · exact absurd sign (by decide)
  · exact absurd digit (by decide)

/-- **The interval is read back exactly if its numbers have at most eight characters.** Whatever
more they have is cut off, and no cut of these texts tells the same numbers. -/
theorem intervalReads_iff (state : LightState) :
    readInterval (intervalText state) = some (state.flashOnMS, state.flashOffMS) ↔
      intWidth 0 state.flashOnMS + intWidth 0 state.flashOffMS ≤ 8 := by
  obtain ⟨color, on, off⟩ := state
  have separator : ascii " " = [32] := by decide
  have space := space_notMem_formatInt on
  rw [← length_formatInt, ← length_formatInt]
  simp only [intervalText, separator, List.append_assoc, List.singleton_append]
  rcases Nat.lt_or_ge (formatInt 0 on).length 9 with room | full
  · obtain ⟨k, sum⟩ : ∃ k, 9 - (formatInt 0 on).length = k + 1 :=
      ⟨8 - (formatInt 0 on).length, by omega⟩
    have cut : (formatInt 0 on ++ 32 :: formatInt 0 off).take (10 - 1) =
        formatInt 0 on ++ 32 :: (formatInt 0 off).take k := by
      rw [List.take_append, List.take_of_length_le (Nat.le_of_lt room), sum, List.take_succ_cons]
    have noSpace : (32 : UInt8) ∉ (formatInt 0 off).take k := fun member =>
      space_notMem_formatInt off (List.mem_of_mem_take member)
    have fields : (formatInt 0 on ++ 32 :: (formatInt 0 off).take k).splitOn 32 =
        [formatInt 0 on, (formatInt 0 off).take k] := by
      rw [List.splitOn_append_cons_self_of_not_mem space, List.splitOn_eq_singleton noSpace]
    have reads : readInterval (formatInt 0 on ++ 32 :: (formatInt 0 off).take k) = some (on, off) ↔
        readInt ((formatInt 0 off).take k) = some off := by
      rw [readInterval, fields]
      simp [Option.bind_eq_some_iff]
    rw [cut, reads]
    rcases Nat.lt_or_ge k (formatInt 0 off).length with short | fits
    · exact iff_of_false (readInt_take_formatInt short) (by omega)
    · rw [List.take_of_length_le fits, readInt_formatInt]
      exact iff_of_true rfl (by omega)
  · have noSpace : (32 : UInt8) ∉ (formatInt 0 on).take 9 := fun member =>
      space (List.mem_of_mem_take member)
    rw [List.take_append_of_le_length full, readInterval, List.splitOn_eq_singleton noSpace]
    exact iff_of_false (by simp) (by omega)

end Msm8660.Lights
