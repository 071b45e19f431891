import AlertLine.Action
import AlertLine.Notification
import AlertLine.Settings.Basic
import AlertLine.Voice.Markup

/-!
# Call menus

What a caller is told at each point of a call, and which keys do what. A menu plays while keys are
taken; when nothing is pressed the caller hears a goodbye. Every other text ends the call.
-/

namespace AlertLine

/-- What a caller should hear next. -/
inductive CallMenu where
  /-- An alert, and the keys to act on it. -/
  | alert (a : Alert)
  /-- An alert whose text could not be had; the keys are offered if its number is known. -/
  | alertUnavailable (alertId : Option Int64)
  /-- That an action was taken. -/
  | confirmation (kind : ActionKind)
  /-- A code. -/
  | verification (code : String)
  /-- A test. -/
  | test
  /-- That there is something. -/
  | generic
  /-- That an action could not be taken. -/
  | actionFailed
  /-- Nothing more. -/
  | hangup
  deriving DecidableEq, Repr

namespace CallMenu

/-- How long a menu waits for a key, in seconds. -/
def keyTimeoutSeconds : UInt8 := 10

/-- What is said when nothing more is known. -/
def genericText : String := "This is a notification from your alerting system."

/-- What is said of an alert whose text could not be had. -/
def fallbackText : String :=
  "You have a critical alert. Details could not be loaded. Please check your dashboard."

/-- What is said as a test. -/
def testText : String :=
  "This is a test message from your alerting system. " ++
    "If you are hearing this, your voice configuration is correct."

/-- What is said when an action could not be taken. -/
def apologyText : String := "Sorry, your request could not be processed. Please try again later."

/-- What is said when an action was taken. -/
def confirmationText : ActionKind → String
  | .acknowledge => "Acknowledged. Goodbye."
  | .close => "Closed. Goodbye."
  | .unsubscribe => "Unsubscribed. You will no longer receive calls at this number. Goodbye."
  | .resubscribe => "Resubscribed. Goodbye."

/-- What is said of an alert. -/
def alertText (a : Alert) : String :=
  let details := Text.trim a.details
  let opening := "Alert " ++ Decimal.ofInt64 a.id ++ ": " ++ Text.trim a.summary ++ "."
  if details.isEmpty then opening else opening ++ " " ++ details

/-- What is said of the keys. -/
def instructions (keys : MenuKeys) : String :=
  "Press " ++ keys.acknowledge ++ " to acknowledge, " ++ keys.close ++ " to close, or " ++
    keys.unsubscribe ++ " to stop all calls to this number. " ++
    "Press any other key to repeat this message."

/-- What is said of a code. -/
def codeText (code : String) : String :=
  "Your verification code is: " ++ code ++ ". Repeat: " ++ code ++ "."

/-- A text, after which the call ends. -/
def sayAndHangup (text : String) : Prompt := ⟨[.say text, .hangup]⟩

/-- Instructions that play while one key is taken; after them a goodbye ends the call. -/
def takingKey (children : List Verb) : Prompt :=
  ⟨[.gather 1 keyTimeoutSeconds children, .say "Goodbye.", .hangup]⟩

/-- A text with the menu of an alert. -/
def withKeys (keys : MenuKeys) (text : String) : Prompt :=
  takingKey [.say text, .pause 1, .say (instructions keys)]

/-- The instructions of a menu. -/
def prompt (keys : MenuKeys) : CallMenu → Prompt
  | .alert a => withKeys keys (alertText a)
  | .alertUnavailable (some _) => withKeys keys fallbackText
  | .alertUnavailable none => sayAndHangup fallbackText
  | .confirmation kind => sayAndHangup (confirmationText kind)
  | .verification code =>
    takingKey [.say (codeText code), .say "Press any key to hear the code again."]
  | .test => sayAndHangup testText
  | .generic => sayAndHangup genericText
  | .actionFailed => sayAndHangup apologyText
  | .hangup => ⟨[.hangup]⟩

/-- The document of a menu. -/
def render (s : Settings) (menu : CallMenu) : String :=
  (menu.prompt s.keys).render ⟨s.voiceName, s.voiceLanguage⟩

end CallMenu

/-- The action that pressed keys stand for; blanks around them do not count. -/
def MenuKeys.action? (keys : MenuKeys) (pressed : String) : Option ActionKind :=
  let pressed := Text.trim pressed
  if pressed = keys.acknowledge then some .acknowledge
  else if pressed = keys.close then some .close
  else if pressed = keys.unsubscribe then some .unsubscribe
  else none

end AlertLine
