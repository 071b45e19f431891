import AlertLine.Json.Decode
import AlertLine.Text.LetterCase

/-!
# Delivery states

Where a message or a call stands, and how the words of the provider are read. The reading of
message statuses is total: a word that is not known counts as sent, so that a new one never loses
an update. The reading of call statuses is partial, and a call that has ended always has a state.
-/

namespace AlertLine

/-- Where one outbound message or call stands. -/
inductive DeliveryState where
  /-- Handed to the provider. -/
  | sending
  /-- Passed on by the provider. -/
  | sent
  /-- Arrived. -/
  | delivered
  /-- Did not arrive, but may the next time. -/
  | failedTransient
  /-- Did not arrive and will not. -/
  | failedPermanent
  deriving DecidableEq, Repr

namespace DeliveryState

/-- Every state, in the order of a delivery. -/
def all : List DeliveryState :=
  [.sending, .sent, .delivered, .failedTransient, .failedPermanent]

/-- The name of a state in documents, subjects and labels. -/
def name : DeliveryState → String
  | .sending => "sending"
  | .sent => "sent"
  | .delivered => "delivered"
  | .failedTransient => "failed_transient"
  | .failedPermanent => "failed_permanent"

instance : Wire DeliveryState where
  encode s := .ofString s.name
  decode room v := Json.choice? (all.map fun s => (s.name, s)) room v

/-- The state of a message whose status the provider words as given. -/
def ofMessageStatus (status : String) : DeliveryState :=
  match Text.keyword status with
  | "queued" | "sending" => .sending
  | "sent" => .sent
  | "delivered" => .delivered
  | "failed" | "undelivered" | "delivery_failed" | "sending_failed" => .failedPermanent
  | _ => .sent

/-- The state of a call whose status the provider words as given, if the word has one. -/
def ofCallStatus? (status : String) : Option DeliveryState :=
  match Text.keyword status with
  | "queued" | "initiated" | "ringing" => some .sending
  | "in-progress" | "answered" => some .sent
  | "completed" => some .delivered
  | "busy" | "no-answer" => some .failedTransient
  | "failed" | "canceled" => some .failedPermanent
  | _ => none

end DeliveryState

/-- Whether a call with this status is over, so that nothing more will be spoken. -/
def callHasEnded (status : String) : Bool :=
  match Text.keyword status with
  | "completed" | "busy" | "no-answer" | "failed" | "canceled" => true
  | _ => false

/-- A call that is over has a delivery state. -/
theorem DeliveryState.isSome_ofCallStatus? {status : String} (h : callHasEnded status = true) :
    (DeliveryState.ofCallStatus? status).isSome := by
  unfold callHasEnded at h
  unfold DeliveryState.ofCallStatus?
  split at h <;> simp_all

end AlertLine
