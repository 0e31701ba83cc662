/-!
# Channels

A channel hands what is published about an event to the subscribers of that
event, in the order in which they subscribed.  A subscriber may subscribe more
than once and is then called as often.

Subscribers may react to a call by using the channel themselves.  A reaction
takes effect before the next subscriber is called, but those to be called are
the ones that had subscribed when the event was published.
-/

set_option autoImplicit false

namespace LineEditor

/-- Subscriptions, each an event and a subscriber, the earliest first. -/
structure Channel where
  subscriptions : List (String × String) := []
  deriving DecidableEq

namespace Channel

/-- The subscribers of an event. -/
def subscribers (channel : Channel) (event : String) : List String :=
  (channel.subscriptions.filter (·.1 == event)).map Prod.snd

/-- Adds a subscription. -/
def subscribe (channel : Channel) (event subscriber : String) : Channel :=
  { subscriptions := channel.subscriptions ++ [(event, subscriber)] }

/-- Takes the earliest of equal subscriptions back, if there is one. -/
def unsubscribe (channel : Channel) (event subscriber : String) : Channel :=
  { subscriptions := channel.subscriptions.erase (event, subscriber) }

/-- A use of a channel. -/
inductive Use (Payload : Type) where
  | subscribe (event subscriber : String)
  | unsubscribe (event subscriber : String)
  | publish (event : String) (payload : Payload)

/-- The channel after some uses, and the calls that they led to.  Reactions that lead to reactions
in turn are followed to a given depth. -/
def perform {Payload : Type} (reactions : String → List (Use Payload)) :
    Nat → Channel → List (Use Payload) → Channel × List (String × Payload)
  | 0, channel, _ => (channel, [])
  | depth + 1, channel, uses =>
    uses.foldl
      (fun (channel, calls) use =>
        match use with
        | .subscribe event subscriber => (channel.subscribe event subscriber, calls)
        | .unsubscribe event subscriber => (channel.unsubscribe event subscriber, calls)
        | .publish event payload =>
          (channel.subscribers event).foldl
            (fun (channel, calls) subscriber =>
              let (reacted, further) := perform reactions depth channel (reactions subscriber)
              (reacted, calls ++ (subscriber, payload) :: further))
            (channel, calls))
      (channel, [])

end Channel

end LineEditor
