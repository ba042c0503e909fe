/-!
# Links and channels

A link is a transport between a client and a broker. The channels on it go by numbers, from one up
to the greatest one of the link. A number is free again once its channel has ended. The number
behind the last one that was given out is tried first.
-/

set_option autoImplicit false

namespace MessageBus.Amqp

/-- The number of a link. -/
abbrev LinkId := Nat

/-- The number of a channel among the channels of all links. -/
abbrev ChannelId := Nat

/-- A transport between a client and a broker. -/
structure Link where
  isAlive : Bool := true
  /-- The greatest number that a channel may have. -/
  channelMax : Nat := UInt16.size - 1
  /-- The number that is tried first for the next channel. -/
  nextNumber : Nat := 1
deriving DecidableEq, Inhabited, Repr

/-- How a channel stands. -/
inductive ChannelStage where
  | live
  /-- It has ended with an error that the client knows. -/
  | failed
  /-- It has ended, and nobody takes that for a failure. -/
  | finished
deriving DecidableEq, Inhabited, Repr

/-- A channel on a link. -/
structure Channel where
  link : LinkId
  /-- The number it goes by on its link. -/
  number : Nat
  stage : ChannelStage := .live
deriving DecidableEq, Inhabited, Repr

namespace Link

/-- The number behind another one; behind the greatest one is one. -/
def numberAfter (l : Link) (number : Nat) : Nat :=
  if l.channelMax ≤ number then 1 else number + 1

/-- The search for a number that is not taken, and the number behind the last one that was looked
at. It gives up once it has seen the number one and is not below where it began. So a search that
begins at one looks at no other number. -/
def search (l : Link) (taken : List Nat) (first : Nat) :
    (fuel : Nat) → (seenOne : Bool) → (number : Nat) → Option Nat × Nat
  | 0, _, number => (none, number)
  | fuel + 1, seenOne, number =>
    if seenOne ∧ first ≤ number then (none, l.numberAfter number)
    else if taken.contains number then
      l.search taken first fuel (seenOne || number = 1) (l.numberAfter number)
    else (some number, l.numberAfter number)

/-- A number for a new channel, if one is found, and the link after the search. -/
def takeNumber (l : Link) (taken : List Nat) : Option Nat × Link :=
  let (number, nextNumber) :=
    l.search taken l.nextNumber (2 * l.channelMax + 2) false l.nextNumber
  (number, { l with nextNumber })

end Link

end MessageBus.Amqp
