import TopicReplay.Broker.Basic
import TopicReplay.Broker.Property

/-!
# Brokers out of reach

Where no broker can be reached, a client can be made of properties that are in
order, and everything that it asks fails. No stream over messages ever comes to be.
-/

namespace TopicReplay.Broker

/-- A client none of whose brokers can be reached. -/
structure Unreachable where
  deriving DecidableEq, Repr

namespace Unreachable

/-- The error of every question. -/
def fault : Error :=
  .communication
    "Meta data fetch error: BrokerTransportFailure (Local: Broker transport failure)"

/-- A client with some properties, unless one of them cannot be set. -/
def connect (properties : OrderedMap String String) : Except Error Unreachable :=
  (Property.check properties).map fun _ => {}

instance : Client Unreachable Empty where
  partitions _ _ := .error fault
  lookup _ _ _ := .refusal fault
  attach _ _ _ := .error fault
  poll client stream := (.ended, stream, client)
  release client _ := client
  create _ _ _ := .error fault

end Unreachable

end TopicReplay.Broker
