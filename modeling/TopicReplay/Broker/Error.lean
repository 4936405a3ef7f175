import TopicReplay.Text.Integer

/-!
# Broker errors

What can go wrong between a client and the brokers. Two of the causes are worth a
second try, and two say that the place asked for does not exist. A fault that the
client library reports becomes one of these causes by the operation that failed
and the code it reports.
-/

namespace TopicReplay.Broker

/-- What can go wrong when brokers are asked. -/
inductive Error where
  | topicNotFound (topic : String)
  | partitionNotFound (topic : String) (partition : Int)
  | communication (message : String)
  | configuration (message : String)
  | timeout (operation : String) (millis : Nat)
  | client (message : String) (code : Option String)
  deriving DecidableEq, Repr, Inhabited

namespace Error

/-- The text of an error. -/
def message : Error → String
  | .topicNotFound topic => "topic '" ++ topic ++ "' does not exist"
  | .partitionNotFound topic partition =>
      "partition " ++ Text.integerString partition ++ " of topic '" ++ topic ++ "' does not exist"
  | .communication message => "broker communication error: " ++ message
  | .configuration message => "invalid broker client configuration: " ++ message
  | .timeout operation millis =>
      "operation timed out after " ++ Text.decimalString millis ++ "ms: " ++ operation
  | .client message _ => "broker client error: " ++ message

/-- Whether a second try may succeed. -/
def isRetryable : Error → Bool
  | .communication _ | .timeout _ _ => true
  | _ => false

/-- Whether the topic or the partition does not exist. -/
def isNotFound : Error → Bool
  | .topicNotFound _ | .partitionNotFound _ _ => true
  | _ => false

end Error

/-- A fault that the client library reports: the operation that failed, the code
it holds and its text. -/
structure ClientFault where
  operation : String
  code : String
  message : String
  deriving DecidableEq, Repr

namespace ClientFault

/-- The operations of creating a client. -/
def setup : List String := ["ClientConfig", "ClientCreation"]

/-- The operations whose faults report no code. -/
def codeless : List String :=
  ["AdminOp", "AdminOpCreation", "Canceled", "ClientConfig", "ClientCreation", "NoMessageReceived",
    "PartitionEOF", "PauseResume", "Seek", "Subscription"]

/-- The codes of a request that took too long. -/
def timeouts : List String := ["OperationTimedOut", "RequestTimedOut"]

/-- The codes of a connection that is lost or leads to the wrong broker. -/
def connectionLosses : List String :=
  ["BrokerTransportFailure", "AllBrokersDown", "NetworkException", "LeaderNotAvailable",
    "NotLeaderForPartition"]

/-- The code that a fault reports. -/
def code? (fault : ClientFault) : Option String :=
  if fault.operation ∈ codeless then none else some fault.code

/-- The error that a fault amounts to. -/
def toError (fault : ClientFault) : Error :=
  if fault.operation ∈ setup then .configuration fault.message
  else
    match fault.code? with
    | some code =>
        if code ∈ timeouts then .timeout fault.message 0
        else if code ∈ connectionLosses then .communication fault.message
        else .client fault.message (some code)
    | none => .client fault.message none

end ClientFault

end TopicReplay.Broker
