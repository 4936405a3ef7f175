import TopicReplay.Broker.Error
import TopicReplay.OrderedMap
import TopicReplay.Text.Blank

/-!
# Client properties

A client takes properties with a name and a text. A property that it does not know,
or whose text is not of the form that the property has, keeps the client from being
made.
-/

namespace TopicReplay.Broker

/-- What the text of a property must look like. -/
inductive PropertyForm where
  | text
  | bool
  /-- A whole number within bounds. -/
  | int (least greatest : Int)
  /-- One of some words, in any case. -/
  | word (words : List String)
  /-- Some of some words with commas between them, each with a sign or without. -/
  | words (words : List String)
  deriving DecidableEq, Repr

namespace Property

/-- The greatest integer of 32 bits. -/
def most : Int := Text.maxInt32

/-- The properties whose text may be anything. -/
def texts : List String :=
  ["bootstrap.servers", "broker.version.fallback", "client.id", "client.rack",
    "group.id", "group.instance.id", "group.protocol.type", "metadata.broker.list",
    "offset.store.path", "partition.assignment.strategy", "partitioner", "plugin.library.paths",
    "sasl.kerberos.keytab", "sasl.kerberos.kinit.cmd", "sasl.kerberos.principal",
    "sasl.kerberos.service.name", "sasl.mechanism", "sasl.mechanisms",
    "sasl.oauthbearer.client.id", "sasl.oauthbearer.client.secret", "sasl.oauthbearer.config",
    "sasl.oauthbearer.extensions", "sasl.oauthbearer.scope",
    "sasl.oauthbearer.token.endpoint.url", "sasl.password", "sasl.username",
    "ssl.ca.certificate.stores", "ssl.ca.location", "ssl.ca.pem", "ssl.certificate.location",
    "ssl.certificate.pem", "ssl.cipher.suites", "ssl.crl.location", "ssl.curves.list",
    "ssl.engine.id", "ssl.engine.location", "ssl.key.location", "ssl.key.password",
    "ssl.key.pem", "ssl.keystore.location", "ssl.keystore.password", "ssl.providers",
    "ssl.sigalgs.list", "topic.blacklist", "transactional.id"]

/-- The properties that are on or off. -/
def bools : List String :=
  ["allow.auto.create.topics", "api.version.request", "auto.commit.enable", "check.crcs",
    "delivery.report.only.error", "enable.auto.commit", "enable.auto.offset.store",
    "enable.gapless.guarantee", "enable.idempotence", "enable.partition.eof",
    "enable.random.seed", "enable.sasl.oauthbearer.unsecure.jwt",
    "enable.ssl.certificate.verification", "log.connection.close", "log.queue",
    "log.thread.name", "produce.offset.report", "socket.keepalive.enable",
    "socket.nagle.disable", "topic.metadata.refresh.sparse"]

/-- The properties that are whole numbers, with their bounds. -/
def ints : List (String × Int × Int) :=
  [("acks", -1, 1000),
    ("api.version.fallback.ms", 0, 604800000),
    ("api.version.request.timeout.ms", 1, 300000),
    ("auto.commit.interval.ms", 0, 86400000),
    ("batch.num.messages", 1, 1000000),
    ("batch.size", 1, most),
    ("broker.address.ttl", 0, 86400000),
    ("compression.level", -1, 12),
    ("connections.max.idle.ms", 0, most),
    ("consume.callback.max.messages", 0, 1000000),
    ("coordinator.query.interval.ms", 1, 3600000),
    ("delivery.timeout.ms", 0, most),
    ("enabled_events", 0, most),
    ("fetch.error.backoff.ms", 0, 300000),
    ("fetch.max.bytes", 0, 2147483135),
    ("fetch.message.max.bytes", 1, 1000000000),
    ("fetch.min.bytes", 1, 100000000),
    ("fetch.queue.backoff.ms", 0, 300000),
    ("fetch.wait.max.ms", 0, 300000),
    ("heartbeat.interval.ms", 1, 3600000),
    ("internal.termination.signal", 0, 128),
    ("linger.ms", 0, 900000),
    ("log_level", 0, 7),
    ("max.in.flight", 1, 1000000),
    ("max.in.flight.requests.per.connection", 1, 1000000),
    ("max.partition.fetch.bytes", 1, 1000000000),
    ("max.poll.interval.ms", 1, 86400000),
    ("message.copy.max.bytes", 0, 1000000000),
    ("message.max.bytes", 1000, 1000000000),
    ("message.send.max.retries", 0, most),
    ("message.timeout.ms", 0, most),
    ("metadata.max.age.ms", 1, 86400000),
    ("offset.store.sync.interval.ms", -1, 86400000),
    ("queue.buffering.backpressure.threshold", 1, 1000000),
    ("queue.buffering.max.kbytes", 1, most),
    ("queue.buffering.max.messages", 0, most),
    ("queue.buffering.max.ms", 0, 900000),
    ("queued.max.messages.kbytes", 1, 2097151),
    ("queued.min.messages", 1, 10000000),
    ("receive.message.max.bytes", 1000, most),
    ("reconnect.backoff.jitter.ms", 0, 3600000),
    ("reconnect.backoff.max.ms", 0, 3600000),
    ("reconnect.backoff.ms", 0, 3600000),
    ("request.required.acks", -1, 1000),
    ("request.timeout.ms", 1, 900000),
    ("retries", 0, most),
    ("retry.backoff.ms", 1, 300000),
    ("sasl.kerberos.min.time.before.relogin", 0, 86400000),
    ("session.timeout.ms", 1, 3600000),
    ("socket.blocking.max.ms", 1, 60000),
    ("socket.connection.setup.timeout.ms", 1000, most),
    ("socket.max.fails", 0, 1000000),
    ("socket.receive.buffer.bytes", 0, 100000000),
    ("socket.send.buffer.bytes", 0, 100000000),
    ("socket.timeout.ms", 10, 300000),
    ("statistics.interval.ms", 0, 86400000),
    ("sticky.partitioning.linger.ms", 0, 900000),
    ("topic.metadata.propagation.max.ms", 0, 3600000),
    ("topic.metadata.refresh.fast.cnt", 0, 1000),
    ("topic.metadata.refresh.fast.interval.ms", 1, 60000),
    ("topic.metadata.refresh.interval.ms", -1, 3600000),
    ("transaction.timeout.ms", 1000, most)]

/-- The ways to compress messages. -/
def codecs : List String := ["none", "gzip", "snappy", "lz4", "zstd"]

/-- The properties that are one of some words. -/
def words : List (String × List String) :=
  [("auto.offset.reset",
      ["smallest", "earliest", "beginning", "largest", "latest", "end", "error"]),
    ("broker.address.family", ["any", "v4", "v6"]),
    ("client.dns.lookup", ["use_all_dns_ips", "resolve_canonical_bootstrap_servers_only"]),
    ("compression.codec", codecs),
    ("compression.type", codecs),
    ("isolation.level", ["read_uncommitted", "read_committed"]),
    ("offset.store.method", ["none", "file", "broker"]),
    ("queuing.strategy", ["fifo", "lifo"]),
    ("sasl.oauthbearer.method", ["default", "oidc"]),
    ("security.protocol", ["plaintext", "ssl", "sasl_plaintext", "sasl_ssl"]),
    ("ssl.endpoint.identification.algorithm", ["none", "https"])]

/-- What can be logged for finding faults. -/
def debugContexts : List String :=
  ["generic", "broker", "topic", "metadata", "feature", "queue", "msg", "protocol", "cgrp",
    "security", "fetch", "interceptor", "plugin", "consumer", "admin", "eos", "mock", "assignor",
    "conf", "all"]

/-- The form of a property, if it is known. -/
def form? (name : String) : Option PropertyForm :=
  if name ∈ texts then some .text
  else if name ∈ bools then some .bool
  else if name = "debug" then some (.words debugContexts)
  else
    match ints.lookup name, words.lookup name with
    | some (least, greatest), _ => some (.int least greatest)
    | none, some words => some (.word words)
    | none, none => none

/-- A word in lower case. -/
def lower (s : String) : List Char := s.toList.map Char.toLower

/-- Whether a text is one of some words, in any case. -/
def isWord (words : List String) (text : String) : Bool :=
  words.any fun word => lower word == lower text

/-- The words of a text with commas between them, without their signs. -/
def split (text : String) : List String :=
  ((text.splitOn ",").map fun word =>
    match (Text.trim word.toList) with
    | '+' :: rest => String.ofList rest
    | '-' :: rest => String.ofList rest
    | cs => String.ofList cs).filter (!·.isEmpty)

/-- The whole number that a text begins with. -/
def leadingInt? (text : String) : Option Int :=
  match text.toList.dropWhile Text.isAsciiBlank with
  | '-' :: cs => (Text.digits? (cs.takeWhile Text.isDigit)).map fun n => -(n : Int)
  | '+' :: cs => (Text.digits? (cs.takeWhile Text.isDigit)).map Int.ofNat
  | cs => (Text.digits? (cs.takeWhile Text.isDigit)).map Int.ofNat

/-- The words that stand for a number in some of the properties. -/
def numberWords (name : String) : List String :=
  if name ∈ ["acks", "request.required.acks"] then ["all"] else []

/-- Why a text is not of a form, if it is not. -/
def fault? (name : String) (form : PropertyForm) (text : String) : Option String :=
  let quoted := "\"" ++ name ++ "\""
  let unfit (word : String) :=
    "Invalid value \"" ++ word ++ "\" for configuration property " ++ quoted
  match form with
  | .text => none
  | .bool =>
      if isWord ["true", "t", "1", "false", "f", "0"] text then none
      else some ("Expected bool value for " ++ quoted ++ ": true or false")
  | .int least greatest =>
      match leadingInt? text with
      | none =>
          if isWord (numberWords name) text then none
          else some ("Invalid value for configuration property " ++ quoted)
      | some n =>
          if least ≤ n ∧ n ≤ greatest then none
          else
            some ("Configuration property " ++ quoted ++ " value " ++ Text.integerString n ++
              " is outside allowed range " ++ Text.integerString least ++ ".." ++
              Text.integerString greatest ++ "\n")
  | .word words =>
      let word := Text.trimString text
      if word.isEmpty || isWord words word then none else some (unfit word)
  | .words words => ((split text).find? fun word => !isWord words word).map unfit

/-- Why a property cannot be set, if it cannot. -/
def refusal? (name text : String) : Option String :=
  match form? name with
  | some form => fault? name form text
  | none => some ("No such configuration property: \"" ++ name ++ "\"")

/-- The error of the first property that cannot be set, if there is one. -/
def check (properties : OrderedMap String String) : Except Error Unit :=
  match properties.toList.findSome? fun (name, text) =>
      (refusal? name text).map fun reason => reason ++ " " ++ name ++ " " ++ text with
  | some details => .error (.configuration ("Client config error: " ++ details))
  | none => .ok ()

end Property

end TopicReplay.Broker
