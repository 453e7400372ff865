import Mathlib.Data.Rat.Floor

/-!
# Enumerations and plain records of the tracing API

The types of `skywalking/__init__.py`, `trace/__init__.py` and `trace/tags.py`, the settings of
`config.py` that the trace code reads, and the exceptions it can raise.
-/

namespace SkyWalking

inductive Component where
  | Unknown | General | Flask | Requests | PyMysql | Django | Tornado | Redis | MongoDB | PostgreSQL
  | KafkaProducer | KafkaConsumer | RabbitmqProducer | RabbitmqConsumer | PulsarProducer
  | PulsarConsumer | Elasticsearch | HBase | Neo4j | Urllib3 | Sanic | AioHttp | Pyramid | Psycopg
  | Celery | Falcon | MysqlClient | FastAPI | Bottle | AsyncPG | AIORedis | Websockets | HTTPX | Grpc
  deriving DecidableEq, Repr

def Component.value : Component → Nat
  | .Unknown => 0
  | .General => 7000
  | .Flask => 7001
  | .Requests => 7002
  | .PyMysql => 7003
  | .Django => 7004
  | .Tornado => 7005
  | .Redis => 7
  | .MongoDB => 9
  | .PostgreSQL => 22
  | .KafkaProducer => 40
  | .KafkaConsumer => 41
  | .RabbitmqProducer => 52
  | .RabbitmqConsumer => 53
  | .PulsarProducer => 73
  | .PulsarConsumer => 74
  | .Elasticsearch => 47
  | .HBase => 94
  | .Neo4j => 112
  | .Urllib3 => 7006
  | .Sanic => 7007
  | .AioHttp => 7008
  | .Pyramid => 7009
  | .Psycopg => 7010
  | .Celery => 7011
  | .Falcon => 7012
  | .MysqlClient => 7013
  | .FastAPI => 7014
  | .Bottle => 7015
  | .AsyncPG => 7016
  | .AIORedis => 7017
  | .Websockets => 7018
  | .HTTPX => 7019
  | .Grpc => 23

inductive Layer where
  | Unknown | Database | RPCFramework | Http | MQ | Cache
  deriving DecidableEq, Repr

def Layer.name : Layer → String
  | .Unknown => "Unknown"
  | .Database => "Database"
  | .RPCFramework => "RPCFramework"
  | .Http => "Http"
  | .MQ => "MQ"
  | .Cache => "Cache"

inductive Kind where
  | Local | Entry | Exit
  deriving DecidableEq, Repr

def Kind.name : Kind → String
  | .Local => "Local"
  | .Entry => "Entry"
  | .Exit => "Exit"

structure LogItem where
  key : String
  val : String
  deriving DecidableEq, Repr

structure Log where
  timestamp : ℚ
  items : List LogItem
  deriving DecidableEq, Repr

structure Tag where
  key : String
  val : String
  overridable : Bool
  deriving DecidableEq, Repr

/-- A value of the `tags` dictionary: the last overridable tag, or the list of the others. -/
inductive TagEntry where
  | one (tag : Tag)
  | many (tags : List Tag)
  deriving DecidableEq, Repr

/-- `ID` and its two subclasses; `relate` looks at the class. -/
inductive IDClass where
  | ID | NewID | NewNoopID
  deriving DecidableEq, Repr

structure ID where
  cls : IDClass
  value : String
  deriving DecidableEq, Repr

/-- The exceptions that reach the caller of the modelled functions. -/
inductive PyError where
  | typeError
  | valueError
  | attributeError
  | binasciiError (error : String)
  | unicodeDecodeError
  | illegalStateError
  deriving DecidableEq, Repr

/-- The settings of `config.py` that the trace code reads, the moment the package was imported, and
the identifiers that `uuid.uuid1` hands out one after the other with the dashes removed. -/
structure Env where
  agentName : String
  agentInstanceName : String
  correlationElementMaxNumber : Int
  correlationValueMaxLength : Int
  importTime : ℚ
  uuid1 : Nat → String
  uuid1_ne_empty : ∀ n, uuid1 n ≠ ""
  uuid1_injective : Function.Injective uuid1

/-- An agent with the default limits, whose identifiers grow by a letter at a time. -/
def Env.sample : Env :=
  { agentName := "Python Service Name"
    agentInstanceName := "instance"
    correlationElementMaxNumber := 3
    correlationValueMaxLength := 128
    importTime := 0
    uuid1 := fun n => String.ofList (List.replicate (n + 1) 'a')
    uuid1_ne_empty := by
      intro n hempty
      have hlength := congrArg String.length hempty
      simp at hlength
    uuid1_injective := by
      intro n m heq
      have hlength := congrArg String.length heq
      simpa using hlength }

/-- `int(seconds * 1000)`: the fraction is cut off towards zero. -/
def millis (seconds : ℚ) : Int :=
  if 0 ≤ seconds then ⌊seconds * 1000⌋ else ⌈seconds * 1000⌉

/-- A dictionary of correlation entries, in insertion order. -/
abbrev Correlation := List (String × String)

/-- `dict[key] = value`: an existing key keeps its place. -/
def Correlation.insert (dict : Correlation) (key value : String) : Correlation :=
  if key ∈ dict.map Prod.fst then
    dict.map fun entry => if entry.1 = key then (key, value) else entry
  else dict ++ [(key, value)]

/-- `dict.pop(key, None)` with the result dropped. -/
def Correlation.remove (dict : Correlation) (key : String) : Correlation :=
  dict.filter fun entry => entry.1 ≠ key

/-- `dict.update(other)`. -/
def Correlation.update (dict other : Correlation) : Correlation :=
  other.foldl (fun dict entry => dict.insert entry.1 entry.2) dict

end SkyWalking
