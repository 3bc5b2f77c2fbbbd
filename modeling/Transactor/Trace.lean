import Transactor.Error.Text

namespace Transactor

open Text

inductive Level where
  | error
  | warn
  | info
  | debug
  | trace
  deriving DecidableEq

namespace Level

def all : List Level := [.error, .warn, .info, .debug, .trace]

def name : Level → String
  | .error => "ERROR"
  | .warn => "WARN"
  | .info => "INFO"
  | .debug => "DEBUG"
  | .trace => "TRACE"

/-- How much a reader has asked for to see the level. -/
def rank : Level → Nat
  | .error => 0
  | .warn => 1
  | .info => 2
  | .debug => 3
  | .trace => 4

end Level

/-- A field's value: a text as it is or in quotes, or a number. -/
inductive TraceValue where
  | plain (s : String)
  | quoted (s : String)
  | count (n : Nat)

def TraceValue.text : TraceValue → String
  | .plain s => s
  | .quoted s => Text.quoted s
  | .count n => toString n

structure TraceEvent where
  level : Level
  message : String
  fields : List (String × TraceValue)

namespace TraceEvent

def line (e : TraceEvent) : String :=
  e.level.name ++ " " ++ e.message ++
    String.join (e.fields.map fun f => " " ++ f.1 ++ "=" ++ f.2.text)

def ofTransaction (level : Level) (message : String) (t : TransactionId)
    (fields : List (String × TraceValue)) : TraceEvent :=
  ⟨level, message, ("transaction_id", .plain t.text) :: fields⟩

def transactionBegun (t : TransactionId) : TraceEvent :=
  .ofTransaction .debug "transaction begun" t []

def transactionCompleted (t : TransactionId) (outcome : String) : TraceEvent :=
  .ofTransaction .debug "transaction completed" t [("outcome", .plain outcome)]

def beforeCompletionFailed (t : TransactionId) (error : String) : TraceEvent :=
  .ofTransaction .warn "before_completion failed, rolling back" t [("error", .plain error)]

def rollingBack (t : TransactionId) (error : String) : TraceEvent :=
  .ofTransaction .warn "rolling back" t [("error", .plain error)]

def unitBegun (t : TransactionId) : TraceEvent := .ofTransaction .debug "unit of work begun" t []

def unitDiscarded (t : TransactionId) (dropped : Nat) : TraceEvent :=
  .ofTransaction .debug "unit of work discarded" t [("dropped", .count dropped)]

def unitReleased (t : TransactionId) : TraceEvent :=
  .ofTransaction .debug "unit of work released" t []

def undrained (t : TransactionId) (pending : Nat) : TraceEvent :=
  .ofTransaction .warn "committed with undrained messages" t [("pending", .count pending)]

def dispatching (t : TransactionId) (cycle size : Nat) : TraceEvent :=
  .ofTransaction .debug "dispatching batch" t [("cycle", .count cycle), ("batch_size", .count size)]

def dispatchFailed (t : TransactionId) (cycle : Nat) (error : String) : TraceEvent :=
  .ofTransaction .warn "dispatch failed" t [("cycle", .count cycle), ("error", .plain error)]

def cascadeDiverged (t : TransactionId) (maxCycles pending : Nat) : TraceEvent :=
  .ofTransaction .error "message cascade did not converge; probable event cycle" t
    [("max_cycles", .count maxCycles), ("pending", .count pending)]

def aggregateMoved (t : TransactionId) (id : Uuid) (origin target : Lifecycle) : TraceEvent :=
  .ofTransaction .trace "aggregate transitioned" t
    [("aggregate_id", .plain id.text), ("from", .plain origin.name), ("to", .plain target.name)]

def optionalId (id : Option Uuid) : TraceValue := .plain (inspectedOption (id.map Uuid.text))

def messageDispatched (t : TransactionId) (id : Uuid) (type : String) (aggregate : Option Uuid) :
    TraceEvent :=
  .ofTransaction .info "message dispatched" t
    [("message_id", .plain id.text), ("message_type", .plain type),
      ("aggregate_id", optionalId aggregate)]

end TraceEvent

end Transactor
