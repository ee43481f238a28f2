/-!
What the library reports while it works: a level, the part that reports, and a message.
-/

namespace RowBatch
namespace Log

inductive Level where
  | error
  | warn
  | info
  | debug
  | trace
deriving DecidableEq, Inhabited

namespace Level

def name : Level → String
  | .error => "ERROR"
  | .warn => "WARN"
  | .info => "INFO"
  | .debug => "DEBUG"
  | .trace => "TRACE"

def verbosity : Level → Nat
  | .error => 1
  | .warn => 2
  | .info => 3
  | .debug => 4
  | .trace => 5

end Level

inductive Source where
  | writer
  | store
  | manifest
  | logger
deriving DecidableEq, Inhabited

namespace Source

def target : Source → String
  | .writer => "bulkdb::database::batch_operations::writer"
  | .store => "bulkdb::database::sqlite::client"
  | .manifest => "bulkdb::manifest::yaml"
  | .logger => "bulkdb::logger"

end Source

structure Record where
  level : Level
  source : Source
  message : String
deriving DecidableEq, Inhabited

namespace Record

/-- The printed line of a record, after its time. -/
def line (r : Record) : String :=
  let level := r.level.name
  " " ++ String.ofList (List.replicate (5 - level.length) ' ') ++ level ++ " " ++ r.source.target ++
    ": " ++ r.message

end Record
end Log
end RowBatch
