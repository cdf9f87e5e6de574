import RootedStore.Error.Client
import RootedStore.Json.Printer

/-!
# Errors of storage operations

What an operation of a store can end with instead of its result. An error of the namenode client stays
inside the error that reports it.
-/

namespace RootedStore

inductive OptionError where
  | notAMap (kind : String)
  | notAString (key kind : String)
  | notAnInteger (key kind : String)
  | blank (key : String)
  | parentReference (key root : String)
  | missing (key : String)
  | invalidMode (key : String) (value : Json.Value)
  | notPositive (key : String) (n : Json.Number)
  deriving Repr

def OptionError.message : OptionError → String
  | .notAMap kind => "driver parameters must be a map, got " ++ kind
  | .notAString key kind => key ++ " must be a string, got " ++ kind
  | .notAnInteger key kind => key ++ " must be an integer, got " ++ kind
  | .blank key => key ++ " must not be empty"
  | .parentReference key root => key ++ " must not contain '..': " ++ root
  | .missing key => "no " ++ key ++ " parameter provided"
  | .invalidMode key value => key ++ " is not a valid permission mode: " ++ value.text .compact
  | .notPositive key n => key ++ " must be a positive number of seconds, got " ++ n.text

inductive WriteState where
  | opened
  | closed
  | committed
  | cancelled
  deriving DecidableEq, Repr

def WriteState.label : WriteState → String
  | .opened => "open"
  | .closed => "closed"
  | .committed => "committed"
  | .cancelled => "cancelled"

inductive StorageError where
  | pathNotFound (path : String)
  | invalidOffset (path : String) (offset : UInt64)
  | unsupportedMethod (driver : String)
  | invalidPath (path : String)
  | invalidConfig (why : OptionError)
  | connect (driver : String) (source : ClientError)
  | backend (driver : String) (source : ClientError)
  | writerClosed (state : WriteState)
  | interrupted (why : Interruption)
  deriving Repr

namespace StorageError

def message : StorageError → String
  | .pathNotFound path => "path not found: " ++ path
  | .invalidOffset path offset =>
    "invalid offset " ++ toString offset.toNat ++ " for path: " ++ path
  | .unsupportedMethod driver => "unsupported method for driver " ++ driver
  | .invalidPath path => "invalid path: " ++ path
  | .invalidConfig why => "invalid configuration: " ++ why.message
  | .connect driver source => driver ++ ": failed to connect: " ++ source.message
  | .backend driver source => driver ++ ": " ++ source.message
  | .writerClosed state => "file writer already " ++ state.label
  | .interrupted why => why.message

def source? : StorageError → Option ClientError
  | .connect _ source => some source
  | .backend _ source => some source
  | _ => none

def causes (e : StorageError) : List String :=
  match e.source? with
  | some source => source.message :: source.causes
  | none => []

/-- The error that reports an error of the namenode client about a path. -/
def ofClient (driver path : String) : ClientError → StorageError
  | .notFound _ => .pathNotFound path
  | .interrupted why => .interrupted why
  | e => .backend driver e

end StorageError

end RootedStore
