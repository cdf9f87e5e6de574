import RootedStore.Context

/-!
# Errors of a namenode client

What a call to a namenode can end with instead of a reply, and the text of each.
-/

namespace RootedStore

inductive TransportFailure where
  /-- The connection ended, or could not be made, before an answer came. -/
  | unanswered
  | truncated
  /-- The body of the answer is not what was asked for. -/
  | undecodable
  /-- The answer refers elsewhere too many times. -/
  | redirectedTooOften
  deriving DecidableEq, Repr

def TransportFailure.message : TransportFailure → String
  | .unanswered => "no answer to the request"
  | .truncated => "end of the body before its declared length"
  | .undecodable => "error decoding the body of the answer"
  | .redirectedTooOften => "too many redirects"

inductive ClientError where
  | notFound (path : String)
  | alreadyExists (path : String)
  | permissionDenied (reason : String)
  | exception (name message : String)
  | connect (reason : String)
  | http (failure : TransportFailure)
  | io (reason : String)
  | interrupted (why : Interruption)
  deriving DecidableEq, Repr

namespace ClientError

def message : ClientError → String
  | .notFound path => "file not found: " ++ path
  | .alreadyExists path => "file already exists: " ++ path
  | .permissionDenied reason => "permission denied: " ++ reason
  | .exception name message => name ++ ": " ++ message
  | .connect reason => "connection failed: " ++ reason
  | .http failure => "http error: " ++ failure.message
  | .io reason => "I/O error: " ++ reason
  | .interrupted why => why.message

def isNotFound : ClientError → Bool
  | .notFound _ => true
  | _ => false

/-- The texts of the errors behind this one, the nearest first. -/
def causes : ClientError → List String
  | .http failure => [failure.message]
  | .io reason => [reason]
  | _ => []

end ClientError

end RootedStore
