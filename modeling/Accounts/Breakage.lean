import Accounts.Encoding.Base64
import Accounts.Json.Writer

/-! # Breakages

A breakage is a failure that no part of the service answers for: it is not turned into an answer for
the caller but reaches whoever runs the service.
-/
namespace Accounts

inductive KeyFault where
  | noAlgorithm
  /-- A key object of another type than a byte string, or of none. -/
  | notOctets (keyType : Option Json)
  | notText
  | asymmetric
  deriving Repr

def KeyFault.message : KeyFault → LooseText
  | .noAlgorithm => "Unable to find an algorithm for key"
  | .notOctets keyType =>
    LooseText.ofString "Incorrect key type. Expected: 'oct', Received: " ++
      (keyType.getD .null).shown
  | .notText => "Expecting a string- or bytes-formatted key."
  | .asymmetric => LooseText.ofString
    ("The specified key is an asymmetric key or x509 certificate and should not be used as an " ++
      "HMAC secret.")

inductive SigningFault where
  | unsupported (algorithm : String)
  | key (fault : KeyFault)
  deriving Repr

def SigningFault.message : SigningFault → LooseText
  | .unsupported algorithm => LooseText.ofString ("Algorithm " ++ algorithm ++ " not supported.")
  | .key fault => fault.message

inductive Breakage where
  /-- A number or an instant is beyond what can be represented. -/
  | range
  | value
  | type
  | member
  | encoding
  | tooDeep
  | base64 (fault : Encoding.Base64.Fault)
  | calendar
  | database
  | caching
  | key (fault : KeyFault)
  | signing (fault : SigningFault)
  deriving Repr

def Breakage.message? : Breakage → Option LooseText
  | .base64 fault => some fault.message
  | .caching => some "Client caching is only supported with RESP version 3"
  | .key fault => some fault.message
  | .signing fault => some fault.message
  | _ => none

end Accounts
