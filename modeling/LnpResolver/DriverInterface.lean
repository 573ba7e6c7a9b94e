import LnpResolver.JsonItems

/-!
The abstract class CDriver of drivers/Driver.h. A virtual `resolve` has three
ways out: it fills the result and sets `is_done`, it hands one HTTP request to
the resolver as its last statement, or it throws. `parse` works on the request's
result and may leave it half written when it throws. The blocking SIP exchange
inside a resolve is answered by the environment.
-/

namespace LnpResolver.DriverInterface

open PackedBytes RequestWire

inductive ECAuth where
  | none | basic
  deriving DecidableEq, Repr

structure HttpRequest where
  id : UInt32
  url : Bytes
  authType : ECAuth := .none
  login : Option Bytes := none
  pass : Option Bytes := none
  verifySsl : Bool := false
  timeoutMs : Nat := 0
  headers : List Bytes := []
  deriving DecidableEq, Repr

/-- What escapes from a driver: a CDriver::error, or anything else. -/
inductive DriverException where
  | error (what : Bytes)
  | other
  deriving DecidableEq, Repr

/-- The CSipClient::error throws of getInstance and perform. -/
inductive CSipClientError where
  | initialization | dnsServers | dnsClient | sipStack | localAddress | transport | sessionSocket
  | requestUri | performing
  deriving DecidableEq, Repr

def CSipClientError.what : CSipClientError → Bytes
  | .initialization => bytesOf "internal initialization error"
  | .dnsServers => bytesOf "unable to get DNS servers"
  | .dnsClient => bytesOf "unable to create DNS client"
  | .sipStack => bytesOf "unable to create SIP stack"
  | .localAddress => bytesOf "unable to get default local address"
  | .transport => bytesOf "unable to add supported SIP transport"
  | .sessionSocket => bytesOf "unable to create SIP session socket"
  | .requestUri => bytesOf "not specified SIP request URI"
  | .performing => bytesOf "unable to perform SIP request"

/-- CSipClient::perform: it throws, times out, or yields the Contact user part. -/
inductive SipOutcome where
  | threw (error : CSipClientError)
  | fail
  | ok (rawContactData : Bytes)
  deriving DecidableEq, Repr

inductive Resolution where
  | threw (exception : DriverException)
  | done (result : SResult)
  | http (request : HttpRequest)

abbrev ParseOutcome := EStateM.Result DriverException SResult Unit

def driverTypeTagged : Int := 0
def driverTypeCnam : Int := 1

class CDriver (Driver : Type) where
  getName : Driver → String
  getUniqueId : Driver → Int
  getDriverType : Driver → Int
  resolve : Driver → (Bytes → SipOutcome) → ResolverRequest → Resolution
  parse : Driver → Bytes → ResolverRequest → ParseOutcome
  -- every HTTP driver copies the id of the request into the transfer
  resolve_id : ∀ driver sip request http, resolve driver sip request = .http http →
    http.id = request.id

end LnpResolver.DriverInterface
