import RemainderService.Address

/-!
# Where the service is found

The service has a fixed port. A server listens there on every address of its host, and a client
reaches it under the name of that host, which is put into the address as it is.
-/

set_option autoImplicit false

namespace RemainderService

/-- The port of the service. -/
def servicePort : UInt16 := 50055

/-- The address that a server listens on if it is told nothing else. -/
def listenAddress : SocketAddress := ⟨.v4 #v[0, 0, 0, 0], servicePort⟩

/-- The address under which a client reaches the service on a host. -/
def endpointAt (host : String) : String :=
  "http://" ++ host ++ ":" ++ toString servicePort.toNat

end RemainderService
