import RemainderService.Event

/-!
# Listening addresses

A server asks the system for a listener and then for the address of the listener, and either may be
refused. The answers are the system's (`BindOutcome`), and the server makes an error or a listener
of them.

**A host** is one system that answers: the list of the addresses that are listened on. Binding a
port is refused while the port is taken; asking for port 0 takes the first free one of a range. Two
addresses compete for a port if they are the same or if one of them stands for every address of the
host; four bytes and the eight segments that wrap them are the same. The host is isolated: every
address of four bytes counts as its own, it has no address of eight segments, and the ports below
1024 are not for those who ask here. It always knows the address of a listener.
-/

set_option autoImplicit false

namespace RemainderService

/-! ## What a server makes of the answers -/

/-- What the system answers to a server that asks for a listener: none on this address, one whose
address cannot be read, or one with an address. Refusals have a cause. -/
inductive BindOutcome
  | refused (cause : String)
  | unresolved (cause : String)
  | bound (address : SocketAddress)
deriving DecidableEq

/-- The address that a server listens on, or the error. Only a refusal is about the address that was
asked for. -/
def BindOutcome.report (outcome : BindOutcome) (requested : SocketAddress) :
    Logged (Except ServerError SocketAddress) :=
  match outcome with
  | .refused cause => ⟨.error (.bind requested cause), []⟩
  | .unresolved cause => ⟨.error (.localAddress cause), []⟩
  | .bound address => ⟨.ok address, [.bound address requested]⟩

/-! ## Hosts -/

/-- Two listeners on these addresses cannot exist together. -/
def SocketAddress.competes (a b : SocketAddress) : Bool :=
  a.port == b.port &&
    (decide (a.ip.unwrapped = b.ip.unwrapped) || a.ip.isUnspecified || b.ip.isUnspecified)

/-- A request to bind: an address, or the address that an earlier request in a list came down to. -/
inductive BindRequest
  | exactly (address : SocketAddress)
  | sameAs (place : Nat)
deriving DecidableEq

/-- The address of a request, given what the requests before it came down to. -/
def BindRequest.resolve (bound : List (Option SocketAddress)) : BindRequest → Option SocketAddress
  | .exactly address => some address
  | .sameAs place => (bound[place]?).join

/-- What a request to bind comes to. -/
inductive BindResult
  | bound (address : SocketAddress)
  | refused (error : ServerError)
  | noSuchListener
deriving DecidableEq

/-- The addresses that are listened on. -/
structure Host where
  listening : List SocketAddress
deriving DecidableEq

namespace Host

/-- A host on which nothing listens. -/
def idle : Host := ⟨[]⟩

/-- The address is in use. -/
def occupied (host : Host) (address : SocketAddress) : Bool :=
  host.listening.any address.competes

/-! ## What is refused whoever listens -/

/-- The port is reserved for the system. Port 0 stands for any port and is not. -/
def isReserved (port : UInt16) : Bool :=
  decide (0 < port.toNat ∧ port.toNat < 1024)

/-- The number of the only link. -/
def onlyLink : UInt32 := 1

/-- The refusal of eight segments that are no address of the host. Those with a meaning on one link
have to name it. -/
def segmentsRefusal? (segments : Vector UInt16 8) (scope : UInt32) : Option SystemFault :=
  if segments.toList.all (· == 0) then none
  else if IpAddress.isLinkLocal segments && scope == 0 then some .invalidArgument
  else if IpAddress.isLinkLocal segments && scope != onlyLink then some .noDevice
  else some .addressNotAvailable

/-- The refusal of an address, whoever listens. A reserved port is refused before the host address
is looked at, unless that is the address of a group. -/
def refusal? (address : SocketAddress) : Option SystemFault :=
  match address.ip.unwrapped with
  | .v4 _ => if isReserved address.port then some .permissionDenied else none
  | .v6 segments scope =>
    if IpAddress.isMulticast segments then some .invalidArgument
    else if isReserved address.port then some .permissionDenied
    else segmentsRefusal? segments scope

/-! ## Binding -/

/-- The address as a listener shows it: no link is named. -/
def shown (ip : IpAddress) : IpAddress :=
  match ip with
  | .v4 bytes => .v4 bytes
  | .v6 segments _ => .v6 segments 0

/-- The ports that are handed out to those who ask for any. -/
def ephemeralPorts : List UInt16 :=
  (List.range 16384).map fun i => UInt16.ofNat (49152 + i)

/-- The addresses that a request to bind can come down to. -/
def candidates (requested : SocketAddress) : List SocketAddress :=
  (if requested.port = 0 then ephemeralPorts else [requested.port]).map
    (SocketAddress.mk (shown requested.ip))

/-- The address that a request to bind comes down to, or why it is refused. -/
def choose (host : Host) (requested : SocketAddress) : Except SystemFault SocketAddress :=
  match refusal? requested with
  | some fault => .error fault
  | none =>
    match (candidates requested).find? fun address => !host.occupied address with
    | some address => .ok address
    | none => .error .addressInUse

/-- The answer of a host to a server that asks for a listener. -/
def outcome (host : Host) (requested : SocketAddress) : BindOutcome :=
  match host.choose requested with
  | .ok address => .bound address
  | .error fault => .refused fault.message

/-- Listen on an address. -/
def occupy (host : Host) (address : SocketAddress) : Host :=
  ⟨address :: host.listening⟩

/-- Bind addresses in order and keep them all. An entry that refers to a listener that does not
exist is the last one. -/
def bindAll (host : Host) (bound : List (Option SocketAddress)) :
    List BindRequest → Logged (List BindResult)
  | [] => ⟨[], []⟩
  | entry :: later =>
    match entry.resolve bound with
    | none => ⟨[.noSuchListener], []⟩
    | some requested =>
      let attempt := (host.outcome requested).report requested
      match attempt.value with
      | .ok taken =>
        let rest := (host.occupy taken).bindAll (bound ++ [some taken]) later
        ⟨.bound taken :: rest.value, attempt.log ++ rest.log⟩
      | .error error =>
        let rest := host.bindAll (bound ++ [none]) later
        ⟨.refused error :: rest.value, attempt.log ++ rest.log⟩

end Host

end RemainderService
