import RemainderService.FileTree

/-!
# What a connection is made to

An address leads to a host of the network, or to a socket of the system's own if it begins with
`unix:`. **A network** says of every peer and every attempt whether the system refuses the
connection; what cannot be read as an address is never brought before it.
-/

set_option autoImplicit false

namespace RemainderService

/-- The other side of a connection. -/
inductive Peer
  | host (name : String)
  | socket (path : String)
deriving DecidableEq, Repr

namespace Peer

/-- The room for the path of a socket, in bytes. -/
def pathRoom : Nat := 108

/-- The socket with this path. A path that begins with a zero is a name outside the file system. -/
def ofPath (path : String) : Except ConnectFault Peer :=
  if path.toList.head? = some '\x00' then
    if pathRoom < path.utf8ByteSize then .error (.socketPath .abstractTooLong)
    else .ok (.socket path)
  else if path.toList.contains '\x00' then .error (.socketPath .interiorZero)
  else if pathRoom ≤ path.utf8ByteSize then .error (.socketPath .tooLong)
  else .ok (.socket path)

/-- The path in an address of a socket, if it is one. -/
def path? : List Char → Option (List Char)
  | 'u' :: 'n' :: 'i' :: 'x' :: ':' :: '/' :: '/' :: path => some path
  | 'u' :: 'n' :: 'i' :: 'x' :: ':' :: path => some path
  | _ => none

/-- The peer that an address leads to. A URI has to name its protocol. -/
def ofText (address : String) : Except ConnectFault Peer :=
  match path? address.toList with
  | some path => ofPath (String.ofList path)
  | none =>
    match Uri.parse address with
    | .error fault => .error (.invalidUri fault)
    | .ok uri => if uri.scheme.isNone then .error .schemeMissing else .ok (.host uri.host)

/-- A refusal, said of a connection to this peer. -/
def refused (fault : SystemFault) : Peer → ConnectFault
  | .host _ => .system fault
  | .socket _ => .localSocket fault

end Peer

/-- What becomes of each attempt to connect to a peer, by its number: nothing, or a refusal. -/
abbrev Network := Peer → Nat → Option SystemFault

namespace Network

/-- The refusal of a host by a system without addresses of its own: no way leads to four bytes or to
a group, and to eight segments there is no address to connect from. -/
def hostRefusal (name : String) : SystemFault :=
  match (IpAddress.ofHost? name).map IpAddress.unwrapped with
  | some (.v6 segments _) =>
    if IpAddress.isMulticast segments then .networkUnreachable
    else if IpAddress.isLinkLocal segments then .invalidArgument
    else .addressNotAvailable
  | _ => .networkUnreachable

/-- The refusal of a socket by a system that has none. An empty path or name leads to none, and
what is there but is no socket takes no connection. -/
def socketRefusal (path : String) : SystemFault :=
  match path.toList with
  | [] | ['\x00'] => .invalidArgument
  | '\x00' :: _ => .connectionRefused
  | _ =>
    match FileTree.follow .standard .empty path with
    | .ok _ => .connectionRefused
    | .error fault => fault

/-- A network that reaches nothing, on a system with the standard files and without addresses and
sockets of its own. -/
def isolated : Network := fun peer _ =>
  match peer with
  | .host name => some (hostRefusal name)
  | .socket path => some (socketRefusal path)

/-- The outcome of an attempt to connect to an address. -/
def connect (network : Network) (address : String) (attempt : Nat) : Except ConnectFault Unit :=
  match Peer.ofText address with
  | .error fault => .error fault
  | .ok peer =>
    match network peer attempt with
    | some fault => .error (peer.refused fault)
    | none => .ok ()

end Network

end RemainderService
