import Catwalk.Net.ProcTcp
import Mathlib.Data.List.Dedup
import Mathlib.Data.List.ReduceOption

/-! The URLs that `netinfo.py` reports: from the tables of the kernel and the
descriptors of a process to where clients connect. -/

namespace Catwalk.Net

/-- An element of `listening_sockets`. -/
structure Listener where
  family : Family
  addr : Text
  port : Int
  deriving DecidableEq

/-- The order of the tuples. -/
def Listener.precedes (first second : Listener) : Bool :=
  match first.family, second.family with
  | .inet, .inet6 => true
  | .inet6, .inet => false
  | .inet, .inet | .inet6, .inet6 =>
      decide (first.addr < second.addr ∨
        first.addr = second.addr ∧ first.port ≤ second.port)

def socketMark : Text := "socket:[".toList

/-- Where a client connects to. -/
structure Endpoint where
  family : Family
  ip : Text
  port : Int

/-- `http://{ip}:{port}`, with brackets around the address of IPv6 -/
def Endpoint.url (endpoint : Endpoint) : Text :=
  match endpoint.family with
  | .inet =>
      "http://".toList ++ (endpoint.ip ++ ':' :: Numeral.decimal endpoint.port)
  | .inet6 =>
      "http://".toList ++
        '[' :: (endpoint.ip ++ ']' :: ':' :: Numeral.decimal endpoint.port)

/-- `_V4_WILD`, `_V6_WILD` -/
def wildcard : Family → Text
  | .inet => "0.0.0.0".toList
  | .inet6 => "::".toList

/-- A descriptor as `readlink` shows it. -/
inductive FdLink
  | socket (inode : Nat)
  | other (target : Text) (notSocket : ¬ socketMark <+: target)
  | unreadable

def FdLink.target : FdLink → Option Text
  | .socket inode => some (socketMark ++ (Numeral.written 10 inode ++ [']']))
  | .other target _ => some target
  | .unreadable => none

def FdLink.inode : FdLink → Option Nat
  | .socket inode => some inode
  | .other _ _ | .unreadable => none

/-- The tables and the descriptors as far as they can be read. -/
structure Kernel where
  tcp : Option (SocketTable .inet)
  tcp6 : Option (SocketTable .inet6)
  fds : Option (List FdLink)

namespace Kernel

def listening (kernel : Kernel) : (family : Family) → List (TcpSocket family)
  | .inet => (kernel.tcp.map SocketTable.listening).getD []
  | .inet6 => (kernel.tcp6.map SocketTable.listening).getD []

/-- The process holds the socket open. -/
def Owns (kernel : Kernel) (inode : Nat) : Prop :=
  .socket inode ∈ kernel.fds.getD []

/-- The process listens at this address and port. -/
def Listens (kernel : Kernel) (family : Family) (address : List UInt8)
    (port : Nat) : Prop :=
  ∃ socket ∈ kernel.listening family,
    socket.address = address ∧ socket.port = port ∧ kernel.Owns socket.inode

end Kernel

/-- `INADDR_ANY`, `in6addr_any` -/
def anyAddress (family : Family) : List UInt8 := List.replicate family.width 0

/-- Where the process can be reached on a host of these addresses; sockets of IPv6
are dual-stack. -/
inductive Kernel.Accepts (kernel : Kernel) (inetNtop : InetNtop)
    (systemIps : Family → List Text) : Endpoint → Prop
  | bound {family : Family} {address : List UInt8} {port : Nat}
      (listens : kernel.Listens family address port)
      (specific : address ≠ anyAddress family) :
      Accepts kernel inetNtop systemIps ⟨family, inetNtop family address, port⟩
  | every {family : Family} {ip : Text} {port : Nat}
      (listens : kernel.Listens family (anyAddress family) port)
      (assigned : ip ∈ systemIps family) :
      Accepts kernel inetNtop systemIps ⟨family, ip, port⟩
  | dual {ip : Text} {port : Nat}
      (listens : kernel.Listens .inet6 (anyAddress .inet6) port)
      (assigned : ip ∈ systemIps .inet) :
      Accepts kernel inetNtop systemIps ⟨.inet, ip, port⟩

/-- How the addresses of a family are written. -/
def Legible : Family → Text → Prop
  | .inet, text => ':' ∉ text ∧ '[' ∉ text
  | .inet6, text => ':' ∈ text ∧ ']' ∉ text

structure InetNtop.Documented (inetNtop : InetNtop) : Prop where
  legible : ∀ family address, address.length = family.width →
    Legible family (inetNtop family address)
  wildcard : ∀ family address, address.length = family.width →
    (inetNtop family address = Net.wildcard family ↔
      address = anyAddress family)

section Sockets

variable {inetNtop : InetNtop} {kernel : Kernel}

end Sockets

section Urls

variable {inetNtop : InetNtop} {kernel : Kernel}
  {systemIps : Family → List Text}

theorem Kernel.Listens.length {family : Family} {address : List UInt8} {port : Nat}
    (listens : kernel.Listens family address port) :
    address.length = family.width := by
  obtain ⟨socket, _, rfl, _⟩ := listens
  exact socket.address_length

theorem Kernel.Accepts.legible (documented : inetNtop.Documented)
    (assigned : ∀ family, ∀ ip ∈ systemIps family, Legible family ip)
    {endpoint : Endpoint} (accepts : kernel.Accepts inetNtop systemIps endpoint) :
    Legible endpoint.family endpoint.ip := by
  cases accepts with
  | bound listens => exact documented.legible _ _ listens.length
  | every _ member => exact assigned _ _ member
  | dual _ member => exact assigned .inet _ member

end Urls

/-! An `inet_ntop` that writes IPv6 in capitals and shortens no address but `::`. -/

end Catwalk.Net
