/-
  BacnetGateway.Transport.Ports — the UDP sockets behind the BACnet stack's transport
  callbacks (`common/CASExampleHelper.cpp`, `common/SimpleUDP.cpp`).

  The helper keeps one socket for each Network Port object, in a table of at most four
  (`g_udpBindings`). `Table` is that table; that no two entries are for one Network Port is a
  field of it. `Ports` adds the other globals: the UDP port and the instance the one-argument
  overloads act on, and where the next receive starts.

  What the operating system does is an argument: whether `socket` and `bind` succeed, which
  address the primary interface has. `sendto` on an open socket is taken to succeed. What waits
  on a socket is part of the socket. A pending socket error is read like a datagram without
  octets: `recvfrom` reports nothing, and the next call finds what comes after it.

  The lines printed for the operator are left out.
-/

import Mathlib.Data.List.Basic
import BacnetGateway.Lib.Rotation

namespace BacnetGateway.Transport

open Lib.Rotation

/-- Four octets, in network order. -/
structure Ip where
  a : UInt8
  b : UInt8
  c : UInt8
  d : UInt8
  deriving DecidableEq

def Ip.octets (ip : Ip) : List UInt8 := [ip.a, ip.b, ip.c, ip.d]

/-- A datagram that waits on a socket, and where it came from. -/
structure Datagram where
  octets : List UInt8
  fromIp : Ip
  fromPort : UInt16
  deriving DecidableEq

/-! ## `SimpleUDP` -/

structure SimpleUDP where
  /-- What waits on `m_socket`, the oldest first; `none` for `INVALID_SOCK`. -/
  socket : Option (List Datagram)
  connected : Bool

def closed : SimpleUDP := ⟨none, false⟩

/-- How far `Connect` gets. -/
inductive Opening where
  | noSocket
  | noBind
  | bound
  deriving DecidableEq

/-- A socket that was open before is not closed: nothing refers to it any more. -/
def SimpleUDP.connect (udp : SimpleUDP) : Opening → Bool × SimpleUDP
  | .noSocket => (false, { udp with socket := none })
  | .noBind => (false, closed)
  | .bound => (true, ⟨some [], true⟩)

/-- `recvfrom` drops what does not fit. -/
def truncated (maxLength : UInt16) (datagram : Datagram) : Datagram :=
  { datagram with octets := datagram.octets.take maxLength.toNat }

/-- What `Receive` returns 0 for, besides an empty socket. -/
def silent (maxLength : UInt16) (datagram : Datagram) : Bool :=
  (truncated maxLength datagram).octets.isEmpty

def SimpleUDP.receive (maxLength : UInt16) (udp : SimpleUDP) : Option Datagram × SimpleUDP :=
  if udp.connected then
    match udp.socket with
    | some (datagram :: rest) =>
      (if silent maxLength datagram then none else some (truncated maxLength datagram),
        { udp with socket := some rest })
    | _ => (none, udp)
  else (none, udp)

/-! ## The table -/

structure UdpBinding where
  udp : SimpleUDP
  port : UInt16
  networkPortInstance : UInt32
  bound : Bool

def MAX_UDP_BINDINGS : Nat := 4

/-- `g_udpBindings`, up to `g_udpBindingCount`. -/
structure Table where
  bindings : List UdpBinding
  distinct : (bindings.map (·.networkPortInstance)).Nodup
  few : bindings.length ≤ MAX_UDP_BINDINGS

def Table.count (t : Table) : Nat := t.bindings.length

/-- A change of an entry that leaves it the entry of its Network Port. -/
structure Change where
  apply : UdpBinding → UdpBinding
  same : ∀ b, (apply b).networkPortInstance = b.networkPortInstance

theorem modify_instances (bindings : List UdpBinding) (i : Nat) (change : Change) :
    (bindings.modify i change.apply).map (·.networkPortInstance) =
      bindings.map (·.networkPortInstance) := by
  refine List.ext_getElem? fun j => ?_
  simp only [List.getElem?_map, List.getElem?_modify]
  cases bindings[j]? with
  | none => rfl
  | some b =>
    simp only [Option.map_eq_map, Option.map_some]
    split <;> simp [change.same]

def Table.modify (t : Table) (i : Nat) (change : Change) : Table where
  bindings := t.bindings.modify i change.apply
  distinct := by
    rw [modify_instances]
    exact t.distinct
  few := by
    rw [List.length_modify]
    exact t.few

def withUdp (udp : SimpleUDP) : Change := ⟨fun b => { b with udp := udp }, fun _ => rfl⟩

/-- The index of the entry that `FindUdpBindingByInstance` points to. -/
def Table.find (t : Table) (networkPortInstance : UInt32) : Option Nat :=
  t.bindings.findIdx? (·.networkPortInstance = networkPortInstance)

/-- The next entry of the array, taken for a Network Port. -/
def fresh (networkPortInstance : UInt32) : UdpBinding := ⟨closed, 0, networkPortInstance, false⟩

def Table.add (t : Table) (networkPortInstance : UInt32) (hfree : t.find networkPortInstance = none)
    (hroom : t.count < MAX_UDP_BINDINGS) : Table where
  bindings := t.bindings ++ [fresh networkPortInstance]
  distinct := by
    have hnot : networkPortInstance ∉ t.bindings.map (·.networkPortInstance) := by
      intro hmem
      obtain ⟨b, hb, heq⟩ := List.mem_map.mp hmem
      have := List.findIdx?_eq_none_iff.mp hfree b hb
      simp [heq] at this
    rw [List.map_append, List.nodup_append]
    refine ⟨t.distinct, by simp, ?_⟩
    intro a ha b hb
    simp only [List.map_cons, List.map_nil, List.mem_singleton, fresh] at hb
    rw [hb]
    intro heq
    exact hnot (heq ▸ ha)
  few := by
    rw [List.length_append, List.length_singleton]
    exact hroom

structure Ports where
  table : Table
  /-- `g_port`. -/
  port : UInt16
  /-- `g_networkPortInstance`. -/
  networkPortInstance : UInt32
  /-- `s_nextBindingToCheck`. -/
  nextBindingToCheck : Nat

def initialPorts : Ports := ⟨⟨[], by decide, by decide⟩, 47808, 1, 0⟩

/-! ## Opening and closing -/

/-- `SetupUDP` from the `Connect` on, for the entry at `i`. -/
def openBinding (p : Ports) (i : Nat) (port : UInt16) (networkPortInstance : UInt32)
    (opening : Opening) : Bool × Ports :=
  match p.table.bindings[i]? with
  | none => (false, p)
  | some b =>
    let (connected, udp) := b.udp.connect opening
    if connected then
      (true, { p with
        table := p.table.modify i
          ⟨fun b => { b with udp := udp, port := port, bound := true }, fun _ => rfl⟩
        port := if networkPortInstance = p.networkPortInstance then port else p.port })
    else (false, { p with table := p.table.modify i (withUdp udp) })

def setupUDP (port : UInt16) (networkPortInstance : UInt32) (opening : Opening)
    (p : Ports) : Bool × Ports :=
  match hfind : p.table.find networkPortInstance with
  | some i => openBinding p i port networkPortInstance opening
  | none =>
    if hroom : p.table.count < MAX_UDP_BINDINGS then
      openBinding { p with table := p.table.add networkPortInstance hfind hroom }
        p.table.count port networkPortInstance opening
    else (false, p)

def shutdown (b : UdpBinding) : UdpBinding :=
  if b.bound then { b with udp := closed, bound := false } else b

theorem shutdown_instance (b : UdpBinding) :
    (shutdown b).networkPortInstance = b.networkPortInstance := by
  unfold shutdown
  split <;> rfl

def Table.shutdown (t : Table) : Table where
  bindings := t.bindings.map Transport.shutdown
  distinct := by
    rw [List.map_map]
    have hsame : ((·.networkPortInstance) ∘ Transport.shutdown) = fun b : UdpBinding =>
        b.networkPortInstance :=
      funext shutdown_instance
    rw [hsame]
    exact t.distinct
  few := by
    rw [List.length_map]
    exact t.few

def shutdownUDP (p : Ports) : Ports := { p with table := p.table.shutdown }

def setNetworkPortInstance (networkPortInstance : UInt32) (p : Ports) : Ports :=
  { p with networkPortInstance := networkPortInstance }

/-! ## Receiving -/

/-- The high octet first. -/
def portOctets (port : UInt16) : List UInt8 := [(port >>> 8).toUInt8, port.toUInt8]

/-- A BACnet/IP address as the stack has it: four octets of address, two of port. -/
def connectionString (ip : Ip) (port : UInt16) : List UInt8 := ip.octets ++ portOctets port

/-- What `HelperReceiveMessage` hands to the stack. -/
structure Received where
  message : List UInt8
  sourceConnectionString : List UInt8
  networkPortInstance : UInt32
  deriving DecidableEq

def received (networkPortInstance : UInt32) (datagram : Datagram) : Received :=
  ⟨datagram.octets, connectionString datagram.fromIp datagram.fromPort, networkPortInstance⟩

/-- The loop over the sockets, in the order given: the index of the one that was serviced,
    and what it handed to the stack. -/
def checkBindings (maxLength : UInt16) : List Nat → Table → Option (Nat × Received) × Table
  | [], t => (none, t)
  | i :: rest, t =>
    match t.bindings[i]? with
    | none => checkBindings maxLength rest t
    | some b =>
      if b.bound then
        match b.udp.receive maxLength with
        | (some datagram, udp) =>
          (some (i, received b.networkPortInstance datagram), t.modify i (withUdp udp))
        | (none, udp) => checkBindings maxLength rest (t.modify i (withUdp udp))
      else checkBindings maxLength rest t

def helperReceiveMessage (maxMessageLength : UInt16) (maxConnectionStringLength : UInt8)
    (p : Ports) : Option Received × Ports :=
  let n := p.table.count
  if maxConnectionStringLength < 6 ∨ n = 0 then (none, p)
  else
    match checkBindings maxMessageLength (order n p.nextBindingToCheck) p.table with
    | (some (i, message), table) =>
      (some message, { p with table := table, nextBindingToCheck := (i + 1) % n })
    | (none, table) =>
      (none, { p with table := table, nextBindingToCheck := (p.nextBindingToCheck + 1) % n })

/-! ## Sending -/

/-- `ip | ~mask`. -/
def Ip.broadcast (ip mask : Ip) : Ip :=
  ⟨ip.a ||| ~~~mask.a, ip.b ||| ~~~mask.b, ip.c ||| ~~~mask.c, ip.d ||| ~~~mask.d⟩

/-- The broadcast address of the primary interface, given its address and mask if there is one. -/
def getLocalBroadcastIPv4 (primary : Option (Ip × Ip)) : Ip :=
  match primary with
  | some (ip, mask) => ip.broadcast mask
  | none => ⟨255, 255, 255, 255⟩

/-- What `HelperSendMessage` hands to `SimpleUDP::Send`: the index of the socket, the address. -/
structure Outgoing where
  binding : Nat
  ip : Ip
  port : UInt16
  deriving DecidableEq

/-- `(connectionString[4] << 8) | connectionString[5]`. -/
def portOf (hi lo : UInt8) : UInt16 := hi.toUInt16 <<< 8 ||| lo.toUInt16

/-- `HelperSendMessage` from the connection string on, through the entry `b` at `i`; `none` for
    what is refused. A NULL connection string is one without octets. -/
def destination (primary : Option (Ip × Ip)) (i : Nat) (b : UdpBinding)
    (connectionString : List UInt8) (broadcast : Bool) :
    Option Outgoing :=
  match connectionString with
  | [] => some ⟨i, getLocalBroadcastIPv4 primary, b.port⟩
  | c0 :: c1 :: c2 :: c3 :: c4 :: c5 :: _ =>
    let ip : Ip := ⟨c0, c1, c2, c3⟩
    let port := portOf c4 c5
    -- a broadcast addressed to this socket itself: the stack means this subnet
    if broadcast = true ∧ port = b.port ∧
      primary.map Prod.fst = some ip then some ⟨i, getLocalBroadcastIPv4 primary, port⟩
    else some ⟨i, ip, port⟩
  | _ => none

/-- What of it `Send` gets out: nothing while not connected, and `sendto` fails on
    `INVALID_SOCK`. -/
def SimpleUDP.send (udp : SimpleUDP) (outgoing : Outgoing) : Option Outgoing :=
  if udp.connected then udp.socket.map fun _ => outgoing else none

def helperSendMessage (primary : Option (Ip × Ip)) (p : Ports) (connectionString : List UInt8)
    (networkPortInstance : UInt32) (broadcast : Bool) : Option Outgoing :=
  match p.table.find networkPortInstance with
  | none => none
  | some i =>
    match p.table.bindings[i]? with
    | none => none
    | some b => if b.bound then (destination primary i b connectionString broadcast).bind b.udp.send
        else none

/-- The connection string that `SendIAm` gives the stack, with `broadcast` set. -/
def sendIAm (primary : Option (Ip × Ip)) (p : Ports) (networkPortInstance : UInt32) : List UInt8 :=
  let port := match (p.table.find networkPortInstance).bind (p.table.bindings[·]?) with
    | some b => if b.bound then b.port else p.port
    | none => p.port
  connectionString (getLocalBroadcastIPv4 primary) port

end BacnetGateway.Transport
