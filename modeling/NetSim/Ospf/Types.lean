import Mathlib
/-!
# Types of the OSPF module (`OSPF_Typedef.h`, `OSPF_Interface.h`, `OSPF_Neighbor.h`)

Addresses and router ids are pointers to a `stru_ip`, and a few functions compare the pointers, so
the place in memory is part of an address.
-/

namespace NetSim.Ospf

/-- An IPv4 `stru_ip`: the place of its array `int_ip` in memory, and the first word of it. -/
structure Ip where
  place : Nat
  int_ip : Nat
deriving DecidableEq

/-- `NETSIM_IPAddress` and `OSPFID`, where `none` is `NULL`. -/
abbrev IpPtr := Option Ip

/-- `!IP_COMPARE` and `!OSPFID_COMPARE`, which read what both pointers point to. -/
def sameIp : IpPtr → IpPtr → Option Bool
  | some a, some b => some (a.int_ip == b.int_ip)
  | _, _ => none

@[simp] theorem sameIp_some (a b : Ip) : sameIp (some a) (some b) = some (a.int_ip == b.int_ip) :=
  rfl

/-- `enum_ospf_neighbor_state`. -/
inductive NeighState
  | down | init | attempt | exStart | twoWay | exchange | full | loading
deriving DecidableEq

/-- The place of a state in the enumeration, by which states are compared. -/
def NeighState.toNat : NeighState → Nat
  | down => 0
  | init => 1
  | attempt => 2
  | exStart => 3
  | twoWay => 4
  | exchange => 5
  | full => 6
  | loading => 7

/-- `enum_if_state`. -/
inductive IfState
  | down | loopback | waiting | p2p | drOther | backup | dr
deriving DecidableEq

def IfState.toNat : IfState → Nat
  | down => 0
  | loopback => 1
  | waiting => 2
  | p2p => 3
  | drOther => 4
  | backup => 5
  | dr => 6

/-- `OSPFIFTYPE`. -/
inductive IfType
  | p2p | broadcast | nbma | p2mp | virtualLink
deriving DecidableEq

end NetSim.Ospf
