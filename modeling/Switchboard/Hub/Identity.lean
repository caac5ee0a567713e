/-!
# Users and connections

A user is known by a signed 64-bit number, a connection by a serial number that is never given
twice.
-/

namespace Switchboard.Hub

/-- The number of a user. -/
abbrev UserId := Int64

/-- The identity of a connection. -/
structure ConnectionId where
  serial : Nat
deriving DecidableEq, Repr, Inhabited

instance : Ord ConnectionId := ⟨fun a b => compare a.serial b.serial⟩

instance : Std.TransOrd ConnectionId where
  eq_swap := @fun a b => (Std.OrientedCmp.eq_swap : compare a.serial b.serial = _)
  isLE_trans := @fun a b c first second => by
    have first : (compare a.serial b.serial).isLE := first
    have second : (compare b.serial c.serial).isLE := second
    exact (Std.TransCmp.isLE_trans first second : (compare a.serial c.serial).isLE)

instance : Std.LawfulEqOrd ConnectionId where
  eq_of_compare := @fun ⟨a⟩ ⟨b⟩ equal => by
    have same : compare a b = .eq := equal
    rw [Std.LawfulEqCmp.eq_of_compare same]

end Switchboard.Hub
