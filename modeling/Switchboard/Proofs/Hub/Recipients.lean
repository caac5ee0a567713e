import Mathlib.Data.List.Induction
import Mathlib.Data.List.Nodup
import Switchboard.Hub.Fanout

/-!
# Recipients in order

The recipients of a request are the users that were named, each once, in the order in which they
first occur (`firstOccurrences_distinct`). That determines them (`FirstOccurrences.unique`).
-/

namespace Switchboard.Hub

variable {users others listed : List UserId} {user : UserId}

/-- Nobody is named only if nobody was. -/
theorem distinct_eq_nil : distinct users = [] ↔ users = [] := by
  simp only [List.eq_nil_iff_forall_not_mem, mem_distinct]

/-- A single user is named once. -/
theorem distinct_singleton (user : UserId) : distinct [user] = [user] := by
  simp [distinct, Roll.meet, Roll.empty]

/-- A user who is named once more counts only if that happens for the first time. -/
theorem distinct_concat (users : List UserId) (user : UserId) :
    distinct (users ++ [user]) =
      if user ∈ users then distinct users else distinct users ++ [user] := by
  have met : user ∈ (users.foldl Roll.meet .empty).seen ↔ user ∈ users := by
    rw [Roll.mem_seen, ← List.mem_reverse]
    exact mem_distinct
  simp only [distinct, List.foldl_append, List.foldl_cons, List.foldl_nil, Roll.meet, met]
  split <;> simp

/-- A list has the members of another, each once, in the order in which they first occur there. -/
structure FirstOccurrences (users listed : List UserId) : Prop where
  nodup : listed.Nodup
  mem_iff : ∀ user, user ∈ listed ↔ user ∈ users
  ordered : listed.Pairwise fun first second => users.idxOf first < users.idxOf second

/-- The recipients of a request are the first occurrences of the users that were named. -/
theorem firstOccurrences_distinct (users : List UserId) :
    FirstOccurrences users (distinct users) := by
  refine ⟨nodup_distinct users, fun _ => mem_distinct, ?_⟩
  induction users using List.reverseRecOn with
  | nil => exact List.Pairwise.nil
  | append_singleton before user ih =>
    have kept : (distinct before).Pairwise fun first second =>
        (before ++ [user]).idxOf first < (before ++ [user]).idxOf second :=
      ih.imp_of_mem fun first second earlier => by
        rwa [List.idxOf_append_of_mem (mem_distinct.mp first),
          List.idxOf_append_of_mem (mem_distinct.mp second)]
    rw [distinct_concat]
    split
    next => exact kept
    next new =>
      refine List.pairwise_append.mpr ⟨kept, List.pairwise_singleton _ _, ?_⟩
      intro first member last isLast
      obtain rfl := List.mem_singleton.mp isLast
      have member := mem_distinct.mp member
      rw [List.idxOf_append_of_mem member, List.idxOf_append_of_notMem new]
      exact Nat.lt_add_right _ (List.idxOf_lt_length_of_mem member)

/-- Lists with the same members whose order agrees have the same first occurrences. -/
theorem FirstOccurrences.unique {other : List UserId} (occurrences : FirstOccurrences users listed)
    (occurrencesToo : FirstOccurrences others other) (same : ∀ user, user ∈ others ↔ user ∈ users)
    (agree : ∀ first ∈ users, ∀ second ∈ users, users.idxOf first < users.idxOf second →
      others.idxOf first < others.idxOf second) : other = listed := by
  have perm : other.Perm listed :=
    (List.perm_ext_iff_of_nodup occurrencesToo.nodup occurrences.nodup).mpr fun user => by
      rw [occurrencesToo.mem_iff, occurrences.mem_iff, same]
  have ordered : listed.Pairwise fun first second => others.idxOf first < others.idxOf second :=
    occurrences.ordered.imp_of_mem fun {first second} firstListed secondListed earlier =>
      agree first ((occurrences.mem_iff first).mp firstListed) second
        ((occurrences.mem_iff second).mp secondListed) earlier
  exact perm.eq_of_pairwise
    (fun _ _ _ _ earlier later => absurd earlier (Nat.lt_asymm later)) occurrencesToo.ordered
    ordered

end Switchboard.Hub
