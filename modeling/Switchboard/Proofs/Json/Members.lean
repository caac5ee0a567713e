import Mathlib.Data.List.Sort
import Switchboard.Json.Value

/-!
# The members that count

Of the members of an object that share a name the last one counts (`lastOf?`). Putting members in
canonical order keeps exactly those (`mem_canonicalMembers`): sorting is stable, so the last one
stays the last, and its neighbours of the same name are dropped. What is left is in ascending order
(`ascending_canonicalMembers`).
-/

namespace Switchboard.Json

variable {α β : Type} {name : String}

/-- The value of the last member of a name. -/
def lastOf? (name : String) : List (String × α) → Option α
  | [] => none
  | (other, value) :: rest => (lastOf? name rest).or (if other = name then some value else none)

/-- Each name is lower than those behind it. -/
def Ascending (members : List (String × α)) : Prop := members.Pairwise fun a b => a.1 < b.1

/-- The last member of a name is a member. -/
theorem mem_of_lastOf? {members : List (String × α)} {value : α}
    (last : lastOf? name members = some value) : (name, value) ∈ members := by
  induction members with
  | nil => cases last
  | cons member others ih =>
    obtain ⟨other, content⟩ := member
    rw [lastOf?, Option.or_eq_some_iff] at last
    rcases last with later | ⟨-, here⟩
    · exact List.mem_cons_of_mem _ (ih later)
    · obtain ⟨rfl, same⟩ := Option.ite_none_right_eq_some.mp here
      rw [Option.some.inj same]
      exact List.mem_cons_self

/-- A name that does not occur has no last member. -/
theorem lastOf?_eq_none {members : List (String × α)}
    (absent : ∀ member ∈ members, member.1 ≠ name) : lastOf? name members = none := by
  cases found : lastOf? name members with
  | none => rfl
  | some value => exact absurd rfl (absent _ (mem_of_lastOf? found))

/-- In ascending order each member is the last of its name. -/
theorem lastOf?_eq_some_iff {members : List (String × α)} (ascending : Ascending members)
    {value : α} : lastOf? name members = some value ↔ (name, value) ∈ members := by
  refine ⟨mem_of_lastOf?, fun isMember => ?_⟩
  induction members with
  | nil => cases isMember
  | cons member others ih =>
    obtain ⟨other, content⟩ := member
    obtain ⟨lower, ascending⟩ := List.pairwise_cons.mp ascending
    rw [lastOf?]
    rcases List.mem_cons.mp isMember with same | later
    · obtain ⟨rfl, rfl⟩ := Prod.mk.inj same
      have absent : lastOf? name others = none :=
        lastOf?_eq_none fun member isOther equal =>
          String.lt_irrefl _ (equal ▸ lower member isOther)
      rw [absent, if_pos rfl, Option.none_or]
    · rw [ih ascending later, Option.some_or]

/-- What is made of values does not matter to which member is the last. -/
theorem lastOf?_map (turn : α → β) (members : List (String × α)) :
    lastOf? name (members.map fun member => (member.1, turn member.2)) =
      (lastOf? name members).map turn := by
  induction members with
  | nil => rfl
  | cons member others ih =>
    rw [List.map_cons, lastOf?, lastOf?, ih, Option.map_or]
    split <;> rfl

/-! ## Canonical order -/

/-- Only the members of a name matter for which is the last one. -/
theorem lastOf?_filter (members : List (String × α)) :
    lastOf? name (members.filter (·.1 = name)) = lastOf? name members := by
  induction members with
  | nil => rfl
  | cons member others ih =>
    obtain ⟨other, value⟩ := member
    rw [lastOf?, ← ih]
    by_cases same : other = name
    · rw [List.filter_cons_of_pos (by simpa using same), lastOf?]
    · rw [List.filter_cons_of_neg (by simpa using same), if_neg same, Option.or_none]

/-- Of neighbours that share a name the last one is kept. -/
theorem lastOf?_lastOfEach (members : List (String × α)) :
    lastOf? name (lastOfEach members) = lastOf? name members := by
  induction members with
  | nil => rfl
  | cons member others ih =>
    obtain ⟨other, value⟩ := member
    rw [lastOf?, ← ih, lastOfEach, List.foldr_cons, ← lastOfEach]
    cases lastOfEach others with
    | nil => rfl
    | cons next kept =>
      obtain ⟨following, content⟩ := next
      dsimp only
      split
      next same =>
        obtain rfl : other = following := eq_of_beq same
        rw [lastOf?, Option.or_assoc]
        split <;> rfl
      next => rw [lastOf?]

/-- Sorting keeps the members of a name in their order. -/
theorem filter_mergeSort (members : List (String × α)) :
    (members.mergeSort fun a b => a.1 ≤ b.1).filter (·.1 = name) =
      members.filter (·.1 = name) := by
  have named (member : String × α) (isMember : member ∈ members.filter (·.1 = name)) :
      member.1 = name := by simpa using (List.mem_filter.mp isMember).2
  have sorted : (members.filter (·.1 = name)).Pairwise fun a b => decide (a.1 ≤ b.1) = true :=
    List.pairwise_iff_forall_sublist.mpr fun {a b} pair => by
      have nameA := named a (pair.subset (by simp))
      have nameB := named b (pair.subset (by simp))
      simp [nameA, nameB]
  have kept := List.sublist_mergeSort (fun a b c => by simpa using String.le_trans)
    (fun a b => by simpa using String.le_total a.1 b.1) sorted List.filter_sublist
  have inside := kept.filter (·.1 = name)
  rw [List.filter_eq_self.mpr fun member isMember => by simpa using named member isMember] at inside
  exact (inside.eq_of_length ((List.mergeSort_perm _ _).filter _).length_eq.symm).symm

/-- Nor does the order in which names stand. -/
theorem lastOf?_canonicalMembers (members : List (String × α)) :
    lastOf? name (canonicalMembers members) = lastOf? name members := by
  rw [canonicalMembers, lastOf?_lastOfEach, ← lastOf?_filter, filter_mergeSort, lastOf?_filter]

/-- Nothing but members is kept. -/
theorem lastOfEach_subset (members : List (String × α)) : lastOfEach members ⊆ members := by
  induction members with
  | nil => exact List.Subset.refl _
  | cons member others ih =>
    rw [lastOfEach, List.foldr_cons, ← lastOfEach]
    generalize lastOfEach others = kept at ih
    cases kept with
    | nil => exact List.cons_subset_cons _ ih
    | cons next kept =>
      dsimp only
      split
      · exact List.subset_cons_of_subset _ ih
      · exact List.cons_subset_cons _ ih

/-- Where names do not fall, dropping all but the last of each name makes them rise. -/
theorem ascending_lastOfEach {members : List (String × α)}
    (sorted : members.Pairwise fun a b => a.1 ≤ b.1) : Ascending (lastOfEach members) := by
  induction members with
  | nil => exact .nil
  | cons member others ih =>
    obtain ⟨least, sorted⟩ := List.pairwise_cons.mp sorted
    have ascending := ih sorted
    have within := lastOfEach_subset others
    rw [lastOfEach, List.foldr_cons, ← lastOfEach]
    generalize lastOfEach others = kept at ascending within
    cases kept with
    | nil => exact List.pairwise_singleton _ _
    | cons next kept =>
      dsimp only
      split
      next => exact ascending
      next differs =>
        have below : member.1 < next.1 := by
          by_contra notBelow
          refine differs (beq_iff_eq.mpr ?_)
          exact String.le_antisymm (least next (within List.mem_cons_self))
            (String.not_lt.mp notBelow)
        refine List.pairwise_cons.mpr ⟨?_, ascending⟩
        intro other isMember
        rcases List.mem_cons.mp isMember with rfl | later
        · exact below
        · exact String.lt_trans below ((List.pairwise_cons.mp ascending).1 other later)

/-- Canonical members stand in the order of their names. -/
theorem ascending_canonicalMembers (members : List (String × α)) :
    Ascending (canonicalMembers members) := by
  have sorted : (members.mergeSort fun a b => a.1 ≤ b.1).Pairwise
      fun a b => decide (a.1 ≤ b.1) = true :=
    List.pairwise_mergeSort (fun a b c => by simpa using String.le_trans)
      (fun a b => by simpa using String.le_total a.1 b.1) members
  exact ascending_lastOfEach (sorted.imp fun below => of_decide_eq_true below)

/-- The members that are left are those that count. -/
theorem mem_canonicalMembers {members : List (String × α)} {value : α} :
    (name, value) ∈ canonicalMembers members ↔ lastOf? name members = some value := by
  rw [← lastOf?_eq_some_iff (ascending_canonicalMembers members), lastOf?_canonicalMembers]

end Switchboard.Json
