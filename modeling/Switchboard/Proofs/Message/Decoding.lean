import Switchboard.Proofs.Json.Readable
import Switchboard.Proofs.Message.Written

/-!
# What decodes to a message

A text that is read as an object decodes to a message if the object says what the message says
(`parse_of_writtenIn`), wherever in the object the kind stands and whatever else it has. So nothing
that such a text could say otherwise keeps it from decoding.
-/

namespace Switchboard.Message

open Hub Json

/-! ## Fields that are set -/

namespace Fields

variable {fields after left right result : Fields} {field other : FieldName} {value : Value}

theorem sameAt_of_holds (holds : left.Holds value field) (also : right.Holds value field) :
    left.SameAt right field := by
  cases field <;> obtain ⟨decoded, decodes, held⟩ := holds <;>
    obtain ⟨found, finds, stored⟩ := also <;> cases decodes.symm.trans finds <;>
    exact held.trans stored.symm

/-- Whether a value can be set does not depend on what has been set before. -/
theorem exists_set (holds : left.Holds value field) (fields : Fields) :
    ∃ after, fields.set value field = .ok after := by
  cases field <;> obtain ⟨decoded, decodes, -⟩ := holds <;>
    exact ⟨_, bind_eq_ok.mpr ⟨decoded, decodes, rfl⟩⟩

/-- Members set all fields that are there once with a value that they can hold. -/
theorem exists_ofMembers {known : List FieldName} {members : List (String × Value)}
    (given : ∀ field ∈ known, members.filter (·.1 == field.name) = [] ∨
      fields.has field = false ∧ ∃ (value : Value) (target : Fields),
        members.filter (·.1 == field.name) = [(field.name, value)] ∧ target.Holds value field) :
    ∃ result, ofMembers known fields members = .ok result := by
  induction members generalizing fields with
  | nil => exact ⟨fields, rfl⟩
  | cons first rest ih =>
    obtain ⟨name, value⟩ := first
    unfold ofMembers
    split
    next unknown =>
      refine ih fun field member => ?_
      have different : name ≠ field.name := fun equal =>
        List.find?_eq_none.mp unknown field member (by simp [equal])
      simpa [different] using given field member
    next found known? =>
      obtain rfl : found.name = name := by simpa using List.find?_some known?
      have member : found ∈ known := List.mem_of_find?_eq_some known?
      obtain absent | ⟨unset, only, target, one, holds⟩ := given found member
      · simp at absent
      · -- The member that sets the field is the only one of its name: none of the rest sets it again.
        rw [List.filter_cons_of_pos (by simp)] at one
        obtain ⟨same, rest_empty⟩ := List.cons.inj one
        obtain rfl : value = only := congrArg Prod.snd same
        obtain ⟨after, sets⟩ := exists_set holds fields
        obtain ⟨-, others⟩ := set_eq_ok sets
        rw [if_neg (by simp [unset])]
        have given_rest : ∀ field ∈ known, rest.filter (·.1 == field.name) = [] ∨
            after.has field = false ∧ ∃ (value : Value) (target : Fields),
              rest.filter (·.1 == field.name) = [(field.name, value)] ∧
                target.Holds value field := by
          intro field isKnown
          by_cases same : field = found
          · subst same
            exact .inl rest_empty
          · have different : found.name ≠ field.name := fun equal =>
              same (name_injective equal.symm)
            simpa [different, (others field same).has] using given field isKnown
        obtain ⟨result, sets_rest⟩ := ih given_rest
        exact ⟨result, bind_eq_ok.mpr ⟨after, sets, sets_rest⟩⟩

end Fields

/-- Fields that hold what a message says make this message. -/
theorem ClientMessage.ofFields_of_sameAt {message : ClientMessage} {fields : Fields}
    (same : ∀ field ∈ message.kind.fields, fields.SameAt message.fields field ∨
      fields.has field = false ∧ field = .isTyping ∧ message.fields.isTyping = some true) :
    ofFields message.kind fields = .ok message := by
  obtain ⟨conversation, id, recipients, isTyping⟩ := fields
  cases message <;>
    simp [ClientMessage.kind, ClientKind.fields, Fields.SameAt, Fields.has, ClientMessage.fields]
      at same
  case typing =>
    obtain ⟨rfl, rfl, rfl | ⟨rfl, rfl⟩⟩ := same <;> rfl
  case read =>
    obtain ⟨rfl, rfl, rfl⟩ := same
    rfl
  case delivered =>
    obtain ⟨rfl, rfl, rfl⟩ := same
    rfl
  case ping => rfl

/-! ## The kind among the members -/

variable {bound : Nat} {bytes rest : Bytes}

theorem lookup?_name (kind : ClientKind) : lookup? kind.name ClientKind.known = some kind := by
  cases kind <;> rfl

theorem ClientKind.name_injective : Function.Injective ClientKind.name := by
  intro kind other same
  have found := lookup?_name kind
  rw [same, lookup?_name] at found
  exact (Option.some.inj found).symm

/-- Where a value is read that is the name of a kind, this kind is read. -/
theorem readVariant_of_readValue {depth : Nat} {kind : ClientKind} (expected : String)
    (reads : readValue bound depth bytes = .ok (.string kind.name, rest)) :
    readVariant bound expected ClientKind.known bytes = .ok (kind, rest) := by
  obtain ⟨term, spells, same, -⟩ := spells_of_readValue reads
  cases spells with
  | @string _ opened _ content quote inside =>
    have skipped : skipBlanks bytes = 0x22 :: opened := quote
    rw [readValue_of_scalar quote (by decide) (by decide)] at reads
    obtain ⟨name, readsName, named⟩ := mapOutcome_eq_ok.mp reads
    obtain rfl : name = kind.name := Value.string.inj named
    have readsText : readText bound expected bytes = .ok (kind.name, rest) := by
      rw [readText, skipped]
      exact readsName
    refine bind_eq_ok.mpr ⟨(kind.name, rest), readsText, ?_⟩
    dsimp only
    rw [lookup?_name]
  | _ => cases same

/-- Where an object is read that gives the kind once, the kind is read, and the other members are
kept. -/
theorem readTagged_of_readMembers {rounds : Nat} {kind? : Option ClientKind} {kind : ClientKind}
    {done members others : List (String × Value)} {after : Bytes}
    (reads : readMembers (readString bound) (readValue bound (maxDepth - 1)) rounds done bytes =
      .ok (members, after))
    (kind_given : members.filter (·.1 == kindMember) = [(kindMember, .string kind.name)])
    (kept : done.filter (·.1 != kindMember) = others)
    (kind_done : done.filter (·.1 == kindMember) =
      kind?.toList.map fun kind => (kindMember, .string kind.name)) :
    ∃ rest, readTagged bound rounds done.isEmpty kind? others bytes =
        .ok (.ok (kind, .members (members.filter (·.1 != kindMember))), rest) ∧
      endMembers rest = .ok after := by
  -- Both loops take the same rounds: the one for values has put every member on `done`, the other
  -- one has kept the kind apart, if it has met it, and the rest as `others`.
  induction rounds generalizing kind? done others bytes with
  | zero => cases reads
  | succ rounds ih =>
    obtain ⟨⟨name?, behindName⟩, readsName, reads⟩ := bind_eq_ok.mp reads
    cases name? with
    | none =>
      obtain ⟨left, ends, finished⟩ := bind_eq_ok.mp reads
      cases finished
      rw [List.filter_reverse, kind_done] at kind_given
      obtain rfl : kind? = some kind := by
        cases kind? with
        | none => cases kind_given
        | some met =>
          obtain ⟨-, named⟩ := Prod.mk.inj (List.cons.inj kind_given).1
          exact congrArg some (ClientKind.name_injective (Value.string.inj named))
      refine ⟨behindName, bind_eq_ok.mpr ⟨_, readsName, ?_⟩, ends⟩
      rw [List.filter_reverse, kept]
    | some name =>
      obtain ⟨behindColon, colon, reads⟩ := bind_eq_ok.mp reads
      obtain ⟨⟨value, behindValue⟩, readsValue, reads⟩ := bind_eq_ok.mp reads
      by_cases isKind : name = kindMember
      · subst isKind
        obtain ⟨more, rfl, -⟩ := members_of_readMembers reads
        have met : kind? = none ∧ value = .string kind.name := by
          simp only [List.filter_append, List.filter_reverse, List.filter_cons, beq_self_eq_true,
            ↓reduceIte, List.reverse_cons, kind_done, List.append_assoc] at kind_given
          cases kind? with
          | none =>
            obtain ⟨-, given⟩ := Prod.mk.inj (List.cons.inj kind_given).1
            exact ⟨rfl, given⟩
          | some met => simp at kind_given
        obtain ⟨rfl, rfl⟩ := met
        have readsKind :=
          readVariant_of_readValue "variant identifier" (within_eq_ok.mp readsValue)
        have still_kept : ((kindMember, .string kind.name) :: done).filter (·.1 != kindMember) =
            others := by
          simpa only [List.filter_cons, bne_self_eq_false, Bool.false_eq_true, ↓reduceIte]
            using kept
        have now_given : ((kindMember, .string kind.name) :: done).filter (·.1 == kindMember) =
            (some kind).toList.map fun kind => (kindMember, .string kind.name) := by
          simp [kind_done]
        obtain ⟨rest, readsRest, ends⟩ := ih reads still_kept now_given
        refine ⟨rest, bind_eq_ok.mpr ⟨_, readsName, ?_⟩, ends⟩
        exact bind_eq_ok.mpr ⟨_, colon, bind_eq_ok.mpr ⟨_, readsKind, readsRest⟩⟩
      · have now_kept : ((name, value) :: done).filter (·.1 != kindMember) =
            (name, value) :: others := by
          simp [isKind, kept]
        have still_given : ((name, value) :: done).filter (·.1 == kindMember) =
            kind?.toList.map fun kind => (kindMember, .string kind.name) := by
          simp [isKind, kind_done]
        obtain ⟨rest, readsRest, ends⟩ := ih reads now_kept still_given
        refine ⟨rest, bind_eq_ok.mpr ⟨_, readsName, ?_⟩, ends⟩
        dsimp only
        rw [if_neg (by simpa using isKind)]
        exact bind_eq_ok.mpr ⟨_, colon, bind_eq_ok.mpr ⟨_, readsValue, readsRest⟩⟩

/-! ## Whole texts -/

theorem filter_eq_of_map_eq {α : Type} {members : List (String × α)} {name : String} {value : α}
    (one : (members.filter (·.1 == name)).map (·.2) = [value]) :
    members.filter (·.1 == name) = [(name, value)] := by
  obtain ⟨⟨other, content⟩, only, rfl⟩ := List.map_eq_singleton_iff.mp one
  have member : (other, content) ∈ members.filter (·.1 == name) := by simp [only]
  obtain rfl : other = name := by simpa using (List.mem_filter.mp member).2
  exact only

/-- The members of an object that says what a message says decode to this message. -/
theorem ofContent_of_writtenIn {message : ClientMessage} {members : List (String × Value)}
    (written : message.WrittenIn (.object members)) :
    ClientMessage.ofContent message.kind (.members (members.filter (·.1 != kindMember))) =
      .ok message := by
  have given (field : FieldName) (known : field ∈ message.kind.fields) :
      (∃ value, members.filter (·.1 == field.name) = [(field.name, value)] ∧
        message.fields.Holds value field) ∨
      (members.filter (·.1 == field.name) = [] ∧ field = .isTyping ∧
        message.fields.isTyping = some true) :=
    (written.field_given field known).imp
      (fun ⟨value, one, holds⟩ => ⟨value, filter_eq_of_map_eq one, holds⟩)
      fun ⟨absent, default⟩ => ⟨List.map_eq_nil_iff.mp absent, default⟩
  have settable : ∀ field ∈ message.kind.fields,
      (members.filter (·.1 != kindMember)).filter (·.1 == field.name) = [] ∨
        ({} : Fields).has field = false ∧ ∃ (value : Value) (target : Fields),
          (members.filter (·.1 != kindMember)).filter (·.1 == field.name) =
            [(field.name, value)] ∧ target.Holds value field := by
    intro field known
    rw [filter_others]
    exact (given field known).symm.imp And.left fun ⟨value, one, holds⟩ =>
      ⟨by cases field <;> rfl, value, message.fields, one, holds⟩
  obtain ⟨fields, sets⟩ := Fields.exists_ofMembers settable
  refine bind_eq_ok.mpr ⟨fields, sets, ClientMessage.ofFields_of_sameAt fun field known => ?_⟩
  have set := Fields.ofMembers_eq_ok sets known
  rw [filter_others] at set
  obtain ⟨value, one, holds⟩ | ⟨absent, default⟩ := given field known
  · obtain ⟨absent, -⟩ | ⟨found, only, -, held⟩ := set
    · rw [absent] at one
      cases one
    · rw [one] at only
      obtain rfl := (Prod.mk.inj (List.cons.inj only).1).2
      exact .inl (Fields.sameAt_of_holds held holds)
  · obtain ⟨-, unset⟩ | ⟨found, only, -, held⟩ := set
    · exact .inr ⟨has_of_sameAt_empty unset, default⟩
    · rw [absent] at only
      cases only

/-- A text that is read as an object that says what a message says decodes to this message. -/
theorem parse_of_writtenIn {text rest : Bytes} {message : ClientMessage}
    {members : List (String × Value)}
    (reads : readValue (boundOf text) maxDepth text = .ok (.object members, rest))
    (ends : skipBlanks rest = []) (written : message.WrittenIn (.object members)) :
    ClientMessage.parse text = .ok message := by
  obtain ⟨term, spells, same, -⟩ := spells_of_readValue reads
  cases spells with
  | @object _ inner _ _ brace inside =>
    have skipped : skipBlanks text = 0x7b :: inner := brace
    have readsObject := reads
    rw [maxDepth, readValue_object skipped] at readsObject
    obtain ⟨values, readsMembers, named⟩ := mapOutcome_eq_ok.mp readsObject
    obtain rfl : values = members := Value.object.inj named
    have kind_given := filter_eq_of_map_eq written.kind_given
    have none_yet : ([] : List (String × Value)).filter (·.1 == kindMember) =
        (none : Option ClientKind).toList.map fun kind => (kindMember, .string kind.name) := rfl
    obtain ⟨behind, readsTagged, closes⟩ :=
      readTagged_of_readMembers readsMembers kind_given rfl none_yet
    have readsKind : readKind (boundOf text) text =
        .ok ((message.kind, .members (values.filter (·.1 != kindMember))), rest) := by
      rw [readKind, readRecord, skipped]
      exact bind_eq_ok.mpr ⟨_, readsTagged, bind_eq_ok.mpr ⟨_, closes, rfl⟩⟩
    have ended : expectEnd rest = .ok () := by rw [expectEnd, ends]
    simp only [ClientMessage.parse, readsKind, ofContent_of_writtenIn written, ended]
  | _ => cases same

end Switchboard.Message
