import Mathlib.Data.List.Basic
import Switchboard.Proofs.Json.Reading
import Switchboard.Message.Client

/-!
# What a text says that decodes to a message

Decoding reads the kind and the fields of a message past each other and passes over what it does not
know. Whatever order it does that in, a text that decodes to a message is a JSON text, and its value
says what the message says: it gives the kind by name and every field of that kind, each exactly
once (`writtenIn_of_parse`). Only the truth value of a typing message may be missing, and then it is
true.
-/

namespace Switchboard.Message

open Hub Json

/-! ## A message in a JSON value -/

/-- The name of a kind. -/
def ClientKind.name : ClientKind → String
  | .typing => "typing"
  | .read => "read"
  | .delivered => "delivered"
  | .ping => "ping"

/-- The kind of a message. -/
def ClientMessage.kind : ClientMessage → ClientKind
  | .typing .. => .typing
  | .read .. => .read
  | .delivered .. => .delivered
  | .ping => .ping

/-- The fields of a message. -/
def ClientMessage.fields : ClientMessage → Fields
  | .typing conversation recipients isTyping =>
    { conversation := some conversation, recipients := some recipients, isTyping := some isTyping }
  | .read conversation message recipients | .delivered conversation message recipients =>
    { conversation := some conversation, message := some message, recipients := some recipients }
  | .ping => {}

/-- A value stands for what a field holds. -/
def Fields.Holds (fields : Fields) (value : Value) : FieldName → Prop
  | .conversation => ∃ n, value.toInt64 = .ok n ∧ fields.conversation = some n
  | .message => ∃ n, value.toInt64 = .ok n ∧ fields.message = some n
  | .recipients => ∃ users, usersOf value = .ok users ∧ fields.recipients = some users
  | .isTyping => ∃ typing, boolOf value = .ok typing ∧ fields.isTyping = some typing

theorem toInt64_int64ToJson (n : Int64) : (int64ToJson n).toInt64 = .ok n := by
  have lower := n.le_toInt
  have upper := n.toInt_lt
  have inside : -(Decimal.int64Bound : Int) ≤ n.toInt ∧ n.toInt < Decimal.int64Bound := by
    simp only [Decimal.int64Bound]
    omega
  simp [int64ToJson, Value.toInt64, inside]

/-- The values that a JSON value gives under a name: an object's members of that name, or the item
of an array in a given place. -/
def givenIn (value : Value) (name : String) (place : Nat) : List Value :=
  match value with
  | .object members => (members.filter (·.1 == name)).map (·.2)
  | .array items => items[place]?.toList
  | _ => []

/-- A JSON value says what a message says: it is an object or an array that gives the kind by name
and, each once, the fields of that kind. Only the truth value may be left out, for true. Other
members of an object do not matter. -/
structure ClientMessage.WrittenIn (message : ClientMessage) (value : Value) : Prop where
  kind_given : givenIn value kindMember 0 = [.string message.kind.name]
  field_given : ∀ field ∈ message.kind.fields,
    (∃ given, givenIn value field.name (message.kind.fields.idxOf field + 1) = [given] ∧
      message.fields.Holds given field) ∨
    (givenIn value field.name (message.kind.fields.idxOf field + 1) = [] ∧ field = .isTyping ∧
      message.fields.isTyping = some true)
  no_further_item : ∀ items, value = .array items → items.length ≤ message.kind.fields.length + 1

/-! ## Fields that are met -/

/-- Two records of fields hold the same in one field. -/
def Fields.SameAt (left right : Fields) : FieldName → Prop
  | .conversation => left.conversation = right.conversation
  | .message => left.message = right.message
  | .recipients => left.recipients = right.recipients
  | .isTyping => left.isTyping = right.isTyping

namespace Fields

variable {fields after before left right result : Fields} {field other : FieldName} {value : Value}

theorem SameAt.refl (fields : Fields) (field : FieldName) : fields.SameAt fields field := by
  cases field <;> rfl

theorem SameAt.trans (first : before.SameAt fields field) (second : fields.SameAt after field) :
    before.SameAt after field := by
  cases field <;> exact Eq.trans first second

theorem SameAt.has (same : left.SameAt right field) : left.has field = right.has field := by
  cases field <;> simp only [SameAt] at same <;> simp only [Fields.has, same]

theorem SameAt.holds (same : left.SameAt right field) (holds : left.Holds value field) :
    right.Holds value field := by
  cases field <;> simp only [SameAt] at same <;> simpa only [Holds, ← same] using holds

/-- Setting a field makes it hold the value and leaves the others as they were. -/
theorem set_eq_ok (sets : fields.set value field = .ok after) :
    after.Holds value field ∧ ∀ other, other ≠ field → fields.SameAt after other := by
  cases field <;> obtain ⟨decoded, decodes, sets⟩ := bind_eq_ok.mp sets <;> cases sets <;>
    exact ⟨⟨decoded, decodes, rfl⟩, fun other different => by cases other <;> trivial⟩

/-- A field that holds a value is there. -/
theorem has_of_holds (holds : fields.Holds value field) : fields.has field = true := by
  cases field <;> obtain ⟨_, -, held⟩ := holds <;> simp [Fields.has, held]

theorem name_injective : Function.Injective FieldName.name := by
  intro left right same
  cases left <;> cases right <;> first | rfl | simp [FieldName.name] at same

/-- Members set a field if exactly one of them has its name, and leave it alone if none has; a field
that holds something already is not set again. -/
theorem ofMembers_eq_ok {known : List FieldName} {members : List (String × Value)}
    (sets : ofMembers known fields members = .ok result) (member : field ∈ known) :
    (members.filter (·.1 == field.name) = [] ∧ fields.SameAt result field) ∨
      ∃ value, members.filter (·.1 == field.name) = [(field.name, value)] ∧
        fields.has field = false ∧ result.Holds value field := by
  induction members generalizing fields with
  | nil =>
    cases sets
    exact .inl ⟨rfl, .refl _ field⟩
  | cons first rest ih =>
    obtain ⟨name, value⟩ := first
    unfold ofMembers at sets
    split at sets
    next unknown =>
      have different : name ≠ field.name := fun equal =>
        List.find?_eq_none.mp unknown field member (by simp [equal])
      simpa [different] using ih sets
    next found known? =>
      obtain rfl : found.name = name := by simpa using List.find?_some known?
      split at sets
      · cases sets
      next fresh =>
        obtain ⟨after, sets, rest_sets⟩ := bind_eq_ok.mp sets
        obtain ⟨holds, others⟩ := set_eq_ok sets
        by_cases same : field = found
        · subst same
          refine .inr ⟨value, ?_⟩
          obtain ⟨none_left, kept⟩ | ⟨_, -, unset, -⟩ := ih rest_sets
          · exact ⟨by simp [none_left], by simpa using fresh, kept.holds holds⟩
          · rw [has_of_holds holds] at unset
            cases unset
        · have different : found.name ≠ field.name := fun equal =>
            same (name_injective equal.symm)
          have kept := others field same
          obtain ⟨none_left, further⟩ | ⟨value, one, unset, held⟩ := ih rest_sets
          · exact .inl ⟨by simpa [different] using none_left, kept.trans further⟩
          · exact .inr ⟨value, by simpa [different] using one, kept.has ▸ unset, held⟩

/-- Items set the fields of a kind each in its place; only the truth value may be left out. -/
theorem ofItems_eq_ok {expected : String} {known : List FieldName} {count taken : Nat}
    {items extra : List Value} (distinct : known.Nodup)
    (sets : ofItems expected known count fields items = .ok (result, taken, extra)) :
    (∀ field ∈ known,
      (∃ value, items[known.idxOf field]? = some value ∧ result.Holds value field) ∨
        (items[known.idxOf field]? = none ∧ field = .isTyping ∧ fields.SameAt result field)) ∧
      (∀ field, field ∉ known → fields.SameAt result field) ∧
      items.length ≤ known.length + extra.length := by
  induction known generalizing count fields items with
  | nil =>
    cases sets
    exact ⟨by simp, fun field _ => .refl _ field, by simp⟩
  | cons first rest ih =>
    obtain ⟨fresh, unrepeated⟩ := List.nodup_cons.mp distinct
    have elsewhere {field : FieldName} (member : field ∈ rest) :
        (first :: rest).idxOf field = rest.idxOf field + 1 :=
      List.idxOf_cons_ne _ fun same => fresh (same ▸ member)
    cases items with
    | nil =>
      cases first with
      | isTyping =>
        obtain ⟨placed, others, short⟩ := ih unrepeated sets
        refine ⟨?_, fun field absent => others field (List.not_mem_of_not_mem_cons absent), by simp⟩
        rintro field (_ | ⟨_, member⟩)
        · exact .inr ⟨by simp, rfl, others _ fresh⟩
        · simpa [elsewhere member] using placed field member
      | conversation | message | recipients => cases sets
    | cons value items =>
      have sets : (fields.set value first >>= fun after =>
          ofItems expected rest (count + 1) after items) = .ok (result, taken, extra) := by
        cases first <;> exact sets
      obtain ⟨after, sets, rest_sets⟩ := bind_eq_ok.mp sets
      obtain ⟨holds, kept⟩ := set_eq_ok sets
      obtain ⟨placed, others, short⟩ := ih unrepeated rest_sets
      refine ⟨?_, ?_, ?_⟩
      · rintro field (_ | ⟨_, member⟩)
        · exact .inl ⟨value, by simp, (others _ fresh).holds holds⟩
        · have different : field ≠ first := fun same => fresh (same ▸ member)
          rw [elsewhere member, List.getElem?_cons_succ]
          exact (placed field member).imp id fun ⟨past, truth, same⟩ =>
            ⟨past, truth, (kept field different).trans same⟩
      · intro field absent
        exact (kept field (List.ne_of_not_mem_cons absent)).trans
          (others field (List.not_mem_of_not_mem_cons absent))
      · simp only [List.length_cons]
        omega

end Fields

/-- The message of a kind holds what the fields hold, and true for a truth value left out. -/
theorem ClientMessage.ofFields_eq_ok {kind : ClientKind} {fields : Fields}
    {message : ClientMessage} (decodes : ofFields kind fields = .ok message) :
    message.kind = kind ∧ ∀ field ∈ kind.fields,
      (∀ value, fields.Holds value field → message.fields.Holds value field) ∧
      (fields.has field = false → field = .isTyping ∧ message.fields.isTyping = some true) := by
  obtain ⟨conversation, id, recipients, isTyping⟩ := fields
  cases kind <;> cases conversation <;> cases id <;> cases recipients <;> cases isTyping <;>
    cases decodes <;>
    simp [ClientMessage.kind, ClientKind.fields, Fields.Holds, Fields.has, ClientMessage.fields]

/-! ## The text of a message as a JSON text -/

variable {bound : Nat} {bytes rest : Bytes}

/-- A kind is found under its own name only. -/
theorem lookup?_known {name : String} {kind : ClientKind}
    (known : lookup? name ClientKind.known = some kind) : name = kind.name := by
  obtain ⟨entry, found, rfl⟩ := Option.map_eq_some_iff.mp known
  have named : ∀ entry ∈ ClientKind.known, entry.1 = entry.2.name := by decide
  rw [← named entry (List.mem_of_find?_eq_some found)]
  have same := List.find?_some found
  exact (beq_iff_eq.mp same).symm

/-- Where the name of a kind is read, a value is read that is this name, and there is less left. -/
theorem readValue_of_readVariant {expected : String} {kind : ClientKind}
    (reads : readVariant bound expected ClientKind.known bytes = .ok (kind, rest)) (depth : Nat) :
    readValue bound depth bytes = .ok (.string kind.name, rest) ∧ rest.length < bytes.length := by
  obtain ⟨⟨name, after⟩, readsName, reads⟩ := bind_eq_ok.mp reads
  have named : name = kind.name ∧ after = rest := by
    dsimp only at reads
    split at reads
    next known =>
      cases reads
      exact ⟨lookup?_known known, rfl⟩
    · cases reads
  obtain ⟨rfl, rfl⟩ := named
  unfold readText at readsName
  split at readsName
  · cases readsName
  next b inner skipped =>
    split at readsName
    next quote =>
      obtain rfl : b = 0x22 := by simpa using quote
      have fewer := length_skipBlanks bytes
      rw [skipped, List.length_cons] at fewer
      refine ⟨?_, Nat.lt_of_le_of_lt (length_readString readsName) fewer⟩
      have read : readScalar bound 0x22 inner = .ok (.string kind.name, after) :=
        mapOutcome_eq_ok.mpr ⟨kind.name, readsName, rfl⟩
      cases depth <;> simpa [readValue, skipped] using read
    · exact absurd readsName wrongType_ne_ok

/-- Members that are read with the kind among them are the members of an object: the kind is given
by one of them, and the others are those that are kept. -/
theorem readMembers_of_readTagged {rounds : Nat} {first : Bool} {kind? : Option ClientKind}
    {others : List (String × Value)} {kind : ClientKind} {content : Content} {after : Bytes}
    (reads : readTagged bound rounds first kind? others bytes = .ok (.ok (kind, content), rest))
    (ends : endMembers rest = .ok after) (done : List (String × Value))
    (first_eq : first = done.isEmpty) (kept : done.filter (·.1 != kindMember) = others)
    (kind_done : done.filter (·.1 == kindMember) =
      kind?.toList.map fun kind => (kindMember, .string kind.name)) :
    ∃ members,
      readMembers (readString bound) (readValue bound (maxDepth - 1)) rounds done bytes =
        .ok (members, after) ∧
      content = .members (members.filter (·.1 != kindMember)) ∧
      members.filter (·.1 == kindMember) = [(kindMember, .string kind.name)] := by
  induction rounds generalizing first kind? others done bytes with
  | zero => cases reads
  | succ rounds ih =>
    obtain ⟨⟨name?, behindName⟩, readsName, reads⟩ := bind_eq_ok.mp reads
    subst first_eq
    cases name? with
    | none =>
      have finished : kind? = some kind ∧ content = .members others.reverse ∧ behindName = rest := by
        cases kind? <;> cases reads
        exact ⟨rfl, rfl, rfl⟩
      obtain ⟨rfl, rfl, rfl⟩ := finished
      refine ⟨done.reverse, ?_, ?_, ?_⟩
      · exact bind_eq_ok.mpr ⟨_, readsName, bind_eq_ok.mpr ⟨_, ends, rfl⟩⟩
      · rw [List.filter_reverse, kept]
      · rw [List.filter_reverse, kind_done]
        rfl
    | some name =>
      dsimp only at reads
      split at reads
      next isKind =>
        obtain rfl : name = kindMember := by simpa using isKind
        split at reads
        · cases reads
        next unset =>
          have unset : kind? = none := by simpa using unset
          obtain ⟨behindColon, colon, reads⟩ := bind_eq_ok.mp reads
          obtain ⟨⟨met, behindKind⟩, readsKind, reads⟩ := bind_eq_ok.mp reads
          have value := (readValue_of_readVariant readsKind (maxDepth - 1)).1
          obtain ⟨members, readsRest, same⟩ :=
            ih reads ((kindMember, .string met.name) :: done) rfl (by simpa using kept)
              (by simp [kind_done, unset])
          refine ⟨members, ?_, same⟩
          exact bind_eq_ok.mpr ⟨_, readsName, bind_eq_ok.mpr ⟨_, colon,
            bind_eq_ok.mpr ⟨_, within_eq_ok.mpr value, readsRest⟩⟩⟩
      next notKind =>
        have notKind : name ≠ kindMember := by simpa using notKind
        obtain ⟨behindColon, colon, reads⟩ := bind_eq_ok.mp reads
        obtain ⟨⟨value, behindValue⟩, readsValue, reads⟩ := bind_eq_ok.mp reads
        obtain ⟨members, readsRest, same⟩ :=
          ih reads ((name, value) :: done) rfl (by simpa [notKind] using kept)
            (by simpa [notKind] using kind_done)
        refine ⟨members, ?_, same⟩
        exact bind_eq_ok.mpr ⟨_, readsName, bind_eq_ok.mpr ⟨_, colon,
          bind_eq_ok.mpr ⟨_, readsValue, readsRest⟩⟩⟩

/-- Items that are read after the kind are items of an array, given rounds enough. -/
theorem readItems_of_readRemaining {rounds allowed : Nat} {kept items : List Value} {after : Bytes}
    (reads : readListed.readRemaining bound rounds kept bytes = .ok (items, rest))
    (ends : endItems rest = .ok after) (enough : bytes.length < allowed) (first : Value) :
    readItems (readValue bound (maxDepth - 1)) allowed (kept ++ [first]) bytes =
      .ok (first :: items, after) := by
  induction rounds generalizing kept bytes allowed with
  | zero => cases reads
  | succ rounds ih =>
    obtain ⟨allowed, rfl⟩ : ∃ fewer, allowed = fewer + 1 := ⟨allowed - 1, by omega⟩
    obtain ⟨⟨more, behindComma⟩, looks, reads⟩ := bind_eq_ok.mp reads
    have looks_on : nextItem (kept ++ [first]).isEmpty bytes = .ok (more, behindComma) := by
      rwa [List.isEmpty_eq_false_iff.mpr (by simp)]
    cases more with
    | true =>
      obtain ⟨⟨value, behindValue⟩, readsValue, reads⟩ := bind_eq_ok.mp reads
      have fewer : behindValue.length < allowed := by
        have comma := length_lt_of_nextItem looks
        have shorter := shrinks_readValue _ _ readsValue
        omega
      exact bind_eq_ok.mpr ⟨_, looks_on,
        bind_eq_ok.mpr ⟨_, within_eq_ok.mpr readsValue, ih reads fewer⟩⟩
    | false =>
      cases reads
      refine bind_eq_ok.mpr ⟨_, looks_on, bind_eq_ok.mpr ⟨_, ends, ?_⟩⟩
      simp

/-- The value of a text from which kind and content of a message are read: an object or an array
with the kind among its members or in front of its items. -/
inductive Content.PartOf (kind : ClientKind) : Content → Value → Prop where
  | members {members : List (String × Value)}
      (kind_given : members.filter (·.1 == kindMember) = [(kindMember, .string kind.name)]) :
      PartOf kind (.members (members.filter (·.1 != kindMember))) (.object members)
  | items (items : List Value) : PartOf kind (.items items) (.array (.string kind.name :: items))

theorem readValue_array {depth : Nat} {inner : Bytes} (skipped : skipBlanks bytes = 0x5b :: inner) :
    readValue bound (depth + 1) bytes =
      mapOutcome Value.array (readItems (readValue bound depth) bound [] inner) := by
  simp [readValue, skipped]

theorem readValue_object {depth : Nat} {inner : Bytes}
    (skipped : skipBlanks bytes = 0x7b :: inner) :
    readValue bound (depth + 1) bytes =
      mapOutcome Value.object
        (readMembers (readString bound) (readValue bound depth) bound [] inner) := by
  simp [readValue, skipped]

/-- An array in which the kind is read, and then the other items, is read as a value. -/
theorem readItems_of_readListed {kind : ClientKind} {content : Content} {after : Bytes}
    (reads : readListed (boundOf bytes) rest = .ok (.ok (kind, content), after)) {behind : Bytes}
    (ends : endItems after = .ok behind) (inside : rest.length < bytes.length) :
    ∃ items, content = .items items ∧
      readItems (readValue (boundOf bytes) (maxDepth - 1)) (boundOf bytes) [] rest =
        .ok (.string kind.name :: items, behind) := by
  obtain ⟨⟨kind?, behindKind⟩, readsKind, reads⟩ := bind_eq_ok.mp reads
  cases kind? with
  | none => cases reads
  | some met =>
    obtain ⟨⟨items, behindItems⟩, readsRest, reads⟩ := bind_eq_ok.mp reads
    cases reads
    refine ⟨items, rfl, ?_⟩
    obtain ⟨⟨more, start⟩, looks, readsKind⟩ := bind_eq_ok.mp readsKind
    cases more with
    | false => cases readsKind
    | true =>
      obtain ⟨⟨named, behindName⟩, readsName, readsKind⟩ := bind_eq_ok.mp readsKind
      cases readsKind
      obtain ⟨readsValue, shorter⟩ :=
        readValue_of_readVariant (within_eq_ok.mp readsName) (maxDepth - 1)
      have started := length_nextItem looks
      have readsTail :=
        readItems_of_readRemaining readsRest ends (by omega : _ < bytes.length) (.string kind.name)
      exact bind_eq_ok.mpr ⟨_, looks, bind_eq_ok.mpr ⟨_, within_eq_ok.mpr readsValue, readsTail⟩⟩

/-- Where kind and content of a message are read, a value is read that they are part of. -/
theorem readValue_of_readKind {kind : ClientKind} {content : Content}
    (reads : readKind (boundOf bytes) bytes = .ok ((kind, content), rest)) :
    ∃ value, readValue (boundOf bytes) maxDepth bytes = .ok (value, rest) ∧
      content.PartOf kind value := by
  unfold readKind readRecord at reads
  split at reads
  · cases reads
  next b inner skipped =>
    split at reads
    next bracket =>
      obtain rfl : b = 0x5b := by simpa using bracket
      obtain ⟨⟨result, behind⟩, readsItems, closes⟩ := bind_eq_ok.mp reads
      cases result with
      | error complaint => cases closes
      | ok found =>
        obtain ⟨after, ends, closed⟩ := bind_eq_ok.mp closes
        cases closed
        have inside := length_skipBlanks bytes
        rw [skipped, List.length_cons] at inside
        obtain ⟨items, rfl, readsAll⟩ := readItems_of_readListed readsItems ends inside
        exact ⟨_, (readValue_array skipped).trans (mapOutcome_eq_ok.mpr ⟨_, readsAll, rfl⟩),
          .items items⟩
    split at reads
    next brace =>
      obtain rfl : b = 0x7b := by simpa using brace
      obtain ⟨⟨result, behind⟩, readsMembers, closes⟩ := bind_eq_ok.mp reads
      cases result with
      | error complaint => cases closes
      | ok found =>
        obtain ⟨after, ends, closed⟩ := bind_eq_ok.mp closes
        cases closed
        obtain ⟨members, readsAll, rfl, kind_given⟩ :=
          readMembers_of_readTagged readsMembers ends [] rfl rfl rfl
        exact ⟨_, (readValue_object skipped).trans (mapOutcome_eq_ok.mpr ⟨_, readsAll, rfl⟩),
          .members kind_given⟩
    · exact absurd reads wrongType_ne_ok

/-- No kind has a field twice. -/
theorem nodup_fields (kind : ClientKind) : kind.fields.Nodup := by cases kind <;> decide

/-- What is left out of an object or array whose content decodes is left out as such. -/
theorem has_of_sameAt_empty {fields : Fields} {field : FieldName}
    (unset : ({} : Fields).SameAt fields field) : fields.has field = false := by
  rw [← unset.has]
  cases field <;> rfl

/-- No field has the name of the tag. -/
theorem FieldName.name_ne_kindMember (field : FieldName) : field.name ≠ kindMember := by
  cases field <;> decide

/-- The kind is none of the members that give a field. -/
theorem filter_others {α : Type} (members : List (String × α)) (field : FieldName) :
    (members.filter (·.1 != kindMember)).filter (·.1 == field.name) =
      members.filter (·.1 == field.name) := by
  rw [List.filter_filter]
  refine List.filter_congr fun entry _ => ?_
  by_cases same : entry.1 = field.name <;> simp [same, field.name_ne_kindMember]

/-- A content that decodes to a message is part of values that say what the message says. -/
theorem writtenIn_of_ofContent {kind : ClientKind} {content : Content} {value : Value}
    {message : ClientMessage} (part : content.PartOf kind value)
    (decodes : ClientMessage.ofContent kind content = .ok message) : message.WrittenIn value := by
  cases part with
  | @members members kind_given =>
    obtain ⟨fields, sets, decodes⟩ := bind_eq_ok.mp decodes
    obtain ⟨rfl, held⟩ := ClientMessage.ofFields_eq_ok decodes
    refine ⟨by simp [givenIn, kind_given], fun field member => ?_, by simp⟩
    have set := Fields.ofMembers_eq_ok sets member
    rw [filter_others] at set
    obtain ⟨absent, unset⟩ | ⟨value, one, -, holds⟩ := set
    · exact .inr ⟨by simp [givenIn, absent], (held field member).2 (has_of_sameAt_empty unset)⟩
    · exact .inl ⟨value, by simp [givenIn, one], (held field member).1 value holds⟩
  | items items =>
    obtain ⟨⟨fields, taken, extra⟩, sets, decodes⟩ := bind_eq_ok.mp decodes
    obtain ⟨found, fits, finished⟩ := bind_eq_ok.mp decodes
    have complete : extra = [] ∧ found = message := by
      split at finished
      next empty =>
        cases finished
        exact ⟨by simpa using empty, rfl⟩
      · cases finished
    obtain ⟨rfl, rfl⟩ := complete
    obtain ⟨rfl, held⟩ := ClientMessage.ofFields_eq_ok fits
    obtain ⟨placed, -, short⟩ := Fields.ofItems_eq_ok (nodup_fields _) sets
    refine ⟨by simp [givenIn], fun field member => ?_, by simpa using short⟩
    obtain ⟨value, one, holds⟩ | ⟨absent, -, unset⟩ := placed field member
    · exact .inl ⟨value, by simp [givenIn, one], (held field member).1 value holds⟩
    · exact .inr ⟨by simp [givenIn, absent], (held field member).2 (has_of_sameAt_empty unset)⟩

/-- A text that decodes to a message is a JSON text whose value says what the message says. -/
theorem writtenIn_of_parse {text : Bytes} {message : ClientMessage}
    (decodes : ClientMessage.parse text = .ok message) :
    ∃ value, Json.parse text = .ok value ∧ message.WrittenIn value := by
  unfold ClientMessage.parse at decodes
  split at decodes
  · cases decodes
  next kind content rest reads =>
    split at decodes
    · cases decodes
    next found content_decodes =>
      split at decodes
      · cases decodes
      next ends =>
        cases decodes
        obtain ⟨value, readsValue, part⟩ := readValue_of_readKind reads
        refine ⟨value, ?_, writtenIn_of_ofContent part content_decodes⟩
        simp only [Json.parse, readWhole, readsValue, ends]

end Switchboard.Message
