import Switchboard.Proofs.Message.Decoding

/-!
# How messages may be laid out

A message may be written as any object that gives its kind and each of its fields once, in any order
and with blanks and escapes wherever JSON allows them; integers have to be written plainly, and true
may be left out. Further members, under other names than those of the message's own, may stand
anywhere and any number of times, if their values can be read. Exactly such texts decode to the
message, as far as objects go, and what is wrong with any other object can be told (`layout`).
-/

namespace Switchboard.Message

open Hub Json

/-! ## Objects that write a message -/

/-- A text is an object with these members, as they are written. -/
def IsObject (text : Bytes) (members : List (String × Term String)) : Prop :=
  ∃ rest, Spells IsText text (.object members) rest ∧ skipBlanks rest = []

/-- What the members of a name give, in order. -/
def valuesOf {α : Type} (name : String) (members : List (String × α)) : List α :=
  (members.filter (·.1 == name)).map (·.2)

/-- A term spells what a field holds, integers plainly. -/
def Fields.Spells (fields : Fields) (term : Term String) : FieldName → Prop
  | .conversation => ∃ n literal, fields.conversation = some n ∧ term = .number literal ∧
      literal.Plainly n.toInt
  | .message => ∃ n literal, fields.message = some n ∧ term = .number literal ∧
      literal.Plainly n.toInt
  | .recipients => ∃ users literals, fields.recipients = some users ∧
      term = .array (literals.map Term.number) ∧
      List.Forall₂ (fun literal (user : UserId) => literal.Plainly user.toInt) literals users
  | .isTyping => ∃ typing, fields.isTyping = some typing ∧ term = .bool typing

/-- Members give what a field holds, once; only true may be left out. -/
def Fields.WrittenOnce (fields : Fields) (members : List (String × Term String))
    (field : FieldName) : Prop :=
  (∃ term, valuesOf field.name members = [term] ∧ fields.Spells term field) ∨
    (valuesOf field.name members = [] ∧ field = .isTyping ∧ fields.isTyping = some true)

/-- A value can be read inside an object: it does not nest too deep, and its numbers are not too
large. -/
def CanBeRead (term : Term String) : Prop :=
  term.Each Literal.Readable ∧ term.Nests (maxDepth - 1)

/-- Members write a message. -/
structure ClientMessage.LaidOut (message : ClientMessage) (members : List (String × Term String)) :
    Prop where
  kind_once : valuesOf kindMember members = [.string message.kind.name]
  field_once : ∀ field ∈ message.kind.fields, message.fields.WrittenOnce members field
  further : ∀ name term, (name, term) ∈ members → name ≠ kindMember →
    (∀ field ∈ message.kind.fields, name ≠ field.name) → CanBeRead term

/-- What keeps members from writing a message. -/
inductive Flawed (members : List (String × Term String)) : Prop where
  | kind_missing (missing : valuesOf kindMember members = [])
  | kind_repeated (repeated : 2 ≤ (valuesOf kindMember members).length)
  /-- What is given as the kind is not the name of one. -/
  | kind_unknown {term : Term String} (given : term ∈ valuesOf kindMember members)
      (unknown : ∀ kind : ClientKind, term ≠ .string kind.name)
  | field_missing {kind : ClientKind} {field : FieldName}
      (given : valuesOf kindMember members = [.string kind.name]) (known : field ∈ kind.fields)
      (needed : field ≠ .isTyping) (missing : valuesOf field.name members = [])
  | field_repeated {kind : ClientKind} {field : FieldName}
      (given : valuesOf kindMember members = [.string kind.name]) (known : field ∈ kind.fields)
      (repeated : 2 ≤ (valuesOf field.name members).length)
  /-- A value is of the wrong type, or an integer too large or not written plainly. -/
  | field_mistyped {kind : ClientKind} {field : FieldName} {term : Term String}
      (given : valuesOf kindMember members = [.string kind.name]) (known : field ∈ kind.fields)
      (member : term ∈ valuesOf field.name members)
      (mistyped : ∀ fields : Fields, ¬ fields.Spells term field)
  | unreadable {name : String} {term : Term String} (member : (name, term) ∈ members)
      (unreadable : ¬ CanBeRead term)

/-! ## What a field is written as -/

namespace Fields

variable {fields : Fields} {field : FieldName} {value : Value} {term : Term String}

/-- The value of a field. -/
def value? (fields : Fields) : FieldName → Option Value
  | .conversation => fields.conversation.map int64ToJson
  | .message => fields.message.map int64ToJson
  | .recipients => fields.recipients.map fun users => .array (users.map int64ToJson)
  | .isTyping => fields.isTyping.map .bool

theorem toInt64_eq_ok_iff {n : Int64} : value.toInt64 = .ok n ↔ value = int64ToJson n := by
  constructor
  · intro decodes
    cases value with
    | integer k =>
      rw [Value.toInt64] at decodes
      split at decodes
      next inside =>
        cases decodes
        obtain ⟨lower, upper⟩ : -(Decimal.int64Bound : Int) ≤ k ∧ k < Decimal.int64Bound := by
          simpa using inside
        rw [int64ToJson, Int64.toInt_ofInt_of_le lower upper]
      next => cases decodes
    | _ => cases decodes
  · rintro rfl
    exact toInt64_int64ToJson n

theorem usersOf_eq_ok_iff {users : List UserId} :
    usersOf value = .ok users ↔ value = .array (users.map int64ToJson) := by
  have items (values : List Value) :
      values.mapM Value.toInt64 = .ok users ↔ values = users.map int64ToJson := by
    induction values generalizing users with
    | nil => cases users <;> simp [pure, Except.pure]
    | cons first rest ih =>
      rw [List.mapM_cons]
      constructor
      · intro decodes
        obtain ⟨user, decodesFirst, decodes⟩ := bind_eq_ok.mp decodes
        obtain ⟨others, decodesRest, decodes⟩ := bind_eq_ok.mp decodes
        cases decodes
        rw [List.map_cons, ← ih.mp decodesRest, ← toInt64_eq_ok_iff.mp decodesFirst]
      · intro same
        cases users with
        | nil => cases same
        | cons user users =>
          obtain ⟨head, tail⟩ := List.cons.inj same
          exact bind_eq_ok.mpr ⟨user, toInt64_eq_ok_iff.mpr head,
            bind_eq_ok.mpr ⟨users, ih.mpr tail, rfl⟩⟩
  cases value with
  | array values =>
    rw [usersOf, items]
    exact (Value.array.injEq _ _).to_iff.symm
  | _ => simp [usersOf]

theorem boolOf_eq_ok_iff {typing : Bool} : boolOf value = .ok typing ↔ value = .bool typing := by
  cases value <;> simp [boolOf]

theorem holds_iff_value? : fields.Holds value field ↔ fields.value? field = some value := by
  cases field <;>
    simp only [Holds, value?, toInt64_eq_ok_iff, usersOf_eq_ok_iff, boolOf_eq_ok_iff,
      Option.map_eq_some_iff] <;>
    grind

theorem forall₂_eq_ofInt_iff {literals : List Literal} {users : List UserId} :
    List.Forall₂ (fun literal (user : UserId) => literal = .ofInt user.toInt) literals users ↔
      literals = users.map fun user => .ofInt user.toInt := by
  rw [← List.forall₂_map_right_iff, List.forall₂_eq_eq_eq]

theorem term_users (users : List UserId) : (Value.array (users.map int64ToJson)).term =
    .array ((users.map fun user => Literal.ofInt user.toInt).map Term.number) := by
  rw [Value.term, itemTerms_eq_map, List.map_map, List.map_map]
  rfl

theorem spells_iff_value? :
    fields.Spells term field ↔ ∃ value, fields.value? field = some value ∧ value.term = term := by
  cases field <;>
    simp only [Spells, value?, Literal.plainly_iff, forall₂_eq_ofInt_iff, Option.map_eq_some_iff]
  case conversation | message =>
    constructor
    · rintro ⟨n, _, held, rfl, rfl⟩
      exact ⟨_, ⟨n, held, rfl⟩, rfl⟩
    · rintro ⟨_, ⟨n, held, rfl⟩, rfl⟩
      exact ⟨n, _, held, rfl, rfl⟩
  case recipients =>
    constructor
    · rintro ⟨users, _, held, rfl, rfl⟩
      exact ⟨_, ⟨users, held, rfl⟩, term_users users⟩
    · rintro ⟨_, ⟨users, held, rfl⟩, rfl⟩
      exact ⟨users, _, held, term_users users, rfl⟩
  case isTyping =>
    constructor
    · rintro ⟨typing, held, rfl⟩
      exact ⟨_, ⟨typing, held, rfl⟩, rfl⟩
    · rintro ⟨_, ⟨typing, held, rfl⟩, rfl⟩
      exact ⟨typing, held, rfl⟩

/-- A field is written with plain integers, and nests at most once. -/
theorem plain_of_value? (found : fields.value? field = some value) :
    value.term.Each Literal.IsPlain ∧ value.term.Nests 1 := by
  cases field <;> obtain ⟨held, -, rfl⟩ := Option.map_eq_some_iff.mp found
  case conversation | message => exact ⟨.number (isPlain_int64 held), .number _⟩
  case recipients =>
    rw [term_users]
    constructor
    · refine .array fun item member => ?_
      simp only [List.map_map, List.mem_map] at member
      obtain ⟨user, -, rfl⟩ := member
      exact .number (isPlain_int64 user)
    · refine .array fun item member => ?_
      simp only [List.map_map, List.mem_map] at member
      obtain ⟨user, -, rfl⟩ := member
      exact .number _
  case isTyping => exact ⟨.bool held, .bool held⟩

/-- What is read of a field's term is its value, and of no other term. -/
theorem holds_iff_spells (off : value.ReadOff term) :
    fields.Holds value field ↔ fields.Spells term field := by
  rw [holds_iff_value?, spells_iff_value?]
  constructor
  · intro found
    obtain ⟨plain, -⟩ := plain_of_value? found
    exact ⟨value, found, (off.eq_term (plain.mono fun _ isPlain => isPlain.isWhole)).symm⟩
  · rintro ⟨other, found, rfl⟩
    rw [off.eq_of_plain (plain_of_value? found).1]
    exact found

theorem WrittenOnce.has {members : List (String × Term String)}
    (written : fields.WrittenOnce members field) : fields.has field = true := by
  obtain ⟨term, -, spells⟩ | ⟨-, rfl, isTrue⟩ := written
  · obtain ⟨value, found, -⟩ := spells_iff_value?.mp spells
    exact has_of_holds (holds_iff_value?.mpr found)
  · simp [Fields.has, isTrue]

theorem WrittenOnce.congr {other : Fields} {members : List (String × Term String)}
    (written : fields.WrittenOnce members field) (same : fields.SameAt other field) :
    other.WrittenOnce members field := by
  obtain ⟨term, one, spells⟩ | ⟨absent, rfl, isTrue⟩ := written
  · obtain ⟨value, found, rfl⟩ := spells_iff_value?.mp spells
    have holds := same.holds (holds_iff_value?.mpr found)
    exact .inl ⟨_, one, spells_iff_value?.mpr ⟨value, holds_iff_value?.mp holds, rfl⟩⟩
  · exact .inr ⟨absent, rfl, same.symm.trans isTrue⟩

/-- What a field is written as can be read. -/
theorem canBeRead_of_spells (spells : fields.Spells term field) : CanBeRead term := by
  obtain ⟨value, found, rfl⟩ := spells_iff_value?.mp spells
  obtain ⟨plain, nests⟩ := plain_of_value? found
  exact ⟨plain.mono fun _ isPlain => isPlain.isWhole.readable, nests.mono (by decide)⟩

end Fields

/-! ## Members as they are written and as they are read -/

theorem mem_valuesOf {α : Type} {name : String} {members : List (String × α)} {value : α} :
    value ∈ valuesOf name members ↔ (name, value) ∈ members := by
  simp [valuesOf]

section

variable {members : List (String × Term String)} {values : List (String × Value)}
  {message : ClientMessage}

/-- Under each name, values are read off what is written under it. -/
theorem forall₂_valuesOf (off : (Value.object values).ReadOff (.object members)) (name : String) :
    List.Forall₂ Value.ReadOff (valuesOf name values) (valuesOf name members) := by
  have alike := off.forall₂_members
  clear off
  induction alike with
  | nil => exact .nil
  | @cons read member values members same _ ih =>
    obtain ⟨sameName, off⟩ := same
    unfold valuesOf at ih ⊢
    rw [List.filter_cons, List.filter_cons, sameName]
    split
    · exact .cons off ih
    · exact ih

/-- Where one value is written under a name, one is read. -/
theorem valuesOf_eq_singleton_iff (off : (Value.object values).ReadOff (.object members))
    (name : String) {isValue : Value → Prop} {isTerm : Term String → Prop}
    (alike : ∀ {value term}, value.ReadOff term → (isValue value ↔ isTerm term)) :
    (∃ value, valuesOf name values = [value] ∧ isValue value) ↔
      ∃ term, valuesOf name members = [term] ∧ isTerm term := by
  have read := forall₂_valuesOf off name
  constructor
  · rintro ⟨value, one, holds⟩
    rw [one] at read
    obtain ⟨term, others, offTerm, none_left, written⟩ := List.forall₂_cons_left_iff.mp read
    rw [List.forall₂_nil_left_iff.mp none_left] at written
    exact ⟨term, written, (alike offTerm).mp holds⟩
  · rintro ⟨term, one, holds⟩
    rw [one] at read
    obtain ⟨value, others, offTerm, none_left, given⟩ := List.forall₂_cons_right_iff.mp read
    rw [List.forall₂_nil_right_iff.mp none_left] at given
    exact ⟨value, given, (alike offTerm).mpr holds⟩

theorem valuesOf_eq_nil_iff (off : (Value.object values).ReadOff (.object members))
    (name : String) : valuesOf name values = [] ↔ valuesOf name members = [] := by
  rw [← List.length_eq_zero_iff, (forall₂_valuesOf off name).length_eq, List.length_eq_zero_iff]

/-- An object says what a message says if and only if its members write this message. -/
theorem writtenIn_iff_laidOut (off : (Value.object values).ReadOff (.object members))
    (nests : ∀ member ∈ members, member.2.Nests (maxDepth - 1)) :
    message.WrittenIn (.object values) ↔ message.LaidOut members := by
  have kind_iff : valuesOf kindMember values = [.string message.kind.name] ↔
      valuesOf kindMember members = [.string message.kind.name] := by
    simpa using valuesOf_eq_singleton_iff off kindMember fun off =>
      off.eq_string_iff message.kind.name
  have field_iff (field : FieldName) :
      ((∃ value, valuesOf field.name values = [value] ∧ message.fields.Holds value field) ∨
        (valuesOf field.name values = [] ∧ field = .isTyping ∧
          message.fields.isTyping = some true)) ↔
      message.fields.WrittenOnce members field :=
    or_congr (valuesOf_eq_singleton_iff off field.name Fields.holds_iff_spells)
      (and_congr_left' (valuesOf_eq_nil_iff off field.name))
  constructor
  · rintro ⟨kind_given, field_given, -⟩
    refine ⟨kind_iff.mp kind_given, fun field known => (field_iff field).mp (field_given field known),
      fun name term member _ _ => ?_⟩
    obtain ⟨-, isRead⟩ := off
    cases isRead with
    | object each =>
      exact ⟨(each _ member).mono fun _ isRead => isRead.readable, nests _ member⟩
  · rintro ⟨kind_once, field_once, -⟩
    exact ⟨kind_iff.mpr kind_once, fun field known => (field_iff field).mpr (field_once field known),
      by simp⟩

/-! ## Objects that are read -/

/-- Where members write a message, each of them can be read. -/
theorem ClientMessage.LaidOut.canBeRead (laidOut : message.LaidOut members) {name : String}
    {term : Term String} (member : (name, term) ∈ members) : CanBeRead term := by
  have given := mem_valuesOf.mpr member
  by_cases isKind : name = kindMember
  · rw [isKind, laidOut.kind_once] at given
    obtain rfl := List.mem_singleton.mp given
    exact ⟨.string _, .string _⟩
  by_cases isField : ∃ field ∈ message.kind.fields, name = field.name
  · obtain ⟨field, known, rfl⟩ := isField
    obtain ⟨written, one, spells⟩ | ⟨absent, -⟩ := laidOut.field_once field known
    · rw [one] at given
      obtain rfl := List.mem_singleton.mp given
      exact Fields.canBeRead_of_spells spells
    · rw [absent] at given
      cases given
  · have others : ∀ field ∈ message.kind.fields, name ≠ field.name :=
      fun field known same => isField ⟨field, known, same⟩
    exact laidOut.further name term member isKind others

end

variable {text : Bytes} {members : List (String × Term String)} {message : ClientMessage}

/-- A text is an object in one way only. -/
theorem IsObject.unique {others : List (String × Term String)} (isObject : IsObject text members)
    (also : IsObject text others) : members = others := by
  obtain ⟨rest, spells, blank⟩ := isObject
  obtain ⟨left, spellsOthers, blankLeft⟩ := also
  obtain ⟨same, -⟩ := Spells.unique functional_isText (.object members) spells spellsOthers
    (ends_of_skipBlanks blank) (ends_of_skipBlanks blankLeft)
  exact (Term.object.inj same)

/-- A text that writes a message decodes to it. -/
theorem parse_of_laidOut (isObject : IsObject text members) (laidOut : message.LaidOut members) :
    ClientMessage.parse text = .ok message := by
  obtain ⟨rest, spells, blank⟩ := isObject
  have ends := ends_of_skipBlanks blank
  have readable : (Term.object members).Each Literal.Readable :=
    .object fun _ isMember => (laidOut.canBeRead isMember).1
  have nests : ∀ member ∈ members, member.2.Nests (maxDepth - 1) :=
    fun _ isMember => (laidOut.canBeRead isMember).2
  have deep : (Term.object members).Nests maxDepth := .object nests
  obtain ⟨value, reads⟩ := takes_readValue readable deep spells ends
    (show text.length < boundOf text from Nat.lt_succ_self _)
  obtain ⟨off, -⟩ := term_of_readValue reads spells ends ends
  obtain ⟨values, rfl⟩ := off.exists_members
  exact parse_of_writtenIn reads blank ((writtenIn_iff_laidOut off nests).mpr laidOut)

/-- What begins as an object does is one. -/
theorem exists_members_of_brace {inner rest : Bytes} {term : Term String}
    (brace : Next text 0x7b inner) (spells : Spells IsText text term rest) :
    ∃ members, term = .object members := by
  obtain ⟨b, after, next, shape, -⟩ := spells.exists_next
  obtain ⟨rfl, -⟩ := brace.unique next
  cases term with
  | object members => exact ⟨members, rfl⟩
  | bool value => cases value <;> cases shape
  | _ => cases shape

/-- A text that begins as an object and decodes is an object. -/
theorem exists_laidOut_of_parse {inner : Bytes} (brace : Next text 0x7b inner)
    (decodes : ClientMessage.parse text = .ok message) :
    ∃ members, IsObject text members ∧ message.LaidOut members := by
  obtain ⟨value, parses, written⟩ := writtenIn_of_parse decodes
  obtain ⟨rest, reads, ended⟩ := readWhole_eq_ok.mp parses
  obtain ⟨term, spells, off⟩ := spells_of_readValue reads
  obtain ⟨members, rfl⟩ := exists_members_of_brace brace spells
  obtain ⟨values, rfl⟩ := off.exists_members
  have deep := nests_of_readValue reads
  rw [off.1] at deep
  cases nests_of_sent deep with
  | object nests =>
    exact ⟨members, ⟨rest, spells, ended⟩, (writtenIn_iff_laidOut off nests).mp written⟩

/-- Of a text that is an object, exactly the messages that its members write are decoded. -/
theorem parse_eq_ok_iff (isObject : IsObject text members) :
    ClientMessage.parse text = .ok message ↔ message.LaidOut members := by
  refine ⟨fun decodes => ?_, parse_of_laidOut isObject⟩
  obtain ⟨rest, spells, ended⟩ := isObject
  cases spells with
  | object brace inside =>
    obtain ⟨others, also, laidOut⟩ := exists_laidOut_of_parse brace decodes
    rwa [IsObject.unique ⟨rest, .object brace inside, ended⟩ also]

/-! ## The order of members -/

theorem perm_valuesOf {α : Type} {members others : List (String × α)} (perm : members.Perm others)
    (name : String) : (valuesOf name members).Perm (valuesOf name others) :=
  (perm.filter _).map _

/-- A message is written by the same members in another order. -/
theorem ClientMessage.LaidOut.perm {others : List (String × Term String)}
    (laidOut : message.LaidOut members) (perm : members.Perm others) : message.LaidOut others where
  kind_once := by
    have same := perm_valuesOf perm.symm kindMember
    rw [laidOut.kind_once] at same
    exact List.perm_singleton.mp same
  field_once field known := by
    have same := perm_valuesOf perm.symm field.name
    obtain ⟨term, one, spells⟩ | ⟨absent, default⟩ := laidOut.field_once field known
    · rw [one] at same
      exact .inl ⟨term, List.perm_singleton.mp same, spells⟩
    · rw [absent] at same
      exact .inr ⟨List.perm_nil.mp same, default⟩
  further name term member := laidOut.further name term (perm.mem_iff.mpr member)

/-! ## What is wrong with other objects -/

theorem ClientMessage.LaidOut.kind_eq {kind : ClientKind} (laidOut : message.LaidOut members)
    (given : valuesOf kindMember members = [.string kind.name]) : kind = message.kind := by
  rw [laidOut.kind_once] at given
  exact ClientKind.name_injective (Term.string.inj (List.cons.inj given).1).symm

/-- There is nothing wrong with members that write a message. -/
theorem not_flawed_of_laidOut (laidOut : message.LaidOut members) : ¬ Flawed members := by
  intro flawed
  cases flawed with
  | kind_missing missing =>
    rw [laidOut.kind_once] at missing
    cases missing
  | kind_repeated repeated =>
    rw [laidOut.kind_once] at repeated
    exact absurd repeated (by simp)
  | kind_unknown given unknown =>
    rw [laidOut.kind_once] at given
    exact unknown _ (List.mem_singleton.mp given)
  | field_missing given known needed missing =>
    obtain rfl := laidOut.kind_eq given
    obtain ⟨term, one, -⟩ | ⟨-, isTyping, -⟩ := laidOut.field_once _ known
    · rw [one] at missing
      cases missing
    · exact needed isTyping
  | field_repeated given known repeated =>
    obtain rfl := laidOut.kind_eq given
    obtain ⟨term, one, -⟩ | ⟨absent, -⟩ := laidOut.field_once _ known
    · rw [one] at repeated
      exact absurd repeated (by simp)
    · rw [absent] at repeated
      exact absurd repeated (by simp)
  | field_mistyped given known member mistyped =>
    obtain rfl := laidOut.kind_eq given
    obtain ⟨term, one, spells⟩ | ⟨absent, -⟩ := laidOut.field_once _ known
    · rw [one] at member
      obtain rfl := List.mem_singleton.mp member
      exact mistyped _ spells
    · rw [absent] at member
      cases member
  | unreadable member unreadable => exact unreadable (laidOut.canBeRead member)

/-- The fields that are each taken from a record of their own. -/
def Fields.gather (each : FieldName → Fields) : Fields where
  conversation := (each .conversation).conversation
  message := (each .message).message
  recipients := (each .recipients).recipients
  isTyping := (each .isTyping).isTyping

theorem Fields.sameAt_gather (each : FieldName → Fields) (field : FieldName) :
    (each field).SameAt (gather each) field := by
  cases field <;> rfl

/-- A message of a kind is made of fields that are all there. -/
theorem ClientMessage.exists_sameAt {kind : ClientKind} {fields : Fields}
    (has : ∀ field ∈ kind.fields, fields.has field = true) :
    ∃ message : ClientMessage, message.kind = kind ∧
      ∀ field ∈ message.kind.fields, fields.SameAt message.fields field := by
  obtain ⟨conversation, id, recipients, isTyping⟩ := fields
  cases kind <;>
    simp only [ClientKind.fields, List.forall_mem_cons, Fields.has, Option.isSome_iff_exists] at has
  case typing =>
    obtain ⟨⟨conversation, rfl⟩, ⟨recipients, rfl⟩, ⟨isTyping, rfl⟩, -⟩ := has
    exact ⟨.typing conversation recipients isTyping, rfl,
      by simp [ClientMessage.kind, ClientKind.fields, Fields.SameAt, ClientMessage.fields]⟩
  case read =>
    obtain ⟨⟨conversation, rfl⟩, ⟨id, rfl⟩, ⟨recipients, rfl⟩, -⟩ := has
    exact ⟨.read conversation id recipients, rfl,
      by simp [ClientMessage.kind, ClientKind.fields, Fields.SameAt, ClientMessage.fields]⟩
  case delivered =>
    obtain ⟨⟨conversation, rfl⟩, ⟨id, rfl⟩, ⟨recipients, rfl⟩, -⟩ := has
    exact ⟨.delivered conversation id recipients, rfl,
      by simp [ClientMessage.kind, ClientKind.fields, Fields.SameAt, ClientMessage.fields]⟩
  case ping => exact ⟨.ping, rfl, by simp [ClientMessage.kind, ClientKind.fields]⟩

/-- Fields that are each written by members make a message that is. -/
theorem exists_message {kind : ClientKind}
    (each : ∀ field ∈ kind.fields, ∃ fields : Fields, fields.WrittenOnce members field) :
    ∃ message : ClientMessage, message.kind = kind ∧
      ∀ field ∈ message.kind.fields, message.fields.WrittenOnce members field := by
  -- For each field, a record of which nothing but this field counts.
  have total (field : FieldName) :
      ∃ fields : Fields, field ∈ kind.fields → fields.WrittenOnce members field := by
    by_cases known : field ∈ kind.fields
    · exact (each field known).imp fun _ written _ => written
    · exact ⟨{}, fun also => absurd also known⟩
  choose fieldsOf written using total
  have has : ∀ field ∈ kind.fields, (Fields.gather fieldsOf).has field = true := by
    intro field known
    rw [← (Fields.sameAt_gather fieldsOf field).has]
    exact (written field known).has
  obtain ⟨message, rfl, same⟩ := ClientMessage.exists_sameAt has
  refine ⟨message, rfl, fun field known => (written field known).congr ?_⟩
  exact (Fields.sameAt_gather fieldsOf field).trans (same field known)

/-- Members with which there is nothing wrong write a message. -/
theorem exists_laidOut_of_not_flawed (sound : ¬ Flawed members) :
    ∃ message : ClientMessage, message.LaidOut members := by
  -- Whatever else than one value stood under the kind, or one or none under a field, is a flaw.
  have given : ∃ kind : ClientKind, valuesOf kindMember members = [.string kind.name] := by
    cases values : valuesOf kindMember members with
    | nil => exact absurd (.kind_missing values) sound
    | cons term others =>
      cases others with
      | cons second others => exact absurd (.kind_repeated (by simp [values])) sound
      | nil =>
        by_contra unknown
        have isGiven : term ∈ valuesOf kindMember members := by simp [values]
        refine sound (.kind_unknown isGiven fun kind same => unknown ⟨kind, ?_⟩)
        rw [same]
  obtain ⟨kind, given⟩ := given
  have each : ∀ field ∈ kind.fields, ∃ fields : Fields, fields.WrittenOnce members field := by
    intro field known
    cases values : valuesOf field.name members with
    | nil =>
      have default : field = .isTyping := by
        by_contra needed
        exact sound (.field_missing given known needed values)
      exact ⟨{ isTyping := some true }, .inr ⟨values, default, rfl⟩⟩
    | cons term others =>
      cases others with
      | cons second others => exact absurd (.field_repeated given known (by simp [values])) sound
      | nil =>
        have isGiven : term ∈ valuesOf field.name members := by simp [values]
        have typed : ∃ fields : Fields, fields.Spells term field := by
          by_contra mistyped
          exact sound (.field_mistyped given known isGiven (not_exists.mp mistyped))
        exact typed.imp fun fields spells => .inl ⟨term, values, spells⟩
  obtain ⟨message, rfl, written⟩ := exists_message each
  refine ⟨message, given, written, fun name term member _ _ => ?_⟩
  by_contra unreadable
  exact sound (.unreadable member unreadable)

/-! ## The layouts of a message -/

/-- What a text decodes to, as far as objects go. -/
structure Layout (text : Bytes) : Prop where
  /-- An object decodes to the message that its members write, and to no other. -/
  decodes_iff : ∀ members message, IsObject text members →
    (ClientMessage.parse text = .ok message ↔ message.LaidOut members)
  /-- Objects with the same members, in whatever order and form, decode to the same. -/
  decodes_alike : ∀ other members others message, IsObject text members → IsObject other others →
    members.Perm others →
    (ClientMessage.parse text = .ok message ↔ ClientMessage.parse other = .ok message)
  /-- What begins as an object does and decodes is an object. -/
  is_object : ∀ message inner, Next text 0x7b inner → ClientMessage.parse text = .ok message →
    ∃ members, IsObject text members
  /-- An object is an error if and only if something is wrong with its members. -/
  error_iff : ∀ members, IsObject text members →
    ((∃ error, ClientMessage.parse text = .error error) ↔ Flawed members)

/-- An object decodes to a message if its members write this message, in whatever order and form,
and if they write none, something is wrong with them. -/
theorem layout (text : Bytes) : Layout text where
  decodes_iff members message isObject := parse_eq_ok_iff isObject
  decodes_alike other members others message isObject isOther perm := by
    rw [parse_eq_ok_iff isObject, parse_eq_ok_iff isOther]
    exact ⟨fun laidOut => laidOut.perm perm, fun laidOut => laidOut.perm perm.symm⟩
  is_object message inner brace decodes :=
    (exists_laidOut_of_parse brace decodes).imp fun _ => And.left
  error_iff members isObject := by
    constructor
    · rintro ⟨error, fails⟩
      by_contra sound
      obtain ⟨message, laidOut⟩ := exists_laidOut_of_not_flawed sound
      cases fails.symm.trans (parse_of_laidOut isObject laidOut)
    · intro flawed
      cases outcome : ClientMessage.parse text with
      | error error => exact ⟨error, rfl⟩
      | ok message =>
        exact absurd flawed (not_flawed_of_laidOut ((parse_eq_ok_iff isObject).mp outcome))

/-- The members of a message among others, with blanks and an escape. -/
def shuffled : Bytes :=
  ("\x7b \"is_typing\" : \x7b\x7d, \"recipients\":[2 ,-3], \"x\":-0.5e3,\"message_id\":7, " ++
    "\"\\u0074ype\":\"read\", \"x\":null,\"conversation_id\":1\x7d ").toUTF8.toList

theorem layout_shuffled : ∃ members, IsObject shuffled members ∧
    (ClientMessage.read 1 7 [2, -3]).LaidOut members := by
  have given : (ClientMessage.parse shuffled).toOption = some (.read 1 7 [2, -3]) := by
    decide +kernel
  have decodes : ClientMessage.parse shuffled = .ok (.read 1 7 [2, -3]) := by
    cases outcome : ClientMessage.parse shuffled with
    | error error => simp [outcome, Except.toOption] at given
    | ok message => simpa [outcome, Except.toOption] using given
  have brace : Next shuffled 0x7b (shuffled.drop 1) := by
    rw [Next]
    decide +kernel
  obtain ⟨members, isObject⟩ := (layout shuffled).is_object _ _ brace decodes
  exact ⟨members, isObject, ((layout shuffled).decodes_iff members _ isObject).mp decodes⟩

end Switchboard.Message
