import Switchboard.Api.Body
import Switchboard.Proofs.Json.Acceptance

/-!
# The payload of a body

Where the payload stands in a body that can be read: it is the only member of that name in an
object, or the last item of an array (`Carries`). Whatever else is in the body is spelled like JSON,
and what is read of the payload is what the reader makes of the term that stands there
(`carries_of_publishBody`, `carries_of_directBody`).
-/

namespace Switchboard.Api

open Hub Json

variable {bound : Nat} {bytes rest : Bytes}

/-! ## Parts of a body -/

/-- The bytes from the start of a value on, and those behind it. -/
structure Span where
  start : Bytes
  behind : Bytes

/-- A value stands at the front of bytes. What its strings hold does not matter. -/
inductive Passed : Bytes → Span → Bytes → Prop where
  | value {start behind : Bytes} {term : Term Unit} (spells : Spells Loose start term behind) :
      Passed start ⟨start, behind⟩ behind

/-- The payload of a body spells a term. In an array it stands last, at `index`. -/
inductive Carries (index : Nat) : Bytes → Term String → Prop where
  | member {body opened rest : Bytes} {members : List (String × Span)} {payload : Span}
      {term : Term String} (brace : Next body 0x7b opened)
      (inside : Members IsText Passed true opened members rest)
      (only : members.filter (·.1 = "payload") = [("payload", payload)])
      (spells : Spells IsText payload.start term payload.behind) : Carries index body term
  | item {body opened rest : Bytes} (before : List Span) {payload : Span} {term : Term String}
      (bracket : Next body 0x5b opened)
      (inside : Items Passed true opened (before ++ [payload]) rest)
      (place : before.length = index)
      (spells : Spells IsText payload.start term payload.behind) : Carries index body term

/-- What is spelled can be passed over. -/
theorem passed_of_spells {term : Term String} (spells : Spells IsText bytes term rest) :
    Passed bytes ⟨bytes, rest⟩ rest := by
  obtain ⟨loose, passed⟩ := spells.loose
  exact .value passed

/-! ## A body carries one payload -/

/-- What is passed over ends at one place only. -/
theorem uniqueAt_passed (span : Span) : UniqueAt Passed span := by
  intro bytes rest found other passed also ends otherEnds
  obtain ⟨spells⟩ := passed
  obtain ⟨otherSpells⟩ := also
  obtain ⟨-, rfl⟩ := Spells.unique functional_loose _ spells otherSpells ends otherEnds
  exact ⟨rfl, rfl⟩

/-- A number ends where an item ends. -/
theorem ends_of_mem_items {start : Bool} {spans : List Span}
    (items : Items Passed start bytes spans rest) {span : Span} (member : span ∈ spans) :
    Ends span.behind := by
  induction items with
  | done close => cases member
  | next between head tail ih =>
    rcases List.mem_cons.mp member with rfl | later
    · obtain ⟨spells⟩ := head
      exact tail.ends
    · exact ih later

/-- A number ends where the value of a member ends. -/
theorem ends_of_mem_members {start : Bool} {members : List (String × Span)}
    (isMembers : Members IsText Passed start bytes members rest) {name : String} {span : Span}
    (member : (name, span) ∈ members) : Ends span.behind := by
  induction isMembers with
  | done close => cases member
  | next between quote spellsName colon head tail ih =>
    rcases List.mem_cons.mp member with same | later
    · cases same
      obtain ⟨spells⟩ := head
      exact tail.ends
    · exact ih later

/-- A body carries one payload at most. -/
theorem Carries.unique {index : Nat} {term other : Term String} (carries : Carries index bytes term)
    (also : Carries index bytes other) : term = other := by
  have alike {span : Span} (ends : Ends span.behind)
      (spells : Spells IsText span.start term span.behind)
      (otherSpells : Spells IsText span.start other span.behind) : term = other :=
    (Spells.unique functional_isText term spells otherSpells ends ends).1
  cases carries with
  | member brace inside only spells =>
    cases also with
    | member otherBrace otherInside otherOnly otherSpells =>
      obtain ⟨-, rfl⟩ := brace.unique otherBrace
      obtain ⟨rfl, -⟩ := inside.unique functional_isText (fun _ span _ => uniqueAt_passed span)
        otherInside
      rw [only] at otherOnly
      obtain ⟨rfl⟩ := otherOnly
      have member := List.mem_of_mem_filter (only ▸ List.mem_singleton_self _)
      exact alike (ends_of_mem_members inside member) spells otherSpells
    | item _ bracket => exact absurd (brace.unique bracket).1 (by decide)
  | item before bracket inside place spells =>
    cases also with
    | member brace => exact absurd (bracket.unique brace).1 (by decide)
    | item otherBefore otherBracket otherInside otherPlace otherSpells =>
      obtain ⟨-, rfl⟩ := bracket.unique otherBracket
      have opens {bytes : Bytes} {span : Span} {rest : Bytes} (passed : Passed bytes span rest)
          (after : Bytes) : ¬ Next bytes 0x5d after := by
        obtain ⟨spells⟩ := passed
        exact spells.not_close after
      obtain ⟨same, -⟩ := inside.unique opens (fun span _ => uniqueAt_passed span) otherInside
      obtain ⟨rfl, last⟩ := List.append_inj same (place.trans otherPlace.symm)
      obtain ⟨rfl⟩ := last
      exact alike (ends_of_mem_items inside (by simp)) spells otherSpells

/-! ## Fields -/

/-- A number that is read is spelled where it stands. -/
theorem spells_of_readInt64 {user : Int64} (reads : readInt64 bound bytes = .ok (user, rest)) :
    ∃ term, Spells IsText bytes term rest := by
  unfold readInt64 at reads
  split at reads
  · cases reads
  next b after skipped =>
    split at reads
    · split at reads
      · cases reads
      next value left readsScalar =>
        obtain ⟨term, spells, -⟩ := spells_of_readScalar skipped readsScalar
        split at reads
        · cases reads
          exact ⟨term, spells⟩
        · cases reads
    · exact absurd reads wrongType_ne_ok

/-- A list of users is spelled where it stands. -/
theorem spells_of_readUsers {users : List UserId}
    (reads : readUsers bound bytes = .ok (users, rest)) :
    ∃ term, Spells IsText bytes term rest := by
  unfold readUsers readArray at reads
  split at reads
  · cases reads
  next b after skipped =>
    split at reads
    next bracket =>
      rw [eq_of_beq bracket] at skipped
      obtain ⟨users, rfl, isUsers⟩ := items_of_readItems reads
      have turns (user : Int64) (member : user ∈ users) (bytes rest : Bytes)
          (reads : readInt64 bound (skipBlanks bytes) = .ok (user, rest)) :
          ∃ term, Spells IsText bytes term rest ∧ True :=
        (spells_of_readInt64 reads).imp fun term spells =>
          ⟨spells.congr_skipBlanks (skipBlanks_skipBlanks _).symm, trivial⟩
      obtain ⟨terms, isTerms, -⟩ := isUsers.transfer turns
      exact ⟨.array terms, .array skipped isTerms⟩
    next => exact absurd reads wrongType_ne_ok

/-- A text is spelled where it stands. -/
theorem spells_of_readText {expected text : String}
    (reads : readText bound expected bytes = .ok (text, rest)) :
    ∃ term, Spells IsText bytes term rest := by
  unfold readText at reads
  split at reads
  · cases reads
  next b after skipped =>
    split at reads
    next quote =>
      rw [eq_of_beq quote] at skipped
      exact ⟨.string text, .string skipped (isText_of_readString reads)⟩
    next => exact absurd reads wrongType_ne_ok

/-- A text that may be missing is spelled where it stands. -/
theorem spells_of_readOptionalText {text? : Option String}
    (reads : readOptionalText bound bytes = .ok (text?, rest)) :
    ∃ term, Spells IsText bytes term rest := by
  unfold readOptionalText at reads
  split at reads
  next after skipped =>
    obtain ⟨-, word⟩ := encode_of_readLiteral (by simp) reads
    rw [word] at skipped
    exact ⟨.null, .null skipped⟩
  next =>
    obtain ⟨text, readsText, -⟩ := mapOutcome_eq_ok.mp reads
    exact spells_of_readText readsText

/-- A payload is what the reader makes of a term, and no deeper than the reader goes in a body. -/
structure ReadAs (payload : Value) (term : Term String) : Prop where
  term_eq : payload.term = term.sent
  nests : payload.term.Nests (maxDepth - 1)

/-- A payload is read as what is spelled where it stands. -/
theorem readAs_of_readPayload {payload : Value}
    (reads : readPayload bound bytes = .ok (payload, rest)) :
    ∃ term, Spells IsText bytes term rest ∧ ReadAs payload term := by
  obtain ⟨term, spells, same, -⟩ := spells_of_readValue reads
  exact ⟨term, spells, same, nests_of_readValue reads⟩

/-! ## Objects -/

/-- How a body uses its members, as far as the payload goes. -/
structure Tracks (bound : Nat) (use : BodyFields → String → MemberUse BodyFields) : Prop where
  payload : ∀ {fields found reader bytes rest}, use fields "payload" = .read reader →
    reader bytes = .ok (found, rest) → fields.payload = none ∧
      ∃ value, readPayload bound bytes = .ok (value, rest) ∧ found.payload = some value
  others : ∀ {fields found name reader bytes rest}, use fields name = .read reader →
    name ≠ "payload" → reader bytes = .ok (found, rest) →
      found.payload = fields.payload ∧ ∃ term, Spells IsText bytes term rest
  unknown : ∀ {fields name}, use fields name = .ignored → name ≠ "payload"

/-- The members that both kinds of body have are tracked. -/
theorem tracks_sharedMember (bound : Nat) : Tracks bound (sharedMember bound) := by
  constructor
  case payload =>
    intro fields found reader bytes rest used reads
    have notKind : ("payload" == "kind") = false := by decide
    simp only [sharedMember, notKind, Bool.false_eq_true, ↓reduceIte, beq_self_eq_true] at used
    split at used
    · cases used
    next unread =>
      cases used
      obtain ⟨value, readsValue, rfl⟩ := mapOutcome_eq_ok.mp reads
      exact ⟨by simpa using unread, value, readsValue, rfl⟩
  case others =>
    intro fields found name reader bytes rest used other reads
    simp only [sharedMember, beq_iff_eq, other, ↓reduceIte] at used
    split at used
    · split at used
      · cases used
      · cases used
        obtain ⟨kind, readsKind, rfl⟩ := mapOutcome_eq_ok.mp reads
        exact ⟨rfl, spells_of_readOptionalText readsKind⟩
    · cases used
  case unknown =>
    rintro fields name used rfl
    simp only [sharedMember, beq_self_eq_true, ↓reduceIte] at used
    grind

/-- The members of a body with recipients are tracked. -/
theorem tracks_publishMember (bound : Nat) : Tracks bound (publishMember bound) := by
  have shared := tracks_sharedMember bound
  constructor
  case payload =>
    intro fields found reader bytes rest used reads
    have notList : ("payload" == "recipients") = false := by decide
    rw [publishMember, notList, if_neg Bool.false_ne_true] at used
    exact shared.payload used reads
  case others =>
    intro fields found name reader bytes rest used other reads
    rw [publishMember] at used
    split at used
    · split at used
      · cases used
      · cases used
        obtain ⟨users, readsUsers, rfl⟩ := mapOutcome_eq_ok.mp reads
        exact ⟨rfl, spells_of_readUsers readsUsers⟩
    · exact shared.others used other reads
  case unknown =>
    intro fields name used
    rw [publishMember] at used
    split at used
    · split at used <;> cases used
    · exact shared.unknown used

/-- The payload that is read among members, if none has been read before. -/
inductive Picked (bound : Nat) : Option Value → List (String × Span) → Option Value → Prop where
  | none {value? : Option Value} : Picked bound value? [] value?
  | one {span : Span} {value : Value}
      (reads : readPayload bound span.start = .ok (value, span.behind)) :
      Picked bound none [("payload", span)] (some value)

/-- A payload that has been picked stays the only one. -/
theorem Picked.of_some {value : Value} {value? : Option Value} {members : List (String × Span)}
    (picked : Picked bound (some value) members value?) : members = [] ∧ value? = some value := by
  cases picked
  exact ⟨rfl, rfl⟩

/-- What is read of an object: one payload at most, among other members. -/
theorem members_of_collectMembers {use : BodyFields → String → MemberUse BodyFields}
    (tracks : Tracks bound use) {rounds : Nat} {first : Bool} {fields result : BodyFields}
    {closing : Bytes}
    (reads : collectMembers bound use rounds first fields bytes = .ok (.ok result, closing))
    (ends : endMembers closing = .ok rest) :
    ∃ members, Members IsText Passed first bytes members rest ∧
      Picked bound fields.payload (members.filter (·.1 = "payload")) result.payload := by
  induction rounds generalizing first fields bytes with
  | zero => cases reads
  | succ rounds ih =>
    obtain ⟨⟨name?, after⟩, readsName, reads⟩ := bind_eq_ok.mp reads
    have named := name_of_readName readsName
    cases name? with
    | none =>
      cases reads
      rw [named] at ends
      exact ⟨[], .done (next_skipBlanks.mp (next_of_endMembers ends)), .none⟩
    | some name =>
      obtain ⟨behind, opened, between, quote, isText⟩ := named
      dsimp only at reads
      split at reads
      next => cases reads
      next reader used =>
        obtain ⟨valued, colon, reads⟩ := bind_eq_ok.mp reads
        obtain ⟨⟨found, left⟩, readsValue, reads⟩ := bind_eq_ok.mp reads
        have readsFound := within_eq_ok.mp readsValue
        obtain ⟨members, inside, picked⟩ := ih reads
        have colon := next_of_expectColon colon
        by_cases isPayload : name = "payload"
        · subst isPayload
          obtain ⟨unread, value, readsPayload, filled⟩ := tracks.payload used readsFound
          obtain ⟨term, spells, -⟩ := spells_of_readValue readsPayload
          refine ⟨("payload", ⟨valued, left⟩) :: members,
            .next between quote isText colon (passed_of_spells spells) inside, ?_⟩
          rw [filled] at picked
          obtain ⟨noMore, kept⟩ := picked.of_some
          rw [unread, List.filter_cons_of_pos (by simp), noMore, kept]
          exact .one readsPayload
        · obtain ⟨same, term, spells⟩ := tracks.others used isPayload readsFound
          refine ⟨(name, ⟨valued, left⟩) :: members,
            .next between quote isText colon (passed_of_spells spells) inside, ?_⟩
          rw [List.filter_cons_of_neg (by simpa using isPayload), ← same]
          exact picked
      next used =>
        obtain ⟨valued, colon, reads⟩ := bind_eq_ok.mp reads
        obtain ⟨left, passes, reads⟩ := bind_eq_ok.mp reads
        obtain ⟨term, spells⟩ := spells_of_skipValue (within_eq_ok.mp passes)
        obtain ⟨members, inside, picked⟩ := ih reads
        refine ⟨(name, ⟨valued, left⟩) :: members,
          .next between quote isText (next_of_expectColon colon) (.value spells) inside, ?_⟩
        rw [List.filter_cons_of_neg (by simpa using tracks.unknown used)]
        exact picked

/-- An object whose members are collected carries the payload that is found in it. -/
theorem carries_of_members {use : BodyFields → String → MemberUse BodyFields}
    (tracks : Tracks bound use) {rounds index : Nat} {fields : BodyFields} {payload : Value}
    {opened closing : Bytes} (brace : Next bytes 0x7b opened)
    (reads : collectMembers bound use rounds true {} opened = .ok (.ok fields, closing))
    (ends : endMembers closing = .ok rest) (found : fields.payload = some payload) :
    ∃ term, Carries index bytes term ∧ ReadAs payload term := by
  obtain ⟨members, inside, picked⟩ := members_of_collectMembers tracks reads ends
  rw [found] at picked
  generalize only : members.filter (·.1 = "payload") = picks at picked
  cases picked with
  | one readsPayload =>
    obtain ⟨term, spells, readAs⟩ := readAs_of_readPayload readsPayload
    exact ⟨term, .member brace inside only spells, readAs⟩

/-! ## Arrays -/

/-- An item that is read stands behind a comma, unless it is the first. -/
theorem between_of_readNextItem {α : Type} {index : Nat} {reader : Bytes → Outcome α} {value : α}
    (reads : readNextItem index reader bytes = .ok (some value, rest)) :
    ∃ behind, Between (index == 0) bytes behind ∧
      reader (skipBlanks behind) = .ok (value, rest) := by
  obtain ⟨⟨more, start⟩, looks, reads⟩ := bind_eq_ok.mp reads
  dsimp only at reads
  split at reads
  next goesOn =>
    obtain rfl := goesOn
    obtain ⟨behind, between, rfl⟩ := between_of_nextItem looks
    obtain ⟨⟨found, left⟩, readsItem, reads⟩ := bind_eq_ok.mp reads
    cases reads
    exact ⟨behind, between, within_eq_ok.mp readsItem⟩
  next => cases reads

/-- An array that has ended stays at its end. -/
theorem nextItem_of_ended {first again : Bool} (looks : nextItem first bytes = .ok (false, rest)) :
    nextItem again rest = .ok (false, rest) := by
  unfold nextItem at looks
  split at looks
  · cases looks
  next b after skipped =>
    split at looks
    next close =>
      cases looks
      rw [eq_of_beq close, nextItem, skipBlanks_cons rfl]
      rfl
    next => grind [failAt]

/-- After the end of an array there are no more items. -/
theorem readNextItem_of_ended {α β : Type} {index next : Nat} {reader : Bytes → Outcome α}
    {other : Bytes → Outcome β} (ended : readNextItem index reader bytes = .ok (none, rest)) :
    readNextItem next other rest = .ok (none, rest) := by
  obtain ⟨⟨more, start⟩, looks, ended⟩ := bind_eq_ok.mp ended
  dsimp only at ended
  split at ended
  next =>
    obtain ⟨⟨found, left⟩, readsItem, ended⟩ := bind_eq_ok.mp ended
    cases ended
  next stops =>
    obtain rfl : more = false := by simpa using stops
    cases ended
    rw [readNextItem, nextItem_of_ended looks]
    rfl

/-- The payload at the end of an array. -/
theorem items_of_readPayload {index : Nat} {payload : Value} {behind : Bytes}
    (reads : readNextItem (index + 1) (readPayload bound) bytes = .ok (some payload, behind))
    (ends : endItems behind = .ok rest) :
    ∃ (span : Span) (term : Term String), Items Passed false bytes [span] rest ∧
      Spells IsText span.start term span.behind ∧ ReadAs payload term := by
  obtain ⟨start, between, readsValue⟩ := between_of_readNextItem reads
  obtain ⟨term, spells, readAs⟩ := readAs_of_readPayload readsValue
  have spells := spells.congr_skipBlanks (skipBlanks_skipBlanks _).symm
  exact ⟨⟨start, behind⟩, term,
    .next between (passed_of_spells spells) (.done (next_of_endItems ends)), spells, readAs⟩

/-- An item of an array in front of others. -/
theorem items_of_readNextItem {α : Type} {index : Nat} {reader : Bytes → Outcome α} {value : α}
    {behind : Bytes} {spans : List Span}
    (spelled : ∀ {bytes value rest}, reader bytes = .ok (value, rest) →
      ∃ term, Spells IsText bytes term rest)
    (reads : readNextItem index reader bytes = .ok (some value, behind))
    (tail : Items Passed false behind spans rest) :
    ∃ span, Items Passed (index == 0) bytes (span :: spans) rest := by
  obtain ⟨start, between, readsValue⟩ := between_of_readNextItem reads
  obtain ⟨term, spells⟩ := spelled readsValue
  have spells := spells.congr_skipBlanks (skipBlanks_skipBlanks _).symm
  exact ⟨_, .next between (passed_of_spells spells) tail⟩

/-! ## Bodies -/

/-- An object is closed at its end. -/
theorem closeMembers_eq_ok {α : Type} {result : Except Complaint α} {value : α}
    (closes : closeMembers result bytes = .ok (value, rest)) :
    result = .ok value ∧ endMembers bytes = .ok rest := by
  cases result with
  | error complaint => cases closes
  | ok found =>
    obtain ⟨left, ends, closes⟩ := bind_eq_ok.mp closes
    cases closes
    exact ⟨rfl, ends⟩

/-- An array is closed at its end. -/
theorem closeItems_eq_ok {α : Type} {result : Except Complaint α} {value : α}
    (closes : closeItems result bytes = .ok (value, rest)) :
    result = .ok value ∧ endItems bytes = .ok rest := by
  cases result with
  | error complaint => cases closes
  | ok found =>
    obtain ⟨left, ends, closes⟩ := bind_eq_ok.mp closes
    cases closes
    exact ⟨rfl, ends⟩

/-- A field that is required has been found. -/
theorem required_eq_ok {α : Type} {name : String} {found : Option α} {value : α} :
    required name found = .ok value ↔ found = some value := by
  cases found <;> simp [required]

/-- A complete body with recipients has the payload that was found. -/
theorem payload_of_toPublish {fields : BodyFields} {body : PublishBody}
    (complete : fields.toPublish = .ok body) : fields.payload = some body.payload := by
  obtain ⟨recipients, -, complete⟩ := bind_eq_ok.mp complete
  obtain ⟨payload, found, complete⟩ := bind_eq_ok.mp complete
  cases complete
  exact required_eq_ok.mp found

/-- So has a complete body without. -/
theorem payload_of_toDirect {fields : BodyFields} {body : DirectBody}
    (complete : fields.toDirect = .ok body) : fields.payload = some body.payload := by
  obtain ⟨payload, found, complete⟩ := bind_eq_ok.mp complete
  cases complete
  exact required_eq_ok.mp found

/-- An item that is required has been found. -/
theorem requiredItem_eq_ok {α β : Type} {index : Nat} {expected : String} {found : Option α}
    {make : α → β} {made : β} (complete : (requiredItem index expected found).map make = .ok made) :
    ∃ value, found = some value ∧ make value = made := by
  cases found with
  | none => cases complete
  | some value => exact ⟨value, rfl, Except.ok.inj complete⟩

/-- A body with recipients carries what its payload is read as. -/
theorem carries_of_publishBody {body : PublishBody}
    (reads : PublishBody.read bound bytes = .ok (body, rest)) :
    ∃ term, Carries 2 bytes term ∧ ReadAs body.payload term := by
  unfold PublishBody.read readRecord at reads
  split at reads
  · cases reads
  next b opened skipped =>
    split at reads
    next bracket =>
      rw [eq_of_beq bracket] at skipped
      obtain ⟨⟨result, closing⟩, readsItems, closes⟩ := bind_eq_ok.mp reads
      obtain ⟨rfl, ends⟩ := closeItems_eq_ok closes
      obtain ⟨⟨users?, afterUsers⟩, readsFirst, readsItems⟩ := bind_eq_ok.mp readsItems
      cases users? with
      | none => cases readsItems
      | some users =>
        obtain ⟨⟨kind?, afterKind⟩, readsSecond, readsItems⟩ := bind_eq_ok.mp readsItems
        obtain ⟨⟨payload?, afterPayload⟩, readsThird, readsItems⟩ := bind_eq_ok.mp readsItems
        obtain ⟨complete, rfl⟩ := Prod.mk.inj (Except.ok.inj readsItems)
        obtain ⟨payload, rfl, rfl⟩ := requiredItem_eq_ok complete
        obtain ⟨span, term, last, spells, readAs⟩ := items_of_readPayload readsThird ends
        cases kind? with
        | none =>
          rw [readNextItem_of_ended readsSecond] at readsThird
          cases readsThird
        | some kind =>
          obtain ⟨kindSpan, later⟩ :=
            items_of_readNextItem spells_of_readOptionalText readsSecond last
          obtain ⟨usersSpan, inside⟩ := items_of_readNextItem spells_of_readUsers readsFirst later
          exact ⟨term, .item [usersSpan, kindSpan] skipped inside rfl spells, readAs⟩
    split at reads
    next brace =>
      rw [eq_of_beq brace] at skipped
      obtain ⟨⟨result, closing⟩, readsMembers, closes⟩ := bind_eq_ok.mp reads
      obtain ⟨rfl, ends⟩ := closeMembers_eq_ok closes
      obtain ⟨⟨fields?, after⟩, collects, readsMembers⟩ := bind_eq_ok.mp readsMembers
      obtain ⟨complete, rfl⟩ := Prod.mk.inj (Except.ok.inj readsMembers)
      cases fields? with
      | error complaint => cases complete
      | ok fields =>
        exact carries_of_members (tracks_publishMember bound) skipped collects ends
          (payload_of_toPublish complete)
    next => exact absurd reads wrongType_ne_ok

/-- A body without recipients carries what its payload is read as. -/
theorem carries_of_directBody {body : DirectBody}
    (reads : DirectBody.read bound bytes = .ok (body, rest)) :
    ∃ term, Carries 1 bytes term ∧ ReadAs body.payload term := by
  unfold DirectBody.read readRecord at reads
  split at reads
  · cases reads
  next b opened skipped =>
    split at reads
    next bracket =>
      rw [eq_of_beq bracket] at skipped
      obtain ⟨⟨result, closing⟩, readsItems, closes⟩ := bind_eq_ok.mp reads
      obtain ⟨rfl, ends⟩ := closeItems_eq_ok closes
      obtain ⟨⟨kind?, afterKind⟩, readsFirst, readsItems⟩ := bind_eq_ok.mp readsItems
      obtain ⟨⟨payload?, afterPayload⟩, readsSecond, readsItems⟩ := bind_eq_ok.mp readsItems
      obtain ⟨complete, rfl⟩ := Prod.mk.inj (Except.ok.inj readsItems)
      obtain ⟨payload, rfl, rfl⟩ := requiredItem_eq_ok complete
      obtain ⟨span, term, last, spells, readAs⟩ := items_of_readPayload readsSecond ends
      cases kind? with
      | none =>
        rw [readNextItem_of_ended readsFirst] at readsSecond
        cases readsSecond
      | some kind =>
        obtain ⟨kindSpan, inside⟩ :=
          items_of_readNextItem spells_of_readOptionalText readsFirst last
        exact ⟨term, .item [kindSpan] skipped inside rfl spells, readAs⟩
    split at reads
    next brace =>
      rw [eq_of_beq brace] at skipped
      obtain ⟨⟨result, closing⟩, readsMembers, closes⟩ := bind_eq_ok.mp reads
      obtain ⟨rfl, ends⟩ := closeMembers_eq_ok closes
      obtain ⟨⟨fields?, after⟩, collects, readsMembers⟩ := bind_eq_ok.mp readsMembers
      obtain ⟨complete, rfl⟩ := Prod.mk.inj (Except.ok.inj readsMembers)
      cases fields? with
      | error complaint => cases complete
      | ok fields =>
        exact carries_of_members (tracks_sharedMember bound) skipped collects ends
          (payload_of_toDirect complete)
    next => exact absurd reads wrongType_ne_ok

end Switchboard.Api
