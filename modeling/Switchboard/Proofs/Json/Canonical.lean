import Switchboard.Proofs.Json.Acceptance
import Switchboard.Proofs.Json.Printing
import Switchboard.Proofs.Text.Order

/-!
# Canonical texts

A value whose numbers are plain integers has one canonical text (`IsCanonical.unique`): without
blanks, with the members of each object in the order of the bytes of their names, each name once.
It is what is written for a value that has been read, if the numbers that count were written as
plain integers (`isCanonical_render`), and it is read again as the same value (`parse_compact`).
-/

namespace Switchboard.Json

open Text (encode)

/-! ## Plain integers -/

/-- A literal is an integer of 64 bits, written as one, and not a negative zero. -/
structure Literal.IsPlain (literal : Literal) : Prop where
  isWhole : literal.IsWhole
  signed : literal.negative = true → literal.value ≠ 0

/-- A number has one sequence of decimal digits without leading zeros. -/
theorem decimal_valueFrom {digits : List Digit} (nonempty : digits ≠ [])
    (noLeadingZero : digits.head? = some 0 → digits = [0]) :
    decimal (valueFrom 0 digits) = digits := by
  induction digits using List.reverseRecOn with
  | nil => exact absurd rfl nonempty
  | append_singleton front digit ih =>
    rw [valueFrom_concat]
    cases front with
    | nil =>
      have small : valueFrom 0 [] * 10 + digit.val < 10 := by simp [valueFrom]
      rw [decimal_of_lt small]
      simp [valueFrom]
    | cons first others =>
      have firstNe : first ≠ 0 := by
        rintro rfl
        simpa using noLeadingZero rfl
      have again := ih (List.cons_ne_nil _ _) fun leading =>
        absurd (Option.some.inj leading) firstNe
      have large : 10 ≤ valueFrom 0 (first :: others) * 10 + digit.val := by
        have positive : 0 < first.val := Fin.pos_iff_ne_zero.mpr firstNe
        have grows : 0 * 10 + first.val ≤ valueFrom 0 (first :: others) := le_valueFrom _ others
        omega
      rw [decimal_of_le large]
      have quotient : (valueFrom 0 (first :: others) * 10 + digit.val) / 10 =
          valueFrom 0 (first :: others) := by omega
      have remainder : Fin.ofNat 10 (valueFrom 0 (first :: others) * 10 + digit.val) = digit := by
        apply Fin.ext
        simp only [Fin.val_ofNat]
        omega
      rw [quotient, remainder, again]

namespace Literal

variable {literal other : Literal}

/-- Digits spell an integer, with a sign if it is negative. -/
theorem eq_ofInt (places : literal.places = []) (scale : literal.scale = none)
    (signed : literal.negative = true → valueFrom 0 literal.whole ≠ 0) :
    literal = .ofInt (if literal.negative then -(valueFrom 0 literal.whole : ℤ)
      else valueFrom 0 literal.whole) := by
  obtain ⟨negative, whole, _, _, ne_nil, no_leading_zero⟩ := literal
  obtain rfl := places
  obtain rfl := scale
  have digits := decimal_valueFrom ne_nil no_leading_zero
  cases negative with
  | false =>
    simp only [ofInt, Bool.false_eq_true, ↓reduceIte, Int.natAbs_natCast, digits,
      Literal.mk.injEq, and_true]
    simp
  | true =>
    have positive : valueFrom 0 whole ≠ 0 := signed rfl
    simp only [ofInt, ↓reduceIte, Int.natAbs_neg, Int.natAbs_natCast, digits, Literal.mk.injEq,
      and_true]
    simp only [true_eq_decide_iff]
    omega

/-- A plain integer is written like this only. -/
theorem IsPlain.exists_ofInt (isPlain : literal.IsPlain) : ∃ n : ℤ, literal = .ofInt n :=
  ⟨_, eq_ofInt isPlain.isWhole.places isPlain.isWhole.scale fun negative zero =>
    isPlain.signed negative (by simp [value, isPlain.isWhole.places, zero])⟩

/-- Plain integers are told apart by their values. -/
theorem IsPlain.ext (isPlain : literal.IsPlain) (alsoPlain : other.IsPlain)
    (same : literal.value = other.value) : literal = other := by
  obtain ⟨n, rfl⟩ := isPlain.exists_ofInt
  obtain ⟨m, rfl⟩ := alsoPlain.exists_ofInt
  rw [value_ofInt, value_ofInt, Int.cast_inj] at same
  rw [same]

/-- A plain integer is written as it is read. -/
theorem IsPlain.sent_eq (isPlain : literal.IsPlain) : literal.sent = literal := by
  obtain ⟨n, value, read⟩ | ⟨zero, read⟩ := number?_of_isWhole isPlain.isWhole
  · obtain ⟨m, rfl⟩ := isPlain.exists_ofInt
    rw [value_ofInt, Int.cast_inj] at value
    rw [sent_of_number? read, value]
    rfl
  · have unsigned : literal.negative = false := by
      by_contra negative
      exact isPlain.signed (by simpa using negative) zero
    have upper := isPlain.isWhole.upper
    have fits : valueFrom 0 literal.whole < UInt64.size := by
      have value : literal.value = (valueFrom 0 literal.whole : ℚ) := by
        simp [Literal.value, isPlain.isWhole.places, isPlain.isWhole.scale, unsigned]
      rw [value] at upper
      exact_mod_cast upper
    rw [number?, unsigned, Bool.not_false,
      readNumber_of_whole isPlain.isWhole.places isPlain.isWhole.scale fits] at read
    cases read

/-- An integer of 64 bits has a plain literal. -/
theorem isPlain_ofInt {n : ℤ} (lower : -2 ^ 63 ≤ n) (upper : n < 2 ^ 64) : (ofInt n).IsPlain := by
  refine ⟨⟨rfl, rfl, ?_, ?_⟩, ?_⟩
  · rw [value_ofInt]
    exact_mod_cast lower
  · rw [value_ofInt]
    exact_mod_cast upper
  · intro negative
    have sign : n < 0 := of_decide_eq_true negative
    rw [value_ofInt, Int.cast_ne_zero]
    exact sign.ne

/-- A binary64 number is not written like an integer. -/
theorem not_isWhole_ofBinary64 (x : Decimal.Binary64) : ¬ (ofBinary64 x).IsWhole := by
  rintro ⟨places, scale, -, -⟩
  unfold ofBinary64 at places scale
  dsimp only at places scale
  split at places
  next => cases places
  next zero =>
    split at places
    next =>
      have written : (if 0 ≤ x.shortest.exponent then [0]
        else lastDigits (-x.shortest.exponent).toNat x.shortest.digits) = [] := places
      split at written
      · cases written
      · have length := length_lastDigits (-x.shortest.exponent).toNat x.shortest.digits
        rw [written, List.length_nil] at length
        omega
    next exponential =>
      rw [if_neg zero, if_neg exponential] at scale
      cases scale

end Literal

/-- A signed integer of 64 bits is plain. -/
theorem isPlain_int64 (n : Int64) : (Literal.ofInt n.toInt).IsPlain :=
  Literal.isPlain_ofInt n.le_toInt (Int.lt_trans n.toInt_lt (by decide))

/-- Lists are equal if their images are and nothing is lost on the way. -/
theorem eq_of_map_eq_map {α β : Type} {turn : α → β} {first second : List α}
    (apart : ∀ value ∈ first, ∀ other ∈ second, turn value = turn other → value = other)
    (same : first.map turn = second.map turn) : first = second := by
  induction first generalizing second with
  | nil => exact (List.map_eq_nil_iff.mp same.symm).symm
  | cons value others ih =>
    cases second with
    | nil => cases same
    | cons other rest =>
      obtain ⟨head, tail⟩ := List.cons.inj same
      rw [apart value List.mem_cons_self other List.mem_cons_self head,
        ih (fun value member other isOther =>
          apart value (List.mem_cons_of_mem _ member) other (List.mem_cons_of_mem _ isOther)) tail]

/-- Values are told apart by their terms, if their numbers are integers. -/
theorem eq_of_term_eq {value other : Value} (whole : value.term.Each Literal.IsWhole)
    (same : value.term = other.term) : value = other := by
  induction value using Value.induction generalizing other with
  | null | bool | string => cases other <;> simp_all [Value.term]
  | integer n =>
    cases other with
    | integer m =>
      have values := congrArg Literal.value (Term.number.inj same)
      rw [value_ofInt, value_ofInt, Int.cast_inj] at values
      rw [values]
    | float x =>
      rw [same] at whole
      cases whole with
      | number holds => exact absurd holds (Literal.not_isWhole_ofBinary64 x)
    | _ => cases same
  | float x =>
    cases whole with
    | number holds => exact absurd holds (Literal.not_isWhole_ofBinary64 x)
  | array items ih =>
    cases other with
    | array others =>
      cases whole with
      | array each =>
        have terms := Term.array.inj same
        rw [itemTerms_eq_map] at terms each
        rw [itemTerms_eq_map] at terms
        refine congrArg Value.array (eq_of_map_eq_map (fun item member other _ same => ?_) terms)
        exact ih item member (each _ (List.mem_map_of_mem member)) same
    | _ => cases same
  | object members ih =>
    cases other with
    | object others =>
      cases whole with
      | object each =>
        have terms := Term.object.inj same
        rw [memberTerms_eq_map] at terms each
        rw [memberTerms_eq_map] at terms
        refine congrArg Value.object
          (eq_of_map_eq_map (fun member isMember other _ same => ?_) terms)
        obtain ⟨name, content⟩ := Prod.mk.inj same
        exact Prod.ext name (ih member isMember (each _ (List.mem_map_of_mem isMember)) content)
    | _ => cases same

/-! ## What counts of a term -/

/-- Each literal of a term that counts is of a kind. -/
inductive Term.EachLive (kind : Literal → Prop) : Term String → Prop where
  | null : Term.EachLive kind .null
  | bool (value : Bool) : Term.EachLive kind (.bool value)
  | number {literal : Literal} (holds : kind literal) : Term.EachLive kind (.number literal)
  | string (content : String) : Term.EachLive kind (.string content)
  | array {items : List (Term String)} (each : ∀ item ∈ items, Term.EachLive kind item) :
      Term.EachLive kind (.array items)
  | object {members : List (String × Term String)}
      (each : ∀ name value, lastOf? name members = some value → Term.EachLive kind value) :
      Term.EachLive kind (.object members)

/-- Plain integers that count are written as they are. -/
theorem Term.EachLive.sent {term : Term String} (live : term.EachLive Literal.IsPlain) :
    term.sent.EachLive Literal.IsPlain := by
  induction live with
  | null => exact .null
  | bool value => exact .bool value
  | number holds =>
    rw [Term.sent, holds.sent_eq]
    exact .number holds
  | string content => exact .string content
  | array each ih =>
    rw [Term.sent, sentItems_eq_map]
    exact .array (List.forall_mem_map.mpr ih)
  | object each ih =>
    rw [Term.sent, sentMembers_eq_map]
    refine .object fun name value last => ?_
    rw [lastOf?_map, Option.map_eq_some_iff] at last
    obtain ⟨value, last, rfl⟩ := last
    exact ih name value last

/-- A term whose numbers are plain means what is sent for it. -/
theorem Term.EachLive.meaning_sent {term : Term String} (live : term.EachLive Literal.IsPlain) :
    term.sent.meaning = term.meaning := by
  induction live with
  | null | bool | string => rfl
  | number holds => rw [Term.sent, holds.sent_eq]
  | array each ih =>
    rw [Term.sent, Term.meaning, Term.meaning, sentItems_eq_map, meanings_eq_map, meanings_eq_map,
      List.map_map]
    exact congrArg Meaning.array (List.map_congr_left ih)
  | @object members each ih =>
    rw [Term.sent, Term.meaning, Term.meaning, sentMembers_eq_map]
    refine congrArg Meaning.object (funext fun name => ?_)
    rw [memberMeaning_eq_map, memberMeaning_eq_map, lastOf?_map]
    cases last : lastOf? name members with
    | none => rfl
    | some value => exact congrArg some (ih name value last)

/-- In canonical form every literal counts. -/
theorem each_canonical {kind : Literal → Prop} {value : Value} (live : value.term.EachLive kind) :
    value.canonical.term.Each kind := by
  induction value using Value.induction with
  | null => exact .null
  | bool value => exact .bool value
  | integer n =>
    cases live with
    | number holds => exact .number holds
  | float x =>
    cases live with
    | number holds => exact .number holds
  | string text => exact .string text
  | array items ih =>
    cases live with
    | array each =>
      rw [itemTerms_eq_map] at each
      rw [canonical_array, Value.term, itemTerms_eq_map, List.map_map]
      refine .array (List.forall_mem_map.mpr fun item member => ?_)
      exact ih item member (each _ (List.mem_map_of_mem member))
  | object members ih =>
    cases live with
    | object each =>
      rw [memberTerms_eq_map] at each
      rw [canonical_object, Value.term, memberTerms_eq_map]
      refine .object (List.forall_mem_map.mpr ?_)
      rintro ⟨name, value⟩ isMember
      have last := mem_canonicalMembers.mp isMember
      rw [lastOf?_map, Option.map_eq_some_iff] at last
      obtain ⟨value, last, rfl⟩ := last
      refine ih (name, value) (mem_of_lastOf? last) (each name value.term ?_)
      rw [lastOf?_map, last]
      rfl

/-- The canonical form is no deeper. -/
theorem nests_canonical {value : Value} {depth : Nat} (nests : value.term.Nests depth) :
    value.canonical.term.Nests depth := by
  induction value using Value.induction generalizing depth with
  | null => exact .null
  | bool value => exact .bool value
  | integer n => exact .number _
  | float x => exact .number _
  | string text => exact .string text
  | array items ih =>
    cases nests with
    | array each =>
      rw [itemTerms_eq_map] at each
      rw [canonical_array, Value.term, itemTerms_eq_map, List.map_map]
      refine .array (List.forall_mem_map.mpr fun item member => ?_)
      exact ih item member (each _ (List.mem_map_of_mem member))
  | object members ih =>
    cases nests with
    | object each =>
      rw [memberTerms_eq_map] at each
      rw [canonical_object, Value.term, memberTerms_eq_map]
      refine .object (List.forall_mem_map.mpr ?_)
      rintro ⟨name, value⟩ isMember
      have last := mem_canonicalMembers.mp isMember
      rw [lastOf?_map, Option.map_eq_some_iff] at last
      obtain ⟨value, last, rfl⟩ := last
      have isMember := mem_of_lastOf? last
      exact ih (name, value) isMember (each _ (List.mem_map_of_mem isMember))

/-! ## Canonical terms -/

/-- The bytes of each name are lower than those of the names behind it. -/
def Rising {α : Type} (members : List (String × α)) : Prop :=
  members.Pairwise fun a b => encode a.1.toList < encode b.1.toList

/-- The members of each object in a term stand in the order of their names, each name once. -/
inductive Term.Ordered : Term String → Prop where
  | null : Term.Ordered .null
  | bool (value : Bool) : Term.Ordered (.bool value)
  | number (literal : Literal) : Term.Ordered (.number literal)
  | string (content : String) : Term.Ordered (.string content)
  | array {items : List (Term String)} (each : ∀ item ∈ items, Term.Ordered item) :
      Term.Ordered (.array items)
  | object {members : List (String × Term String)} (rising : Rising members)
      (each : ∀ member ∈ members, Term.Ordered member.2) : Term.Ordered (.object members)

/-- A canonical value has its members in order. -/
theorem ordered_canonical (value : Value) : value.canonical.term.Ordered := by
  induction value using Value.induction with
  | null => exact .null
  | bool value => exact .bool value
  | integer n => exact .number _
  | float x => exact .number _
  | string text => exact .string text
  | array items ih =>
    rw [canonical_array, Value.term, itemTerms_eq_map, List.map_map]
    exact .array (List.forall_mem_map.mpr ih)
  | object members ih =>
    rw [canonical_object, Value.term, memberTerms_eq_map]
    refine .object ?_ (List.forall_mem_map.mpr ?_)
    · exact List.pairwise_map.mpr
        ((ascending_canonicalMembers _).imp fun lower => Text.encode_lt_encode lower)
    · rintro ⟨name, value⟩ isMember
      have last := mem_canonicalMembers.mp isMember
      rw [lastOf?_map, Option.map_eq_some_iff] at last
      obtain ⟨value, last, rfl⟩ := last
      exact ih (name, value) (mem_of_lastOf? last)

section
variable {α β : Type} {name : String}

/-- In rising members the name of the first does not occur again. -/
theorem lastOf?_eq_none_of_rising {member : String × α} {members : List (String × α)}
    (rising : Rising (member :: members)) : lastOf? member.1 members = none :=
  lastOf?_eq_none fun other isMember same =>
    List.lt_irrefl _ (same ▸ (List.pairwise_cons.mp rising).1 other isMember)

/-- So the first is the last of its name. -/
theorem lastOf?_head_of_rising {value : α} {members : List (String × α)}
    (rising : Rising ((name, value) :: members)) :
    lastOf? name ((name, value) :: members) = some value := by
  rw [lastOf?, lastOf?_eq_none_of_rising rising, if_pos rfl, Option.none_or]

/-- The first name is the lowest. -/
theorem not_lt_of_lastOf? {value found : α} {members : List (String × α)} {first : String}
    (rising : Rising ((first, value) :: members))
    (last : lastOf? name ((first, value) :: members) = some found) :
    ¬ encode name.toList < encode first.toList := by
  rcases List.mem_cons.mp (mem_of_lastOf? last) with same | later
  · rw [(Prod.mk.inj same).1]
    exact List.lt_irrefl _
  · exact List.lt_asymm ((List.pairwise_cons.mp rising).1 _ later)

/-- Rising lists with the same values of names begin alike: each of the two first names is a name of
the other list too, so neither is lower. -/
theorem heads_eq_of_rising (turn : α → β) {otherName : String} {value content : α}
    {members others : List (String × α)} (rising : Rising ((name, value) :: members))
    (risingToo : Rising ((otherName, content) :: others))
    (same : ∀ wanted, (lastOf? wanted ((name, value) :: members)).map turn =
      (lastOf? wanted ((otherName, content) :: others)).map turn) :
    name = otherName ∧ turn value = turn content := by
  have ahead := same name
  rw [lastOf?_head_of_rising rising, Option.map_some, eq_comm, Option.map_eq_some_iff] at ahead
  have behind := same otherName
  rw [lastOf?_head_of_rising risingToo, Option.map_some, Option.map_eq_some_iff] at behind
  obtain ⟨found, isFound, alike⟩ := ahead
  obtain ⟨_, isThere, -⟩ := behind
  have names : encode name.toList = encode otherName.toList :=
    List.le_antisymm (List.not_lt.mp (not_lt_of_lastOf? rising isThere))
      (List.not_lt.mp (not_lt_of_lastOf? risingToo isFound))
  obtain rfl := encode_toList_injective names
  rw [lastOf?_head_of_rising risingToo, Option.some_inj] at isFound
  exact ⟨rfl, isFound ▸ alike.symm⟩

/-- Rising lists with the same values of names are equal. -/
theorem eq_of_rising (turn : α → β) {members others : List (String × α)}
    (apart : ∀ member ∈ members, ∀ value, (∃ name, (name, value) ∈ others) →
      turn member.2 = turn value → member.2 = value)
    (rising : Rising members) (risingToo : Rising others)
    (same : ∀ name, (lastOf? name members).map turn = (lastOf? name others).map turn) :
    members = others := by
  induction members generalizing others with
  | nil =>
    cases others with
    | nil => rfl
    | cons other rest =>
      have found := same other.1
      rw [lastOf?_head_of_rising risingToo] at found
      cases found
  | cons member members ih =>
    obtain ⟨name, value⟩ := member
    cases others with
    | nil =>
      have found := same name
      rw [lastOf?_head_of_rising rising] at found
      cases found
    | cons other others =>
      obtain ⟨otherName, content⟩ := other
      obtain ⟨rfl, alike⟩ := heads_eq_of_rising turn rising risingToo same
      obtain rfl : value = content :=
        apart (name, value) List.mem_cons_self content ⟨name, List.mem_cons_self⟩ alike
      refine congrArg _ (ih (fun member isMember value ⟨name, isOther⟩ =>
        apart member (List.mem_cons_of_mem _ isMember) value
          ⟨name, List.mem_cons_of_mem _ isOther⟩) (List.pairwise_cons.mp rising).2
        (List.pairwise_cons.mp risingToo).2 fun wanted => ?_)
      by_cases own : name = wanted
      · rw [← own, lastOf?_eq_none_of_rising rising, lastOf?_eq_none_of_rising risingToo]
      · have found := same wanted
        rwa [lastOf?, lastOf?, if_neg own, Option.or_none, Option.or_none] at found

end

/-- Terms in order whose numbers are plain integers are told apart by what they mean. -/
theorem Term.Ordered.ext {term other : Term String} (ordered : term.Ordered)
    (otherOrdered : other.Ordered) (plain : term.Each Literal.IsPlain)
    (otherPlain : other.Each Literal.IsPlain) (same : term.meaning = other.meaning) :
    term = other := by
  induction term using Term.induction generalizing other with
  | null => cases other <;> first | rfl | cases same
  | bool value => cases other <;> simp_all [Term.meaning]
  | string content => cases other <;> simp_all [Term.meaning]
  | number literal =>
    cases other with
    | number otherLiteral =>
      cases plain with
      | number holds =>
        cases otherPlain with
        | number otherHolds => rw [holds.ext otherHolds (Meaning.number.inj same)]
    | _ => cases same
  | array items ih =>
    cases other with
    | array others =>
      cases ordered with
      | array each =>
      cases otherOrdered with
      | array otherEach =>
      cases plain with
      | array plainEach =>
      cases otherPlain with
      | array otherPlainEach =>
        have meanings := Meaning.array.inj same
        rw [meanings_eq_map, meanings_eq_map] at meanings
        refine congrArg Term.array (eq_of_map_eq_map (fun item member other isOther alike => ?_)
          meanings)
        exact ih item member (each _ member) (otherEach _ isOther) (plainEach _ member)
          (otherPlainEach _ isOther) alike
    | _ => cases same
  | object members ih =>
    cases other with
    | object others =>
      cases ordered with
      | object rising each =>
      cases otherOrdered with
      | object otherRising otherEach =>
      cases plain with
      | object plainEach =>
      cases otherPlain with
      | object otherPlainEach =>
        refine congrArg Term.object (eq_of_rising Term.meaning ?_ rising otherRising ?_)
        · rintro member isMember value ⟨name, isOther⟩ alike
          exact ih member isMember (each _ isMember) (otherEach _ isOther) (plainEach _ isMember)
            (otherPlainEach _ isOther) alike
        · intro name
          rw [← memberMeaning_eq_map, ← memberMeaning_eq_map]
          exact congrFun (Meaning.object.inj same) name
    | _ => cases same

/-! ## Canonical texts -/

/-- A text is the canonical one of a value: without blanks, with members in order and each name
once, and with plain integers for numbers. -/
def IsCanonical (text : Bytes) (meaning : Meaning) : Prop :=
  ∃ term : Term String, text = term.compact ∧ term.Ordered ∧ term.Each Literal.IsPlain ∧
    term.meaning = meaning

/-- A meaning has one canonical text. -/
theorem IsCanonical.unique {text other : Bytes} {meaning : Meaning}
    (canonical : IsCanonical text meaning) (also : IsCanonical other meaning) : text = other := by
  obtain ⟨term, rfl, ordered, plain, same⟩ := canonical
  obtain ⟨found, rfl, foundOrdered, foundPlain, foundSame⟩ := also
  rw [ordered.ext foundOrdered plain foundPlain (same.trans foundSame.symm)]

/-- What is written for a value that has been read is canonical, if the numbers that count were
written as plain integers. -/
theorem isCanonical_render {value : Value} {term : Term String} (reads : value.term = term.sent)
    (live : term.EachLive Literal.IsPlain) :
    IsCanonical value.render.toUTF8.toList term.meaning := by
  refine ⟨value.canonical.term, toList_renderInOrder value.canonical, ordered_canonical value,
    each_canonical (reads ▸ live.sent), ?_⟩
  rw [meaning_canonical, reads, live.meaning_sent]

/-- What holds of all numbers implies what is weaker. -/
theorem Term.Each.mono {σ : Type} {kind other : Literal → Prop} {term : Term σ}
    (each : term.Each kind) (weaker : ∀ literal, kind literal → other literal) :
    term.Each other := by
  induction each with
  | null => exact .null
  | bool value => exact .bool value
  | number holds => exact .number (weaker _ holds)
  | string content => exact .string content
  | array _ ih => exact .array ih
  | object _ ih => exact .object ih

/-- Plain integers are written as they are. -/
theorem Term.Each.sent_eq {term : Term String} (plain : term.Each Literal.IsPlain) :
    term.sent = term := by
  induction plain with
  | null | bool | string => rfl
  | number holds => rw [Term.sent, holds.sent_eq]
  | @array items _ ih =>
    have same : items.map Term.sent = items.map id := List.map_congr_left ih
    rw [Term.sent, sentItems_eq_map, same, List.map_id]
  | @object members _ ih =>
    have same : (members.map fun member => (member.1, member.2.sent)) = members.map id :=
      List.map_congr_left fun member isMember => Prod.ext rfl (ih member isMember)
    rw [Term.sent, sentMembers_eq_map, same, List.map_id]

/-- In a term every literal may count. -/
theorem Term.Each.live {kind : Literal → Prop} {term : Term String} (each : term.Each kind) :
    term.EachLive kind := by
  induction each with
  | null => exact .null
  | bool value => exact .bool value
  | number holds => exact .number holds
  | string content => exact .string content
  | array _ ih => exact .array ih
  | object _ ih => exact .object fun name value last => ih _ (mem_of_lastOf? last)

/-- The compact text of a value with integers is read as that value. -/
theorem parse_compact {value : Value} (plain : value.term.Each Literal.IsPlain)
    (nests : value.term.Nests maxDepth) : parse value.term.compact = .ok value := by
  have spells := spells_compact value.term []
  rw [List.append_nil] at spells
  obtain ⟨found, reads, same⟩ := exists_parse spells
    (plain.mono fun literal isPlain => isPlain.isWhole.readable) nests
  rw [reads, eq_of_term_eq (plain.mono fun literal isPlain => isPlain.isWhole)
    (plain.sent_eq.symm.trans same.symm)]

end Switchboard.Json
