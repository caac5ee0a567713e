import Switchboard.Json.Record
import Switchboard.Proofs.Json.Values

/-!
# Passing over values

A value that is passed over is spelled by the bytes consumed, but for its strings, whose escapes
need not be characters (`spells_of_skipValue`). Whatever is spelled in earnest may be passed over
(`Spells.loose`).
-/

namespace Switchboard.Json

variable {bytes rest : Bytes}

/-- Whatever is spelled in earnest may be passed over. -/
theorem Spells.loose {term : Term String} (spells : Spells IsText bytes term rest) :
    ∃ loose, Spells Loose bytes loose rest := by
  induction term using Term.induction generalizing bytes rest with
  | null =>
    cases spells with
    | null word => exact ⟨.null, .null word⟩
  | bool value =>
    cases spells with
    | true word => exact ⟨_, .true word⟩
    | false word => exact ⟨_, .false word⟩
  | number literal =>
    cases spells with
    | number digits => exact ⟨.number literal, .number digits⟩
  | string content =>
    cases spells with
    | string quote inside => exact ⟨.string (), .string quote (Quoted.loose inside)⟩
  | array items ih =>
    cases spells with
    | array bracket inside =>
      have turns (item : Term String) (member : item ∈ items) (bytes rest : Bytes)
          (spells : Spells IsText bytes item rest) :
          ∃ loose, Spells Loose bytes loose rest ∧ True :=
        (ih item member spells).imp fun _ passed => ⟨passed, trivial⟩
      obtain ⟨found, isItems, -⟩ := inside.transfer turns
      exact ⟨.array found, .array bracket isItems⟩
  | object members ih =>
    cases spells with
    | object brace inside =>
      have named (name : String) (bytes rest : Bytes) (isText : IsText bytes name rest) :
          ∃ loose, Loose bytes loose rest ∧ True := ⟨(), Quoted.loose isText, trivial⟩
      have turns (name : String) (value : Term String) (member : (name, value) ∈ members)
          (bytes rest : Bytes) (spells : Spells IsText bytes value rest) :
          ∃ loose, Spells Loose bytes loose rest ∧ True :=
        (ih (name, value) member spells).imp fun _ passed => ⟨passed, trivial⟩
      obtain ⟨found, isMembers, -⟩ := inside.transfer named turns
      exact ⟨.object found, .object brace isMembers⟩

/-- What is left of an array or an object. -/
def Inside : Enclosure → (first : Bool) → Bytes → Bytes → Prop
  | .array, first, bytes, rest => ∃ items, Items (Spells Loose) first bytes items rest
  | .object, first, bytes, rest => ∃ members, Members Loose (Spells Loose) first bytes members rest

/-- What is left of all that is open, the innermost first. -/
def Closes : (first : Bool) → List Enclosure → Bytes → Bytes → Prop
  | _, [], bytes, rest => bytes = rest
  | first, enclosure :: others, bytes, rest =>
    ∃ middle, Inside enclosure first bytes middle ∧ Closes false others middle rest

/-- An enclosure ends at its closing byte. -/
theorem inside_of_close {enclosure : Enclosure} {first : Bool} {b : UInt8}
    (skipped : skipBlanks bytes = b :: rest)
    (close : (b == (if enclosure = .array then 0x5d else 0x7d)) = true) :
    Inside enclosure first bytes rest := by
  cases enclosure with
  | array =>
    rw [eq_of_beq close] at skipped
    exact ⟨[], .done skipped⟩
  | object =>
    rw [eq_of_beq close] at skipped
    exact ⟨[], .done skipped⟩

/-- A name that is passed over is a string and a colon. -/
theorem name_of_skipName {bound : Nat} (passes : skipName bound bytes = .ok rest) :
    ∃ opened named, Next bytes 0x22 opened ∧ Loose opened () named ∧ Next named 0x3a rest := by
  unfold skipName at passes
  split at passes
  · cases passes
  next b opened skipped =>
    split at passes
    next quote =>
      obtain ⟨named, passesName, passes⟩ := bind_eq_ok.mp passes
      rw [eq_of_beq quote] at skipped
      exact ⟨opened, named, skipped, loose_of_skipString passesName, next_of_expectColon passes⟩
    next => cases passes

/-- One more value at the front of what is left of an enclosure. -/
theorem inside_of_skipToValue {bound : Nat} {enclosure : Enclosure} {first : Bool}
    {behind start valued middle : Bytes} {term : Term Unit} (between : Between first bytes behind)
    (same : skipBlanks behind = skipBlanks start)
    (passes : skipToValue bound enclosure start = .ok valued)
    (head : Spells Loose valued term middle) (tail : Inside enclosure false middle rest) :
    Inside enclosure first bytes rest := by
  cases enclosure with
  | array =>
    cases passes
    obtain ⟨items, tail⟩ := tail
    exact ⟨term :: items, .next between (head.congr_skipBlanks same) tail⟩
  | object =>
    obtain ⟨members, tail⟩ := tail
    obtain ⟨opened, named, quote, loose, colon⟩ := name_of_skipName passes
    exact ⟨((), term) :: members, .next between (same.trans quote) loose colon head tail⟩

/-- What is read of a value that is no string, number, array or object may be passed over. -/
theorem loose_of_readScalar {bound : Nat} {b : UInt8} {after : Bytes}
    (skipped : skipBlanks bytes = b :: after)
    (passes : (readScalar bound b after).map (·.2) = .ok rest) :
    ∃ term, Spells Loose bytes term rest := by
  cases reads : readScalar bound b after with
  | error failure =>
    rw [reads] at passes
    cases passes
  | ok result =>
    rw [reads] at passes
    cases passes
    obtain ⟨term, spells, -⟩ := spells_of_readScalar skipped reads
    exact spells.loose

/-- What passing over amounts to, by what comes next. -/
def Passes (stage : SkipStage) (enclosures : List Enclosure) (bytes rest : Bytes) : Prop :=
  match stage with
  | .value => ∃ term middle, Spells Loose bytes term middle ∧ Closes false enclosures middle rest
  | .opened => Closes true enclosures bytes rest
  | .separated => Closes false enclosures bytes rest

/-- Closing the innermost enclosure leaves those around it. -/
theorem passes_of_close {stage : SkipStage} {enclosure : Enclosure} {enclosures : List Enclosure}
    {b : UInt8} {after : Bytes} (inner : stage ≠ .value) (skipped : skipBlanks bytes = b :: after)
    (close : (b == (if enclosure = .array then 0x5d else 0x7d)) = true)
    (closes : Closes false enclosures after rest) :
    Passes stage (enclosure :: enclosures) bytes rest := by
  cases stage with
  | value => exact absurd rfl inner
  | opened => exact ⟨after, inside_of_close skipped close, closes⟩
  | separated => exact ⟨after, inside_of_close skipped close, closes⟩

/-- Passing over goes by the grammar, whatever is open: by induction on the rounds. -/
theorem passes_of_skipOpen {limit rounds : Nat} {stage : SkipStage} {enclosures : List Enclosure}
    (passes : skipOpen limit rounds stage enclosures bytes = .ok rest) :
    Passes stage enclosures bytes rest := by
  fun_induction skipOpen limit rounds stage enclosures bytes with
  | case1 => cases passes
  | case2 => cases passes
  | case3 rounds enclosures bytes b after skipped bracket ih =>
    obtain ⟨middle, ⟨items, inside⟩, closes⟩ := ih passes
    rw [eq_of_beq bracket] at skipped
    exact ⟨.array items, middle, .array skipped inside, closes⟩
  | case4 rounds enclosures bytes b after skipped notBracket brace ih =>
    obtain ⟨middle, ⟨members, inside⟩, closes⟩ := ih passes
    rw [eq_of_beq brace] at skipped
    exact ⟨.object members, middle, .object skipped inside, closes⟩
  | case5 rounds enclosures bytes b after skipped notBracket notBrace next quote ih =>
    obtain ⟨middle, passesString, passes⟩ := bind_eq_ok.mp passes
    rw [eq_of_beq quote] at skipped
    exact ⟨.string (), middle, .string skipped (loose_of_skipString passesString), ih _ passes⟩
  | case6 rounds enclosures bytes b after skipped notBracket notBrace next notQuote minus ih =>
    obtain ⟨middle, passesNumber, passes⟩ := bind_eq_ok.mp passes
    obtain ⟨literal, negative, split⟩ := literal_of_skipNumber true passesNumber
    rw [eq_of_beq minus, split] at skipped
    refine ⟨.number literal, middle, .number ?_, ih _ passes⟩
    rw [skipped, Literal.text, negative]
    rfl
  | case7 rounds enclosures bytes b after skipped notBracket notBrace next notQuote notMinus
      isDigit ih =>
    obtain ⟨middle, passesNumber, passes⟩ := bind_eq_ok.mp passes
    obtain ⟨literal, negative, split⟩ := literal_of_skipNumber false passesNumber
    refine ⟨.number literal, middle, .number ?_, ih _ passes⟩
    rw [skipped, split, Literal.text, negative]
    rfl
  | case8 rounds enclosures bytes b after skipped notBracket notBrace next notQuote notMinus
      notDigit ih =>
    obtain ⟨middle, passesScalar, passes⟩ := bind_eq_ok.mp passes
    obtain ⟨term, spells⟩ := loose_of_readScalar skipped passesScalar
    exact ⟨term, middle, spells, ih _ passes⟩
  | case9 =>
    cases passes
    rfl
  | case10 =>
    cases passes
    rfl
  | case11 => cases passes
  | case12 rounds stage enclosure enclosures bytes inner b after skipped close ih =>
    exact passes_of_close inner skipped close (ih passes)
  | case13 rounds enclosure enclosures bytes b after skipped notClose inner ih =>
    obtain ⟨valued, goesOn, passes⟩ := bind_eq_ok.mp passes
    obtain ⟨term, middle, head, behind, tail, closes⟩ := ih _ passes
    have same : skipBlanks bytes = skipBlanks (b :: after) := by
      rw [← skipped, skipBlanks_skipBlanks]
    exact ⟨behind, inside_of_skipToValue rfl same goesOn head tail, closes⟩
  | case14 rounds stage enclosure enclosures bytes inner b after skipped notClose notOpened comma
      ih =>
    obtain rfl : stage = .separated := by cases stage <;> trivial
    obtain ⟨valued, goesOn, passes⟩ := bind_eq_ok.mp passes
    obtain ⟨term, middle, head, behind, tail, closes⟩ := ih _ passes
    rw [eq_of_beq comma] at skipped
    exact ⟨behind, inside_of_skipToValue skipped rfl goesOn head tail, closes⟩
  | case15 => cases passes

/-- A value that is passed over is spelled, but for its strings. -/
theorem spells_of_skipValue {bound : Nat} (passes : skipValue bound bytes = .ok rest) :
    ∃ term, Spells Loose bytes term rest := by
  obtain ⟨term, middle, spells, rfl⟩ := passes_of_skipOpen passes
  exact ⟨term, spells⟩

end Switchboard.Json
