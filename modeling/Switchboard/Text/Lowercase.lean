import Switchboard.Text.Ranges
import Switchboard.Text.CaseTable

/-!
# Lower case

The full Unicode lower-case mapping of a text. Two rules go beyond the table: the capital I with a
dot above becomes two characters, and a capital sigma at the end of a word becomes a final sigma.
-/

namespace Switchboard.Text

/-- The property `Cased`. -/
def isCased (c : Char) : Bool := inRanges casedRanges c.toNat

/-- The property `Case_Ignorable`. -/
def isCaseIgnorable (c : Char) : Bool := inRanges caseIgnorableRanges c.toNat

/-- The simple lower-case mapping of one character. -/
def lowerSimple (c : Char) : Char :=
  if c.toNat < 0x80 then c.toLower
  else
    match lowercaseRuns.find? fun (first, last, step, _, _) =>
        first ≤ c.toNat && c.toNat ≤ last && (c.toNat - first) % step == 0 with
    | some (_, _, _, up, down) => Char.ofNat (c.toNat + up - down)
    | none => c

/-- Whether the nearest character that is not case-ignorable is cased. -/
def nextIsCased (text : List Char) : Bool :=
  match text.dropWhile isCaseIgnorable with
  | c :: _ => isCased c
  | [] => false

/-- Lower-cases `text`, whose preceding characters are `before`, the nearest first. -/
def lowerAfter (before : List Char) : List Char → List Char
  | [] => []
  | c :: rest =>
    let lowered :=
      if c = '\u0130' then ['i', '\u0307']
      else if c = 'Σ' then
        if nextIsCased before && !nextIsCased rest then ['ς'] else ['σ']
      else [lowerSimple c]
    lowered ++ lowerAfter (c :: before) rest

/-- The lower-case form of a text. -/
def lower (text : List Char) : List Char := lowerAfter [] text

end Switchboard.Text
