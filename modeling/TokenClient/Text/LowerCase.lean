import TokenClient.Text.LowerCase.Table

/-!
# Lower case

Full lower-casing of a text, by which selectors are compared with what a module says of itself. It
works character by character with one exception: a capital sigma is written in its final form where a
word ends, so its image depends on its neighbours. A part of a text that is lower-cased on its own may
therefore differ from the same part of the lower-cased whole.
-/

namespace TokenClient.Text

/-- Whether a list of intervals contains a number. -/
def inIntervals (intervals : List (Nat × Nat)) (n : Nat) : Bool :=
  intervals.any fun (first, last) => first ≤ n && n ≤ last

/-- Whether a character takes part in case, and so makes a word of what it stands in. -/
def isCased (c : Char) : Bool := inIntervals casedIntervals c.toNat

/-- Whether a character, such as an accent or an apostrophe, is looked through in a word. -/
def isCaseIgnorable (c : Char) : Bool := inIntervals ignorableIntervals c.toNat

/-- The lower-case form of a character regardless of its neighbours. -/
def lowerChar (c : Char) : List Char :=
  if c.toNat < 0x80 then [c.toLower]
  else if c.toNat = 0x130 then ['i', '\u0307']
  else match caseRanges.find? (·.covers c.toNat) with
    | some range => [Char.ofNat (c.toNat + range.offset).toNat]
    | none => [c]

/-- Whether the first character that is not looked through is cased. -/
def meetsCased (cs : List Char) : Bool :=
  match cs.dropWhile isCaseIgnorable with
  | c :: _ => isCased c
  | [] => false

/-- The form of a capital sigma between what comes before it, nearest first, and what comes after it. -/
def lowerSigma (before after : List Char) : Char :=
  if meetsCased before && !meetsCased after then 'ς' else 'σ'

/-- The lower-case form of a text that follows `before`, nearest first. -/
def lowerAfter (before : List Char) : List Char → List Char
  | [] => []
  | c :: cs =>
    (if c = 'Σ' then [lowerSigma before cs] else lowerChar c) ++ lowerAfter (c :: before) cs

/-- The lower-case form of a text. -/
def lower (cs : List Char) : List Char := lowerAfter [] cs

end TokenClient.Text
