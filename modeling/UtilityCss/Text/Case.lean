import UtilityCss.Text.CaseTable

/-!
# Letter case

`Text.lower` writes a text in small letters and `Text.capitalize` writes its first character in
title case and the rest in small letters, by the full mappings of Unicode 14: one character may
become several.  The only mapping that looks at the neighbours is that of the capital sigma, which
becomes the final form at the end of a word (`smallSigma`).
-/

namespace UtilityCss

/-- The small form of a character other than the capital sigma. -/
def lowerCharacter (c : Char) : Text :=
  if c.toNat < 0x80 then [c.toLower]
  else if c.toNat = 0x130 then ['i', Char.ofNat 0x307]
  else [Char.ofNat (CaseRun.move lowerRuns c.toNat)]

/-- The title form of a character. -/
def titleCharacter (c : Char) : Text :=
  if c.toNat < 0x80 then [c.toUpper]
  else
    match titleExpansions.lookup c.toNat with
    | some expansion => expansion.map Char.ofNat
    | none => [Char.ofNat (CaseRun.move titleRuns c.toNat)]

/-- Is the first character that is not passed over a cased one? -/
def touchesCased (neighbours : Text) : Bool :=
  (neighbours.dropWhile (CodeRange.covered caseIgnorableRanges)).head?.any
    (CodeRange.covered casedRanges)

/-- The small form of a capital sigma: final when a cased character stands before it and none
after it.  The characters before it are given with the nearest first. -/
def smallSigma (before after : Text) : Char :=
  if touchesCased before && !touchesCased after then 'ς' else 'σ'

namespace Text

/-- Small letters for the rest of a text; `before` holds what precedes it, the nearest first. -/
def lowerAfter (before : Text) : Text → Text
  | [] => []
  | c :: rest =>
    (if c = 'Σ' then [smallSigma before rest] else lowerCharacter c) ++
      lowerAfter (c :: before) rest

/-- The text in small letters. -/
def lower (text : Text) : Text := lowerAfter [] text

/-- The first character in title case and the rest in small letters. -/
def capitalize : Text → Text
  | [] => []
  | c :: rest => titleCharacter c ++ lowerAfter [c] rest

end Text

end UtilityCss
