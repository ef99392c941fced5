import ClauseEditor.Text.CaseTable

/-!
# Lower case

The full lower case mapping of Unicode.  All mappings but two depend on the
character alone: a capital sigma that ends a word becomes a final sigma, and
a capital I with a dot above becomes two code points.
-/

namespace ClauseEditor

namespace CodePoint

/-- Whether the run maps the code point. -/
def CaseRun.covers (run : CaseRun) (c : CodePoint) : Bool :=
  run.first ≤ c.val && c.val ≤ run.last &&
    (c.val - run.first) % run.stride = 0

/-- The lower case form of a character by itself. -/
def lower (c : CodePoint) : Text :=
  if c.val = 0x130 then [ofNat 0x69, ofNat 0x307]
  else
    match lowerRuns.find? fun run => run.covers c with
    | some run => [ofNat (c.val + run.shift).toNat]
    | none => [c]

/-- Casing looks through the character. -/
def isCaseIgnorable (c : CodePoint) : Bool :=
  c.within caseIgnorable

/-- The character has case and casing does not look through it. -/
def isCased (c : CodePoint) : Bool :=
  c.within cased

end CodePoint

namespace Text

/-- The first character that casing does not look through has case. -/
def meetsCased (text : Text) : Bool :=
  match text.find? fun c => !c.isCaseIgnorable with
  | some c => c.isCased
  | none => false

/--
Lower case of a text whose predecessors, nearest first, are `before`.  A
capital sigma is final if a character with case precedes it and none follows.
-/
def lowerAfter (before : Text) : Text → Text
  | [] => []
  | c :: rest =>
    let form :=
      if c.val = 0x3A3 then
        if meetsCased before && !meetsCased rest then
          [CodePoint.ofNat 0x3C2]
        else [CodePoint.ofNat 0x3C3]
      else c.lower
    form ++ lowerAfter (c :: before) rest

/-- The text in lower case. -/
def lower (text : Text) : Text :=
  lowerAfter [] text

end Text

end ClauseEditor
