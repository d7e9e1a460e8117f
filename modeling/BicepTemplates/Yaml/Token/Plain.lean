import BicepTemplates.Yaml.Character

/-! # Plain scalars

A scalar without quotes ends before a colon that ends a word, before a comment, before a document
marker and, outside brackets, before a line that is not indented deep enough. Within brackets, it
also ends at commas and brackets. Gaps are folded, and the gap behind the last word is dropped.
-/

namespace BicepTemplates.Yaml.PlainScalar

def flowIndicators : List Char := [',', '[', ']', '\x7b', '\x7d']

/-- What was read: the text, what follows, and whether a line ended in between. -/
structure Outcome where
  text : List Char
  rest : List Char
  endedLine : Bool

/-- Where a scalar stands. -/
structure Context where
  inFlow : Bool
  /-- The least column of a line that continues the scalar. -/
  indent : Int

/-- Text and gap hold what was read so far, last characters first. -/
def read (context : Context) (column : Nat) (text gap : List Char) : List Char → Option Outcome
  | [] => some ⟨text.reverse, [], gap.any isBreak⟩
  | c :: rest =>
    let shallow := (column : Int) < context.indent
    let startsLine := match gap with
      | b :: _ => isBreak b
      | [] => false
    if isGap c then
      if c == '\t' && gap.any isBreak && shallow then none
      else read context (if isBreak c then 0 else column + 1) text (c :: gap) rest
    else if !gap.isEmpty && (!context.inFlow && shallow ||
        startsLine && isDocumentMarker (c :: rest) || c == '#') then
      some ⟨text.reverse, c :: rest, gap.any isBreak⟩
    else if context.inFlow && c == ':' && startsWithAny ('?' :: flowIndicators) rest then none
    else if (c == ':' && endsWord rest) || (context.inFlow && flowIndicators.contains c) then
      some ⟨text.reverse, c :: rest, gap.any isBreak⟩
    else read context (column + 1) (c :: (foldGap gap.reverse).reverse ++ text) [] rest

end BicepTemplates.Yaml.PlainScalar
