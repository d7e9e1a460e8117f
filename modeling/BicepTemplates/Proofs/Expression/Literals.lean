import BicepTemplates.Proofs.Expression.Templates
import BicepTemplates.Proofs.Text.Reading

/-! # Reading literals where they stand

A string literal is read back from its text, whatever follows it: no expression opens in it, and it
closes at its own quote. In the same way each literal of an interpolated string is read back from
its place, up to the expression behind it or, for the last one, up to the closing quote.
-/

namespace BicepTemplates

/-- What stands between the opening quote and the literal with the given number. -/
def Interpolation.front (b : Interpolation) (i : Nat) : List Char :=
  ((b.literals.zip b.expressions).take i).flatMap fun (literal, hole) =>
    Quoted.escape literal.toList ++ '$' :: '{' :: hole.chars ++ ['}']

/-- The text starts with the literal, and goes on with the expression or else, behind the closing
quote, with the rest. -/
def StartsWith (literal : String) (hole? : Option Expr) (rest text : List Char) : Prop :=
  match hole? with
  | some hole =>
    ∃ more, Quoted.read text = some (literal.toList, .hole, hole.chars ++ '}' :: more)
  | none => Quoted.read text = some (literal.toList, .quote, rest)

theorem Segments.exists_startsWith : ∀ (s : Segments) (i : Nat) {literal : String}
    (rest : List Char), s.literals[i]? = some literal →
    ∃ text, s.chars ++ rest = (⟨s.literals, s.expressions⟩ : Interpolation).front i ++ text ∧
      StartsWith literal s.expressions[i]? rest text
  | .last value, 0, literal, rest, h => by
    obtain rfl := Option.some.inj h
    refine ⟨_, rfl, ?_⟩
    have hread := Quoted.read_escape value.toList .quote rest
    simpa [StartsWith, expressions, chars, Quoted.Stop.chars] using hread
  | .next value hole more, 0, literal, rest, h => by
    obtain rfl := Option.some.inj h
    refine ⟨_, rfl, more.chars ++ rest, ?_⟩
    have hread := Quoted.read_escape value.toList .hole (hole.chars ++ '}' :: (more.chars ++ rest))
    simpa [chars, Quoted.Stop.chars] using hread
  | .next value hole more, i + 1, literal, rest, h => by
    obtain ⟨text, htext, hstarts⟩ := more.exists_startsWith i rest h
    refine ⟨text, ?_, hstarts⟩
    simp only [Interpolation.front] at htext
    simp [Interpolation.front, literals, expressions, chars, htext]

namespace Expr

/-- String literals and the literals of interpolated strings are read back, whatever follows. -/
theorem literals_read_back :
    (∀ value rest : String, ∃ text, (Quoted.literal value ++ rest).toList = '\'' :: text ∧
      Quoted.read text = some (value.toList, .quote, rest.toList)) ∧
    ∀ (e : Expr) (b : Interpolation), e.interpolation? = some b →
      ∀ (i : Nat) (literal rest : String), b.literals[i]? = some literal →
        ∃ text, (e.render ++ rest).toList = '\'' :: (b.front i ++ text) ∧
          StartsWith literal b.expressions[i]? rest.toList text := by
  constructor
  · intro value rest
    refine ⟨Quoted.escape value.toList ++ '\'' :: rest.toList, ?_, ?_⟩
    · simp [Quoted.literal, Quoted.encode]
    · exact Quoted.read_escape value.toList .quote rest.toList
  · intro e b he i literal rest hi
    cases e with
    | interpolation first hole more =>
      obtain rfl := Option.some.inj he
      obtain ⟨text, htext, hstarts⟩ :=
        (Segments.next first hole more).exists_startsWith i rest.toList hi
      refine ⟨text, ?_, hstarts⟩
      simp only [Segments.literals, Segments.expressions] at htext
      rw [← htext]
      simp [render, chars, Segments.chars]
    | _ => cases he

/-- The first literal ends in a dollar sign in front of the hole, the last one in a backslash in
front of the quote. -/
theorem literals_read_back_dollar :
    (interpolation "a$" (symbol "x") (.last "\\")).interpolation? =
        some ⟨["a$", "\\"], [symbol "x"]⟩ ∧
      (∃ text, "'a$$\x7bx\x7d\\\\'b".toList = '\'' :: text ∧
        StartsWith "a$" (some (symbol "x")) "b".toList text) ∧
      ∃ text, "'a$$\x7bx\x7d\\\\'b".toList = "'a$$\x7bx\x7d".toList ++ text ∧
        StartsWith "\\" none "b".toList text :=
  ⟨rfl, literals_read_back.2 (interpolation "a$" (symbol "x") (.last "\\")) _ rfl 0 _ "b" rfl,
    literals_read_back.2 (interpolation "a$" (symbol "x") (.last "\\")) _ rfl 1 _ "b" rfl⟩

end Expr

end BicepTemplates
