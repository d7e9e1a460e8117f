import BicepTemplates.Proofs.Expression.Names
import BicepTemplates.Proofs.Layout.Outline
import BicepTemplates.Proofs.Property.Writing

/-! # Outlines of property trees

The text of a tree is indented as the tree is nested: a node that holds an expression is one line,
and the lines of the children of an object or an array are one deeper than those of its delimiters.
If the names in the expressions are identifiers, no line has a break or starts with a space of its
own, whatever strings and keys the tree has. Placing the tree deeper then indents every line but
the first by the same amount, up to the levels where the width of an indentation wraps around.
-/

namespace BicepTemplates

open Layout Outline

mutual

def Property.outline : Property → Outline
  | .scalar name value => line (keyChars name ++ value.chars)
  | .object name valueOnly properties =>
    container .object (if valueOnly then [] else keyChars name) (propertyOutlines properties)
  | .array name elements => container .array (keyChars name) (elementOutlines elements)

def Element.outline : Element → Outline
  | .scalar value => line value.chars
  | .object _ _ properties => container .object [] (propertyOutlines properties)
  | .array _ elements => container .array [] (elementOutlines elements)

def propertyOutlines : List Property → List Outline
  | [] => []
  | p :: rest => p.outline :: propertyOutlines rest

def elementOutlines : List Element → List Outline
  | [] => []
  | e :: rest => e.outline :: elementOutlines rest

end

section Texts

variable {ps : List Property} {es : List Element}

theorem propertyOutlines_eq (ps : List Property) :
    propertyOutlines ps = ps.map Property.outline := by
  induction ps with
  | nil => rfl
  | cons p ps ih => rw [propertyOutlines, ih, List.map_cons]

theorem elementOutlines_eq (es : List Element) :
    elementOutlines es = es.map Element.outline := by
  induction es with
  | nil => rfl
  | cons e es ih => rw [elementOutlines, ih, List.map_cons]

theorem text_object (key : List Char) (h : ∀ p ∈ ps, p.outline.text = p.chars) (level : Level) :
    (container .object key (propertyOutlines ps)).text level =
      key ++ blockText .object (propertyTexts ps) level := by
  rw [text_container, propertyOutlines_eq, propertyTexts_eq, List.map_map]
  congr 2
  exact List.map_congr_left h

theorem text_array (key : List Char) (h : ∀ e ∈ es, e.outline.text = e.chars) (level : Level) :
    (container .array key (elementOutlines es)).text level =
      key ++ blockText .array (elementTexts es) level := by
  rw [text_container, elementOutlines_eq, elementTexts_eq, List.map_map]
  congr 2
  exact List.map_congr_left h

/-- A tree writes the lines of its outline. -/
theorem text_outline :
    (∀ p : Property, p.outline.text = p.chars) ∧ ∀ e : Element, e.outline.text = e.chars := by
  refine Property.tree_induction ?scalar ?object ?array ?scalarElement ?objectElement ?arrayElement
  case scalar =>
    intro name value
    exact funext (text_line _)
  case object =>
    intro name valueOnly ps h
    exact funext (text_object _ h)
  case array =>
    intro name es h
    exact funext (text_array _ h)
  case scalarElement =>
    intro value
    exact funext (text_line _)
  case objectElement =>
    intro name valueOnly ps h
    exact funext (text_object [] h)
  case arrayElement =>
    intro name es h
    exact funext (text_array [] h)

end Texts

section Values

variable {c : Char} {w : List Char}

theorem inked_of_isWordChar (h : isWordChar c = true) : Inked c := by
  constructor
  · rintro rfl
    exact absurd h (by decide)
  · rintro rfl
    exact absurd h (by decide)

theorem trimmed_of_word (hne : w ≠ []) (h : ∀ c ∈ w, isWordChar c = true) : Trimmed w :=
  ⟨⟨w.head hne, List.head?_eq_some_head hne, inked_of_isWordChar (h _ (List.head_mem hne))⟩,
    ⟨w.getLast hne, List.getLast?_eq_some_getLast hne,
      inked_of_isWordChar (h _ (List.getLast_mem hne))⟩⟩

theorem trimmed_of_isIdentifier {name : String} (h : isIdentifier name = true) :
    Trimmed name.toList :=
  trimmed_of_word (ne_nil_of_isIdentifierWord h) (isWordChar_of_isIdentifierWord h)

theorem trimmed_quote : Trimmed ['\''] :=
  trimmed_singleton (by decide)

theorem trimmed_encode (s : List Char) : Trimmed (Quoted.encode s) :=
  trimmed_quote.around trimmed_quote (Quoted.escape s)

theorem trimmed_toDigits (n : Nat) : Trimmed (Nat.toDigits 10 n) :=
  trimmed_of_word Nat.toDigits_ne_nil fun _ => isWordChar_of_mem_toDigits

theorem Segments.exists_chars_eq_append_quote (s : Segments) :
    ∃ text, s.chars = text ++ ['\''] := by
  fun_induction Segments.literals s with
  | case1 literal => exact ⟨_, rfl⟩
  | case2 literal hole rest ih =>
    obtain ⟨text, htext⟩ := ih
    refine ⟨Quoted.escape literal.toList ++ '$' :: '{' :: hole.chars ++ '}' :: text, ?_⟩
    simp only [Segments.chars, htext, List.append_assoc, List.cons_append]

theorem Expr.trimmed_chars : ∀ e : Expr, Identifiers e.names → Trimmed e.chars
  | .text value, _ => trimmed_encode value.toList
  | .int (.ofNat n), _ => trimmed_toDigits n
  | .int (.negSucc n), _ => (trimmed_singleton (by decide)).append (trimmed_toDigits (n + 1))
  | .bool true, _ => trimmed_of_word (by decide) (List.all_eq_true.mp (by decide))
  | .bool false, _ => trimmed_of_word (by decide) (List.all_eq_true.mp (by decide))
  | .symbol name, h => trimmed_of_isIdentifier (identifiers_cons.mp h).1
  | .call name args, h => by
    have hname := trimmed_of_isIdentifier (identifiers_cons.mp h).1
    exact hname.around (trimmed_singleton (c := ')') (by decide)) ('(' :: argsChars args)
  | .member base name, h => by
    obtain ⟨hbase, hname⟩ := identifiers_append.mp h
    have hmember := trimmed_of_isIdentifier (identifiers_cons.mp hname).1
    rw [Expr.chars, List.append_cons]
    exact (base.trimmed_chars hbase).around hmember ['.']
  | .interpolation first hole rest, _ => by
    obtain ⟨text, htext⟩ := rest.exists_chars_eq_append_quote
    rw [Expr.chars, htext]
    have h := trimmed_quote.around trimmed_quote
      (Quoted.escape first.toList ++ '$' :: '{' :: hole.chars ++ '}' :: text)
    simpa only [List.append_assoc, List.cons_append, List.nil_append] using h

theorem Expr.solid_chars {e : Expr} (h : Identifiers e.names) : Line.Solid e.chars :=
  ⟨e.trimmed_chars h, e.newline_not_mem_chars h⟩

theorem solid_keyChars_append (name : String) (hw : Line.Solid w) :
    Line.Solid (keyChars name ++ w) := by
  have hkey : Line.Solid
      (if isIdentifier name then name.toList else Quoted.encode name.toList) := by
    split
    · next h => exact ⟨trimmed_of_isIdentifier h, newline_not_mem_of_isIdentifier h⟩
    · exact ⟨trimmed_encode _, newline_not_mem_encode _⟩
  exact hkey.around hw (by decide)

end Values

section Trees

variable {ps : List Property} {es : List Element} {key : List Char}

theorem solid_object (hkey : Line.Solid (key ++ ['{']))
    (ih : ∀ p ∈ ps, Identifiers p.names → p.outline.Solid) (h : Identifiers (propertiesNames ps)) :
    (container .object key (propertyOutlines ps)).Solid := by
  rw [propertiesNames_eq, identifiers_flatMap] at h
  refine solid_container hkey (.singleton (by decide)) ?_
  rw [propertyOutlines_eq, List.forall_mem_map]
  exact fun p hp => ih p hp (h p hp)

theorem solid_array (hkey : Line.Solid (key ++ ['[']))
    (ih : ∀ e ∈ es, Identifiers e.names → e.outline.Solid) (h : Identifiers (elementsNames es)) :
    (container .array key (elementOutlines es)).Solid := by
  rw [elementsNames_eq, identifiers_flatMap] at h
  refine solid_container hkey (.singleton (by decide)) ?_
  rw [elementOutlines_eq, List.forall_mem_map]
  exact fun e he => ih e he (h e he)

theorem solid_outline :
    (∀ p : Property, Identifiers p.names → p.outline.Solid) ∧
      ∀ e : Element, Identifiers e.names → e.outline.Solid := by
  have hopen : ∀ c, Inked c → Line.Solid ([] ++ [c]) := fun _ => .singleton
  refine Property.tree_induction ?scalar ?object ?array ?scalarElement ?objectElement ?arrayElement
  case scalar =>
    intro name value h
    exact solid_line (solid_keyChars_append name (Expr.solid_chars h))
  case object =>
    intro name valueOnly ps ih h
    have hbrace := hopen '{' (by decide)
    cases valueOnly with
    | true => exact solid_object hbrace ih h
    | false => exact solid_object (solid_keyChars_append name hbrace) ih h
  case array =>
    intro name es ih h
    exact solid_array (solid_keyChars_append name (hopen '[' (by decide))) ih h
  case scalarElement =>
    intro value h
    exact solid_line (Expr.solid_chars h)
  case objectElement =>
    intro name valueOnly ps ih h
    exact solid_object (hopen '{' (by decide)) ih h
  case arrayElement =>
    intro name es ih h
    exact solid_array (hopen '[' (by decide)) ih h

end Trees

/-- An array of an object and an empty array. The break in the string is no break of the text. -/
def Property.rules : Property :=
  .array "rules" [.bag [.text "note" "first\n  second",
    .scalar "id" (.member (.symbol "subnet") "id")], .array "" []]

end BicepTemplates
