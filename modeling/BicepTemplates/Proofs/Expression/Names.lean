import BicepTemplates.Expression.Path
import BicepTemplates.Property
import BicepTemplates.Proofs.Expression.Reading

/-! # Names

The names of an expression are those of its symbols, calls and members. They are all that is
written as it was given: strings are escaped, and numbers and truth values have fixed spellings.
An expression whose names are identifiers therefore stands on one line. Of the names only the
symbols refer to something that a template declares.
-/

namespace BicepTemplates

mutual

def Expr.names : Expr → List String
  | .text _ => []
  | .int _ => []
  | .bool _ => []
  | .symbol name => [name]
  | .call name args => name :: argsNames args
  | .member base name => base.names ++ [name]
  | .interpolation _ hole rest => hole.names ++ rest.names

def argsNames : List Expr → List String
  | [] => []
  | arg :: rest => arg.names ++ argsNames rest

def Segments.names : Segments → List String
  | .last _ => []
  | .next _ hole rest => hole.names ++ rest.names

end

mutual

/-- The names in the expressions of the tree. Keys are none of them. -/
def Property.names : Property → List String
  | .scalar _ value => value.names
  | .object _ _ properties => propertiesNames properties
  | .array _ elements => elementsNames elements

def Element.names : Element → List String
  | .scalar value => value.names
  | .object _ _ properties => propertiesNames properties
  | .array _ elements => elementsNames elements

def propertiesNames : List Property → List String
  | [] => []
  | p :: rest => p.names ++ propertiesNames rest

def elementsNames : List Element → List String
  | [] => []
  | e :: rest => e.names ++ elementsNames rest

end

theorem propertiesNames_eq (ps : List Property) :
    propertiesNames ps = ps.flatMap Property.names := by
  induction ps with
  | nil => rfl
  | cons p ps ih => rw [propertiesNames, ih, List.flatMap_cons]

theorem elementsNames_eq (es : List Element) : elementsNames es = es.flatMap Element.names := by
  induction es with
  | nil => rfl
  | cons e es ih => rw [elementsNames, ih, List.flatMap_cons]

theorem argsNames_expressions (s : Segments) : argsNames s.expressions = s.names := by
  fun_induction Segments.expressions s with
  | case1 literal => rfl
  | case2 literal hole rest ih => rw [argsNames, Segments.names, ih]

mutual

def Expr.symbols : Expr → List String
  | .text _ => []
  | .int _ => []
  | .bool _ => []
  | .symbol name => [name]
  | .call _ args => argsSymbols args
  | .member base _ => base.symbols
  | .interpolation _ hole rest => hole.symbols ++ rest.symbols

def argsSymbols : List Expr → List String
  | [] => []
  | arg :: rest => arg.symbols ++ argsSymbols rest

def Segments.symbols : Segments → List String
  | .last _ => []
  | .next _ hole rest => hole.symbols ++ rest.symbols

end

/-- All names are identifiers. -/
def Identifiers (names : List String) : Prop :=
  ∀ name ∈ names, isIdentifier name = true

section Identifiers

variable {names more : List String} {name : String}

@[simp] theorem identifiers_nil : Identifiers [] := by simp [Identifiers]

@[simp] theorem identifiers_cons :
    Identifiers (name :: names) ↔ isIdentifier name = true ∧ Identifiers names :=
  List.forall_mem_cons

@[simp] theorem identifiers_append :
    Identifiers (names ++ more) ↔ Identifiers names ∧ Identifiers more :=
  List.forall_mem_append

theorem identifiers_flatMap {α : Type} {f : α → List String} {xs : List α} :
    Identifiers (xs.flatMap f) ↔ ∀ x ∈ xs, Identifiers (f x) :=
  List.forall_mem_flatMap

end Identifiers

section Lines

theorem newline_not_mem_of_word {word : List Char} (h : ∀ c ∈ word, isWordChar c = true) :
    '\n' ∉ word :=
  fun hm => absurd (h '\n' hm) (by decide)

theorem newline_not_mem_of_isIdentifier {name : String} (h : isIdentifier name = true) :
    '\n' ∉ name.toList :=
  newline_not_mem_of_word (isWordChar_of_isIdentifierWord h)

theorem newline_not_mem_escape (s : List Char) : '\n' ∉ Quoted.escape s := by
  fun_induction Quoted.escape s with
  | case1 => simp
  | case8 c rest _ _ hn _ _ _ ih =>
    have hc : '\n' ≠ c := fun h => hn h.symm
    exact List.not_mem_cons_of_ne_of_not_mem hc ih
  | _ => simpa

theorem newline_not_mem_encode (s : List Char) : '\n' ∉ Quoted.encode s := by
  simp [Quoted.encode, newline_not_mem_escape]

theorem newline_not_mem_decimal (n : Int) : '\n' ∉ decimal n := by
  have hdigits : ∀ k, '\n' ∉ Nat.toDigits 10 k :=
    fun k => newline_not_mem_of_word fun _ => isWordChar_of_mem_toDigits
  cases n with
  | ofNat k => exact hdigits k
  | negSucc k => simp [decimal, hdigits]

mutual

theorem Expr.newline_not_mem_chars : ∀ e : Expr, Identifiers e.names → '\n' ∉ e.chars
  | .text value, _ => newline_not_mem_encode _
  | .int n, _ => newline_not_mem_decimal n
  | .bool true, _ => by decide
  | .bool false, _ => by decide
  | .symbol name, h => newline_not_mem_of_isIdentifier (identifiers_cons.mp h).1
  | .call name args, h => by
    obtain ⟨hname, hargs⟩ := identifiers_cons.mp h
    simp [Expr.chars, newline_not_mem_of_isIdentifier hname, newline_not_mem_argsChars args hargs]
  | .member base name, h => by
    obtain ⟨hbase, hname⟩ := identifiers_append.mp h
    simp [Expr.chars, base.newline_not_mem_chars hbase,
      newline_not_mem_of_isIdentifier (identifiers_cons.mp hname).1]
  | .interpolation first hole rest, h => by
    obtain ⟨hhole, hrest⟩ := identifiers_append.mp h
    simp [Expr.chars, newline_not_mem_escape, hole.newline_not_mem_chars hhole,
      rest.newline_not_mem_chars hrest]

theorem newline_not_mem_argsChars : ∀ args : List Expr, Identifiers (argsNames args) →
    '\n' ∉ argsChars args
  | [], _ => by simp [argsChars]
  | arg :: rest, h => by
    obtain ⟨harg, hrest⟩ := identifiers_append.mp h
    simp [argsChars, arg.newline_not_mem_chars harg, newline_not_mem_moreArgsChars rest hrest]

theorem newline_not_mem_moreArgsChars : ∀ args : List Expr, Identifiers (argsNames args) →
    '\n' ∉ moreArgsChars args
  | [], _ => by simp [moreArgsChars]
  | arg :: rest, h => by
    obtain ⟨harg, hrest⟩ := identifiers_append.mp h
    simp [moreArgsChars, arg.newline_not_mem_chars harg, newline_not_mem_moreArgsChars rest hrest]

theorem Segments.newline_not_mem_chars : ∀ s : Segments, Identifiers s.names → '\n' ∉ s.chars
  | .last literal, _ => by simp [Segments.chars, newline_not_mem_escape]
  | .next literal hole rest, h => by
    obtain ⟨hhole, hrest⟩ := identifiers_append.mp h
    simp [Segments.chars, newline_not_mem_escape, hole.newline_not_mem_chars hhole,
      rest.newline_not_mem_chars hrest]

end

end Lines

section Paths

variable {path : String} {base e : Expr} {segments : List (List Char)}

theorem isIdentifier_ofList {segment : List Char} (h : isIdentifierWord segment = true) :
    isIdentifier (String.ofList segment) = true := by
  rwa [isIdentifier, String.toList_ofList]

theorem identifiers_of_ofHead? {segment : List Char} (h : Expr.ofHead? segment = some e) :
    Identifiers e.names := by
  unfold Expr.ofHead? at h
  split at h
  · next hword =>
    obtain rfl := Option.some.inj h
    simp [Expr.names, isIdentifier_ofList hword]
  · split at h
    · split at h
      · next hword =>
        obtain rfl := Option.some.inj h
        simp [Expr.names, argsNames, isIdentifier_ofList hword]
      · exact nomatch h
    · exact nomatch h

theorem identifiers_of_members (hbase : Identifiers base.names)
    (h : Expr.members path base segments = .ok e) : Identifiers e.names := by
  induction segments generalizing base with
  | nil =>
    obtain rfl := Except.ok.inj h
    exact hbase
  | cons segment segments ih =>
    rw [Expr.members] at h
    split at h
    · next hword =>
      refine ih ?_ h
      simp [Expr.names, hbase, isIdentifier_ofList hword]
    · exact nomatch h

theorem identifiers_of_ofPath (h : Expr.ofPath path = .ok e) : Identifiers e.names := by
  unfold Expr.ofPath at h
  split at h
  · exact nomatch h
  · split at h
    · exact nomatch h
    · split at h
      · next hhead => exact identifiers_of_members (identifiers_of_ofHead? hhead) h
      · exact nomatch h

end Paths

end BicepTemplates
