import BicepTemplates.Proofs.Document.References
import BicepTemplates.Proofs.Resource.Existing

/-! # Which names there are

A name is a non-empty word over 63 characters. Text that somebody gives is checked, and the first
character that is in the way is reported. Constants and generated names are taken without a check,
which they would pass: a generated name is a fixed beginning with eight hexadecimal digits behind
it, whatever the seed is. A name that is refused does not replace the one a resource has.
-/

namespace BicepTemplates

def IsNameChar (c : Char) : Prop :=
  'A' ≤ c ∧ c ≤ 'Z' ∨ 'a' ≤ c ∧ c ≤ 'z' ∨ '0' ≤ c ∧ c ≤ '9' ∨ c = '_'

def IsUpperHexDigit (c : Char) : Prop :=
  '0' ≤ c ∧ c ≤ '9' ∨ 'A' ≤ c ∧ c ≤ 'F'

instance : DecidablePred IsUpperHexDigit := fun c =>
  inferInstanceAs (Decidable ('0' ≤ c ∧ c ≤ '9' ∨ 'A' ≤ c ∧ c ≤ 'F'))

namespace Name

/-- What can be a name. -/
def IsWord (text : String) : Prop :=
  text ≠ "" ∧ ∀ c ∈ text.toList, IsNameChar c

/-- The first character of the text that cannot stand in a name. -/
def FirstRefused (text : String) (c : Char) : Prop :=
  ¬ IsNameChar c ∧
    ∃ before after, text.toList = before ++ c :: after ∧ ∀ b ∈ before, IsNameChar b

/-- The text is the beginning and the identifier of the seed, which has eight digits. -/
structure Identifies (beginning seed text : String) : Prop where
  text_eq : text = beginning ++ identifier seed
  length_eq : (identifier seed).length = 8
  digits : ∀ c ∈ (identifier seed).toList, IsUpperHexDigit c

def beginnings : List String :=
  ["er_", "uai_", "kv_", "ra_"]

/-- The names of host parameters, outputs and resources that are always the same. -/
def constants : List String :=
  ["location", "principalId", "principalType", "clientId", "resourceId", "vaultUri",
    "accountEndpoint", "cosmosDbAccount", "mapsAccount"]

/-- What is taken for a name without a check. A beginning stands for the name until there is a
seed. -/
inductive Unchecked : String → Prop where
  | constant {text : String} (h : text ∈ constants) : Unchecked text
  | beginning {text : String} (h : text ∈ beginnings) : Unchecked text
  | generated {text : String} (h : text ∈ beginnings) (seed : String) :
      Unchecked (text ++ identifier seed)

end Name

/-- Resources of some kinds have a name of a certain form. -/
def Resource.NamedByKind : Resource → Prop
  | existing x => ∃ seed, Name.Identifies "er_" seed x.header.name.text
  | identity i => Name.Identifies "uai_" i.publicName i.header.name.text
  | vault v => Name.Identifies "kv_" "kv" v.header.name.text
  | roleAssignment x => Name.Identifies "ra_" x.toAssignment.seed x.header.name.text
  | maps m => m.header.name.text = "mapsAccount"
  | _ => True

section Words

theorem isWordChar_iff {c : Char} : isWordChar c = true ↔ IsNameChar c := by
  have hranges : isWordChar c = (decide ('A' ≤ c ∧ c ≤ 'Z') || (decide ('a' ≤ c) &&
      decide (c ≤ 'z')) || (decide ('0' ≤ c) && decide (c ≤ '9')) || c == '_') := rfl
  simp [hranges, IsNameChar, or_assoc]

theorem isUpperHexDigit_hexDigit {k : Nat} (h : k < 16) :
    IsUpperHexDigit (Digest.hexDigit .upper k) := by
  revert k; decide

namespace Name

variable {text beginning seed : String} {c : Char} {n : Name} {e : NameError}

theorem isName_iff : isName text = true ↔ IsWord text := by
  simp [isName, IsWord, isWordChar_iff]

theorem firstRefused_iff :
    FirstRefused text c ↔ text.toList.find? (!isWordChar ·) = some c := by
  simp only [List.find?_eq_some_iff_append, FirstRefused, ← isWordChar_iff, Bool.not_eq_true',
    Bool.not_not, Bool.not_eq_true]

theorem exists_ofString_iff : (∃ n, ofString text = .ok n) ↔ IsWord text := by
  rw [← isName_iff]
  constructor
  · rintro ⟨n, hn⟩
    obtain rfl := text_of_ofString hn
    exact n.valid
  · exact fun h => ⟨⟨text, h⟩, dif_pos h⟩

theorem ofString_eq_error_iff : ofString text = .error e ↔
    text = "" ∧ e = .empty ∨ ∃ c, FirstRefused text c ∧ e = .invalidCharacter text c := by
  by_cases hname : isName text = true
  · have hword := isName_iff.mp hname
    have hok : ofString text = .ok ⟨text, hname⟩ := dif_pos hname
    rw [hok]
    refine ⟨nofun, ?_⟩
    rintro (⟨hempty, -⟩ | ⟨c, ⟨hc, before, after, htext, -⟩, -⟩)
    · exact absurd hempty hword.1
    · exact absurd (hword.2 c (htext ▸ by simp)) hc
  · simp only [firstRefused_iff]
    rw [ofString, dif_neg hname]
    cases hfind : text.toList.find? (!isWordChar ·) with
    | none =>
      -- all characters are fine, so there are none
      have hempty : text = "" := by
        by_contra hne
        refine hname (isName_iff.mpr ⟨hne, fun c hc => isWordChar_iff.mp ?_⟩)
        simpa using List.find?_eq_none.mp hfind c hc
      simp [hempty, eq_comm]
    | some c =>
      have hne : text ≠ "" := by
        rintro rfl
        cases hfind
      simp [hne, eq_comm]

theorem identifies_identifier (beginning seed : String) :
    Identifies beginning seed (beginning ++ identifier seed) where
  text_eq := rfl
  length_eq := by simp [identifier, identifierChars]
  digits := by
    intro c hc
    rw [identifier, String.toList_ofList] at hc
    obtain ⟨k, hk, rfl⟩ := Digest.mem_hex hc
    exact isUpperHexDigit_hexDigit hk

theorem append_identifier_ne_empty (beginning seed : String) :
    beginning ++ identifier seed ≠ "" := by
  intro hempty
  have hlength := congrArg String.length hempty
  rw [String.length_append, (identifies_identifier beginning seed).length_eq] at hlength
  exact nomatch hlength

theorem isWord_append_identifier :
    IsWord (beginning ++ identifier seed) ↔ ∀ c ∈ beginning.toList, IsNameChar c := by
  have hdigits := List.all_eq_true.mp (all_isWordChar_identifierChars seed)
  simp only [IsWord, String.toList_append, List.forall_mem_append, identifier,
    String.toList_ofList, ← isWordChar_iff]
  exact ⟨fun h => h.2.1, fun h => ⟨append_identifier_ne_empty beginning seed, h, hdigits⟩⟩

theorem firstRefused_append_identifier :
    FirstRefused (beginning ++ identifier seed) c ↔ FirstRefused beginning c := by
  have hdigits : (identifierChars seed).find? (!isWordChar ·) = none := by
    simpa using all_isWordChar_identifierChars seed
  rw [firstRefused_iff, firstRefused_iff, String.toList_append, List.find?_append, identifier,
    String.toList_ofList, hdigits, Option.or_none]

theorem allocated_eq_error_iff : allocated beginning seed = .error e ↔
    ∃ c, FirstRefused beginning c ∧ e = .invalidCharacter (beginning ++ identifier seed) c := by
  simp only [allocated, ofString_eq_error_iff, append_identifier_ne_empty,
    firstRefused_append_identifier, false_and, false_or]

theorem Unchecked.isWord (h : Unchecked text) : IsWord text := by
  have hbeginnings : ∀ s ∈ beginnings, isName s = true := by decide
  cases h with
  | constant h =>
    have hconstants : ∀ s ∈ constants, isName s = true := by decide
    exact isName_iff.mp (hconstants text h)
  | beginning h => exact isName_iff.mp (hbeginnings text h)
  | generated h seed =>
    exact isWord_append_identifier.mpr (isName_iff.mp (hbeginnings _ h)).2

end Name

end Words

section Kinds

variable {r : Resource}

theorem Resource.NamedByKind.child {c : Resource} (hc : c ∈ r.children) : c.NamedByKind := by
  cases r with
  | account a =>
    obtain ⟨d, -, rfl⟩ := List.mem_map.mp hc
    trivial
  | database d =>
    obtain ⟨c, -, rfl⟩ := List.mem_map.mp hc
    trivial
  | _ => exact absurd hc List.not_mem_nil

theorem Resource.Built.namedByKind (h : r.Built) : r.NamedByKind := by
  induction h with
  | existing type reference => exact ⟨_, Name.identifies_identifier _ _⟩
  | existingWithSeed type seed reference => exact ⟨_, Name.identifies_identifier _ _⟩
  | existingAllocated h =>
    obtain rfl := ExistingResource.eq_of_run_allocate h
    exact ⟨_, Name.identifies_identifier _ _⟩
  | @asExisting r _ reference _ =>
    cases r with
    | maps m => exact ⟨_, Name.identifies_identifier _ _⟩
    | _ => exact ⟨_, Name.identifies_identifier _ _⟩
  | child _ hc _ => exact .child hc
  | identity publicName => exact Name.identifies_identifier _ _
  | identityAllocated h =>
    obtain rfl := ManagedIdentity.eq_of_run_allocate h
    exact Name.identifies_identifier _ _
  | vault => exact Name.identifies_identifier _ _
  | vaultExisting _ _ ih => exact ih
  | roleAssignment a => exact Name.identifies_identifier _ _
  | roleAssignmentAllocated h =>
    obtain ⟨rfl, -⟩ := RoleAssignment.registered_of_run_allocate h
    exact Name.identifies_identifier _ _
  | maps accountName sku kind disableLocalAuth => rfl
  | _ => trivial

theorem Resource.unchecked_outputs (r : Resource) :
    ∀ o ∈ r.outputs, Name.Unchecked o.name.text := by
  have hconstants : ∀ o ∈ r.outputs, o.name.text ∈ Name.constants := by
    cases r <;> simp [outputs, Cosmos.Account.outputs, ManagedIdentity.outputs, Vault.outputs,
      MapsAccount.outputs, Name.constants]
  exact fun o ho => .constant (hconstants o ho)

theorem Cosmos.Account.unchecked_new (accountName : String) :
    Name.Unchecked (new accountName).header.name.text := by
  have hconstant : defaultSymbol.text ∈ Name.constants := by decide
  exact .constant hconstant

theorem Document.unchecked_hostParameters (includePrincipal : Bool) :
    ∀ p ∈ (withHostParameters includePrincipal).parameters, Name.Unchecked p.name.text := by
  have hconstants : ∀ p ∈ hostParameters includePrincipal, p.name.text ∈ Name.constants := by
    cases includePrincipal <;> simp [hostParameters, Name.constants]
  exact fun p hp => .constant (hconstants p hp)

theorem Header.eq_of_run_rename_error {text : String} {h h' : Header} {e : NameError}
    (hrun : (rename text).run h = (.error e, h')) : h' = h ∧ Name.ofString text = .error e := by
  rw [run_rename] at hrun
  cases hname : Name.ofString text with
  | ok name => exact nomatch (hname ▸ hrun)
  | error e =>
    rw [hname] at hrun
    obtain ⟨herror, rfl⟩ := Prod.mk.inj hrun
    obtain rfl := Except.error.inj herror
    exact ⟨rfl, rfl⟩

theorem Document.identifies_of_run_addExisting {type : String} {reference symbol : Expr}
    {d d' : Document} (h : (addExisting type reference).run d = (.ok symbol, d')) :
    ∃ n : Name, symbol = n.reference ∧ Name.Identifies "er_" reference.seed n.text := by
  rcases run_addExisting_cases type reference d with ⟨_, hrun, -, -⟩ | ⟨_, hrun⟩
  · obtain ⟨hsymbol, -⟩ := Prod.mk.inj (h.symm.trans hrun)
    exact ⟨_, Except.ok.inj hsymbol, Name.identifies_identifier _ _⟩
  · exact nomatch h.symm.trans hrun

end Kinds

namespace Name

/-- The check accepts exactly the words, and otherwise says that the text is empty or which of its
characters is the first that is refused. So it is with an identifier behind any beginning. What is
taken without a check would pass it, so all names are words. The names of references, identities,
vaults and role assignments are identifiers behind the beginning of their kind, whatever they are
made from. A new account, the outputs that a resource offers and the parameters of a host have names
that do not vary. A renaming that is refused changes nothing. -/
theorem isWord_exact :
    (∀ text, ((∃ n, ofString text = .ok n) ↔ IsWord text) ∧
      (∀ n, ofString text = .ok n → n.text = text) ∧
      ∀ e, ofString text = .error e ↔
        text = "" ∧ e = .empty ∨ ∃ c, FirstRefused text c ∧ e = .invalidCharacter text c) ∧
    (∀ beginning seed, ((∃ n, allocated beginning seed = .ok n) ↔
        ∀ c ∈ beginning.toList, IsNameChar c) ∧
      (∀ n, allocated beginning seed = .ok n → Identifies beginning seed n.text) ∧
      ∀ e, allocated beginning seed = .error e ↔
        ∃ c, FirstRefused beginning c ∧ e = .invalidCharacter (beginning ++ identifier seed) c) ∧
    (∀ text, Unchecked text → ∃ n, ofString text = .ok n) ∧
    (∀ n : Name, IsWord n.text) ∧
    (∀ r : Resource, r.Built → r.NamedByKind ∧ ∀ o ∈ r.outputs, Unchecked o.name.text) ∧
    (∀ accountName, Unchecked (Cosmos.Account.new accountName).header.name.text) ∧
    (∀ includePrincipal, ∀ p ∈ (Document.withHostParameters includePrincipal).parameters,
      Unchecked p.name.text) ∧
    (∀ type reference symbol d d',
      (Document.addExisting type reference).run d = (.ok symbol, d') →
        ∃ n : Name, symbol = n.reference ∧ Identifies "er_" reference.seed n.text) ∧
    ∀ text (h h' : Header) e, (Header.rename text).run h = (.error e, h') →
      h' = h ∧ ofString text = .error e := by
  refine ⟨fun text => ⟨exists_ofString_iff, fun _ => text_of_ofString,
    fun _ => ofString_eq_error_iff⟩, fun beginning seed => ⟨?_, fun n hn => ?_,
    fun _ => allocated_eq_error_iff⟩, fun text h => exists_ofString_iff.mpr h.isWord,
    fun n => isName_iff.mp n.valid, fun r h => ⟨h.namedByKind, r.unchecked_outputs⟩,
    Cosmos.Account.unchecked_new, Document.unchecked_hostParameters,
    fun _ _ _ _ _ => Document.identifies_of_run_addExisting,
    fun _ _ _ _ => Header.eq_of_run_rename_error⟩
  · rw [allocated, exists_ofString_iff, isWord_append_identifier]
  · rw [text_of_ofString hn]
    exact identifies_identifier beginning seed

/-- A role goes to a principal whose name is not spelled in ASCII, and the assignment still has a
name of its kind. It cannot be renamed to the text with a hyphen in it. -/
theorem isWord_exact_renamed :
    let a : Assignment := ⟨⟨"vault", rfl⟩, "Größe", .text "für alle", .user⟩
    let x := RoleAssignment.new a
    let renamed := (Header.rename "maps-größe").run x.header
    (Resource.roleAssignment x).Built ∧ Identifies "ra_" a.seed x.header.name.text ∧
      FirstRefused "maps-größe" '-' ∧
      renamed = (.error (.invalidCharacter "maps-größe" '-'), x.header) ∧
      Unchecked ("uai_" ++ identifier "Größe") ∧
      (∃ n, ofString ("uai_" ++ identifier "Größe") = .ok n) ∧
      ∃ n, allocated "maps_" "Größe" = .ok n ∧ Identifies "maps_" "Größe" n.text := by
  intro a x renamed
  obtain ⟨htext, hallocated, hunchecked, -, hresource, -, -, -, hrename⟩ := isWord_exact
  have hbuilt : (Resource.roleAssignment x).Built := .roleAssignment a
  have hrefused : FirstRefused "maps-größe" '-' := firstRefused_iff.mpr (by decide)
  have herror : ofString "maps-größe" = .error (.invalidCharacter "maps-größe" '-') :=
    ((htext "maps-größe").2.2 _).mpr (.inr ⟨'-', hrefused, rfl⟩)
  have hgenerated : Unchecked ("uai_" ++ identifier "Größe") := .generated (by decide) "Größe"
  obtain ⟨hexists, hidentifies, -⟩ := hallocated "maps_" "Größe"
  obtain ⟨n, hn⟩ := hexists.mpr (isName_iff.mp (by decide)).2
  refine ⟨hbuilt, (hresource _ hbuilt).1, hrefused, ?_, hgenerated, hunchecked _ hgenerated, n, hn,
    hidentifies n hn⟩
  have hrun : renamed = (.error (.invalidCharacter "maps-größe" '-'), renamed.2) := by
    simp only [renamed, Header.run_rename, herror]
  rw [hrun, (hrename _ _ _ _ hrun).1]

end Name

end BicepTemplates
