import BicepTemplates.Proofs.Azure.Cosmos.Keys

/-! # No key stands twice in what a resource constructs

The service rejects a template with a repeated key, and nothing in a tree is merged. Every kind of
resource with a body of its own keeps the keys of all its objects apart, whatever its settings are.
A plain declaration takes its body from outside.
-/

namespace BicepTemplates

variable {body : List Property}

theorem ManagedIdentity.keysDiffer_of_body {i : ManagedIdentity}
    (h : (Resource.identity i).body = .ok body) : KeysDifferIn body := by
  obtain ⟨name, hbody⟩ : ∃ name, (Resource.identity i).body =
      .ok [.scalar "name" name, .scalar "location" location] := ⟨_, rfl⟩
  obtain rfl := Except.ok.inj (hbody.symm.trans h)
  simp

theorem Vault.keysDiffer_of_body {v : Vault} (h : (Resource.vault v).body = .ok body) :
    KeysDifferIn body := by
  obtain rfl := Except.ok.inj h
  exact .of_keyedBy ["name"] (by decide) .toList_map_scalar

theorem RoleAssignment.keysDiffer_of_body {r : RoleAssignment}
    (h : (Resource.roleAssignment r).body = .ok body) : KeysDifferIn body := by
  obtain ⟨name, properties, hproperties, hbody⟩ : ∃ name properties, KeysDifferIn properties ∧
      (Resource.roleAssignment r).body = .ok
        [.scalar "scope" r.scope.reference, .scalar "name" name, .bag "properties" properties] :=
    ⟨_, _, by simp, rfl⟩
  obtain rfl := Except.ok.inj (hbody.symm.trans h)
  simp [hproperties]

theorem MapsAccount.keysDiffer_of_body {m : MapsAccount}
    (h : (Resource.maps m).body = .ok body) : KeysDifferIn body := by
  obtain ⟨name, hbody⟩ : ∃ name, (Resource.maps m).body = .ok
      [.scalar "name" name, .scalar "location" location, .text "kind" m.kind,
        .bag "sku" [.text "name" m.sku], .bag "properties"
          (if m.disableLocalAuth then [.bool "disableLocalAuth" true] else [])] := ⟨_, rfl⟩
  have hproperties : KeysDifferIn
      (if m.disableLocalAuth then [.bool "disableLocalAuth" true] else []) :=
    .of_keyedBy ["disableLocalAuth"] (by decide) (.ite (.single rfl (.scalar _ _)) .nil)
  obtain rfl := Except.ok.inj (hbody.symm.trans h)
  simp [hproperties]

namespace Resource

theorem body_eq_ok_iff {r : Resource} :
    r.body = .ok body ↔ r.construct.run [] = (.ok (), body) := by
  unfold Resource.body
  constructor
  · intro h
    split at h
    next hrun =>
      obtain rfl := Except.ok.inj h
      exact hrun
    next => exact nomatch h
  · intro h
    rw [h]

/-- Whatever a resource other than a plain declaration constructs from nothing, no key stands twice
in one of its objects, also of those in arrays, and every object that is a property has its key
written. -/
theorem keysDifferIn_of_construct {r : Resource} (hr : ∀ d, r ≠ .declaration d)
    (h : r.construct.run [] = (.ok (), body)) : KeysDifferIn body := by
  have hbody := body_eq_ok_iff.mpr h
  cases r with
  | declaration d => exact absurd rfl (hr d)
  | existing x =>
    obtain rfl := Except.ok.inj hbody
    simp
  | account a => exact Cosmos.Account.keysDiffer_of_body hbody
  | database d => exact Cosmos.Database.keysDiffer_of_body hbody
  | container c => exact Cosmos.Container.keysDiffer_of_body hbody
  | dataGrant g => exact Cosmos.DataGrant.keysDiffer_of_body hbody
  | identity i => exact ManagedIdentity.keysDiffer_of_body hbody
  | vault v => exact Vault.keysDiffer_of_body hbody
  | roleAssignment x => exact RoleAssignment.keysDiffer_of_body hbody
  | maps m => exact MapsAccount.keysDiffer_of_body hbody

/-- A container with two partition keys, indexes in three levels of arrays and a unique key. -/
theorem keysDifferIn_of_construct_lines :
    let lines : Cosmos.Container := {
      header := { name := ⟨"lines", by decide⟩, type := Cosmos.Container.type }
      account := ⟨"account", by decide⟩
      database := ⟨"orders", by decide⟩
      serverless := false
      partitionKey := some ⟨["/tenant", "/order"]⟩
      throughput := { manual := some 400 }
      indexingPolicy := some {
        compositeIndexes := [⟨[("/day", .ascending), ("/price", .descending)]⟩]
        includedPaths := [⟨"/*", [{ dataType := some .string, kind := some .range }]⟩] }
      uniqueKeys := [⟨["/number"]⟩] }
    ∃ body, (∀ d, container lines ≠ .declaration d) ∧
      (container lines).construct.run [] = (.ok (), body) ∧
      body.map Property.name = ["parent", "name", "location", "properties"] ∧
      KeysDifferIn body := by
  intro lines
  have hr : ∀ d, container lines ≠ .declaration d := fun d => (nomatch ·)
  exact ⟨_, hr, rfl, rfl, keysDifferIn_of_construct hr rfl⟩

/-- A declaration constructs what it was given, also with a key in it twice. -/
example (name : Name) (type : String) :
    let twice : List Property := [.text "kind" "old", .text "kind" "new"]
    (declaration ⟨{ name, type }, twice⟩).construct.run [] = (.ok (), twice) ∧
      ¬ KeysDifferIn twice :=
  ⟨rfl, by simp⟩

end Resource

end BicepTemplates
