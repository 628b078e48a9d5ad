/-
# Placeholders that nothing binds

A placeholder in the address of an operation is bound by a parameter that travels in the path and is
called like it. Once the first pass has succeeded, nothing else can go wrong: a generation fails
exactly if some placeholder is not bound, and it names the first operation that has such a
placeholder and the first such placeholder in its address.
-/

import CatalogClient.Proofs.Client.Passes

namespace CatalogClient

section First

variable {α β ε : Type}

/-- The first entry of a list with a property. -/
def IsFirst (P : α → Prop) (entries : List α) (entry : α) : Prop :=
  ∃ before after, entries = before ++ entry :: after ∧ (∀ earlier ∈ before, ¬P earlier) ∧ P entry

/-- A search finds the first entry with the property. -/
theorem find?_eq_some_iff_isFirst {P : α → Prop} [DecidablePred P] {entries : List α} {entry : α} :
    (entries.find? fun other => decide (P other)) = some entry ↔ IsFirst P entries entry := by
  rw [List.find?_eq_some_iff_append]
  constructor
  · rintro ⟨hentry, before, after, hsplit, hbefore⟩
    refine ⟨before, after, hsplit, fun earlier hearlier => ?_, of_decide_eq_true hentry⟩
    simpa using hbefore earlier hearlier
  · rintro ⟨before, after, hsplit, hbefore, hentry⟩
    refine ⟨decide_eq_true hentry, before, after, hsplit, fun earlier hearlier => ?_⟩
    simpa using hbefore earlier hearlier

theorem exists_isFirst {P : α → Prop} {entries : List α} (h : ∃ entry ∈ entries, P entry) :
    ∃ entry, IsFirst P entries entry := by
  classical
  obtain ⟨found, hmem, hfound⟩ := h
  cases hfirst : entries.find? fun entry => decide (P entry) with
  | none =>
      have habsent := List.find?_eq_none.mp hfirst found hmem
      exact absurd (decide_eq_true hfound) habsent
  | some entry => exact ⟨entry, find?_eq_some_iff_isFirst.mp hfirst⟩

/-- To drop repeats changes nothing about what comes first. -/
theorem IsFirst.eraseDups [DecidableEq α] {P : α → Prop} {entries : List α} {entry : α}
    (h : IsFirst P entries entry) : IsFirst P entries.eraseDups entry := by
  obtain ⟨before, after, rfl, hbefore, hentry⟩ := h
  have hnew : entry ∉ before := fun hmem => hbefore entry hmem hentry
  refine ⟨before.eraseDups,
    ((after.removeAll before).filter fun other => !other == entry).eraseDups, ?_,
    fun earlier hearlier => hbefore earlier (List.mem_eraseDups.mp hearlier), hentry⟩
  rw [List.eraseDups_append]
  simp [List.removeAll, hnew, List.eraseDups_cons]

/-- A chain of computations succeeds if each of its parts does. -/
theorem exists_ok_bind {first : Except ε α} {next : α → Except ε β}
    (hfirst : ∃ value, first = .ok value) (hnext : ∀ value, ∃ result, next value = .ok result) :
    ∃ result, first >>= next = .ok result := by
  obtain ⟨value, rfl⟩ := hfirst
  exact hnext value

theorem exists_ok_mapM {f : α → Except ε β} {entries : List α}
    (h : ∀ entry ∈ entries, ∃ value, f entry = .ok value) :
    ∃ values, entries.mapM f = .ok values := by
  induction entries with
  | nil => exact ⟨[], rfl⟩
  | cons first rest ih =>
      obtain ⟨hfirst, hrest⟩ := List.forall_mem_cons.mp h
      rw [List.mapM_cons]
      exact exists_ok_bind hfirst fun value => exists_ok_bind (ih hrest) fun values => ⟨_, rfl⟩

/-- A traversal stops at the first entry that fails. -/
theorem mapM_eq_error_of_isFirst {f : α → Except ε β} {P : α → Prop} {entries : List α} {entry : α}
    {error : ε} (h : IsFirst P entries entry)
    (hok : ∀ other ∈ entries, ¬P other → ∃ value, f other = .ok value)
    (herror : f entry = .error error) : entries.mapM f = .error error := by
  obtain ⟨before, after, rfl, hbefore, -⟩ := h
  induction before with
  | nil =>
      rw [List.nil_append, List.mapM_cons, herror]
      rfl
  | cons first rest ih =>
      obtain ⟨hfirst, hrest⟩ := List.forall_mem_cons.mp hbefore
      obtain ⟨value, hvalue⟩ := hok first List.mem_cons_self hfirst
      have hothers := ih (fun other hmem => hok other (List.mem_cons_of_mem _ hmem)) hrest
      rw [List.cons_append, List.mapM_cons, hvalue, hothers]
      rfl

end First

namespace Operation

/-- The names of the placeholders in the address of an operation, in order of appearance. -/
def placeholders (operation : Operation) : List String :=
  ({ path := operation.url : Url }).placeholders

/-- Whether a parameter that travels in the path has the name of a placeholder, as its own name or
in its binding. -/
def Binds (operation : Operation) (placeholder : String) : Prop :=
  ∃ parameter ∈ operation.parameters, parameter.source = .path ∧
    (parameter.name = placeholder ∨ parameter.bindingValue = some placeholder ∨
      parameter.bindingName = some placeholder)

instance (operation : Operation) (placeholder : String) :
    Decidable (operation.Binds placeholder) :=
  inferInstanceAs (Decidable (∃ parameter ∈ operation.parameters, _))

/-- Whether all placeholders of an operation are bound. -/
def Bound (operation : Operation) : Prop :=
  ∀ placeholder ∈ operation.placeholders, operation.Binds placeholder

instance (operation : Operation) : Decidable operation.Bound :=
  inferInstanceAs (Decidable (∀ placeholder ∈ operation.placeholders, _))

/-- The first placeholder of an operation that is not bound. -/
def FirstUnbound (operation : Operation) : String → Prop :=
  IsFirst (fun placeholder => ¬operation.Binds placeholder) operation.placeholders

theorem exists_pathParameter?_iff {operation : Operation} {placeholder : String} :
    (∃ parameter, operation.pathParameter? placeholder = some parameter) ↔
      operation.Binds placeholder := by
  rw [← Option.isSome_iff_exists]
  simp [pathParameter?, Parameter.isCalled, Binds, or_assoc]

section Building

variable {operation : Operation} {map : TypeRef → Except BuildFault Target}

variable (hmap : ∀ type ∈ operation.discoveredTypes, ∃ target, map type = .ok target)
include hmap

/-- There is an argument for every placeholder that is bound. -/
theorem pathArguments_eq_ok {placeholders : List String}
    (hbound : ∀ placeholder ∈ placeholders, operation.Binds placeholder) :
    ∃ arguments, operation.pathArguments map placeholders = .ok arguments := by
  induction placeholders with
  | nil => exact ⟨[], rfl⟩
  | cons placeholder rest ih =>
      obtain ⟨hbinds, hrest⟩ := List.forall_mem_cons.mp hbound
      obtain ⟨parameter, hfound⟩ := exists_pathParameter?_iff.mpr hbinds
      simp only [pathArguments, hfound]
      refine exists_ok_bind (hmap _ (type_mem_of_pathParameter? hfound)) fun target => ?_
      exact exists_ok_bind (ih hrest) fun others => ⟨_, rfl⟩

/-- The arguments end at the first placeholder that is not bound. -/
theorem pathArguments_eq_error {placeholders : List String} {placeholder : String}
    (h : IsFirst (fun placeholder => ¬operation.Binds placeholder) placeholders placeholder) :
    operation.pathArguments map placeholders =
      .error (.unbound placeholder operation.functionName) := by
  obtain ⟨before, after, rfl, hbefore, hunbound⟩ := h
  induction before with
  | nil =>
      have hnone : operation.pathParameter? placeholder = none := by
        cases hfound : operation.pathParameter? placeholder with
        | none => rfl
        | some parameter => exact absurd (exists_pathParameter?_iff.mp ⟨parameter, hfound⟩) hunbound
      simp only [List.nil_append, pathArguments, hnone]
      rfl
  | cons first rest ih =>
      obtain ⟨hfirst, hrest⟩ := List.forall_mem_cons.mp hbefore
      obtain ⟨parameter, hfound⟩ := exists_pathParameter?_iff.mpr (Classical.not_not.mp hfirst)
      obtain ⟨target, htarget⟩ := hmap _ (type_mem_of_pathParameter? hfound)
      simp only [List.cons_append, pathArguments, hfound, htarget, ih hrest]
      rfl

theorem bodyArgument_eq_ok : ∃ argument, operation.bodyArgument map = .ok argument := by
  unfold bodyArgument
  cases hfound : operation.bodyParameter? with
  | none => exact ⟨none, rfl⟩
  | some parameter =>
      exact exists_ok_bind (hmap _ (type_mem_of_bodyParameter? hfound)) fun target => ⟨_, rfl⟩

/-- A request function can be built if all placeholders are bound. -/
theorem request_eq_ok (hbound : operation.Bound) :
    ∃ function, operation.request map = .ok function := by
  have hplaceholders : ∀ placeholder ∈ operation.placeholders.eraseDups,
      operation.Binds placeholder :=
    fun placeholder hmem => hbound placeholder (List.mem_eraseDups.mp hmem)
  refine exists_ok_bind (pathArguments_eq_ok hmap hplaceholders) fun arguments => ?_
  refine exists_ok_bind (bodyArgument_eq_ok hmap) fun body => ?_
  exact exists_ok_bind (hmap _ List.mem_cons_self) fun response => ⟨_, rfl⟩

/-- A request function fails at the first placeholder that is not bound. -/
theorem request_eq_error {placeholder : String} (h : operation.FirstUnbound placeholder) :
    operation.request map = .error (.unbound placeholder operation.functionName) := by
  have harguments : operation.pathArguments map operation.placeholders.eraseDups =
      .error (.unbound placeholder operation.functionName) :=
    pathArguments_eq_error hmap h.eraseDups
  unfold placeholders at harguments
  rw [request, harguments]
  rfl

end Building

end Operation

namespace Catalog

/-- The first placeholder that is not bound in the first operation that has one. -/
def FirstUnbound (catalog : Catalog) (operation : Operation) (placeholder : String) : Prop :=
  operation.FirstUnbound placeholder ∧
    ∃ key, IsFirst (fun entry => ¬entry.2.Bound) catalog.operations (key, operation)

/-- Unless all placeholders are bound, one of them is the first that is not. -/
theorem exists_firstUnbound {catalog : Catalog}
    (h : ¬∀ entry ∈ catalog.operations, entry.2.Bound) :
    ∃ operation placeholder, catalog.FirstUnbound operation placeholder := by
  obtain ⟨found, hmem, hfound⟩ : ∃ entry ∈ catalog.operations, ¬entry.2.Bound := by
    simpa using h
  obtain ⟨⟨key, operation⟩, hfirst⟩ :=
    exists_isFirst (P := fun entry : String × Operation => ¬entry.2.Bound) ⟨found, hmem, hfound⟩
  obtain ⟨-, -, -, -, hunbound⟩ := id hfirst
  obtain ⟨placeholder, hplaceholder⟩ := exists_isFirst (by simpa [Operation.Bound] using hunbound)
  exact ⟨operation, placeholder, hplaceholder, key, hfirst⟩

variable {catalog : Catalog}

/-- Once the first pass has succeeded, all types of the operations resolve. -/
theorem resolves_of_discover {env : Environment} {found : Emission}
    (h : catalog.discover env {} = (found, .ok ())) :
    ∀ entry ∈ catalog.operations, ∀ type ∈ entry.2.discoveredTypes,
      ∃ target, (type.resolve env).outcome = .ok target := by
  intro entry hentry type htype
  obtain ⟨hsucceeds, -⟩ := mapAll_eq_ok_iff.mp h
  have hstep : EmissionStep.map type ∈ List.map EmissionStep.map
      (catalog.operations.flatMap fun entry => entry.2.discoveredTypes) :=
    List.mem_map_of_mem (List.mem_flatMap.mpr ⟨entry, hentry, htype⟩)
  have hresolves := Emission.resolves_of_succeeds hsucceeds _ hstep
  cases hresolve : (type.resolve env).outcome with
  | ok target => exact ⟨target, rfl⟩
  | error rejection =>
      rw [EmissionStep.resolves, hresolve] at hresolves
      cases hresolves

/-- The types of an operation map to the same targets in the second pass, so it fails only where a
placeholder is not bound. -/
theorem functionsResolved_eq_ok {env : Environment} {found : Emission}
    (hdiscover : catalog.discover env {} = (found, .ok ()))
    (hbound : ∀ entry ∈ catalog.operations, entry.2.Bound) :
    ∃ functions, functionsResolved env catalog.operations = .ok functions := by
  refine exists_ok_mapM fun entry hentry => ?_
  refine Operation.request_eq_ok (fun type htype => ?_) (hbound entry hentry)
  obtain ⟨target, htarget⟩ := resolves_of_discover hdiscover entry hentry type htype
  exact ⟨target, by rw [htarget]; rfl⟩

theorem functionsResolved_eq_error {env : Environment} {found : Emission}
    (hdiscover : catalog.discover env {} = (found, .ok ())) {operation : Operation}
    {placeholder : String} (h : catalog.FirstUnbound operation placeholder) :
    functionsResolved env catalog.operations =
      .error (.unbound placeholder operation.functionName) := by
  have hmap : ∀ entry ∈ catalog.operations, ∀ type ∈ entry.2.discoveredTypes,
      ∃ target, (type.resolve env).outcome.mapError BuildFault.rejected = .ok target := by
    intro entry hentry type htype
    obtain ⟨target, htarget⟩ := resolves_of_discover hdiscover entry hentry type htype
    exact ⟨target, by rw [htarget]; rfl⟩
  obtain ⟨hplaceholder, key, hoperation⟩ := h
  refine mapM_eq_error_of_isFirst hoperation (fun entry hentry hbound => ?_) ?_
  · exact Operation.request_eq_ok (hmap entry hentry) (Classical.not_not.mp hbound)
  · obtain ⟨before, after, hsplit, -⟩ := hoperation
    exact Operation.request_eq_error (hmap (key, operation) (by simp [hsplit])) hplaceholder

/-- Once the first pass has succeeded, a generation fails exactly if some placeholder is not bound
by a parameter that travels in the path. It fails with the first such placeholder of the first
operation that has one, and with the function name of this operation. In every other case it
returns. -/
theorem generate_fails_iff_unbound {catalog : Catalog} {packages extra : List String}
    {found : Emission}
    (hdiscover : catalog.discover (catalog.environment (.ofPackages packages)) {} =
      (found, .ok ())) :
    ((∃ fault, (catalog.generate packages extra).outcome = .error fault) ↔
      ∃ entry ∈ catalog.operations, ∃ placeholder ∈ entry.2.placeholders,
        ¬entry.2.Binds placeholder) ∧
    (∀ fault, (catalog.generate packages extra).outcome = .error fault ↔
      ∃ operation placeholder, catalog.FirstUnbound operation placeholder ∧
        fault = .unbound placeholder operation.functionName) ∧
    ((∃ generated, (catalog.generate packages extra).outcome = .ok generated) ↔
      ∀ entry ∈ catalog.operations, entry.2.Bound) := by
  have hfails : ∀ operation placeholder, catalog.FirstUnbound operation placeholder →
      (catalog.generate packages extra).outcome =
        .error (.unbound placeholder operation.functionName) := fun operation placeholder hfirst =>
    generateWithin_eq_error extra hdiscover (functionsResolved_eq_error hdiscover hfirst)
  have hreturns : (∀ entry ∈ catalog.operations, entry.2.Bound) →
      ∃ generated, (catalog.generate packages extra).outcome = .ok generated := by
    intro hbound
    obtain ⟨functions, hfunctions⟩ := functionsResolved_eq_ok hdiscover hbound
    exact generateWithin_returns extra hdiscover (by rw [hfunctions]; rfl)
  have hunbound : ∀ fault, (catalog.generate packages extra).outcome = .error fault →
      ¬∀ entry ∈ catalog.operations, entry.2.Bound := by
    intro fault herror hbound
    obtain ⟨generated, hok⟩ := hreturns hbound
    cases hok.symm.trans herror
  refine ⟨⟨?_, ?_⟩, fun fault => ⟨fun herror => ?_, ?_⟩, ⟨?_, hreturns⟩⟩
  · rintro ⟨fault, herror⟩
    simpa [Operation.Bound] using hunbound fault herror
  · rintro ⟨entry, hentry, placeholder, hplaceholder, hnot⟩
    obtain ⟨operation, name, hfirst⟩ :=
      exists_firstUnbound fun hbound => hnot (hbound entry hentry placeholder hplaceholder)
    exact ⟨_, hfails operation name hfirst⟩
  · obtain ⟨operation, placeholder, hfirst⟩ := exists_firstUnbound (hunbound fault herror)
    have hsame := (hfails operation placeholder hfirst).symm.trans herror
    exact ⟨operation, placeholder, hfirst, (Except.error.inj hsame).symm⟩
  · rintro ⟨operation, placeholder, hfirst, rfl⟩
    exact hfails operation placeholder hfirst
  · rintro ⟨generated, hok⟩
    apply Classical.byContradiction
    intro hnot
    obtain ⟨operation, placeholder, hfirst⟩ := exists_firstUnbound hnot
    cases hok.symm.trans (hfails operation placeholder hfirst)

end Catalog

namespace Sample

/-- An operation with one placeholder that a binding binds, one that only a query parameter is
called like, and one that nothing is called like. -/
def moveNode : Operation where
  url := "/users/{user}/nodes/{id}/to/{place}"
  functionName := "moveNode"
  parameters := [
    { name := "u", type := { kind := .string }, source := .path, bindingName := some "user" },
    { name := "id", type := { kind := .string }, source := .query }]

/-- A catalog whose second operation is not bound. -/
def unboundCatalog : Catalog where
  operations := [
    ("list", { url := "/nodes", functionName := "listNodes", returnType := composite "Node" }),
    ("move", moveNode)]
  declarations := environment.declarations

theorem firstUnbound_moveNode : moveNode.FirstUnbound "id" :=
  ⟨["user"], ["place"], by decide, by decide, by decide⟩

theorem firstUnbound : unboundCatalog.FirstUnbound moveNode "id" :=
  ⟨firstUnbound_moveNode, "move", unboundCatalog.operations.take 1, [], rfl, by decide, by decide⟩

end Sample

namespace Catalog

theorem generate_fails_iff_unbound_sample :
    ∃ found, Sample.unboundCatalog.discover
        (Sample.unboundCatalog.environment (.ofPackages ["app"])) {} = (found, .ok ()) ∧
      (Sample.unboundCatalog.generate ["app"]).outcome = .error (.unbound "id" "moveNode") := by
  obtain ⟨found, hdiscover⟩ : ∃ found, Sample.unboundCatalog.discover
      (Sample.unboundCatalog.environment (.ofPackages ["app"])) {} = (found, .ok ()) :=
    discover_succeeds Sample.resolvable.sound (by decide) fun _ _ => trivial
  obtain ⟨-, hfault, -⟩ := @generate_fails_iff_unbound _ ["app"] [] _ hdiscover
  exact ⟨found, hdiscover, (hfault _).mpr ⟨Sample.moveNode, "id", Sample.firstUnbound, rfl⟩⟩

end Catalog

end CatalogClient
