/-
# How often an argument is declared

The arguments of a request function come from four places: the placeholders of the path, the page
settings, the query parameters and the payload. A placeholder that repeats gives one argument, and
this is the only comparison that is made. So a name is declared once for every place that asks for
it, and the names are distinct exactly if no two places ask for the same one.
-/

import CatalogClient.Proofs.Client.Interpolation

namespace CatalogClient

variable {env : Environment}

namespace Operation

/-- The parameters that travel in the query, in order. -/
def queryParameters (operation : Operation) : List Parameter :=
  operation.parameters.filter fun parameter => parameter.source = .query

/-- How many arguments an operation asks for under a name: one if it is a placeholder of the path,
however often it stands there, one if it is that of the page settings, one for every query parameter
with this key, and one if the payload is called so. -/
def demand (operation : Operation) (name : String) : Nat :=
  (if name ∈ operation.placeholders then 1 else 0)
    + (if operation.Paged ∧ pageArgument.name = name then 1 else 0)
    + operation.queryParameters.countP (fun parameter => decide (parameter.queryKey = name))
    + (if operation.bodyParameter?.map Parameter.name = some name then 1 else 0)

/-- No two places ask for the same name: the page settings have another name than the placeholders
of the path, the keys of the query differ from these and from each other, and the payload is called
like none of them. -/
structure NamesApart (operation : Operation) : Prop where
  page : operation.Paged → pageArgument.name ∉ operation.placeholders
  keys : operation.queryParameters.Pairwise fun parameter other =>
    parameter.queryKey ≠ other.queryKey
  key : ∀ parameter ∈ operation.queryParameters, parameter.queryKey ∉ operation.placeholders ∧
    (operation.Paged → parameter.queryKey ≠ pageArgument.name)
  payload : ∀ payload ∈ operation.bodyParameter?, payload.name ∉ operation.placeholders ∧
    (operation.Paged → payload.name ≠ pageArgument.name) ∧
    ∀ parameter ∈ operation.queryParameters, parameter.queryKey ≠ payload.name

variable {operation : Operation} {path : List Argument} {keys : List String}
  {payload : Option Argument} {response : Target}

/-- The payload is called like the first parameter that travels in the body. -/
theorem name_of_isPayload (h : operation.IsPayload env payload) :
    payload.map Argument.name = operation.bodyParameter?.map Parameter.name := by
  cases payload with
  | none => rw [bodyParameter?_eq_none_iff.mpr h, Option.map_none, Option.map_none]
  | some argument =>
      obtain ⟨parameter, target, hfirst, -, rfl⟩ := h
      rw [bodyParameter?_eq_some_iff.mpr hfirst]
      rfl

/-- The names of the arguments, place by place. -/
theorem names_assembled (hparts : operation.Parts env path keys payload response) :
    (operation.assembled path keys payload response).arguments.map Argument.name =
      operation.placeholders.eraseDups ++ (if operation.Paged then [pageArgument.name] else [])
        ++ operation.queryParameters.map Parameter.queryKey
        ++ (operation.bodyParameter?.map Parameter.name).toList := by
  have hkeys : (keys.map queryArgument).map Argument.name =
      operation.queryParameters.map Parameter.queryKey := by
    rw [List.map_map, show Argument.name ∘ queryArgument = id from rfl, List.map_id]
    exact forall₂_isKey_iff.mp hparts.keys
  have hpage : (if operation.Paged then [pageArgument] else []).map Argument.name =
      if operation.Paged then [pageArgument.name] else [] := by
    split <;> rfl
  have hpayload : payload.toList.map Argument.name =
      (operation.bodyParameter?.map Parameter.name).toList := by
    rw [← name_of_isPayload hparts.payload]
    cases payload <;> rfl
  simp only [assembled, List.map_append, names_of_forall₂_isPathArgument hparts.path, hkeys, hpage,
    hpayload]

end Operation

/-- An entry stands once in a list without its repeats, if it stands in the list at all. -/
theorem count_eraseDups {α : Type} [DecidableEq α] (entries : List α) (entry : α) :
    entries.eraseDups.count entry = if entry ∈ entries then 1 else 0 := by
  split
  · next hmem =>
      exact List.count_eq_one_of_mem (nodup_eraseDups entries) (List.mem_eraseDups.mpr hmem)
  · next hnot => exact List.count_eq_zero.mpr fun hmem => hnot (List.mem_eraseDups.mp hmem)

namespace Operation

variable {operation : Operation} {path : List Argument} {keys : List String}
  {payload : Option Argument} {response : Target}

theorem count_names_assembled (hparts : operation.Parts env path keys payload response)
    (name : String) :
    ((operation.assembled path keys payload response).arguments.map Argument.name).count name =
      operation.demand name := by
  have hpage : (if operation.Paged then [pageArgument.name] else []).count name =
      if operation.Paged ∧ pageArgument.name = name then 1 else 0 := by
    by_cases hpaged : operation.Paged <;> simp [hpaged, List.count_singleton]
  have hpayload : (operation.bodyParameter?.map Parameter.name).toList.count name =
      if operation.bodyParameter?.map Parameter.name = some name then 1 else 0 := by
    cases operation.bodyParameter? <;> simp [List.count_singleton]
  have hkeys : (operation.queryParameters.map Parameter.queryKey).count name =
      operation.queryParameters.countP fun parameter => decide (parameter.queryKey = name) := by
    rw [List.count, List.countP_map]
    rfl
  rw [names_assembled hparts, List.count_append, List.count_append, List.count_append,
    count_eraseDups, hpage, hkeys, hpayload, demand]

theorem mem_page_iff {name : String} :
    name ∈ (if operation.Paged then [pageArgument.name] else []) ↔
      operation.Paged ∧ name = pageArgument.name := by
  by_cases hpaged : operation.Paged <;> simp [hpaged]

theorem disjoint_page_iff {names : List String} :
    names.Disjoint (if operation.Paged then [pageArgument.name] else []) ↔
      (operation.Paged → pageArgument.name ∉ names) := by
  by_cases hpaged : operation.Paged <;> simp [hpaged]

theorem disjoint_keys_iff {names : List String} :
    names.Disjoint (operation.queryParameters.map Parameter.queryKey) ↔
      ∀ parameter ∈ operation.queryParameters, parameter.queryKey ∉ names := by
  rw [List.disjoint_comm]
  simp [List.Disjoint]

theorem disjoint_payload_iff {names : List String} :
    names.Disjoint (operation.bodyParameter?.map Parameter.name).toList ↔
      ∀ payload ∈ operation.bodyParameter?, payload.name ∉ names := by
  cases operation.bodyParameter? <;> simp

theorem nodup_names_assembled_iff (hparts : operation.Parts env path keys payload response) :
    ((operation.assembled path keys payload response).arguments.map Argument.name).Nodup ↔
      operation.NamesApart := by
  have hpage : (if operation.Paged then [pageArgument.name] else []).Nodup := by
    split <;> simp
  have hpayload : (operation.bodyParameter?.map Parameter.name).toList.Nodup := by
    cases operation.bodyParameter? <;> simp
  have hkeys : (operation.queryParameters.map Parameter.queryKey).Nodup ↔
      operation.queryParameters.Pairwise fun parameter other =>
        parameter.queryKey ≠ other.queryKey := List.pairwise_map
  rw [names_assembled hparts]
  simp only [List.nodup_append', nodup_eraseDups, hpage, hpayload, hkeys, disjoint_page_iff,
    disjoint_keys_iff, disjoint_payload_iff, List.mem_append, List.mem_eraseDups, mem_page_iff,
    List.mem_map, not_or, not_and, not_exists, true_and]
  constructor
  · rintro ⟨⟨hpath, hdistinct, hkey⟩, hname⟩
    exact ⟨hpath, hdistinct, hkey, fun payload hmem =>
      ⟨(hname payload hmem).1.1, (hname payload hmem).1.2, (hname payload hmem).2⟩⟩
  · rintro ⟨hpath, hdistinct, hkey, hname⟩
    exact ⟨⟨hpath, hdistinct, hkey⟩, fun payload hmem =>
      ⟨⟨(hname payload hmem).1, (hname payload hmem).2.1⟩, (hname payload hmem).2.2⟩⟩

/-- How often a request function declares each name. An argument is declared once for every place
that asks for its name: only the placeholders of the path are compared with each other. So the names
are distinct exactly if no two places ask for the same one. -/
theorem argument_names_of_builds {function : RequestFunction} (h : operation.Builds env function) :
    (∀ name, (function.arguments.map Argument.name).count name = operation.demand name) ∧
      ((function.arguments.map Argument.name).Nodup ↔ operation.NamesApart) := by
  obtain ⟨path, keys, payload, response, hparts, rfl⟩ := h.parts
  exact ⟨count_names_assembled hparts, nodup_names_assembled_iff hparts⟩

end Operation

namespace Sample

/-- An operation with the same name in its path and in its query. -/
def historyOfUser : Operation where
  url := "/users/{id}/history/{id}"
  functionName := "getHistory"
  parameters := [
    { name := "user", type := { kind := .number }, source := .path, bindingValue := some "id" },
    { name := "entry", type := { kind := .number }, source := .query, bindingName := some "id" }]

end Sample

namespace Operation

theorem argument_names_of_builds_sample :
    ∃ function, Sample.historyOfUser.Builds Sample.environment function ∧
      function.arguments.map Argument.name = ["id", "id"] ∧
      (function.arguments.map Argument.name).count "id" = Sample.historyOfUser.demand "id" ∧
      Sample.historyOfUser.demand "id" = 2 ∧ ¬Sample.historyOfUser.NamesApart := by
  obtain ⟨function, hfunction⟩ :
      ∃ function, (Sample.historyOfUser.requestOnly Sample.environment).outcome = .ok function :=
    ⟨_, rfl⟩
  obtain ⟨hcount, hdistinct⟩ := argument_names_of_builds (Or.inl hfunction)
  cases hfunction
  refine ⟨_, Or.inl rfl, by decide, hcount "id", by decide, fun hapart => ?_⟩
  exact absurd (hdistinct.mpr hapart) (by decide)

end Operation

end CatalogClient
