/-
# Names inside an address

The address of a request function stands in a template literal, where every placeholder becomes an
expression over a name. The placeholders of the path are names of arguments, and so are those of
the query components, as long as the path leaves no brace open. A brace that is left open reaches to
the closing brace of the first component, and the function then interpolates all that stands between
them, which is the name of nothing.
-/

import CatalogClient.Proofs.Client.Parameters
import CatalogClient.Proofs.TypeScript.Url

namespace CatalogClient

variable {env : Environment}

namespace RequestFunction

/-- Whether a name means something inside a function: it is the name of an argument, or one of the
page settings where the function takes them. -/
def InScope (function : RequestFunction) (name : String) : Prop :=
  name ∈ function.arguments.map Argument.name ∨
    pageArgument ∈ function.arguments ∧ name ∈ pageQuery.map Prod.snd

instance (function : RequestFunction) (name : String) : Decidable (function.InScope name) :=
  inferInstanceAs (Decidable (_ ∨ _))

/-- The names that the template literal of a function interpolates. -/
def interpolatedNames (function : RequestFunction) : List String :=
  Text.placeholders function.url.render

/-- Whether a function interpolates only names that mean something. -/
def WellScoped (function : RequestFunction) : Prop :=
  ∀ name ∈ function.interpolatedNames, function.InScope name

end RequestFunction

theorem componentPlaceholders_pageQuery :
    Url.componentPlaceholders pageQuery = pageQuery.map Prod.snd := by
  decide

theorem isInside_of_mem_pageQuery : ∀ entry ∈ pageQuery,
    (∀ c ∈ entry.1.toList, Text.IsInside c) ∧ ∀ c ∈ entry.2.toList, Text.IsInside c := by
  have hall : ∀ entry ∈ pageQuery,
      (entry.1.toList.all fun c => decide (Text.IsInside c)) = true ∧
        (entry.2.toList.all fun c => decide (Text.IsInside c)) = true := by
    decide
  intro entry hentry
  exact (hall entry hentry).imp Text.isInside_of_all Text.isInside_of_all

namespace Operation

variable {operation : Operation} {path : List Argument} {keys : List String}
  {payload : Option Argument} {response : Target}

theorem names_of_forall₂_isPathArgument {placeholders : List String} {arguments : List Argument}
    (h : List.Forall₂ (operation.IsPathArgument env) placeholders arguments) :
    arguments.map Argument.name = placeholders := by
  induction h with
  | nil => rfl
  | cons hargument _ ih =>
      obtain ⟨parameter, target, -, -, rfl⟩ := hargument
      rw [List.map_cons, ih]

theorem mem_query_assembled {entry : String × String}
    (h : entry ∈ (operation.assembled path keys payload response).url.query) :
    operation.Paged ∧ entry ∈ pageQuery ∨ ∃ key ∈ keys, entry = (key, key) := by
  rcases List.mem_append.mp h with hpage | hkey
  · split at hpage
    · next hpaged => exact Or.inl ⟨hpaged, hpage⟩
    · cases hpage
  · obtain ⟨key, hmem, rfl⟩ := List.mem_map.mp hkey
    exact Or.inr ⟨key, hmem, rfl⟩

theorem key_mem_arguments {key : String} (h : key ∈ keys) :
    key ∈ (operation.assembled path keys payload response).arguments.map Argument.name := by
  simp only [assembled, List.map_append, List.mem_append]
  refine Or.inl (Or.inr ?_)
  rwa [List.map_map, show Argument.name ∘ queryArgument = id from rfl, List.map_id]

theorem pageArgument_mem_arguments (h : operation.Paged) :
    pageArgument ∈ (operation.assembled path keys payload response).arguments := by
  simp [assembled, h]

theorem placeholder_mem_arguments (hparts : operation.Parts env path keys payload response)
    {placeholder : String} (h : placeholder ∈ operation.placeholders) :
    placeholder ∈
      (operation.assembled path keys payload response).arguments.map Argument.name := by
  have hpath := names_of_forall₂_isPathArgument hparts.path
  simp only [assembled, List.map_append, List.mem_append, hpath, List.mem_eraseDups]
  exact Or.inl (Or.inl (Or.inl h))

/-- The placeholders of a component by itself mean something: they are the page settings, or the
keys, which are arguments. -/
theorem inScope_of_mem_componentPlaceholders (hplain : ∀ key ∈ keys, Url.IsPlain key)
    {name : String}
    (h : name ∈ Url.componentPlaceholders
      (operation.assembled path keys payload response).url.query) :
    (operation.assembled path keys payload response).InScope name := by
  obtain ⟨entry, hentry, hname⟩ := List.mem_flatMap.mp h
  rcases mem_query_assembled hentry with ⟨hpaged, hpage⟩ | ⟨key, hkey, rfl⟩
  · refine Or.inr ⟨pageArgument_mem_arguments hpaged, ?_⟩
    rw [← componentPlaceholders_pageQuery]
    exact List.mem_flatMap.mpr ⟨entry, hpage, hname⟩
  · rw [Url.placeholders_component_self (hplain key hkey)] at hname
    split at hname
    · cases hname
    · obtain rfl := List.mem_singleton.mp hname
      exact Or.inl (key_mem_arguments hkey)

/-- All names that a function interpolates mean something if those of its query do. -/
theorem wellScoped_of_queryPlaceholders (hparts : operation.Parts env path keys payload response)
    (h : ∀ name ∈ (operation.assembled path keys payload response).url.queryPlaceholders,
      (operation.assembled path keys payload response).InScope name) :
    (operation.assembled path keys payload response).WellScoped := by
  intro name hname
  rw [RequestFunction.interpolatedNames, Url.placeholders_render] at hname
  rcases List.mem_append.mp hname with hpath | hquery
  · exact Or.inl (placeholder_mem_arguments hparts hpath)
  · exact h name hquery

end Operation

/-- A name with an opening brace means nothing where no argument has such a name. -/
theorem RequestFunction.not_inScope_of_opening {function : RequestFunction} {name : String}
    (hplain : ∀ argument ∈ function.arguments, Url.IsPlain argument.name)
    (h : '\x7b' ∈ name.toList) : ¬function.InScope name := by
  rintro (hmem | ⟨-, hpage⟩)
  · obtain ⟨argument, hargument, rfl⟩ := List.mem_map.mp hmem
    exact (hplain argument hargument).1 h
  · exact (by decide : ∀ name ∈ pageQuery.map Prod.snd, '\x7b' ∉ name.toList) name hpage h

namespace Operation

section Scoping

variable {operation : Operation} {path : List Argument} {keys : List String}
  {payload : Option Argument} {response : Target}

/-- Where the path leaves a brace open, all that stands up to the closing brace of the first
component is interpolated. -/
theorem not_wellScoped_of_open
    (hplain : ∀ argument ∈ (operation.assembled path keys payload response).arguments,
      Url.IsPlain argument.name)
    (hopen : ¬Text.Closed operation.url.toList) {first : String × String}
    {rest : List (String × String)}
    (hquery : (operation.assembled path keys payload response).url.query = first :: rest)
    (hbreak : '\n' ∉ first.1.toList) :
    ¬(operation.assembled path keys payload response).WellScoped := by
  intro hscoped
  obtain ⟨before, read, hpath, hbefore, hread⟩ := Text.exists_open_of_not_closed hopen
  have hfirst : first ∈ (operation.assembled path keys payload response).url.query := by
    simp [hquery]
  have hinside : (∀ c ∈ first.1.toList, Text.IsInside c) ∧
      ∀ c ∈ first.2.toList, Text.IsInside c := by
    rcases mem_query_assembled hfirst with ⟨-, hpage⟩ | ⟨key, hkey, rfl⟩
    · exact isInside_of_mem_pageQuery first hpage
    · obtain ⟨argument, hargument, hname⟩ := List.mem_map.mp (key_mem_arguments hkey)
      have hkeyPlain := hname ▸ hplain argument hargument
      exact ⟨hkeyPlain.isInside hbreak, hkeyPlain.isInside hbreak⟩
  have hstray : String.ofList read ++ Url.separator operation.url ++ first.1 ++ "=\x7b" ++ first.2 ∈
      (operation.assembled path keys payload response).interpolatedNames := by
    rw [RequestFunction.interpolatedNames, Url.placeholders_render,
      Url.queryPlaceholders_of_open hpath hbefore hread hquery hinside.1 hinside.2]
    exact List.mem_append_right _ List.mem_cons_self
  exact RequestFunction.not_inScope_of_opening hplain (by simp) (hscoped _ hstray)

variable (hparts : operation.Parts env path keys payload response)
include hparts

theorem wellScoped_of_closed (hplain : ∀ key ∈ keys, Url.IsPlain key)
    (hclosed : Text.Closed operation.url.toList) :
    (operation.assembled path keys payload response).WellScoped := by
  apply wellScoped_of_queryPlaceholders hparts
  intro name hname
  rw [Url.queryPlaceholders_of_closed hclosed] at hname
  exact inScope_of_mem_componentPlaceholders hplain hname

theorem wellScoped_of_no_query
    (hquery : (operation.assembled path keys payload response).url.query = []) :
    (operation.assembled path keys payload response).WellScoped := by
  apply wellScoped_of_queryPlaceholders hparts
  intro name hname
  rw [Url.queryPlaceholders, hquery] at hname
  cases hname

theorem wellScoped_of_break (hplain : ∀ key ∈ keys, Url.IsPlain key)
    (hopen : ¬Text.Closed operation.url.toList) {first : String × String}
    {rest : List (String × String)}
    (hquery : (operation.assembled path keys payload response).url.query = first :: rest)
    (hbreak : '\n' ∈ first.1.toList) :
    (operation.assembled path keys payload response).WellScoped := by
  apply wellScoped_of_queryPlaceholders hparts
  intro name hname
  obtain ⟨before, read, hpath, hbefore, hread⟩ := Text.exists_open_of_not_closed hopen
  have hfirst : first ∈ (operation.assembled path keys payload response).url.query := by
    simp [hquery]
  rcases mem_query_assembled hfirst with ⟨-, hpage⟩ | ⟨key, hkey, rfl⟩
  · exact absurd rfl ((isInside_of_mem_pageQuery first hpage).1 '\n' hbreak).2
  · rw [Url.queryPlaceholders_of_break hpath hbefore hread hquery (hplain key hkey) hbreak rfl]
      at hname
    apply inScope_of_mem_componentPlaceholders hplain
    rw [hquery, Url.componentPlaceholders_cons]
    exact List.mem_append_right _ hname

end Scoping

/-- What the address of a request function interpolates: the names of its placeholders, which are
marked in it. Those of the path come first, and each of them is the name of an argument. If the path
leaves no brace open and the keys of the query have no braces, all names that are interpolated mean
something. If no argument has a brace in its name, they do so exactly if no brace is left open or
the first component has a line break in its key: otherwise the brace of the first component closes
the one of the path. -/
theorem interpolated_names_of_builds {operation : Operation} {env : Environment}
    {function : RequestFunction} (h : operation.Builds env function) :
    (∃ parts : List Text.Piece,
      function.url.render.toList = parts.flatMap Text.Piece.chars ∧
      function.url.interpolated.toList = parts.flatMap Text.Piece.marked ∧
      function.interpolatedNames = (Text.slotNames parts).map String.ofList) ∧
    function.interpolatedNames = operation.placeholders ++ function.url.queryPlaceholders ∧
    (∀ placeholder ∈ operation.placeholders,
      placeholder ∈ function.arguments.map Argument.name) ∧
    ((∀ key ∈ operation.queryKeys, Url.IsPlain key) →
      Text.Closed operation.url.toList ∨ function.url.query = [] → function.WellScoped) ∧
    ((∀ argument ∈ function.arguments, Url.IsPlain argument.name) →
      (function.WellScoped ↔ Text.Closed operation.url.toList ∨
        ∀ first ∈ function.url.query.head?, '\n' ∈ first.1.toList)) := by
  obtain ⟨path, keys, payload, response, hparts, rfl⟩ := h.parts
  obtain rfl : keys = operation.queryKeys := forall₂_isKey_iff.mp hparts.keys
  refine ⟨Url.exists_parts _, Url.placeholders_render _,
    fun placeholder => placeholder_mem_arguments hparts, fun hplain hclosed => ?_,
    fun hplain => ?_⟩
  · rcases hclosed with hclosed | hquery
    · exact wellScoped_of_closed hparts hplain hclosed
    · exact wellScoped_of_no_query hparts hquery
  · have hkeys : ∀ key ∈ operation.queryKeys, Url.IsPlain key := by
      intro key hkey
      obtain ⟨argument, hargument, rfl⟩ := List.mem_map.mp (key_mem_arguments hkey)
      exact hplain argument hargument
    by_cases hclosed : Text.Closed operation.url.toList
    · exact iff_of_true (wellScoped_of_closed hparts hkeys hclosed) (Or.inl hclosed)
    · rcases hquery : (operation.assembled path operation.queryKeys payload response).url.query
        with _ | ⟨first, rest⟩
      · exact iff_of_true (wellScoped_of_no_query hparts hquery) (Or.inr nofun)
      · simp only [hclosed, false_or, List.head?_cons, Option.mem_def, Option.some.injEq,
          forall_eq']
        constructor
        · intro hscoped
          apply Classical.byContradiction
          intro hbreak
          exact not_wellScoped_of_open hplain hclosed hquery hbreak hscoped
        · exact wellScoped_of_break hparts hkeys hclosed hquery

end Operation

namespace Sample

/-- An operation whose path leaves a brace open. -/
def activeUsers : Operation where
  url := "/users/\x7bid"
  functionName := "getUsers"
  parameters := [{ name := "active", type := { kind := .boolean }, source := .query }]

end Sample

namespace Operation

theorem interpolated_names_of_builds_sample :
    ∃ function, Sample.activeUsers.Builds Sample.environment function ∧
      function.arguments.map Argument.name = ["active"] ∧
      function.interpolatedNames = ["id?active=\x7bactive"] ∧ ¬function.WellScoped := by
  obtain ⟨function, hfunction⟩ :
      ∃ function, (Sample.activeUsers.requestOnly Sample.environment).outcome = .ok function :=
    ⟨_, rfl⟩
  obtain ⟨-, -, -, -, hscoped⟩ := interpolated_names_of_builds (Or.inl hfunction)
  cases hfunction
  refine ⟨_, Or.inl rfl, by decide, by decide, fun hnames => ?_⟩
  exact absurd ((hscoped (by decide)).mp hnames) (by decide)

end Operation

end CatalogClient
