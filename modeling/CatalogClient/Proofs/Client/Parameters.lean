/-
# What becomes of the parameters

An operation lists its parameters in any order and any number, and its request function asks for
them in groups: one argument for every placeholder of the path, the page settings, one argument for
every query parameter, and the payload. Each group reads the list in its own way. Some parameters
are read by none of them, and of others only the name counts, so to leave such a parameter out, to
put it in or to give it another type changes nothing.
-/

import CatalogClient.Proofs.Client.Records
import Mathlib.Data.List.Forall2
import Mathlib.Logic.Relation

namespace CatalogClient

variable {env : Environment}

namespace Parameter

/-- Whether a parameter travels in the path and has the name of a placeholder, as its own name or in
its binding. -/
def Fills (parameter : Parameter) (placeholder : String) : Prop :=
  parameter.source = .path ∧
    (parameter.name = placeholder ∨ parameter.bindingValue = some placeholder ∨
      parameter.bindingName = some placeholder)

instance (parameter : Parameter) (placeholder : String) : Decidable (parameter.Fills placeholder) :=
  inferInstanceAs (Decidable (_ ∧ _))

/-- The names that the binding of a parameter gives it. -/
def bindings (parameter : Parameter) : List String :=
  parameter.bindingValue.toList ++ parameter.bindingName.toList

/-- Whether a text is the key of a parameter: the first name in its binding that is not empty, or
its own name if there is none. -/
def IsKey (parameter : Parameter) (key : String) : Prop :=
  IsFirst (· ≠ "") parameter.bindings key ∨
    (∀ name ∈ parameter.bindings, name = "") ∧ key = parameter.name

theorem queryKey_eq (parameter : Parameter) :
    parameter.queryKey =
      (parameter.bindings.find? fun name => decide (name ≠ "")).getD parameter.name := by
  unfold queryKey bindings
  cases parameter.bindingValue <;> cases parameter.bindingName <;> grind

theorem isKey_iff {parameter : Parameter} {key : String} :
    parameter.IsKey key ↔ key = parameter.queryKey := by
  rw [queryKey_eq, IsKey, ← find?_eq_some_iff_isFirst]
  cases hfound : parameter.bindings.find? fun name => decide (name ≠ "") with
  | some name => grind
  | none => grind

end Parameter

namespace Url

/-- The query components of some keys, each with a placeholder of its own name. -/
def keyed (keys : List String) : List (String × String) :=
  keys.map fun key => (key, key)

theorem foldl_add (url : Url) (keys : List String) :
    keys.foldl (fun url key => url.add key) url =
      { url with query := url.query ++ keyed keys } := by
  induction keys generalizing url with
  | nil => simp [keyed]
  | cons key rest ih =>
      rw [List.foldl_cons, ih]
      simp [add, keyed]

end Url

namespace Operation

/-- Whether the operation has a parameter for page settings. -/
def Paged (operation : Operation) : Prop :=
  ∃ parameter ∈ operation.parameters, parameter.source = .paged

instance (operation : Operation) : Decidable operation.Paged :=
  inferInstanceAs (Decidable (∃ parameter ∈ operation.parameters, _))

theorem isPaged_iff {operation : Operation} : operation.isPaged = true ↔ operation.Paged := by
  simp [isPaged, Paged]

theorem requestUrl_eq (operation : Operation) :
    operation.requestUrl = {
      path := operation.url
      query := (if operation.Paged then pageQuery else []) ++ Url.keyed operation.queryKeys } := by
  unfold requestUrl
  simp only [Url.foldl_add, isPaged_iff]
  split
  · simp [pageQuery, Url.add]
  · rfl

theorem pathParameter?_eq (operation : Operation) (placeholder : String) :
    operation.pathParameter? placeholder =
      operation.parameters.find? fun parameter => decide (parameter.Fills placeholder) := by
  unfold pathParameter?
  congr 1
  funext parameter
  rw [Bool.eq_iff_iff, decide_eq_true_iff]
  simp [Parameter.Fills, Parameter.isCalled, or_assoc]

theorem pathParameter?_eq_some_iff {operation : Operation} {placeholder : String}
    {parameter : Parameter} :
    operation.pathParameter? placeholder = some parameter ↔
      IsFirst (·.Fills placeholder) operation.parameters parameter := by
  rw [pathParameter?_eq, find?_eq_some_iff_isFirst]

theorem bodyParameter?_eq_some_iff {operation : Operation} {parameter : Parameter} :
    operation.bodyParameter? = some parameter ↔
      IsFirst (·.source = .body) operation.parameters parameter :=
  find?_eq_some_iff_isFirst

theorem bodyParameter?_eq_none_iff {operation : Operation} :
    operation.bodyParameter? = none ↔
      ∀ parameter ∈ operation.parameters, parameter.source ≠ .body := by
  simp [bodyParameter?]

/-- The argument for a placeholder of the path. It has the name of the placeholder, and the type of
the first parameter that fills it. -/
def IsPathArgument (operation : Operation) (env : Environment) (placeholder : String)
    (argument : Argument) : Prop :=
  ∃ parameter target, IsFirst (·.Fills placeholder) operation.parameters parameter ∧
    (parameter.type.resolve env).outcome = .ok target ∧
    argument = { name := placeholder, type := some target.expression, source := .path }

/-- The argument for the payload, if there is one. It is that of the first parameter that travels in
the body. -/
def IsPayload (operation : Operation) (env : Environment) : Option Argument → Prop
  | none => ∀ parameter ∈ operation.parameters, parameter.source ≠ .body
  | some argument => ∃ parameter target,
      IsFirst (·.source = .body) operation.parameters parameter ∧
      (parameter.type.resolve env).outcome = .ok target ∧
      argument = { name := parameter.name, type := some target.expression, source := .body }

/-- What the request function of an operation is put together from. The placeholders of the path
count once each, at their first appearance, and the query parameters stand in the order in which
they are declared. -/
structure Parts (operation : Operation) (env : Environment) (path : List Argument)
    (keys : List String) (payload : Option Argument) (response : Target) : Prop where
  path : List.Forall₂ (operation.IsPathArgument env) operation.placeholders.eraseDups path
  keys : List.Forall₂ Parameter.IsKey
    (operation.parameters.filter fun parameter => parameter.source = .query) keys
  payload : operation.IsPayload env payload
  response : (operation.returnType.resolve env).outcome = .ok response

/-- The argument for a query parameter: a string, whatever its declared type is. -/
def queryArgument (key : String) : Argument where
  name := key
  type := some (.word "string")
  source := .query

/-- A request function put together from its parts. -/
def assembled (operation : Operation) (path : List Argument) (keys : List String)
    (payload : Option Argument) (response : Target) : RequestFunction where
  name := operation.functionName
  method := if operation.method.getD "" = "" then "GET" else operation.method.getD ""
  url := {
    path := operation.url
    query := (if operation.Paged then pageQuery else []) ++ Url.keyed keys }
  arguments := path ++ (if operation.Paged then [pageArgument] else [])
    ++ keys.map queryArgument ++ payload.toList
  body := payload.map Argument.name
  response := response.expression

section Parts

variable {operation : Operation}

theorem forall₂_isKey_iff {parameters : List Parameter} {keys : List String} :
    List.Forall₂ Parameter.IsKey parameters keys ↔ keys = parameters.map Parameter.queryKey := by
  induction parameters generalizing keys with
  | nil => simp
  | cons parameter rest ih =>
      simp only [List.forall₂_cons_left_iff, Parameter.isKey_iff, ih, List.map_cons]
      grind

/-- The arguments for the path are built exactly if every placeholder has one. -/
theorem outcome_pathArguments_eq_ok_iff {placeholders : List String} {arguments : List Argument} :
    (operation.pathArguments (fun type => (type.resolve env).mapError BuildFault.rejected)
        placeholders).outcome = .ok arguments ↔
      List.Forall₂ (operation.IsPathArgument env) placeholders arguments := by
  induction placeholders generalizing arguments with
  | nil => simp [pathArguments, eq_comm]
  | cons placeholder rest ih =>
      rw [List.forall₂_cons_left_iff, pathArguments]
      cases hfound : operation.pathParameter? placeholder with
      | none =>
          constructor
          · intro h
            cases h
          · rintro ⟨argument, others, ⟨parameter, target, hfirst, -⟩, -⟩
            rw [pathParameter?_eq_some_iff.mpr hfirst] at hfound
            cases hfound
      | some parameter =>
          simp only [Logged.bind_outcome_eq_ok_iff, ih]
          constructor
          · rintro ⟨target, htarget, others, hothers, hret⟩
            obtain rfl := Except.ok.inj hret
            exact ⟨_, others, ⟨parameter, target, pathParameter?_eq_some_iff.mp hfound,
              Except.mapError_eq_ok_iff.mp htarget, rfl⟩, hothers, rfl⟩
          · rintro ⟨argument, others, ⟨other, target, hfirst, htarget, rfl⟩, hothers, rfl⟩
            rw [pathParameter?_eq_some_iff.mpr hfirst] at hfound
            obtain rfl := Option.some.inj hfound
            exact ⟨target, Except.mapError_eq_ok_iff.mpr htarget, others, hothers, rfl⟩

/-- The argument for the payload is built exactly if its type resolves or there is none. -/
theorem outcome_bodyArgument_eq_ok_iff {payload : Option Argument} :
    (operation.bodyArgument fun type =>
        (type.resolve env).mapError BuildFault.rejected).outcome = .ok payload ↔
      operation.IsPayload env payload := by
  rw [bodyArgument]
  cases hfound : operation.bodyParameter? with
  | none =>
      have habsent := bodyParameter?_eq_none_iff.mp hfound
      cases payload with
      | none => exact iff_of_true rfl habsent
      | some argument =>
          constructor
          · intro h
            cases h
          · rintro ⟨parameter, target, ⟨before, after, hsplit, -, hbody⟩, -⟩
            exact absurd hbody (habsent parameter (by simp [hsplit]))
  | some parameter =>
      simp only [Logged.bind_outcome_eq_ok_iff]
      constructor
      · rintro ⟨target, htarget, hret⟩
        obtain rfl := Except.ok.inj hret
        exact ⟨parameter, target, bodyParameter?_eq_some_iff.mp hfound,
          Except.mapError_eq_ok_iff.mp htarget, rfl⟩
      · intro hpayload
        cases payload with
        | none =>
            rw [bodyParameter?_eq_none_iff.mpr hpayload] at hfound
            cases hfound
        | some argument =>
            obtain ⟨other, target, hfirst, htarget, rfl⟩ := hpayload
            rw [bodyParameter?_eq_some_iff.mpr hfirst] at hfound
            obtain rfl := Option.some.inj hfound
            exact ⟨target, Except.mapError_eq_ok_iff.mpr htarget, rfl⟩

theorem assembled_queryKeys (operation : Operation) (path : List Argument)
    (payload : Option Argument) (response : Target) :
    operation.assembled path operation.queryKeys payload response = {
      name := operation.functionName
      method := if operation.method.getD "" = "" then "GET" else operation.method.getD ""
      url := operation.requestUrl
      arguments := path ++ (if operation.isPaged then [pageArgument] else [])
        ++ operation.queryArguments ++ payload.toList
      body := payload.map Argument.name
      response := response.expression } := by
  simp only [assembled, requestUrl_eq, isPaged_iff]
  rfl

/-- A request function is put together from its parts, and there is one as soon as they are. -/
theorem outcome_requestOnly_eq_ok_iff {function : RequestFunction} :
    (operation.requestOnly env).outcome = .ok function ↔
      ∃ path keys payload response, operation.Parts env path keys payload response ∧
        function = operation.assembled path keys payload response := by
  unfold requestOnly request
  simp only [Logged.bind_outcome_eq_ok_iff]
  constructor
  · rintro ⟨path, hpath, payload, hpayload, response, hresponse, hret⟩
    rw [← assembled_queryKeys] at hret
    refine ⟨path, operation.queryKeys, payload, response, ⟨?_, ?_, ?_, ?_⟩,
      (Except.ok.inj hret).symm⟩
    · exact outcome_pathArguments_eq_ok_iff.mp hpath
    · exact forall₂_isKey_iff.mpr rfl
    · exact outcome_bodyArgument_eq_ok_iff.mp hpayload
    · exact Except.mapError_eq_ok_iff.mp hresponse
  · rintro ⟨path, keys, payload, response, hparts, rfl⟩
    obtain rfl : keys = operation.queryKeys := forall₂_isKey_iff.mp hparts.keys
    rw [assembled_queryKeys]
    exact ⟨path, outcome_pathArguments_eq_ok_iff.mpr hparts.path, payload,
      outcome_bodyArgument_eq_ok_iff.mpr hparts.payload, response,
      Except.mapError_eq_ok_iff.mpr hparts.response, rfl⟩

end Parts

section Attaining

variable {σ : Type} {operation : Operation} {map : TypeRef → Staged σ BuildFault Target}
  {resolve : TypeRef → Except BuildFault Target}

theorem attains_pathArguments (hmap : ∀ type, Staged.Attains (map type) (resolve type))
    (placeholders : List String) :
    Staged.Attains (operation.pathArguments map placeholders)
      (operation.pathArguments resolve placeholders) := by
  induction placeholders with
  | nil => exact .pure []
  | cons placeholder rest ih =>
      unfold pathArguments
      cases operation.pathParameter? placeholder with
      | none => exact .throw _
      | some parameter =>
          exact .bind (hmap parameter.type) fun target => .bind ih fun others => .pure _

theorem attains_bodyArgument (hmap : ∀ type, Staged.Attains (map type) (resolve type)) :
    Staged.Attains (operation.bodyArgument map) (operation.bodyArgument resolve) := by
  unfold bodyArgument
  cases operation.bodyParameter? with
  | none => exact .pure none
  | some parameter => exact .bind (hmap parameter.type) fun target => .pure _

theorem attains_request (hmap : ∀ type, Staged.Attains (map type) (resolve type)) :
    Staged.Attains (operation.request map) (operation.request resolve) := by
  unfold request
  apply Staged.Attains.bind (attains_pathArguments hmap _)
  intro arguments
  apply Staged.Attains.bind (attains_bodyArgument hmap)
  intro body
  exact .bind (hmap _) fun response => .pure _

end Attaining

end Operation

/-- A type that is mapped is mapped to what it resolves to. -/
theorem Emitting.attains_map (env : Environment) (type : TypeRef) :
    Staged.Attains (Emitting.map env type) (type.resolve env).outcome := by
  intro start last target h
  rcases Emitting.map_cases h with ⟨rejection, -, houtcome, -⟩ | ⟨found, below, hresolve, hsame, -⟩
  · cases houtcome
  · cases below with
    | error rejection => cases hsame
    | ok done =>
        obtain rfl := Except.ok.inj hsame
        exact hresolve

namespace Operation

/-- To emit types may fail, but it has no part in the function. -/
theorem attains_requestEmitting (operation : Operation) (env : Environment) :
    Staged.Attains (operation.requestEmitting env) (operation.requestOnly env).outcome := by
  rw [outcome_requestOnly]
  exact attains_request fun type => (Emitting.attains_map env type).mapError _

/-- Whether a function is built for an operation, with its types emitted or not. -/
def Builds (operation : Operation) (env : Environment) (function : RequestFunction) : Prop :=
  (operation.requestOnly env).outcome = .ok function ∨
    ∃ start last, operation.requestEmitting env start = (last, .ok function)

theorem Builds.parts {operation : Operation} {function : RequestFunction}
    (h : operation.Builds env function) :
    ∃ path keys payload response, operation.Parts env path keys payload response ∧
      function = operation.assembled path keys payload response := by
  apply outcome_requestOnly_eq_ok_iff.mp
  rcases h with hbuilt | ⟨start, last, hbuilt⟩
  · exact hbuilt
  · exact attains_requestEmitting operation env start last function hbuilt

end Operation

/-- A parameter of a list is left out, or given another type, where no request function depends on
it: a parameter that goes nowhere, a payload after the first one, page settings beside others, a
parameter of the path that fills no placeholder that is not filled before it, and the type of a
query parameter or of page settings. -/
inductive IdleChange (placeholders : List String) : List Parameter → List Parameter → Prop
  | nowhere (before after : List Parameter) (parameter : Parameter)
      (source : parameter.source = .none) :
      IdleChange placeholders (before ++ parameter :: after) (before ++ after)
  | payload (before after : List Parameter) (parameter : Parameter)
      (source : parameter.source = .body) (first : ∃ earlier ∈ before, earlier.source = .body) :
      IdleChange placeholders (before ++ parameter :: after) (before ++ after)
  | paged (before after : List Parameter) (parameter : Parameter)
      (source : parameter.source = .paged)
      (beside : ∃ other ∈ before ++ after, other.source = .paged) :
      IdleChange placeholders (before ++ parameter :: after) (before ++ after)
  | path (before after : List Parameter) (parameter : Parameter)
      (source : parameter.source = .path)
      (filled : ∀ placeholder ∈ placeholders, parameter.Fills placeholder →
        ∃ earlier ∈ before, earlier.Fills placeholder) :
      IdleChange placeholders (before ++ parameter :: after) (before ++ after)
  | type (before after : List Parameter) (parameter : Parameter) (type : TypeRef)
      (source : parameter.source = .query ∨ parameter.source = .paged) :
      IdleChange placeholders (before ++ parameter :: after)
        (before ++ { parameter with type } :: after)

section Find

variable {α : Type} {P : α → Prop} [DecidablePred P] {before after : List α} {entry : α}

/-- A search does not come to an entry that is not what it looks for, or that comes too late. -/
theorem find?_left_out (h : P entry → ∃ earlier ∈ before, P earlier) :
    (before ++ entry :: after).find? (fun other => decide (P other)) =
      (before ++ after).find? fun other => decide (P other) := by
  rw [List.find?_append, List.find?_append, List.find?_cons]
  cases hbefore : before.find? fun other => decide (P other) with
  | some found => rfl
  | none =>
      have hentry : ¬P entry := by
        intro hentry
        obtain ⟨earlier, hearlier, hP⟩ := h hentry
        exact List.find?_eq_none.mp hbefore earlier hearlier (decide_eq_true hP)
      simp [hentry]

end Find

/-- Two lists of parameters that show the same to every part of a request function: the same
parameter for every placeholder, the same payload, page settings or none, and the same keys. -/
structure SameUse (placeholders : List String) (parameters others : List Parameter) : Prop where
  path : ∀ placeholder ∈ placeholders,
    parameters.find? (fun parameter => decide (parameter.Fills placeholder)) =
      others.find? fun parameter => decide (parameter.Fills placeholder)
  body : parameters.find? (fun parameter => decide (parameter.source = .body)) =
    others.find? fun parameter => decide (parameter.source = .body)
  paged : (∃ parameter ∈ parameters, parameter.source = .paged) ↔
    ∃ parameter ∈ others, parameter.source = .paged
  keys : (parameters.filter fun parameter => parameter.source = .query).map Parameter.queryKey =
    (others.filter fun parameter => parameter.source = .query).map Parameter.queryKey

namespace SameUse

variable {placeholders : List String} {parameters others more : List Parameter}

theorem refl (placeholders : List String) (parameters : List Parameter) :
    SameUse placeholders parameters parameters :=
  ⟨fun _ _ => rfl, rfl, Iff.rfl, rfl⟩

theorem symm (h : SameUse placeholders parameters others) :
    SameUse placeholders others parameters :=
  ⟨fun placeholder hmem => (h.path placeholder hmem).symm, h.body.symm, h.paged.symm, h.keys.symm⟩

theorem trans (h : SameUse placeholders parameters others)
    (h' : SameUse placeholders others more) : SameUse placeholders parameters more :=
  ⟨fun placeholder hmem => (h.path placeholder hmem).trans (h'.path placeholder hmem),
    h.body.trans h'.body, h.paged.trans h'.paged, h.keys.trans h'.keys⟩

/-- A parameter can be left out if no part of a request function would find it. -/
theorem left_out {before after : List Parameter} {parameter : Parameter}
    (hpath : ∀ placeholder ∈ placeholders, parameter.Fills placeholder →
      ∃ earlier ∈ before, earlier.Fills placeholder)
    (hbody : parameter.source = .body → ∃ earlier ∈ before, earlier.source = .body)
    (hpaged : parameter.source = .paged → ∃ other ∈ before ++ after, other.source = .paged)
    (hquery : parameter.source ≠ .query) :
    SameUse placeholders (before ++ parameter :: after) (before ++ after) where
  path placeholder hmem := find?_left_out (hpath placeholder hmem)
  body := find?_left_out hbody
  paged := by
    constructor
    · rintro ⟨other, hmem, hsource⟩
      rcases List.mem_append.mp hmem with hmem | hmem
      · exact ⟨other, List.mem_append_left _ hmem, hsource⟩
      · rcases List.mem_cons.mp hmem with rfl | hmem
        · exact hpaged hsource
        · exact ⟨other, List.mem_append_right _ hmem, hsource⟩
    · rintro ⟨other, hmem, hsource⟩
      refine ⟨other, ?_, hsource⟩
      exact (List.sublist_cons_self parameter after).append_left before |>.subset hmem
  keys := by simp [hquery]

end SameUse

/-- Nothing in a request function shows an idle change. -/
theorem IdleChange.sameUse {placeholders : List String} {parameters others : List Parameter}
    (h : IdleChange placeholders parameters others) : SameUse placeholders parameters others := by
  cases h with
  | nowhere before after parameter source =>
      apply SameUse.left_out <;> simp [Parameter.Fills, source]
  | payload before after parameter source first =>
      refine .left_out ?_ (fun _ => first) ?_ ?_ <;> simp [Parameter.Fills, source]
  | paged before after parameter source beside =>
      refine .left_out ?_ ?_ (fun _ => beside) ?_ <;> simp [Parameter.Fills, source]
  | path before after parameter source filled =>
      refine .left_out filled ?_ ?_ ?_ <;> simp [source]
  | type before after parameter type source =>
      have hpath : parameter.source ≠ .path := by rcases source with h | h <;> simp [h]
      have hbody : parameter.source ≠ .body := by rcases source with h | h <;> simp [h]
      refine ⟨fun placeholder _ => ?_, ?_, ?_, ?_⟩
      · simp [Parameter.Fills, hpath]
      · simp [hbody]
      · simp only [List.mem_append, List.mem_cons, or_and_right, exists_or, exists_eq_left]
      · by_cases hquery : parameter.source = .query <;> simp [hquery, Parameter.queryKey]

/-- Nor does anything show any number of them, forwards and backwards. -/
theorem SameUse.of_idleChanges {placeholders : List String} {parameters others : List Parameter}
    (h : Relation.EqvGen (IdleChange placeholders) parameters others) :
    SameUse placeholders parameters others := by
  induction h with
  | rel parameters others step => exact step.sameUse
  | refl parameters => exact .refl placeholders parameters
  | symm parameters others _ ih => exact ih.symm
  | trans parameters others more _ _ ih ih' => exact ih.trans ih'

namespace Operation

section Use

variable {m : Type → Type} [Monad m] [MonadExcept BuildFault m] {operation : Operation}
  {parameters : List Parameter}

theorem pathArguments_congr {placeholders : List String}
    (h : ∀ placeholder ∈ placeholders,
      operation.pathParameter? placeholder =
        { operation with parameters }.pathParameter? placeholder)
    (map : TypeRef → m Target) :
    operation.pathArguments map placeholders =
      { operation with parameters }.pathArguments map placeholders := by
  induction placeholders with
  | nil => rfl
  | cons placeholder rest ih =>
      obtain ⟨hfirst, hrest⟩ := List.forall_mem_cons.mp h
      rw [pathArguments, pathArguments, hfirst, ih hrest]

/-- A request function depends on the parameters only by what they show. -/
theorem request_congr (h : SameUse operation.placeholders operation.parameters parameters)
    (map : TypeRef → m Target) :
    operation.request map = { operation with parameters }.request map := by
  have hpath : operation.pathArguments map operation.placeholders.eraseDups =
      { operation with parameters }.pathArguments map operation.placeholders.eraseDups := by
    apply pathArguments_congr
    intro placeholder hmem
    rw [pathParameter?_eq, pathParameter?_eq]
    exact h.path placeholder (List.mem_eraseDups.mp hmem)
  have hbody : operation.bodyParameter? = { operation with parameters }.bodyParameter? := h.body
  have hpaged : operation.isPaged = { operation with parameters }.isPaged := by
    rw [Bool.eq_iff_iff, isPaged_iff, isPaged_iff]
    exact h.paged
  have hkeys : operation.queryKeys = { operation with parameters }.queryKeys := h.keys
  unfold placeholders at hpath
  unfold request bodyArgument requestUrl queryArguments
  rw [hpath, hbody, hpaged, hkeys]

end Use

end Operation

namespace Sample

/-- An operation with parameters of every source in no order. -/
def reviewNode : Operation where
  method := some "POST"
  url := "/users/{id}/nodes/{node}/{id}"
  functionName := "reviewNode"
  parameters := [
    { name := "q", type := { kind := .number }, source := .query, bindingName := some "filter" },
    { name := "note", type := { kind := .string }, source := .body },
    { name := "session", type := composite "Session" },
    { name := "node", type := role, source := .path },
    { name := "page", type := composite "Pageable", source := .paged },
    { name := "user", type := { kind := .string }, source := .path, bindingValue := some "id" },
    { name := "id", type := { kind := .number }, source := .path },
    { name := "draft", type := composite "Node", source := .body },
    { name := "all", type := { kind := .boolean }, source := .query }]
  returnType := composite "Node"

/-- The same parameters without those of no use, and with another type for the first one. -/
def reviewNeeds : List Parameter := [
  { name := "q", type := { kind := .wildcard }, source := .query, bindingName := some "filter" },
  { name := "note", type := { kind := .string }, source := .body },
  { name := "node", type := role, source := .path },
  { name := "page", type := composite "Pageable", source := .paged },
  { name := "user", type := { kind := .string }, source := .path, bindingValue := some "id" },
  { name := "all", type := { kind := .boolean }, source := .query }]

theorem idle_reviewNode :
    Relation.EqvGen (IdleChange reviewNode.placeholders) reviewNode.parameters reviewNeeds := by
  refine .trans _ _ _ (.rel _ _ (.type [] _ _ { kind := .wildcard } (.inl rfl))) ?_
  refine .trans _ _ _ (.rel _ _ (.nowhere (reviewNeeds.take 2) _ _ rfl)) ?_
  refine .trans _ _ _ (.rel _ _ (.path (reviewNeeds.take 5) _ _ rfl (by decide))) ?_
  exact .rel _ _ (.payload (reviewNeeds.take 5) _ _ rfl (by decide))

/-- A state in which all types of the operation are emitted. -/
def reviewed : Emission where
  registry := {
    entries := [("Node", "app.Node"), ("Session", "app.Session"), ("Role", "app.Role")] }

theorem emitting_reviewNode : ∃ last function,
    reviewNode.requestEmitting environment reviewed = (last, .ok function) := by
  have hcovers : ∀ type ∈ reviewNode.discoveredTypes,
      Emission.Covers environment reviewed.registry type := by
    unfold Emission.Covers
    decide
  have houtcome := Operation.outcome_requestEmitting hcovers
  exact ⟨_, _, Prod.ext rfl houtcome⟩

/-- The placeholder `id` stands for the first parameter that has this name, which has it by its
binding. -/
theorem parts_reviewNode : ∃ response, reviewNode.Parts environment
    [{ name := "id", type := some (.ofWord "string"), source := .path },
      { name := "node", type := some (.ofWord "Role"), source := .path }] ["filter", "all"]
    (some { name := "note", type := some (.ofWord "string"), source := .body }) response := by
  have hplaceholders : reviewNode.placeholders.eraseDups = ["id", "node"] := by decide
  refine ⟨_, ⟨?_, ?_, ?_, rfl⟩⟩
  · rw [hplaceholders]
    refine .cons ⟨_, _, Operation.pathParameter?_eq_some_iff.mp rfl, rfl, rfl⟩ ?_
    exact .cons ⟨_, _, Operation.pathParameter?_eq_some_iff.mp rfl, rfl, rfl⟩ .nil
  · exact Operation.forall₂_isKey_iff.mpr (by decide)
  · exact ⟨_, _, Operation.bodyParameter?_eq_some_iff.mp rfl, rfl, rfl⟩

end Sample

namespace Operation

/-- A request function is put together from its parts, whatever the order and the number of the
parameters, and it is built as soon as there are such parts. -/
theorem request_regroups_parameters (operation : Operation) (env : Environment) :
    (∀ function, (operation.requestOnly env).outcome = .ok function ↔
      ∃ path keys payload response, operation.Parts env path keys payload response ∧
        function = operation.assembled path keys payload response) ∧
    (∀ start last function, operation.requestEmitting env start = (last, .ok function) →
      (operation.requestOnly env).outcome = .ok function) ∧
    ∀ parameters,
      Relation.EqvGen (IdleChange operation.placeholders) operation.parameters parameters →
        { operation with parameters }.requestOnly env = operation.requestOnly env ∧
        { operation with parameters }.requestEmitting env = operation.requestEmitting env := by
  refine ⟨fun function => outcome_requestOnly_eq_ok_iff, attains_requestEmitting operation env,
    fun parameters hidle => ?_⟩
  have huse := SameUse.of_idleChanges hidle
  exact ⟨(request_congr huse _).symm, (request_congr huse _).symm⟩

theorem request_regroups_parameters_sample :
    ∃ last function,
      Sample.reviewNode.requestEmitting Sample.environment Sample.reviewed = (last, .ok function) ∧
      (Sample.reviewNode.requestOnly Sample.environment).outcome = .ok function ∧
      function.arguments.map Argument.render = ["id: string", "node: Role",
        pageArgument.render, "filter: string", "all: string", "note: string"] ∧
      function.url.query = pageQuery ++ [("filter", "filter"), ("all", "all")] ∧
      { Sample.reviewNode with parameters := Sample.reviewNeeds }.requestOnly Sample.environment =
        Sample.reviewNode.requestOnly Sample.environment := by
  obtain ⟨hbuilt, hemitted, hidle⟩ :=
    request_regroups_parameters Sample.reviewNode Sample.environment
  obtain ⟨response, hparts⟩ := Sample.parts_reviewNode
  have hfunction := (hbuilt _).mpr ⟨_, _, _, response, hparts, rfl⟩
  obtain ⟨last, function, hemitting⟩ := Sample.emitting_reviewNode
  have halone := hemitted _ _ _ hemitting
  obtain rfl := Except.ok.inj (hfunction.symm.trans halone)
  exact ⟨last, _, hemitting, halone, rfl, rfl, (hidle _ Sample.idle_reviewNode).1⟩

end Operation

end CatalogClient
