/-
# Catalogs that contain themselves

A document may contain itself. Its reading ends all the same: with a catalog whose type references
are trees of limited depth, or with faults. A type reference that is met again inside itself is such
a fault, at the place where it is met, unless it lies inside too many others. Where a circle leads
through nothing that is looked at, it has no part in the outcome.
-/

import CatalogClient.Proofs.Catalog.Correspondence
import CatalogClient.Proofs.Catalog.Levels
import CatalogClient.Proofs.Catalog.Recursion

namespace CatalogClient

open Document

namespace Document

variable {document : Document} {room : Nat}

/-- A part is read within the reading of the value that holds it. -/
inductive Within (document : Document) (room : Nat) :
    List Path × Role × Place → List Path × Role × Place → Prop
  | outside {above : List Path} {role inner : Role} {place part : Place} {step : Step}
      (outside : role ≠ .type) (follows : document.Follows role place step inner part) :
      Within document room (above, inner, part) (above, role, place)
  | inside {above : List Path} {inner : Role} {path : Path} {part : Place} {step : Step}
      (follows : document.Follows .type (.node path) step inner part) (fresh : path ∉ above)
      (free : above.length < room) :
      Within document room (path :: above, inner, part) (above, .type, .node path)

end Document

/-- How many roles a part can have inside a role, outside of type references. -/
def Role.height : Role → Nat
  | .scalar => 0
  | .type => 1
  | .types | .texts => 2
  | .parameter | .field => 3
  | .parameters | .fields => 4
  | .operation | .declaration => 5
  | .operations | .declarations => 6
  | .catalog => 7

namespace Document

variable {document : Document} {room : Nat}

theorem Follows.height_lt {role inner : Role} {place part : Place} {step : Step}
    (h : document.Follows role place step inner part) (houtside : role ≠ .type) :
    inner.height < role.height := by
  cases h with
  | item look view found => cases role <;> cases look <;> decide
  | value look view found => cases role <;> cases look <;> decide
  | member look view listed found =>
      cases role <;> cases look <;> first | exact absurd rfl houtside | skip
      all_goals
        simp only [List.mem_cons, List.not_mem_nil, or_false] at listed
        rcases listed with rfl | rfl | rfl | rfl | rfl | rfl
      all_goals decide

theorem mem_paths_of_hasObject {path : Path} (h : document.HasObject path) :
    path ∈ document.root.paths := by
  obtain ⟨members, hview⟩ := h
  cases hvalue : document.root.at? path with
  | none =>
      simp only [view, hvalue] at hview
      cases hview
  | some value => exact Json.mem_paths_of_at? hvalue

/-- Readings are not within each other without end, even where the document contains itself: either
fewer paths are left that no type reference around has, or the role is lower. -/
theorem wellFounded_within (document : Document) (room : Nat) :
    WellFounded (document.Within room) := by
  refine Subrelation.wf ?_ (measure fun reading : List Path × Role × Place =>
    8 * remaining document.root.paths reading.1 + reading.2.1.height).wf
  rintro _ _ (⟨outside, follows⟩ | @⟨above, inner, path, part, step, follows, fresh, free⟩)
  · exact Nat.add_lt_add_left (follows.height_lt outside) _
  · have hless : remaining document.root.paths (path :: above) <
        remaining document.root.paths above :=
      remaining_lt_of_mem (List.subset_cons_self path above)
        (mem_paths_of_hasObject follows.hasObject) fresh List.mem_cons_self
    have hheight : inner.height ≤ 7 := by cases inner <;> decide
    show 8 * remaining document.root.paths (path :: above) + inner.height <
      8 * remaining document.root.paths above + Role.type.height
    omega

end Document

namespace Catalog

/-- The faults for which a document is refused as a catalog. -/
def faultsOf (value : Json) (resolver : Resolver) : List Fault :=
  match Catalog.ofJson value resolver with
  | .error (.malformed rejection) => rejection.faults
  | _ => []

/-- A walk from the top of a catalog document to a type reference, past some others. -/
def LeadsTo (document : Document) (location : List Step) (passed : List Path) (path : Path) :
    Prop :=
  document.Walk [] .catalog document.top location passed .type (.node path) ∧
    document.HasObject path

variable {value : Json} {resolver : Resolver} {document : Document} {location : List Step}
  {passed : List Path} {path : Path}

theorem ofJson_of_resolve (h : Document.resolve value resolver = .ok document) :
    Catalog.ofJson value resolver =
      ((Catalog.read document document.top).toExcept "ServerCatalog").mapError .malformed := by
  rw [Catalog.ofJson, h]

theorem faultsOf_of_resolve (h : Document.resolve value resolver = .ok document) :
    faultsOf value resolver = (Catalog.read document document.top).faults := by
  rw [faultsOf, ofJson_of_resolve h]
  cases Catalog.read document document.top <;> rfl

/-- The complaints about recursion are those that the reading runs into from the top. -/
theorem mem_faultsOf_iff (h : Document.resolve value resolver = .ok document)
    {complaint : Complaint} (hrecursive : complaint.isRecursive = true) :
    ⟨location, complaint⟩ ∈ faultsOf value resolver ↔
      ∃ passed path, LeadsTo document location passed path ∧ passed.Nodup ∧
        passed.length ≤ roomInside ∧ Ends roomInside passed path complaint := by
  rw [faultsOf_of_resolve h,
    (Catalog.readsIn_read document.top).lists location complaint hrecursive,
    runsInto_iff List.nodup_nil (Nat.zero_le _)]
  simp only [LeadsTo, and_assoc]

/-- What becomes of a document whose references are resolved, whatever circles they lead in. -/
structure HandlesCycles (value : Json) (resolver : Resolver) (document : Document) : Prop where
  /-- Readings are not within each other without end. -/
  descends : WellFounded (document.Within roomInside)
  /-- The reading ends with a catalog or with faults. -/
  ends : (∃ catalog, Catalog.ofJson value resolver = .ok catalog) ∨
    ∃ rejection, Catalog.ofJson value resolver = .error (.malformed rejection) ∧
      rejection.faults ≠ []
  /-- The type references of a catalog are trees, which are resolved within their levels. -/
  finite : ∀ catalog, Catalog.ofJson value resolver = .ok catalog → catalog.EachType fun type =>
    type.Within roomInside ∧
      ∀ env beyond, type.resolveDown env beyond roomInside = type.resolve env
  /-- On no walk through a catalog a type reference is met again. -/
  straight : ∀ catalog, Catalog.ofJson value resolver = .ok catalog → ∀ location passed path,
    LeadsTo document location passed path → (path :: passed).Nodup ∧ passed.length < roomInside
  /-- A type reference that contains itself is a fault on the way to where it is met again. -/
  rejects : ∀ location passed path, LeadsTo document location passed path → path ∈ passed →
    ∃ rejection, Catalog.ofJson value resolver = .error (.malformed rejection) ∧
      ∃ before after complaint, location = before ++ after ∧
        complaint.isRecursive = true ∧ ⟨before, complaint⟩ ∈ rejection.faults
  /-- The fault is at the place where the type reference is met again, unless too many others were
  passed. -/
  cycle_iff : ∀ location, ⟨location, .cycle⟩ ∈ faultsOf value resolver ↔
    ∃ passed path, LeadsTo document location passed path ∧ passed.Nodup ∧
      passed.length ≤ roomInside ∧ path ∈ passed
  /-- Then the fault is at the place of the first one for which there is no room. -/
  deep_iff : ∀ location, ⟨location, .deep⟩ ∈ faultsOf value resolver ↔
    ∃ passed path, LeadsTo document location passed path ∧ passed.Nodup ∧
      passed.length = roomInside ∧ path ∉ passed
  /-- Both are reported as loops by some releases of the validation, and by the others only the
first. -/
  loop_iff : ∀ report location, (∃ fault ∈ faultsOf value resolver, fault.location = location ∧
      fault.complaint.code report = "recursion_loop") ↔
    ∃ passed path, LeadsTo document location passed path ∧ passed.Nodup ∧
      passed.length ≤ roomInside ∧
        (path ∈ passed ∨ report = .asLoop ∧ passed.length = roomInside)
  /-- What is not looked at does not matter. -/
  ignores : ∀ value' resolver' document' R, Document.resolve value' resolver' = .ok document' →
    document.Corresponds document' R → R .catalog document.top document'.top →
      Catalog.ofJson value' resolver' = Catalog.ofJson value resolver

/-- The loops that are reported are those that the reading runs into, and with some releases also
the places for which there is no room. -/
theorem exists_loop_iff (h : Document.resolve value resolver = .ok document)
    (report : DepthReport) : (∃ fault ∈ faultsOf value resolver, fault.location = location ∧
        fault.complaint.code report = "recursion_loop") ↔
      ∃ passed path, LeadsTo document location passed path ∧ passed.Nodup ∧
        passed.length ≤ roomInside ∧
          (path ∈ passed ∨ report = .asLoop ∧ passed.length = roomInside) := by
  constructor
  · rintro ⟨⟨_, complaint⟩, hmem, rfl, hcode⟩
    rcases Complaint.code_eq_loop_iff.mp hcode with rfl | ⟨rfl, rfl⟩
    · obtain ⟨passed, path, hleads, hnodup, hroom, ⟨-, hmet⟩ | ⟨⟨⟩, -⟩⟩ :=
        (mem_faultsOf_iff h rfl).mp hmem
      exact ⟨passed, path, hleads, hnodup, hroom, .inl hmet⟩
    · obtain ⟨passed, path, hleads, hnodup, hroom, ⟨⟨⟩, -⟩ | ⟨-, -, hfull⟩⟩ :=
        (mem_faultsOf_iff h rfl).mp hmem
      exact ⟨passed, path, hleads, hnodup, hroom, .inr ⟨rfl, hfull⟩⟩
  · rintro ⟨passed, path, hleads, hnodup, hroom, hmet⟩
    by_cases hmem : path ∈ passed
    · exact ⟨⟨location, .cycle⟩, (mem_faultsOf_iff h rfl).mpr
        ⟨passed, path, hleads, hnodup, hroom, .inl ⟨rfl, hmem⟩⟩, rfl,
        Complaint.code_eq_loop_iff.mpr (.inl rfl)⟩
    · obtain ⟨rfl, hfull⟩ := hmet.resolve_left hmem
      exact ⟨⟨location, .deep⟩, (mem_faultsOf_iff h rfl).mpr
        ⟨passed, path, hleads, hnodup, hroom, .inr ⟨rfl, hmem, hfull⟩⟩, rfl,
        Complaint.code_eq_loop_iff.mpr (.inr ⟨rfl, rfl⟩)⟩

/-- A fault belongs to a rejection. -/
theorem exists_rejection_of_mem {fault : Fault} (h : fault ∈ faultsOf value resolver) :
    ∃ rejection, Catalog.ofJson value resolver = .error (.malformed rejection) ∧
      fault ∈ rejection.faults := by
  unfold faultsOf at h
  split at h
  · next rejection hrejected => exact ⟨rejection, hrejected, h⟩
  · cases h

/-- Where a type reference is met again, or too many are passed, a fault lies on the way. -/
theorem exists_fault_of_leadsTo (h : Document.resolve value resolver = .ok document)
    (hleads : LeadsTo document location passed path)
    (htrouble : ¬((path :: passed).Nodup ∧ passed.length < roomInside)) :
    ∃ before after complaint, location = before ++ after ∧ complaint.isRecursive = true ∧
      ⟨before, complaint⟩ ∈ faultsOf value resolver := by
  obtain ⟨before, after, complaint, rfl, hruns⟩ :=
    hleads.1.exists_runsInto hleads.2 List.nodup_nil (Nat.zero_le _) htrouble
  have hrecursive := hruns.isRecursive
  refine ⟨before, after, complaint, rfl, hrecursive, ?_⟩
  rw [faultsOf_of_resolve h]
  exact ((Catalog.readsIn_read document.top).lists before complaint hrecursive).mpr hruns

/-- A document is handled safely if its references are resolved. -/
theorem ofJson_handlesCycles (h : Document.resolve value resolver = .ok document) :
    HandlesCycles value resolver document := by
  have hofJson := ofJson_of_resolve h
  have haccepted : ∀ catalog, Catalog.ofJson value resolver = .ok catalog →
      Catalog.read document document.top = .accepted catalog := by
    intro catalog hcatalog
    rw [hofJson] at hcatalog
    cases hread : Catalog.read document document.top with
    | accepted found =>
        rw [hread] at hcatalog
        rw [Except.ok.inj hcatalog]
    | rejected faults =>
        rw [hread] at hcatalog
        cases hcatalog
  refine ⟨wellFounded_within document roomInside, ?_, ?_, ?_, ?_, ?_, ?_,
    fun report _ => exists_loop_iff h report, ?_⟩
  · cases hread : Catalog.read document document.top with
    | accepted catalog => exact .inl ⟨catalog, by rw [hofJson, hread]; rfl⟩
    | rejected faults =>
        refine .inr ⟨⟨"ServerCatalog", faults⟩, by rw [hofJson, hread]; rfl, ?_⟩
        exact (Catalog.readsIn_read document.top).speaks faults hread
  · intro catalog hcatalog
    obtain ⟨returnTypes, parameters, fields⟩ := Catalog.yields_each
      (TypeRef.yields_within roomInside document []) (TypeRef.within_bare .unknown _)
      (TypeRef.within_bare .void _) document.top catalog (haccepted catalog hcatalog)
    have hresolved : ∀ type : TypeRef, type.Within roomInside → type.Within roomInside ∧
        ∀ env beyond, type.resolveDown env beyond roomInside = type.resolve env :=
      fun type htype => ⟨htype, fun env beyond => TypeRef.resolveDown_of_within env beyond htype⟩
    exact ⟨fun entry hentry => hresolved _ (returnTypes entry hentry),
      fun entry hentry parameter hmem => hresolved _ (parameters entry hentry parameter hmem),
      fun entry hentry field hmem => hresolved _ (fields entry hentry field hmem)⟩
  · intro catalog hcatalog location passed path hleads
    apply Decidable.byContradiction
    intro htrouble
    obtain ⟨before, -, complaint, -, -, hmem⟩ := exists_fault_of_leadsTo h hleads htrouble
    rw [faultsOf, hcatalog] at hmem
    cases hmem
  · intro location passed path hleads hmet
    obtain ⟨before, after, complaint, hsplit, hrecursive, hmem⟩ := exists_fault_of_leadsTo h hleads
      fun hgood => (List.nodup_cons.mp hgood.1).1 hmet
    obtain ⟨rejection, hrejected, hfault⟩ := exists_rejection_of_mem hmem
    exact ⟨rejection, hrejected, before, after, complaint, hsplit, hrecursive, hfault⟩
  · intro location
    rw [mem_faultsOf_iff h rfl]
    simp [Ends]
  · intro location
    rw [mem_faultsOf_iff h rfl]
    constructor
    · rintro ⟨passed, path, hleads, hnodup, -, ⟨⟨⟩, -⟩ | ⟨-, hfresh, hfull⟩⟩
      exact ⟨passed, path, hleads, hnodup, hfull, hfresh⟩
    · rintro ⟨passed, path, hleads, hnodup, hfull, hfresh⟩
      exact ⟨passed, path, hleads, hnodup, Nat.le_of_eq hfull, .inr ⟨rfl, hfresh, hfull⟩⟩
  · intro value' resolver' document' R h' hcorresponds htop
    rw [hofJson, ofJson_of_resolve h', Catalog.readsSame_read hcorresponds _ _ htop]

end Catalog

namespace Sample

open Json Catalog

/-- Array types in each other, and a reference to the return type of the operation inside them. -/
def ringType : Nat → Json
  | 0 => .object [("$ref", .string "#/operations/loop/return_type")]
  | count + 1 => .object [("kind", .string "array"), ("component", ringType count)]

/-- An operation with this return type. -/
def looped (count : Nat) : Json :=
  .object [("operations", .object [("loop", .object [("url", .string "/loop"),
    ("function_name", .string "loop"), ("return_type", ringType count)])])]

/-- The place of the array type below some others. -/
def below (count : Nat) : List Step :=
  [.key "operations", .key "loop", .key "return_type"] ++ List.replicate count (.key "component")

theorem below_succ (count : Nat) : below (count + 1) = below count ++ [.key "component"] := by
  rw [below, List.replicate_succ', ← List.append_assoc]
  rfl

section Ring

variable {count : Nat}

theorem references_looped : (looped count).references = ["#/operations/loop/return_type"] := by
  have hring : (ringType count).references = ["#/operations/loop/return_type"] := by
    induction count with
    | zero => rfl
    | succ count ih =>
        show [] ++ ([] ++ ((ringType count).references ++ [])) = _
        rw [ih]
        rfl
  show [] ++ (([] ++ (([] ++ ([] ++ ([] ++ ((ringType count).references ++ [])))) ++ [])) ++ []) = _
  rw [hring]
  rfl

theorem depth_looped : (looped count).depth = count + 4 := by
  have hring : (ringType count).depth = count + 1 := by
    induction count with
    | zero => rfl
    | succ count ih =>
        show max (0 + 1) (max ((ringType count).depth + 1) 0) = _
        rw [ih]
        omega
  show max (max (max (0 + 1) (max (0 + 1) (max ((ringType count).depth + 1) 0)) + 1) 0 + 1) 0 = _
  rw [hring]
  omega

theorem library_looped : (looped count).library {} = .object [("", looped count)] := by
  unfold Json.library
  rw [references_looped]
  rfl

theorem at?_below {position : Nat} (h : position ≤ count) :
    (Json.object [("", looped count)]).at? (.key "" :: below position) =
      some (ringType (count - position)) := by
  induction position with
  | zero => rfl
  | succ position ih =>
      have habove := ih (Nat.le_of_succ_le h)
      obtain ⟨left, hleft⟩ : ∃ left, count - position = left + 1 :=
        Nat.exists_eq_succ_of_ne_zero (by omega)
      rw [hleft] at habove
      rw [below_succ, ← List.cons_append, Json.at?_snoc habove]
      have hsame : count - (position + 1) = left := by omega
      rw [hsame]
      rfl

theorem referenceAt?_below {position : Nat} (h : position < count) :
    (Json.object [("", looped count)]).referenceAt? (.key "" :: below position) = none := by
  obtain ⟨left, hleft⟩ : ∃ left, count - position = left + 1 :=
    Nat.exists_eq_succ_of_ne_zero (by omega)
  rw [Json.referenceAt?, at?_below (Nat.le_of_lt h), hleft]
  rfl

/-- The only reference leads to the outermost array type. -/
theorem onward?_looped {path : Path}
    (h : (Json.object [("", looped count)]).referenceAt? path ≠ none) :
    (Json.object [("", looped count)]).onward? path = some (.key "" :: below 0) := by
  obtain ⟨text, htext⟩ := Option.ne_none_iff_exists'.mp h
  obtain rfl : text = "#/operations/loop/return_type" := by
    have hmem : text ∈ [] ++ ((looped count).references ++ []) :=
      Json.mem_references_of_referenceAt? htext
    rw [references_looped] at hmem
    exact List.mem_singleton.mp hmem
  unfold Json.onward?
  rw [htext, Json.nameOfPath_of_alone h]
  rfl

theorem length_paths_looped :
    (Json.object [("", looped count)]).paths.length = 2 * count + 8 := by
  have hring : (ringType count).paths.length = 2 * count + 2 := by
    induction count with
    | zero => rfl
    | succ count ih =>
        show (_ :: _ :: ((ringType count).paths.map _ ++ [])).length = _
        rw [List.append_nil, List.length_cons, List.length_cons, List.length_map, ih]
        omega
  simp [looped, Json.paths, Json.memberPaths, hring]

theorem exists_resolve_looped (hone : 0 < count) (hcount : count ≤ 255) :
    ∃ document, Document.resolve (looped count) {} = .ok document := by
  apply Document.exists_resolve
  · have hring : (ringType count).nestedReferences = [] := by
      clear hone hcount
      induction count with
      | zero => rfl
      | succ count ih =>
          show [] ++ ((ringType count).nestedReferences ++ []) ++ [] = []
          rw [ih]
          rfl
    have hnested : (looped count).nestedReferences = [] := by
      show ((([] ++ ([] ++ ((ringType count).nestedReferences ++ [])) ++ []) ++ []) ++ [] ++ []) ++
        [] = []
      rw [hring]
      rfl
    have hdepth : ¬({} : Machine).depth < count + 4 := by
      show ¬494 < count + 4
      omega
    rw [Json.earlyFault?, hnested, depth_looped, if_neg hdepth]
    rfl
  · rw [depth_looped]
    show count + 4 ≤ 987
    omega
  · rw [library_looped, length_paths_looped]
    show 2 * count + 8 ≤ 987
    omega
  · rw [library_looped]
    exact fun path hpath => ⟨_, onward?_looped hpath, referenceAt?_below hone⟩

/-- What is known of the places of a document in which the ring is resolved. -/
theorem follow_looped {document : Document} (hone : 0 < count)
    (h : Document.resolve (looped count) {} = .ok document) :
    (∀ path ∈ [[.key ""], [.key "", .key "operations"],
      [.key "", .key "operations", .key "loop"]], document.follow path = .node path) ∧
    (∀ position < count, document.follow (.key "" :: below position) =
      .node (.key "" :: below position)) ∧
    document.follow (.key "" :: below count) = .node (.key "" :: below 0) ∧
    document.root = .object [("", looped count)] ∧ document.start = [.key ""] := by
  rcases Document.resolve_eq_ok h with ⟨hnone, -⟩ | ⟨links, hlinks, rfl⟩
  · cases references_looped.symm.trans hnone
  rw [library_looped] at hlinks ⊢
  obtain ⟨visited, -, hpending, hlinked⟩ := Json.linked_of_linksFrom hlinks (.start _)
  have htop : [.key ""] ∈ visited := hpending (0, [.key ""]) List.mem_cons_self rfl
  have hoperations := hlinked.mem_visited_part (.key "operations") rfl rfl htop
  have hloop := hlinked.mem_visited_part (.key "loop") rfl rfl hoperations
  have hvisited : ∀ position ≤ count, .key "" :: below position ∈ visited := by
    intro position hposition
    induction position with
    | zero => exact hlinked.mem_visited_part (.key "return_type") rfl rfl hloop
    | succ position ih =>
        have hhere := ih (Nat.le_of_succ_le hposition)
        have hpart := hlinked.mem_visited_part (.key "component") ?_
          (referenceAt?_below hposition) hhere
        · rwa [below_succ, ← List.cons_append]
        · rw [List.cons_append, ← below_succ, at?_below hposition]
          rfl
  have hlink : (Json.object [("", looped count)]).referenceAt? (.key "" :: below count) =
      some "#/operations/loop/return_type" := by
    rw [Json.referenceAt?, at?_below (Nat.le_refl _), Nat.sub_self]
    rfl
  have hmeans := Json.means_of_onward? (onward?_looped (by rw [hlink]; exact Option.some_ne_none _))
    (fun hsame => by rw [← hsame] at hlink; cases hlink.symm.trans (referenceAt?_below hone))
    (.value (referenceAt?_below hone))
  refine ⟨?_, fun position hposition => ?_, ?_, rfl, rfl⟩
  · simp only [List.forall_mem_cons, List.not_mem_nil, false_implies, implies_true, and_true]
    exact ⟨hlinked.linked_of_plain rfl htop, hlinked.linked_of_plain rfl hoperations,
      hlinked.linked_of_plain rfl hloop⟩
  · exact hlinked.linked_of_plain (referenceAt?_below hposition)
      (hvisited position (Nat.le_of_lt hposition))
  · exact (hlinked.means _ (hvisited count (Nat.le_refl _))).unique hmeans

/-- A walk down the components of a type passes as many type references. -/
theorem length_of_walk_components {document : Document} {above passed : List Path}
    {place finish : Place}
    (h : document.Walk above .type place (List.replicate count (.key "component")) passed .type
      finish) : passed.length = above.length + count := by
  induction count generalizing above place with
  | zero =>
      cases h
      rfl
  | succ count ih =>
      rcases h with _ | ⟨outside, -, -⟩ | ⟨follows, rest⟩
      · exact absurd rfl outside
      · next inner path part =>
          obtain rfl : inner = .type := by simpa using follows.mem_roles rfl
          rw [ih rest, List.length_cons]
          omega

/-- A walk to the return type and down its components passes as many type references. -/
theorem length_of_leadsTo_below {document : Document} {passed : List Path} {path : Path}
    (h : LeadsTo document (below count) passed path) : passed.length = count := by
  obtain ⟨hwalk, -⟩ := h
  rcases hwalk with _ | ⟨-, follows, hwalk⟩
  next role place =>
  obtain rfl : role = .operations := by simpa using follows.mem_roles rfl
  rcases hwalk with _ | ⟨-, follows, hwalk⟩
  next role place =>
  obtain rfl : role = .operation := follows.eq_of_values rfl
  rcases hwalk with _ | ⟨-, follows, hwalk⟩
  next role place =>
  obtain rfl : role = .type := by simpa using follows.mem_roles rfl
  simpa using length_of_walk_components hwalk

variable {document : Document} (hone : 0 < count)
  (hresolve : Document.resolve (looped count) {} = .ok document)
include hone hresolve

/-- What is seen of the array types. -/
theorem view_below {position : Nat} (h : position < count) :
    document.view (.node (.key "" :: below position)) =
      .object [("kind", document.follow (.key "" :: below position ++ [.key "kind"])),
        ("component", document.follow (.key "" :: below (position + 1)))] := by
  obtain ⟨-, -, -, hroot, -⟩ := follow_looped hone hresolve
  obtain ⟨left, hleft⟩ : ∃ left, count - position = left + 1 :=
    Nat.exists_eq_succ_of_ne_zero (by omega)
  have hvalue := at?_below (Nat.le_of_lt h)
  rw [hleft, ringType] at hvalue
  simp only [Document.view, hroot, hvalue, Document.viewOf, List.map_cons, List.map_nil]
  rw [below_succ]
  rfl

/-- Down the components the walk comes back to the return type. -/
theorem exists_walk_below {left position : Nat} (h : position + left = count) (above : List Path) :
    ∃ passed, document.Walk above .type (document.follow (.key "" :: below position))
      (List.replicate left (.key "component")) passed .type (.node (.key "" :: below 0)) ∧
      (0 < left → (.key "" :: below position) ∈ passed) := by
  obtain ⟨-, hplain, hback, -⟩ := follow_looped hone hresolve
  induction left generalizing position above with
  | zero =>
      obtain rfl : position = count := h
      rw [hback]
      exact ⟨above, .here, fun hless => absurd hless (Nat.lt_irrefl 0)⟩
  | succ left ih =>
      have hposition : position < count := by omega
      obtain ⟨passed, hwalk, -⟩ := ih (by omega : position + 1 + left = count)
        ((.key "" :: below position) :: above)
      rw [hplain position hposition]
      refine ⟨passed, .inside (.under rfl (by simp) (view_below hone hresolve hposition) rfl) hwalk,
        fun _ => hwalk.suffix.subset List.mem_cons_self⟩

/-- The return type is met again below itself. -/
theorem exists_leadsTo_below : ∃ passed,
    LeadsTo document (below count) passed (.key "" :: below 0) ∧
      (.key "" :: below 0) ∈ passed := by
  obtain ⟨hplain, -, -, hroot, hstart⟩ := follow_looped hone hresolve
  simp only [List.forall_mem_cons] at hplain
  obtain ⟨htop, hoperations, hloop, -⟩ := hplain
  obtain ⟨passed, hwalk, hmem⟩ := exists_walk_below hone hresolve (Nat.zero_add count) []
  refine ⟨passed, ⟨?_, ⟨_, view_below hone hresolve hone⟩⟩, hmem hone⟩
  have hsee : ∀ path value, (Json.object [("", looped count)]).at? path = some value →
      document.view (.node path) = document.viewOf path value := by
    intro path value hvalue
    simp only [Document.view, hroot, hvalue]
  have hfirst : document.Follows .catalog (.node [.key ""]) (.key "operations") .operations
      (document.follow [.key "", .key "operations"]) :=
    .under rfl (by simp) (hsee [.key ""] (looped count) rfl) rfl
  have hsecond : document.Follows .operations (.node [.key "", .key "operations"]) (.key "loop")
      .operation (document.follow [.key "", .key "operations", .key "loop"]) := by
    have hmember := hsee [.key "", .key "operations"] _ rfl
    exact .value rfl hmember List.mem_cons_self
  have hthird : document.Follows .operation (.node [.key "", .key "operations", .key "loop"])
      (.key "return_type") .type (document.follow (.key "" :: below 0)) := by
    have hmember := hsee [.key "", .key "operations", .key "loop"] _ rfl
    exact .under rfl (by simp) hmember rfl
  rw [Document.top, hstart, htop]
  refine .part (by decide) hfirst ?_
  rw [hoperations]
  refine .part (by decide) hsecond ?_
  rw [hloop]
  exact .part (by decide) hthird hwalk

end Ring

/-- A type reference that is met again below too many others is not reported where it is met. -/
theorem not_mem_faultsOf_looped :
    ∃ document passed, Document.resolve (looped 255) {} = .ok document ∧
      LeadsTo document (below 255) passed (.key "" :: below 0) ∧ (.key "" :: below 0) ∈ passed ∧
      ∀ report, ∀ fault ∈ faultsOf (looped 255) {}, fault.location = below 255 →
        fault.complaint.code report ≠ "recursion_loop" := by
  obtain ⟨document, hresolve⟩ := exists_resolve_looped (by decide) (Nat.le_refl 255)
  obtain ⟨passed, hleads, hmet⟩ := exists_leadsTo_below (by decide) hresolve
  refine ⟨document, passed, hresolve, hleads, hmet, fun report fault hmem hlocation hcode => ?_⟩
  obtain ⟨short, path, hshort, -, hlength, -⟩ :=
    (exists_loop_iff hresolve report).mp ⟨fault, hmem, hlocation, hcode⟩
  rw [length_of_leadsTo_below hshort] at hlength
  exact absurd hlength (by decide)

/-- A document that holds itself under a key that no catalog has. -/
def mirror : Json :=
  .object [("self", .object [("$ref", .string "#")])]

/-- A document that holds nothing under this key. -/
def blank : Json :=
  .object [("self", .null)]

theorem exists_resolve_mirror : ∃ document, Document.resolve mirror {} = .ok document := by
  refine Document.exists_resolve (by decide +kernel) (by decide) (by decide +kernel)
    fun path hpath => ?_
  have hall : ∀ path ∈ (mirror.library {}).paths, (mirror.library {}).referenceAt? path ≠ none →
      ∃ target ∈ (mirror.library {}).paths, (mirror.library {}).onward? path = some target ∧
        (mirror.library {}).referenceAt? target = none := by
    decide +kernel
  obtain ⟨target, -, h⟩ := hall path (Json.mem_paths_of_referenceAt? hpath) hpath
  exact ⟨target, h⟩

/-- Neither document has anything to look at. -/
theorem corresponds_blank {document : Document}
    (h : Document.resolve mirror {} = .ok document) :
    document.Corresponds (.plain blank) fun role place place' =>
      role = .catalog ∧ place = document.top ∧ place' = .node [] := by
  rcases Document.resolve_eq_ok h with ⟨hnone, -⟩ | ⟨links, hlinks, rfl⟩
  · cases hnone
  obtain ⟨visited, -, hpending, hlinked⟩ := Json.linked_of_linksFrom hlinks (.start _)
  have htop : Document.top ⟨mirror.library {}, [.key ""], links⟩ = .node [.key ""] :=
    hlinked.linked_of_plain rfl (hpending (0, [.key ""]) List.mem_cons_self rfl)
  constructor
  · rintro role place place' ⟨rfl, rfl, rfl⟩
    rw [htop]
    intro entry hentry
    simp only [List.mem_cons, List.not_mem_nil, or_false] at hentry
    rcases hentry with rfl | rfl
    · exact .none
    · exact .none
  · rintro _ _ _ _ ⟨⟨⟩, -⟩

end Sample

namespace Catalog

theorem ofJson_handlesCycles_sample :
    (∃ document, Document.resolve (Sample.looped 1) {} = .ok document) ∧
      ⟨Sample.below 1, .cycle⟩ ∈ faultsOf (Sample.looped 1) {} ∧
      (∃ document, Document.resolve Sample.mirror {} = .ok document) ∧
      Catalog.ofJson Sample.blank {} = Catalog.ofJson Sample.mirror {} := by
  obtain ⟨document, hresolve⟩ := Sample.exists_resolve_looped (by decide) (by decide : 1 ≤ 255)
  obtain ⟨passed, hleads, hmet⟩ := Sample.exists_leadsTo_below (by decide) hresolve
  obtain ⟨mirrored, hmirror⟩ := Sample.exists_resolve_mirror
  refine ⟨⟨document, hresolve⟩, ?_, ⟨mirrored, hmirror⟩, ?_⟩
  · have hlength := Sample.length_of_leadsTo_below hleads
    obtain ⟨path, rfl⟩ := List.length_eq_one_iff.mp hlength
    exact ((ofJson_handlesCycles hresolve).cycle_iff _).mpr
      ⟨_, _, hleads, List.nodup_cons.mpr ⟨List.not_mem_nil, List.nodup_nil⟩,
        (by decide : 1 ≤ roomInside), hmet⟩
  · exact (ofJson_handlesCycles hmirror).ignores Sample.blank {} (.plain Sample.blank) _ rfl
      (Sample.corresponds_blank hmirror) ⟨rfl, rfl, rfl⟩

end Catalog

end CatalogClient
