/-
# Which documents are type references

A document is accepted as a type reference exactly if it describes one: it is an object, its fields
have the right types, the references in it are described in turn, and together they keep the rules
of its kind. A document that is refused has faults, and a broken rule is only reported where nothing
is wrong with the parts.
-/

import CatalogClient.Proofs.Catalog.Levels
import CatalogClient.Proofs.Catalog.Recursion
import CatalogClient.Proofs.Resolution.Failure
import CatalogClient.Proofs.Validation.Acceptance
import CatalogClient.Proofs.Validation.ShapeFaults

namespace CatalogClient

open Json Validated

namespace TypeRef

/-- The rules on the parts of a reference that its kind asks for. -/
structure KeepsRules (type : TypeRef) : Prop where
  component : type.kind = .array → type.component ≠ none
  name : type.kind = .enumeration ∨ type.kind = .composite ∨ type.kind = .typeVariable →
    ∃ name, type.name = some name ∧ name ≠ ""
  rawKind : type.kind = .parameterized → type.rawKind ≠ none
  arguments : type.kind = .parameterized → type.arguments ≠ []
  map : type.kind = .parameterized → type.rawKind = some .map → type.arguments.length = 2
  collection : type.kind = .parameterized → type.rawKind = some .collection →
    type.arguments.length = 1
  raw : type.kind = .parameterized → type.rawKind = some .other → type.raw ≠ none

theorem hasName_iff {type : TypeRef} :
    type.hasName = true ↔ ∃ name, type.name = some name ∧ name ≠ "" := by
  unfold hasName simpleName
  cases type.name <;> simp

/-- No rule is broken if all of them are kept. -/
theorem brokenRule?_eq_none_iff {type : TypeRef} : type.brokenRule? = none ↔ type.KeepsRules := by
  constructor
  · intro hnone
    cases hkind : type.kind <;> simp only [brokenRule?, hkind] at hnone <;> constructor <;>
      grind [hasName_iff, Option.isNone_iff_eq_none]
  · rintro ⟨hcomponent, hname, hsort, harguments, hmap, hcollection, hraw⟩
    cases hkind : type.kind <;> simp only [brokenRule?, hkind] <;>
      grind [hasName_iff, Option.isNone_iff_eq_none]

/-- The references that a reference is made of. -/
def parts (type : TypeRef) : List TypeRef :=
  type.component.toList ++ type.raw.toList ++ type.arguments ++ type.bounds

/-- A reference is made of another one, at any depth. -/
inductive Contains : TypeRef → TypeRef → Prop
  | self {type : TypeRef} : Contains type type
  | part {type inner found : TypeRef} (member : inner ∈ type.parts)
      (below : Contains inner found) : Contains type found

/-- Rules that are kept at every depth are kept by all references that one is made of. -/
theorem WellFormed.keepsRules_of_contains {type found : TypeRef} (h : type.WellFormed)
    (hfound : type.Contains found) : found.KeepsRules := by
  induction hfound with
  | self =>
      obtain ⟨own, -, -, -, -⟩ := h
      exact brokenRule?_eq_none_iff.mp own
  | part member _ ih =>
      obtain ⟨-, hcomponent, hraw, harguments, hbounds⟩ := h
      simp only [parts, List.mem_append, Option.mem_toList] at member
      rcases member with ((member | member) | member) | member
      · exact ih (hcomponent _ member)
      · exact ih (hraw _ member)
      · exact ih (harguments _ member)
      · exact ih (hbounds _ member)

/-- What a resolution meets is a part. -/
theorem Meets.contains {env : Environment} {type found : TypeRef} (h : Meets env type found) :
    type.Contains found := by
  induction h with
  | self => exact .self
  | part member _ ih =>
      refine .part ?_ ih
      simp only [parts, List.mem_append, Option.mem_toList]
      rcases mem_of_mem_resolvedParts member with hmem | hmem | hmem
      · exact .inl (.inl (.inl hmem))
      · exact .inl (.inr hmem)
      · exact .inr hmem

end TypeRef

/-- A value describes a type reference: it is an object whose fields have the right types, the
references in it are described, and the rules are kept. Fields that are not known have no part in
this. -/
inductive Json.Describes : Json → TypeRef → Prop
  | object {members : List (String × Json)} {type : TypeRef}
      (kind : IsField (IsWord TypeKind.label) .unknown (members.lookup "kind") type.kind)
      (name : IsField (IsOptional IsText) none (members.lookup "name") type.name)
      (package : IsField (IsOptional IsText) none (members.lookup "namespace") type.package)
      (component : IsField (IsOptional Describes) none (members.lookup "component") type.component)
      (rawKind : IsField (IsOptional (IsWord RawKind.label)) none (members.lookup "raw_kind")
        type.rawKind)
      (raw : IsField (IsOptional Describes) none (members.lookup "raw") type.raw)
      (arguments : IsField (IsTuple Describes) [] (members.lookup "arguments") type.arguments)
      (bounds : IsField (IsTuple Describes) [] (members.lookup "bounds") type.bounds)
      (rules : type.KeepsRules) : Describes (.object members) type

namespace TypeRef

variable {root : Json} {path : Path}

theorem accepts_kind {depth : Nat} : AcceptsFrom root depth
    (Reader.choice TypeKind.all TypeKind.label (.plain root)) (IsWord TypeKind.label) :=
  Reader.accepts_choice TypeKind.mem_all (by decide)

theorem accepts_rawKind {depth : Nat} : AcceptsFrom root depth
    (Reader.choice RawKind.all RawKind.label (.plain root)) (IsWord RawKind.label) :=
  Reader.accepts_choice RawKind.mem_all (by decide)

/-- The members of an object are read as what the object describes, if the references in it are. -/
theorem ofFields_eq_accepted_iff {inner : Place → Validated TypeRef} {levels : Nat}
    (hinner : AcceptsFrom root (path.length + 1) inner fun value type =>
      value.Describes type ∧ type.Within levels)
    {members : List (String × Json)} (hvalue : root.at? path = some (.object members))
    {type : TypeRef} :
    ofFields (.plain root) inner ((Document.plain root).membersAt path members) = .accepted type ↔
      (Json.object members).Describes type ∧ type.Within (levels + 1) := by
  have hkind := Keyed.withDefault_eq_accepted_iff hvalue accepts_kind "kind" .unknown
  have htext := fun name => Keyed.withDefault_eq_accepted_iff hvalue
    (Reader.accepts_optional Reader.accepts_text) name none
  have hsort := Keyed.withDefault_eq_accepted_iff hvalue (Reader.accepts_optional accepts_rawKind)
    "raw_kind" none
  have hinside : AcceptsFrom root (path.length + 1) (Reader.optional (fun _ => inner) (.plain root))
      fun value found => IsOptional Describes value found ∧ ∀ part ∈ found, part.Within levels :=
    (Reader.accepts_optional hinner).congr fun _ _ => isOptional_and_iff
  have hinsides : AcceptsFrom root (path.length + 1)
      (Reader.list (fun _ => inner) .notTuple (.plain root))
      fun value found => IsTuple Describes value found ∧ ∀ part ∈ found, part.Within levels :=
    (Reader.accepts_list hinner .notTuple).congr fun _ _ => isTuple_and_iff
  have hoption := fun name found =>
    (Keyed.withDefault_eq_accepted_iff hvalue hinside name none found).trans (isField_and_iff nofun)
  have hlist := fun name found =>
    (Keyed.withDefault_eq_accepted_iff hvalue hinsides name [] found).trans
      (isField_and_iff (List.forall_mem_nil _))
  unfold ofFields
  rw [check_eq_accepted_iff, Option.map_eq_none_iff, brokenRule?_eq_none_iff]
  constructor
  · rintro ⟨hread, hrules⟩
    refine Yields.seq (Q := fun type => type.KeepsRules → (Json.object members).Describes type ∧
        type.Within (levels + 1))
      (.seq (.seq (.seq (.seq (.seq (.seq (.map (fun found => (hkind found).mp) ?_)
      fun found => (htext "name" found).mp) fun found => (htext "namespace" found).mp)
      fun found => (hoption "component" found).mp) fun found => (hsort found).mp)
      fun found => (hoption "raw" found).mp) fun found => (hlist "arguments" found).mp)
      (fun found => (hlist "bounds" found).mp) type hread hrules
    rintro kind hkind name hname package hpackage component ⟨hcomponent, wcomponent⟩ sort hsort
      raw ⟨hraw, wraw⟩ arguments ⟨harguments, warguments⟩ bounds ⟨hbounds, wbounds⟩ hrules
    exact ⟨⟨hkind, hname, hpackage, hcomponent, hsort, hraw, harguments, hbounds, hrules⟩,
      wcomponent, wraw, warguments, wbounds⟩
  · rintro ⟨⟨kind, name, package, component, rawKind, raw, arguments, bounds, rules⟩,
      ⟨wcomponent, wraw, warguments, wbounds⟩⟩
    rw [(hkind _).mpr kind, (htext "name" _).mpr name, (htext "namespace" _).mpr package,
      (hoption "component" _).mpr ⟨component, wcomponent⟩, (hsort _).mpr rawKind,
      (hoption "raw" _).mpr ⟨raw, wraw⟩, (hlist "arguments" _).mpr ⟨arguments, warguments⟩,
      (hlist "bounds" _).mpr ⟨bounds, wbounds⟩]
    refine ⟨?_, rules⟩
    cases type
    rfl

/-- A value is accepted exactly if it describes a type reference, and one with levels for which
there is room. The type references around it have shorter paths, so none of them is met again. -/
theorem accepts_readUnder (room : Nat) {above : List Path} {depth : Nat}
    (habove : ∀ path ∈ above, path.length < depth) :
    AcceptsFrom root depth (readUnder room (.plain root) above) fun value type =>
      value.Describes type ∧ type.Within (room - above.length) := by
  induction hleft : room - above.length generalizing above depth with
  | zero =>
      intro path value _ _ type
      refine iff_of_false (fun haccepted => ?_) fun h => nomatch h.2
      have hwithin := yields_within room (.plain root) above (.node path) type haccepted
      rw [hleft] at hwithin
      cases hwithin
  | succ levels ih =>
      intro path value hdepth hvalue type
      have hview := Document.view_plain hvalue
      cases value with
      | object members =>
          obtain ⟨_, ⟨⟩, hread⟩ := readUnder_of_object room above hview
          have hfresh : path ∉ above := fun hmem =>
            Nat.not_lt_of_le hdepth (habove path hmem)
          have hinside : ∀ other ∈ path :: above, other.length < path.length + 1 :=
            List.forall_mem_cons.mpr ⟨Nat.lt_succ_self _, fun other hother =>
              Nat.lt_succ_of_le (Nat.le_trans (Nat.le_of_lt (habove other hother)) hdepth)⟩
          rw [hread, if_neg hfresh, if_neg (by omega)]
          exact ofFields_eq_accepted_iff (ih hinside (by rw [List.length_cons]; omega)) hvalue
      | null | bool value | number value | string value | array items =>
          rw [readUnder_of_not_object (by rw [hview]; nofun)]
          exact iff_of_false nofun fun h => nomatch h.1

/-- The rules are checked when nothing is wrong with the members. -/
theorem shapesLast_ofFields (document : Document) {inner : Place → Validated TypeRef}
    (h : ∀ place, (inner place).ShapesLast) (fields : Keyed Place) :
    (ofFields document inner fields).ShapesLast := by
  have hkind := Keyed.shapesLastIn_withDefault fields
    (Reader.shapesLast_choice document · TypeKind.all TypeKind.label) "kind" .unknown
  have htext := fun name => Keyed.shapesLastIn_withDefault fields
    (fun place => Reader.shapesLast_optional (Reader.shapesLast_text document place)) name none
  have hsort := Keyed.shapesLastIn_withDefault fields (fun place => Reader.shapesLast_optional
    (Reader.shapesLast_choice document place RawKind.all RawKind.label)) "raw_kind" none
  have hinside : ∀ place, (Reader.optional (fun _ => inner) document place).ShapesLast :=
    fun place => Reader.shapesLast_optional (h place)
  have hinsides : ∀ place, (Reader.list (fun _ => inner) .notTuple document place).ShapesLast :=
    fun _ => Reader.shapesLast_list h .notTuple
  have hoption := fun name => Keyed.shapesLastIn_withDefault fields hinside name none
  have hlist := fun name => Keyed.shapesLastIn_withDefault fields hinsides name []
  unfold ofFields
  refine (((((((ShapesLastIn.seq (hkind.map TypeRef.mk) (htext "name") ?_).seq
    (htext "namespace") ?_).seq (hoption "component") ?_).seq hsort ?_).seq (hoption "raw") ?_).seq
    (hlist "arguments") ?_).seq (hlist "bounds") ?_).check _
  all_goals decide

theorem shapesLast_readUnder (room : Nat) (document : Document) (above : List Path)
    (place : Place) : (readUnder room document above place).ShapesLast := by
  fun_induction readUnder room document above place with
  | case1 => exact .complain _
  | case2 => exact .complain _
  | case3 => exact .complain _
  | case4 above path members hreached hfresh hroom inner fields read ih =>
      exact shapesLast_ofFields document ih fields
  | case5 => exact .complain _

/-- What becomes of a value that is read as a type reference. -/
structure ReadAsDescribed (value : Json) (outcome : Validated TypeRef) : Prop where
  /-- It is accepted exactly if it describes a type reference that is not too deep. -/
  accepts : ∀ type, outcome = .accepted type ↔ value.Describes type ∧ type.Within roomAtTop
  /-- The rules are kept at every depth. -/
  keeps : ∀ type, outcome = .accepted type → ∀ found, type.Contains found → found.KeepsRules
  /-- So they are kept wherever a resolution looks. -/
  meets : ∀ type, outcome = .accepted type → ∀ env found, type.Meets env found → found.KeepsRules
  /-- A refusal has faults. -/
  speaks : ∀ faults, outcome = .rejected faults → faults ≠ []
  /-- No fault lies below one that names a broken rule. -/
  shapes : ∀ faults, outcome = .rejected faults → ∀ fault ∈ faults, ∀ rule,
    fault.complaint = .shape rule → ∀ other ∈ faults, ¬other.LiesBelow fault

/-- A value that stands alone is accepted as a type reference exactly if it describes one that is
not too deep. -/
theorem readAsDescribed_readPlain (value : Json) :
    ReadAsDescribed value (TypeRef.readAlone.readPlain value) := by
  have hwell : ∀ type, TypeRef.readAlone.readPlain value = .accepted type → type.WellFormed :=
    yields_readUnder roomAtTop (.plain value) [] (.node [])
  refine ⟨?_, ?_, ?_, ?_, ?_⟩
  · exact accepts_readUnder roomAtTop (List.forall_mem_nil _) [] value (Nat.le_refl 0) rfl
  · exact fun type haccepted found => (hwell type haccepted).keepsRules_of_contains
  · exact fun type haccepted env found hmeets =>
      (hwell type haccepted).keepsRules_of_contains hmeets.contains
  · exact (readsIn_readUnder roomAtTop (.plain value) [] (.node [])).speaks
  · intro faults hrejected
    have hlast := shapesLast_readUnder roomAtTop (.plain value) [] (.node [])
    rw [show readUnder roomAtTop (.plain value) [] (.node []) = .rejected faults from hrejected]
      at hlast
    exact hlast

end TypeRef

end CatalogClient
