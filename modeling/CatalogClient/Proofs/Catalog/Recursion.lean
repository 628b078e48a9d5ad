/-
# Complaints about recursion

The reading of a catalog complains about type references in each other exactly where a walk through
the document meets one of them again, or passes too many. It does so in every part of the document
that is looked at, and nowhere else.
-/

import CatalogClient.Proofs.Catalog.Walks

namespace CatalogClient

open Validated

variable {α β : Type} {document : Document} {room : Nat} {above : List Path}

namespace Document

/-- Parts are read in a role if the complaints about recursion are those that the reading runs into.
-/
def ReadsIn (document : Document) (room : Nat) (above : List Path) (role : Role)
    (read : Place → Validated α) : Prop :=
  ∀ place, Finds (read place) (document.RunsInto room above role place)

/-- The complaints that the reading runs into in the members of an object, which have roles. -/
def MemberRunsInto (document : Document) (room : Nat) (above : List Path) (members : Keyed Place)
    (roles : List (String × Role)) (location : List Step) (complaint : Complaint) : Prop :=
  ∃ entry ∈ roles, ∃ place rest, members.get? entry.1 = some place ∧
    location = .key entry.1 :: rest ∧ document.RunsInto room above entry.2 place rest complaint

theorem memberRunsInto_append {members : Keyed Place} {roles more : List (String × Role)}
    {location : List Step} {complaint : Complaint} :
    document.MemberRunsInto room above members (roles ++ more) location complaint ↔
      document.MemberRunsInto room above members roles location complaint ∨
        document.MemberRunsInto room above members more location complaint := by
  simp only [MemberRunsInto, List.mem_append, or_and_right, exists_or]

variable {role inner : Role} {place : Place} {location : List Step} {complaint : Complaint}

/-- Outside of type references the reading runs into what it runs into in a part. -/
theorem runsInto_of_outside (houtside : role ≠ .type) :
    document.RunsInto room above role place location complaint ↔
      ∃ step inner part rest, location = step :: rest ∧
        document.Follows role place step inner part ∧
        document.RunsInto room above inner part rest complaint := by
  constructor
  · rintro (_ | _ | ⟨-, hfollows, hrest⟩ | _)
    · exact absurd rfl houtside
    · exact absurd rfl houtside
    · exact ⟨_, _, _, _, rfl, hfollows, hrest⟩
    · exact absurd rfl houtside
  · rintro ⟨step, inner, part, rest, rfl, hfollows, hrest⟩
    exact .part houtside hfollows hrest

/-- Only lists and objects have parts. -/
theorem not_runsInto_of_leaf (harray : ∀ items, document.view place ≠ .array items)
    (hobject : ∀ members, document.view place ≠ .object members) :
    ¬document.RunsInto room above role place location complaint := by
  have hnone : ∀ {role step inner part}, ¬document.Follows role place step inner part := by
    rintro _ _ _ _ (⟨-, view, -⟩ | ⟨-, view, -⟩ | ⟨-, view, -, -⟩)
    · exact harray _ view
    · exact hobject _ view
    · exact hobject _ view
  rintro (⟨⟨_, view⟩, -⟩ | ⟨⟨_, view⟩, -, -⟩ | ⟨-, follows, -⟩ | ⟨follows, -, -, -⟩)
  · exact hobject _ view
  · exact hobject _ view
  · exact hnone follows
  · exact hnone follows

theorem not_runsInto_scalar : ¬document.RunsInto room above .scalar place location complaint := by
  rw [runsInto_of_outside (by decide)]
  rintro ⟨step, inner, part, rest, -, hfollows, -⟩
  exact hfollows.seen

/-- In a list whose items are looked at, the reading runs into what it runs into in one of them. -/
theorem runsInto_items (houtside : role ≠ .type) (hlook : role.look = .items inner)
    {items : List Place} (hview : document.view place = .array items) :
    document.RunsInto room above role place location complaint ↔
      ∃ entry ∈ items.zipIdx, ∃ rest, location = .index entry.2 :: rest ∧
        document.RunsInto room above inner entry.1 rest complaint := by
  rw [runsInto_of_outside houtside]
  constructor
  · rintro ⟨step, inner, part, rest, rfl,
      ⟨look, view, found⟩ | ⟨look, -, -⟩ | ⟨look, -, -, -⟩, hrest⟩
    · obtain rfl := Look.items.inj (hlook.symm.trans look)
      obtain rfl := View.array.inj (hview.symm.trans view)
      exact ⟨(part, _), List.mem_zipIdx_iff_getElem?.mpr found, rest, rfl, hrest⟩
    · exact Look.noConfusion (hlook.symm.trans look)
    · exact Look.noConfusion (hlook.symm.trans look)
  · rintro ⟨entry, hmem, rest, rfl, hrest⟩
    exact ⟨_, _, _, rest, rfl, .item hlook hview (List.mem_zipIdx_iff_getElem?.mp hmem), hrest⟩

theorem runsInto_values (houtside : role ≠ .type) (hlook : role.look = .values inner)
    {members : List (String × Place)} (hview : document.view place = .object members) :
    document.RunsInto room above role place location complaint ↔
      ∃ member ∈ members, ∃ rest, location = .key member.1 :: rest ∧
        document.RunsInto room above inner member.2 rest complaint := by
  rw [runsInto_of_outside houtside]
  constructor
  · rintro ⟨step, inner, part, rest, rfl,
      ⟨look, -, -⟩ | ⟨look, view, found⟩ | ⟨look, -, -, -⟩, hrest⟩
    · exact Look.noConfusion (hlook.symm.trans look)
    · obtain rfl := Look.values.inj (hlook.symm.trans look)
      obtain rfl := View.object.inj (hview.symm.trans view)
      exact ⟨_, found, rest, rfl, hrest⟩
    · exact Look.noConfusion (hlook.symm.trans look)
  · rintro ⟨member, hmem, rest, rfl, hrest⟩
    exact ⟨_, _, _, rest, rfl, .value hlook hview hmem, hrest⟩

theorem follows_members {roles : List (String × Role)} (hlook : role.look = .members roles)
    {members : List (String × Place)} (hview : document.view place = .object members) {step : Step}
    {part : Place} :
    document.Follows role place step inner part ↔
      ∃ entry ∈ roles, Keyed.get? members entry.1 = some part ∧ step = .key entry.1 ∧
        inner = entry.2 := by
  constructor
  · rintro (⟨look, -, -⟩ | ⟨look, -, -⟩ | ⟨look, view, listed, found⟩)
    · exact Look.noConfusion (hlook.symm.trans look)
    · exact Look.noConfusion (hlook.symm.trans look)
    · obtain rfl := Look.members.inj (hlook.symm.trans look)
      obtain rfl := View.object.inj (hview.symm.trans view)
      exact ⟨_, listed, found, rfl, rfl⟩
  · rintro ⟨entry, hlisted, hfound, rfl, rfl⟩
    exact .member hlook hview hlisted hfound

/-- In an object with members that are looked at, the reading runs into what it runs into in one of
them. -/
theorem runsInto_members (houtside : role ≠ .type) {roles : List (String × Role)}
    (hlook : role.look = .members roles) {members : List (String × Place)}
    (hview : document.view place = .object members) :
    document.RunsInto room above role place location complaint ↔
      document.MemberRunsInto room above members roles location complaint := by
  rw [runsInto_of_outside houtside]
  constructor
  · rintro ⟨step, inner, part, rest, rfl, hfollows, hrest⟩
    obtain ⟨entry, hlisted, hfound, rfl, rfl⟩ := (follows_members hlook hview).mp hfollows
    exact ⟨entry, hlisted, part, rest, hfound, rfl, hrest⟩
  · rintro ⟨entry, hlisted, part, rest, hfound, rfl, hrest⟩
    exact ⟨_, _, part, rest, rfl, .member hlook hview hlisted hfound, hrest⟩

/-- In a type reference that is neither met again nor inside too many others, the reading runs into
what it runs into in its members, inside one more type reference. -/
theorem runsInto_type {path : Path} {members : List (String × Place)}
    (hview : document.view (.node path) = .object members) (hfresh : path ∉ above)
    (hfree : above.length < room) {roles : List (String × Role)}
    (hlook : Role.type.look = .members roles) :
    document.RunsInto room above .type (.node path) location complaint ↔
      document.MemberRunsInto room (path :: above) members roles location complaint := by
  constructor
  · rintro (⟨-, met⟩ | ⟨-, -, full⟩ | ⟨outside, -, -⟩ | ⟨follows, -, -, rest⟩)
    · exact absurd met hfresh
    · exact absurd hfree (Nat.not_lt_of_le full)
    · exact absurd rfl outside
    · obtain ⟨entry, hlisted, hfound, rfl, rfl⟩ := (follows_members hlook hview).mp follows
      exact ⟨entry, hlisted, _, _, hfound, rfl, rest⟩
  · rintro ⟨entry, hlisted, part, rest, hfound, rfl, hrest⟩
    exact .inside (.member hlook hview hlisted hfound) hfresh hfree hrest

end Document

open Document

namespace Reader

theorem finds_text (place : Place) :
    Finds (text document place) fun _ _ => False := by
  unfold text
  split
  · exact .accepted _
  · exact .complain_other rfl

theorem finds_choice (all : List α) (label : α → String) (place : Place) :
    Finds (choice all label document place) fun _ _ => False := by
  have hrefused : Finds (.complain (.notChoice (all.map label)) : Validated α)
      fun _ _ => False := .complain_other rfl
  unfold choice
  cases document.view place with
  | string word =>
      simp only
      cases all.find? fun value => label value = word with
      | none => exact hrefused
      | some value => exact .accepted value
  | null | bool _ | number _ | array _ | object _ => exact hrefused

theorem finds_truth (place : Place) :
    Finds (truth document place) fun _ _ => False := by
  unfold truth
  cases document.view place with
  | bool value => exact .accepted value
  | number value =>
      simp only
      cases value.truth with
      | value truth => exact .accepted truth
      | otherWhole | notWhole => exact .complain_other rfl
  | string word =>
      simp only
      cases truthWords.lookup (String.ofList (word.toList.map Char.toLower)) with
      | some truth => exact .accepted truth
      | none => exact .complain_other rfl
  | null | array _ | object _ => exact .complain_other rfl

theorem readsIn_scalar {read : Place → Validated α}
    (h : ∀ place, Finds (read place) fun _ _ => False) :
    document.ReadsIn room above .scalar read :=
  fun place => (h place).congr fun _ _ _ => iff_of_false id not_runsInto_scalar

theorem readsIn_text : document.ReadsIn room above .scalar (text document) :=
  readsIn_scalar finds_text

theorem readsIn_choice (all : List α) (label : α → String) :
    document.ReadsIn room above .scalar (choice all label document) :=
  readsIn_scalar (finds_choice all label)

theorem readsIn_truth : document.ReadsIn room above .scalar (truth document) :=
  readsIn_scalar finds_truth

variable {role inner : Role} {read : Reader α}

theorem readsIn_optional (h : document.ReadsIn room above role (read document)) :
    document.ReadsIn room above role (read.optional document) := by
  intro place
  unfold optional
  split
  · next hview =>
      refine (Finds.accepted none).congr fun _ _ _ => iff_of_false id ?_
      exact not_runsInto_of_leaf (by rw [hview]; nofun) (by rw [hview]; nofun)
  · exact (h place).map some

theorem readsIn_list (h : document.ReadsIn room above inner (read document))
    (houtside : role ≠ .type) (hlook : role.look = .items inner) {otherwise : Complaint}
    (hother : otherwise.isRecursive = false) :
    document.ReadsIn room above role (read.list otherwise document) := by
  intro place
  unfold list
  split
  · next places hview =>
      refine (Finds.all fun entry _ => (h entry.1).under (.index entry.2)).congr ?_
      exact fun _ _ _ => (runsInto_items houtside hlook hview).symm
  · next harray =>
      refine (Finds.complain_other hother).congr fun _ _ _ => iff_of_false id ?_
      rw [runsInto_of_outside houtside]
      rintro ⟨step, part, place, rest, -, hfollows, -⟩
      have hseen := hfollows.seen
      rw [hlook] at hseen
      exact harray _ hseen.choose_spec

theorem readsIn_dictionary (h : document.ReadsIn room above inner (read document))
    (houtside : role ≠ .type) (hlook : role.look = .values inner) :
    document.ReadsIn room above role (read.dictionary document) := by
  intro place
  unfold dictionary
  split
  · next members hview =>
      refine (Finds.all fun member _ =>
        ((h member.2).map fun value => (member.1, value)).under (.key member.1)).congr ?_
      exact fun _ _ _ => (runsInto_values houtside hlook hview).symm
  · next hobject =>
      refine (Finds.complain_other rfl).congr fun _ _ _ => iff_of_false id ?_
      rw [runsInto_of_outside houtside]
      rintro ⟨step, part, place, rest, -, hfollows, -⟩
      have hseen := hfollows.seen
      rw [hlook] at hseen
      exact hobject _ hseen.choose_spec

theorem readsIn_model {name : String} {fields : Document → Keyed Place → Validated α}
    {roles : List (String × Role)} (houtside : role ≠ .type) (hlook : role.look = .members roles)
    (h : ∀ members, Finds (fields document members)
      (document.MemberRunsInto room above members roles)) :
    document.ReadsIn room above role (model name fields document) := by
  intro place
  unfold model
  split
  · next members hview =>
      exact (h members).congr fun _ _ _ => (runsInto_members houtside hlook hview).symm
  · next hobject =>
      refine (Finds.complain_other rfl).congr fun _ _ _ => iff_of_false id ?_
      rw [runsInto_of_outside houtside]
      rintro ⟨step, part, place, rest, -, hfollows, -⟩
      have hseen := hfollows.seen
      rw [hlook] at hseen
      exact hobject _ hseen.choose_spec

end Reader

namespace Keyed

variable {members : Keyed Place} {role : Role} {read : Place → Validated α}

theorem finds_required (h : document.ReadsIn room above role read) (name : String) :
    Finds (members.required name read)
      (document.MemberRunsInto room above members [(name, role)]) := by
  unfold required
  cases hplace : members.get? name with
  | none =>
      refine ((Finds.complain_other rfl).under (.key name)).congr fun _ _ _ => ?_
      simp [MemberRunsInto, hplace]
  | some place =>
      refine ((h place).under (.key name)).congr fun _ _ _ => ?_
      simp [MemberRunsInto, hplace]

theorem finds_withDefault (h : document.ReadsIn room above role read) (name : String)
    (default : α) :
    Finds (members.withDefault name default read)
      (document.MemberRunsInto room above members [(name, role)]) := by
  unfold withDefault
  cases hplace : members.get? name with
  | none =>
      refine (Finds.accepted default).congr fun _ _ _ => ?_
      simp [MemberRunsInto, hplace]
  | some place =>
      refine ((h place).under (.key name)).congr fun _ _ _ => ?_
      simp [MemberRunsInto, hplace]

/-- One more member. -/
theorem finds_seq {first : Validated (α → β)} {second : Validated α}
    {roles more : List (String × Role)}
    (hfirst : Finds first (document.MemberRunsInto room above members roles))
    (hsecond : Finds second (document.MemberRunsInto room above members more)) :
    Finds (first <*> second)
      (document.MemberRunsInto room above members (roles ++ more)) :=
  (hfirst.seq hsecond).congr fun _ _ _ => memberRunsInto_append.symm

end Keyed

open Reader Keyed

namespace TypeRef

/-- The members of a type reference, when there is a way to read the references in it. -/
theorem finds_ofFields {inner : Place → Validated TypeRef} {fields : Keyed Place}
    (h : document.ReadsIn room above .type inner) :
    Finds (ofFields document inner fields)
      (document.MemberRunsInto room above fields [("kind", .scalar), ("name", .scalar),
        ("namespace", .scalar), ("component", .type), ("raw_kind", .scalar), ("raw", .type),
        ("arguments", .types), ("bounds", .types)]) := by
  have hoption : document.ReadsIn room above .type (Reader.optional (fun _ => inner) document) :=
    readsIn_optional h
  have hlist : document.ReadsIn room above .types
      (Reader.list (fun _ => inner) .notTuple document) :=
    readsIn_list h (by decide) rfl rfl
  have hchecked : ∀ type complaint,
      (TypeRef.brokenRule? type).map Complaint.shape = some complaint →
        complaint.isRecursive = false := by
    intro type complaint hcomplaint
    obtain ⟨rule, -, rfl⟩ := Option.map_eq_some_iff.mp hcomplaint
    rfl
  refine Finds.check ?_ hchecked
  exact finds_seq (finds_seq (finds_seq (finds_seq (finds_seq (finds_seq
    (finds_seq ((finds_withDefault (readsIn_choice _ _) "kind" _).map TypeRef.mk)
      (finds_withDefault (readsIn_optional readsIn_text) "name" none))
      (finds_withDefault (readsIn_optional readsIn_text) "namespace" none))
      (finds_withDefault hoption "component" none))
      (finds_withDefault (readsIn_optional (readsIn_choice _ _)) "raw_kind" none))
      (finds_withDefault hoption "raw" none)) (finds_withDefault hlist "arguments" []))
      (finds_withDefault hlist "bounds" [])

/-- A type reference is read with the complaints that the reading runs into. Inside more and more
type references there is less and less room, which the induction is on. -/
theorem readsIn_readUnder (room : Nat) (document : Document) (above : List Path) :
    document.ReadsIn room above .type (readUnder room document above) := by
  induction hleft : room - above.length using Nat.strongRecOn generalizing above with
  | ind left ih =>
      intro place
      by_cases hview : ∃ fields, document.view place = .object fields
      · obtain ⟨fields, hview⟩ := hview
        obtain ⟨path, rfl, hread⟩ := readUnder_of_object room above hview
        rw [hread]
        split
        · next hmet =>
            refine (Finds.complain .cycle).congr fun location complaint _ => ⟨?_, ?_⟩
            · rintro ⟨rfl, rfl⟩
              exact .cycle ⟨fields, hview⟩ hmet
            · rintro (_ | ⟨-, fresh, -⟩ | ⟨outside, -, -⟩ | ⟨-, fresh, -, -⟩)
              · exact ⟨rfl, rfl⟩
              · exact absurd hmet fresh
              · exact absurd rfl outside
              · exact absurd hmet fresh
        · next hfresh =>
            split
            · next hfull =>
                refine (Finds.complain .deep).congr fun location complaint _ => ⟨?_, ?_⟩
                · rintro ⟨rfl, rfl⟩
                  exact .deep ⟨fields, hview⟩ hfresh hfull
                · rintro (⟨-, met⟩ | _ | ⟨outside, -, -⟩ | ⟨-, -, free, -⟩)
                  · exact absurd met hfresh
                  · exact ⟨rfl, rfl⟩
                  · exact absurd rfl outside
                  · exact absurd free (Nat.not_lt_of_le hfull)
            · next hfree =>
                have hfree := Nat.lt_of_not_le hfree
                have hinner := ih (room - (path :: above).length)
                  (by rw [List.length_cons]; omega) (path :: above) rfl
                exact (finds_ofFields hinner).congr fun _ _ _ =>
                  (runsInto_type hview hfresh hfree rfl).symm
      · have hobject : ∀ fields, document.view place ≠ .object fields :=
          fun fields hfields => hview ⟨fields, hfields⟩
        rw [readUnder_of_not_object hobject]
        refine (Finds.complain_other rfl).congr fun _ _ _ => iff_of_false id ?_
        rintro (⟨⟨_, view⟩, -⟩ | ⟨⟨_, view⟩, -, -⟩ | ⟨outside, -, -⟩ | ⟨follows, -, -, -⟩)
        · exact hobject _ view
        · exact hobject _ view
        · exact outside rfl
        · exact hobject _ follows.hasObject.choose_spec

theorem readsIn_read : document.ReadsIn roomInside [] .type (read document) :=
  readsIn_readUnder roomInside document []

end TypeRef

theorem Field.readsIn_read : document.ReadsIn roomInside [] .field (Field.read document) :=
  readsIn_model (by decide) rfl fun _ =>
    finds_seq (finds_seq ((finds_required readsIn_text "name").map Field.mk)
      (finds_required TypeRef.readsIn_read "type")) (finds_withDefault readsIn_truth "ignored" _)

theorem Declaration.readsIn_read :
    document.ReadsIn roomInside [] .declaration (Declaration.read document) := by
  have htexts : document.ReadsIn roomInside [] .texts (text.list .notList document) :=
    readsIn_list readsIn_text (by decide) rfl rfl
  have hfields : document.ReadsIn roomInside [] .fields (Field.read.list .notList document) :=
    readsIn_list Field.readsIn_read (by decide) rfl rfl
  refine readsIn_model (by decide) rfl fun _ => ?_
  exact finds_seq (finds_seq (finds_seq (finds_seq (finds_seq
    ((finds_required readsIn_text "name").map Declaration.mk)
    (finds_withDefault (readsIn_optional readsIn_text) "namespace" none))
    (finds_withDefault (readsIn_choice _ _) "kind" _))
    (finds_withDefault htexts "type_parameters" []))
    (finds_withDefault hfields "fields" [])) (finds_withDefault htexts "constants" [])

theorem Parameter.readsIn_read :
    document.ReadsIn roomInside [] .parameter (Parameter.read document) :=
  readsIn_model (by decide) rfl fun _ =>
    finds_seq (finds_seq (finds_seq (finds_seq
      ((finds_required readsIn_text "name").map Parameter.mk)
      (finds_withDefault TypeRef.readsIn_read "type" _))
      (finds_withDefault (readsIn_choice _ _) "source" _))
      (finds_withDefault (readsIn_optional readsIn_text) "binding_value" none))
      (finds_withDefault (readsIn_optional readsIn_text) "binding_name" none)

theorem Operation.readsIn_read :
    document.ReadsIn roomInside [] .operation (Operation.read document) := by
  have hparameters : document.ReadsIn roomInside [] .parameters
      (Parameter.read.list .notList document) :=
    readsIn_list Parameter.readsIn_read (by decide) rfl rfl
  refine readsIn_model (by decide) rfl fun _ => ?_
  exact finds_seq (finds_seq (finds_seq (finds_seq
    ((finds_withDefault (readsIn_optional readsIn_text) "method" none).map Operation.mk)
    (finds_required readsIn_text "url")) (finds_required readsIn_text "function_name"))
    (finds_withDefault hparameters "parameters" []))
    (finds_withDefault TypeRef.readsIn_read "return_type" _)

/-- A catalog is read with the complaints about recursion that the reading runs into. -/
theorem Catalog.readsIn_read :
    document.ReadsIn roomInside [] .catalog (Catalog.read document) := by
  have hoperations : document.ReadsIn roomInside [] .operations
      (Operation.read.dictionary document) :=
    readsIn_dictionary Operation.readsIn_read (by decide) rfl
  have hdeclarations : document.ReadsIn roomInside [] .declarations
      (Declaration.read.dictionary document) :=
    readsIn_dictionary Declaration.readsIn_read (by decide) rfl
  refine readsIn_model (by decide) rfl fun _ => ?_
  exact finds_seq ((finds_withDefault hoperations "operations" []).map Catalog.mk)
    (finds_withDefault hdeclarations "declarations" [])

end CatalogClient
