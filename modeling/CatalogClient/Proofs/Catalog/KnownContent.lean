/-
# Only what is known counts

The models of a catalog are read from the members that they know, in whatever order these stand and
whatever stands beside them. So two documents without references that differ in nothing else are
read as the same catalog, or refused for the same faults. But references are looked for in what is
not known, too, so a machine may not reach to the end of a document for the sake of a part that has
no use.
-/

import CatalogClient.Proofs.Catalog.Correspondence
import CatalogClient.Proofs.Catalog.Cycles
import CatalogClient.Proofs.Catalog.Tables
import CatalogClient.Proofs.Validation.Acceptance

namespace CatalogClient

open Document

/-- Two values have the same content in a role. They are the same, or they are made of the same
known parts: lists have the same number of items, tables have the same keys in the same order, and
models have the same fields, in any order and beside any others. -/
inductive Json.SameContent : Role → Json → Json → Prop
  | same {role : Role} {value : Json} : SameContent role value value
  | items {role inner : Role} {items items' : List Json} (look : role.look = .items inner)
      (length : items.length = items'.length)
      (each : ∀ position (h : position < items.length) (h' : position < items'.length),
        SameContent inner items[position] items'[position]) :
      SameContent role (.array items) (.array items')
  | values {role inner : Role} {members members' : List (String × Json)}
      (look : role.look = .values inner)
      (keys : members.map Prod.fst = members'.map Prod.fst)
      (each : ∀ position (h : position < members.length) (h' : position < members'.length),
        SameContent inner members[position].2 members'[position].2) :
      SameContent role (.object members) (.object members')
  | members {role : Role} {roles : List (String × Role)} {members members' : List (String × Json)}
      (look : role.look = .members roles)
      (present : ∀ entry ∈ roles,
        (members.lookup entry.1).isSome = (members'.lookup entry.1).isSome)
      (each : ∀ entry ∈ roles, ∀ value ∈ members.lookup entry.1,
        ∀ value' ∈ members'.lookup entry.1, SameContent entry.2 value value') :
      SameContent role (.object members) (.object members')

namespace Json

/-- The order of the members of a model and the unknown ones among them have no part in its
content. -/
theorem SameContent.of_perm {role : Role} {roles : List (String × Role)}
    {members members' : Keyed Json} (known more more' : Keyed Json)
    (hlook : role.look = .members roles)
    (hperm : members.Perm (known ++ more)) (hnodup : (Keyed.keys members).Nodup)
    (hmore : ∀ entry ∈ roles, entry.1 ∉ Keyed.keys more)
    (hperm' : members'.Perm (known ++ more')) (hnodup' : (Keyed.keys members').Nodup)
    (hmore' : ∀ entry ∈ roles, entry.1 ∉ Keyed.keys more') :
    SameContent role (.object members) (.object members') := by
  have hlookup : ∀ {members more : Keyed Json}, members.Perm (known ++ more) →
      (Keyed.keys members).Nodup → (∀ entry ∈ roles, entry.1 ∉ Keyed.keys more) →
      ∀ entry ∈ roles, members.lookup entry.1 = known.lookup entry.1 := by
    intro members more hperm hnodup hmore entry hentry
    have hnone : List.lookup entry.1 more = none := by
      refine List.lookup_eq_none_iff.mpr fun member hmember => bne_iff_ne.mpr fun hsame => ?_
      exact hmore entry hentry (hsame ▸ List.mem_map_of_mem hmember)
    have hsame : members.lookup entry.1 = List.lookup entry.1 (known ++ more) :=
      Keyed.get?_perm hperm hnodup entry.1
    rw [hsame, List.lookup_append, hnone, Option.or_none]
  have hboth : ∀ entry ∈ roles, members.lookup entry.1 = members'.lookup entry.1 :=
    fun entry hentry => (hlookup hperm hnodup hmore entry hentry).trans
      (hlookup hperm' hnodup' hmore' entry hentry).symm
  refine .members hlook (fun entry hentry => by rw [hboth entry hentry]) ?_
  intro entry hentry value hvalue value' hvalue'
  rw [← hboth entry hentry, Option.mem_def.mp hvalue] at hvalue'
  obtain rfl := Option.some.inj hvalue'
  exact .same

/-- Under a name, tables with the same keys have values that stand at the same position. -/
theorem exists_lookup_of_keys {members members' : List (String × Json)} {name : String}
    (hkeys : members.map Prod.fst = members'.map Prod.fst) (hname : name ∈ members.map Prod.fst) :
    ∃ (position : Nat) (h : position < members.length) (h' : position < members'.length),
      members.lookup name = some members[position].2 ∧
        members'.lookup name = some members'[position].2 := by
  induction members generalizing members' with
  | nil => cases hname
  | cons member rest ih =>
      obtain ⟨first, value⟩ := member
      cases members' with
      | nil => cases hkeys
      | cons member' rest' =>
          obtain ⟨first', value'⟩ := member'
          obtain ⟨rfl, hrest⟩ : first = first' ∧ rest.map Prod.fst = rest'.map Prod.fst := by
            simpa using hkeys
          by_cases hsame : name = first
          · exact ⟨0, Nat.zero_lt_succ _, Nat.zero_lt_succ _, by simp [hsame], by simp [hsame]⟩
          · have hmem : name ∈ rest.map Prod.fst := (List.mem_cons.mp hname).resolve_left hsame
            obtain ⟨position, h, h', hleft, hright⟩ := ih hrest hmem
            refine ⟨position + 1, Nat.succ_lt_succ h, Nat.succ_lt_succ h', ?_, ?_⟩
            · simpa [List.lookup_cons, beq_false_of_ne hsame] using hleft
            · simpa [List.lookup_cons, beq_false_of_ne hsame] using hright

end Json

open Json

/-- The same path in two documents, where the values have the same content. -/
inductive SamePlace (value other : Json) : Role → Place → Place → Prop
  | node {role : Role} {path : Path} {part part' : Json} (left : value.at? path = some part)
      (right : other.at? path = some part') (same : part.SameContent role part') :
      SamePlace value other role (.node path) (.node path)

section Parts

variable {value other : Json} {path : Path} {inner : Role}

theorem samePlace_items {items items' : List Json} (hleft : value.at? path = some (.array items))
    (hright : other.at? path = some (.array items')) (hlength : items.length = items'.length)
    (heach : ∀ position (h : position < items.length) (h' : position < items'.length),
      SameContent inner items[position] items'[position]) :
    List.Forall₂ (SamePlace value other inner)
      ((List.range items.length).map fun position =>
        (Document.plain value).follow (path ++ [.index position]))
      ((List.range items'.length).map fun position =>
        (Document.plain other).follow (path ++ [.index position])) := by
  rw [← hlength, List.forall₂_map_left_iff, List.forall₂_map_right_iff, List.forall₂_same]
  intro position hposition
  have h : position < items.length := List.mem_range.mp hposition
  refine .node ?_ ?_ (heach position h (hlength ▸ h))
  · rw [at?_snoc hleft]
    exact List.getElem?_eq_getElem h
  · rw [at?_snoc hright]
    exact List.getElem?_eq_getElem (hlength ▸ h)

theorem samePlace_values {members members' : List (String × Json)}
    (hleft : value.at? path = some (.object members))
    (hright : other.at? path = some (.object members'))
    (hkeys : members.map Prod.fst = members'.map Prod.fst)
    (heach : ∀ position (h : position < members.length) (h' : position < members'.length),
      SameContent inner members[position].2 members'[position].2) :
    List.Forall₂ (fun member member' => member.1 = member'.1 ∧
        SamePlace value other inner member.2 member'.2)
      ((Document.plain value).membersAt path members)
      ((Document.plain other).membersAt path members') := by
  have hmembers : ∀ (root : Json) (members : List (String × Json)),
      (Document.plain root).membersAt path members = (members.map Prod.fst).map fun name =>
        (name, (Document.plain root).follow (path ++ [.key name])) := fun root members => by
    rw [List.map_map]
    rfl
  rw [hmembers, hmembers, ← hkeys, List.forall₂_map_left_iff, List.forall₂_map_right_iff,
    List.forall₂_same]
  intro name hname
  obtain ⟨position, h, h', hlookup, hlookup'⟩ := exists_lookup_of_keys hkeys hname
  refine ⟨rfl, .node ?_ ?_ (heach position h h')⟩
  · rw [at?_snoc hleft]
    exact hlookup
  · rw [at?_snoc hright]
    exact hlookup'

theorem samePlace_members {members members' : List (String × Json)} {name : String}
    (hleft : value.at? path = some (.object members))
    (hright : other.at? path = some (.object members'))
    (hpresent : (members.lookup name).isSome = (members'.lookup name).isSome)
    (heach : ∀ part ∈ members.lookup name, ∀ part' ∈ members'.lookup name,
      SameContent inner part part') :
    Option.Rel (SamePlace value other inner)
      (Keyed.get? ((Document.plain value).membersAt path members) name)
      (Keyed.get? ((Document.plain other).membersAt path members') name) := by
  unfold Keyed.get? Document.membersAt
  rw [lookup_map members fun name => (Document.plain value).follow (path ++ [Step.key name]),
    lookup_map members' fun name => (Document.plain other).follow (path ++ [Step.key name])]
  cases hlookup : members.lookup name <;> cases hlookup' : members'.lookup name <;>
    rw [hlookup, hlookup'] at hpresent heach
  case none.none => exact .none
  case some.some part part' =>
    refine .some (.node ?_ ?_ (heach part rfl part' rfl))
    · rw [at?_snoc hleft]
      exact hlookup
    · rw [at?_snoc hright]
      exact hlookup'
  all_goals cases hpresent

/-- The same value is seen alike. -/
theorem alike_same {role : Role} {part : Json} (hleft : value.at? path = some part)
    (hright : other.at? path = some part) :
    role.Alike (SamePlace value other) ((Document.plain value).viewOf path part)
      ((Document.plain other).viewOf path part) := by
  cases part with
  | null => exact True.intro
  | bool _ | number _ | string _ => exact rfl
  | array items =>
      simp only [viewOf, Role.Alike]
      cases role.look with
      | items inner => exact samePlace_items hleft hright rfl fun _ _ _ => .same
      | alone | values _ | members _ => exact True.intro
  | object members =>
      simp only [viewOf, Role.Alike]
      cases role.look with
      | values inner => exact samePlace_values hleft hright rfl fun _ _ _ => .same
      | members roles =>
          intro entry _
          refine samePlace_members hleft hright rfl fun part hpart part' hpart' => ?_
          obtain rfl := Option.mem_unique hpart hpart'
          exact .same
      | alone | items _ => exact True.intro

end Parts

/-- What is seen at the same path is alike if the values there have the same content. -/
theorem corresponds_of_samePlace (value other : Json) :
    (Document.plain value).Corresponds (.plain other) (SamePlace value other) := by
  constructor
  · rintro role _ _ ⟨left, right, same⟩
    rw [view_plain left, view_plain right]
    cases same with
    | same => exact alike_same left right
    | items look length each =>
        simp only [viewOf, Role.Alike, look]
        exact samePlace_items left right length each
    | values look keys each =>
        simp only [viewOf, Role.Alike, look]
        exact samePlace_values left right keys each
    | members look present each =>
        simp only [viewOf, Role.Alike, look]
        exact fun entry hentry =>
          samePlace_members left right (present entry hentry) (each entry hentry)
  · rintro _ _ _ _ ⟨-, -, -⟩ ⟨-, -, -⟩
    exact Iff.rfl

namespace Catalog

/-- Documents with the same content are read alike. -/
theorem readPlain_eq_of_sameContent {value other : Json} (h : value.SameContent .catalog other) :
    Catalog.read.readPlain value = Catalog.read.readPlain other :=
  Catalog.readsSame_read (corresponds_of_samePlace value other) _ _ (.node rfl rfl h)

/-- Two documents without references and with the same content are the same catalog, or they are
refused for the same faults in the same order, if the machine reaches to the deepest part of both.
It has to do so for parts that nobody looks at, too. Where it does not, a document has no end,
whatever it holds. -/
theorem ofJson_eq_of_sameContent {value other : Json} (h : value.SameContent .catalog other)
    (hvalue : value.references = []) (hother : other.references = [])
    (resolver resolver' : Resolver) :
    (resolver.machine.Reaches value.depth → resolver'.machine.Reaches other.depth →
        Catalog.ofJson value resolver = Catalog.ofJson other resolver') ∧
      (¬resolver.machine.Reaches value.depth →
        Catalog.ofJson value resolver = .error (.unresolved .endless)) ∧
      (¬resolver'.machine.Reaches other.depth →
        Catalog.ofJson other resolver' = .error (.unresolved .endless)) ∧
      (Catalog.ofJson value resolver = Catalog.ofJson other resolver' ↔
        (resolver.machine.Reaches value.depth ↔ resolver'.machine.Reaches other.depth)) := by
  have htree : ofTree value = ofTree other := by
    rw [ofTree, readPlain_eq_of_sameContent h, ofTree]
  rw [ofJson_of_references hvalue, ofJson_of_references hother]
  refine ⟨fun hreach hreach' => ?_, fun hdeep => if_neg hdeep, fun hdeep => if_neg hdeep, ?_⟩
  · rw [if_pos hreach, if_pos hreach', htree]
  · by_cases hreach : resolver.machine.Reaches value.depth <;>
      by_cases hreach' : resolver'.machine.Reaches other.depth <;>
      simp [hreach, hreach', htree, ofTree_ne_unresolved, (ofTree_ne_unresolved _ _).symm]

end Catalog

namespace Sample

/-- An operation. -/
def plainPing : Json :=
  .object [("operations", .object [("ping", .object [
    ("url", .string "/ping"), ("function_name", .string "ping")])])]

/-- The same operation with its members in another order, and notes beside them and beside it. -/
def markedPing : Json :=
  .object [("title", .string "Server"), ("operations", .object [("ping", .object [
    ("notes", .array []), ("function_name", .string "ping"), ("url", .string "/ping")])])]

theorem sameContent_ping : plainPing.SameContent .catalog markedPing := by
  have hping : SameContent .operation
      (.object [("url", .string "/ping"), ("function_name", .string "ping")])
      (.object [("notes", .array []), ("function_name", .string "ping"),
        ("url", .string "/ping")]) := by
    let known : Keyed Json := [("url", .string "/ping"), ("function_name", .string "ping")]
    let unknown : Keyed Json := [("notes", .array [])]
    exact .of_perm known [] unknown rfl (List.Perm.refl known) (by decide) (by decide)
      (List.reverse_perm (known ++ unknown)) (by decide) (by decide)
  have hoperations : SameContent .operations
      (.object [("ping", .object [("url", .string "/ping"), ("function_name", .string "ping")])])
      (.object [("ping", .object [("notes", .array []), ("function_name", .string "ping"),
        ("url", .string "/ping")])]) := by
    refine .values rfl rfl fun position h _ => ?_
    obtain rfl : position = 0 := Nat.lt_one_iff.mp h
    exact hping
  refine .members rfl (by decide) fun entry hentry value hvalue value' hvalue' => ?_
  obtain rfl | rfl : entry = ("operations", .operations) ∨
      entry = ("declarations", .declarations) := by
    simpa using hentry
  · obtain rfl := Option.some.inj hvalue
    obtain rfl := Option.some.inj hvalue'
    exact hoperations
  · cases hvalue

end Sample

namespace Catalog

theorem ofJson_eq_of_sameContent_sample :
    Sample.plainPing.SameContent .catalog Sample.markedPing ∧
      Sample.plainPing.references = [] ∧ Sample.markedPing.references = [] ∧
      Catalog.ofJson Sample.plainPing {} = Catalog.ofJson Sample.markedPing {} := by
  have hvalue : Sample.plainPing.references = [] := by decide +kernel
  have hother : Sample.markedPing.references = [] := by decide +kernel
  obtain ⟨hsame, -⟩ := ofJson_eq_of_sameContent Sample.sameContent_ping hvalue hother {} {}
  exact ⟨Sample.sameContent_ping, hvalue, hother, hsame (by decide) (by decide)⟩

end Catalog

namespace Sample

/-- A catalog with nothing in it but a note that no model knows. -/
def remarked (count : Nat) : Json :=
  .object [("notes", nest count .null)]

/-- However far down a machine reaches, an unknown member is enough for a document to be too deep
for it. -/
theorem ofJson_remarked (resolver : Resolver) :
    (Json.object []).SameContent .catalog (remarked resolver.machine.depth) ∧
      (Json.object []).references = [] ∧ (remarked resolver.machine.depth).references = [] ∧
      Catalog.ofJson (.object []) resolver = .ok ⟨[], []⟩ ∧
      Catalog.ofJson (remarked resolver.machine.depth) resolver =
        .error (.unresolved .endless) := by
  have hnone : (remarked resolver.machine.depth).references = [] := by
    show [] ++ ((nest resolver.machine.depth .null).references ++ []) = []
    rw [references_nest]
    rfl
  have hdepth : (remarked resolver.machine.depth).depth = resolver.machine.depth + 1 := by
    show max ((nest resolver.machine.depth .null).depth + 1) 0 = _
    rw [depth_nest, Nat.max_eq_left (Nat.zero_le _)]
    show 0 + _ + 1 = _
    rw [Nat.zero_add]
  have hreach : resolver.machine.Reaches (Json.object []).depth := ⟨Nat.zero_le _, Nat.zero_le _⟩
  refine ⟨?_, rfl, hnone, ?_, ?_⟩
  · exact .of_perm [] [] [("notes", nest resolver.machine.depth .null)] rfl (List.Perm.refl _)
      (by decide) (by decide) (List.Perm.refl _) (by decide : ["notes"].Nodup)
      (by decide : ∀ entry ∈ [("operations", Role.operations), ("declarations", .declarations)],
        entry.1 ∉ ["notes"])
  · rw [Catalog.ofJson_of_references rfl, if_pos hreach]
    rfl
  · rw [Catalog.ofJson_of_references hnone, hdepth,
      if_neg fun hdeep => Nat.not_succ_le_self _ hdeep.1]

end Sample

end CatalogClient
