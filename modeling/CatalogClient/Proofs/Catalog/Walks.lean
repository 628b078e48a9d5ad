/-
# Walks through a catalog document

Each part of a catalog document is read in a role, which decides which of its own parts are looked
at and in which roles. So the reading of a catalog is a walk along some of the edges of a graph,
which may lead in circles. Two complaints are about such walks: a type reference is met again inside
itself, or it stands inside too many others.
-/

import CatalogClient.Proofs.Catalog.Transparency
import CatalogClient.Proofs.Validation.Faults

namespace CatalogClient

/-- What a part of a catalog document is read as. -/
inductive Role
  | catalog
  | operations
  | operation
  | parameters
  | parameter
  | declarations
  | declaration
  | fields
  | field
  | type
  | types
  | texts
  | scalar
  deriving DecidableEq

/-- Which parts of a value are looked at: none, the items of a list, all values of an object, or
those under some keys. -/
inductive Look
  | alone
  | items (role : Role)
  | values (role : Role)
  | members (roles : List (String × Role))

/-- Which parts are looked at in a role. -/
def Role.look : Role → Look
  | .catalog => .members [("operations", .operations), ("declarations", .declarations)]
  | .operations => .values .operation
  | .operation =>
      .members [("method", .scalar), ("url", .scalar), ("function_name", .scalar),
        ("parameters", .parameters), ("return_type", .type)]
  | .parameters => .items .parameter
  | .parameter =>
      .members [("name", .scalar), ("type", .type), ("source", .scalar),
        ("binding_value", .scalar), ("binding_name", .scalar)]
  | .declarations => .values .declaration
  | .declaration =>
      .members [("name", .scalar), ("namespace", .scalar), ("kind", .scalar),
        ("type_parameters", .texts), ("fields", .fields), ("constants", .texts)]
  | .fields => .items .field
  | .field => .members [("name", .scalar), ("type", .type), ("ignored", .scalar)]
  | .type =>
      .members [("kind", .scalar), ("name", .scalar), ("namespace", .scalar), ("component", .type),
        ("raw_kind", .scalar), ("raw", .type), ("arguments", .types), ("bounds", .types)]
  | .types => .items .type
  | .texts => .items .scalar
  | .scalar => .alone

namespace Document

variable {document : Document} {room : Nat}

/-- A step to a part that is looked at. -/
inductive Follows (document : Document) : Role → Place → Step → Role → Place → Prop
  | item {role inner : Role} {place part : Place} {items : List Place} {position : Nat}
      (look : role.look = .items inner) (view : document.view place = .array items)
      (found : items[position]? = some part) :
      Follows document role place (.index position) inner part
  | value {role inner : Role} {place : Place} {members : List (String × Place)}
      {member : String × Place} (look : role.look = .values inner)
      (view : document.view place = .object members) (found : member ∈ members) :
      Follows document role place (.key member.1) inner member.2
  | member {role : Role} {place part : Place} {members : Keyed Place}
      {roles : List (String × Role)} {entry : String × Role} (look : role.look = .members roles)
      (view : document.view place = .object members) (listed : entry ∈ roles)
      (found : members.get? entry.1 = some part) :
      Follows document role place (.key entry.1) entry.2 part

/-- Whether an object stands at a path. -/
def HasObject (document : Document) (path : Path) : Prop :=
  ∃ members, document.view (.node path) = .object members

/-- A walk along parts that are looked at. The type references on the way are kept, the last one
first. -/
inductive Walk (document : Document) :
    List Path → Role → Place → List Step → List Path → Role → Place → Prop
  | here {above : List Path} {role : Role} {place : Place} :
      Walk document above role place [] above role place
  | part {above passed : List Path} {role inner last : Role} {place part finish : Place}
      {step : Step} {location : List Step} (outside : role ≠ .type)
      (follows : document.Follows role place step inner part)
      (rest : Walk document above inner part location passed last finish) :
      Walk document above role place (step :: location) passed last finish
  | inside {above passed : List Path} {inner last : Role} {path : Path} {part finish : Place}
      {step : Step} {location : List Step}
      (follows : document.Follows .type (.node path) step inner part)
      (rest : Walk document (path :: above) inner part location passed last finish) :
      Walk document above .type (.node path) (step :: location) passed last finish

/-- The complaints about type references in each other, and where the reading of a document runs
into them. The type references around a place are given. -/
inductive RunsInto (document : Document) (room : Nat) :
    List Path → Role → Place → List Step → Complaint → Prop
  | cycle {above : List Path} {path : Path} (object : document.HasObject path)
      (met : path ∈ above) : RunsInto document room above .type (.node path) [] .cycle
  | deep {above : List Path} {path : Path} (object : document.HasObject path)
      (fresh : path ∉ above) (full : room ≤ above.length) :
      RunsInto document room above .type (.node path) [] .deep
  | part {above : List Path} {role inner : Role} {place part : Place} {step : Step}
      {location : List Step} {complaint : Complaint} (outside : role ≠ .type)
      (follows : document.Follows role place step inner part)
      (rest : RunsInto document room above inner part location complaint) :
      RunsInto document room above role place (step :: location) complaint
  | inside {above : List Path} {inner : Role} {path : Path} {part : Place} {step : Step}
      {location : List Step} {complaint : Complaint}
      (follows : document.Follows .type (.node path) step inner part) (fresh : path ∉ above)
      (free : above.length < room)
      (rest : RunsInto document room (path :: above) inner part location complaint) :
      RunsInto document room above .type (.node path) (step :: location) complaint

/-- A part that is looked at is one of a list or of an object, as the role has it. -/
theorem Follows.seen {role inner : Role} {place part : Place} {step : Step}
    (h : document.Follows role place step inner part) :
    match role.look with
    | .alone => False
    | .items _ => ∃ items, document.view place = .array items
    | .values _ | .members _ => ∃ members, document.view place = .object members := by
  cases h with
  | item look view found =>
      rw [look]
      exact ⟨_, view⟩
  | value look view found =>
      rw [look]
      exact ⟨_, view⟩
  | member look view listed found =>
      rw [look]
      exact ⟨_, view⟩

/-- The value under a key that has a role. -/
theorem Follows.under {role inner : Role} {place part : Place} {members : Keyed Place}
    {roles : List (String × Role)} {name : String} (look : role.look = .members roles)
    (listed : (name, inner) ∈ roles) (view : document.view place = .object members)
    (found : members.get? name = some part) : document.Follows role place (.key name) inner part :=
  .member look view listed found

theorem Follows.mem_roles {role inner : Role} {place part : Place} {name : String}
    (h : document.Follows role place (.key name) inner part) {roles : List (String × Role)}
    (hlook : role.look = .members roles) : (name, inner) ∈ roles := by
  cases h with
  | value look view found => exact Look.noConfusion (hlook.symm.trans look)
  | member look view listed found =>
      obtain rfl := Look.members.inj (hlook.symm.trans look)
      exact listed

theorem Follows.eq_of_values {role inner value : Role} {place part : Place} {step : Step}
    (h : document.Follows role place step inner part) (hlook : role.look = .values value) :
    inner = value := by
  cases h with
  | item look view found => exact Look.noConfusion (hlook.symm.trans look)
  | value look view found => exact (Look.values.inj (hlook.symm.trans look)).symm
  | member look view listed found => exact Look.noConfusion (hlook.symm.trans look)

/-- Only objects have parts as type references. -/
theorem Follows.hasObject {path : Path} {step : Step} {inner : Role} {part : Place}
    (h : document.Follows .type (.node path) step inner part) : document.HasObject path :=
  h.seen

theorem RunsInto.isRecursive {above : List Path} {role : Role} {place : Place}
    {location : List Step} {complaint : Complaint}
    (h : document.RunsInto room above role place location complaint) :
    complaint.isRecursive = true := by
  induction h with
  | cycle object met => rfl
  | deep object fresh full => rfl
  | part outside follows rest ih => exact ih
  | inside follows fresh free rest ih => exact ih

/-- The type references that a walk starts inside are passed. -/
theorem Walk.suffix {above passed : List Path} {role last : Role} {place finish : Place}
    {location : List Step} (h : document.Walk above role place location passed last finish) :
    above <:+ passed := by
  induction h with
  | here => exact List.suffix_rfl
  | part outside follows rest ih => exact ih
  | inside follows rest ih => exact (List.suffix_cons _ _).trans ih

/-- What a walk ends with: a type reference that was passed, or one that is inside too many. -/
def Ends (room : Nat) (passed : List Path) (path : Path) (complaint : Complaint) : Prop :=
  complaint = .cycle ∧ path ∈ passed ∨
    complaint = .deep ∧ path ∉ passed ∧ passed.length = room

/-- The reading runs into a complaint at the end of a walk that passes no type reference twice and
not too many. -/
theorem runsInto_iff {above : List Path} {role : Role} {place : Place} {location : List Step}
    {complaint : Complaint} (hnodup : above.Nodup) (hroom : above.length ≤ room) :
    document.RunsInto room above role place location complaint ↔
      ∃ passed path, document.Walk above role place location passed .type (.node path) ∧
        document.HasObject path ∧ passed.Nodup ∧ passed.length ≤ room ∧
        Ends room passed path complaint := by
  constructor
  · intro h
    induction h with
    | cycle object met =>
        exact ⟨_, _, .here, object, hnodup, hroom, .inl ⟨rfl, met⟩⟩
    | deep object fresh full =>
        exact ⟨_, _, .here, object, hnodup, hroom, .inr ⟨rfl, fresh, Nat.le_antisymm hroom full⟩⟩
    | part outside follows rest ih =>
        obtain ⟨passed, path, hwalk, hrest⟩ := ih hnodup hroom
        exact ⟨passed, path, .part outside follows hwalk, hrest⟩
    | inside follows fresh free rest ih =>
        obtain ⟨passed, path, hwalk, hrest⟩ := ih (List.nodup_cons.mpr ⟨fresh, hnodup⟩) free
        exact ⟨passed, path, .inside follows hwalk, hrest⟩
  · rintro ⟨passed, path, hwalk, hobject, hpassed, hlength, hends⟩
    generalize hlast : Role.type = last, hfinish : Place.node path = finish at hwalk
    induction hwalk with
    | here =>
        subst hlast hfinish
        rcases hends with ⟨rfl, hmet⟩ | ⟨rfl, hfresh, hfull⟩
        · exact .cycle hobject hmet
        · exact .deep hobject hfresh (Nat.le_of_eq hfull.symm)
    | part outside follows rest ih =>
        exact .part outside follows (ih hnodup hroom hpassed hlength hends hlast hfinish)
    | inside follows rest ih =>
        have hinside := rest.suffix
        obtain ⟨hfresh, -⟩ := List.nodup_cons.mp (hinside.sublist.nodup hpassed)
        have hfree := Nat.le_trans hinside.length_le hlength
        exact .inside follows hfresh hfree
          (ih (List.nodup_cons.mpr ⟨hfresh, hnodup⟩) hfree hpassed hlength hends hlast hfinish)

/-- On a walk that meets a type reference again, or passes too many, the reading runs into a
complaint. -/
theorem Walk.exists_runsInto {above passed : List Path} {role : Role} {place : Place}
    {location : List Step} {path : Path}
    (h : document.Walk above role place location passed .type (.node path))
    (hobject : document.HasObject path) (hnodup : above.Nodup) (hroom : above.length ≤ room)
    (htrouble : ¬((path :: passed).Nodup ∧ passed.length < room)) :
    ∃ before after complaint, location = before ++ after ∧
      document.RunsInto room above role place before complaint := by
  generalize hlast : Role.type = last, hfinish : Place.node path = finish at h
  induction h with
  | @here above role place =>
      subst hlast hfinish
      by_cases hmet : path ∈ above
      · exact ⟨[], [], .cycle, rfl, .cycle hobject hmet⟩
      · refine ⟨[], [], .deep, rfl, .deep hobject hmet (Nat.le_of_not_lt fun hfree => ?_)⟩
        exact htrouble ⟨List.nodup_cons.mpr ⟨hmet, hnodup⟩, hfree⟩
  | part outside follows rest ih =>
      obtain ⟨before, after, complaint, rfl, hruns⟩ := ih hnodup hroom htrouble hlast hfinish
      exact ⟨_ :: before, after, complaint, rfl, .part outside follows hruns⟩
  | @inside above passed inner last entered part finish step location follows rest ih =>
      by_cases hmet : entered ∈ above
      · exact ⟨[], step :: location, .cycle, rfl, .cycle follows.hasObject hmet⟩
      by_cases hfree : above.length < room
      · obtain ⟨before, after, complaint, rfl, hruns⟩ :=
          ih (List.nodup_cons.mpr ⟨hmet, hnodup⟩) hfree htrouble hlast hfinish
        exact ⟨step :: before, after, complaint, rfl, .inside follows hmet hfree hruns⟩
      · exact ⟨[], step :: location, .deep, rfl,
          .deep follows.hasObject hmet (Nat.le_of_not_lt hfree)⟩

end Document

end CatalogClient
