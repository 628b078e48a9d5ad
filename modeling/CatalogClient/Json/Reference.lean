/-
# Resolving references

An object with a text under the key of references stands for the value that its pointer leads to in
the document that it names; its other members are left out. The documents that are named are kept
beside the main one, each under its name. All references that can be reached from the top of the
main document are resolved in document order, depth first, and the first one that fails ends the
resolution. A pointer may lead through other references, which are resolved on the way; a ring of
references that only lead to each other has no end and is told apart from a reference that fails.
Where the calls of the machine do not reach far enough down, the resolution has no end either.
-/

import CatalogClient.Json.Named
import CatalogClient.Json.Pointer
import CatalogClient.Remaining

namespace CatalogClient

/-- Why a reference leads nowhere. -/
inductive ReferenceProblem
  | pointer (text : String)
  | itself
  | document (problem : NameProblem)
  deriving DecidableEq, Repr

/-- The words for a problem. -/
def ReferenceProblem.message : ReferenceProblem → String
  | .pointer text => "Unresolvable JSON pointer: " ++ Text.quote text
  | .itself => "Reference refers directly to itself."
  | .document problem => problem.message

/-- A failed resolution: a reference that leads nowhere, one whose name has no acceptable authority,
or references without an end, because they lead round in a ring or through too many others or lie
too deep. -/
inductive ReferenceFault
  | broken (reference : String) (problem : ReferenceProblem)
  | misnamed
  | endless
  deriving DecidableEq, Repr

namespace Json

/-- The text of a reference. -/
def reference? : Json → Option String
  | .object members =>
      match members.lookup "$ref" with
      | some (.string text) => some text
      | _ => none
  | _ => none

mutual

/-- The references that stand where the text of another one is expected, inner parts first. -/
def nestedReferences : Json → List String
  | .array items => nestedInItems items
  | .object members => nestedInMembers members ++ ((members.lookup "$ref").bind reference?).toList
  | _ => []

/-- Such references among the items of a list. -/
def nestedInItems : List Json → List String
  | [] => []
  | item :: rest => nestedReferences item ++ nestedInItems rest

/-- Such references among the members of an object. -/
def nestedInMembers : List (String × Json) → List String
  | [] => []
  | (_, value) :: rest => nestedReferences value ++ nestedInMembers rest

end

mutual

/-- The texts of all references in a value. -/
def references : Json → List String
  | .array items => referencesInItems items
  | .object members =>
      (reference? (.object members)).toList ++ referencesInMembers members
  | _ => []

/-- The texts of all references in the items of a list. -/
def referencesInItems : List Json → List String
  | [] => []
  | item :: rest => references item ++ referencesInItems rest

/-- The texts of all references in the members of an object. -/
def referencesInMembers : List (String × Json) → List String
  | [] => []
  | (_, value) :: rest => references value ++ referencesInMembers rest

end

mutual

/-- How many lists and objects stand in each other above the deepest part of a value. -/
def depth : Json → Nat
  | .array items => depthOfItems items
  | .object members => depthOfMembers members
  | _ => 0

/-- How many lists and objects stand in each other above the deepest part of a list, the list
included. -/
def depthOfItems : List Json → Nat
  | [] => 0
  | item :: rest => max (depth item + 1) (depthOfItems rest)

/-- How many lists and objects stand in each other above the deepest part of an object, the object
included. -/
def depthOfMembers : List (String × Json) → Nat
  | [] => 0
  | (_, value) :: rest => max (depth value + 1) (depthOfMembers rest)

end

/-- Why a reference that stands where the text of another one is expected is refused, if it is. No
document is known yet when it is met, not even the main one. -/
def nestedFault? (resolver : Resolver) (base text : String) : Option ReferenceFault :=
  match Reference.within? base.toList text.toList with
  | none => some .misnamed
  | some reference =>
      match ofName resolver reference.document with
      | .error problem => some (.broken text (.document problem))
      | .ok _ => none

/-- Why the references of a document are refused before any is resolved, if they are. -/
def earlyFault? (resolver : Resolver) (base : String) (document : Json) : Option ReferenceFault :=
  if resolver.machine.depth < document.depth then some .endless
  else document.nestedReferences.findSome? (nestedFault? resolver base)

/-- The documents known so far and those that the given references name within a document, together
with those that these name in turn. -/
def gather (resolver : Resolver) :
    (room : Nat) → (base : String) → Keyed Json → List String → Keyed Json
  | 0, _, known, _ => known
  | room + 1, base, known, texts => texts.foldl (fun known text =>
      match Reference.within? base.toList text.toList with
      | none => known
      | some reference =>
          match reference.key? with
          | none => known
          | some key =>
              if (known.get? key).isSome then known
              else
                match ofName resolver reference.document with
                | .error _ => known
                | .ok document =>
                    gather resolver room key (known ++ [(key, document)]) document.references) known

/-- The name of the document that a path leads into. -/
def nameOfPath : Path → String
  | .key name :: _ => name
  | _ => ""

/-- The top of the document that a reference names, for a reference in a document of the given
name. -/
def topOf (resolver : Resolver) (root : Json) (base text : String) (reference : Reference) :
    Except ReferenceFault Path :=
  match reference.key? with
  | none => .error .misnamed
  | some key =>
      match root.get? key with
      | none =>
          match ofName resolver reference.document with
          | .error problem => .error (.broken text (.document problem))
          | .ok _ => .error .endless
      | some document =>
          if key = base then .ok [.key key]
          else
            match earlyFault? resolver key document with
            | some fault => .error fault
            | none => .ok [.key key]

/-- The place that a path finally means. A value that is no reference means itself. A reference
means the place that its pointer leads to from the top of the document that it names, where every
reference on the way and at the end is taken for what it means in turn; only the reference itself,
when its own pointer leads into it, is entered as the plain object that it is. The links of the
references that are resolved already are given, and the references that are being resolved, so that
a ring is found when one of them is met again. -/
def locate (resolver : Resolver) (root : Json) (links : List (Path × Place)) (above : List Path)
    (here : Path) : Except ReferenceFault Place :=
  match links.lookup here with
  | some place => .ok place
  | none =>
      match _found : (root.at? here).bind reference? with
      | none => .ok (.node here)
      | some text =>
          if _met : here ∈ above then .error .endless
          else if resolver.machine.chain < above.length then .error .endless
          else
            let base := nameOfPath here
            match Reference.within? base.toList text.toList with
            | none => .error .misnamed
            | some reference =>
                let settle (place : Place) : Except ReferenceFault Place :=
                  match place with
                  | .letter c => .ok (.letter c)
                  | .node path =>
                      if path = here then .ok (.node path)
                      else locate resolver root links (here :: above) path
                let advance (place : Place) (part : List Char) : Except ReferenceFault Place := do
                  let place ← settle place
                  match root.enter? place part with
                  | some next => .ok next
                  | none => .error (.broken text (.pointer (String.ofList reference.pointer)))
                do
                  let top ← topOf resolver root base text reference
                  let place ← (Reference.parts reference.pointer).foldlM advance (.node top)
                  if place = .node here then .error (.broken text .itself) else settle place
termination_by remaining root.paths above
decreasing_by
  obtain ⟨value, reached, _⟩ := Option.bind_eq_some_iff.mp _found
  exact remaining_lt_of_mem (List.subset_cons_self here above) (mem_paths_of_at? reached) _met
    List.mem_cons_self

/-- The paths to the direct parts of the value at a place. -/
def partPaths (root : Json) : Place → List Path
  | .letter _ => []
  | .node path => ((root.at? path).map steps).getD [] |>.map fun step => path ++ [step]

/-- The links of all references that are reached from the pending paths, given the paths already
seen and the links found so far. With each path stands how many values are above it on the way from
the top. -/
def linksFrom (resolver : Resolver) (root : Json) (pending : List (Nat × Path)) (seen : List Path)
    (links : List (Path × Place)) : Except ReferenceFault (List (Path × Place)) :=
  match pending with
  | [] => .ok links
  | (level, path) :: rest =>
      if resolver.machine.descent < level then .error .endless
      else if _met : path ∈ seen then linksFrom resolver root rest seen links
      else
        match _reached : root.at? path with
        | none => linksFrom resolver root rest seen links
        | some value =>
            match locate resolver root links [] path with
            | .error fault => .error fault
            | .ok place =>
                linksFrom resolver root ((root.partPaths place).map (level + 1, ·) ++ rest)
                  (path :: seen)
                  (if value.reference?.isSome then links ++ [(path, place)] else links)
termination_by (remaining root.paths seen, pending.length)
decreasing_by
  · exact .right _ (by simp)
  · exact .right _ (by simp)
  · exact .left _ _ (remaining_lt_of_mem (List.subset_cons_self path seen)
      (mem_paths_of_at? _reached) _met List.mem_cons_self)

end Json

/-- The document in which all references of a value are resolved, some of which may name other
documents. A value without a reference is taken as it is. -/
def Document.resolve (root : Json) (resolver : Resolver := {}) : Except ReferenceFault Document :=
  match root.earlyFault? resolver "" with
  | some fault => .error fault
  | none =>
      match root.references with
      | [] =>
          if resolver.machine.descent < root.depth then .error .endless else .ok (.plain root)
      | texts =>
          let all := Json.object
            (Json.gather resolver resolver.machine.documents "" [("", root)] texts)
          (all.linksFrom resolver [(0, [.key ""])] [] []).map fun links =>
            { root := all, start := [.key ""], links }

end CatalogClient
