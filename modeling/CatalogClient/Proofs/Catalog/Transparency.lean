/-
# References are transparent

A catalog is read from the tree that a document unfolds into. A document with references and the
tree that it becomes when they are inlined are therefore read as the same catalog, or refused for
the same faults at the same places, as far as the machine reaches. But the inlined tree can be
deeper than the document that it stands for, so a machine may reach far enough down for the one and
not for the other. Then the one is a catalog and the other one has no end.
-/

import CatalogClient.Catalog.Reading
import CatalogClient.Proofs.Json.Rings
import CatalogClient.Proofs.Validation.Transparency

namespace CatalogClient

open Document

variable {document document' : Document} {size : Nat}

namespace TypeRef

/-- A type reference with the given members, when there is a way to read the references in it. -/
def ofFields (document : Document) (inner : Place → Validated TypeRef) (fields : Keyed Place) :
    Validated TypeRef :=
  (TypeRef.mk
    <$> fields.withDefault "kind" .unknown (Reader.choice TypeKind.all TypeKind.label document)
    <*> fields.withDefault "name" none (Reader.text.optional document)
    <*> fields.withDefault "namespace" none (Reader.text.optional document)
    <*> fields.withDefault "component" none (Reader.optional (fun _ => inner) document)
    <*> fields.withDefault "raw_kind" none
      ((Reader.choice RawKind.all RawKind.label).optional document)
    <*> fields.withDefault "raw" none (Reader.optional (fun _ => inner) document)
    <*> fields.withDefault "arguments" [] (Reader.list (fun _ => inner) .notTuple document)
    <*> fields.withDefault "bounds" [] (Reader.list (fun _ => inner) .notTuple document)).check
      fun type => type.brokenRule?.map .shape

/-- At an object a type reference is read from its members, unless it stands in itself or too deep
in others. -/
theorem readUnder_of_object (room : Nat) (above : List Path) {place : Place}
    {fields : List (String × Place)} (h : document.view place = .object fields) :
    ∃ path, place = .node path ∧ readUnder room document above place =
      if path ∈ above then .complain .cycle
      else if room ≤ above.length then .complain .deep
      else ofFields document (readUnder room document (path :: above)) fields := by
  cases place with
  | letter c => cases h
  | node path =>
      refine ⟨path, rfl, ?_⟩
      cases hvalue : document.root.at? path with
      | none =>
          simp only [view, hvalue] at h
          cases h
      | some value =>
          simp only [view, hvalue] at h
          cases value with
          | object members =>
              obtain rfl := View.object.inj h
              rw [readUnder.eq_def]
              simp only
              split
              · next members' hmembers =>
                  obtain rfl := Json.object.inj (Option.some.inj (hvalue.symm.trans hmembers))
                  rfl
              · next hother => exact absurd hvalue (hother members)
          | null | bool value | number value | string value | array items => cases h

/-- Anything else is no type reference. -/
theorem readUnder_of_not_object {room : Nat} {above : List Path} {place : Place}
    (h : ∀ fields, document.view place ≠ .object fields) :
    readUnder room document above place = .complain (.notModel "TypeDescriptor") := by
  cases place with
  | letter c => rw [readUnder.eq_def]
  | node path =>
      rw [readUnder.eq_def]
      simp only
      split
      · next members hmembers => exact absurd (by simp only [view, hmembers]; rfl) (h _)
      · rfl

theorem ofFields_alike {inner inner' : Place → Validated TypeRef} {fields fields' : Keyed Place}
    (hinner : ReadAlike document document' size inner inner')
    (hfields : FieldsAlike document document' size fields fields') :
    ofFields document inner fields = ofFields document' inner' fields' := by
  have hoption : ∀ name, fields.withDefault name none (Reader.optional (fun _ => inner) document) =
      fields'.withDefault name none (Reader.optional (fun _ => inner') document') :=
    fun name => hfields.withDefault name none (Reader.alike_optional hinner)
  have hlist : ∀ name,
      fields.withDefault name [] (Reader.list (fun _ => inner) .notTuple document) =
        fields'.withDefault name [] (Reader.list (fun _ => inner') .notTuple document') :=
    fun name => hfields.withDefault name [] (Reader.alike_list hinner .notTuple)
  unfold ofFields
  rw [hfields.withDefault "kind" _ (Reader.transparent_choice _ _).readAlike,
    hfields.withDefault "name" _ Reader.transparent_text.optional.readAlike,
    hfields.withDefault "namespace" _ Reader.transparent_text.optional.readAlike,
    hfields.withDefault "raw_kind" _ (Reader.transparent_choice _ _).optional.readAlike,
    hoption "component", hoption "raw", hlist "arguments", hlist "bounds"]

/-- All places in a list unfold into trees of at least a size. -/
def Enclosing (document : Document) (size : Nat) (above : List Path) : Prop :=
  ∀ path ∈ above, ∃ tree, document.Shows (.node path) tree ∧ size ≤ sizeOf tree

/-- A place that unfolds into a smaller tree is not among them. -/
theorem Enclosing.not_mem {above : List Path} {path : Path} {tree : Json}
    (h : Enclosing document size above) (hshows : document.Shows (.node path) tree)
    (hsize : sizeOf tree < size) : path ∉ above := by
  intro hmem
  obtain ⟨other, hother, hless⟩ := h path hmem
  rw [hother.unique hshows] at hless
  omega

theorem Enclosing.cons {above : List Path} {path : Path} {tree : Json}
    (h : Enclosing document size above) (hshows : document.Shows (.node path) tree)
    (hsize : sizeOf tree < size) : Enclosing document (sizeOf tree) (path :: above) :=
  List.forall_mem_cons.mpr ⟨⟨tree, hshows, Nat.le_refl _⟩, fun other hother => by
    obtain ⟨outer, houter, hless⟩ := h other hother
    exact ⟨outer, houter, Nat.le_trans (Nat.le_of_lt hsize) hless⟩⟩

/-- Inside as many references that all unfold into larger trees, a type reference is read in the
same way. No place can be met again below itself, since a tree is larger than its parts. -/
theorem readUnder_alike (room : Nat) {above above' : List Path}
    (hlength : above.length = above'.length) (habove : Enclosing document size above)
    (habove' : Enclosing document' size above') :
    ReadAlike document document' size (readUnder room document above)
      (readUnder room document' above') := by
  intro tree place place' hsize h
  induction hn : sizeOf tree using Nat.strongRecOn generalizing size tree place place' above above'
    with
  | ind n ih =>
      subst hn
      obtain ⟨part, part', hview, hview', hparts⟩ := h.view
      cases tree with
      | object members =>
          obtain ⟨path, rfl, hread⟩ := readUnder_of_object room above hview
          obtain ⟨path', rfl, hread'⟩ := readUnder_of_object room above' hview'
          have hinner : ReadAlike document document' (sizeOf (Json.object members))
              (readUnder room document (path :: above))
              (readUnder room document' (path' :: above')) := fun inner place place' hless halike =>
            ih _ hless (by simp [hlength]) (habove.cons h.left hsize) (habove'.cons h.right hsize)
              inner place place' hless halike rfl
          rw [hread, hread', if_neg (habove.not_mem h.left hsize),
            if_neg (habove'.not_mem h.right hsize), hlength,
            ofFields_alike hinner (fieldsAlike_of_parts hparts)]
      | null | bool value | number value | string value | array items =>
          rw [readUnder_of_not_object (by rw [hview]; nofun),
            readUnder_of_not_object (by rw [hview']; nofun)]

theorem transparent_read : Reader.Transparent TypeRef.read :=
  fun _ _ tree _ _ h =>
    readUnder_alike roomInside rfl (List.forall_mem_nil _) (List.forall_mem_nil _) tree _ _
      (Nat.lt_succ_self _) h

end TypeRef

theorem Field.transparent_read : Reader.Transparent Field.read := by
  refine Reader.transparent_model fun document document' size fields fields' hfields => ?_
  rw [hfields.required "name" Reader.transparent_text.readAlike,
    hfields.required "type" TypeRef.transparent_read.readAlike,
    hfields.withDefault "ignored" _ Reader.transparent_truth.readAlike]

theorem Declaration.transparent_read : Reader.Transparent Declaration.read := by
  refine Reader.transparent_model fun document document' size fields fields' hfields => ?_
  rw [hfields.required "name" Reader.transparent_text.readAlike,
    hfields.withDefault "namespace" _ Reader.transparent_text.optional.readAlike,
    hfields.withDefault "kind" _ (Reader.transparent_choice _ _).readAlike,
    hfields.withDefault "type_parameters" _ (Reader.transparent_text.list _).readAlike,
    hfields.withDefault "fields" _ (Field.transparent_read.list _).readAlike,
    hfields.withDefault "constants" _ (Reader.transparent_text.list _).readAlike]

theorem Parameter.transparent_read : Reader.Transparent Parameter.read := by
  refine Reader.transparent_model fun document document' size fields fields' hfields => ?_
  rw [hfields.required "name" Reader.transparent_text.readAlike,
    hfields.withDefault "type" _ TypeRef.transparent_read.readAlike,
    hfields.withDefault "source" _ (Reader.transparent_choice _ _).readAlike,
    hfields.withDefault "binding_value" _ Reader.transparent_text.optional.readAlike,
    hfields.withDefault "binding_name" _ Reader.transparent_text.optional.readAlike]

theorem Operation.transparent_read : Reader.Transparent Operation.read := by
  refine Reader.transparent_model fun document document' size fields fields' hfields => ?_
  rw [hfields.withDefault "method" _ Reader.transparent_text.optional.readAlike,
    hfields.required "url" Reader.transparent_text.readAlike,
    hfields.required "function_name" Reader.transparent_text.readAlike,
    hfields.withDefault "parameters" _ (Parameter.transparent_read.list _).readAlike,
    hfields.withDefault "return_type" _ TypeRef.transparent_read.readAlike]

namespace Catalog

theorem transparent_read : Reader.Transparent Catalog.read := by
  refine Reader.transparent_model fun document document' size fields fields' hfields => ?_
  rw [hfields.withDefault "operations" _ Operation.transparent_read.dictionary.readAlike,
    hfields.withDefault "declarations" _ Declaration.transparent_read.dictionary.readAlike]

/-- What a value is read as when no reference is followed in it. -/
def ofTree (tree : Json) : Except CatalogFault Catalog :=
  ((Catalog.read.readPlain tree).toExcept "ServerCatalog").mapError .malformed

theorem ofTree_ne_unresolved (tree : Json) (fault : ReferenceFault) :
    ofTree tree ≠ .error (.unresolved fault) := by
  unfold ofTree
  cases Catalog.read.readPlain tree <;> exact nofun

/-- A document without references is read as it is, where the machine reaches far enough down. -/
theorem ofJson_of_references {value : Json} (h : value.references = []) (resolver : Resolver) :
    Catalog.ofJson value resolver =
      if resolver.machine.Reaches value.depth then ofTree value
      else .error (.unresolved .endless) := by
  unfold Catalog.ofJson
  rw [resolve_of_references h]
  by_cases hreach : resolver.machine.Reaches value.depth
  · rw [if_pos hreach, if_pos hreach]
    rfl
  · rw [if_neg hreach, if_neg hreach]

/-- A document is read as the tree that it becomes when its references are inlined. -/
theorem ofJson_of_inlinesTo {value tree : Json} {resolver : Resolver}
    (hresolve : Document.resolve value resolver = .ok document)
    (htree : value.InlinesTo resolver tree) : Catalog.ofJson value resolver = ofTree tree := by
  have halike : Alike document (.plain tree) tree document.top (.node []) :=
    ⟨shows_of_resolve hresolve htree, shows_plain_of_inlines htree rfl⟩
  unfold Catalog.ofJson ofTree Reader.readPlain
  rw [hresolve]
  simp only [transparent_read _ _ _ _ _ halike]

/-- A document whose references all resolve is read as the tree that they leave, unless the machine
does not reach far enough down. -/
theorem ofJson_of_resolves {value tree : Json} {resolver : Resolver}
    (h : value.Resolves resolver tree) :
    Catalog.ofJson value resolver = ofTree tree ∨
      ¬value.Fits resolver tree ∧
        Catalog.ofJson value resolver = .error (.unresolved .endless) := by
  obtain ⟨document, hresolve | ⟨hroom, hendless⟩⟩ := exists_resolve_or_endless h
  · exact Or.inl (ofJson_of_inlinesTo hresolve h.inlines)
  · exact Or.inr ⟨hroom, by rw [Catalog.ofJson, hendless]⟩

theorem ofJson_of_fits {value tree : Json} {resolver : Resolver}
    (h : value.Resolves resolver tree) (hroom : value.Fits resolver tree) :
    Catalog.ofJson value resolver = ofTree tree :=
  (ofJson_of_resolves h).resolve_right fun hendless => hendless.1 hroom

/-- A document without references has no end if they would have to be looked for too deep in it. -/
theorem ofJson_of_deep {tree : Json} {resolver : Resolver} (h : tree.references = [])
    (hdeep : resolver.machine.depth < tree.depth) :
    Catalog.ofJson tree resolver = .error (.unresolved .endless) := by
  rw [ofJson_of_references h, if_neg fun hreach => Nat.not_lt_of_le hreach.1 hdeep]

end Catalog

namespace Sample

/-- An operation whose return type is a reference with a member beside it. -/
def noted : Json :=
  .object [
    ("operations", .object [("ping", .object [
      ("url", .string "/ping"), ("function_name", .string "ping"),
      ("return_type", .object [("$ref", .string "#/reply"), ("kind", .string "void")])])]),
    ("reply", .object [("kind", .string "string")])]

/-- The same operation with its return type written out. -/
def written : Json :=
  .object [
    ("operations", .object [("ping", .object [
      ("url", .string "/ping"), ("function_name", .string "ping"),
      ("return_type", .object [("kind", .string "string")])])]),
    ("reply", .object [("kind", .string "string")])]

end Sample

namespace Catalog

end Catalog

namespace Sample

/-- A value inside lists that stand in each other. -/
def nest : Nat → Json → Json
  | 0, value => value
  | count + 1, value => .array [nest count value]

theorem depth_nest (count : Nat) (value : Json) :
    (nest count value).depth = value.depth + count := by
  induction count with
  | zero => rfl
  | succ count ih =>
      simp only [nest, Json.depth, Json.depthOfItems, ih]
      omega

theorem references_nest (count : Nat) (value : Json) :
    (nest count value).references = value.references := by
  induction count with
  | zero => rfl
  | succ count ih => simp [nest, Json.references, Json.referencesInItems, ih]

theorem nestedReferences_nest (count : Nat) (value : Json) :
    (nest count value).nestedReferences = value.nestedReferences := by
  induction count with
  | zero => rfl
  | succ count ih => simp [nest, Json.nestedReferences, Json.nestedInItems, ih]

theorem length_referencePaths_nest (count : Nat) (value : Json) :
    (nest count value).referencePaths.length = value.referencePaths.length := by
  induction count with
  | zero => rfl
  | succ count ih =>
      rw [nest, Json.referencePaths, Json.paths, Json.itemPaths, Json.itemPaths, List.append_nil,
        List.filter_cons_of_neg Bool.false_ne_true, Json.referencePaths_below rfl,
        List.length_map, ih]

theorem at?_nest (count : Nat) (value : Json) :
    (nest count value).at? (List.replicate count (.index 0)) = some value := by
  induction count with
  | zero => rfl
  | succ count ih => simpa [nest, Json.at?, Json.child?, List.replicate_succ] using ih

/-- Lists that stand in each other are inlined around what is inlined inside them. -/
theorem inlines_nest {root value tree : Json} {count : Nat} {path : Path}
    (hpath : root.at? path = some (nest count value))
    (h : root.Inlines (path ++ List.replicate count (.index 0)) tree) :
    root.Inlines path (nest count tree) := by
  induction count generalizing path with
  | zero => simpa [nest] using h
  | succ count ih =>
      refine .items hpath rfl fun position inner hinner => ?_
      obtain ⟨rfl, rfl⟩ : position = 0 ∧ nest count tree = inner := by
        cases position with
        | zero => exact ⟨rfl, Option.some.inj hinner⟩
        | succ position => cases hinner
      apply ih
      · rw [Json.at?_snoc hpath]
        rfl
      · rwa [List.append_assoc, List.singleton_append, ← List.replicate_succ]

/-- Lists around a reference to other lists that are as deep. A catalog has a use for neither. -/
def layered (count : Nat) : Json :=
  .object [("upper", nest count (.object [("$ref", .string "#/lower")])),
    ("lower", nest count .null)]

/-- The same with the reference inlined. -/
def stacked (count : Nat) : Json :=
  .object [("upper", nest count (nest count .null)), ("lower", nest count .null)]

section Layers

variable {count : Nat} {resolver : Resolver}

theorem references_layered : (layered count).references = ["#/lower"] := by
  show [] ++ ((nest count _).references ++ ((nest count .null).references ++ [])) = _
  rw [references_nest, references_nest]
  rfl

theorem library_layered : (layered count).library resolver = .object [("", layered count)] := by
  unfold Json.library
  rw [references_layered]
  cases resolver.machine.documents <;> rfl

/-- The lower lists are no reference. -/
theorem referenceAt?_lower :
    (Json.object [("", layered count)]).referenceAt? [.key "", .key "lower"] = none := by
  cases count <;> rfl

/-- The only reference leads to the lower lists. -/
theorem onward?_layered {path : Path}
    (h : (Json.object [("", layered count)]).referenceAt? path ≠ none) :
    (Json.object [("", layered count)]).onward? path = some [.key "", .key "lower"] := by
  obtain ⟨text, htext⟩ := Option.ne_none_iff_exists'.mp h
  obtain rfl : text = "#/lower" := by
    have hmem : text ∈ [] ++ ((layered count).references ++ []) :=
      Json.mem_references_of_referenceAt? htext
    rw [references_layered] at hmem
    exact List.mem_singleton.mp hmem
  unfold Json.onward?
  rw [htext, Json.nameOfPath_of_alone h]
  rfl

/-- The only reference stands inside the upper lists. -/
theorem length_referencePaths_layered :
    (Json.object [("", layered count)]).referencePaths.length = 1 := by
  have hlayered : (layered count).referencePaths =
      (nest count (.object [("$ref", .string "#/lower")])).referencePaths.map
          (.key "upper" :: ·) ++
        (nest count .null).referencePaths.map (.key "lower" :: ·) := by
    rw [layered, Json.referencePaths, Json.paths, Json.memberPaths, Json.memberPaths,
      Json.memberPaths, List.append_nil, List.filter_cons_of_neg Bool.false_ne_true,
      List.filter_append,
      Json.referencePaths_below rfl, Json.referencePaths_below rfl]
  rw [Json.referencePaths, Json.paths, Json.memberPaths, Json.memberPaths, List.append_nil,
    List.filter_cons_of_neg Bool.false_ne_true, Json.referencePaths_below rfl, hlayered]
  simp only [List.length_map, List.length_append, length_referencePaths_nest]
  rfl

theorem layered_inlinesTo : (layered count).InlinesTo resolver (stacked count) := by
  unfold Json.InlinesTo
  rw [library_layered]
  have hlower : (Json.object [("", layered count)]).Inlines [.key "", .key "lower"]
      (nest count .null) := by
    have hnull : (Json.object [("", layered count)]).at?
        ([.key "", .key "lower"] ++ List.replicate count (.index 0)) = some .null := by
      rw [Json.at?_append]
      exact at?_nest count .null
    refine inlines_nest rfl (.scalar (.value ?_) hnull rfl)
    rw [Json.referenceAt?, hnull]
    rfl
  have hupper : (Json.object [("", layered count)]).Inlines [.key "", .key "upper"]
      (nest count (nest count .null)) := by
    have hreference : (Json.object [("", layered count)]).referenceAt?
        ([.key "", .key "upper"] ++ List.replicate count (.index 0)) = some "#/lower" := by
      have hfound : (Json.object [("", layered count)]).at?
          ([.key "", .key "upper"] ++ List.replicate count (.index 0)) =
            some (.object [("$ref", .string "#/lower")]) := by
        rw [Json.at?_append]
        exact at?_nest count _
      rw [Json.referenceAt?, hfound]
      rfl
    have hmeans := Json.means_of_onward?
      (onward?_layered (by rw [hreference]; exact Option.some_ne_none _)) (by simp)
      (.value referenceAt?_lower)
    exact inlines_nest rfl (.of_means hmeans referenceAt?_lower hlower)
  exact .members rfl rfl rfl (by decide : ["upper", "lower"].Nodup)
    (List.forall_mem_cons.mpr ⟨hupper, List.forall_mem_singleton.mpr hlower⟩)

theorem references_stacked : (stacked count).references = [] := by
  show [] ++ ((nest count (nest count .null)).references ++
    ((nest count .null).references ++ [])) = []
  rw [references_nest, references_nest]
  rfl

theorem depth_stacked : (stacked count).depth = 2 * count + 1 := by
  show max ((nest count (nest count .null)).depth + 1) (max ((nest count .null).depth + 1) 0) = _
  rw [depth_nest, depth_nest]
  simp only [Json.depth]
  omega

theorem depth_layered : (layered count).depth = count + 2 := by
  show max ((nest count _).depth + 1) (max ((nest count .null).depth + 1) 0) = count + 2
  rw [depth_nest, depth_nest]
  show max (1 + count + 1) (max (0 + count + 1) 0) = count + 2
  omega

theorem layered_resolves : (layered count).Resolves resolver (stacked count) := by
  refine ⟨?_, layered_inlinesTo⟩
  rw [library_layered]
  apply Json.Unrefused.of_nested
  show ((nest count _).nestedReferences ++ ((nest count .null).nestedReferences ++ []) ++ []) ++
    [] ++ [] = []
  rw [nestedReferences_nest, nestedReferences_nest]
  rfl

/-- However far down a machine reaches, it does so for a document whose inlined tree is too deep for
it. -/
theorem ofJson_stacked_ne_layered (hdepth : count + 2 ≤ resolver.machine.depth)
    (hdeep : resolver.machine.depth ≤ 2 * count)
    (hdescent : 2 * count + 1 ≤ resolver.machine.descent) (hchain : 1 ≤ resolver.machine.chain) :
    (layered count).Resolves resolver (stacked count) ∧ (stacked count).references = [] ∧
      Catalog.ofJson (layered count) resolver = .ok ⟨[], []⟩ ∧
      Catalog.ofJson (stacked count) resolver = .error (.unresolved .endless) := by
  have hresolves := @layered_resolves count resolver
  have hfits : (layered count).Fits resolver (stacked count) := by
    refine .of_alone library_layered ?_ ?_ ?_
    · rw [depth_layered]
      exact ⟨hdepth, by omega⟩
    · rwa [length_referencePaths_layered]
    · rwa [depth_stacked]
  refine ⟨hresolves, references_stacked, (Catalog.ofJson_of_fits hresolves hfits).trans rfl,
    Catalog.ofJson_of_deep references_stacked ?_⟩
  rw [depth_stacked]
  omega

end Layers

end Sample

end CatalogClient
