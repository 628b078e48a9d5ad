/-
# Inlined documents

If every reference of a document is replaced by the value that it means, over and over, the document
becomes a tree without references, unless it contains itself. What stands beside the text of a
reference is left out with it, and a shared value stands in the tree wherever it was referred to.
The tree is stated here from the meanings of references alone. The resolved document unfolds into
it, and so does the document itself if it has no reference, and the tree as a document of its own.
-/

import CatalogClient.Proofs.Catalog.Tables
import CatalogClient.Proofs.Json.Links
import CatalogClient.Proofs.Json.References

namespace CatalogClient

namespace Json

/-- Whether a value has no parts. -/
def isScalar : Json → Bool
  | .array _ | .object _ => false
  | .null | .bool _ | .number _ | .string _ => true

theorem parts_of_isScalar {value : Json} (h : value.isScalar = true) : value.parts = [] := by
  cases value with
  | array items => cases h
  | object members => cases h
  | null | bool _ | number _ | string _ => rfl

/-- The parts of a list whose items are a function of their positions. -/
theorem mem_parts_range {length : Nat} {value : Nat → Json} {entry : Step × Json} :
    entry ∈ (array ((List.range length).map value)).parts ↔
      ∃ position < length, entry = (.index position, value position) := by
  rw [mem_parts_array]
  constructor
  · rintro ⟨position, item, hitem, rfl⟩
    obtain ⟨hposition, rfl⟩ : position < length ∧ value position = item := by
      by_cases h : position < length <;> simp_all
    exact ⟨position, hposition, rfl⟩
  · rintro ⟨position, hposition, rfl⟩
    exact ⟨position, value position, by simp [hposition], rfl⟩

/-- The parts of an object whose values are a function of their names. -/
theorem mem_parts_named {members : List (String × Json)} {value : String → Json}
    {entry : Step × Json} :
    entry ∈ (object (members.map fun member => (member.1, value member.1))).parts ↔
      ∃ member ∈ members, entry = (.key member.1, value member.1) := by
  rw [mem_parts_object]
  constructor
  · rintro ⟨named, hnamed, rfl⟩
    obtain ⟨member, hmember, rfl⟩ := List.mem_map.mp hnamed
    exact ⟨member, hmember, rfl⟩
  · rintro ⟨member, hmember, rfl⟩
    exact ⟨(member.1, value member.1), List.mem_map.mpr ⟨member, hmember, rfl⟩, rfl⟩

/-- The view of a list or an object depends on its length or its names. -/
theorem viewThrough_range (length : Nat) (value : Nat → Json) (part : Step → Place) :
    (array ((List.range length).map value)).viewThrough part =
      .array ((List.range length).map fun position => part (.index position)) := by
  simp [viewThrough]

theorem viewThrough_named (members : List (String × Json)) (value : String → Json)
    (part : Step → Place) :
    (object (members.map fun member => (member.1, value member.1))).viewThrough part =
      (object members).viewThrough part := by
  simp [viewThrough, Function.comp_def]

/-- The tree that a value becomes when every reference in it is replaced by the inlined value that
it means. -/
inductive Inlines (root : Json) : Path → Json → Prop
  | letter {path : Path} {c : Char} (means : Means root (.node path) (.letter c)) :
      root.Inlines path (.string (String.singleton c))
  | scalar {path target : Path} {value : Json} (means : Means root (.node path) (.node target))
      (found : root.at? target = some value) (scalar : value.isScalar = true) :
      root.Inlines path value
  | array {path target : Path} {items : List Json} {value : Nat → Json}
      (means : Means root (.node path) (.node target))
      (found : root.at? target = some (.array items))
      (parts : ∀ position < items.length,
        root.Inlines (target ++ [.index position]) (value position)) :
      root.Inlines path (.array ((List.range items.length).map value))
  | object {path target : Path} {members : List (String × Json)} {value : String → Json}
      (means : Means root (.node path) (.node target))
      (found : root.at? target = some (.object members))
      (parts : ∀ member ∈ members, root.Inlines (target ++ [.key member.1]) (value member.1)) :
      root.Inlines path (.object (members.map fun member => (member.1, value member.1)))

/-- A list whose items are inlined one by one. -/
theorem Inlines.items {root : Json} {path : Path} {items trees : List Json}
    (found : root.at? path = some (.array items)) (length : trees.length = items.length)
    (parts : ∀ position tree, trees[position]? = some tree →
      root.Inlines (path ++ [.index position]) tree) : root.Inlines path (.array trees) := by
  have htrees : (List.range items.length).map (fun position => trees[position]?.getD .null) =
      trees := by
    apply List.ext_getElem (by simp [length])
    intro position _ htree
    simp [htree]
  rw [← htrees]
  refine .array (.value (by rw [referenceAt?, found]; rfl)) found fun position hposition => ?_
  obtain ⟨tree, htree⟩ : ∃ tree, trees[position]? = some tree :=
    ⟨_, List.getElem?_eq_getElem (by omega)⟩
  rw [htree]
  exact parts position tree htree

/-- An object whose values are inlined one by one. -/
theorem Inlines.members {root : Json} {path : Path} {members trees : List (String × Json)}
    (found : root.at? path = some (.object members))
    (plain : (Json.object members).reference? = none)
    (names : trees.map Prod.fst = members.map Prod.fst) (nodup : (trees.map Prod.fst).Nodup)
    (parts : ∀ tree ∈ trees, root.Inlines (path ++ [.key tree.1]) tree.2) :
    root.Inlines path (.object trees) := by
  let value : String → Json := fun name => (trees.lookup name).getD .null
  have hvalue : ∀ tree ∈ trees, value tree.1 = tree.2 := by
    intro tree htree
    show (Keyed.get? trees tree.1).getD .null = tree.2
    rw [(Keyed.get?_eq_some_iff nodup).mpr htree]
    rfl
  have htrees : members.map (fun member => (member.1, value member.1)) = trees := by
    calc members.map (fun member => (member.1, value member.1))
        = (members.map Prod.fst).map fun name => (name, value name) := by simp
      _ = trees.map fun tree => (tree.1, value tree.1) := by simp [← names]
      _ = trees.map id := List.map_congr_left fun tree htree => by rw [hvalue tree htree]; rfl
      _ = trees := List.map_id trees
  rw [← htrees]
  refine .object (.value (by rw [referenceAt?, found]; exact plain)) found fun member hmember => ?_
  obtain ⟨tree, htree, hname⟩ := List.mem_map.mp (names ▸ List.mem_map_of_mem hmember)
  rw [← hname, hvalue tree htree]
  exact parts tree htree

/-- A reference to a value is inlined as the value is. -/
theorem Inlines.of_means {root : Json} {path target : Path} {tree : Json}
    (means : Means root (.node path) (.node target)) (plain : root.referenceAt? target = none)
    (h : root.Inlines target tree) : root.Inlines path tree := by
  cases h with
  | letter means' => cases means'.unique (.value plain)
  | scalar means' found scalar =>
      obtain rfl := Place.node.inj (means'.unique (.value plain))
      exact .scalar means found scalar
  | array means' found parts =>
      obtain rfl := Place.node.inj (means'.unique (.value plain))
      exact .array means found parts
  | object means' found parts =>
      obtain rfl := Place.node.inj (means'.unique (.value plain))
      exact .object means found parts

/-- What is inlined stands somewhere. -/
theorem Inlines.isSome_at? {root : Json} {path : Path} {tree : Json} (h : root.Inlines path tree) :
    (root.at? path).isSome = true := by
  have hmeant : ∀ {meant : Place}, Means root (.node path) meant →
      (root.at? path).isSome = true ∨ meant = .node path := by
    intro meant means
    cases means with
    | value plain => exact Or.inr rfl
    | reference found =>
        obtain ⟨value, hvalue, -⟩ := Option.bind_eq_some_iff.mp found
        exact Or.inl (by rw [hvalue]; rfl)
  cases h with
  | letter means => exact (hmeant means).resolve_right nofun
  | scalar means found | array means found | object means found =>
      rcases hmeant means with hsome | htarget
      · exact hsome
      · rw [← Place.node.inj htarget, found]
        rfl

/-- The tree that a whole document becomes when its references are inlined. -/
def InlinesTo (document : Json) (resolver : Resolver) (tree : Json) : Prop :=
  (document.library resolver).Inlines [.key ""] tree

/-- A table whose values are a function of their names has the value for each of its names. -/
theorem lookup_map_of_mem {α β : Type} {members : List (String × α)} (value : String → β)
    {name : String} (h : name ∈ members.map Prod.fst) :
    (members.map fun member => (member.1, value member.1)).lookup name = some (value name) := by
  obtain ⟨entry, hentry⟩ := Option.isSome_iff_exists.mp (isSome_lookup_of_mem h)
  rw [lookup_map, hentry, Option.map_some]

end Json

namespace Document

open Json

variable {document : Document} {root : Json}

/-- Paths of a root are represented by places of a document if the view of such a place is that of
the value which the path means, with its parts represented in turn. -/
def Represents (document : Document) (root : Json) (R : Path → Place → Prop) : Prop :=
  ∀ path place, R path place → ∀ meant, Means root (.node path) meant →
    (∀ c, meant = .letter c → document.view place = .string (String.singleton c)) ∧
    ∀ target value, meant = .node target → root.at? target = some value →
      ∃ part : Step → Place, document.view place = value.viewThrough part ∧
        ∀ step ∈ value.steps, R (target ++ [step]) (part step)

/-- A document unfolds into the inlined tree from every place that represents a path. -/
theorem Represents.shows {R : Path → Place → Prop} (hR : document.Represents root R) {path : Path}
    {tree : Json} (h : root.Inlines path tree) : ∀ place, R path place →
      document.Shows place tree := by
  induction h with
  | @letter path c means =>
      intro place hplace
      have hview : document.view place =
          (Json.string (String.singleton c)).viewThrough fun _ => place :=
        (hR path place hplace _ means).1 c rfl
      exact .intro hview nofun
  | @scalar path target value means found scalar =>
      intro place hplace
      obtain ⟨part, hview, -⟩ := (hR path place hplace _ means).2 target value rfl found
      exact .intro hview (by rw [parts_of_isScalar scalar]; exact List.forall_mem_nil _)
  | @array path target items value means found parts ih =>
      intro place hplace
      obtain ⟨part, hview, hparts⟩ := (hR path place hplace _ means).2 target _ rfl found
      refine .intro (hview.trans (viewThrough_range _ value part).symm) fun entry hentry => ?_
      obtain ⟨position, hposition, rfl⟩ := mem_parts_range.mp hentry
      exact ih position hposition _ (hparts _ (List.mem_map_of_mem (List.mem_range.mpr hposition)))
  | @object path target members value means found parts ih =>
      intro place hplace
      obtain ⟨part, hview, hparts⟩ := (hR path place hplace _ means).2 target _ rfl found
      refine .intro (hview.trans (viewThrough_named _ value part).symm) fun entry hentry => ?_
      obtain ⟨member, hmember, rfl⟩ := mem_parts_named.mp hentry
      exact ih member hmember _ (hparts _ (List.mem_map_of_mem hmember))

/-- Once the links of a document are found, it represents all that has been visited. -/
theorem represents_of_linked {visited : List Path} {links : List (Path × Place)} {start : Path}
    (h : Linked root [] visited links) :
    Document.Represents { root, start, links } root fun path place =>
      path ∈ visited ∧ place = linked links path := by
  rintro path place ⟨hpath, rfl⟩ meant hmeant
  have hsame := (h.means path hpath).unique hmeant
  constructor
  · rintro c rfl
    rw [hsame]
    rfl
  · rintro target value rfl hvalue
    refine ⟨fun step => linked links (target ++ [step]), ?_, fun step hstep => ⟨?_, rfl⟩⟩
    · rw [hsame]
      simp only [view, hvalue]
      exact viewOf_eq _ target value
    · have hpart : target ++ [step] ∈ root.partPaths (linked links path) := by
        rw [hsame]
        exact mem_partPaths.mpr ⟨value, hvalue, step, hstep, rfl⟩
      simpa using h.parts path hpath _ hpart

/-- A document without references represents itself. -/
theorem represents_plain {value : Json} (h : value.references = []) :
    (Document.plain value).Represents (.object [("", value)]) fun path place =>
      ∃ rest, path = .key "" :: rest ∧ place = .node rest := by
  rintro path place ⟨rest, rfl, rfl⟩ meant hmeant
  have hat : ∀ rest, Json.at? (.object [("", value)]) (.key "" :: rest) = value.at? rest :=
    fun rest => by simp [Json.at?, child?]
  have hplain : Json.referenceAt? (.object [("", value)]) (.key "" :: rest) = none := by
    rw [referenceAt?, hat]
    exact referenceAt?_of_references h rest
  obtain rfl := hmeant.unique (.value hplain)
  refine ⟨fun c hletter => Place.noConfusion hletter, fun target part htarget hpart => ?_⟩
  obtain rfl := Place.node.inj htarget
  rw [hat] at hpart
  refine ⟨fun step => .node (rest ++ [step]), ?_, fun step _ => ⟨rest ++ [step], rfl, rfl⟩⟩
  simp only [view, Document.plain, hpart]
  exact viewOf_eq _ rest part

/-- A document is refused early, or taken as it is, or its links are found, where the machine
reaches far enough down. -/
theorem resolve_eq (value : Json) (resolver : Resolver) :
    Document.resolve value resolver =
      match value.earlyFault? resolver "" with
      | some fault => .error fault
      | none =>
          if value.references = [] then
            if resolver.machine.descent < value.depth then .error .endless else .ok (.plain value)
          else
            (linksFrom resolver (value.library resolver) [(0, [.key ""])] [] []).map fun links =>
              { root := value.library resolver, start := [.key ""], links } := by
  unfold Document.resolve library
  cases value.earlyFault? resolver "" with
  | some fault => rfl
  | none => cases value.references <;> rfl

theorem resolve_eq_ok {value : Json} {resolver : Resolver}
    (h : Document.resolve value resolver = .ok document) :
    value.references = [] ∧ document = .plain value ∨
      ∃ links, linksFrom resolver (value.library resolver) [(0, [.key ""])] [] [] = .ok links ∧
        document = { root := value.library resolver, start := [.key ""], links } := by
  rw [resolve_eq] at h
  split at h
  · cases h
  · split at h
    · next hnone =>
        split at h
        · cases h
        · exact Or.inl ⟨hnone, (Except.ok.inj h).symm⟩
    · cases hlinks : linksFrom resolver (value.library resolver) [(0, [.key ""])] [] [] with
      | error fault =>
          rw [hlinks] at h
          cases h
      | ok links =>
          rw [hlinks] at h
          exact Or.inr ⟨links, rfl, (Except.ok.inj h).symm⟩

/-- A document without references is taken as it is, where the machine reaches far enough down. -/
theorem resolve_of_references {value : Json} (h : value.references = []) (resolver : Resolver) :
    Document.resolve value resolver =
      if resolver.machine.Reaches value.depth then .ok (.plain value) else .error .endless := by
  unfold Machine.Reaches
  rw [resolve_eq, earlyFault?, nestedReferences_of_references value h]
  by_cases hdepth : value.depth ≤ resolver.machine.depth
  · rw [if_neg (Nat.not_lt_of_le hdepth)]
    by_cases hdescent : value.depth ≤ resolver.machine.descent
    · simp [h, hdepth, hdescent, Nat.not_lt_of_le hdescent]
    · simp [h, hdescent, Nat.lt_of_not_le hdescent]
  · simp [hdepth, Nat.lt_of_not_le hdepth]

/-- A resolved document unfolds into the inlined tree. -/
theorem shows_of_resolve {value tree : Json} {resolver : Resolver}
    (h : Document.resolve value resolver = .ok document) (htree : value.InlinesTo resolver tree) :
    document.Shows document.top tree := by
  unfold InlinesTo at htree
  rcases resolve_eq_ok h with ⟨hnone, rfl⟩ | ⟨links, hlinks, rfl⟩
  · rw [library_of_references hnone] at htree
    exact (represents_plain hnone).shows htree _ ⟨[], rfl, rfl⟩
  · obtain ⟨visited, -, hpending, hlinked⟩ := linked_of_linksFrom hlinks (.start _)
    exact (represents_of_linked hlinked).shows htree _
      ⟨hpending _ List.mem_cons_self htree.isSome_at?, rfl⟩

/-- The inlined tree, taken as a document in which no reference is followed, unfolds into itself. -/
theorem shows_plain_of_inlines {path : Path} {tree : Json} (h : root.Inlines path tree)
    {whole : Json} {place : Path} (hplace : whole.at? place = some tree) :
    (Document.plain whole).Shows (.node place) tree := by
  have hview : ∀ {value : Json} {place : Path}, whole.at? place = some value →
      (Document.plain whole).view (.node place) =
        value.viewThrough fun step => .node (place ++ [step]) := by
    intro value place hplace
    simp only [view, Document.plain, hplace]
    exact viewOf_eq _ place value
  induction h generalizing place with
  | letter means => exact .intro (hview hplace) (List.forall_mem_nil _)
  | scalar means found scalar =>
      exact .intro (hview hplace) (by rw [parts_of_isScalar scalar]; exact List.forall_mem_nil _)
  | @array path target items value means found parts ih =>
      refine .intro (hview hplace) fun entry hentry => ?_
      obtain ⟨position, hposition, rfl⟩ := mem_parts_range.mp hentry
      refine ih position hposition ?_
      rw [at?_snoc hplace]
      simp [child?, hposition]
  | @object path target members value means found parts ih =>
      refine .intro (hview hplace) fun entry hentry => ?_
      obtain ⟨member, hmember, rfl⟩ := mem_parts_named.mp hentry
      refine ih member hmember ?_
      rw [at?_snoc hplace]
      exact lookup_map_of_mem value (List.mem_map_of_mem hmember)

end Document

end CatalogClient
