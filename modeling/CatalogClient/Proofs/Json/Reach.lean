/-
# Resolutions within reach

If whatever a document refers to means something, its references are resolved, or the machine does
not reach far enough down for it. Nothing else can go wrong: no reference is met again while it is
being resolved, since what a reference needs for its meaning is well-founded. A document within the
reach of the machine is resolved in any case.
-/

import CatalogClient.Proofs.Json.Inlining
import Mathlib.Logic.Relation

namespace CatalogClient

/-- The value is found, or there is no end and no room for it. -/
def FoundIf {α : Type} (room : Prop) (outcome : Except ReferenceFault α) (value : α) : Prop :=
  outcome = .ok value ∨ ¬room ∧ outcome = .error .endless

namespace FoundIf

variable {α β : Type} {room : Prop} {outcome : Except ReferenceFault α} {value : α}

theorem ok (value : α) : FoundIf room (.ok value) value :=
  Or.inl rfl

theorem bind {next : α → Except ReferenceFault β} {result : β} (h : FoundIf room outcome value)
    (hnext : FoundIf room (next value) result) : FoundIf room (outcome >>= next) result := by
  rcases h with rfl | ⟨hroom, rfl⟩
  · exact hnext
  · exact Or.inr ⟨hroom, rfl⟩

end FoundIf

namespace Json

/-- The paths of all references. -/
def referencePaths (root : Json) : List Path :=
  root.paths.filter fun path => (root.referenceAt? path).isSome

/-- The references in a part of a value stand at the paths that they have there. -/
theorem referencePaths_below {root part : Json} {step : Step} (h : root.child? step = some part) :
    ((part.paths.map (step :: ·)).filter fun path => (root.referenceAt? path).isSome) =
      part.referencePaths.map (step :: ·) := by
  rw [List.filter_map, referencePaths]
  congr 2
  funext path
  simp only [Function.comp_apply, referenceAt?, at?, h, Option.bind_some]

/-- No document under its name has a reference in the place of a text that is refused. -/
def Unrefused (resolver : Resolver) (root : Json) : Prop :=
  ∀ key document, root.get? key = some document →
    ∀ text ∈ document.nestedReferences, nestedFault? resolver key text = none

/-- A place that is taken for what it means when the reference at another one is followed. -/
inductive NeededFor (root : Json) : Path → Path → Prop
  | intro {next here : Path} {text key : String} {reference : Reference}
      {front back : List (List Char)} (found : root.referenceAt? here = some text)
      (within : Reference.within? (nameOfPath here).toList text.toList = some reference)
      (named : reference.key? = some key)
      (split : Reference.parts reference.pointer = front ++ back)
      (leads : Leads root here (.node [.key key]) front (.node next)) (other : next ≠ here) :
      NeededFor root next here

variable {root : Json} {resolver : Resolver}

theorem not_self_of_acc {α : Type} {r : α → α → Prop} {a : α} (h : Acc r a) : ¬r a a := by
  induction h with
  | intro a _ ih => exact fun hself => ih a hself hself

mutual

/-- Whatever is needed for the meaning of a place is well-founded. -/
theorem Means.acc {place meant : Place} (h : Means root place meant) :
    ∀ here, place = .node here → Acc (NeededFor root) here := by
  match h with
  | .letter c => nofun
  | .value plain =>
      intro here hplace
      obtain rfl := Place.node.inj hplace
      refine Acc.intro _ fun next hneeded => ?_
      cases hneeded with
      | intro found => cases plain.symm.trans found
  | .reference found within named known leads other means =>
      intro here hplace
      obtain rfl := Place.node.inj hplace
      refine Acc.intro _ fun next hneeded => ?_
      cases hneeded with
      | intro found' within' named' split leads' other' =>
          obtain rfl := Option.some.inj (found.symm.trans found')
          obtain rfl := Option.some.inj (within.symm.trans within')
          obtain rfl := Option.some.inj (named.symm.trans named')
          exact leads.acc (fun target htarget => means.acc target htarget) split leads' other'

/-- So is what a pointer leads through, if it leads to such a place. -/
theorem Leads.acc {own : Path} {start place : Place} {parts : List (List Char)}
    (h : Leads root own start parts place)
    (hplace : ∀ target, place = .node target → Acc (NeededFor root) target) {next : Path}
    {front back : List (List Char)} (hsplit : parts = front ++ back)
    (hleads : Leads root own start front (.node next)) (hother : next ≠ own) :
    Acc (NeededFor root) next := by
  match h with
  | .done =>
      obtain ⟨rfl, -⟩ := List.append_eq_nil_iff.mp hsplit.symm
      cases hleads with
      | done => exact hplace next rfl
  | .within entered rest =>
      cases hleads with
      | done => exact absurd rfl hother
      | within entered' leads' =>
          obtain ⟨rfl, hrest⟩ := List.cons.inj hsplit
          obtain rfl := Option.some.inj (entered.symm.trans entered')
          exact rest.acc hplace hrest leads' hother
      | step foreign' => exact absurd rfl foreign'
  | .step foreign means entered rest =>
      have hstart := means.acc
      cases hleads with
      | done => exact hstart next rfl
      | within => exact absurd rfl foreign
      | step _ means' entered' leads' =>
          obtain ⟨rfl, hrest⟩ := List.cons.inj hsplit
          obtain rfl := means.unique means'
          obtain rfl := Option.some.inj (entered.symm.trans entered')
          exact rest.acc hplace hrest leads' hother

end

/-- One more part of a pointer. -/
theorem Leads.snoc {own : Path} {start place next : Place} {parts : List (List Char)}
    {part : List Char} (h : Leads root own start parts place)
    (hlast : Leads root own place [part] next) : Leads root own start (parts ++ [part]) next := by
  match h with
  | .done => exact hlast
  | .within entered rest => exact .within entered (rest.snoc hlast)
  | .step foreign means entered rest => exact .step foreign means entered (rest.snoc hlast)

section Locating

variable {room : Prop} {links : List (Path × Place)} {above : List Path} {here : Path}

/-- The top of a document that is named is known, if the document is not too deep. -/
theorem found_topOf (hroot : Unrefused resolver root)
    (hdepth : room → ∀ key document, root.get? key = some document →
      document.depth ≤ resolver.machine.depth)
    {base text key : String} {reference : Reference} (named : reference.key? = some key)
    (known : (root.get? key).isSome = true) :
    FoundIf room (topOf resolver root base text reference) [.key key] := by
  obtain ⟨document, hdocument⟩ := Option.isSome_iff_exists.mp known
  have hnested : document.nestedReferences.findSome? (nestedFault? resolver key) = none :=
    List.findSome?_eq_none_iff.mpr (hroot key document hdocument)
  unfold topOf
  simp only [named, hdocument]
  by_cases hbase : key = base
  · rw [if_pos hbase]
    exact .ok _
  · rw [if_neg hbase, earlyFault?, hnested]
    by_cases hdeep : resolver.machine.depth < document.depth
    · rw [if_pos hdeep]
      exact Or.inr ⟨fun hroom => Nat.not_lt_of_le (hdepth hroom key document hdocument) hdeep, rfl⟩
    · rw [if_neg hdeep]
      exact .ok _

/-- A place that is settled on the way is the reference itself, or it is located. -/
theorem found_settle {start meant : Place}
    (hown : start = .node here → meant = .node here)
    (hlocate : ∀ path, path ≠ here → start = .node path →
      FoundIf room (locate resolver root links (here :: above) path) meant)
    (hletter : ∀ c, start = .letter c → meant = .letter c) :
    FoundIf room (settle resolver root links above here start) meant := by
  cases start with
  | letter c =>
      rw [hletter c rfl]
      exact .ok _
  | node path =>
      by_cases hsame : path = here
      · subst hsame
        rw [settle_own, hown rfl]
        exact .ok _
      · rw [settle_of_ne hsame]
        exact hlocate path hsame rfl

theorem Means.of_letter {c : Char} {meant : Place} (h : Means root (.letter c) meant) :
    meant = .letter c := by
  cases h with
  | letter => rfl

/-- A pointer is followed to where it leads, if the places on its way are located. -/
theorem found_advance {text key : String} {reference : Reference}
    (hlocate : ∀ front back next meant, Reference.parts reference.pointer = front ++ back →
      Leads root here (.node [.key key]) front (.node next) → next ≠ here →
        Means root (.node next) meant →
          FoundIf room (locate resolver root links (here :: above) next) meant)
    {front parts : List (List Char)} (hsplit : Reference.parts reference.pointer = front ++ parts)
    {start place : Place} (hfront : Leads root here (.node [.key key]) front start)
    (h : Leads root here start parts place) :
    FoundIf room
      (parts.foldlM (advance resolver root links above here text reference) start) place := by
  induction parts generalizing front start with
  | nil =>
      cases h with
      | done => exact .ok _
  | cons part parts ih =>
      rw [List.foldlM_cons]
      have hnext : ∀ {meant next : Place},
          FoundIf room (settle resolver root links above here start) meant →
            root.enter? meant part = some next →
              FoundIf room (advance resolver root links above here text reference start part)
                next := by
        intro meant next hsettle hentered
        refine hsettle.bind ?_
        simp only [hentered]
        exact .ok _
      have hsplit' : Reference.parts reference.pointer = (front ++ [part]) ++ parts := by
        rw [hsplit, List.append_assoc, List.singleton_append]
      cases h with
      | within entered rest =>
          refine (hnext ?_ entered).bind
            (ih hsplit' (hfront.snoc (.within entered .done)) rest)
          rw [settle_own]
          exact .ok _
      | step foreign means entered rest =>
          refine (hnext ?_ entered).bind
            (ih hsplit' (hfront.snoc (.step foreign means entered .done)) rest)
          refine found_settle (fun hsame => absurd hsame foreign) (fun path hother hstart => ?_)
            fun c hstart => ?_
          · subst hstart
            exact hlocate front (part :: parts) path _ hsplit hfront hother means
          · subst hstart
            exact means.of_letter

/-- What a place means is located, unless the machine does not reach far enough down. -/
theorem found_locate (hroot : Unrefused resolver root)
    (hdepth : room → ∀ key document, root.get? key = some document →
      document.depth ≤ resolver.machine.depth)
    (hlinks : SoundLinks root links) {meant : Place} (hmeans : Means root (.node here) meant)
    (habove : ∀ path ∈ above, Relation.TransGen (NeededFor root) here path)
    (hchain : room → above.length + remaining root.referencePaths above ≤ resolver.machine.chain) :
    FoundIf room (locate resolver root links above here) meant := by
  have hacc := hmeans.acc here rfl
  induction hacc generalizing above meant with
  | intro here hneeded ih =>
      cases hlink : links.lookup here with
      | some place =>
          rw [locate_of_link hlink, (hlinks here place hlink).unique hmeans]
          exact .ok _
      | none =>
          cases hmeans with
          | value plain =>
              rw [locate_of_plain hlink plain]
              exact .ok _
          | @reference _ text key reference place _ found within named known leads other means =>
              have hmet : here ∉ above := fun hmem =>
                not_self_of_acc (Acc.transGen (.intro here hneeded)) (habove here hmem)
              by_cases hlong : resolver.machine.chain < above.length
              · rw [locate_of_chain hlink found hlong]
                exact Or.inr ⟨fun hroom => by have := hchain hroom; omega, rfl⟩
              have hpath : here ∈ root.referencePaths :=
                List.mem_filter.mpr ⟨mem_paths_of_referenceAt? (by rw [found]; nofun),
                  by rw [found]; rfl⟩
              have hless := remaining_lt_of_mem (List.subset_cons_self here above) hpath hmet
                List.mem_cons_self
              have hlocate : ∀ front back next meant,
                  Reference.parts reference.pointer = front ++ back →
                    Leads root here (.node [.key key]) front (.node next) → next ≠ here →
                      Means root (.node next) meant →
                        FoundIf room (locate resolver root links (here :: above) next) meant := by
                intro front back next meant hsplit hleads hother hmeans
                have hneeds : NeededFor root next here :=
                  .intro found within named hsplit hleads hother
                refine ih next hneeds hmeans (List.forall_mem_cons.mpr ⟨.single hneeds,
                  fun path hpath => .trans (.single hneeds) (habove path hpath)⟩) fun hroom => ?_
                have hreach := hchain hroom
                rw [List.length_cons]
                omega
              rw [locate_of_reference hlink found hmet hlong]
              unfold pursue
              simp only [within]
              refine (found_topOf hroot hdepth named known).bind
                ((found_advance hlocate (List.nil_append _).symm .done leads).bind ?_)
              rw [if_neg other]
              refine found_settle (fun hsame => absurd hsame other) (fun path hother hplace => ?_)
                fun c hplace => ?_
              · subst hplace
                exact hlocate _ [] path meant (List.append_nil _).symm leads hother means
              · subst hplace
                exact means.of_letter

end Locating

theorem depth_lt_of_mem_items {items : List Json} {item : Json} (h : item ∈ items) :
    item.depth < (array items).depth := by
  show item.depth < depthOfItems items
  induction items with
  | nil => cases h
  | cons first rest ih =>
      rw [depthOfItems]
      rcases List.mem_cons.mp h with rfl | hrest
      · omega
      · have hless := ih hrest
        omega

theorem depth_lt_of_mem_members {members : List (String × Json)} {member : String × Json}
    (h : member ∈ members) : member.2.depth < (object members).depth := by
  show member.2.depth < depthOfMembers members
  induction members with
  | nil => cases h
  | cons first rest ih =>
      obtain ⟨name, value⟩ := first
      rw [depthOfMembers]
      rcases List.mem_cons.mp h with rfl | hrest
      · exact Nat.lt_of_lt_of_le (Nat.lt_succ_self _) (Nat.le_max_left _ _)
      · have hless := ih hrest
        omega

/-- A place that is inlined means something, and each part of that is inlined into a tree that is
less deep. -/
theorem Inlines.parts {path : Path} {tree : Json} (h : root.Inlines path tree) :
    ∃ meant, Means root (.node path) meant ∧
      ∀ part ∈ root.partPaths meant, ∃ inner, root.Inlines part inner ∧
        inner.depth < tree.depth := by
  cases h with
  | letter means => exact ⟨_, means, nofun⟩
  | @scalar _ target _ means found scalar =>
      refine ⟨_, means, fun part hpart => ?_⟩
      obtain ⟨other, hother, step, hstep, -⟩ := mem_partPaths.mp hpart
      obtain rfl := Option.some.inj (found.symm.trans hother)
      cases tree with
      | array items => cases scalar
      | object members => cases scalar
      | null | bool value | number value | string value => cases hstep
  | @array _ target items value means found parts =>
      refine ⟨_, means, fun part hpart => ?_⟩
      obtain ⟨other, hother, step, hstep, rfl⟩ := mem_partPaths.mp hpart
      obtain rfl := Option.some.inj (found.symm.trans hother)
      obtain ⟨position, hposition, rfl⟩ := List.mem_map.mp hstep
      exact ⟨_, parts position (List.mem_range.mp hposition),
        depth_lt_of_mem_items (List.mem_map_of_mem hposition)⟩
  | @object _ target members value means found parts =>
      refine ⟨_, means, fun part hpart => ?_⟩
      obtain ⟨other, hother, step, hstep, rfl⟩ := mem_partPaths.mp hpart
      obtain rfl := Option.some.inj (found.symm.trans hother)
      obtain ⟨member, hmember, rfl⟩ := List.mem_map.mp hstep
      exact ⟨_, parts member hmember, depth_lt_of_mem_members
        (List.mem_map_of_mem hmember (f := fun member => (member.1, value member.1)))⟩

/-- Pending paths that are inlined into trees which the machine reaches down to the end of. -/
def Pending (room : Prop) (machine : Machine) (root : Json) (pending : List (Nat × Path)) : Prop :=
  ∀ entry ∈ pending, ∃ tree, root.Inlines entry.2 tree ∧
    (room → entry.1 + tree.depth ≤ machine.descent)

/-- The links of what is inlined are found, unless the machine does not reach far enough down. -/
theorem exists_linksFrom_or_endless {room : Prop} (hroot : Unrefused resolver root)
    (hdepth : room → ∀ key document, root.get? key = some document →
      document.depth ≤ resolver.machine.depth)
    (hchain : room → root.referencePaths.length ≤ resolver.machine.chain)
    {pending : List (Nat × Path)} {seen : List Path} {links : List (Path × Place)}
    (hlinks : SoundLinks root links) (hpending : Pending room resolver.machine root pending) :
    ∃ final, FoundIf room (linksFrom resolver root pending seen links) final := by
  fun_induction linksFrom resolver root pending seen links with
  | case1 seen links => exact ⟨links, .ok links⟩
  | case2 seen links level path rest hfar =>
      obtain ⟨tree, -, hreach⟩ := hpending _ List.mem_cons_self
      refine ⟨links, Or.inr ⟨fun hroom => ?_, rfl⟩⟩
      have hlevel : level + tree.depth ≤ resolver.machine.descent := hreach hroom
      omega
  | case3 seen links level path rest hfar hmet ih =>
      exact ih hlinks (List.forall_mem_cons.mp hpending).2
  | case4 seen links level path rest hfar hmet hnone ih =>
      exact ih hlinks (List.forall_mem_cons.mp hpending).2
  | case5 seen links level path rest hfar hmet value hvalue fault hlocate =>
      obtain ⟨tree, htree, -⟩ := hpending _ List.mem_cons_self
      obtain ⟨meant, hmeans, -⟩ := htree.parts
      have hfound := found_locate hroot hdepth hlinks hmeans (List.forall_mem_nil _)
        fun hroom => by
          rw [List.length_nil, Nat.zero_add]
          exact Nat.le_trans List.countP_le_length (hchain hroom)
      rw [hlocate] at hfound
      rcases hfound with hok | ⟨hroom, hendless⟩
      · cases hok
      · obtain rfl := Except.error.inj hendless
        exact ⟨links, Or.inr ⟨hroom, rfl⟩⟩
  | case6 seen links level path rest hfar hmet value hvalue place hlocate ih =>
      obtain ⟨hpath, hrest⟩ := List.forall_mem_cons.mp hpending
      obtain ⟨tree, htree, hreach⟩ := hpath
      obtain ⟨meant, hmeans, hparts⟩ := htree.parts
      obtain rfl := hmeans.unique (means_of_locate hlinks hlocate)
      refine ih (hlinks.visit hmeans) fun entry hentry => ?_
      rcases List.mem_append.mp hentry with hpart | hother
      · obtain ⟨part, hmem, rfl⟩ := List.mem_map.mp hpart
        obtain ⟨inner, hinner, hless⟩ := hparts part hmem
        refine ⟨inner, hinner, fun hroom => ?_⟩
        have hlevel : level + tree.depth ≤ resolver.machine.descent := hreach hroom
        show level + 1 + inner.depth ≤ resolver.machine.descent
        omega
      · exact hrest entry hother

/-- What is known stays known. -/
theorem get?_gather {room : Nat} {base key : String} {known : Keyed Json} {texts : List String}
    {document : Json} (h : known.get? key = some document) :
    (gather resolver room base known texts).get? key = some document := by
  induction room generalizing base known texts with
  | zero => exact h
  | succ room ih =>
      unfold gather
      induction texts generalizing known with
      | nil => exact h
      | cons text rest ihTexts =>
          rw [List.foldl_cons]
          apply ihTexts
          split
          · exact h
          · split
            · exact h
            · split
              · exact h
              · split
                · exact h
                · apply ih
                  show List.lookup key (known ++ _) = some document
                  rw [List.lookup_append, show List.lookup key known = some document from h]
                  rfl

theorem get?_library (value : Json) (resolver : Resolver) :
    (value.library resolver).get? "" = some value :=
  get?_gather rfl

/-- The references of a document all resolve: none is refused in the place of a text, and every one
that is met can be replaced, over and over, until a tree is left. -/
structure Resolves (value : Json) (resolver : Resolver) (tree : Json) : Prop where
  unrefused : Unrefused resolver (value.library resolver)
  inlines : value.InlinesTo resolver tree

/-- The machine reaches far enough down to resolve a document: into each document that is named,
through as many references as there are, and to the end of the tree that is left. -/
structure Fits (value : Json) (resolver : Resolver) (tree : Json) : Prop where
  depth : ∀ key document, (value.library resolver).get? key = some document →
    document.depth ≤ resolver.machine.depth
  chain : (value.library resolver).referencePaths.length ≤ resolver.machine.chain
  descent : tree.depth ≤ resolver.machine.descent ∧ value.depth ≤ resolver.machine.descent

/-- Where no reference stands in the place of a text, none is refused there. -/
theorem Unrefused.of_nested (h : root.nestedReferences = []) : Unrefused resolver root := by
  intro key document hdocument text htext
  have hmem : text ∈ root.nestedReferences :=
    nested_part_subset root (.key key, document) (mem_parts_of_child? hdocument) htext
  rw [h] at hmem
  cases hmem

/-- For a document that is kept alone, only its own depth counts. -/
theorem Fits.of_alone {value tree : Json} (halone : value.library resolver = .object [("", value)])
    (hdepth : resolver.machine.Reaches value.depth)
    (hchain : (Json.object [("", value)]).referencePaths.length ≤ resolver.machine.chain)
    (hdescent : tree.depth ≤ resolver.machine.descent) : value.Fits resolver tree where
  depth key document hdocument := by
    rw [halone] at hdocument
    by_cases hkey : key = ""
    · subst hkey
      obtain rfl := Option.some.inj hdocument
      exact hdepth.1
    · have hlookup : List.lookup key [("", value)] = some document := hdocument
      simp only [List.lookup_cons, beq_false_of_ne hkey, List.lookup_nil] at hlookup
      cases hlookup
  chain := by rwa [halone]
  descent := ⟨hdescent, hdepth.2⟩

end Json

namespace Document

open Json

/-- A document whose references all resolve is resolved, unless the machine does not reach far
enough down. -/
theorem exists_resolve_or_endless {value tree : Json} {resolver : Resolver}
    (h : value.Resolves resolver tree) :
    ∃ document, FoundIf (value.Fits resolver tree) (Document.resolve value resolver) document := by
  have hknown := get?_library value resolver
  have hnested : value.nestedReferences.findSome? (nestedFault? resolver "") = none :=
    List.findSome?_eq_none_iff.mpr (h.unrefused "" value hknown)
  rw [resolve_eq, earlyFault?, hnested]
  by_cases hdeep : resolver.machine.depth < value.depth
  · rw [if_pos hdeep]
    exact ⟨.plain value, Or.inr
      ⟨fun hfits => Nat.not_lt_of_le (hfits.depth "" value hknown) hdeep, rfl⟩⟩
  · rw [if_neg hdeep]
    simp only
    split
    · split
      · next hfar =>
          exact ⟨.plain value, Or.inr ⟨fun hfits => Nat.not_lt_of_le hfits.descent.2 hfar, rfl⟩⟩
      · exact ⟨.plain value, .ok _⟩
    · have hpending : Pending (value.Fits resolver tree) resolver.machine (value.library resolver)
          [(0, [.key ""])] := by
        refine List.forall_mem_singleton.mpr ⟨tree, h.inlines, fun hfits => ?_⟩
        rw [Nat.zero_add]
        exact hfits.descent.1
      obtain ⟨links, hlinks⟩ := @exists_linksFrom_or_endless _ resolver _ h.unrefused Fits.depth
        Fits.chain _ [] [] .nil hpending
      rcases hlinks with hlinks | ⟨hroom, hlinks⟩
      · rw [hlinks]
        exact ⟨_, .ok _⟩
      · rw [hlinks]
        exact ⟨.plain value, Or.inr ⟨hroom, rfl⟩⟩

end Document

end CatalogClient
