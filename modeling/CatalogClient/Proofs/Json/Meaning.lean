/-
# What references mean

A reference means what its pointer leads to, whatever has been resolved before and in whichever
order. This is stated as rules, without the links found so far and without the references that are
being resolved: a value that is no reference means itself, and a pointer walks through what the
places on its way mean. A place means at most one place, and what is located is what is meant.
-/

import CatalogClient.Json.Reference

namespace CatalogClient

namespace Json

/-- The text of the reference at a path, if there is one. -/
def referenceAt? (root : Json) (path : Path) : Option String :=
  (root.at? path).bind reference?

mutual

/-- The place that a place finally means. A character and a value that is no reference mean
themselves. A reference means what the place means that its pointer leads to from the top of the
document that it names. -/
inductive Means (root : Json) : Place → Place → Prop
  | letter (c : Char) : Means root (.letter c) (.letter c)
  | value {path : Path} (plain : root.referenceAt? path = none) :
      Means root (.node path) (.node path)
  | reference {path : Path} {text key : String} {reference : Reference} {place meant : Place}
      (found : root.referenceAt? path = some text)
      (within : Reference.within? (nameOfPath path).toList text.toList = some reference)
      (named : reference.key? = some key) (known : (root.get? key).isSome = true)
      (leads : Leads root path (.node [.key key]) (Reference.parts reference.pointer) place)
      (other : place ≠ .node path) (means : Means root place meant) :
      Means root (.node path) meant

/-- The place that the parts of a pointer lead to. The pointer belongs to the reference at a path:
this reference is entered as the plain object that it is, and every other place on the way is taken
for what it means. -/
inductive Leads (root : Json) : Path → Place → List (List Char) → Place → Prop
  | done {own : Path} {place : Place} : Leads root own place [] place
  | within {own : Path} {next place : Place} {part : List Char} {parts : List (List Char)}
      (entered : root.enter? (.node own) part = some next)
      (rest : Leads root own next parts place) : Leads root own (.node own) (part :: parts) place
  | step {own : Path} {start meant next place : Place} {part : List Char}
      {parts : List (List Char)}
      (foreign : start ≠ .node own) (means : Means root start meant)
      (entered : root.enter? meant part = some next)
      (rest : Leads root own next parts place) : Leads root own start (part :: parts) place

end

variable {root : Json}

mutual

/-- A place means at most one place. -/
theorem Means.unique {place meant other : Place} (h : Means root place meant)
    (h' : Means root place other) : meant = other := by
  match h with
  | .letter c => cases h' with | letter => rfl
  | .value plain =>
      cases h' with
      | value => rfl
      | reference found => cases plain.symm.trans found
  | .reference found within named known leads foreign means =>
      cases h' with
      | value plain => cases plain.symm.trans found
      | reference found' within' named' known' leads' foreign' means' =>
          obtain rfl := Option.some.inj (found.symm.trans found')
          obtain rfl := Option.some.inj (within.symm.trans within')
          obtain rfl := Option.some.inj (named.symm.trans named')
          obtain rfl := leads.unique leads'
          exact means.unique means'

/-- The parts of a pointer lead to at most one place. -/
theorem Leads.unique {own : Path} {start place other : Place} {parts : List (List Char)}
    (h : Leads root own start parts place) (h' : Leads root own start parts other) :
    place = other := by
  match h with
  | .done => cases h' with | done => rfl
  | .within entered rest =>
      cases h' with
      | within entered' rest' =>
          obtain rfl := Option.some.inj (entered.symm.trans entered')
          exact rest.unique rest'
      | step foreign => exact absurd rfl foreign
  | .step foreign means entered rest =>
      cases h' with
      | within => exact absurd rfl foreign
      | step foreign' means' entered' rest' =>
          obtain rfl := means.unique means'
          obtain rfl := Option.some.inj (entered.symm.trans entered')
          exact rest.unique rest'

end

/-- Links that lead from paths to what these mean. -/
def SoundLinks (root : Json) (links : List (Path × Place)) : Prop :=
  ∀ path place, links.lookup path = some place → Means root (.node path) place

theorem SoundLinks.nil : SoundLinks root [] :=
  nofun

/-- The top of a document that is named is known. -/
theorem top_of_topOf {resolver : Resolver} {base text : String} {reference : Reference}
    {path : Path} (h : topOf resolver root base text reference = .ok path) :
    ∃ key, reference.key? = some key ∧ (root.get? key).isSome = true ∧ path = [.key key] := by
  unfold topOf at h
  split at h
  · cases h
  · next key hkey =>
      split at h
      · split at h <;> cases h
      · next document hdocument =>
          refine ⟨key, hkey, by rw [hdocument]; rfl, ?_⟩
          split at h
          · exact (Except.ok.inj h).symm
          · split at h
            · cases h
            · exact (Except.ok.inj h).symm

/-- A walk along the parts of a pointer goes step by step where the pointer leads. -/
theorem leads_of_foldlM {ε : Type} {own : Path} {advance : Place → List Char → Except ε Place}
    (hadvance : ∀ start part next, advance start part = .ok next →
      ∀ parts place, Leads root own next parts place → Leads root own start (part :: parts) place)
    {parts : List (List Char)} {start place : Place}
    (h : parts.foldlM advance start = .ok place) : Leads root own start parts place := by
  induction parts generalizing start with
  | nil =>
      obtain rfl := Except.ok.inj h
      exact .done
  | cons part rest ih =>
      rw [List.foldlM_cons] at h
      cases hnext : advance start part with
      | error error =>
          rw [hnext] at h
          cases h
      | ok next =>
          rw [hnext] at h
          exact hadvance start part next hnext rest place (ih h)

section Locating

variable (resolver : Resolver) (root : Json) (links : List (Path × Place)) (above : List Path)
  (here : Path)

/-- What a place on the way of the pointer of a reference is taken for. -/
def settle : Place → Except ReferenceFault Place
  | .letter c => .ok (.letter c)
  | .node path =>
      if path = here then .ok (.node path) else locate resolver root links (here :: above) path

/-- One step of the pointer of a reference. -/
def advance (text : String) (reference : Reference) (place : Place) (part : List Char) :
    Except ReferenceFault Place := do
  let place ← settle resolver root links above here place
  match root.enter? place part with
  | some next => .ok next
  | none => .error (.broken text (.pointer (String.ofList reference.pointer)))

/-- The place at the end of the pointer of a reference. -/
def pursue (text : String) : Except ReferenceFault Place :=
  match Reference.within? (nameOfPath here).toList text.toList with
  | none => .error .misnamed
  | some reference => do
      let top ← topOf resolver root (nameOfPath here) text reference
      let place ← (Reference.parts reference.pointer).foldlM
        (advance resolver root links above here text reference) (.node top)
      if place = .node here then .error (.broken text .itself)
      else settle resolver root links above here place

variable {resolver root links above here}

theorem locate_of_link {place : Place} (hlink : links.lookup here = some place) :
    locate resolver root links above here = .ok place := by
  rw [locate.eq_def, hlink]

theorem locate_of_plain (hlink : links.lookup here = none)
    (hplain : root.referenceAt? here = none) :
    locate resolver root links above here = .ok (.node here) := by
  rw [locate.eq_def, hlink]
  simp only
  split
  · rfl
  · next text hfound => cases hfound.symm.trans hplain

/-- A reference that is being resolved already is met again on a ring only. -/
theorem locate_of_met {text : String} (hlink : links.lookup here = none)
    (hfound : root.referenceAt? here = some text) (hmet : here ∈ above) :
    locate resolver root links above here = .error .endless := by
  rw [locate.eq_def, hlink]
  simp only
  split
  · next hplain => cases hfound.symm.trans hplain
  · rw [dif_pos hmet]

theorem locate_of_chain {text : String} (hlink : links.lookup here = none)
    (hfound : root.referenceAt? here = some text) (hchain : resolver.machine.chain < above.length) :
    locate resolver root links above here = .error .endless := by
  by_cases hmet : here ∈ above
  · exact locate_of_met hlink hfound hmet
  · rw [locate.eq_def, hlink]
    simp only
    split
    · next hplain => cases hfound.symm.trans hplain
    · rw [dif_neg hmet, if_pos hchain]

/-- Otherwise the place is that at the end of the pointer. -/
theorem locate_of_reference {text : String} (hlink : links.lookup here = none)
    (hfound : root.referenceAt? here = some text) (hmet : here ∉ above)
    (hchain : ¬resolver.machine.chain < above.length) :
    locate resolver root links above here = pursue resolver root links above here text := by
  rw [locate.eq_def, hlink]
  simp only
  split
  · next hplain => cases hfound.symm.trans hplain
  · next text' hfound' =>
      obtain rfl := Option.some.inj (hfound.symm.trans hfound')
      rw [dif_neg hmet, if_neg hchain]
      rfl

theorem settle_own : settle resolver root links above here (.node here) = .ok (.node here) :=
  if_pos rfl

theorem settle_of_ne {path : Path} (h : path ≠ here) :
    settle resolver root links above here (.node path) =
      locate resolver root links (here :: above) path :=
  if_neg h

/-- The reference itself is entered as it is, and every other place as what it means. -/
theorem settle_eq_ok
    (hlocate : ∀ path place, locate resolver root links (here :: above) path = .ok place →
      Means root (.node path) place)
    {start meant : Place} (h : settle resolver root links above here start = .ok meant) :
    start = .node here ∧ meant = .node here ∨ start ≠ .node here ∧ Means root start meant := by
  cases start with
  | letter c =>
      obtain rfl := Except.ok.inj h
      exact Or.inr ⟨nofun, .letter c⟩
  | node path =>
      by_cases hown : path = here
      · subst hown
        obtain rfl := Except.ok.inj (settle_own.symm.trans h)
        exact Or.inl ⟨rfl, rfl⟩
      · rw [settle_of_ne hown] at h
        exact Or.inr ⟨fun hsame => hown (Place.node.inj hsame), hlocate path meant h⟩

theorem leads_of_advance
    (hlocate : ∀ path place, locate resolver root links (here :: above) path = .ok place →
      Means root (.node path) place)
    {text : String} {reference : Reference} {start next place : Place} {part : List Char}
    {parts : List (List Char)}
    (h : advance resolver root links above here text reference start part = .ok next)
    (hrest : Leads root here next parts place) : Leads root here start (part :: parts) place := by
  unfold advance at h
  cases hsettled : settle resolver root links above here start with
  | error fault =>
      rw [hsettled] at h
      cases h
  | ok meant =>
      simp only [hsettled] at h
      cases hentered : root.enter? meant part with
      | none =>
          simp only [bind, Except.bind, hentered] at h
          cases h
      | some found =>
          simp only [bind, Except.bind, hentered] at h
          obtain rfl := Except.ok.inj h
          rcases settle_eq_ok hlocate hsettled with ⟨rfl, rfl⟩ | ⟨hforeign, hmeans⟩
          · exact .within hentered hrest
          · exact .step hforeign hmeans hentered hrest

/-- A pointer that is followed to its end gives the reference its meaning. -/
theorem means_of_pursue
    (hlocate : ∀ path place, locate resolver root links (here :: above) path = .ok place →
      Means root (.node path) place)
    {text : String} {place : Place} (hfound : root.referenceAt? here = some text)
    (h : pursue resolver root links above here text = .ok place) :
    Means root (.node here) place := by
  unfold pursue at h
  cases hwithin : Reference.within? (nameOfPath here).toList text.toList with
  | none =>
      rw [hwithin] at h
      cases h
  | some reference =>
      simp only [hwithin] at h
      cases htop : topOf resolver root (nameOfPath here) text reference with
      | error fault =>
          rw [htop] at h
          cases h
      | ok top =>
          obtain ⟨key, hnamed, hknown, rfl⟩ := top_of_topOf htop
          cases hwalk : (Reference.parts reference.pointer).foldlM
              (advance resolver root links above here text reference) (.node [.key key]) with
          | error fault =>
              simp only [htop, bind, Except.bind, hwalk] at h
              cases h
          | ok reached =>
              simp only [htop, bind, Except.bind, hwalk] at h
              split at h
              · cases h
              · next hother =>
                  have hleads := leads_of_foldlM
                    (fun start part next hnext parts place =>
                      leads_of_advance hlocate hnext) hwalk
                  rcases settle_eq_ok hlocate h with ⟨hown, -⟩ | ⟨-, hmeans⟩
                  · exact absurd hown hother
                  · exact .reference hfound hwithin hnamed hknown hleads hother hmeans

end Locating

/-- What is located is what is meant, if the links that are given lead to what is meant. -/
theorem means_of_locate {resolver : Resolver} {links : List (Path × Place)}
    (hlinks : SoundLinks root links) {above : List Path} {here : Path} {place : Place}
    (h : locate resolver root links above here = .ok place) : Means root (.node here) place := by
  induction hroom : remaining root.paths above using Nat.strongRecOn
    generalizing above here place with
  | ind room ih =>
      cases hlink : links.lookup here with
      | some found =>
          obtain rfl := Except.ok.inj ((locate_of_link hlink).symm.trans h)
          exact hlinks here found hlink
      | none =>
          cases hfound : root.referenceAt? here with
          | none =>
              obtain rfl := Except.ok.inj ((locate_of_plain hlink hfound).symm.trans h)
              exact .value hfound
          | some text =>
              by_cases hmet : here ∈ above
              · cases (locate_of_met hlink hfound hmet).symm.trans h
              by_cases hchain : resolver.machine.chain < above.length
              · cases (locate_of_chain hlink hfound hchain).symm.trans h
              rw [locate_of_reference hlink hfound hmet hchain] at h
              have hless : remaining root.paths (here :: above) < room := by
                obtain ⟨value, hreached, -⟩ := Option.bind_eq_some_iff.mp hfound
                rw [← hroom]
                exact remaining_lt_of_mem (List.subset_cons_self here above)
                  (mem_paths_of_at? hreached) hmet List.mem_cons_self
              have hlocate : ∀ path place, locate resolver root links (here :: above) path =
                  .ok place → Means root (.node path) place :=
                fun path place hlocated => ih _ hless hlocated rfl
              exact means_of_pursue hlocate hfound h

end Json

end CatalogClient
