/-
# Collisions are reported

The files of the client are told apart by simple names only. Of all declared types of one simple
name, the first one that is handed over gets the file, and one that comes later is reported, unless
it is called the same in its package as well. So the reports of an emission are the collisions among
the types that are handed over: a type is reported exactly if the first one of its simple name,
among those before it, has another qualified name.
-/

import CatalogClient.Proofs.Emission.Decision
import CatalogClient.Proofs.Emission.Handing
import CatalogClient.Proofs.Emission.Records
import Mathlib.Data.List.Nodup

namespace CatalogClient

variable {env : Environment}

/-- Whether a record is the warning of a collision: no other warning ends with its last word. -/
def LogRecord.isCollision (record : LogRecord) : Bool :=
  decide (record.severity = .warning) && ", skipping".toList.isSuffixOf record.text.toList

namespace Collision

theorem isCollision_warning (qualified origin : String) :
    (warning qualified origin).isCollision = true := by
  rw [LogRecord.isCollision, Bool.and_eq_true, List.isSuffixOf_iff_suffix, warning,
    String.toList_append]
  exact ⟨rfl, List.suffix_append _ _⟩

end Collision

theorem Registry.originOf_eq_none {registry : Registry} {name : String}
    (hfresh : name ∉ registry.taken) : registry.originOf name = none := by
  refine List.lookup_eq_none_iff.mpr fun entry hentry => ?_
  rw [bne_iff_ne]
  rintro rfl
  exact hfresh (List.mem_map_of_mem hentry)

namespace Emission

/-- Records were added on the way from one state to another, but none of a collision. -/
def Quiet (start next : Emission) : Prop :=
  ∃ added : Log, next.log = start.log ++ added ∧ added.filter LogRecord.isCollision = []

namespace Quiet

theorem note {severity : Severity} {text : String} (start : Emission)
    (h : LogRecord.isCollision ⟨severity, text⟩ = false) :
    Quiet start (start.note severity text) :=
  ⟨[⟨severity, text⟩], rfl, by simp [h]⟩

end Quiet

theorem quiet_resolve (start : Emission) (type : TypeRef) :
    Quiet start (start.notes (type.resolve env).log) := by
  refine ⟨_, rfl, List.filter_eq_nil_iff.mpr fun record hrecord => ?_⟩
  obtain ⟨qualified, rfl⟩ := TypeRef.notesOutside_resolve type record hrecord
  exact Bool.false_ne_true

theorem quiet_noteUndeclared (start : Emission) (type : TypeRef) :
    Quiet start (start.noteUndeclared type none) := by
  apply Quiet.note
  have hlast : ¬", skipping".toList <:+ ", emitting an empty interface".toList := by decide
  rw [LogRecord.isCollision, Bool.and_eq_false_iff, ← Bool.not_eq_true, ← Bool.not_eq_true,
    List.isSuffixOf_iff_suffix, String.toList_append]
  refine Or.inr fun hsuffix => hlast ?_
  exact List.suffix_of_suffix_length_le hsuffix (List.suffix_append _ _) (by decide)

theorem quiet_finishEnumeration (start : Emission) (type : TypeRef) (constants : List String) :
    Quiet start (start.finishEnumeration type constants) :=
  .note (start.finish _ _) (by simp [LogRecord.isCollision])

theorem quiet_finishInterface (start : Emission) (type : TypeRef)
    (declaration : Option Declaration) (members : List Argument) (imports : List String) :
    Quiet start (start.finishInterface type declaration members imports) :=
  .note (start.finish _ _) (by simp [LogRecord.isCollision])

/-- The registry of a state remembers the types that were handed over before: the origin of a name
is what the first declared type of this name is called. -/
def Remembers (emission : Emission) (before : List TypeRef) : Prop :=
  ∀ name, emission.registry.originOf name = (firstNamed? before name).map TypeRef.qualifiedName

theorem remembers_nil {emission : Emission} (h : emission.registry = {}) :
    emission.Remembers [] := by
  intro name
  rw [h]
  rfl

/-- Types were handed over after others on the way from one state to another: they are remembered,
and their collisions are recorded, in order. -/
structure Hands (start next : Emission) (before handed : List TypeRef) : Prop where
  remembers : next.Remembers (before ++ handed)
  records : ∃ added : Log, next.log = start.log ++ added ∧
    added.filter LogRecord.isCollision = (Collision.among before handed).map Collision.record

namespace Hands

variable {start next last : Emission} {before handed others : List TypeRef} {type : TypeRef}

theorem refl (h : start.Remembers before) : Hands start start before [] where
  remembers := by rwa [List.append_nil]
  records := ⟨[], (List.append_nil _).symm, rfl⟩

theorem trans (h : Hands start next before handed)
    (h' : Hands next last (before ++ handed) others) :
    Hands start last before (handed ++ others) where
  remembers := by
    rw [← List.append_assoc]
    exact h'.remembers
  records := by
    obtain ⟨added, hadded, hrecords⟩ := h.records
    obtain ⟨more, hmore, hrecords'⟩ := h'.records
    refine ⟨added ++ more, by rw [hmore, hadded, List.append_assoc], ?_⟩
    rw [List.filter_append, hrecords, hrecords', Collision.among_append, List.map_append]

/-- Whatever leaves the registry alone and reports no collision hands nothing over. -/
theorem quiet (h : Hands start next before handed) (hquiet : Quiet next last)
    (hregistry : last.registry = next.registry) : Hands start last before handed where
  remembers := by
    intro name
    rw [hregistry]
    exact h.remembers name
  records := by
    obtain ⟨added, hadded, hrecords⟩ := h.records
    obtain ⟨more, hmore, hnone⟩ := hquiet
    refine ⟨added ++ more, by rw [hmore, hadded, List.append_assoc], ?_⟩
    rw [List.filter_append, hnone, List.append_nil, hrecords]

/-- The resolution of a type hands nothing over. -/
theorem after_resolve (h : Hands (start.notes (type.resolve env).log) next before handed) :
    Hands start next before handed where
  remembers := h.remembers
  records := by
    have hquiet : Quiet start (start.notes (type.resolve env).log) := quiet_resolve start type
    obtain ⟨noted, hnoted, hnone⟩ := hquiet
    obtain ⟨added, hadded, hrecords⟩ := h.records
    refine ⟨noted ++ added, by rw [hadded, hnoted, List.append_assoc], ?_⟩
    rw [List.filter_append, hnone, List.nil_append, hrecords]

/-- A type that is not declared is passed over. -/
theorem passed (h : start.Remembers before) (hplain : type.isDeclared = false) :
    Hands start start before [type] where
  remembers := by
    intro name
    rw [firstNamed?_append, firstNamed?, firstNamed?, List.find?_cons_of_neg (by simp [hplain])]
    simpa [firstNamed?] using h name
  records := ⟨[], (List.append_nil _).symm, by simp [Collision.among, Collision.of?, hplain]⟩

/-- A type whose name is free is remembered for it. -/
theorem opened (h : start.Remembers before) (hdeclared : type.isDeclared = true)
    (hopened : start.opened? type = some next) : Hands start next before [type] where
  remembers := by
    intro name
    obtain ⟨-, hentries, -, -⟩ := opened?_eq_some hopened
    rw [Registry.originOf, Keyed.get?, hentries, List.lookup_append, firstNamed?_append,
      Option.map_or, ← h name]
    refine congrArg (Option.or _) ?_
    by_cases hown : type.simpleName = name
    · simp [TypeRef.entry, firstNamed?, hdeclared, hown]
    · simp [TypeRef.entry, firstNamed?, hown, List.lookup_cons, beq_false_of_ne (Ne.symm hown)]
  records := by
    obtain ⟨hfresh, -, -, -⟩ := opened?_eq_some hopened
    have hnone : firstNamed? before type.simpleName = none := by
      rw [← Option.map_eq_none_iff, ← h type.simpleName]
      exact Registry.originOf_eq_none hfresh
    obtain ⟨registry, -, rfl⟩ := Option.map_eq_some_iff.mp hopened
    exact ⟨[], (List.append_nil _).symm, by simp [Collision.among, Collision.of?, hnone]⟩

/-- A type whose name is taken is reported if it is called differently than the first one. -/
theorem taken (h : start.Remembers before) (hdeclared : type.isDeclared = true)
    (hclosed : start.opened? type = none) :
    Hands start (start.noteCollision type) before [type] where
  remembers := by
    intro name
    rw [registry_noteCollision, h name, firstNamed?_append]
    cases hname : firstNamed? before name with
    | some first => rfl
    | none =>
        have hother : type.simpleName ≠ name := by
          rintro rfl
          have htaken := opened?_eq_none_iff.mp hclosed
          obtain ⟨origin, horigin⟩ := Registry.originOf_of_mem_taken htaken
          rw [h, hname] at horigin
          cases horigin
        simp [firstNamed?, hother]
  records := by
    obtain ⟨origin, horigin⟩ := Registry.originOf_of_mem_taken (opened?_eq_none_iff.mp hclosed)
    obtain ⟨first, hfirst, hcalled⟩ := Option.map_eq_some_iff.mp ((h _).symm.trans horigin)
    rw [noteCollision, noteTaken, horigin, Collision.among, Collision.among, List.append_nil,
      Collision.of?, if_pos hdeclared, hfirst, ← hcalled]
    by_cases hsame : first.qualifiedName = type.qualifiedName
    · rw [if_pos (congrArg some hsame), Option.filter_some_neg (by simpa using hsame)]
      exact ⟨[], (List.append_nil _).symm, rfl⟩
    · rw [if_neg (by simpa using hsame), Option.filter_some_pos (by simpa using hsame)]
      exact ⟨[Collision.warning type.qualifiedName first.qualifiedName], rfl,
        List.filter_cons_of_pos (Collision.isCollision_warning _ _)⟩

end Hands

mutual

/-- A walk that succeeds hands over what the search does, and reports the collisions. -/
theorem EmitsAll.hands {start next : Emission} {types before : List TypeRef}
    {outcome : Except Rejection Unit} (h : EmitsAll env start types next outcome)
    (hok : outcome = .ok ()) (hbefore : start.Remembers before) :
    Hands start next before (env.handed start.registry.taken types) := by
  match h with
  | .stop first => cases hok
  | .nil =>
      rw [Environment.handed_nil]
      exact .refl hbefore
  | .cons first others =>
      have hfirst := first.hands rfl hbefore
      have hothers := others.hands hok hfirst.remembers
      rw [(first.extends rfl).taken] at hothers
      rw [← List.singleton_append, Environment.handed_append]
      exact hfirst.trans hothers

theorem Emits.hands {start next : Emission} {type : TypeRef} {before : List TypeRef}
    {outcome : Except Rejection (Option String)} (h : Emits env start type next outcome)
    {file : Option String} (hok : outcome = .ok file) (hbefore : start.Remembers before) :
    Hands start next before (env.handed start.registry.taken [type]) := by
  match h with
  | .unfinished .. => cases hok
  | .passed plain =>
      rw [Environment.handed_cons_of_passed [] (by simp [plain]), Environment.handed_nil]
      exact .passed hbefore plain
  | .taken declared closed =>
      have hseen := opened?_eq_none_iff.mp closed
      rw [Environment.handed_cons_of_passed [] (by simp [hseen]), Environment.handed_nil]
      exact .taken hbefore declared closed
  | .enumeration kind hopened =>
      have hdeclared : type.isDeclared = true := by simp [TypeRef.isDeclared, kind]
      have hplain : type.kind ≠ .composite := by rw [kind]; decide
      rw [Environment.handed_cons_of_fresh [] hdeclared (opened?_eq_some hopened).1,
        Environment.successors_of_kind_ne hplain, Environment.handed_nil, Environment.handed_nil]
      exact (Hands.opened hbefore hdeclared hopened).quiet (quiet_finishEnumeration _ type _) rfl
  | .undeclared kind hopened absent =>
      have hdeclared : type.isDeclared = true := by simp [TypeRef.isDeclared, kind]
      rw [Environment.handed_cons_of_fresh [] hdeclared (opened?_eq_some hopened).1,
        Environment.successors_of_absent absent, Environment.handed_nil, Environment.handed_nil]
      have hnoted := (Hands.opened hbefore hdeclared hopened).quiet
        (quiet_noteUndeclared _ type) (registry_noteUndeclared _ type none)
      exact hnoted.quiet (quiet_finishInterface _ type none [] []) rfl
  | .interface kind hopened found members =>
      have hdeclared : type.isDeclared = true := by simp [TypeRef.isDeclared, kind]
      have hown := Hands.opened hbefore hdeclared hopened
      have hbelow := members.hands rfl hown.remembers
      rw [Environment.handed_cons_of_fresh [] hdeclared (opened?_eq_some hopened).1,
        Environment.successors_of_find? kind found, Environment.handed_nil, List.append_nil,
        ← (taken_of_opened? hopened).2]
      exact (hown.trans hbelow).quiet (quiet_finishInterface _ type _ _ _) rfl

theorem Follows.hands {start next : Emission} {owner : String} {fields : List Field}
    {members : List Argument} {imports : List String} {before : List TypeRef}
    {outcome : Except Rejection (List Argument × List String)}
    (h : Follows env start owner fields members imports next outcome)
    {result : List Argument × List String} (hok : outcome = .ok result)
    (hbefore : start.Remembers before) :
    Hands start next before
      (env.handed start.registry.taken (fields.flatMap (Field.discovered env))) := by
  match h with
  | .unresolved resolved => cases hok
  | .blocked resolved below => cases hok
  | .done =>
      rw [List.flatMap_nil, Environment.handed_nil]
      exact .refl hbefore
  | .field resolved below others =>
      have hbelow := (below.hands rfl hbefore).after_resolve
      have hothers := others.hands hok hbelow.remembers
      rw [(below.extends rfl).taken] at hothers
      rw [List.flatMap_cons, Environment.handed_append, discovered_of_resolve resolved]
      exact hbelow.trans hothers

end

end Emission

namespace EmissionStep

/-- A step that succeeds hands over what the search does for its roots. -/
theorem hands_perform {start : Emission} {before : List TypeRef} {step : EmissionStep}
    (hok : (step.perform env start).2 = .ok ()) (hbefore : start.Remembers before) :
    Emission.Hands start (step.perform env start).1 before
      (env.handed start.registry.taken (step.roots env)) := by
  rcases hperform : step.perform env start with ⟨next, outcome⟩
  rw [hperform] at hok
  cases performs_iff.mpr hperform with
  | unresolved resolved => cases hok
  | map resolved below =>
      rw [roots, TypeRef.discovered_of_resolve resolved]
      exact (below.hands hok hbefore).after_resolve
  | ensure emitted => exact emitted.hands hok hbefore

end EmissionStep

namespace Emission

/-- A run whose steps succeed hands over what one search does for the roots of all steps. -/
theorem hands_after {start : Emission} {before : List TypeRef} {steps : List EmissionStep}
    (h : Succeeds env start steps) (hbefore : start.Remembers before) :
    Hands start (start.after env steps) before
      (env.handed start.registry.taken (steps.flatMap (EmissionStep.roots env))) := by
  induction steps generalizing start before with
  | nil =>
      rw [List.flatMap_nil, Environment.handed_nil]
      exact .refl hbefore
  | cons step rest ih =>
      obtain ⟨hstep, hrest⟩ := h
      have hfirst := EmissionStep.hands_perform hstep hbefore
      have hothers := ih hrest hfirst.remembers
      rw [(EmissionStep.extends_perform hstep).taken] at hothers
      rw [List.flatMap_cons, Environment.handed_append]
      exact hfirst.trans hothers

end Emission

/-- What a run makes of a collision: the name belongs to the first type, which was handed over
before the later one, the only file of this name is the one that is rendered for the first type, and
no file changes when the later type is handed over. -/
structure Collision.Settled (env : Environment) (handed : List TypeRef) (last : Emission)
    (files : List SourceFile) (collision : Collision) : Prop where
  order : ∃ earlier rest, handed = earlier ++ collision.later :: rest ∧
    firstNamed? earlier collision.later.simpleName = some collision.first
  differ : collision.first.qualifiedName ≠ collision.later.qualifiedName
  origin : last.registry.originOf collision.later.simpleName =
    some collision.first.qualifiedName
  file : ∃ file ∈ files, collision.first.sourceFile env = .ok file ∧
    ∀ other ∈ files, other.name = Emission.fileName collision.later.simpleName → other = file
  untouched : ∀ state : Emission, collision.later.simpleName ∈ state.registry.taken →
    (state.ensure env collision.later).emission.project = state.project

namespace Emission

/-- Handing over a declared type whose name is taken leaves all files as they are. -/
theorem project_ensure_of_taken {state : Emission} {type : TypeRef}
    (hdeclared : type.isDeclared = true) (htaken : type.simpleName ∈ state.registry.taken) :
    (state.ensure env type).emission.project = state.project := by
  have hclosed := opened?_eq_none_iff.mpr htaken
  have hemits : Emits env state type (state.noteCollision type) (.ok none) :=
    .taken hdeclared hclosed
  obtain ⟨hstate, -⟩ := Prod.mk.inj hemits.result_eq
  rw [hstate, project_noteCollision]

/-- The collisions of a run that began with an empty registry are settled in its end. -/
theorem settled_after {start : Emission} {steps : List EmissionStep} (hempty : start.registry = {})
    (h : Succeeds env start steps) {files : List SourceFile}
    (hrender : (env.visits [] (steps.flatMap (EmissionStep.roots env))).map
      (TypeRef.sourceFile env) = files.map .ok)
    {collision : Collision}
    (hmem : collision ∈
      Collision.among [] (env.handed [] (steps.flatMap (EmissionStep.roots env)))) :
    collision.Settled env (env.handed [] (steps.flatMap (EmissionStep.roots env)))
      (start.after env steps) files := by
  obtain ⟨earlier, rest, hsplit, hdeclared, hfirst, hother⟩ := Collision.mem_among_iff.mp hmem
  rw [List.nil_append] at hfirst
  have hwinner : firstNamed? (env.handed [] (steps.flatMap (EmissionStep.roots env)))
      collision.later.simpleName = some collision.first := by
    rw [hsplit, firstNamed?_append, hfirst, Option.some_or]
  have horigin := (hands_after h (remembers_nil hempty)).remembers collision.later.simpleName
  rw [hempty] at horigin
  have hvisited := hwinner
  rw [Environment.firstNamed?_handed List.not_mem_nil] at hvisited
  obtain ⟨file, hfound, hfile⟩ := TypeRef.find?_of_rendered hrender hvisited
  refine ⟨⟨earlier, rest, hsplit, hfirst⟩, hother, ?_, ⟨file, List.mem_of_find?_eq_some hfound,
    hfile, fun other hmem hname => ?_⟩, fun state htaken => ?_⟩
  · rw [horigin, List.nil_append]
    exact congrArg (Option.map TypeRef.qualifiedName) hwinner
  · have hnames : (files.map SourceFile.name).Nodup := by
      rw [TypeRef.fileNames_of_rendered hrender]
      refine nodup_fileNames ?_
      exact Environment.nodup_visits _ List.nodup_nil
    apply List.inj_on_of_nodup_map hnames hmem (List.mem_of_find?_eq_some hfound)
    have hown : file.name = fileName collision.later.simpleName := by
      simpa using List.find?_some hfound
    exact hname.trans hown.symm
  · exact project_ensure_of_taken hdeclared htaken

/-- No collision is silent and none is invented. From an empty registry, a run whose steps succeed
hands over the roots of its steps and whatever the fields of the registered types lead to. Its
warnings of collisions are those of the collisions among these types, one for each and in order, so
there is one exactly if two declared types share a simple name and have different qualified names.
Each of them names the later type and the first one, to which name and file belong. -/
theorem collisions_are_reported {start : Emission} {steps : List EmissionStep}
    (hempty : start.registry = {}) (h : Succeeds env start steps) :
    let last := start.after env steps
    let roots := steps.flatMap (EmissionStep.roots env)
    let handed := env.handed [] roots
    ∃ (added : Log) (files : List SourceFile) (registered : List TypeRef),
      last.log = start.log ++ added ∧
      last.project.files = start.project.files ++ files ∧
      last.registry.entries = registered.map TypeRef.entry ∧
      (∀ type, type ∈ handed ↔
        type ∈ roots ∨ ∃ owner ∈ registered, type ∈ env.successors owner) ∧
      added.filter LogRecord.isCollision =
        (Collision.among [] handed).map Collision.record ∧
      ((∃ qualified origin, Collision.warning qualified origin ∈ added) ↔
        ∃ first ∈ handed, ∃ later ∈ handed, first.isDeclared = true ∧ later.isDeclared = true ∧
          first.simpleName = later.simpleName ∧ first.qualifiedName ≠ later.qualifiedName) ∧
      ∀ collision ∈ Collision.among [] handed, collision.Settled env handed last files := by
  intro last roots handed
  have hextends := extends_after h
  obtain ⟨files, hfiles, hrender⟩ := hextends.files
  have hentries := hextends.entries
  obtain ⟨added, hadded, hfiltered⟩ := (hands_after h (remembers_nil hempty)).records
  rw [hempty] at hrender hentries hfiltered
  have hrecords : added.filter LogRecord.isCollision =
      (Collision.among [] handed).map Collision.record := hfiltered
  refine ⟨added, files, env.visits [] roots, hadded, hfiles, hentries,
    fun type => Environment.mem_handed_iff, hrecords, ?_,
    fun collision hmem => settled_after hempty h hrender hmem⟩
  rw [← Collision.exists_mem_among_iff]
  constructor
  · rintro ⟨qualified, origin, hmem⟩
    have hwarning : Collision.warning qualified origin ∈ added.filter LogRecord.isCollision :=
      List.mem_filter.mpr ⟨hmem, Collision.isCollision_warning qualified origin⟩
    rw [hrecords] at hwarning
    obtain ⟨collision, hcollision, -⟩ := List.mem_map.mp hwarning
    exact ⟨collision, hcollision⟩
  · rintro ⟨collision, hcollision⟩
    have hrecord := List.mem_map_of_mem (f := Collision.record) hcollision
    rw [← hrecords] at hrecord
    exact ⟨_, _, (List.mem_filter.mp hrecord).1⟩

end Emission

namespace Sample

/-- A composite type of another package, which shares its simple name with one of the scanned
package. -/
def stranger : TypeRef :=
  .named .composite (some "User") (some "lib")

/-- Steps that hand over both types of the name, the first one by a field. -/
def rivals : List EmissionStep :=
  [.ensure (composite "Node"), .ensure stranger]

theorem rivals_succeed : Emission.Succeeds environment {} rivals :=
  Emission.succeeds_of_sound resolvable.sound {} (by decide) fun _ _ _ _ => trivial

theorem handed_rivals :
    environment.handed [] (rivals.flatMap (EmissionStep.roots environment)) =
      [composite "Node", composite "Node", composite "User", composite "Node", role, stranger] := by
  have hroots : rivals.flatMap (EmissionStep.roots environment) = [composite "Node", stranger] := by
    decide
  have hnode : environment.successors (composite "Node") =
      [composite "Node", composite "User"] := by
    decide
  have huser : environment.successors (composite "User") = [composite "Node", role] := by decide
  have hrole : environment.successors role = [] := by decide
  have hbelow : environment.handed ["Node"] [composite "Node", composite "User"] =
      [composite "Node", composite "User", composite "Node", role] := by
    rw [Environment.handed_cons_of_passed _ (by decide),
      Environment.handed_cons_of_fresh _ (by decide) (by decide), huser,
      Environment.handed_cons_of_passed _ (by decide),
      Environment.handed_cons_of_fresh _ (by decide) (by decide), hrole]
    simp only [Environment.handed_nil]
    rfl
  have hvisits : environment.visits ["Node"] [composite "Node", composite "User"] =
      [composite "User", role] := by
    rw [Environment.visits_cons_of_passed _ (by decide),
      Environment.visits_cons_of_fresh _ (by decide) (by decide), huser,
      Environment.visits_cons_of_passed _ (by decide),
      Environment.visits_cons_of_fresh _ (by decide) (by decide), hrole]
    simp only [Environment.visits_nil]
    rfl
  rw [hroots, Environment.handed_cons_of_fresh _ (by decide) (by decide), hnode,
    show ([] : List String) ++ [(composite "Node").simpleName] = ["Node"] from rfl, hbelow, hvisits,
    Environment.handed_cons_of_passed _ (by decide), Environment.handed_nil]
  rfl

end Sample

namespace Emission

theorem collisions_are_reported_sample :
    ({} : Emission).registry = {} ∧ Succeeds Sample.environment {} Sample.rivals ∧
      (({} : Emission).after Sample.environment Sample.rivals).log.filter LogRecord.isCollision =
        [Collision.warning "lib.User" "app.User"] := by
  obtain ⟨added, _, _, hadded, -, -, -, hrecords, -⟩ :=
    collisions_are_reported (rfl : ({} : Emission).registry = {}) Sample.rivals_succeed
  refine ⟨rfl, Sample.rivals_succeed, ?_⟩
  rw [Sample.handed_rivals] at hrecords
  rw [hadded, show ({} : Emission).log = [] from rfl, List.nil_append, hrecords]
  decide

end Emission

end CatalogClient
