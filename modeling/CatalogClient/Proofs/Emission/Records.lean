/-
# The records of a mapping

Mapping a type leaves records of a few kinds: of a type outside the scanned packages, of a name that
another type has taken, of a type without a declaration, and of every file that is finished. A walk
only adds such records after those that are there, wherever it stops.
-/

import CatalogClient.Proofs.Emission.Rules

namespace CatalogClient

/-- The records that are made while types are mapped. -/
inductive MappingRecord : LogRecord → Prop
  | outside (qualified : String) :
      MappingRecord ⟨.debug, qualified ++ " is outside scanned packages"⟩
  | taken (qualified origin : String) :
      MappingRecord ⟨.warning, qualified ++ " shares the simple name with already emitted "
        ++ origin ++ ", skipping"⟩
  | undeclared (qualified : String) :
      MappingRecord ⟨.warning, "No declaration for " ++ qualified
        ++ ", emitting an empty interface"⟩
  | enumeration (name : String) (constants : Nat) :
      MappingRecord ⟨.debug, "Emitted enum " ++ name ++ " (" ++ toString constants
        ++ " constants)"⟩
  | interface (name : String) (members : Nat) :
      MappingRecord ⟨.debug, "Emitted interface " ++ name ++ " (" ++ toString members
        ++ " members)"⟩

/-- Whether a computation reports nothing but types outside the scanned packages. -/
def Logged.NotesOutside {ε α : Type} (computation : Logged ε α) : Prop :=
  ∀ record ∈ computation.log, ∃ qualified : String,
    record = ⟨.debug, qualified ++ " is outside scanned packages"⟩

namespace Logged.NotesOutside

variable {ε α β : Type}

theorem done (value : α) : (Logged.done value : Logged ε α).NotesOutside :=
  List.forall_mem_nil _

theorem ofExcept (outcome : Except ε α) : (Logged.ofExcept outcome).NotesOutside :=
  List.forall_mem_nil _

theorem bind {first : Logged ε α} {next : α → Logged ε β} (hfirst : first.NotesOutside)
    (hnext : ∀ value, (next value).NotesOutside) : (first >>= next).NotesOutside := by
  cases h : first.outcome with
  | error error =>
      rw [bind_of_error h]
      exact hfirst
  | ok value =>
      rw [bind_of_ok h]
      exact List.forall_mem_append.mpr ⟨hfirst, hnext value⟩

end Logged.NotesOutside

namespace TypeRef

variable {env : Environment}

theorem notesOutside_resolveComposite (type : TypeRef) :
    (type.resolveComposite env).NotesOutside := by
  unfold resolveComposite
  split
  · exact .done _
  · apply Logged.NotesOutside.bind
    · intro record hrecord
      obtain rfl := List.mem_singleton.mp hrecord
      exact ⟨_, rfl⟩
    · exact fun _ => .done _

mutual

/-- The resolution of a type only notes that a part of it is outside the scanned packages. -/
theorem notesOutside_resolve : (type : TypeRef) → (type.resolve env).NotesOutside
  | ⟨kind, name, package, component, rawKind, raw, arguments, bounds⟩ => by
      have harguments : (resolveAll env arguments).NotesOutside := notesOutside_resolveAll arguments
      rw [resolve.eq_def]
      cases kind with
      | array =>
          cases component with
          | none => exact .done _
          | some inner => exact (notesOutside_resolve inner).bind fun _ => .done _
      | composite => exact notesOutside_resolveComposite _
      | parameterized =>
          have hgeneric : (match raw with
              | some raw =>
                  if env.scope.admits raw.package then do
                    .ofExcept (joinRaw raw (← resolveAll env arguments))
                  else .done .any
              | none => .done .any : Logged Rejection Target).NotesOutside := by
            cases raw with
            | none => exact .done _
            | some raw =>
                show (if env.scope.admits raw.package then _ else _ : Logged _ _).NotesOutside
                split
                · exact harguments.bind fun _ => .ofExcept _
                · exact .done _
          cases rawKind with
          | none => exact hgeneric
          | some sort =>
              cases sort with
              | map | collection => exact harguments.bind fun _ => .done _
              | other => exact hgeneric
      | wildcard => exact (notesOutside_resolveAll bounds).bind fun _ => .done _
      | enumeration | typeVariable | unknown | void | primitive | string | boolean | number =>
          exact .done _

theorem notesOutside_resolveAll : (types : List TypeRef) → (resolveAll env types).NotesOutside
  | [] => by
      rw [resolveAll]
      exact .done _
  | type :: rest => by
      rw [resolveAll]
      exact (notesOutside_resolve type).bind fun _ =>
        (notesOutside_resolveAll rest).bind fun _ => .done _

end

end TypeRef

namespace Emission

variable {env : Environment}

/-- Only records of mappings come after those of an earlier state. -/
def Logs (start next : Emission) : Prop :=
  ∃ records : Log, (∀ record ∈ records, MappingRecord record) ∧ next.log = start.log ++ records

namespace Logs

theorem of_eq {start next : Emission} (h : next.log = start.log) : Logs start next :=
  ⟨[], List.forall_mem_nil _, by rw [h, List.append_nil]⟩

theorem refl (start : Emission) : Logs start start :=
  of_eq rfl

theorem trans {first middle last : Emission} (hfirst : Logs first middle)
    (hnext : Logs middle last) : Logs first last := by
  obtain ⟨records, hrecords, hmiddle⟩ := hfirst
  obtain ⟨more, hmore, hlast⟩ := hnext
  refine ⟨records ++ more, List.forall_mem_append.mpr ⟨hrecords, hmore⟩, ?_⟩
  rw [hlast, hmiddle, List.append_assoc]

theorem note {severity : Severity} {text : String} (start : Emission)
    (h : MappingRecord ⟨severity, text⟩) : Logs start (start.note severity text) :=
  ⟨[⟨severity, text⟩], List.forall_mem_singleton.mpr h, rfl⟩

theorem notes {ε α : Type} {computation : Logged ε α} (start : Emission)
    (h : computation.NotesOutside) : Logs start (start.notes computation.log) := by
  refine ⟨computation.log, fun record hrecord => ?_, rfl⟩
  obtain ⟨qualified, rfl⟩ := h record hrecord
  exact .outside qualified

end Logs

theorem logs_noteCollision (start : Emission) (type : TypeRef) :
    Logs start (start.noteCollision type) := by
  unfold noteCollision noteTaken
  split
  · exact .refl start
  · exact .note start (.taken _ _)

theorem logs_opened? {start next : Emission} {type : TypeRef}
    (h : start.opened? type = some next) : Logs start next := by
  obtain ⟨registry, -, rfl⟩ := Option.map_eq_some_iff.mp h
  exact .of_eq rfl

theorem logs_noteUndeclared (start : Emission) (type : TypeRef)
    (declaration : Option Declaration) : Logs start (start.noteUndeclared type declaration) := by
  unfold noteUndeclared
  split
  · exact .refl start
  · exact .note start (.undeclared _)

theorem logs_finishEnumeration (start : Emission) (type : TypeRef) (constants : List String) :
    Logs start (start.finishEnumeration type constants) :=
  .note (start.finish _ _) (.enumeration _ _)

theorem logs_finishInterface (start : Emission) (type : TypeRef)
    (declaration : Option Declaration) (members : List Argument) (imports : List String) :
    Logs start (start.finishInterface type declaration members imports) :=
  .note (start.finish _ _) (.interface _ _)

mutual

theorem EmitsAll.logs {start next : Emission} {types : List TypeRef}
    {outcome : Except Rejection Unit} (h : EmitsAll env start types next outcome) :
    Logs start next := by
  match h with
  | .nil => exact .refl start
  | .stop first => exact first.logs
  | .cons first others => exact first.logs.trans others.logs

theorem Emits.logs {start next : Emission} {type : TypeRef}
    {outcome : Except Rejection (Option String)} (h : Emits env start type next outcome) :
    Logs start next := by
  match h with
  | .passed plain => exact .refl start
  | .taken declared closed => exact logs_noteCollision start type
  | .enumeration kind opened =>
      exact (logs_opened? opened).trans (logs_finishEnumeration _ type _)
  | .undeclared kind opened absent =>
      apply (logs_opened? opened).trans
      exact (logs_noteUndeclared _ type none).trans (logs_finishInterface _ type none [] [])
  | .unfinished kind opened found members => exact (logs_opened? opened).trans members.logs
  | .interface kind opened found members =>
      apply (logs_opened? opened).trans
      exact members.logs.trans (logs_finishInterface _ type _ _ _)

theorem Follows.logs {start next : Emission} {owner : String} {fields : List Field}
    {members : List Argument} {imports : List String}
    {outcome : Except Rejection (List Argument × List String)}
    (h : Follows env start owner fields members imports next outcome) : Logs start next := by
  match h with
  | .done => exact .refl start
  | .unresolved resolved => exact .notes start (TypeRef.notesOutside_resolve _)
  | .blocked resolved below =>
      exact (Logs.notes start (TypeRef.notesOutside_resolve _)).trans below.logs
  | .field resolved below others =>
      apply (Logs.notes start (TypeRef.notesOutside_resolve _)).trans
      exact below.logs.trans others.logs

end

end Emission

end CatalogClient
