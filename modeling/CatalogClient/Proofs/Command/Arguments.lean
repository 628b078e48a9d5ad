/-
# Arguments that differ in the token

Two lists of arguments differ in the token alone if they are the same but for what is given to the
option of the token, as part of its argument or as an argument of its own. Then they are read as
options that differ in the token alone, or both are refused for the same reason: an argument is read
for its look, and the two tokens look alike wherever the reading comes past them.
-/

import CatalogClient.Command.Options
import CatalogClient.Proofs.Settings.Token
import CatalogClient.Proofs.SideBySide

namespace CatalogClient

/-- Two lists of arguments that differ in the token alone. -/
inductive ArgumentsAgree : List String → List String → Prop
  | nil : ArgumentsAgree [] []
  | same (argument : String) {rest others : List String} (agree : ArgumentsAgree rest others) :
      ArgumentsAgree (argument :: rest) (argument :: others)
  | joined {argument other token token' : String} {rest others : List String}
      (look : lookOf argument = .option .gitToken (some token))
      (look' : lookOf other = .option .gitToken (some token'))
      (given : token ≠ "") (given' : token' ≠ "") (agree : ArgumentsAgree rest others) :
      ArgumentsAgree (argument :: rest) (other :: others)
  | apart {argument token token' : String} {rest others : List String}
      (look : lookOf argument = .option .gitToken none) (plain : lookOf token = .plain)
      (plain' : lookOf token' = .plain) (given : token ≠ "") (given' : token' ≠ "")
      (agree : ArgumentsAgree rest others) :
      ArgumentsAgree (argument :: token :: rest) (argument :: token' :: others)

namespace Options

/-- Options that differ in the token alone. -/
def Agree (options others : Options) : Prop :=
  ∃ overrides, options.overrides.Agree overrides ∧ others = { options with overrides }

theorem Agree.refl (options : Options) : options.Agree options :=
  ⟨options.overrides, ⟨options.overrides.gitToken, Or.inl rfl, rfl⟩, rfl⟩

variable {options others : Options}

/-- The same value for the same option leaves no new difference. -/
theorem withValue?_agree (h : options.Agree others) (value : String) (name : OptionName) :
    Option.Rel Agree (options.withValue? value name) (others.withValue? value name) := by
  obtain ⟨_, ⟨token, htoken, rfl⟩, rfl⟩ := h
  cases name with
  | gitToken => exact .some ⟨_, ⟨_, Or.inl rfl, rfl⟩, rfl⟩
  | url | directory | package | gitUrl | gitUsername => exact .some ⟨_, ⟨token, htoken, rfl⟩, rfl⟩
  | help | noGit | initConfig | verbose => exact .none

/-- Two tokens that are not empty make no other difference. -/
theorem withToken_agree (h : options.Agree others) {token token' : String} (given : token ≠ "")
    (given' : token' ≠ "") :
    Option.Rel Agree (options.withValue? token .gitToken) (others.withValue? token' .gitToken) := by
  obtain ⟨_, ⟨_, -, rfl⟩, rfl⟩ := h
  exact .some ⟨_, ⟨_, Or.inr ⟨token, token', rfl, rfl, given, given'⟩, rfl⟩, rfl⟩

/-- A switch is turned on in both, unless the option is none. -/
theorem switchedOn?_cases (h : options.Agree others) (name : OptionName) :
    (∃ switched switched', options.switchedOn? name = some switched ∧
        others.switchedOn? name = some switched' ∧ switched.Agree switched') ∨
      options.switchedOn? name = none ∧ others.switchedOn? name = none := by
  obtain ⟨_, htoken, rfl⟩ := h
  cases name with
  | noGit | initConfig | verbose => exact Or.inl ⟨_, _, rfl, rfl, _, htoken, rfl⟩
  | help | url | directory | package | gitUrl | gitUsername | gitToken => exact Or.inr ⟨rfl, rfl⟩

variable {fits : Bool}

/-- Go on with the arguments after a value was put in, if it could be. -/
def readOn (next : Option Options) (fits : Bool) (rest : List String) :
    Except Refusal Options :=
  match next with
  | some next => next.readAfter fits rest
  | none => .error .misfit

/-- What an option with its value in one argument leaves to be read. -/
theorem readAfter_joined {argument value : String} {name : OptionName} {rest : List String}
    (look : lookOf argument = .option name (some value)) :
    options.readAfter fits (argument :: rest) =
      readOn (options.withValue? value name) fits rest := by
  rw [readAfter, look]
  rfl

/-- What an option with its value in the next argument leaves to be read. -/
theorem readAfter_apart {argument value : String} {name : OptionName} {rest : List String}
    (look : lookOf argument = .option name none) (hswitch : options.switchedOn? name = none)
    (hname : name ≠ .help) (plain : lookOf value = .plain) :
    options.readAfter fits (argument :: value :: rest) =
      readOn (options.withValue? value name) fits rest := by
  rw [readAfter, look]
  simp only [hswitch, hname, plain, if_false, if_true]
  rfl

theorem readAfter_switch {argument : String} {name : OptionName} {switched : Options}
    {rest : List String} (look : lookOf argument = .option name none)
    (hswitch : options.switchedOn? name = some switched) :
    options.readAfter fits (argument :: rest) = switched.readAfter fits rest := by
  rw [readAfter, look]
  simp only [hswitch]

/-- The option for help ends the reading. -/
theorem readAfter_help {argument : String} {rest : List String}
    (look : lookOf argument = .option .help none) :
    options.readAfter fits (argument :: rest) = .error .help := by
  rw [readAfter, look]
  rfl

theorem readAfter_last {argument : String} {name : OptionName}
    (look : lookOf argument = .option name none) (hswitch : options.switchedOn? name = none)
    (hname : name ≠ .help) : options.readAfter fits [argument] = .error .misfit := by
  rw [readAfter, look]
  simp only [hswitch, hname, if_false]

/-- An option that lacks its value fits nothing. -/
theorem readAfter_lacking {argument value : String} {name : OptionName} {rest : List String}
    (look : lookOf argument = .option name none) (hswitch : options.switchedOn? name = none)
    (hname : name ≠ .help) (plain : lookOf value ≠ .plain) :
    options.readAfter fits (argument :: value :: rest) = .error .misfit := by
  rw [readAfter, look]
  simp only [hswitch, hname, plain, if_false]

/-- Two readings end in options that differ in the token alone, or for the same reason. -/
abbrev ReadingsAgree (outcome other : Except Refusal Options) : Prop :=
  OutcomesAgree Eq Agree outcome other

/-- An option that needs a value takes the next argument in both lists, or lacks its value in
both. -/
theorem needing_agree (h : options.Agree others) {argument : String} {name : OptionName}
    (look : lookOf argument = .option name none) (hoff : options.switchedOn? name = none)
    (hoff' : others.switchedOn? name = none) (hname : name ≠ .help) {rest rest' : List String}
    (hrest : ArgumentsAgree rest rest')
    (hnext : ∀ {more more' : List String}, more.length < rest.length →
      ArgumentsAgree more more' → ∀ {found other : Option Options}, Option.Rel Agree found other →
        ReadingsAgree (readOn found fits more) (readOn other fits more')) :
    ReadingsAgree (options.readAfter fits (argument :: rest))
      (others.readAfter fits (argument :: rest')) := by
  cases hrest with
  | nil =>
      rw [readAfter_last look hoff hname, readAfter_last look hoff' hname]
      exact .error rfl
  | @same value more more' hmore =>
      by_cases plain : lookOf value = .plain
      · rw [readAfter_apart look hoff hname plain, readAfter_apart look hoff' hname plain]
        exact hnext (Nat.lt_succ_self _) hmore (withValue?_agree h value name)
      · rw [readAfter_lacking look hoff hname plain, readAfter_lacking look hoff' hname plain]
        exact .error rfl
  | joined look₁ look₂ _ _ _ =>
      rw [readAfter_lacking look hoff hname (by rw [look₁]; exact nofun),
        readAfter_lacking look hoff' hname (by rw [look₂]; exact nofun)]
      exact .error rfl
  | apart look₁ _ _ _ _ _ =>
      rw [readAfter_lacking look hoff hname (by rw [look₁]; exact nofun),
        readAfter_lacking look hoff' hname (by rw [look₁]; exact nofun)]
      exact .error rfl

/-- Arguments that differ in the token alone are read as options that do, or refused alike. -/
theorem readAfter_agree (h : options.Agree others) {arguments arguments' : List String}
    (harguments : ArgumentsAgree arguments arguments') :
    ReadingsAgree (options.readAfter fits arguments) (others.readAfter fits arguments') := by
  induction hlength : arguments.length using Nat.strongRecOn
    generalizing options others fits arguments arguments' with
  | ind length ih =>
      have hnext : ∀ {rest rest' : List String}, rest.length < length →
          ArgumentsAgree rest rest' → ∀ {found other : Option Options},
            Option.Rel Agree found other →
              ReadingsAgree (readOn found fits rest) (readOn other fits rest') := by
        intro rest rest' hless hrest found other hfound
        cases hfound with
        | none => exact .error rfl
        | some hoptions => exact ih _ hless hoptions hrest rfl
      cases harguments with
      | nil =>
          cases fits with
          | true => exact .ok h
          | false => exact .error rfl
      | joined look look' given given' hrest =>
          rw [readAfter_joined look, readAfter_joined look']
          exact hnext (by simp only [← hlength, List.length_cons]; omega) hrest
            (withToken_agree h given given')
      | apart look plain plain' given given' hrest =>
          rw [readAfter_apart look rfl nofun plain, readAfter_apart look rfl nofun plain']
          exact hnext (by simp only [← hlength, List.length_cons]; omega) hrest
            (withToken_agree h given given')
      | @same argument rest rest' hrest =>
          have hless : rest.length < length := by
            simp only [← hlength, List.length_cons]; omega
          cases look : lookOf argument with
          | plain | unknown =>
              rw [readAfter, readAfter, look]
              exact ih _ hless h hrest rfl
          | ambiguous | divider =>
              rw [readAfter, readAfter, look]
              exact .error rfl
          | option name value? =>
              cases value? with
              | some value =>
                  rw [readAfter_joined look, readAfter_joined look]
                  exact hnext hless hrest (withValue?_agree h value name)
              | none =>
                  rcases switchedOn?_cases h name with ⟨switched, switched', hon, hon', hagree⟩ |
                    ⟨hoff, hoff'⟩
                  · rw [readAfter_switch look hon, readAfter_switch look hon']
                    exact ih _ hless hagree hrest rfl
                  · by_cases hname : name = .help
                    · subst hname
                      rw [readAfter_help look, readAfter_help look]
                      exact .error rfl
                    · exact needing_agree h look hoff hoff' hname hrest
                        fun hmore => hnext (Nat.lt_trans hmore hless)

/-- Whether a name fits several options does not depend on the token. -/
theorem hasAmbiguous_agree {arguments arguments' : List String}
    (harguments : ArgumentsAgree arguments arguments') :
    hasAmbiguous arguments' = hasAmbiguous arguments := by
  induction harguments with
  | nil => rfl
  | same argument _ ih => simp only [hasAmbiguous, ih]
  | joined look look' _ _ _ ih => simp only [hasAmbiguous, look, look', ih]
  | apart look plain plain' _ _ _ ih => simp only [hasAmbiguous, look, plain, plain', ih]

/-- The same for whole lists of arguments. -/
theorem read_agree {arguments arguments' : List String}
    (harguments : ArgumentsAgree arguments arguments') :
    ReadingsAgree (read arguments) (read arguments') := by
  unfold read
  rw [hasAmbiguous_agree harguments]
  split
  · exact .error rfl
  · exact readAfter_agree (.refl {}) harguments

end Options

end CatalogClient
