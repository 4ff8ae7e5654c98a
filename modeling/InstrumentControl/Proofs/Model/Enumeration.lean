import InstrumentControl.Proofs.Agreement
import InstrumentControl.Proofs.Model.Known
import InstrumentControl.Proofs.Registry.Setting

/-! Parameters that list their values.  A listed value lets every value through that agrees with it,
and the command shows that value's own token.  For plain values this is the token of the listed one.
In the tables of the known models, which list words and small integers, only minus zero has a token
that is not listed. -/

namespace InstrumentControl

open Conversation

namespace Registry

variable {r : Registry} {name source : String} {value : Value} {p : Parameter}
  {choices : List Value} {token : String}

theorem SendsOnly.congr {wanted wanted' : String → Prop} {log : List Exchange}
    {result : Except SetError Unit} (h : ∀ command, wanted command ↔ wanted' command)
    (hsends : SendsOnly wanted log result) : SendsOnly wanted' log result :=
  { hsends with sent := fun command => (hsends.sent command).trans (h command) }

/-- The parameter `name` is set by the template `source` and lists `choices`. -/
structure Enumerates (r : Registry) (name source : String) (choices : List Value) (p : Parameter) :
    Prop where
  declared : r.Declares name p
  setter : p.setter = .template source
  domain : p.domain = some (.oneOf choices)

/-- If a listed value agrees with `value`, setting `name` sends the template with the token of `value`
in it; nothing else is sent. -/
def SendsOwnToken (r : Registry) (name source : String) (choices : List Value) (value : Value) :
    Prop :=
  ∃ t, Template.parse source = .ok t ∧ ∀ {σ : Type} (link : Link σ) (s : σ),
    SendsOnly (fun command => (∃ choice ∈ choices, choice.agrees value = true) ∧
        t.renderValue value.toWire = .ok command)
      ((r.set name value).exchanges link s) ((r.set name value).run link s).1

theorem accepts_listed (hmapping : p.mapping = none) (hdomain : p.domain = some (.oneOf choices)) :
    p.Accepts value token ↔
      token = value.toWire ∧ ∃ choice ∈ choices, choice.agrees value = true := by
  rw [← Domain.check_oneOf]
  constructor
  · rintro (⟨hm, -, -, -⟩ | ⟨-, hcheck⟩)
    · rw [hmapping] at hm
      cases hm
    · exact ⟨rfl, hcheck _ hdomain⟩
  · rintro ⟨rfl, hcheck⟩
    refine .plain hmapping fun d hd => ?_
    rw [hdomain, Option.some.injEq] at hd
    exact hd ▸ hcheck

theorem WellFormed.sendsOwnToken (hr : r.WellFormed) (hp : r.Enumerates name source choices p)
    (value : Value) : r.SendsOwnToken name source choices value := by
  have hmapping : p.mapping = none := by
    obtain ⟨template, -, he⟩ := hr.entry?_of_declares hp.declared
    cases hm : p.mapping with
    | none => rfl
    | some m =>
      have hnone := (he.conversion (by simp [hm])).1
      rw [hp.domain] at hnone
      cases hnone
  obtain ⟨t, ht, hsends⟩ := (hr.sets_setThrough (r.access (2 * r.entries.length)) name value).template
    hp.declared hp.setter
  refine ⟨t, ht, fun link s => (hsends link s).congr fun command => ?_⟩
  simp only [accepts_listed hmapping hp.domain]
  constructor
  · rintro ⟨token, ⟨rfl, hlisted⟩, hcommand⟩
    exact ⟨hlisted, hcommand⟩
  · rintro ⟨hlisted, hcommand⟩
    exact ⟨_, ⟨rfl, hlisted⟩, hcommand⟩

end Registry

/-! ### The known models -/

/-- The parameter lists words, truth values and integers of at most 53 bits, if it lists values. -/
def Parameter.listsDiscrete (p : Parameter) : Bool :=
  match p.domain with
  | some (.oneOf choices) => choices.all Value.isDiscrete
  | _ => true

theorem Catalogue.listsDiscrete_of_known {m : Model} (hm : m ∈ known.models) {p : Parameter}
    (hp : p ∈ m.parameters) : p.listsDiscrete = true := by
  have hall : known.models.all (fun m => m.parameters.all Parameter.listsDiscrete) = true := by
    decide +kernel
  rw [List.all_eq_true] at hall
  exact List.all_eq_true.mp (hall m hm) p hp

theorem Catalogue.isDiscrete_of_known {type : String} {r : Registry}
    (h : known.registry type = .ok r) {name source : String} {choices : List Value} {p : Parameter}
    (hp : r.Enumerates name source choices p) : ∀ choice ∈ choices, choice.isDiscrete = true := by
  obtain ⟨m, hm, hbuild⟩ := exists_model_of_registry h
  obtain ⟨-, hentries, -⟩ := Registry.build_eq_ok hbuild
  have hm' : m ∈ known.models := by
    rw [models_known]
    simp only [List.mem_cons, List.not_mem_nil, or_false] at hm ⊢
    tauto
  have hlists := listsDiscrete_of_known hm' (hentries ▸ hp.declared.1)
  rw [Parameter.listsDiscrete, hp.domain] at hlists
  exact List.all_eq_true.mp hlists

/-- Whatever value is set, a parameter that lists its values sends the value's own token or nothing.
It is the token of each listed value that agrees, if both are plain.  In the tables of the known
models it is a listed token, unless the value is minus zero and zero is listed. -/
theorem enumerations_send_agreeing_tokens (name source : String) (choices : List Value)
    (p : Parameter) (value : Value) :
    (∀ calls : List Registration,
      (Registry.after {} calls).Enumerates name source choices p →
        (Registry.after {} calls).SendsOwnToken name source choices value ∧
        ∀ choice ∈ choices, choice.agrees value = true → choice.IsPlain → value.IsPlain →
          value.toWire = choice.toWire) ∧
    ∀ (type : String) (r : Registry), Catalogue.known.registry type = .ok r →
      r.Enumerates name source choices p →
        r.SendsOwnToken name source choices value ∧
        ∀ choice ∈ choices, choice.agrees value = true → value.toWire = choice.toWire ∨
          value = .float (Decimal.ofBits true 0) ∧ choice = .int 0 := by
  constructor
  · intro calls hp
    have hr : (Registry.after {} calls).WellFormed :=
      (Registry.grows_after {} calls).wellFormed Registry.wellFormed_empty
    exact ⟨hr.sendsOwnToken hp value, fun choice _ h => Value.toWire_eq_of_agrees h⟩
  · intro type r hr hp
    refine ⟨(Catalogue.asking_of_known hr).wellFormed.sendsOwnToken hp value, ?_⟩
    intro choice hchoice h
    exact Value.toWire_of_agrees_discrete h (Catalogue.isDiscrete_of_known hr hp choice hchoice)

theorem Mcls.exists_enable_table : ∃ r, Catalogue.known.registry "mcls" = .ok r ∧
    r.Enumerates "enable" "enable=\x7bval\x7d" [.int 0, .int 1] (bit "enable" "Enable" "enable") := by
  obtain ⟨r, hbuild, hr⟩ := Mcls.exists_table
  refine ⟨r, Catalogue.registry_eq_ok rfl hbuild, ?_, rfl, rfl⟩
  exact hr.declares (by simp [parameters]) rfl

theorem enumerations_send_agreeing_tokens_enable :
    ∃ r, Catalogue.known.registry "mcls" = .ok r ∧
      r.SendsOwnToken "enable" "enable=\x7bval\x7d" [.int 0, .int 1] (.float (Decimal.ofInt 1)) := by
  obtain ⟨r, hr, hp⟩ := Mcls.exists_enable_table
  exact ⟨r, hr, ((enumerations_send_agreeing_tokens _ _ _ _ _).2 "mcls" r hr hp).1⟩

/-- A level of exactly `2^53`. -/
def largeLevel : Parameter where
  name := "level"
  setter := .template "LEV \x7bval\x7d"
  domain := some (.oneOf [.int 9007199254740992])

/-- Minus zero agrees with the listed zero and is sent with its sign.  Another integer agrees with the
listed `2^53` and is sent as it is. -/
theorem unlisted_tokens_sent :
    (∃ r, Catalogue.known.registry "mcls" = .ok r ∧
      (∀ {σ : Type} (link : Link σ) (s : σ), ∃ reply,
        (r.set "enable" (.float (Decimal.ofBits true 0))).exchanges link s =
          [⟨.send "enable=-0", reply⟩]) ∧
      ∀ choice ∈ [Value.int 0, .int 1], "enable=-0" ≠ "enable=" ++ choice.toWire) ∧
    ∃ r, Registry.register {} largeLevel = .ok r ∧
      ∀ {σ : Type} (link : Link σ) (s : σ), ∃ reply,
        (r.set "level" (.int 9007199254740993)).exchanges link s =
          [⟨.send "LEV 9007199254740993", reply⟩] := by
  constructor
  · obtain ⟨r, hr, hp⟩ := Mcls.exists_enable_table
    refine ⟨r, hr, fun link s => ?_, by decide +kernel⟩
    obtain ⟨t, ht, hsends⟩ :=
      (Catalogue.asking_of_known hr).wellFormed.sendsOwnToken hp (.float (Decimal.ofBits true 0))
    have hparse : Template.parse "enable=\x7bval\x7d" =
        .ok ⟨"enable=\x7bval\x7d", ["val"]⟩ := by decide +kernel
    rw [hparse] at ht
    cases ht
    exact ((hsends link s).sent "enable=-0").mpr ⟨⟨.int 0, by decide, rfl⟩, by decide +kernel⟩
  · refine ⟨_, rfl, fun link s => ⟨_, rfl⟩⟩

end InstrumentControl
