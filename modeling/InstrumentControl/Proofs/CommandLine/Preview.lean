import InstrumentControl.Proofs.CommandLine.DryRun
import InstrumentControl.Proofs.Instrument.Requests

/-! What a dry run shows.  Without an instrument an operation gets as far as its first query, and
which call it makes first depends on no reply.  So the calls of a dry run are the first calls of the
operation on every link. -/

namespace InstrumentControl

namespace Conversation

variable {α β ε σ : Type} {wrap : LinkError → ε} {refusal : ε → Prop}

/-- The calls over a scripted link without responses are the first calls over every link. -/
def Previewed (p : Conversation α) : Prop :=
  ∀ (σ : Type) (link : Link σ) (s : σ),
    (p.run Scripted.link {}).2.log <+: (p.exchanges link s).map Exchange.call

theorem Previewed.done (a : α) : Previewed (.done a) := fun _ _ _ => List.nil_prefix

/-- What is made of the result afterwards does not matter. -/
theorem Previewed.map {p : Conversation α} (h : Previewed p) (f : α → β) :
    Previewed (p.bind fun a => .done (f a)) := by
  intro σ link s
  rw [run_bind, run_done, exchanges_bind_done]
  exact h σ link s

theorem Asks.previewed {p : Conversation (Except ε α)} (h : Asks wrap p) : Previewed p := by
  obtain ⟨command, next, rfl, hnext⟩ := h
  intro σ link s
  -- nothing answers the query, and its failure ends the dry run
  have hreply : Scripted.link (.query command) {} =
      (.error (.noResponse command), { log := [.query command] }) := rfl
  rw [run_step, hreply, hnext, run_done, exchanges_step]
  exact List.prefix_append [Call.query command] _

theorem Opens.previewed {p : Conversation (Except ε α)} (h : Opens refusal wrap p) :
    Previewed p := by
  cases h with
  | refused he => exact Previewed.done _
  | sends hf => exact fun _ _ _ => List.prefix_rfl
  | asks hp => exact hp.previewed

end Conversation

open Conversation

variable {r : Registry}

namespace Registry.Asking

theorem previewed_set (hr : r.Asking) (name : String) (value : Value) :
    Previewed (r.set name value) := by
  by_cases hroutine : ∃ routine, r.Delegates name value routine
  · obtain ⟨routine, hdelegates⟩ := hroutine
    exact (hr.asks_set hdelegates).previewed
  · exact (hr.opens_set (not_exists.mp hroutine)).previewed

theorem previewed_answer (hr : r.Asking) (id : String) {request : Request}
    (hrequest : request ≠ .snapshot) : Previewed (Instrument.answer ⟨id, r⟩ request) := by
  cases request with
  | get name => exact (hr.opens_get name).previewed.map _
  | set name value => exact (hr.previewed_set name value).map _
  | call name values => exact (r.opens_call name values).previewed.map _
  | snapshot => exact absurd rfl hrequest

end Registry.Asking

namespace CommandLine

variable {c : Command}

theorem Command.previewed_perform (hr : r.Asking) (id : String) (asJson : Bool)
    (hc : ∀ device, c ≠ .snapshot device) : Previewed (c.perform ⟨id, r⟩ asJson) := by
  cases c with
  | get device name => exact (hr.opens_get name).previewed.map _
  | set device name text => exact (hr.previewed_set name _).map _
  | call device name arguments => exact (r.opens_call name _).previewed.map _
  | snapshot device => exact absurd rfl (hc device)
  | drivers | params => exact Previewed.done _

/-- Without an instrument, a command that succeeds prints nothing: no parameter can be read. -/
theorem Command.perform_prints_nothing (hr : r.Asking) (id : String) (asJson : Bool)
    (hc : ∀ device, c ≠ .snapshot device) {printed : String}
    (h : ((c.perform ⟨id, r⟩ asJson).run Scripted.link {}).1 = .ok printed) : printed = "" := by
  cases c with
  | get device name =>
    have hunread : ∃ e, ((r.get name).run Scripted.link {}).1 = .error e := by
      rcases hr.refused_or_asks_get name with ⟨e, -, hget⟩ | hasks
      · exact ⟨e, by rw [hget, run_done]⟩
      · obtain ⟨query, hquery⟩ := hasks.run_scripted
        exact ⟨_, hquery⟩
    obtain ⟨e, he⟩ := hunread
    simp [perform, run_bind, he] at h
  | set device name text =>
    simp only [perform, Program.bind_eq, run_bind, Program.pure_eq_done, run_done] at h
    split at h <;> cases h
    rfl
  | call device name arguments =>
    simp only [perform, Program.bind_eq, run_bind, Program.pure_eq_done, run_done] at h
    split at h <;> cases h
    rfl
  | snapshot device => exact absurd rfl (hc device)
  | drivers | params =>
    cases h
    rfl

namespace Invocation

theorem runDry_eq_listing {i : Invocation} {d : DeviceConfig}
    (hregistry : Catalogue.known.registry d.driver = .ok r)
    (hc : ∀ device, i.command ≠ .snapshot device) {shown : String}
    (h : i.runDry Catalogue.known d = .ok shown) :
    shown = Listing.dryRun ((i.command.perform ⟨d.id, r⟩ i.asJson).run Scripted.link {}).2.log
      i.asJson := by
  have hr := Catalogue.asking_of_known hregistry
  simp only [runDry, hregistry] at h
  split at h
  · next printed hprinted =>
    cases h
    rw [Command.perform_prints_nothing hr d.id i.asJson hc hprinted, String.empty_append]
  · split at h <;> cases h
    rfl

/-- The table of every known model is built, and over it a dry run of reading, setting or calling
makes the first calls that the same request makes on any link.  What a dry run shows is the listing
of these calls, and so the beginning of the listing of the calls that the command makes on any
link. -/
theorem dry_run_previews_commands (m : Model) (hm : m ∈ Catalogue.known.models) :
    ∃ r, Catalogue.known.registry m.type = .ok r ∧
      (∀ (id : String) (request : Request), request ≠ .snapshot →
        let answer := Instrument.answer ⟨id, r⟩ request
        ∀ {σ : Type} (link : Link σ) (s : σ),
          (answer.run Scripted.link {}).2.log <+: (answer.exchanges link s).map Exchange.call) ∧
      ∀ (i : Invocation) (d : DeviceConfig), d.driver = m.type →
        (∀ device, i.command ≠ .snapshot device) →
        let perform := i.command.perform ⟨d.id, r⟩ i.asJson
        let log := (perform.run Scripted.link {}).2.log
        (∀ shown, i.runDry Catalogue.known d = .ok shown →
          shown = Listing.dryRun log i.asJson) ∧
        ∀ {σ : Type} (link : Link σ) (s : σ),
          Listing.commands log <+:
            Listing.commands ((perform.exchanges link s).map Exchange.call) := by
  obtain ⟨r, hregistry, -⟩ := Catalogue.exists_known_table hm
  have hr := Catalogue.asking_of_known hregistry
  refine ⟨r, hregistry, fun id request hrequest => hr.previewed_answer id hrequest _,
    fun i d hd hc => ⟨fun shown hshown => ?_, fun link s => ?_⟩⟩
  · exact runDry_eq_listing (hd ▸ hregistry) hc hshown
  · exact (Command.previewed_perform hr d.id i.asJson hc _ link s).filterMap _

/-- Setting the current of the laser: the dry run ends with the question for the channel, which the
setting on a source begins with. -/
theorem dry_run_previews_commands_laser :
    Mcls.model ∈ Catalogue.known.models ∧ laser.driver = Mcls.model.type ∧
    ∃ r, Catalogue.known.registry Mcls.model.type = .ok r ∧
      let answer := Instrument.answer ⟨laser.id, r⟩ (.set "current" (.int 10))
      let asked : Scripted := { fixed := [("channel?", "2")] }
      (answer.run Scripted.link {}).2.log = [.query "channel?"] ∧
      (answer.run Scripted.link {}).2.log <+:
        (answer.exchanges Scripted.link asked).map Exchange.call ∧
      (answer.exchanges Scripted.link asked).map Exchange.call =
        [.query "channel?", .send "current=10"] := by
  have hm : Mcls.model ∈ Catalogue.known.models := by simp [Catalogue.models_known]
  obtain ⟨r, hregistry, hpreview, -⟩ := dry_run_previews_commands Mcls.model hm
  obtain ⟨r', hregistry', hr⟩ := exists_laser_table
  obtain rfl : r' = r := Except.ok.inj (hregistry'.symm.trans hregistry)
  have hset := hr.set_current (Mcls.accepts_of_permits permits_ten)
  refine ⟨hm, rfl, r', hregistry, ?_, hpreview laser.id (.set "current" (.int 10)) nofun _ _, ?_⟩
  · simp only [Instrument.answer, Program.bind_eq, Program.pure_eq_done, run_bind, hset]
    rfl
  · have hreply : (Scripted.link (.query "channel?") { fixed := [("channel?", "2")] }).1 =
        .ok "2" := rfl
    simp only [Instrument.answer, Program.bind_eq, Program.pure_eq_done, exchanges_bind_done, hset,
      exchanges_step, hreply, Mcls.afterChannel_permitted permits_ten]
    rfl

end Invocation

end CommandLine

end InstrumentControl
