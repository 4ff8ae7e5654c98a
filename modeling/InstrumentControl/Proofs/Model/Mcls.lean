import InstrumentControl.Model.Mcls
import InstrumentControl.Proofs.Decimal.ReadBack
import InstrumentControl.Proofs.Domain
import InstrumentControl.Proofs.Instrument.Requests
import InstrumentControl.Proofs.Template.Filling

/-! The current of a laser diode.  A current is sent only right after the source has said which
channel is selected, and only within the limit of that channel, whatever is asked of the instrument
and whatever it answers.  The token that is sent reads back as the current that was asked for. -/

namespace InstrumentControl.Mcls

open Conversation

/-- When `raw` is the answer to the query of the channel, the channel bears `value`. -/
def Permits (raw : String) (value : Value) : Prop :=
  ∃ (n : Int64) (limit x : Float), ResponseFormat.integer.parse raw = .ok (.int n) ∧
    1 ≤ n.toInt ∧ n.toInt ≤ 4 ∧ maxCurrents[n.toInt.toNat - 1]? = some limit ∧
    value.number? = some x ∧ Decimal.isFinite x = true ∧ 0 ≤ x ∧ x ≤ limit

/-- The token of `value` reads back as the number that `value` is. -/
def ReadsBack (value : Value) : Prop :=
  ∃ x, value.number? = some x ∧ Decimal.readFloat value.toWire.toList = .ok x

theorem Permits.readsBack {raw : String} {value : Value} (h : Permits raw value) :
    ReadsBack value := by
  obtain ⟨-, -, x, -, -, -, -, hnumber, hx, -, -⟩ := h
  exact ⟨x, hnumber, Value.readFloat_toWire hnumber hx⟩

/-! ### Limits -/

theorem limits_finite : ∀ limit ∈ maxCurrents, Decimal.isFinite limit = true := by decide +kernel

theorem limits_le_highestLimit : ∀ limit ∈ maxCurrents, limit ≤ highestLimit := by decide +kernel

theorem highestLimit_finite : Decimal.isFinite highestLimit = true := by decide +kernel

theorem zero_finite : Decimal.isFinite 0 = true := by decide +kernel

theorem maxCurrent_eq_some {n : Int} {limit : Float} : maxCurrent n = some limit ↔
    1 ≤ n ∧ n ≤ 4 ∧ maxCurrents[n.toNat - 1]? = some limit := by
  unfold maxCurrent
  split
  · next hlow =>
    constructor
    · intro h
      cases h
    · rintro ⟨hle, -⟩
      omega
  · next hlow =>
    refine ⟨fun h => ?_, fun h => h.2.2⟩
    obtain ⟨hplace, -⟩ := List.getElem?_eq_some_iff.mp h
    have hlength : maxCurrents.length = 4 := rfl
    exact ⟨by omega, by omega, h⟩

/-- The parameter takes the finite numbers up to the highest of the limits. -/
theorem current_accepts {value : Value} {token : String} : current.Accepts value token ↔
    token = value.toWire ∧ ∃ x, value.number? = some x ∧ Decimal.isFinite x = true ∧
      0 ≤ x ∧ x ≤ highestLimit := by
  rw [← Domain.check_numbers_iff_le (Decimal.isNaN_of_isFinite zero_finite)
    (Decimal.isNaN_of_isFinite highestLimit_finite)]
  constructor
  · rintro (⟨hmapping, -, -, -⟩ | ⟨-, hdomain⟩)
    · cases hmapping
    · exact ⟨rfl, hdomain _ rfl⟩
  · rintro ⟨rfl, hcheck⟩
    refine .plain rfl fun d hd => ?_
    cases hd
    exact hcheck

theorem currentRefusal_eq_none {n : Int64} {value : Value} :
    currentRefusal (.int n) value = none ↔ ∃ limit x, maxCurrent n.toInt = some limit ∧
      value.number? = some x ∧ ¬ limit < x := by
  unfold currentRefusal
  cases hlimit : maxCurrent n.toInt with
  | none => simp [Value.integer?, hlimit]
  | some limit =>
    cases hnumber : value.number? with
    | none => simp [Value.integer?, hlimit]
    | some x => simp [Value.integer?, hlimit]

example : currentRefusal (.int 4) (.float 21.6) = none := by decide +kernel

/-! ### The table -/

/-- The table of the source. -/
structure IsTable (r : Registry) : Prop where
  wellFormed : r.WellFormed
  entries : r.entries.map Entry.parameter = parameters
  functions : r.functions = []

theorem exists_table :
    ∃ r, Registry.build model.parameters model.functions = .ok r ∧ IsTable r := by
  have hbuilds : (Registry.build model.parameters model.functions).isOk = true := by
    decide +kernel
  cases hbuild : Registry.build model.parameters model.functions with
  | error cause =>
    rw [hbuild] at hbuilds
    cases hbuilds
  | ok r =>
    obtain ⟨hr, hentries, hfunctions⟩ := Registry.build_eq_ok hbuild
    exact ⟨r, rfl, hr, hentries, List.map_eq_nil_iff.mp hfunctions⟩

/-- No parameter is read by a routine, the current alone is set by one, and no template can become
a command that sets the current. -/
theorem of_mem_parameters {p : Parameter} (h : p ∈ parameters) :
    (∀ script, p.getter ≠ .custom script) ∧ (∀ script, p.setter = .custom script → p = current) ∧
    ∀ source, p.setter = .template source →
      ¬ Template.lead (Template.scan source.toList) <+: "current=".toList ∧
      ¬ "current=".toList <+: Template.lead (Template.scan source.toList) := by
  simp only [parameters, List.mem_cons, List.not_mem_nil, or_false] at h
  -- one case for each parameter; the text of a template before its site is evaluated
  rcases h with rfl | rfl | rfl | rfl | rfl | rfl | rfl | rfl | rfl | rfl | rfl | rfl <;>
    refine ⟨nofun, fun script hscript => ?_, fun source hsource => ?_⟩ <;>
    first | (cases hscript <;> rfl) | (cases hsource <;> decide +kernel)

namespace IsTable

variable {r : Registry} {name : String} {value : Value}

theorem declares (hr : IsTable r) {p : Parameter} (hp : p ∈ parameters) (hname : p.name = name) :
    r.Declares name p := ⟨hr.entries ▸ hp, hname⟩

theorem mem_of_declares (hr : IsTable r) {p : Parameter} (hp : r.Declares name p) :
    p ∈ parameters := hr.entries ▸ hp.1

/-- Only the current is set by a routine. -/
theorem delegates_iff (hr : IsTable r) {routine : Script (Except SetError Unit)} :
    r.Delegates name value routine ↔ name = "current" ∧
      current.Accepts value value.toWire ∧ routine = setCurrent value value.toWire := by
  constructor
  · rintro ⟨p, script, token, hp, hscript, htoken, rfl⟩
    obtain rfl := (of_mem_parameters (hr.mem_of_declares hp)).2.1 script hscript
    cases hscript
    obtain rfl := (current_accepts.mp htoken).1
    exact ⟨hp.2.symm, htoken, rfl⟩
  · rintro ⟨rfl, htoken, rfl⟩
    have hmem : current ∈ parameters := by simp [parameters]
    exact ⟨current, setCurrent, value.toWire, hr.declares hmem rfl, rfl, htoken, rfl⟩

theorem not_current_of_commands (hr : IsTable r) {command : String}
    (h : r.Commands name value command) : ¬ "current=".toList <+: command.toList := by
  intro hcurrent
  obtain ⟨p, source, t, token, hp, hsource, ht, -, hfill⟩ := h
  have hlead := Template.lead_prefix_of_renderValue hfill
  rw [Template.source_of_parse ht] at hlead
  obtain ⟨hshort, hlong⟩ := (of_mem_parameters (hr.mem_of_declares hp)).2.2 source hsource
  rcases List.prefix_or_prefix_of_prefix hlead hcurrent with h | h
  · exact hshort h
  · exact hlong h

end IsTable

/-! ### Setting the current -/

/-- What follows the query of the channel, when the domain has taken `value`. -/
def afterChannel (value : Value) (reply : Except LinkError String) :
    Conversation (Except SetError Unit) :=
  match (reply.mapError GetError.link).bind (Registry.interpret channel) with
  | .error cause => return .error (.dependency "current" cause)
  | .ok selected =>
    match currentRefusal selected value with
    | some reason => return .error (.invalidValue "current" value.display (.rule reason))
    | none => do return (← Conversation.send ("current=" ++ value.toWire)).mapError .link

theorem interpret_channel {raw : String} {selected : Value} :
    Registry.interpret channel raw = .ok selected ↔
      ResponseFormat.integer.parse raw = .ok selected := by
  show (ResponseFormat.integer.parse raw).mapError _ = .ok selected ↔ _
  cases ResponseFormat.integer.parse raw with
  | error cause => exact ⟨nofun, nofun⟩
  | ok value => simp [Except.mapError]

theorem IsTable.get_channel {r : Registry} (hr : IsTable r) (a : Access) :
    r.getThrough a "channel" = .step (.query "channel?") fun reply =>
      .done ((reply.mapError GetError.link).bind (Registry.interpret channel)) := by
  have hp : r.Declares "channel" channel := hr.declares (by simp [parameters]) rfl
  exact hr.wellFormed.getThrough_query hp rfl a

theorem IsTable.runScript_setCurrent {r : Registry} (hr : IsTable r) (depth : Nat)
    (value : Value) : (r.access (depth + 1)).runScript (setCurrent value value.toWire) =
      .step (.query "channel?") (afterChannel value) := by
  show (r.getThrough (r.access depth) "channel").bind _ = _
  rw [hr.get_channel, Program.step_bind, Program.step.injEq]
  refine ⟨rfl, heq_of_eq ?_⟩
  funext reply
  rw [Program.done_bind, afterChannel]
  split
  · next cause hcause =>
    rw [hcause]
    rfl
  · next selected hselected =>
    rw [hselected]
    simp only [Program.done_bind]
    cases currentRefusal selected value <;> rfl

/-- The current is set by one query of the channel and, if it allows the value, one command. -/
theorem IsTable.set_current {r : Registry} (hr : IsTable r) {value : Value}
    (hvalue : current.Accepts value value.toWire) :
    r.set "current" value = .step (.query "channel?") (afterChannel value) := by
  have hlength : r.entries.length = 12 := by
    rw [← List.length_map, hr.entries]
    rfl
  have hdelegates := hr.delegates_iff.mpr ⟨rfl, hvalue, rfl⟩
  show r.setThrough (r.access (2 * r.entries.length)) "current" value = _
  rw [hr.wellFormed.setThrough_delegated hdelegates, hlength]
  exact hr.runScript_setCurrent 23 value

theorem parse_integer {raw : String} {selected : Value}
    (h : ResponseFormat.integer.parse raw = .ok selected) : ∃ n, selected = .int n := by
  unfold ResponseFormat.parse at h
  simp only at h
  split at h
  · next n _ =>
    cases h
    exact ⟨n, rfl⟩
  · cases h

theorem accepts_of_permits {raw : String} {value : Value} (h : Permits raw value) :
    current.Accepts value value.toWire := by
  obtain ⟨n, limit, x, -, -, -, hlimit, hnumber, hx, hzero, hle⟩ := h
  have hmem := List.mem_of_getElem? hlimit
  have hhighest : x ≤ highestLimit := Decimal.le_trans hx (limits_finite limit hmem)
    highestLimit_finite hle (limits_le_highestLimit limit hmem)
  exact current_accepts.mpr ⟨rfl, x, hnumber, hx, hzero, hhighest⟩

/-- The command is sent exactly after an answer that allows the value. -/
theorem afterChannel_permitted {raw : String} {value : Value} (h : Permits raw value) :
    afterChannel value (.ok raw) =
      do return (← Conversation.send ("current=" ++ value.toWire)).mapError .link := by
  obtain ⟨n, limit, x, hparse, hlow, hhigh, hlimit, hnumber, hx, -, hle⟩ := h
  have hfinite := limits_finite limit (List.mem_of_getElem? hlimit)
  have hnone : currentRefusal (.int n) value = none :=
    currentRefusal_eq_none.mpr ⟨limit, x, maxCurrent_eq_some.mpr ⟨hlow, hhigh, hlimit⟩, hnumber,
      (Decimal.not_lt_iff_le (Decimal.isNaN_of_isFinite hfinite)
        (Decimal.isNaN_of_isFinite hx)).mpr hle⟩
  have hselected : ((Except.ok raw : Except LinkError String).mapError GetError.link).bind
      (Registry.interpret channel) = .ok (.int n) := interpret_channel.mpr hparse
  simp only [afterChannel, hselected, hnone]

theorem afterChannel_refused {reply : Except LinkError String} {value : Value}
    (hvalue : current.Accepts value value.toWire)
    (h : ¬ ∃ raw, reply = .ok raw ∧ Permits raw value) :
    ∃ error, afterChannel value reply = return .error error := by
  unfold afterChannel
  split
  · next cause _ => exact ⟨_, rfl⟩
  · next selected hselected =>
    split
    · exact ⟨_, rfl⟩
    · next hnone =>
      exfalso
      cases reply with
      | error cause => cases hselected
      | ok raw =>
        have hparse := interpret_channel.mp hselected
        obtain ⟨n, rfl⟩ := parse_integer hparse
        obtain ⟨limit, x, hmax, hnumber, hle⟩ := currentRefusal_eq_none.mp hnone
        obtain ⟨hlow, hhigh, hlimit⟩ := maxCurrent_eq_some.mp hmax
        obtain ⟨-, y, hnumber', hx, hzero, -⟩ := current_accepts.mp hvalue
        rw [hnumber, Option.some.injEq] at hnumber'
        subst hnumber'
        have hfinite := limits_finite limit (List.mem_of_getElem? hlimit)
        exact h ⟨raw, rfl, n, limit, x, hparse, hlow, hhigh, hlimit, hnumber, hx, hzero,
          (Decimal.not_lt_iff_le (Decimal.isNaN_of_isFinite hfinite)
            (Decimal.isNaN_of_isFinite hx)).mp hle⟩

/-! ### Runs -/

/-- A command for the current was asked for, and the exchange before it is the query of the channel
with an answer that permits it. -/
def guarded (requests : List Request) : Rule := fun last e =>
  ∀ command, e.call = .send command → "current=".toList <+: command.toList →
    ∃ raw value, last = some ⟨.query "channel?", .ok raw⟩ ∧ .set "current" value ∈ requests ∧
      command = "current=" ++ value.toWire ∧ Permits raw value

theorem guarded_of_asks {requests : List Request} (last : Option Exchange) (e : Exchange)
    (h : asks last e) : guarded requests last e := by
  obtain ⟨query, reply, rfl⟩ := h
  intro command hsend
  cases hsend

namespace IsTable

variable {r : Registry} {requests : List Request}

theorem get_keeps (hr : IsTable r) (name : String) : Keeps (guarded requests) (r.get name) := by
  refine Registry.getThrough_keeps hr.wellFormed (fun p hp => ?_) name
  have hgetter := (of_mem_parameters (hr.entries ▸ hp)).1
  exact Registry.fetch_keeps (fun _ _ last reply => guarded_of_asks last _ ⟨_, reply, rfl⟩)
    fun script hscript => absurd hscript (hgetter script)

theorem set_current_keeps (hr : IsTable r) {value : Value}
    (hvalue : current.Accepts value value.toWire) (hmem : .set "current" value ∈ requests) :
    Keeps (guarded requests) (r.set "current" value) := by
  rw [hr.set_current hvalue]
  intro last reply
  refine ⟨guarded_of_asks last _ ⟨_, reply, rfl⟩, ?_⟩
  by_cases hpermitted : ∃ raw, reply = .ok raw ∧ Permits raw value
  · obtain ⟨raw, rfl, hpermits⟩ := hpermitted
    rw [afterChannel_permitted hpermits]
    refine fun sent => ⟨fun command hsend _ => ?_, trivial⟩
    cases hsend
    exact ⟨raw, value, rfl, hmem, rfl, hpermits⟩
  · obtain ⟨error, herror⟩ := afterChannel_refused hvalue hpermitted
    rw [herror]
    trivial

theorem set_keeps (hr : IsTable r) {name : String} {value : Value}
    (hmem : .set name value ∈ requests) : Keeps (guarded requests) (r.set name value) := by
  rcases hr.wellFormed.refuses_or_commands_or_delegates name value with
    ⟨error, herror⟩ | ⟨command, hcommand⟩ | ⟨routine, hroutine⟩
  · rw [show r.set name value = _ from hr.wellFormed.setThrough_refused herror _]
    exact .done _
  · rw [show r.set name value = _ from hr.wellFormed.setThrough_commanded hcommand _]
    refine .call fun last reply command' hsend hcurrent => ?_
    cases hsend
    exact absurd hcurrent (hr.not_current_of_commands hcommand)
  · obtain ⟨rfl, hvalue, -⟩ := hr.delegates_iff.mp hroutine
    exact hr.set_current_keeps hvalue hmem

theorem call_keeps (hr : IsTable r) (name : String) (values : List Value) :
    Keeps (guarded requests) (r.call name values) := by
  have hnone : r.functionEntry? name = none := by
    cases hfound : r.functionEntry? name with
    | none => rfl
    | some f =>
      have hmem := (hr.wellFormed.functionEntry?_eq_some.mp hfound).1
      rw [hr.functions] at hmem
      cases hmem
  rw [Registry.call, hnone]
  exact .done _

theorem answer_keeps (hr : IsTable r) (name : String) {request : Request}
    (hmem : request ∈ requests) :
    Keeps (guarded requests) (Instrument.answer ⟨name, r⟩ request) := by
  cases request with
  | get name => exact (hr.get_keeps name).bind fun _ => .done _
  | set name value => exact (hr.set_keeps hmem).bind fun _ => .done _
  | call name values => exact (hr.call_keeps name values).bind fun _ => .done _
  | snapshot => exact (Instrument.snapshot_keeps hr.get_keeps).bind fun _ => .done _

theorem set_current_permitted (hr : IsTable r) {value : Value} {raw : String}
    (hpermits : Permits raw value) {σ : Type} {link : Link σ} {s : σ}
    (hraw : (link (.query "channel?") s).1 = .ok raw) :
    ∃ reply, (r.set "current" value).exchanges link s =
        [⟨.query "channel?", .ok raw⟩, ⟨.send ("current=" ++ value.toWire), reply⟩] ∧
      ((r.set "current" value).run link s).1 = reply.mapError .link := by
  rw [hr.set_current (accepts_of_permits hpermits), exchanges_step, run_step, hraw,
    afterChannel_permitted hpermits]
  exact ⟨_, rfl, rfl⟩

/-- If the channel is not known to permit the value, setting the current fails and sends nothing. -/
theorem set_current_refused (hr : IsTable r) {value : Value} {σ : Type} {link : Link σ} {s : σ}
    (h : ¬ ∃ raw, (link (.query "channel?") s).1 = .ok raw ∧ Permits raw value) :
    (∃ error, ((r.set "current" value).run link s).1 = .error error) ∧
      ∀ e ∈ (r.set "current" value).exchanges link s, ∀ command, e.call ≠ .send command := by
  rcases current.accepts_or_rejects value with ⟨token, htoken⟩ | ⟨refusal, hrejects⟩
  · obtain rfl := (current_accepts.mp htoken).1
    obtain ⟨error, herror⟩ := afterChannel_refused htoken h
    rw [hr.set_current htoken, exchanges_step, run_step, herror]
    refine ⟨⟨error, rfl⟩, fun e he command hsend => ?_⟩
    rw [List.mem_singleton.mp he] at hsend
    cases hsend
  · have hp : r.Declares "current" current := hr.declares (by simp [parameters]) rfl
    rw [show r.set "current" value = _ from hr.wellFormed.setThrough_rejected hp rfl hrejects _]
    exact ⟨⟨_, rfl⟩, nofun⟩

end IsTable

/-- Whatever is asked of the source and whatever it answers, a current is sent only right after the
source has said which channel is selected, and only within the limit of that channel, and what is
sent reads back as that current.  Otherwise setting the current fails and sends nothing. -/
theorem current_within_limit :
    ∃ r, Registry.build model.parameters model.functions = .ok r ∧
      (∀ (name : String) (requests : List Request) {σ : Type} (link : Link σ) (s : σ)
        (before after : List Exchange) (command : String) (reply : Except LinkError Unit),
        (Instrument.serve ⟨name, r⟩ requests).exchanges link s =
          before ++ ⟨.send command, reply⟩ :: after →
        "current=".toList <+: command.toList →
        ∃ earlier raw value, before = earlier ++ [⟨.query "channel?", .ok raw⟩] ∧
          .set "current" value ∈ requests ∧ command = "current=" ++ value.toWire ∧
          Permits raw value ∧ ReadsBack value) ∧
      ∀ (value : Value) {σ : Type} (link : Link σ) (s : σ),
        let set := r.set "current" value
        let channelReply := (link (.query "channel?") s).1
        (∀ raw, channelReply = .ok raw → Permits raw value →
          ∃ reply, set.exchanges link s =
            [⟨.query "channel?", .ok raw⟩, ⟨.send ("current=" ++ value.toWire), reply⟩] ∧
            (set.run link s).1 = reply.mapError .link ∧ ReadsBack value) ∧
        ((¬ ∃ raw, channelReply = .ok raw ∧ Permits raw value) →
          (∃ error, (set.run link s).1 = .error error) ∧
          ∀ e ∈ set.exchanges link s, ∀ command, e.call ≠ .send command) := by
  obtain ⟨r, hbuild, hr⟩ := exists_table
  refine ⟨r, hbuild, ?sent, fun value σ link s => ⟨fun raw hraw hpermits => ?permitted,
    hr.set_current_refused⟩⟩
  case sent =>
    intro name requests σ link s before after command reply hlog hcurrent
    have hkeeps : Keeps (guarded requests) (Instrument.serve ⟨name, r⟩ requests) :=
      Instrument.serve_keeps fun request hmem => hr.answer_keeps name hmem
    obtain ⟨raw, value, hlast, hmem, hcommand, hpermits⟩ :=
      (hkeeps none).exchanges hlog command rfl hcurrent
    rw [Option.or_none, List.getLast?_eq_some_iff] at hlast
    obtain ⟨earlier, rfl⟩ := hlast
    exact ⟨earlier, raw, value, rfl, hmem, hcommand, hpermits, hpermits.readsBack⟩
  case permitted =>
    obtain ⟨reply, hexchanges, hresult⟩ := hr.set_current_permitted hpermits hraw
    exact ⟨reply, hexchanges, hresult, hpermits.readsBack⟩

end InstrumentControl.Mcls
