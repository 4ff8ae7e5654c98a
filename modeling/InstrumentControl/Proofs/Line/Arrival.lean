import InstrumentControl.Link.Serial
import InstrumentControl.Proofs.Conversation
import InstrumentControl.Proofs.Text.Lines

/-! What a line link gives does not depend on how the bytes arrive.  `Reads` relates the bytes
before and after some calls to the lines given in between: a call that fails takes no byte, a call
that succeeds takes the first line, and both leave the other bytes in their order.  So in a
conversation that never clears the link the responses are the first lines of all the bytes, cut
once. -/

namespace InstrumentControl

/-- The text that an exchange brought. -/
def Exchange.response? : Exchange → Option String
  | ⟨.query _, .ok response⟩ => some response
  | ⟨.receive, .ok response⟩ => some response
  | _ => none

namespace Line

open Text

/-- The bytes that arrivals bring, in order. -/
def data : List Arrival → List UInt8
  | [] => []
  | .bytes bytes :: rest => bytes ++ data rest
  | _ :: rest => data rest

@[simp] theorem data_append (first second : List Arrival) :
    data (first ++ second) = data first ++ data second := by
  induction first with
  | nil => rfl
  | cons arrival first ih => cases arrival <;> simp [data, ih]

/-- What ends a line on the stream. -/
def mark (rules : LineRules) : List UInt8 := Utf8.encode rules.terminators.read.toList

theorem mark_ne_nil {rules : LineRules} (h : rules.terminators.read ≠ "") : mark rules ≠ [] := by
  intro hnil
  rw [mark, Utf8.encode, List.flatMap_eq_nil_iff] at hnil
  cases hread : rules.terminators.read.toList with
  | nil => exact h (String.toList_eq_nil_iff.mp hread)
  | cons c s =>
    have hchar := congrArg List.length (hnil c (by rw [hread]; exact List.mem_cons_self))
    have hpos := Char.utf8Size_pos c
    simp at hchar
    omega

/-- The bytes `before` are lines with the given texts and then `after`. -/
def Reads (mark before : List UInt8) (texts : List String) (after : List UInt8) : Prop :=
  ∃ lines, texts = lines.map lineText ∧ (∀ line ∈ lines, IsLine mark line) ∧
    before = joined mark lines ++ after

namespace Reads

variable {mark before between after : List UInt8} {first second : List String}

theorem none : Reads mark before [] before :=
  ⟨[], rfl, fun _ h => absurd h List.not_mem_nil, rfl⟩

theorem one {line : List UInt8} (h : IsLine mark line) :
    Reads mark (line ++ mark ++ after) [lineText line] after :=
  ⟨[line], rfl, by simpa using h, by simp⟩

theorem trans (h : Reads mark before first between) (h' : Reads mark between second after) :
    Reads mark before (first ++ second) after := by
  obtain ⟨lines, rfl, hlines, rfl⟩ := h
  obtain ⟨lines', rfl, hlines', rfl⟩ := h'
  refine ⟨lines ++ lines', List.map_append.symm, fun line hline => ?_, ?_⟩
  · exact (List.mem_append.mp hline).elim (hlines line) (hlines' line)
  · rw [joined_append, List.append_assoc]

/-- What arrives later does not change the lines. -/
theorem append (h : Reads mark before first after) (later : List UInt8) :
    Reads mark (before ++ later) first (after ++ later) := by
  obtain ⟨lines, rfl, hlines, rfl⟩ := h
  exact ⟨lines, rfl, hlines, List.append_assoc ..⟩

theorem eq_of_nil (h : Reads mark before [] after) : before = after := by
  obtain ⟨lines, hnil, -, rfl⟩ := h
  rw [List.map_eq_nil_iff.mp hnil.symm]
  rfl

/-- One text is that of the first line. -/
theorem eq_line {text : String} (h : Reads mark before [text] after) :
    ∃ line, IsLine mark line ∧ text = lineText line ∧ before = line ++ mark ++ after := by
  obtain ⟨lines, htext, hlines, rfl⟩ := h
  obtain ⟨line, rfl, hline⟩ := List.map_eq_singleton_iff.mp htext.symm
  exact ⟨line, hlines line (List.mem_singleton_self line), hline.symm, by simp⟩

/-- The texts are those of the first lines. -/
theorem cuts (h : Reads mark before first after) (hmark : mark ≠ []) :
    ∃ read later rest, Cuts mark before (read ++ later) rest ∧ first = read.map lineText ∧
      before = joined mark read ++ after := by
  obtain ⟨read, rfl, hread, rfl⟩ := h
  obtain ⟨later, rest, hcuts⟩ := exists_cuts hmark after
  exact ⟨read, later, rest, hcuts.prepend hread, rfl, rfl⟩

end Reads

theorem readLine_reads (rules : LineRules) (drained : Drained) (command : String) (late : Bool)
    (pending : List UInt8) (arrivals : List Arrival) :
    let result := readLine rules drained command late pending arrivals
    Reads (mark rules) (pending ++ data arrivals) result.1.toOption.toList
      (result.2.1 ++ data result.2.2) := by
  fun_induction readLine rules drained command late pending arrivals with
  | case1 late pending arrivals line rest hcut =>
    obtain ⟨hpending, hline⟩ := cutAt?_eq_some hcut
    rw [hpending, List.append_assoc]
    exact .one hline
  | case2 | case3 | case4 | case5 | case10 => exact .none
  | case6 late pending _ _ b bytes more _ ih => simpa [data] using ih
  | case7 late pending _ _ b bytes more _ ih =>
    simp only [data, List.append_assoc, ← List.append_assoc (List.take _ _),
      List.take_append_drop] at ih ⊢
    exact ih
  | case8 | case9 => assumption

variable {δ α : Type}

/-- The bytes that were not given as part of a line yet, in their order. -/
def unread (s : Stream δ) : List UInt8 := s.pending ++ data s.arrivals

/-- What the device lets arrive when a call is made. -/
def released (rules : LineRules) (device : Device δ) (s : Stream δ) : Call → List Arrival
  | .send command | .query command =>
    match (device.write (command ++ rules.terminators.write) s.device).1 with
    | .ok arrivals => arrivals
    | .error _ => []
  | .receive | .clear => []

/-- What the device lets arrive in the course of a conversation. -/
def releasedIn (rules : LineRules) (device : Device δ) :
    Conversation α → Stream δ → List Arrival
  | .done _, _ => []
  | .step c next, s =>
    released rules device s c ++
      releasedIn rules device (next (link rules device c s).1) (link rules device c s).2

theorem unread_send (rules : LineRules) (device : Device δ) (command : String) (s : Stream δ) :
    unread (send rules device command s).2 =
      unread s ++ data (released rules device s (.send command)) := by
  unfold send released
  split <;> simp_all [unread, data]

theorem receive_reads (rules : LineRules) (device : Device δ) (command : String) (s : Stream δ) :
    Reads (mark rules) (unread s) (receive rules device command s).1.toOption.toList
      (unread (receive rules device command s).2) :=
  readLine_reads rules device.drained command (rules.limit == 0) s.pending s.arrivals

/-- A call that does not clear the link takes nothing but the line that it gives. -/
theorem link_reads (rules : LineRules) (device : Device δ) (s : Stream δ) {c : Call}
    (hc : c ≠ .clear) :
    Reads (mark rules) (unread s ++ data (released rules device s c))
      (Exchange.response? ⟨c, (link rules device c s).1⟩).toList
      (unread (link rules device c s).2) := by
  cases c with
  | clear => exact absurd rfl hc
  | send command =>
    rw [← unread_send]
    exact .none
  | receive =>
    have h := receive_reads rules device "<receive>" s
    rw [released, data, List.append_nil]
    simp only [link]
    cases hreply : (receive rules device "<receive>" s).1 <;> rw [hreply] at h <;> exact h
  | query command =>
    have hsent : released rules device s (.query command) =
        released rules device s (.send command) := rfl
    rw [hsent, ← unread_send]
    cases hsend : send rules device command s with
    | mk outcome t =>
      cases outcome with
      | error e => simpa [link, hsend, Exchange.response?] using Reads.none
      | ok _ =>
        have h := receive_reads rules device command t
        simp only [link, hsend]
        cases hreply : (receive rules device command t).1 <;> rw [hreply] at h <;> exact h

/-- A text that a call gives is that of the first line. -/
theorem link_line {rules : LineRules} {device : Device δ} {s t : Stream δ} {c : Call}
    {reply : c.Reply} {text : String} (hlink : link rules device c s = (reply, t))
    (hresponse : Exchange.response? ⟨c, reply⟩ = some text) :
    ∃ line, IsLine (mark rules) line ∧ text = lineText line ∧
      unread s ++ data (released rules device s c) = line ++ mark rules ++ unread t := by
  have hc : c ≠ .clear := by
    rintro rfl
    cases hresponse
  have hreads := link_reads rules device s hc
  rw [hlink, hresponse] at hreads
  exact hreads.eq_line

/-- A conversation that does not clear the link takes nothing but the lines that it gives. -/
theorem run_reads (rules : LineRules) (device : Device δ) (p : Conversation α) (s : Stream δ)
    (hclear : ∀ x ∈ p.exchanges (link rules device) s, x.call ≠ .clear) :
    Reads (mark rules) (unread s ++ data (releasedIn rules device p s))
      ((p.exchanges (link rules device) s).filterMap Exchange.response?)
      (unread (p.run (link rules device) s).2) := by
  induction p generalizing s with
  | done a =>
    rw [releasedIn, data, List.append_nil]
    exact .none
  | step c next ih =>
    simp only [Conversation.exchanges_step, List.forall_mem_cons] at hclear
    obtain ⟨hc, hrest⟩ := hclear
    have hstep := (link_reads rules device s hc).append
      (data (releasedIn rules device (next (link rules device c s).1) (link rules device c s).2))
    have hall := hstep.trans (ih _ _ hrest)
    rw [releasedIn, data_append, ← List.append_assoc, Conversation.exchanges_step,
      Conversation.run_step, List.filterMap_cons]
    cases hresponse : Exchange.response? ⟨c, (link rules device c s).1⟩ with
    | none => rwa [hresponse] at hall
    | some response => rwa [hresponse] at hall

/-- The responses of a conversation that does not clear the link are the texts of the first lines of
all its bytes, and what is left unread is what follows these lines.  So conversations over the same
bytes never differ in a response, and a call that fails leaves every byte for later calls. -/
theorem responses_eq_first_lines (rules : LineRules) (device : Device δ)
    (hread : rules.terminators.read ≠ "") (p : Conversation α) (s : Stream δ)
    (hclear : ∀ x ∈ p.exchanges (link rules device) s, x.call ≠ .clear) :
    let responses := (p.exchanges (link rules device) s).filterMap Exchange.response?
    let bytes := unread s ++ data (releasedIn rules device p s)
    (∃ read later rest, Cuts (mark rules) bytes (read ++ later) rest ∧
      responses = read.map lineText ∧
      bytes = joined (mark rules) read ++ unread (p.run (link rules device) s).2) ∧
    (∀ (δ' α' : Type) (rules' : LineRules) (device' : Device δ') (p' : Conversation α')
      (s' : Stream δ'), rules'.terminators.read = rules.terminators.read →
      (∀ x ∈ p'.exchanges (link rules' device') s', x.call ≠ .clear) →
      unread s' ++ data (releasedIn rules' device' p' s') = bytes →
      let responses' := (p'.exchanges (link rules' device') s').filterMap Exchange.response?
      responses' <+: responses ∨ responses <+: responses') ∧
    ∀ (c : Call) (t : Stream δ), c ≠ .clear → (∃ e, (link rules device c t).1 = .error e) →
      unread (link rules device c t).2 = unread t ++ data (released rules device t c) := by
  have hmark := mark_ne_nil hread
  intro responses bytes
  obtain ⟨read, later, rest, hcuts, hresponses, hbytes⟩ :=
    (run_reads rules device p s hclear).cuts hmark
  refine ⟨⟨read, later, rest, hcuts, hresponses, hbytes⟩, ?_, ?_⟩
  · intro δ' α' rules' device' p' s' hread' hclear' hsame responses'
    have hmark' : mark rules' = mark rules := by rw [mark, mark, hread']
    obtain ⟨read', later', rest', hcuts', hresponses', -⟩ :=
      (run_reads rules' device' p' s' hclear').cuts (hmark' ▸ hmark)
    rw [hsame, hmark'] at hcuts'
    have hlines : read' ++ later' = read ++ later := (hcuts'.unique hcuts).1
    have hprefix : read' <+: read ∨ read <+: read' :=
      List.prefix_or_prefix_of_prefix (List.prefix_append read' later')
        (hlines ▸ List.prefix_append read later)
    show responses' <+: responses ∨ responses <+: responses'
    rw [show responses' = read'.map lineText from hresponses',
      show responses = read.map lineText from hresponses]
    exact hprefix.imp (·.map lineText) (·.map lineText)
  · rintro c t hc ⟨e, herror⟩
    have hreads := link_reads rules device t hc
    have hnone : Exchange.response? ⟨c, (link rules device c t).1⟩ = none := by
      rw [herror]
      cases c <;> rfl
    rw [hnone] at hreads
    exact hreads.eq_of_nil.symm

/-- A terminator that arrives in two pieces, with a time-out between them: the query fails, and what
is received next is the whole line. -/
theorem responses_eq_first_lines_cut_terminator :
    let rules : LineRules := ⟨⟨"\n", "\r\n"⟩, 2000⟩
    let p : Conversation Unit := .step (.query "A?") fun _ => .step .receive fun _ => .done ()
    let s : Stream Responder :=
      { arrivals := [.bytes [0x34, 0x0d], .stall, .nothingYet, .bytes [0x0a, 0x35]]
        device := { terminator := "\n", replies := ["\r\n"] } }
    let link := link rules Responder.device
    rules.terminators.read ≠ "" ∧ (∀ x ∈ p.exchanges link s, x.call ≠ .clear) ∧
      (p.exchanges link s).filterMap Exchange.response? = ["4"] ∧
      ∃ read later rest,
        Cuts (mark rules) (unread s ++ data (releasedIn rules Responder.device p s))
          (read ++ later) rest ∧
        read.map lineText = ["4"] := by
  intro rules p s link
  have hread : rules.terminators.read ≠ "" := by decide
  have hclear : ∀ x ∈ p.exchanges link s, x.call ≠ .clear := by
    intro x hx
    simp only [p, Conversation.exchanges_step, Conversation.exchanges_done, List.mem_cons,
      List.not_mem_nil, or_false] at hx
    rcases hx with rfl | rfl <;> simp
  obtain ⟨read, later, rest, hcuts, hresponses, -⟩ :=
    (responses_eq_first_lines rules Responder.device hread p s hclear).1
  have hfour : (p.exchanges link s).filterMap Exchange.response? = ["4"] := by
    decide +kernel
  exact ⟨hread, hclear, hfour, read, later, rest, hcuts, hresponses.symm.trans hfour⟩

end Line

end InstrumentControl
