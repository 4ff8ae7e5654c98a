import InstrumentControl.Proofs.Line.Delivery

/-! Queries on a line link and the answers to them.  A device that answers every query once, with
one line, may take its time: an answer can come after the query has failed, and it is then the first
line that the next query reads.  So responses are the answers in their order, and a query is sure to
have had its own answer only if no query before it has failed. -/

namespace InstrumentControl.Line

open Text

variable {δ α : Type}

/-- The device answers each line that it takes with one line.  `owed` are bytes of its answers that
it has yet to let arrive. -/
structure Answers (rules : LineRules) (device : Device δ) (answer : String → δ → List UInt8)
    (owed : δ → List UInt8) : Prop where
  isLine (command : String) (d : δ) : IsLine (mark rules) (answer command d)
  taken (command : String) (d d' : δ) (arrivals : List Arrival) :
    device.write (command ++ rules.terminators.write) d = (.ok arrivals, d') →
    owed d ++ (answer command d ++ mark rules) = data arrivals ++ owed d'
  refused (command : String) (d d' : δ) (cause : String) :
    device.write (command ++ rules.terminators.write) d = (.error cause, d') → owed d' = owed d

/-- The answers to a call: one to a query that the device has taken. -/
def answered (rules : LineRules) (device : Device δ) (answer : String → δ → List UInt8)
    (s : Stream δ) : Call → List (List UInt8)
  | .query command =>
    match (device.write (command ++ rules.terminators.write) s.device).1 with
    | .ok _ => [answer command s.device]
    | .error _ => []
  | .send _ | .receive | .clear => []

/-- The answers to the calls of a conversation, in order. -/
def answeredIn (rules : LineRules) (device : Device δ) (answer : String → δ → List UInt8) :
    Conversation α → Stream δ → List (List UInt8)
  | .done _, _ => []
  | .step c next, s =>
    answered rules device answer s c ++
      answeredIn rules device answer (next (link rules device c s).1) (link rules device c s).2

/-- `lines` are the answers that were not read yet, in order. -/
structure Outstanding (rules : LineRules) (owed : δ → List UInt8) (s : Stream δ)
    (lines : List (List UInt8)) : Prop where
  isLine : ∀ line ∈ lines, IsLine (mark rules) line
  bytes : unread s ++ owed s.device = joined (mark rules) lines

variable {rules : LineRules} {device : Device δ} {answer : String → δ → List UInt8}
  {owed : δ → List UInt8} {s : Stream δ} {lines : List (List UInt8)}

/-- What the device owes grows by its answer and shrinks by what it lets arrive. -/
theorem Answers.owed_query (h : Answers rules device answer owed) (command : String)
    (s : Stream δ) :
    owed s.device ++ joined (mark rules) (answered rules device answer s (.query command)) =
      data (released rules device s (.query command)) ++
        owed (link rules device (.query command) s).2.device := by
  simp only [answered, released, link, send]
  rcases hwrite : device.write (command ++ rules.terminators.write) s.device with ⟨_ | arrivals, d⟩
  · simpa [data] using (h.refused _ _ _ _ hwrite).symm
  · simpa [receive] using h.taken _ _ _ _ hwrite

theorem Answers.isLine_answered (h : Answers rules device answer owed) (c : Call) :
    ∀ line ∈ answered rules device answer s c, IsLine (mark rules) line := by
  intro line hline
  cases c with
  | query command =>
    simp only [answered] at hline
    split at hline
    · rw [List.mem_singleton.mp hline]
      exact h.isLine command s.device
    · cases hline
  | send | receive | clear => cases hline

/-- A query reads the oldest answer that was not read yet, or none. -/
theorem Outstanding.query (hmark : mark rules ≠ []) (h : Answers rules device answer owed)
    (hs : Outstanding rules owed s lines) (command : String) :
    ∃ read rest, lines ++ answered rules device answer s (.query command) = read ++ rest ∧
      (Exchange.response? ⟨.query command, (link rules device (.query command) s).1⟩).toList =
        read.map lineText ∧
      Outstanding rules owed (link rules device (.query command) s).2 rest := by
  have hlines : ∀ line ∈ lines ++ answered rules device answer s (.query command),
      IsLine (mark rules) line := fun line hline =>
    (List.mem_append.mp hline).elim (hs.isLine line) (h.isLine_answered _ line)
  obtain ⟨read, hresponse, hread, hbytes⟩ :=
    link_reads rules device s (c := .query command) Call.noConfusion
  have hjoined : joined (mark rules) (lines ++ answered rules device answer s (.query command)) =
      joined (mark rules) read ++ (unread (link rules device (.query command) s).2 ++
        owed (link rules device (.query command) s).2.device) := by
    rw [joined_append, ← hs.bytes, List.append_assoc, h.owed_query, ← List.append_assoc, hbytes,
      List.append_assoc]
  obtain ⟨rest, heq, hrest⟩ := exists_of_joined_eq_append hmark hlines hread hjoined
  have hisLine : ∀ line ∈ rest, IsLine (mark rules) line := fun line hline =>
    hlines line (heq ▸ List.mem_append_right read hline)
  exact ⟨read, rest, heq, hresponse, hisLine, hrest⟩

/-- Queries read the oldest answers that were not read yet, in their order. -/
theorem Outstanding.run (hmark : mark rules ≠ []) (h : Answers rules device answer owed)
    (hs : Outstanding rules owed s lines) {p : Conversation α}
    (hqueries : ∀ x ∈ p.exchanges (link rules device) s, ∃ command, x.call = .query command) :
    ∃ read rest, lines ++ answeredIn rules device answer p s = read ++ rest ∧
      (p.exchanges (link rules device) s).filterMap Exchange.response? = read.map lineText ∧
      Outstanding rules owed (p.run (link rules device) s).2 rest := by
  induction p generalizing s lines with
  | done a => exact ⟨[], lines, List.append_nil lines, rfl, hs⟩
  | step c next ih =>
    simp only [Conversation.exchanges_step, List.forall_mem_cons] at hqueries
    obtain ⟨⟨command, rfl⟩, hqueries⟩ := hqueries
    obtain ⟨first, between, hfirst, hresponse, hbetween⟩ := hs.query hmark h command
    obtain ⟨later, rest, hlater, hresponses, hrest⟩ := ih _ hbetween hqueries
    refine ⟨first ++ later, rest, ?_, ?_, hrest⟩
    · rw [answeredIn, ← List.append_assoc, hfirst, List.append_assoc, hlater, List.append_assoc]
    · rw [Conversation.exchanges_step, List.map_append, ← hresponse, ← hresponses,
        List.filterMap_cons]
      cases Exchange.response? ⟨.query command, (link rules device (.query command) s).1⟩ <;> rfl

/-- A query that succeeds when all answers were read has read its own, and then again all answers
were read. -/
theorem Outstanding.own (hmark : mark rules ≠ []) (h : Answers rules device answer owed)
    (hs : Outstanding rules owed s []) {command response : String}
    (hreply : (link rules device (.query command) s).1 = .ok response) :
    response = lineText (answer command s.device) ∧
      Outstanding rules owed (link rules device (.query command) s).2 [] := by
  obtain ⟨read, rest, hlines, hresponse, hrest⟩ := hs.query hmark h command
  rw [hreply] at hresponse
  obtain ⟨line, rfl, rfl⟩ := List.map_eq_singleton_iff.mp hresponse.symm
  simp only [answered] at hlines
  split at hlines
  · obtain ⟨rfl, rfl⟩ := List.cons.inj hlines
    exact ⟨rfl, hrest⟩
  · cases hlines

/-- As long as all queries succeed, each reads its own answer. -/
theorem Outstanding.own_answer (hmark : mark rules ≠ []) (h : Answers rules device answer owed)
    (hs : Outstanding rules owed s []) {p : Conversation α}
    (hqueries : ∀ x ∈ p.exchanges (link rules device) s, ∃ command, x.call = .query command)
    {n : Nat} {command response : String}
    (hreply : (p.exchanges (link rules device) s)[n]? = some ⟨.query command, .ok response⟩)
    (hbefore : ∀ x ∈ (p.exchanges (link rules device) s).take n, x.response?.isSome) :
    response = lineText (answer command ((p.take n).run (link rules device) s).2.device) := by
  induction p generalizing s n with
  | done a => cases hreply
  | step c next ih =>
    simp only [Conversation.exchanges_step, List.forall_mem_cons] at hqueries
    obtain ⟨⟨first, rfl⟩, hqueries⟩ := hqueries
    -- every query before the last has read its own answer, so none was outstanding after it
    cases n with
    | zero =>
      injection Option.some.inj hreply with hcall houtcome
      cases hcall
      exact (hs.own hmark h houtcome).1
    | succ n =>
      obtain ⟨hfirst, hbefore⟩ := List.forall_mem_cons.mp hbefore
      cases hreply' : (link rules device (.query first) s).1 with
      | error e =>
        rw [hreply'] at hfirst
        cases hfirst
      | ok text => exact ih _ (hs.own hmark h hreply').2 hqueries hreply hbefore

/-- The responses to queries are the answers to them in their order, from the first on.  A query
whose predecessors have all succeeded has its own answer. -/
theorem responses_are_answers_in_order (hmark : rules.terminators.read ≠ "")
    (h : Answers rules device answer owed) (hunread : unread s = []) (howed : owed s.device = [])
    (p : Conversation α)
    (hqueries : ∀ x ∈ p.exchanges (link rules device) s, ∃ command, x.call = .query command) :
    let log := p.exchanges (link rules device) s
    log.filterMap Exchange.response? <+:
      (answeredIn rules device answer p s).map lineText ∧
    ∀ n command response, log[n]? = some ⟨.query command, .ok response⟩ →
      (∀ x ∈ log.take n, x.response?.isSome) →
      response = lineText (answer command ((p.take n).run (link rules device) s).2.device) := by
  have hs : Outstanding rules owed s [] :=
    ⟨fun _ hline => absurd hline List.not_mem_nil, by rw [hunread, howed]; rfl⟩
  refine ⟨?_, fun n command response => hs.own_answer (mark_ne_nil hmark) h hqueries⟩
  obtain ⟨read, rest, hlines, hresponses, -⟩ := hs.run (mark_ne_nil hmark) h hqueries
  rw [List.nil_append] at hlines
  rw [hresponses, hlines, List.map_append]
  exact List.prefix_append _ _

/-- A device that answers "VOLT?" when the time limit has passed, and anything else at once. -/
def tardy : Device Unit where
  write text d :=
    if text = "VOLT?\n" then (.ok [.stall, .bytes (Utf8.encode "1.0\n".toList)], d)
    else (.ok [.bytes (Utf8.encode "2.0\n".toList)], d)
  drained := .silent
  discardsArrivals := false

def tardyAnswer (command : String) (_ : Unit) : List UInt8 :=
  Utf8.encode (if command = "VOLT?" then "1.0" else "2.0").toList

theorem tardy_answers : Answers {} tardy tardyAnswer fun _ => [] where
  isLine command _ := by
    rw [tardyAnswer]
    split <;> exact isLine_mark (m := '\n') rfl (by decide) (by decide)
  taken command d d' arrivals hwrite := by
    have hcommand : command ++ "\n" = "VOLT?\n" ↔ command = "VOLT?" := by
      rw [show "VOLT?\n" = "VOLT?" ++ "\n" from rfl, String.append_left_inj]
    change (if command ++ "\n" = "VOLT?\n" then _ else _) = _ at hwrite
    rw [tardyAnswer]
    by_cases h : command = "VOLT?"
    · rw [if_pos (hcommand.mpr h)] at hwrite
      cases hwrite
      rw [if_pos h]
      rfl
    · rw [if_neg (hcommand.not.mpr h)] at hwrite
      cases hwrite
      rw [if_neg h]
      rfl
  refused command d d' cause hwrite := by
    simp only [tardy] at hwrite
    split at hwrite <;> cases hwrite

/-- An answer that comes after its query has failed is taken for that of the next. -/
theorem late_answer_misread :
    let p : Conversation Unit :=
      .step (.query "VOLT?") fun _ => .step (.query "CURR?") fun _ => .done ()
    Answers {} tardy tardyAnswer (fun _ => []) ∧
      p.exchanges (link {} tardy) { device := () } =
        [⟨.query "VOLT?", .error (.timeout "VOLT?" 2000)⟩, ⟨.query "CURR?", .ok "1.0"⟩] ∧
      lineText (tardyAnswer "CURR?" ()) = "2.0" :=
  ⟨tardy_answers, by with_unfolding_all rfl, lineText_encode _⟩

/-- Three queries, of which the second fails before its answer comes. -/
theorem responses_are_answers_in_order_tardy :
    let p : Conversation Unit := .step (.query "CURR?") fun _ => .step (.query "VOLT?") fun _ =>
      .step (.query "CURR?") fun _ => .done ()
    (p.exchanges (link {} tardy) { device := () }).filterMap Exchange.response? <+:
        ["2.0", "1.0", "2.0"] ∧
      "2.0" = lineText (tardyAnswer "CURR?" ()) := by
  intro p
  have hqueries : ∀ x ∈ p.exchanges (link {} tardy) { device := () },
      ∃ command, x.call = .query command := by
    simp [p]
  have hanswers : (answeredIn {} tardy tardyAnswer p { device := () }).map lineText =
      ["2.0", "1.0", "2.0"] := by
    decide +kernel
  have h := responses_are_answers_in_order (by decide) tardy_answers rfl rfl p hqueries
  exact ⟨hanswers ▸ h.1, h.2 0 "CURR?" "2.0" (by with_unfolding_all rfl) (by simp)⟩

end InstrumentControl.Line
