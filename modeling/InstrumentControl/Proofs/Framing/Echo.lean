import InstrumentControl.Proofs.Framing.Fresh

/-! Devices that echo each command on a line of its own.  What was pending is discarded before the
command is written, so whatever the device does, the echo and the response of a call that succeeds
are the first lines of what the stream brings afterwards.  When these lines are under way, the call
succeeds. -/

namespace InstrumentControl.Framing

open Text Line

section

variable {σ : Type} {inner : Link σ} {command response : String} {s t : σ}

theorem awaitEcho_eq_ok : (awaitEcho command).run inner s = (.ok (), t) ↔ ∃ echo,
    (freshQuery command).run inner s = (.ok echo, t) ∧ strip echo = strip command := by
  simp only [awaitEcho, Program.bind_eq, Conversation.run_bind]
  rcases (freshQuery command).run inner s with ⟨_ | echo, u⟩
  · simp
  · by_cases hecho : strip echo = strip command
    · simp [hecho]
    · simp [hecho]

theorem queryEchoed_eq_ok : (queryEchoed command).run inner s = (.ok response, t) ↔
    ∃ echoed raw, (awaitEcho command).run inner s = (.ok (), echoed) ∧
      inner .receive echoed = (.ok raw, t) ∧ strip raw = response := by
  simp only [queryEchoed, Program.bind_eq, Conversation.run_bind, Conversation.receive,
    Program.perform]
  rcases (awaitEcho command).run inner s with ⟨_ | _, echoed⟩
  · simp
  rcases hreceive : inner .receive echoed with ⟨_ | raw, u⟩
  · simp [hreceive]
  · simp [hreceive, and_comm, eq_comm]

end

variable {δ : Type} {rules : LineRules} {device : Device δ} {command response : String}
  {s t : Stream δ}

/-- The echo that a command has had is the first line that came after the command was written. -/
theorem echo_of_awaitEcho (h : (awaitEcho command).run (Line.link rules device) s = (.ok (), t)) :
    ∃ echo, IsLine (mark rules) echo ∧ lineText echo = strip command ∧
      fresh rules device command s = echo ++ mark rules ++ unread t := by
  obtain ⟨echo, hquery, hecho⟩ := awaitEcho_eq_ok.mp h
  obtain ⟨line, hline, rfl, hbytes⟩ := line_of_freshQuery hquery
  exact ⟨line, hline, (strip_lineText line).symm.trans hecho, hbytes⟩

/-- The response that a query has had is the line that followed the echo. -/
theorem lines_of_queryEchoed
    (h : (queryEchoed command).run (Line.link rules device) s = (.ok response, t)) :
    ∃ echo answer, IsLine (mark rules) echo ∧ IsLine (mark rules) answer ∧
      lineText echo = strip command ∧ lineText answer = response ∧
      fresh rules device command s =
        echo ++ mark rules ++ (answer ++ mark rules ++ unread t) := by
  obtain ⟨echoed, raw, hecho, hreceive, rfl⟩ := queryEchoed_eq_ok.mp h
  obtain ⟨echo, hline, htext, hbytes⟩ := echo_of_awaitEcho hecho
  obtain ⟨answer, hanswer, rfl, hrest⟩ := link_line hreceive rfl
  rw [released, data, List.append_nil] at hrest
  exact ⟨echo, answer, hline, hanswer, htext, (strip_lineText answer).symm, by rw [hbytes, hrest]⟩

section

variable (hmark : mark rules ≠ []) (hlimit : rules.limit ≠ 0) (hflows : Flows s.arrivals)
  {arrivals : List Arrival} {d : δ}
  (hwrite : device.write (command ++ rules.terminators.write) s.device = (.ok arrivals, d))
  (hflows' : Flows arrivals)
include hmark hlimit hflows hwrite hflows'

/-- An echo that is under way is taken. -/
theorem awaitEcho_line {echo rest : List UInt8} (hline : IsLine (mark rules) echo)
    (hecho : lineText echo = strip command)
    (hfresh : fresh rules device command s = echo ++ mark rules ++ rest) :
    ∃ t, (awaitEcho command).run (Line.link rules device) s = (.ok (), t) ∧ t.device = d ∧
      Flows t.arrivals ∧ unread t = rest := by
  obtain ⟨t, hquery, hdevice, hrest⟩ :=
    freshQuery_line hmark hlimit hflows hwrite hflows' hline hfresh
  have htext : strip (lineText echo) = strip command := by rw [strip_lineText, hecho]
  exact ⟨t, awaitEcho_eq_ok.mpr ⟨lineText echo, hquery, htext⟩, hdevice, hrest⟩

/-- A response that is under way after the echo is given. -/
theorem queryEchoed_line {echo answer rest : List UInt8} (hline : IsLine (mark rules) echo)
    (hanswer : IsLine (mark rules) answer) (hecho : lineText echo = strip command)
    (hfresh : fresh rules device command s =
      echo ++ mark rules ++ (answer ++ mark rules ++ rest)) :
    ∃ t, (queryEchoed command).run (Line.link rules device) s = (.ok (lineText answer), t) ∧
      t.device = d ∧ Flows t.arrivals ∧ unread t = rest := by
  obtain ⟨echoed, hawait, rfl, hechoed, hunread⟩ :=
    awaitEcho_line hmark hlimit hflows hwrite hflows' hline hecho hfresh
  obtain ⟨t, hreceive, hdevice, hrest⟩ :=
    receive_line hmark hlimit device "<receive>" hechoed hanswer hunread
  exact ⟨t, queryEchoed_eq_ok.mpr ⟨echoed, _, hawait, hreceive, strip_lineText answer⟩, hdevice,
    hrest⟩

end

/-- A call that succeeds has taken nothing but lines that came after what was pending was discarded:
a query its echo and its response, which follow one another, and a send its echo.  What was pending
plays no part. -/
theorem echoLine_reads_fresh_lines (rules : LineRules) (device : Device δ) (command : String)
    (s : Stream δ) :
    let framed := echoLine.link (Line.link rules device)
    (∀ response t, framed (.query command) s = (.ok response, t) →
      ∃ echo answer, IsLine (mark rules) echo ∧ IsLine (mark rules) answer ∧
        lineText echo = strip command ∧ lineText answer = response ∧
        fresh rules device command s =
          echo ++ mark rules ++ (answer ++ mark rules ++ unread t)) ∧
    (∀ t, framed (.send command) s = (.ok (), t) →
      ∃ echo, IsLine (mark rules) echo ∧ lineText echo = strip command ∧
        fresh rules device command s = echo ++ mark rules ++ unread t) ∧
    ∀ stale, framed (.query command) { s with pending := stale } = framed (.query command) s ∧
      framed (.send command) { s with pending := stale } = framed (.send command) s :=
  ⟨fun _ _ h => lines_of_queryEchoed h, fun _ h => echo_of_awaitEcho h, fun _ => ⟨rfl, rfl⟩⟩

/-- A response left over from before is pending, and the echo comes in pieces. -/
theorem echoLine_reads_fresh_lines_stale :
    let rules : LineRules := ⟨⟨"\r", "\r"⟩, 5000⟩
    let device : Device Unit :=
      { write := fun _ d =>
          (.ok [.bytes [0x41], .nothingYet, .bytes [0x3f, 0x0d, 0x34], .bytes [0x32, 0x0d]], d)
        drained := .silent
        discardsArrivals := false }
    let s : Stream Unit := { pending := [0x37, 0x0d], device := () }
    let framed := echoLine.link (Line.link rules device)
    (∃ t, framed (.query "A?") s = (.ok "42", t) ∧
      ∃ echo answer, IsLine (mark rules) echo ∧ IsLine (mark rules) answer ∧
        lineText echo = strip "A?" ∧ lineText answer = "42" ∧
        fresh rules device "A?" s = echo ++ mark rules ++ (answer ++ mark rules ++ unread t)) ∧
    ∃ t, framed (.send "A?") s = (.ok (), t) ∧
      ∃ echo, IsLine (mark rules) echo ∧ lineText echo = strip "A?" ∧
        fresh rules device "A?" s = echo ++ mark rules ++ unread t := by
  intro rules device s framed
  have hmark : mark rules ≠ [] := mark_ne_nil (by decide)
  have hflows : Flows
      [.bytes [0x41], .nothingYet, .bytes [0x3f, 0x0d, 0x34], .bytes [0x32, 0x0d]] := by
    simp [Flows]
  have hecho : IsLine (mark rules) (Utf8.encode "A?".toList) :=
    isLine_mark (m := '\r') rfl (by decide) (by decide)
  have hanswer : IsLine (mark rules) (Utf8.encode "42".toList) :=
    isLine_mark (m := '\r') rfl (by decide) (by decide)
  have htext : lineText (Utf8.encode "A?".toList) = strip "A?" := lineText_encode _
  have hwrite : device.write ("A?" ++ rules.terminators.write) s.device =
      (.ok [.bytes [0x41], .nothingYet, .bytes [0x3f, 0x0d, 0x34], .bytes [0x32, 0x0d]], ()) := rfl
  have hlines : fresh rules device "A?" s = Utf8.encode "A?".toList ++ mark rules ++
      (Utf8.encode "42".toList ++ mark rules ++ []) := by
    decide
  obtain ⟨t, hquery, -⟩ :=
    queryEchoed_line hmark (by decide) flows_nil hwrite hflows hecho hanswer htext hlines
  obtain ⟨u, hsend, -⟩ :=
    awaitEcho_line hmark (by decide) flows_nil hwrite hflows hecho htext hlines
  rw [lineText_encode] at hquery
  exact ⟨⟨t, hquery, (echoLine_reads_fresh_lines rules device "A?" s).1 "42" t hquery⟩,
    u, hsend, (echoLine_reads_fresh_lines rules device "A?" s).2.1 u hsend⟩

end InstrumentControl.Framing
