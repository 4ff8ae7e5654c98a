import InstrumentControl.Model.Mc2000b
import InstrumentControl.Model.Mcls
import InstrumentControl.Proofs.Framing.Echo
import InstrumentControl.Proofs.Framing.Prompt

/-! Devices that echo stay aligned.  A device that echoes gives each command back, then its answer
if it has one, and then its prompt if it uses one.  Over a stream that stays alive, calls framed for
such a device do what calls on a device that answers directly would do, and after each of them
nothing is left unread. -/

namespace InstrumentControl.Framing

open Text Line

variable {δ α : Type}

/-- A command that an echo can be told by: it is not blank at its ends, and neither the end of a
line nor the prompt occurs in it. -/
structure Plain (prompt : List Char) (command : String) : Prop where
  trimmed : strip command = command
  nonempty : command ≠ ""
  oneLine : '\r' ∉ command.toList
  unprompted : ∀ c ∈ prompt, c ∉ command.toList

/-- What a device replies to a command: its echo, the answer, if there is one, and the prompt. -/
def echoed (prompt : List Char) (command : String) (answer : Option String) : List Char :=
  command.toList ++ '\r' :: (answer.elim [] fun a => a.toList ++ ['\r']) ++ prompt

/-- The device replies to plain commands, piece by piece, with echoes, with the answers that
`answer` gives for the command and the device's state, and with prompts.  No answer contains
`final`. -/
structure Echoes (final : Char) (prompt : List Char) (device : Device δ)
    (answer : String → δ → Option String) : Prop where
  replies (command : String) (d : δ) : Plain prompt command →
    ∃ arrivals d', device.write (command ++ "\r") d = (.ok arrivals, d') ∧ Flows arrivals ∧
      data arrivals = Utf8.encode (echoed prompt command (answer command d))
  answers (command : String) (d : δ) (a : String) : Plain prompt command →
    answer command d = some a → final ∉ a.toList

/-- The link to a device that takes each command and gives its answer at once. -/
def answering (device : Device δ) (answer : String → δ → Option String) : Link δ :=
  Link.basic (fun command d => (.ok (), (device.write (command ++ "\r") d).2))
    fun command d =>
      (.ok (strip ((answer command d).getD "")), (device.write (command ++ "\r") d).2)

/-- Plain commands, sent or queried. -/
def Prompted (prompt : List Char) : Call → δ → Prop
  | .send command, _ | .query command, _ => Plain prompt command
  | .receive, _ | .clear, _ => False

/-- Plain commands, sent if the device has no answer to them and queried if it has one. -/
def Matched (answer : String → δ → Option String) : Call → δ → Prop
  | .send command, d => Plain [] command ∧ answer command d = none
  | .query command, d => Plain [] command ∧ (answer command d).isSome
  | .receive, _ | .clear, _ => False

/-- The stream stays alive, and nothing is left to be read on it. -/
structure Settled (s : Stream δ) (d : δ) : Prop where
  device : s.device = d
  flows : Flows s.arrivals
  unread : unread s = []

variable {rules : LineRules} {device : Device δ} {answer : String → δ → Option String}

theorem Plain.trim {prompt : List Char} {command : String} (h : Plain prompt command) :
    trim command.toList = command.toList := by
  rw [← toList_strip, h.trimmed]

/-- On a device with nothing left to be read, what comes for a command is the reply to it. -/
theorem Echoes.fresh {final : Char} {prompt : List Char} (h : Echoes final prompt device answer)
    (hmark : rules.terminators.write = "\r") {command : String} {s : Stream δ} {d : δ}
    (hs : Settled s d) (hplain : Plain prompt command) :
    ∃ arrivals, device.write (command ++ rules.terminators.write) s.device =
        (.ok arrivals, (device.write (command ++ "\r") d).2) ∧ Flows arrivals ∧
      fresh rules device command s = Utf8.encode (echoed prompt command (answer command d)) := by
  obtain ⟨arrivals, d', hwrite, hflows, hdata⟩ := h.replies command d hplain
  have hnone : data (discard device s).arrivals = [] := by
    rw [Line.discard]
    split
    · rfl
    · exact (List.append_eq_nil_iff.mp hs.unread).2
  have hwrite' : device.write (command ++ rules.terminators.write) s.device =
      (.ok arrivals, d') := by
    rw [hmark, hs.device, hwrite]
  refine ⟨arrivals, by rw [hwrite', hwrite], hflows, ?_⟩
  rw [Line.fresh, hnone, released, hwrite']
  exact hdata

/-- The blanks around an answer do not matter. -/
theorem trim_answer (answer : Option String) :
    trim ('\r' :: answer.elim [] fun a => a.toList ++ ['\r']) = trim (answer.getD "").toList := by
  have hblank : ∀ c ∈ ['\r'], isBlank c = true := List.forall_mem_singleton.mpr rfl
  rw [← List.singleton_append, trim_append_left hblank]
  cases answer with
  | none => rfl
  | some a => exact trim_append_right hblank

section

variable {m : Char} (hterminators : rules.terminators = ⟨"\r", String.ofList [m]⟩)
  (hm : m.toNat < 0x80) (hreturn : m ≠ '\r') (hlimit : rules.limit ≠ 0)
  (hechoes : Echoes m [m] device answer)
include hterminators hm hreturn hlimit hechoes

theorem queryPrompted_settled {command : String} {s : Stream δ} {d : δ} (hs : Settled s d)
    (hplain : Plain [m] command) :
    ∃ t, (queryPrompted (String.ofList [m]) command).run (Line.link rules device) s =
        (.ok (strip ((answer command d).getD "")), t) ∧
      Settled t (device.write (command ++ "\r") d).2 := by
  have hread : rules.terminators.read = String.ofList [m] := by rw [hterminators]
  have hmark := mark_eq_encode hread
  have hwriteMark : rules.terminators.write = "\r" := by rw [hterminators]
  obtain ⟨arrivals, hwrite, hflows, hfresh⟩ := hechoes.fresh hwriteMark hs hplain
  have hbytes : fresh rules device command s = Utf8.encode (command.toList ++
      '\r' :: (answer command d).elim [] fun a => a.toList ++ ['\r']) ++ mark rules ++ [] := by
    rw [hfresh, echoed, Utf8.encode_append, hmark, List.append_nil]
  -- the prompt occurs nowhere else, so the whole reply is one line
  have hlacks : m ∉ command.toList ++
      '\r' :: (answer command d).elim [] fun a => a.toList ++ ['\r'] := by
    have hcommand := hplain.unprompted m (List.mem_singleton_self m)
    cases hanswer : answer command d with
    | none => simp [hcommand, hreturn]
    | some a => simp [hcommand, hreturn, hechoes.answers command d a hplain hanswer]
  obtain ⟨t, hrun, hdevice, hflows', hunread⟩ := queryPrompted_line hread hm hlimit hs.flows hwrite
    hflows hplain.trim (String.toList_eq_nil_iff.not.mpr hplain.nonempty) hlacks hbytes
  refine ⟨t, hrun.trans ?_, hdevice, hflows', hunread⟩
  rw [trim_answer, ← strip]

theorem prompted_step (c : Call) (s : Stream δ) (d : δ) (hs : Settled s d) (hc : Prompted [m] c d) :
    let framed := (echoPrompt (String.ofList [m])).link (Line.link rules device)
    (framed c s).1 = (answering device answer c d).1 ∧
      Settled (framed c s).2 (answering device answer c d).2 := by
  cases c with
  | send command =>
    obtain ⟨t, hrun, ht⟩ :=
      queryPrompted_settled hterminators hm hreturn hlimit hechoes hs hc
    simp only [link, exchange, Program.bind_eq, Conversation.run_bind, hrun]
    exact ⟨rfl, ht⟩
  | query command =>
    obtain ⟨t, hrun, ht⟩ :=
      queryPrompted_settled hterminators hm hreturn hlimit hechoes hs hc
    simp only [link, exchange, hrun]
    exact ⟨rfl, ht⟩
  | receive | clear => cases hc

end

theorem matched_step (hterminators : rules.terminators = ⟨"\r", "\r"⟩) (hlimit : rules.limit ≠ 0)
    (hechoes : Echoes '\r' [] device answer) (c : Call) (s : Stream δ) (d : δ) (hs : Settled s d)
    (hc : Matched answer c d) :
    let framed := echoLine.link (Line.link rules device)
    (framed c s).1 = (answering device answer c d).1 ∧
      Settled (framed c s).2 (answering device answer c d).2 := by
  have hwriteMark : rules.terminators.write = "\r" := by rw [hterminators]
  have hread : rules.terminators.read = String.ofList ['\r'] := by rw [hterminators]
  have hmark := mark_eq_encode hread
  have hne : mark rules ≠ [] := by rw [hmark]; decide
  have hline {text : String} (h : '\r' ∉ text.toList) :
      IsLine (mark rules) (Utf8.encode text.toList) := isLine_mark hread (by decide) h
  have hecho (text : String) : lineText (Utf8.encode text.toList) = strip text := lineText_encode _
  cases c with
  | send command =>
    obtain ⟨hplain, hanswer⟩ := hc
    obtain ⟨arrivals, hwrite, hflows, hfresh⟩ := hechoes.fresh hwriteMark hs hplain
    have hbytes : fresh rules device command s =
        Utf8.encode command.toList ++ mark rules ++ [] := by
      rw [hfresh, echoed, hanswer, hmark]
      simp
    obtain ⟨t, hrun, hdevice, hflows', hunread⟩ := awaitEcho_line hne hlimit hs.flows hwrite hflows
      (hline hplain.oneLine) (hecho command) hbytes
    simp only [link, exchange, hrun]
    exact ⟨rfl, hdevice, hflows', hunread⟩
  | query command =>
    obtain ⟨hplain, hsome⟩ := hc
    obtain ⟨a, hanswer⟩ := Option.isSome_iff_exists.mp hsome
    obtain ⟨arrivals, hwrite, hflows, hfresh⟩ := hechoes.fresh hwriteMark hs hplain
    have hbytes : fresh rules device command s = Utf8.encode command.toList ++ mark rules ++
        (Utf8.encode a.toList ++ mark rules ++ []) := by
      rw [hfresh, echoed, hanswer, hmark]
      simp [Utf8.encode_cons]
    obtain ⟨t, hrun, hdevice, hflows', hunread⟩ := queryEchoed_line hne hlimit hs.flows hwrite
      hflows (hline hplain.oneLine) (hline (hechoes.answers command d a hplain hanswer))
      (hecho command) hbytes
    rw [hecho] at hrun
    simp only [link, exchange, hrun]
    exact ⟨by simp [answering, Link.basic, hanswer], hdevice, hflows', hunread⟩
  | receive | clear => cases hc

/-- On the chopper and on the source, a conversation of plain commands makes the exchanges that it
would make with a device that answers directly: every call succeeds, and a query gives the answer to
its own command.  However many calls were made, no byte is left unread. -/
theorem echoing_devices_stay_aligned (rules : LineRules) (device : Device δ)
    (answer : String → δ → Option String) (hlimit : rules.limit ≠ 0) (p : Conversation α)
    (s : Stream δ) (hs : Settled s s.device) :
    (rules.terminators = Mc2000b.model.defaults.terminators → Echoes '>' ['>'] device answer →
      p.Meets (answering device answer) (Prompted ['>']) s.device →
      let framed := Mc2000b.model.defaults.framing.link (Line.link rules device)
      p.exchanges framed s = p.exchanges (answering device answer) s.device ∧
        ∀ n, unread ((p.take n).run framed s).2 = []) ∧
    (rules.terminators = Mcls.model.defaults.terminators → Echoes '\r' [] device answer →
      p.Meets (answering device answer) (Matched answer) s.device →
      let framed := Mcls.model.defaults.framing.link (Line.link rules device)
      p.exchanges framed s = p.exchanges (answering device answer) s.device ∧
        ∀ n, unread ((p.take n).run framed s).2 = []) := by
  refine ⟨fun hterminators hechoes hp => ?_, fun hterminators hechoes hp => ?_⟩
  · have hstep := prompted_step (m := '>') hterminators (by decide) (by decide) hlimit hechoes
    exact ⟨(hp.simulates hstep hs).1, fun n => ((hp.take n).simulates hstep hs).2.unread⟩
  · have hstep := matched_step hterminators hlimit hechoes
    exact ⟨(hp.simulates hstep hs).1, fun n => ((hp.take n).simulates hstep hs).2.unread⟩

/-- Bytes that come one by one, with nothing to be read before each. -/
def trickle (bytes : List UInt8) : List Arrival := bytes.flatMap fun b => [.nothingYet, .bytes [b]]

theorem data_trickle (bytes : List UInt8) : data (trickle bytes) = bytes := by
  induction bytes with
  | nil => rfl
  | cons b bytes ih => exact congrArg (b :: ·) ih

theorem flows_trickle (bytes : List UInt8) : Flows (trickle bytes) := by
  induction bytes with
  | nil => exact flows_nil
  | cons b bytes ih => exact flows_cons.mpr ⟨.inl rfl, flows_cons.mpr ⟨.inr ⟨b, [], rfl⟩, ih⟩⟩

/-- A device that echoes, byte by byte. -/
def echoer (prompt : List Char) (answer : String → Option String) : Device Unit where
  write text d :=
    let command := String.ofList text.toList.dropLast
    (.ok (trickle (Utf8.encode (echoed prompt command (answer command)))), d)
  drained := .silent
  discardsArrivals := false

theorem echoer_echoes {final : Char} {prompt : List Char} {answer : String → Option String}
    (h : ∀ command a, answer command = some a → final ∉ a.toList) :
    Echoes final prompt (echoer prompt answer) fun command _ => answer command where
  replies command _ _ := by
    refine ⟨_, _, rfl, flows_trickle _, ?_⟩
    simp [data_trickle]
  answers command _ a _ := h command a

/-- A setting is sent and then read, and the bytes of the replies come one by one. -/
theorem echoing_devices_stay_aligned_trickle :
    let answer (command : String) : Option String := if command = "freq?" then some "500" else none
    let p : Conversation Unit :=
      .step (.send "freq=500") fun _ => .step (.query "freq?") fun _ => .done ()
    let exchanges : List Exchange := [⟨.send "freq=500", .ok ()⟩, ⟨.query "freq?", .ok "500"⟩]
    let s : Stream Unit := { device := () }
    let chopper := (echoPrompt ">").link (Line.link ⟨⟨"\r", ">"⟩, 5000⟩ (echoer ['>'] answer))
    let source := echoLine.link (Line.link ⟨⟨"\r", "\r"⟩, 5000⟩ (echoer [] answer))
    (p.exchanges chopper s = exchanges ∧ ∀ n, unread ((p.take n).run chopper s).2 = []) ∧
      p.exchanges source s = exchanges ∧ ∀ n, unread ((p.take n).run source s).2 = [] := by
  intro answer p exchanges s chopper source
  have hs : Settled s s.device := ⟨rfl, flows_nil, rfl⟩
  have hanswers {final : Char} (hfinal : final ∉ "500".toList) (command a : String)
      (h : answer command = some a) : final ∉ a.toList := by
    simp only [answer] at h
    split at h
    · cases h
      exact hfinal
    · cases h
  have hplain (prompt : List Char) (hprompt : ∀ c ∈ prompt, c = '>') :
      Plain prompt "freq=500" ∧ Plain prompt "freq?" := by
    refine ⟨⟨by decide, by decide, by decide, fun c hc => ?_⟩,
      ⟨by decide, by decide, by decide, fun c hc => ?_⟩⟩ <;>
    · rw [hprompt c hc]
      decide
  have hideal (device : Device Unit) :
      p.exchanges (answering device fun command _ => answer command) () = exchanges := by
    have hanswer : answer "freq?" = some "500" := rfl
    have hstrip : strip "500" = "500" := by decide
    simp only [p, exchanges, Conversation.exchanges_step, Conversation.exchanges_done, answering,
      Link.basic, hanswer, Option.getD_some, hstrip]
  constructor
  · obtain ⟨hsend, hquery⟩ := hplain ['>'] (by simp)
    have haligned := (echoing_devices_stay_aligned ⟨⟨"\r", ">"⟩, 5000⟩ (echoer ['>'] answer)
      (fun command _ => answer command) (by decide) p s hs).1 rfl
      (echoer_echoes (hanswers (by decide))) ⟨hsend, hquery, trivial⟩
    exact ⟨haligned.1.trans (hideal _), haligned.2⟩
  · obtain ⟨hsend, hquery⟩ := hplain [] (by simp)
    have haligned := (echoing_devices_stay_aligned ⟨⟨"\r", "\r"⟩, 5000⟩ (echoer [] answer)
      (fun command _ => answer command) (by decide) p s hs).2 rfl
      (echoer_echoes (hanswers (by decide))) ⟨⟨hsend, rfl⟩, ⟨hquery, rfl⟩, trivial⟩
    exact ⟨haligned.1.trans (hideal _), haligned.2⟩

end InstrumentControl.Framing
