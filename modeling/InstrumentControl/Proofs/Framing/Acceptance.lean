import InstrumentControl.Link.Scripted
import InstrumentControl.Model.Mc2000b
import InstrumentControl.Proofs.Framing.Prompt

/-! Which responses are accepted for a command on a device that echoes and prompts.  The echo is
expected at the beginning of the first line, and what follows it there is taken for payload.  So a
response is refused unless its first line begins with the command; but the line may go on, and then
the echo was that of a longer command. -/

namespace InstrumentControl.Framing

open Text

def isLineEnd (c : Char) : Bool := c = '\r' || c = '\n'

/-- The text up to the first end of a line. -/
def firstLine (s : List Char) : List Char := s.takeWhile (!isLineEnd ·)

/-- What stands behind a payload: blanks and at most one prompt. -/
def Closing (prompt tail : List Char) : Prop :=
  ∃ after closing last, Blank after ∧ Blank last ∧ (closing = [] ∨ closing = prompt) ∧
    tail = after ++ closing ++ last

variable {s t gap text command : List Char}

theorem firstLine_eq_self : firstLine s = s ↔ ∀ c ∈ s, isLineEnd c = false := by
  rw [firstLine, List.takeWhile_eq_self_iff]
  simp

theorem firstLine_append (h : firstLine s = s) (t : List Char) :
    firstLine (s ++ t) = s ++ firstLine t :=
  List.takeWhile_append_of_pos (List.takeWhile_eq_self_iff.mp h)

theorem firstLine_append_of_end (h : ∃ c ∈ s, isLineEnd c = true) (t : List Char) :
    firstLine (s ++ t) = firstLine s := by
  rw [firstLine, List.takeWhile_append, if_neg]
  · rfl
  · intro hlength
    obtain ⟨c, hc, hend⟩ := h
    have hself := (List.takeWhile_prefix _).eq_of_length hlength
    exact absurd hend (by simp [firstLine_eq_self.mp hself c hc])

/-- A text on one line begins another exactly if it begins the first line of it. -/
theorem prefix_firstLine (h : firstLine s = s) : s <+: firstLine t ↔ s <+: t := by
  constructor
  · exact fun hs => hs.trans (List.takeWhile_prefix _)
  · rintro ⟨rest, rfl⟩
    exact ⟨firstLine rest, (firstLine_append h rest).symm⟩

theorem isBlank_of_isLineEnd {c : Char} (h : isLineEnd c = true) : isBlank c = true := by
  simp only [isLineEnd, Bool.or_eq_true, decide_eq_true_eq] at h
  rcases h with rfl | rfl <;> decide

/-- The line of a command is the command alone unless a text begins on it. -/
theorem trim_firstLine (htrim : trim command = command) (hne : command ≠ [])
    (hline : firstLine command = command) (hgap : Blank gap) (htext : trim text = text) :
    trim (firstLine (command ++ (gap ++ text))) = command ↔
      text = [] ∨ ∃ c ∈ gap, isLineEnd c = true := by
  rw [firstLine_append hline, trim_append_of_trimmed htrim hne, List.append_right_eq_self,
    trimEnd_eq_nil]
  by_cases hend : ∃ c ∈ gap, isLineEnd c = true
  · rw [firstLine_append_of_end hend]
    have hblank : Blank (firstLine gap) := fun c hc => hgap c ((List.takeWhile_prefix _).mem hc)
    exact iff_of_true hblank (.inr hend)
  · have hself : firstLine gap = gap := by
      rw [firstLine_eq_self]
      simpa using hend
    rw [firstLine_append hself]
    cases text with
    | nil => simpa [firstLine] using hgap
    | cons c text =>
      -- the text begins with no blank, so it begins on the line
      have hc := trimStart_cons_eq_self.mp (trimStart_of_trim htext)
      have hinner : isLineEnd c = false := by
        by_contra hend'
        rw [isBlank_of_isLineEnd (by simpa using hend')] at hc
        cases hc
      have hmem : c ∈ gap ++ firstLine (c :: text) := by simp [firstLine, hinner]
      refine iff_of_false (fun hblank => ?_) (by simp [hend])
      rw [hblank c hmem] at hc
      cases hc

/-- What follows the command on the first line of an accepted response is the beginning of the
payload. -/
theorem exists_tail_of_payload {prompt raw body : List Char} (hprompt : prompt ≠ [])
    (htrim : trim command = command) (hne : command ≠ []) (hline : firstLine command = command)
    (h : payload prompt command raw = .ok body) :
    ∃ gap tail, Blank gap ∧ Closing prompt tail ∧
      dropLeftover prompt raw = command ++ (gap ++ body) ++ tail ∧
      (trim (firstLine (command ++ (gap ++ body))) = command ↔
        body = [] ∨ ∃ c ∈ gap, isLineEnd c = true) := by
  obtain ⟨rest, hecho, rfl, -⟩ := (payload_eq_ok hprompt).mp h
  obtain ⟨gap, after, closing, last, hgap, hafter, hlast, hclosing, hrest⟩ :=
    exists_around prompt rest
  refine ⟨gap, after ++ closing ++ last, hgap, ⟨after, closing, last, hafter, hlast, hclosing, rfl⟩,
    ?_, trim_firstLine htrim hne hline hgap (trim_dropPrompt prompt (trim_trim rest))⟩
  rw [hecho, htrim]
  conv_lhs => rw [hrest]
  simp only [List.append_assoc]

/-- A response is refused for a missing echo exactly if its first line does not begin with the
command, so that a response in which no prompt is left is accepted exactly if it does.  The line of
an accepted response, as far as a closing prompt, is the command alone just if the payload begins on
a later line or is empty; if not, the payload begins with what follows the command on the line. -/
theorem accepted_responses_begin_with_command (prompt command raw : String) (hprompt : prompt ≠ "")
    (htrim : strip command = command) (hne : command ≠ "")
    (hline : firstLine command.toList = command.toList) :
    let response := dropLeftover prompt.toList raw.toList
    ((echoPrompt prompt).extract command raw = .error (.malformed command .missingEcho raw) ↔
      ¬ command.toList <+: firstLine response) ∧
    (¬ prompt.toList <:+: response →
      ((∃ text, (echoPrompt prompt).extract command raw = .ok text) ↔
        command.toList <+: firstLine response)) ∧
    ∀ text, (echoPrompt prompt).extract command raw = .ok text →
      ∃ gap tail, Blank gap ∧ Closing prompt.toList tail ∧
        response = command.toList ++ (gap ++ text.toList) ++ tail ∧
        (trim (firstLine (command.toList ++ (gap ++ text.toList))) = command.toList ↔
          text = "" ∨ ∃ c ∈ gap, isLineEnd c = true) := by
  intro response
  have hprompt' : prompt.toList ≠ [] := String.toList_eq_nil_iff.not.mpr hprompt
  have hne' : command.toList ≠ [] := String.toList_eq_nil_iff.not.mpr hne
  have htrim' : trim command.toList = command.toList := by rw [← toList_strip, htrim]
  rw [prefix_firstLine hline]
  refine ⟨?_, fun hfree => ⟨?_, ?_⟩, ?_⟩
  · rw [extract_eq_malformed, payload_eq_missingEcho, htrim']
  · rintro ⟨text, h⟩
    obtain ⟨rest, hecho, -⟩ := (payload_eq_ok hprompt').mp (extract_eq_ok.mp h)
    exact ⟨rest, by rw [← htrim']; exact hecho.symm⟩
  · rintro ⟨rest, hrest⟩
    have hfree' : ¬ prompt.toList <:+: rest := fun h =>
      hfree (h.trans (hrest ▸ (List.suffix_append _ rest).isInfix))
    refine ⟨String.ofList (trim rest), extract_eq_ok.mpr ?_⟩
    rw [String.toList_ofList]
    refine payload_unclosed hprompt' hfree' (List.forall_mem_nil _) (List.forall_mem_nil _) ?_
    rw [htrim']
    simpa using hrest.symm
  · intro text h
    have hbody := exists_tail_of_payload hprompt' htrim' hne' hline (extract_eq_ok.mp h)
    rwa [String.toList_eq_nil_iff] at hbody

/-- After a prompt that was left over, the payload is on the line after the echo. -/
theorem accepted_responses_begin_with_command_reading :
    (">" ≠ "" ∧ strip "freq?" = "freq?" ∧ "freq?" ≠ "" ∧
      firstLine "freq?".toList = "freq?".toList) ∧
    let response := dropLeftover ">".toList "> freq?\r500\r".toList
    ¬ ">".toList <:+: response ∧
    ∃ text gap tail, (echoPrompt ">").extract "freq?" "> freq?\r500\r" = .ok text ∧ Blank gap ∧
      Closing ">".toList tail ∧ response = "freq?".toList ++ (gap ++ text.toList) ++ tail := by
  have hprompt : ">" ≠ "" := by decide
  have htrim : strip "freq?" = "freq?" := by decide
  have hne : "freq?" ≠ "" := by decide
  have hline : firstLine "freq?".toList = "freq?".toList := by decide
  have hleft : dropLeftover ">".toList "> freq?\r500\r".toList = "freq?\r500\r".toList :=
    dropLeftover_append (by decide) (by decide) (by decide : Blank []) (by decide : Blank [' ']) 1
      (by decide) (by decide)
  have hfree : ¬ ">".toList <:+: dropLeftover ">".toList "> freq?\r500\r".toList := by
    rw [hleft]
    decide
  obtain ⟨-, haccepted, hmade⟩ :=
    accepted_responses_begin_with_command ">" "freq?" "> freq?\r500\r" hprompt htrim hne hline
  obtain ⟨text, htext⟩ := (haccepted hfree).mpr (by rw [hleft]; decide)
  obtain ⟨gap, tail, hgap, htail, hresponse, -⟩ := hmade text htext
  exact ⟨⟨hprompt, htrim, hne, hline⟩, hfree, text, gap, tail, htext, hgap, htail, hresponse⟩

/-- The chopper is set to 60 Hz, and the late echo of a setting to 600 Hz is taken for that of the
new one. -/
theorem late_echo_acknowledges_shorter_setting :
    strip "freq=60" = "freq=60" ∧ firstLine "freq=60".toList = "freq=60".toList ∧
    dropLeftover ">".toList "freq=600\r".toList = "freq=600\r".toList ∧
    trim (firstLine "freq=600\r".toList) = "freq=600".toList ∧
    (echoPrompt ">").extract "freq=60" "freq=600\r" = .ok "0" ∧
    let chopper := Mc2000b.model.defaults.framing.link Scripted.link
    (chopper (.send "freq=60") { script := ["freq=600\r"] }).1 = .ok () := by
  have hleft : dropLeftover ">".toList "freq=600\r".toList = "freq=600\r".toList :=
    dropLeftover_append (by decide) (by decide) (by decide : Blank []) (by decide : Blank []) 0
      (by decide) (by decide)
  have hextract : (echoPrompt ">").extract "freq=60" "freq=600\r" = .ok "0" := by
    refine extract_eq_ok.mpr ((payload_eq_ok (by decide)).mpr ⟨"0\r".toList, ?_, ?_, ?_⟩)
    · rw [hleft]
      decide
    · decide
    · decide
  have hrun : (queryPrompted ">" "freq=60").run Scripted.link { script := ["freq=600\r"] } =
      (.ok "0", { log := [.clear, .query "freq=60"] }) :=
    queryPrompted_eq_ok.mpr ⟨"freq=600\r", rfl, hextract⟩
  refine ⟨by decide, by decide, hleft, by decide, hextract, ?_⟩
  show (((echoPrompt ">").exchange (.send "freq=60")).run Scripted.link _).1 = _
  simp only [exchange, Program.bind_eq, Conversation.run_bind, hrun]
  rfl

end InstrumentControl.Framing
