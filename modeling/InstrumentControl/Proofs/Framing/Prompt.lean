import InstrumentControl.Proofs.Framing.Extraction
import InstrumentControl.Proofs.Framing.Fresh

/-! Devices that echo each command before the response and end exchanges with a prompt.  When the
device keeps to that, the payload is what stands between the echo and the prompt. -/

namespace InstrumentControl.Framing

open Text Line

/-- In a response that begins with the command and lacks the prompt, the payload is what follows the
command. -/
theorem payload_echoed {prompt command rest : List Char} (htrim : trim command = command)
    (hne : command ≠ []) (hprompt : ¬ prompt <:+: command ++ rest) :
    payload prompt command (command ++ rest) = .ok (trim rest) := by
  have hne' : prompt ≠ [] := by
    rintro rfl
    exact hprompt List.nil_infix
  have hrest : ¬ prompt <:+: rest := fun h =>
    hprompt (h.trans (List.suffix_append command rest).isInfix)
  have hstart : trimStart (command ++ rest) = command ++ rest := by
    have hcommand := trimStart_of_trim htrim
    rw [trimStart_append (hcommand.symm ▸ hne), hcommand]
  have hecho : dropLeftover prompt (command ++ rest) = trim command ++ ([] ++ rest ++ []) := by
    rw [dropLeftover_eq hne', hstart,
      dropHeads_eq_self fun h => hprompt h.isInfix, hstart, htrim]
    simp
  exact payload_unclosed hne' hrest (List.forall_mem_nil _) (List.forall_mem_nil _) hecho

theorem queryPrompted_eq_ok {σ : Type} {inner : Link σ} {prompt command response : String}
    {s t : σ} : (queryPrompted prompt command).run inner s = (.ok response, t) ↔ ∃ raw,
      (freshQuery command).run inner s = (.ok raw, t) ∧
        (echoPrompt prompt).extract command raw = .ok response := by
  simp only [queryPrompted, Program.bind_eq, Conversation.run_bind]
  rcases (freshQuery command).run inner s with ⟨_ | raw, u⟩
  · simp
  · simp [and_comm]

/-- A response that is under way up to the prompt gives what follows the echo. -/
theorem queryPrompted_line {δ : Type} {rules : LineRules} {device : Device δ} {command : String}
    {s : Stream δ} {m : Char} (hread : rules.terminators.read = String.ofList [m])
    (hm : m.toNat < 0x80) (hlimit : rules.limit ≠ 0) (hflows : Flows s.arrivals)
    {arrivals : List Arrival} {d : δ}
    (hwrite : device.write (command ++ rules.terminators.write) s.device = (.ok arrivals, d))
    (hflows' : Flows arrivals) (htrim : trim command.toList = command.toList)
    (hne : command.toList ≠ []) {rest : List Char} (hprompt : m ∉ command.toList ++ rest)
    {after : List UInt8}
    (hfresh : fresh rules device command s =
      Utf8.encode (command.toList ++ rest) ++ mark rules ++ after) :
    ∃ t, (queryPrompted (String.ofList [m]) command).run (Line.link rules device) s =
        (.ok (String.ofList (trim rest)), t) ∧
      t.device = d ∧ Flows t.arrivals ∧ unread t = after := by
  have hmark : mark rules ≠ [] := mark_ne_nil (by rw [hread]; simp)
  obtain ⟨t, hquery, hdevice, hrest⟩ := freshQuery_line hmark hlimit hflows hwrite hflows'
    (isLine_mark hread hm hprompt) hfresh
  have htext := trim_append_of_trimmed htrim hne rest
  have hlacks : ¬ [m] <:+: command.toList ++ trimEnd rest := by
    rw [List.singleton_infix_iff, ← htext]
    exact fun hmem => hprompt ((trim_isInfix _).mem hmem)
  refine ⟨t, queryPrompted_eq_ok.mpr ⟨_, hquery, ?_⟩, hdevice, hrest⟩
  rw [lineText_encode, htext, extract, String.toList_ofList, String.toList_ofList,
    payload_echoed htrim hne hlacks, trim_trimEnd]

end InstrumentControl.Framing
