import InstrumentControl.Framing
import InstrumentControl.Proofs.Text.Affix
import InstrumentControl.Proofs.Text.Blank

/-! Extraction of payloads from responses that begin with an echo and end with a prompt.  `Carries`
says how such a response is made up.  A well-formed response gives its payload, whatever was left
over from the exchange before it; and whatever a payload is extracted from is made up in that way. -/

namespace InstrumentControl.Framing

open Text

/-- A response with the payload `body`: the command after blanks and prompts that were left over, the
payload after blanks, and at most one prompt after the payload. -/
inductive Carries (prompt command body : List Char) : (raw : List Char) → Prop
  | intro {lead gap before after closing last : List Char} {count : Nat} (hlead : Blank lead)
      (hgap : Blank gap) (hbefore : Blank before) (hafter : Blank after) (hlast : Blank last)
      (hclosing : closing = [] ∨ closing = prompt) :
      Carries prompt command body (lead ++ (List.replicate count prompt).flatten ++ gap ++
        command ++ (before ++ body ++ after ++ closing ++ last))

variable {prompt command raw body : List Char}

/-! ### What was left over -/

theorem dropLeftover_eq (hprompt : prompt ≠ []) (raw : List Char) :
    dropLeftover prompt raw = trimStart (dropHeads prompt (trimStart raw)) := by
  have hempty : prompt.isEmpty = false := by simpa using hprompt
  rw [dropLeftover, hempty, if_neg Bool.false_ne_true]

/-- What is left over from the exchange before is blanks and prompts. -/
theorem exists_leftover (prompt raw : List Char) : ∃ lead gap count, Blank lead ∧ Blank gap ∧
    raw = lead ++ (List.replicate count prompt).flatten ++ gap ++ dropLeftover prompt raw := by
  obtain ⟨lead, hlead, hraw⟩ := exists_blank_trimStart raw
  by_cases hprompt : prompt = []
  · refine ⟨lead, [], 0, hlead, nofun, ?_⟩
    simpa [dropLeftover, hprompt] using hraw
  · obtain ⟨count, hcopies⟩ := exists_copies_dropHeads prompt (trimStart raw)
    obtain ⟨gap, hgap, hrest⟩ := exists_blank_trimStart (dropHeads prompt (trimStart raw))
    refine ⟨lead, gap, count, hlead, hgap, ?_⟩
    rw [dropLeftover_eq hprompt, List.append_assoc, List.append_assoc, ← hrest, ← hcopies, ← hraw]

/-- Before a text that begins neither with a blank nor with the prompt, all that is left over
goes. -/
theorem dropLeftover_append {lead gap rest : List Char} (hprompt : prompt ≠ [])
    (hsolid : Solid prompt) (hlead : Blank lead) (hgap : Blank gap) (count : Nat)
    (hrest : trimStart rest = rest) (hfree : ¬ prompt <+: rest) :
    dropLeftover prompt (lead ++ (List.replicate count prompt).flatten ++ gap ++ rest) = rest := by
  have hgone : trimStart (gap ++ rest) = rest := by rw [trimStart_append_of_blank hgap, hrest]
  have hfree' : ¬ prompt <+: gap ++ rest := by
    cases gap with
    | nil => exact hfree
    | cons c gap =>
      obtain ⟨first, prompt, rfl⟩ := List.exists_cons_of_ne_nil hprompt
      rw [List.cons_append, List.cons_prefix_cons]
      rintro ⟨rfl, -⟩
      exact absurd (hgap first List.mem_cons_self) (by simp [hsolid first List.mem_cons_self])
  rw [dropLeftover_eq hprompt, List.append_assoc, List.append_assoc,
    trimStart_append_of_blank hlead]
  cases count with
  | zero =>
    rw [List.replicate_zero, List.flatten_nil, List.nil_append, hgone, dropHeads_eq_self hfree,
      hrest]
  | succ count =>
    have hstart : trimStart ((List.replicate (count + 1) prompt).flatten ++ (gap ++ rest)) =
        (List.replicate (count + 1) prompt).flatten ++ (gap ++ rest) := by
      rw [List.replicate_succ, List.flatten_cons, List.append_assoc]
      exact hsolid.trimStart_append hprompt _
    rw [hstart, dropHeads_copies hprompt hfree', hgone]

/-- A prompt without blanks does not reach beyond a blank. -/
theorem not_prefix_append_blank {before rest : List Char} (hsolid : Solid prompt)
    (hbefore : Blank before) (hne : before ≠ []) (hfree : ¬ prompt <+: command) :
    ¬ prompt <+: command ++ (before ++ rest) := by
  intro hreach
  rcases List.prefix_or_prefix_of_prefix hreach (List.prefix_append command _) with h | ⟨extra, h⟩
  · exact hfree h
  · obtain ⟨c, before, rfl⟩ := List.exists_cons_of_ne_nil hne
    rw [← h, List.prefix_append_right_inj] at hreach
    cases extra with
    | nil => exact hfree ⟨[], by rw [← h, List.append_nil, List.append_nil]⟩
    | cons first extra =>
      rw [List.cons_append, List.cons_prefix_cons] at hreach
      have hmem : first ∈ prompt := by simp [← h]
      exact absurd (hbefore c List.mem_cons_self) (by simp [← hreach.1, hsolid first hmem])

/-! ### The closing prompt -/

theorem dropPrompt_append (hprompt : prompt ≠ []) (body : List Char) :
    dropPrompt prompt (body ++ prompt) = trimEnd body := by
  have hempty : prompt.isEmpty = false := by simpa using hprompt
  rw [dropPrompt, hempty, if_neg Bool.false_ne_true, dropTail?_eq_some.mpr rfl]

theorem dropPrompt_eq_self (h : ¬ prompt <:+ body) : dropPrompt prompt body = body := by
  rw [dropPrompt, dropTail?_eq_none.mpr h]
  exact ite_self body

/-- Behind what is left of a text stand blanks and at most one prompt. -/
theorem exists_closing (prompt body : List Char) : ∃ after closing, Blank after ∧
    (closing = [] ∨ closing = prompt) ∧ body = dropPrompt prompt body ++ after ++ closing := by
  by_cases hprompt : prompt = []
  · exact ⟨[], [], nofun, .inl rfl, by simp [dropPrompt, hprompt]⟩
  · by_cases hends : prompt <:+ body
    · obtain ⟨front, rfl⟩ := hends
      obtain ⟨after, hafter, hfront⟩ := exists_blank_trimEnd front
      refine ⟨after, prompt, hafter, .inr rfl, ?_⟩
      rw [dropPrompt_append hprompt, ← hfront]
    · exact ⟨[], [], nofun, .inl rfl, by rw [dropPrompt_eq_self hends]; simp⟩

/-- What is trimmed stays so when the closing prompt goes. -/
theorem trim_dropPrompt (prompt : List Char) (h : trim body = body) :
    trim (dropPrompt prompt body) = dropPrompt prompt body := by
  by_cases hprompt : prompt = []
  · simpa [dropPrompt, hprompt] using h
  · by_cases hends : prompt <:+ body
    · obtain ⟨front, rfl⟩ := hends
      have hstart := trimStart_of_append (trimStart_of_trim h)
      rw [dropPrompt_append hprompt, trim_trimEnd, trim, hstart]
    · rw [dropPrompt_eq_self hends, h]

/-! ### The payload -/

theorem payload_eq_ok (hprompt : prompt ≠ []) : payload prompt command raw = .ok body ↔
    ∃ rest, dropLeftover prompt raw = trim command ++ rest ∧
      dropPrompt prompt (trim rest) = body ∧ ¬ prompt <:+: body := by
  have hempty : prompt.isEmpty = false := by simpa using hprompt
  rw [payload]
  cases hecho : dropHead? (trim command) (dropLeftover prompt raw) with
  | none =>
    constructor
    · intro h
      cases h
    · rintro ⟨rest, hrest, -⟩
      rw [dropHead?_eq_some.mpr hrest] at hecho
      cases hecho
  | some rest =>
    have hrest := dropHead?_eq_some.mp hecho
    by_cases hinside : prompt <:+: dropPrompt prompt (trim rest)
    · have hoccurs := occursIn_iff.mpr hinside
      simp only [hempty, hoccurs, hrest, List.append_cancel_left_eq]
      constructor
      · intro h
        cases h
      · rintro ⟨_, rfl, rfl, hfree⟩
        exact absurd hinside hfree
    · have hoccurs : occursIn prompt (dropPrompt prompt (trim rest)) = false := by
        rw [← Bool.not_eq_true, occursIn_iff]
        exact hinside
      simp only [hempty, hoccurs, hrest, List.append_cancel_left_eq]
      constructor
      · intro h
        cases h
        exact ⟨rest, rfl, rfl, hinside⟩
      · rintro ⟨_, rfl, rfl, -⟩
        rfl

theorem payload_eq_missingEcho : payload prompt command raw = .error .missingEcho ↔
    ¬ trim command <+: dropLeftover prompt raw := by
  rw [payload]
  cases hecho : dropHead? (trim command) (dropLeftover prompt raw) with
  | none => simpa using dropHead?_eq_none.mp hecho
  | some rest =>
    have hbegins : trim command <+: dropLeftover prompt raw :=
      ⟨rest, (dropHead?_eq_some.mp hecho).symm⟩
    simp only [hbegins, not_true_eq_false, iff_false]
    split <;> simp

/-- What follows an echo is the payload between blanks, and at most one prompt after it. -/
theorem exists_around (prompt rest : List Char) : ∃ before after closing last, Blank before ∧
    Blank after ∧ Blank last ∧ (closing = [] ∨ closing = prompt) ∧
    rest = before ++ dropPrompt prompt (trim rest) ++ after ++ closing ++ last := by
  obtain ⟨before, last, hbefore, hlast, hrest⟩ := exists_blank_trim rest
  obtain ⟨after, closing, hafter, hclosing, hbody⟩ := exists_closing prompt (trim rest)
  refine ⟨before, after, closing, last, hbefore, hafter, hlast, hclosing, ?_⟩
  rw [List.append_assoc before, List.append_assoc before, ← hbody]
  exact hrest

/-- Whatever a payload is extracted from is made up of what was left over, the echo, the payload and
at most one prompt. -/
theorem carries_of_payload (hprompt : prompt ≠ []) (h : payload prompt command raw = .ok body) :
    trim body = body ∧ ¬ prompt <:+: body ∧ Carries prompt (trim command) body raw := by
  obtain ⟨rest, hecho, rfl, hfree⟩ := (payload_eq_ok hprompt).mp h
  refine ⟨trim_dropPrompt prompt (trim_trim rest), hfree, ?_⟩
  obtain ⟨lead, gap, count, hlead, hgap, hraw⟩ := exists_leftover prompt raw
  obtain ⟨before, after, closing, last, hbefore, hafter, hlast, hclosing, hrest⟩ :=
    exists_around prompt rest
  have hmade : Carries prompt (trim command) (dropPrompt prompt (trim rest))
      (lead ++ (List.replicate count prompt).flatten ++ gap ++ trim command ++
        (before ++ dropPrompt prompt (trim rest) ++ after ++ closing ++ last)) :=
    .intro hlead hgap hbefore hafter hlast hclosing
  rw [← hrest, List.append_assoc _ (trim command), ← hecho, ← hraw] at hmade
  exact hmade

section

variable {before text after : List Char} (hprompt : prompt ≠ []) (htext : ¬ prompt <:+: text)
  (hbefore : Blank before) (hafter : Blank after)
include hprompt htext hbefore hafter

/-- The text after the echo is the payload. -/
theorem payload_unclosed
    (hecho : dropLeftover prompt raw = trim command ++ (before ++ text ++ after)) :
    payload prompt command raw = .ok (trim text) := by
  have htrim : trim (before ++ text ++ after) = trim text := by
    rw [trim_append_right hafter, trim_append_left hbefore]
  have hfree : ¬ prompt <:+: trim text := fun h => htext (h.trans (trim_isInfix text))
  refine (payload_eq_ok hprompt).mpr ⟨_, hecho, ?_, hfree⟩
  rw [htrim, dropPrompt_eq_self fun h => hfree h.isInfix]

/-- The text between the echo and the closing prompt is the payload. -/
theorem payload_closed (hsolid : Solid prompt)
    (hecho : dropLeftover prompt raw = trim command ++ (before ++ text ++ after ++ prompt)) :
    payload prompt command raw = .ok (trim text) := by
  have htrim : dropPrompt prompt (trim (before ++ text ++ after ++ prompt)) = trim text := by
    rw [hsolid.trim_append hprompt, dropPrompt_append hprompt]
    exact (trim_append_right hafter).trans (trim_append_left hbefore)
  exact (payload_eq_ok hprompt).mpr
    ⟨_, hecho, htrim, fun h => htext (h.trans (trim_isInfix text))⟩

end

theorem extract_eq_ok {prompt command raw text : String} :
    (echoPrompt prompt).extract command raw = .ok text ↔
      payload prompt.toList command.toList raw.toList = .ok text.toList := by
  rw [extract]
  cases payload prompt.toList command.toList raw.toList with
  | error fault => simp
  | ok body => simp [← String.toList_inj]

theorem extract_eq_error {prompt command raw : String} {e : LinkError} :
    (echoPrompt prompt).extract command raw = .error e ↔ ∃ fault,
      payload prompt.toList command.toList raw.toList = .error fault ∧
        e = .malformed command fault raw := by
  rw [extract]
  cases payload prompt.toList command.toList raw.toList with
  | error fault => simp [eq_comm]
  | ok body => simp

theorem extract_eq_malformed {prompt command raw : String} {fault : FramingFault} :
    (echoPrompt prompt).extract command raw = .error (.malformed command fault raw) ↔
      payload prompt.toList command.toList raw.toList = .error fault := by
  rw [extract_eq_error]
  constructor
  · rintro ⟨fault', hfault, he⟩
    cases he
    exact hfault
  · exact fun hfault => ⟨fault, hfault, rfl⟩

/-- A response with the echo of its command gives the text after the echo, between blanks, whether a
prompt closes it or not.  Conversely a text is only ever extracted from such a response, and any
other response is refused as it came. -/
theorem echoPrompt_extracts_payload (prompt : String) (hprompt : prompt ≠ "") :
    (Solid prompt.toList → ∀ (command : String) (lead gap before text after : List Char)
        (count : Nat), strip command ≠ "" → ¬ prompt.toList <+: trim command.toList →
        ¬ prompt.toList <:+: text → Blank lead → Blank gap → Blank before → before ≠ [] →
        Blank after →
        let raw := lead ++ (List.replicate count prompt.toList).flatten ++ gap ++
          trim command.toList ++ (before ++ text ++ after)
        let payload := String.ofList (trim text)
        (echoPrompt prompt).extract command (String.ofList raw) = .ok payload ∧
          (echoPrompt prompt).extract command (String.ofList (raw ++ prompt.toList)) =
            .ok payload) ∧
    ∀ command raw : String,
      (∀ text, (echoPrompt prompt).extract command raw = .ok text →
        strip text = text ∧ ¬ prompt.toList <:+: text.toList ∧
          Carries prompt.toList (trim command.toList) text.toList raw.toList) ∧
      ∀ e, (echoPrompt prompt).extract command raw = .error e →
        ∃ fault, e = .malformed command fault raw := by
  have hne : prompt.toList ≠ [] := String.toList_eq_nil_iff.not.mpr hprompt
  refine ⟨?_, fun command raw => ⟨?_, ?_⟩⟩
  · intro hsolid command lead gap before text after count hcommand hfree htext hlead hgap hbefore
      hspace hafter raw payload
    have hstart (rest : List Char) :
        trimStart (trim command.toList ++ rest) = trim command.toList ++ rest := by
      have hself : trimStart (trim command.toList) = trim command.toList :=
        trimStart_of_trim (trim_trim _)
      have hcommand' : trim command.toList ≠ [] := by
        rw [← toList_strip]
        exact String.toList_eq_nil_iff.not.mpr hcommand
      rw [trimStart_append (hself.symm ▸ hcommand'), hself]
    have hleft (rest : List Char) : dropLeftover prompt.toList (lead ++
        (List.replicate count prompt.toList).flatten ++ gap ++ (trim command.toList ++
          (before ++ rest))) = trim command.toList ++ (before ++ rest) :=
      dropLeftover_append hne hsolid hlead hgap count (hstart _)
        (not_prefix_append_blank hsolid hbefore hspace hfree)
    constructor
    · rw [extract_eq_ok, String.toList_ofList, String.toList_ofList]
      refine payload_unclosed hne htext hbefore hafter ?_
      simpa [raw] using hleft (text ++ after)
    · rw [extract_eq_ok, String.toList_ofList, String.toList_ofList]
      refine payload_closed hne htext hbefore hafter hsolid ?_
      simpa [raw] using hleft (text ++ (after ++ prompt.toList))
  · intro text h
    obtain ⟨htrim, hfree, hcarries⟩ := carries_of_payload hne (extract_eq_ok.mp h)
    exact ⟨String.toList_inj.mp (by rw [toList_strip, htrim]), hfree, hcarries⟩
  · intro e h
    obtain ⟨fault, -, rfl⟩ := extract_eq_error.mp h
    exact ⟨fault, rfl⟩

/-- Two prompts were left over, the payload ends like a prompt, and a prompt closes the response. -/
theorem echoPrompt_extracts_payload_overlapping :
    (">>" ≠ "" ∧ Solid ">>".toList ∧ strip " freq? " ≠ "" ∧
      ¬ ">>".toList <+: trim " freq? ".toList ∧ ¬ ">>".toList <:+: " 500>".toList) ∧
    (echoPrompt ">>").extract " freq? " "\n>>>> freq?\r 500>\r" = .ok "500>" ∧
    (echoPrompt ">>").extract " freq? " "\n>>>> freq?\r 500>\r>>" = .ok "500>" ∧
    Carries ">>".toList "freq?".toList "500>".toList "\n>>>> freq?\r 500>\r>>".toList ∧
    ∃ fault, (echoPrompt ">>").extract "freq?" "500\r" =
      .error (.malformed "freq?" fault "500\r") := by
  have hprompt : ">>" ≠ "" := by decide
  have hsolid : Solid ">>".toList := by decide
  have hcommand : strip " freq? " ≠ "" := by decide
  have hfree : ¬ ">>".toList <+: trim " freq? ".toList := by decide
  have htext : ¬ ">>".toList <:+: " 500>".toList := by decide
  obtain ⟨hopen, hclosed⟩ := (echoPrompt_extracts_payload ">>" hprompt).1 hsolid " freq? " ['\n']
    [' '] ['\r'] " 500>".toList ['\r'] 2 hcommand hfree htext (by decide) (by decide) (by decide)
    (by decide) (by decide)
  have hmade := ((echoPrompt_extracts_payload ">>" hprompt).2 " freq? " _).1 "500>" hclosed
  have hleft : dropLeftover ">>".toList "500\r".toList = "500\r".toList := by
    rw [dropLeftover_eq (by decide), dropHeads_eq_self (by decide)]
    decide
  have hrefused : (echoPrompt ">>").extract "freq?" "500\r" =
      .error (.malformed "freq?" .missingEcho "500\r") :=
    extract_eq_malformed.mpr (payload_eq_missingEcho.mpr (by rw [hleft]; decide))
  obtain ⟨fault, hfault⟩ :=
    ((echoPrompt_extracts_payload ">>" hprompt).2 "freq?" "500\r").2 _ hrefused
  exact ⟨⟨hprompt, hsolid, hcommand, hfree, htext⟩, hopen, hclosed, hmade.2.2, fault,
    hrefused.trans (congrArg _ hfault)⟩

end InstrumentControl.Framing
