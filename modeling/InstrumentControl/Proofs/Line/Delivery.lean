import InstrumentControl.Proofs.Line.Arrival
import InstrumentControl.Proofs.Text.Blank
import InstrumentControl.Proofs.Text.Utf8

/-! Lines that are under way arrive.  On a stream that neither fails nor ends nor stalls, reading a
line succeeds as soon as its bytes are there or about to come, however they are cut, and leaves what
follows the line. -/

namespace InstrumentControl.Line

open Text

variable {δ : Type}

theorem strip_lineText (bytes : List UInt8) : strip (lineText bytes) = lineText bytes := by
  rw [lineText, strip, String.toList_ofList, trim_trim]

theorem lineText_encode (text : List Char) :
    lineText (Utf8.encode text) = String.ofList (trim text) := by
  rw [lineText, Utf8.decode_encode]

theorem mark_eq_encode {rules : LineRules} {text : List Char}
    (hread : rules.terminators.read = String.ofList text) : mark rules = Utf8.encode text := by
  rw [mark, hread, String.toList_ofList]

theorem isLine_mark {rules : LineRules} {m : Char} {text : List Char}
    (hread : rules.terminators.read = String.ofList [m]) (hm : m.toNat < 0x80) (h : m ∉ text) :
    IsLine (mark rules) (Utf8.encode text) := by
  rw [mark_eq_encode hread]
  exact Utf8.isLine_encode hm h

/-- Bytes come, with moments in between at which there are none; the stream neither fails nor ends,
and the time limit does not pass. -/
def Flows (arrivals : List Arrival) : Prop :=
  ∀ arrival ∈ arrivals, arrival = .nothingYet ∨ ∃ b bytes, arrival = .bytes (b :: bytes)

theorem flows_nil : Flows [] := fun _ h => absurd h List.not_mem_nil

theorem flows_cons {arrival : Arrival} {arrivals : List Arrival} : Flows (arrival :: arrivals) ↔
    (arrival = .nothingYet ∨ ∃ b bytes, arrival = .bytes (b :: bytes)) ∧ Flows arrivals :=
  List.forall_mem_cons

theorem Flows.append {first second : List Arrival} (h : Flows first) (h' : Flows second) :
    Flows (first ++ second) := fun arrival hmem =>
  (List.mem_append.mp hmem).elim (h arrival) (h' arrival)

theorem readLine_flows (rules : LineRules) (drained : Drained) (command : String)
    {pending : List UInt8} {arrivals : List Arrival} (hmark : mark rules ≠ [])
    (hflows : Flows arrivals) (hline : mark rules <:+: pending ++ data arrivals) :
    let result := readLine rules drained command false pending arrivals
    (∃ text, result.1 = .ok text) ∧ Flows result.2.2 := by
  generalize hlate : false = late
  fun_induction readLine rules drained command late pending arrivals with
  | case1 late pending arrivals line rest hcut => exact ⟨⟨_, rfl⟩, hflows⟩
  | case2 => cases hlate
  | case3 late pending hcut hnot | case4 late pending hcut hnot =>
    -- nothing is left to be read, so the line would be pending as a whole
    rw [data, List.append_nil] at hline
    exact absurd hline (not_infix_of_cutAt?_eq_none hmark hcut)
  | case5 late pending hcut hnot more =>
    obtain ⟨h | ⟨_, _, h⟩, -⟩ := flows_cons.mp hflows <;> cases h
  | case6 late pending hcut hnot b bytes more hshort ih =>
    refine ih (flows_cons.mp hflows).2 ?_ rfl
    rwa [List.append_assoc]
  | case7 late pending hcut hnot b bytes more hlong ih =>
    have hrest : (b :: bytes).drop chunkSize ≠ [] := by
      rw [Ne, List.drop_eq_nil_iff, List.length_cons]
      omega
    obtain ⟨b', bytes', hcons⟩ := List.exists_cons_of_ne_nil hrest
    refine ih (flows_cons.mpr ⟨.inr ⟨b', bytes', by rw [hcons]⟩, (flows_cons.mp hflows).2⟩) ?_ rfl
    rwa [data, List.append_assoc, ← List.append_assoc (List.take _ _), List.take_append_drop]
  | case8 late pending hcut hnot more ih => exact ih (flows_cons.mp hflows).2 hline rfl
  | case9 late pending hcut hnot more ih | case10 late pending hcut hnot cause more =>
    obtain ⟨h | ⟨_, _, h⟩, -⟩ := flows_cons.mp hflows <;> cases h

/-- A line that is under way is read, and what follows it stays. -/
theorem receive_line {rules : LineRules} (hmark : mark rules ≠ []) (hlimit : rules.limit ≠ 0)
    (device : Device δ) (command : String) {s : Stream δ} (hflows : Flows s.arrivals)
    {line rest : List UInt8} (hline : IsLine (mark rules) line)
    (hunread : unread s = line ++ mark rules ++ rest) :
    ∃ s', receive rules device command s = (.ok (lineText line), s') ∧ s'.device = s.device ∧
      Flows s'.arrivals ∧ unread s' = rest := by
  have hstart : (rules.limit == 0) = false := beq_eq_false_iff_ne.mpr hlimit
  have hreads := receive_reads rules device command s
  obtain ⟨⟨text, htext⟩, hflows'⟩ := readLine_flows rules device.drained command hmark hflows
    ⟨line, rest, hunread.symm⟩
  have hreply : (receive rules device command s).1 = .ok text := by
    rw [receive, hstart]
    exact htext
  rw [hreply] at hreads
  obtain ⟨first, hfirst, rfl, hbytes⟩ := hreads.eq_line
  rw [hunread] at hbytes
  obtain ⟨rfl, rfl⟩ := hline.unique hfirst hbytes
  refine ⟨(receive rules device command s).2, Prod.ext hreply rfl, rfl, ?_, rfl⟩
  rw [receive, hstart]
  exact hflows'

/-- A query whose line is under way when the command has been written gives that line. -/
theorem query_line {rules : LineRules} (hmark : mark rules ≠ []) (hlimit : rules.limit ≠ 0)
    {device : Device δ} {command : String} {s : Stream δ} (hflows : Flows s.arrivals)
    {arrivals : List Arrival} {d : δ}
    (hwrite : device.write (command ++ rules.terminators.write) s.device = (.ok arrivals, d))
    (hflows' : Flows arrivals) {line rest : List UInt8} (hline : IsLine (mark rules) line)
    (hunread : unread s ++ data arrivals = line ++ mark rules ++ rest) :
    ∃ s', link rules device (.query command) s = (.ok (lineText line), s') ∧ s'.device = d ∧
      Flows s'.arrivals ∧ unread s' = rest := by
  have hsend : send rules device command s =
      (.ok (), { s with arrivals := s.arrivals ++ arrivals, device := d }) := by
    rw [send, hwrite]
  have hreceive := receive_line hmark hlimit device command
    (s := { s with arrivals := s.arrivals ++ arrivals, device := d }) (hflows.append hflows') hline
    (by rw [← hunread]; simp [unread])
  simpa only [link, hsend] using hreceive

theorem Flows.discard {device : Device δ} {s : Stream δ} (h : Flows s.arrivals) :
    Flows (discard device s).arrivals := by
  rw [Line.discard]
  split
  · exact flows_nil
  · exact h

/-- What the stream has for a command that is written after what was pending is discarded. -/
def fresh (rules : LineRules) (device : Device δ) (command : String) (s : Stream δ) : List UInt8 :=
  data (discard device s).arrivals ++ data (released rules device s (.query command))

end InstrumentControl.Line
