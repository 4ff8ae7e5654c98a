import InstrumentControl.Framing
import InstrumentControl.Proofs.Line.Delivery

/-! Queries after what was pending is discarded.  Such a query gives the first line that the stream
brings afterwards, and it does give it when that line is under way. -/

namespace InstrumentControl.Framing

open Text Line

theorem freshQuery_eq_ok {σ : Type} {inner : Link σ} {command text : String} {s t : σ} :
    (freshQuery command).run inner s = (.ok text, t) ↔ ∃ cleared,
      inner .clear s = (.ok (), cleared) ∧ inner (.query command) cleared = (.ok text, t) := by
  simp only [freshQuery, Conversation.clear, Conversation.query, Program.perform,
    Program.bind_eq, Program.step_bind, Program.done_bind, Conversation.run_step]
  rcases inner .clear s with ⟨_ | _, cleared⟩
  · simp
  · rcases hquery : inner (.query command) cleared with ⟨reply, u⟩
    simp [hquery]

variable {δ : Type} {rules : LineRules} {device : Device δ} {command : String} {s : Stream δ}

theorem line_of_freshQuery {text : String} {t : Stream δ}
    (h : (freshQuery command).run (Line.link rules device) s = (.ok text, t)) :
    ∃ line, IsLine (mark rules) line ∧ text = lineText line ∧
      fresh rules device command s = line ++ mark rules ++ unread t := by
  obtain ⟨cleared, hclear, hquery⟩ := freshQuery_eq_ok.mp h
  obtain rfl : discard device s = cleared := congrArg Prod.snd hclear
  exact link_line hquery rfl

theorem freshQuery_line (hmark : mark rules ≠ []) (hlimit : rules.limit ≠ 0)
    (hflows : Flows s.arrivals) {arrivals : List Arrival} {d : δ}
    (hwrite : device.write (command ++ rules.terminators.write) s.device = (.ok arrivals, d))
    (hflows' : Flows arrivals) {line rest : List UInt8} (hline : IsLine (mark rules) line)
    (hfresh : fresh rules device command s = line ++ mark rules ++ rest) :
    ∃ t, (freshQuery command).run (Line.link rules device) s = (.ok (lineText line), t) ∧
      t.device = d ∧ Flows t.arrivals ∧ unread t = rest := by
  have hreleased : released rules device s (.query command) = arrivals := by
    rw [released, hwrite]
  have hunread : unread (discard device s) ++ data arrivals = line ++ mark rules ++ rest := by
    rw [← hfresh, fresh, hreleased]
    rfl
  obtain ⟨t, hquery, hrest⟩ :=
    query_line hmark hlimit hflows.discard hwrite hflows' hline hunread
  exact ⟨t, freshQuery_eq_ok.mpr ⟨discard device s, rfl, hquery⟩, hrest⟩

end InstrumentControl.Framing
