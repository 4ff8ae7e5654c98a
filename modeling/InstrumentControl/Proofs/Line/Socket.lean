import InstrumentControl.Link.Channel
import InstrumentControl.Proofs.Conversation
import Mathlib.Data.List.Basic

/-! Sockets beside serial ports.  Clearing a socket discards what has arrived up to the first read
that meets nothing.  So while a far end stays and only bytes arrive, a socket is a port that discards
what it has received.  A host that answers as a responder does gives the same exchanges as the same
responder behind a serial port. -/

namespace InstrumentControl

open Conversation

/-- Only bytes have arrived. -/
def Arrived (arrivals : List Arrival) : Prop :=
  ∀ arrival ∈ arrivals, ∃ b bytes, arrival = .bytes (b :: bytes)

theorem arrived_nil : Arrived [] := fun _ h => absurd h List.not_mem_nil

theorem arrived_cons {arrival : Arrival} {arrivals : List Arrival} : Arrived (arrival :: arrivals) ↔
    (∃ b bytes, arrival = .bytes (b :: bytes)) ∧ Arrived arrivals := List.forall_mem_cons

theorem Arrived.append {first second : List Arrival} (h : Arrived first) (h' : Arrived second) :
    Arrived (first ++ second) := fun arrival hmem =>
  (List.mem_append.mp hmem).elim (h arrival) (h' arrival)

/-! ### Clearing -/

/-- The bytes that have arrived are discarded. -/
theorem Socket.drain_append (drained : Drained) {arrivals : List Arrival} (h : Arrived arrivals)
    (rest : List Arrival) : drain drained (arrivals ++ rest) = drain drained rest := by
  induction arrivals with
  | nil => rfl
  | cons arrival arrivals ih =>
    obtain ⟨⟨b, bytes, rfl⟩, hrest⟩ := arrived_cons.mp h
    exact ih hrest

variable {δ : Type} {rules : LineRules} {device : Device δ}

/-- A socket is a port while the far end stays and only bytes arrive. -/
theorem Socket.link_eq (hstays : device.drained = .silent)
    (hdiscards : device.discardsArrivals = true) (c : Call) {s : Stream δ}
    (h : Arrived s.arrivals) : Socket.link rules device c s = Line.link rules device c s := by
  cases c with
  | clear =>
    have hdrain : drain .silent s.arrivals = (.ok (), []) := by
      have hall := drain_append .silent h []
      rwa [List.append_nil] at hall
    rw [Socket.link, hstays, hdrain, Line.link, Line.discard, hdiscards]
    rfl
  | send command => rfl
  | query command => rfl
  | receive => rfl

/-! ### What arrives -/

theorem Arrived.readLine {drained : Drained} {command : String} {late : Bool}
    {pending : List UInt8} {arrivals : List Arrival} (h : Arrived arrivals) :
    Arrived (Line.readLine rules drained command late pending arrivals).2.2 := by
  fun_induction Line.readLine rules drained command late pending arrivals with
  | case1 | case2 => exact h
  | case3 | case4 => exact h
  | case5 late pending more => exact (arrived_cons.mp h).2
  | case6 late pending hcut hnot b data more hshort ih => exact ih (arrived_cons.mp h).2
  | case7 late pending hcut hnot b data more hlong ih =>
    -- the rest of a chunk that is longer than one read is not empty
    refine ih (arrived_cons.mpr ⟨?_, (arrived_cons.mp h).2⟩)
    have hrest : (b :: data).drop Line.chunkSize ≠ [] := by
      simp only [ne_eq, List.drop_eq_nil_iff, List.length_cons]
      omega
    obtain ⟨b', bytes, heq⟩ := List.exists_cons_of_ne_nil hrest
    exact ⟨b', bytes, congrArg _ heq⟩
  | case8 late pending hcut hnot more ih => exact ih (arrived_cons.mp h).2
  | case9 late pending hcut hnot more ih => exact ih (arrived_cons.mp h).2
  | case10 late pending hcut hnot cause more => exact (arrived_cons.mp h).2

theorem Responder.arrived_take (r : Responder) (command : List Char) :
    Arrived (r.take command).1 := by
  cases hreplies : r.replies with
  | nil => simp [take, hreplies, arrived_nil]
  | cons reply replies =>
    cases hbytes : Text.Utf8.encode reply.toList with
    | nil => simp [take, hreplies, hbytes, arrived_nil]
    | cons b bytes => simp [take, hreplies, hbytes, arrived_cons, arrived_nil]

theorem Responder.arrived_absorb (fuel : Nat) (r : Responder) (text : List Char) :
    Arrived (absorb fuel r text).1 := by
  fun_induction absorb fuel r text with
  | case1 r text fuel command rest hcut first r' htake others r'' hothers ih =>
    rw [hothers] at ih
    have hfirst := r.arrived_take command
    rw [htake] at hfirst
    exact hfirst.append ih
  | case2 => exact arrived_nil

theorem arrived_link (rules : LineRules) (c : Call) {s : Stream Responder}
    (h : Arrived s.arrivals) :
    Arrived (Line.link rules Responder.device c s).2.arrivals := by
  have hsend (command : String) :
      Arrived (Line.send rules Responder.device command s).2.arrivals :=
    h.append (Responder.arrived_absorb _ _ _)
  cases c with
  | clear => exact arrived_nil
  | send command => exact hsend command
  | query command => exact (hsend command).readLine
  | receive => exact h.readLine

/-! ### Channels -/

theorem Wire.socket_eq (rules : LineRules) {α : Type} (p : Conversation α) {s : Stream Responder}
    (h : Arrived s.arrivals) :
    p.run (Wire.socket rules).link s = p.run (Wire.port rules).link s ∧
      p.exchanges (Wire.socket rules).link s = p.exchanges (Wire.port rules).link s ∧
      Arrived (p.run (Wire.port rules).link s).2.arrivals :=
  run_eq_of_agree (Wire.socket rules).link (Wire.port rules).link (fun s => Arrived s.arrivals)
    (fun c _ hs => ⟨Socket.link_eq rfl rfl c hs, arrived_link rules c hs⟩) p h

namespace Channel

variable {α : Type} {wire : Wire} {framing : Framing} {stream : Stream Responder}

theorem run_serial (p : Conversation α) : p.run link (.serial wire framing stream) =
    ((p.run (framing.link wire.link) stream).1,
      .serial wire framing (p.run (framing.link wire.link) stream).2) := by
  induction p generalizing stream with
  | done a => rfl
  | step c next ih => exact ih _

theorem exchanges_serial (p : Conversation α) : p.exchanges link (.serial wire framing stream) =
    p.exchanges (framing.link wire.link) stream := by
  induction p generalizing stream with
  | done a => rfl
  | step c next ih => exact congrArg _ (ih _)

/-- A host that answers as a responder does gives the results and the exchanges of the responder
behind a serial port, whatever the framing is. -/
theorem socket_agrees (rules : LineRules) (framing : Framing) (p : Conversation α)
    (h : Arrived stream.arrivals) :
    (p.run link (.serial (.socket rules) framing stream)).1 =
        (p.run link (.serial (.port rules) framing stream)).1 ∧
      p.exchanges link (.serial (.socket rules) framing stream) =
        p.exchanges link (.serial (.port rules) framing stream) := by
  obtain ⟨hrun, hexchanges, -⟩ := run_eq_of_agree (framing.link (Wire.socket rules).link)
    (framing.link (Wire.port rules).link) (fun s => Arrived s.arrivals)
    (fun c _ hs =>
      have hcall := Wire.socket_eq rules (framing.exchange c) hs
      ⟨hcall.1, hcall.2.2⟩) p h
  rw [run_serial, run_serial, exchanges_serial, exchanges_serial, hrun, hexchanges]
  exact ⟨rfl, rfl⟩

end Channel

end InstrumentControl
