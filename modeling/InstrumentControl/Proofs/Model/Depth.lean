import InstrumentControl.Proofs.Model.Observation

/-! Accesses that are deep enough.  A routine of a known table goes on to one other parameter at most,
which is read by one query.  So every deeper access to the table is the same: no chain of routines is
cut there, and reading and setting behave as if nothing bounded them. -/

namespace InstrumentControl

namespace Registry

variable {r : Registry}

theorem mem_entries_of_found {name : String} {e : Entry} (h : r.entry? name = some e) :
    e ∈ r.entries := by
  obtain ⟨place, -, hplace⟩ := Option.bind_eq_some_iff.mp h
  exact List.mem_of_getElem? hplace

/-- What the routines of the table do is no matter of depth, as long as there is one other parameter
to go on to. -/
structure Settled (r : Registry) : Prop where
  getter : ∀ p ∈ r.entries.map Entry.parameter, ∀ script, p.getter = .custom script →
    ∀ depth, (r.access (depth + 1)).runScript script = (r.access 1).runScript script
  setter : ∀ p ∈ r.entries.map Entry.parameter, ∀ script, p.setter = .custom script →
    ∀ value token, p.Accepts value token → ∀ depth,
      (r.access (depth + 1)).runScript (script value token) =
        (r.access 1).runScript (script value token)

namespace Settled

theorem getThrough_eq (h : r.Settled) (depth : Nat) :
    r.getThrough (r.access (depth + 1)) = r.getThrough (r.access 1) := by
  funext name
  cases hentry : r.entry? name with
  | none => simp only [getThrough, hentry]
  | some e =>
    have hmem := List.mem_map_of_mem (f := Entry.parameter) (mem_entries_of_found hentry)
    have hfetch : fetch (r.access (depth + 1)) e.parameter = fetch (r.access 1) e.parameter := by
      cases hgetter : e.parameter.getter with
      | custom script => simpa only [fetch, hgetter] using h.getter _ hmem script hgetter depth
      | _ => simp only [fetch, hgetter]
    simp only [getThrough, hentry, hfetch]

theorem setThrough_eq (h : r.Settled) (depth : Nat) :
    r.setThrough (r.access (depth + 1)) = r.setThrough (r.access 1) := by
  funext name value
  cases hentry : r.entry? name with
  | none => simp only [setThrough, hentry]
  | some e =>
    have hmem := List.mem_map_of_mem (f := Entry.parameter) (mem_entries_of_found hentry)
    cases htoken : tokenFor e.parameter value with
    | error refusal => simp only [setThrough, hentry, htoken]
    | ok token =>
      have hdeliver : deliver (r.access (depth + 1)) e value token =
          deliver (r.access 1) e value token := by
        cases hsetter : e.parameter.setter with
        | custom script =>
          simpa only [deliver, hsetter] using
            h.setter _ hmem script hsetter value token (Parameter.tokenFor_eq_ok.mp htoken) depth
        | none => simp only [deliver, hsetter]
        | template source => cases htemplate : e.template <;> simp only [deliver, hsetter, htemplate]
      simp only [setThrough, hentry, htoken, hdeliver]

/-- From the second on all accesses are the same. -/
theorem access_eq (h : r.Settled) (depth : Nat) : r.access (depth + 2) = r.access 2 := by
  have hget := h.getThrough_eq depth
  have hwire : r.getWireThrough (r.access (depth + 1)) = r.getWireThrough (r.access 1) := by
    funext name
    simp only [getWireThrough, hget]
  have hset := h.setThrough_eq depth
  show Access.mk _ _ _ _ = Access.mk _ _ _ _
  rw [hget, hwire, hset]

theorem session_eq (h : r.Settled) (hentries : r.entries ≠ []) (depth : Nat) :
    r.access (depth + 2) = r.session := by
  have hpos : 0 < r.entries.length := List.length_pos_iff.mpr hentries
  have hlength : 2 * r.entries.length + 1 = 2 * r.entries.length - 1 + 2 := by omega
  rw [session, hlength]
  exact (h.access_eq depth).trans (h.access_eq _).symm

end Settled

/-- A table whose parameters are read by single queries and set by no routine. -/
theorem settled_of_queries {parameters : List Parameter}
    (hentries : r.entries.map Entry.parameter = parameters) (queries : List String)
    (hget : ∀ script ∈ parameters.filterMap Parameter.getRoutine?,
      ∃ command ∈ queries, Script.Queries command script)
    (hset : parameters.filterMap Parameter.setRoutine? = []) : r.Settled where
  getter p hp script hscript depth := by
    have hroutine := List.mem_filterMap.mpr
      ⟨p, hentries ▸ hp, Parameter.getRoutine?_eq_some.mpr hscript⟩
    obtain ⟨command, -, hqueries⟩ := hget script hroutine
    exact hqueries.runScript_eq _ _
  setter p hp script hscript := by
    have hroutine := List.mem_filterMap.mpr
      ⟨p, hentries ▸ hp, Parameter.setRoutine?_eq_some.mpr hscript⟩
    rw [hset] at hroutine
    cases hroutine

end Registry

theorem Dmm6500.IsTable.settled {r : Registry} (hr : IsTable r) : r.Settled where
  getter p hp script hscript depth := by
    rcases mem_getRoutines (hr.entries ▸ hp) hscript with rfl | ⟨command, -, rfl⟩
    · rw [runScript_readMode, runScript_readMode]
    · rw [hr.runScript_readUnder, hr.runScript_readUnder 0]
  setter p hp script hscript value token _ depth := by
    have hroutine := List.mem_filterMap.mpr
      ⟨p, hr.entries ▸ hp, Parameter.setRoutine?_eq_some.mpr hscript⟩
    rw [setRoutines] at hroutine
    obtain ⟨q, -, rfl⟩ := List.mem_map.mp hroutine
    rw [hr.runScript_setUnder, hr.runScript_setUnder 0]

theorem Mcls.IsTable.settled {r : Registry} (hr : IsTable r) : r.Settled where
  getter p hp script hscript := absurd hscript ((of_mem_parameters (hr.entries ▸ hp)).1 script)
  setter p hp script hscript value token htoken depth := by
    obtain rfl := (of_mem_parameters (hr.entries ▸ hp)).2.1 script hscript
    cases hscript
    obtain rfl := (current_accepts.mp htoken).1
    rw [hr.runScript_setCurrent, hr.runScript_setCurrent 0]

namespace Catalogue

theorem settled_of_known {m : Model} (hm : m ∈ known.models) {r : Registry}
    (hbuild : Registry.build m.parameters m.functions = .ok r) : r.Settled := by
  obtain ⟨hr, hentries, hfunctions⟩ := Registry.build_eq_ok hbuild
  simp only [models_known, List.mem_cons, List.not_mem_nil, or_false] at hm
  rcases hm with rfl | rfl | rfl | rfl | rfl | rfl | rfl
  · exact Registry.settled_of_queries hentries _ B2902b.queries_of_mem rfl
  · exact Registry.settled_of_queries hentries _ Hmc8043.queries_of_mem rfl
  · exact Registry.settled_of_queries hentries [] nofun rfl
  · exact Dmm6500.IsTable.settled ⟨hr, hentries⟩
  · exact Registry.settled_of_queries hentries [] nofun rfl
  · exact Mcls.IsTable.settled ⟨hr, hentries, List.map_eq_nil_iff.mp hfunctions⟩
  · exact Registry.settled_of_queries hentries [] nofun rfl

theorem parameters_ne_nil : ∀ m ∈ known.models, m.parameters ≠ [] := by
  rw [models_known]
  simp only [List.forall_mem_cons]
  refine ⟨?_, ?_, ?_, ?_, ?_, ?_, ?_, nofun⟩ <;> exact List.cons_ne_nil _ _

/-- Every deeper access to a known table is the one that its operations use.  So what they do does
not depend on where the chains of routines are cut. -/
theorem session_of_known {m : Model} (hm : m ∈ known.models) {r : Registry}
    (hbuild : Registry.build m.parameters m.functions = .ok r) (depth : Nat) :
    r.access (depth + 2) = r.session := by
  refine (settled_of_known hm hbuild).session_eq (fun hempty => ?_) depth
  obtain ⟨-, hentries, -⟩ := Registry.build_eq_ok hbuild
  rw [hempty] at hentries
  exact parameters_ne_nil m hm hentries.symm

end Catalogue

end InstrumentControl
