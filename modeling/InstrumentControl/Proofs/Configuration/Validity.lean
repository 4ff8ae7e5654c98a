import InstrumentControl.Configuration.Basic
import InstrumentControl.Proofs.Keyed

/-! Which configurations are valid, and what is reported of the others.  The check goes through the
devices in their order: each must have an id that none before it has, and a driver of the catalogue.
It reports the fault of the first device that has one.  Where the check succeeds, ids tell the
devices apart. -/

namespace InstrumentControl.Configuration

variable {c : Catalogue} {s : Configuration} {earlier devices : List DeviceConfig}
  {d : DeviceConfig} {fault fault' : Fault} {seen : List String} {id : String}

structure Valid (c : Catalogue) (s : Configuration) : Prop where
  level : Text.lowercase s.logLevel ∈ levels
  ids : (s.devices.map DeviceConfig.id).Nodup
  drivers : ∀ d ∈ s.devices, d.driver ∈ c.types

/-- The fault of a device that follows the `earlier` ones.  Where its id is repeated, its driver does
not matter. -/
inductive Faulty (c : Catalogue) (earlier : List DeviceConfig) (d : DeviceConfig) : Fault → Prop
  | duplicateId (hid : d.id ∈ earlier.map DeviceConfig.id) : Faulty c earlier d (.duplicateId d.id)
  | unknownDriver (hid : d.id ∉ earlier.map DeviceConfig.id) (hdriver : d.driver ∉ c.types) :
      Faulty c earlier d (.unknownDriver d.id d.driver)

/-- The device at place `i` has the fault. -/
def FaultAt (c : Catalogue) (devices : List DeviceConfig) (i : Nat) (fault : Fault) : Prop :=
  ∃ d, devices[i]? = some d ∧ Faulty c (devices.take i) d fault

/-- The first device with a fault has this one. -/
def FirstFault (c : Catalogue) (devices : List DeviceConfig) (fault : Fault) : Prop :=
  ∃ i, FaultAt c devices i fault ∧ ∀ j < i, ∀ other, ¬ FaultAt c devices j other

theorem Faulty.unique (h : Faulty c earlier d fault) (h' : Faulty c earlier d fault') :
    fault = fault' := by
  cases h with
  | duplicateId hid =>
    cases h' with
    | duplicateId => rfl
    | unknownDriver hid' => exact absurd hid hid'
  | unknownDriver hid =>
    cases h' with
    | duplicateId hid' => exact absurd hid' hid
    | unknownDriver => rfl

theorem FirstFault.unique (h : FirstFault c devices fault) (h' : FirstFault c devices fault') :
    fault = fault' := by
  obtain ⟨i, ⟨d, hd, hfault⟩, hfirst⟩ := h
  obtain ⟨i', ⟨d', hd', hfault'⟩, hfirst'⟩ := h'
  rcases Nat.lt_trichotomy i i' with hlt | rfl | hgt
  · exact absurd ⟨d, hd, hfault⟩ (hfirst' i hlt fault)
  · rw [hd, Option.some.injEq] at hd'
    subst hd'
    exact hfault.unique hfault'
  · exact absurd ⟨d', hd', hfault'⟩ (hfirst i' hgt fault')

theorem faultAt_length :
    FaultAt c (earlier ++ d :: devices) earlier.length fault ↔ Faulty c earlier d fault := by
  simp [FaultAt]

/-! ### The check -/

/-- The devices after the `earlier` ones, none of which has a fault, are checked to their end, or the
first of them with a fault is reported. -/
theorem checkDevices_cases (hseen : ∀ id, id ∈ seen ↔ id ∈ earlier.map DeviceConfig.id)
    (hsound : ∀ j < earlier.length, ∀ other, ¬ FaultAt c (earlier ++ devices) j other) :
    (checkDevices c seen devices = .ok () ∧
      ∀ j other, ¬ FaultAt c (earlier ++ devices) j other) ∨
    ∃ fault, FirstFault c (earlier ++ devices) fault ∧
      checkDevices c seen devices = .error fault := by
  induction devices generalizing earlier seen with
  | nil =>
    refine .inl ⟨rfl, fun j other h => ?_⟩
    have ⟨d, hd, _⟩ := h
    rw [List.append_nil] at hd
    exact hsound j (List.getElem?_eq_some_iff.mp hd).1 other h
  | cons d rest ih =>
    have hreported {fault : Fault} (hfault : Faulty c earlier d fault) :
        FirstFault c (earlier ++ d :: rest) fault :=
      ⟨earlier.length, faultAt_length.mpr hfault, hsound⟩
    simp only [checkDevices, List.contains_iff_mem, hseen, Bool.not_eq_true', ← Bool.not_eq_true,
      Keyed.contains_iff]
    split
    · next hid => exact .inr ⟨_, hreported (.duplicateId hid), rfl⟩
    · next hid =>
      split
      · next hdriver => exact .inr ⟨_, hreported (.unknownDriver hid hdriver), rfl⟩
      · next hdriver =>
        have hnone (other : Fault) : ¬ Faulty c earlier d other := by
          rintro (hid' | ⟨-, hdriver'⟩)
          · exact hid hid'
          · exact hdriver hdriver'
        rw [List.append_cons]
        refine ih (fun id => by simp [hseen, or_comm]) fun j hj other h => ?_
        rw [List.length_append, List.length_singleton, Nat.lt_succ_iff_lt_or_eq] at hj
        rw [← List.append_cons] at h
        rcases hj with hj | rfl
        · exact hsound j hj other h
        · exact hnone other (faultAt_length.mp h)

theorem checkDevices_eq_error :
    checkDevices c [] devices = .error fault ↔ FirstFault c devices fault := by
  have hcases := @checkDevices_cases c [] devices [] (fun _ => Iff.rfl) nofun
  rcases hcases with ⟨hok, hsound⟩ | ⟨fault', hfirst, herror⟩
  · rw [hok]
    refine iff_of_false nofun ?_
    rintro ⟨i, hfault, -⟩
    exact hsound i fault hfault
  · rw [herror, Except.error.injEq]
    exact ⟨fun h => h ▸ hfirst, hfirst.unique⟩

theorem checkDevices_eq_ok : checkDevices c seen devices = .ok () ↔
    (∀ d ∈ devices, d.id ∉ seen) ∧ (devices.map DeviceConfig.id).Nodup ∧
      ∀ d ∈ devices, d.driver ∈ c.types := by
  induction devices generalizing seen with
  | nil => simp [checkDevices]
  | cons d rest ih =>
    simp only [checkDevices, List.contains_iff_mem, Bool.not_eq_true', ← Bool.not_eq_true,
      Keyed.contains_iff, List.forall_mem_cons, List.map_cons, List.nodup_cons]
    split
    · next hid => exact iff_of_false nofun fun h => h.1.1 hid
    · next hid =>
      split
      · next hdriver => exact iff_of_false nofun fun h => hdriver h.2.2.1
      · next hdriver =>
        have hfresh : (∀ e ∈ rest, e.id ∉ d.id :: seen) ↔
            d.id ∉ rest.map DeviceConfig.id ∧ ∀ e ∈ rest, e.id ∉ seen := by
          simp only [List.mem_cons, not_or, List.mem_map, not_exists, not_and, ← forall_and]
        rw [ih, hfresh]
        tauto

theorem check_eq_ok : s.check c = .ok () ↔ s.Valid c := by
  rw [check]
  split
  · next hlevel =>
    rw [checkDevices_eq_ok]
    exact ⟨fun ⟨_, hids, hdrivers⟩ => ⟨List.contains_iff_mem.mp hlevel, hids, hdrivers⟩,
      fun h => ⟨fun _ _ => List.not_mem_nil, h.ids, h.drivers⟩⟩
  · next hlevel => exact iff_of_false nofun fun h => hlevel (List.contains_iff_mem.mpr h.level)

theorem check_eq_error : s.check c = .error fault ↔
    Text.lowercase s.logLevel ∉ levels ∧ fault = .logLevel s.logLevel ∨
      Text.lowercase s.logLevel ∈ levels ∧ FirstFault c s.devices fault := by
  rw [check]
  split
  · next hlevel =>
    rw [List.contains_iff_mem] at hlevel
    simp [hlevel, checkDevices_eq_error]
  · next hlevel =>
    rw [List.contains_iff_mem] at hlevel
    simp [hlevel, eq_comm]

/-! ### Devices by their ids -/

/-- In a valid configuration the device with an id is found by it. -/
theorem Valid.device?_eq_some (h : s.Valid c) :
    s.device? id = some d ↔ d ∈ s.devices ∧ d.id = id := by
  constructor
  · intro hfound
    exact ⟨List.mem_of_find?_eq_some hfound, by simpa using List.find?_some hfound⟩
  · rintro ⟨hd, rfl⟩
    cases hfound : s.device? d.id with
    | none => simpa using List.find?_eq_none.mp hfound d hd
    | some d' =>
      have hid : d'.id = d.id := by simpa using List.find?_some hfound
      rw [List.inj_on_of_nodup_map h.ids (List.mem_of_find?_eq_some hfound) hd hid]

end InstrumentControl.Configuration
