import Relay.Proofs.Settings.Precedence

namespace Relay.Settings

variable {α : Type} {s : Settings} {t : Table} {key : String} {read : Reader α}

def Misfit.IsMissing (m : Misfit) : Prop := ∃ field, m.cause = .missing field

/-- A value does not fit for want of a field. -/
def LacksField (read : Reader α) (v : Value) : Prop := ∃ m, read v = .error m ∧ m.IsMissing

theorem extract_missing_iff (h : s.merged = .ok t) : (∃ m, s.extract key read = .error m ∧ m.IsMissing) ↔
    ∀ v, t.dotted? key = some v → LacksField read v := by
  rw [extract_eq h]
  cases t.dotted? key with
  | none => exact iff_of_true ⟨_, rfl, key, rfl⟩ nofun
  | some v =>
    simp only [Option.some.injEq, forall_eq', LacksField]
    cases read v with
    | ok a => simp [mapError_ok]
    | error m => simp [mapError_error, Misfit.IsMissing, Misfit.atKey]

theorem explain_eq_missing_iff {m : Misfit} :
    (∃ field alternatives, s.explain m = .missing field alternatives) ↔ m.IsMissing := by
  obtain ⟨cause, path⟩ := m
  cases cause <;> simp [explain, Error.ofMisfit, Misfit.IsMissing]

theorem find_eq_none_iff_get : s.find key read = .ok none ↔
    ∃ field alternatives, s.get key read = .error (.missing field alternatives) := by
  unfold find
  cases s.get key read with
  | ok a => simp
  | error e => cases e <;> simp

theorem get_missing_iff :
    (∃ field alternatives, s.get key read = .error (.missing field alternatives)) ↔
      (∃ m, s.extract key read = .error m ∧ m.IsMissing) ∧
      ∃ m, s.extract (flatKey key) read = .error m ∧ m.IsMissing := by
  unfold get
  cases s.extract key read with
  | ok a => simp
  | error m =>
    obtain ⟨cause, path⟩ := m
    cases cause with
    | missing field =>
      have hmissing : Misfit.IsMissing ⟨.missing field, path⟩ := ⟨field, rfl⟩
      simp only [Except.error.injEq, exists_eq_left', hmissing, true_and]
      cases s.extract (flatKey key) read with
      | ok a => simp [mapError_ok]
      | error m => simp [mapError_error, explain_eq_missing_iff]
    | _ => simp [Error.ofMisfit, Misfit.IsMissing]

/-- An optional setting counts as missing if its key leads nowhere under either spelling, or only to values
that lack a field. -/
theorem find_eq_none_iff (h : s.merged = .ok t) : s.find key read = .ok none ↔
    (∀ v, t.dotted? key = some v → LacksField read v) ∧
    ∀ v, t.dotted? (flatKey key) = some v → LacksField read v := by
  rw [find_eq_none_iff_get, get_missing_iff, extract_missing_iff h, extract_missing_iff h]

/-- To a type whose values have no field that must be there, an optional setting is missing only where
nothing is. -/
theorem find_eq_none_iff_absent (h : s.merged = .ok t) (hread : ∀ v, ¬ LacksField read v) :
    s.find key read = .ok none ↔ t.lookup? key = none := by
  rw [find_eq_none_iff h, Table.lookup?, Option.or_eq_none_iff]
  simp only [hread, imp_false, Option.eq_none_iff_forall_ne_some, ne_eq]

/-- What does not fit for another reason than a missing field is an error, whatever the other spelling of the
key leads to. -/
theorem find_eq_error {v : Value} {m : Misfit} (h : s.merged = .ok t) (hv : t.dotted? key = some v)
    (hread : read v = .error m) (hm : ¬ m.IsMissing) :
    s.find key read = .error (.ofMisfit (m.atKey key)) := by
  obtain ⟨cause, path⟩ := m
  have hextract : s.extract key read = .error (Misfit.atKey key ⟨cause, path⟩) := by
    simp only [extract_eq h, hv, hread, mapError_error]
  cases cause with
  | missing field => exact absurd ⟨field, rfl⟩ hm
  | _ => simp only [find, get, hextract, Misfit.atKey, Error.ofMisfit]

/-- A table as the value of a field that must be there. -/
def Reader.single (name : String) (read : Reader α) : Reader α
  | .table t => requiredField name read t
  | v => .error (v.wrongKind "a map")

/-- A table is there, but lacks a field that it must have: it counts as missing. -/
theorem find_single_eq_none {name : String} {inner : Table} (h : s.merged = .ok t)
    (hinner : t.dotted? key = some (.table inner)) (hlacks : inner.get? name = none)
    (hflat : t.dotted? (flatKey key) = none) : s.find key (.single name read) = .ok none := by
  rw [find_eq_none_iff h, hinner, hflat]
  refine ⟨?_, nofun⟩
  rintro v ⟨⟩
  refine ⟨.ofCause (.missing name), ?_, name, rfl⟩
  simp only [Reader.single, Reader.requiredField, hlacks]

end Relay.Settings
