import Relay.Proofs.Settings.Tables
import Relay.Settings

namespace Relay.Text

theorem splitAll_ne_nil (separator : Char) (cs : List Char) : splitAll separator cs ≠ [] := by
  induction cs with
  | nil => simp [splitAll]
  | cons c rest ih =>
    unfold splitAll
    split
    · simp
    · split <;> simp

theorem splitAll_eq_singleton {separator : Char} {cs : List Char} (h : separator ∉ cs) :
    splitAll separator cs = [cs] := by
  induction cs with
  | nil => rfl
  | cons c rest ih =>
    obtain ⟨hne, hrest⟩ := not_or.1 (mt List.mem_cons.2 h)
    rw [splitAll, if_neg (by simpa using Ne.symm hne), ih hrest]

end Relay.Text

namespace Relay.Settings

theorem parts_ne_nil (key : String) : parts key ≠ [] := by
  rw [parts, ne_eq, List.map_eq_nil_iff]
  exact Text.splitAll_ne_nil '.' key.toList

theorem parts_flatKey (key : String) : parts (flatKey key) = [flatKey key] := by
  have hflat : '.' ∉ (flatKey key).toList := by
    rw [flatKey, String.toList_ofList, List.mem_map]
    rintro ⟨c, -, hc⟩
    split at hc <;> simp_all
  rw [parts, Text.splitAll_eq_singleton hflat, List.map_singleton, String.ofList_toList]

namespace Environment

/-- The first part of the key that a variable spells. -/
def root? (namePrefix name : String) : Option String :=
  (keyOf? namePrefix name).bind fun key => (parts key).head?

/-- A variable among others spells a key, and no other leads there. -/
def Sets (namePrefix : String) (vars : List (String × String)) (key text : String) : Prop :=
  ∃ before after name, vars = before ++ (name, text) :: after ∧ keyOf? namePrefix name = some key ∧
    ∀ var ∈ before ++ after, root? namePrefix var.1 ≠ some key

theorem keyOf?_ne_empty {namePrefix name key : String} (h : keyOf? namePrefix name = some key) :
    key ≠ "" := by
  have hparts : (parts key).any (·.isEmpty) = false := by
    obtain ⟨rest, -, hkey⟩ := Option.bind_eq_some_iff.1 h
    by_cases hempty : (parts (String.ofList (Text.trim rest)).toLower).any (·.isEmpty)
    · simp [hempty] at hkey
    · obtain rfl : _ = key := by simpa [hempty] using hkey
      exact Bool.eq_false_iff.2 hempty
  rintro rfl
  simp [parts, Text.splitAll] at hparts

end Environment

namespace Table

open Environment

def withVariable (namePrefix : String) (t : Table) (var : String × String) : Table :=
  match keyOf? namePrefix var.1 with
  | some key =>
    match (valueOf var.2).nested (parts key) with
    | .table new => t.merge .replace new
    | _ => t
  | none => t

theorem ofEnvironment_eq (namePrefix : String) (vars : List (String × String)) :
    ofEnvironment namePrefix vars = vars.foldl (withVariable namePrefix) [] := rfl

variable {t : Table} {namePrefix key : String} {var : String × String}

theorem withVariable_eq {name text first : String} {rest : List String}
    (hkey : keyOf? namePrefix name = some key) (hparts : parts key = first :: rest) :
    t.withVariable namePrefix (name, text) =
      t.merge .replace [(first, (valueOf text).nested rest)] := by
  simp only [withVariable, hkey, hparts]
  rfl

theorem withVariable_cases (namePrefix : String) (t : Table) (var : String × String) :
    (root? namePrefix var.1 = none ∧ t.withVariable namePrefix var = t) ∨
      ∃ first value, root? namePrefix var.1 = some first ∧
        t.withVariable namePrefix var = t.merge .replace [(first, value)] := by
  cases hkey : keyOf? namePrefix var.1 with
  | none => exact .inl ⟨by simp [root?, hkey], by simp [withVariable, hkey]⟩
  | some key =>
    obtain ⟨first, rest, hparts⟩ := List.exists_cons_of_ne_nil (parts_ne_nil key)
    exact .inr ⟨first, _, by simp [root?, hkey, hparts], withVariable_eq hkey hparts⟩

theorem get?_withVariable (h : root? namePrefix var.1 ≠ some key) :
    (t.withVariable namePrefix var).get? key = t.get? key := by
  obtain ⟨-, heq⟩ | ⟨first, value, hroot, heq⟩ := withVariable_cases namePrefix t var
  · rw [heq]
  · have hne : key ≠ first := by
      rintro rfl
      exact h hroot
    rw [heq, get?_merge (List.pairwise_singleton _ _), get?, if_neg hne, get?, overlay_none_right]

theorem get?_foldl_withVariable {vars : List (String × String)}
    (h : ∀ var ∈ vars, root? namePrefix var.1 ≠ some key) (t : Table) :
    (vars.foldl (withVariable namePrefix) t).get? key = t.get? key := by
  induction vars generalizing t with
  | nil => rfl
  | cons var vars ih =>
    rw [List.foldl_cons, ih (fun v hv => h v (List.mem_cons_of_mem var hv))]
    exact get?_withVariable (h var List.mem_cons_self)

/-- A variable stands at its key when that is flat, and a flat key that is spelled is not empty. -/
theorem get?_ofEnvironment_flatKey {vars : List (String × String)} {text : String}
    (h : Sets namePrefix vars (flatKey key) text) : flatKey key ≠ "" ∧
      (ofEnvironment namePrefix vars).get? (flatKey key) = some (valueOf text) := by
  obtain ⟨before, after, name, rfl, hname, hothers⟩ := h
  have hbefore : (before.foldl (withVariable namePrefix) []).get? (flatKey key) = none :=
    get?_foldl_withVariable (fun var hvar => hothers var (List.mem_append_left _ hvar)) []
  have hafter (t : Table) :
      (after.foldl (withVariable namePrefix) t).get? (flatKey key) = t.get? (flatKey key) :=
    get?_foldl_withVariable (fun var hvar => hothers var (List.mem_append_right _ hvar)) t
  refine ⟨keyOf?_ne_empty hname, ?_⟩
  rw [ofEnvironment_eq, List.foldl_append, List.foldl_cons, hafter,
    withVariable_eq hname (parts_flatKey key), get?_merge (List.pairwise_singleton _ _), hbefore, get?,
    if_pos rfl]
  rfl

theorem get?_ofEnvironment_eq_none {vars : List (String × String)}
    (h : ∀ var ∈ vars, root? namePrefix var.1 ≠ some key) :
    (ofEnvironment namePrefix vars).get? key = none :=
  get?_foldl_withVariable h []

theorem ascending_ofEnvironment (namePrefix : String) (vars : List (String × String)) :
    (ofEnvironment namePrefix vars).Ascending := by
  rw [ofEnvironment_eq]
  have hnil : Ascending [] := List.Pairwise.nil
  generalize ([] : Table) = t at hnil
  induction vars generalizing t with
  | nil => exact hnil
  | cons var vars ih =>
    apply ih
    obtain ⟨-, heq⟩ | ⟨first, value, -, heq⟩ := withVariable_cases namePrefix t var
    · rwa [heq]
    · rw [heq]
      exact hnil.merge _ _

/-- At each key the later layer counts, unless lists or tables of both are merged. -/
theorem get?_merge_ofEnvironment (below : Table) (namePrefix : String) (vars : List (String × String))
    (key : String) : (below.merge .append (ofEnvironment namePrefix vars)).get? key =
      overlay .append (below.get? key) ((ofEnvironment namePrefix vars).get? key) :=
  get?_merge (ascending_ofEnvironment namePrefix vars) key

/-- What a key leads to, under the flat spelling if it leads nowhere as it is. -/
def lookup? (t : Table) (key : String) : Option Value :=
  (t.dotted? key).or (t.dotted? (flatKey key))

end Table

theorem mapError_ok {ε δ α : Type} (f : ε → δ) (a : α) :
    (Except.ok a : Except ε α).mapError f = .ok a := rfl

theorem mapError_error {ε δ α : Type} (f : ε → δ) (e : ε) :
    (Except.error e : Except ε α).mapError f = .error (f e) := rfl

/-- A key leads to a value, however it is read. -/
def Prevails (s : Settings) (key : String) (v : Value) : Prop :=
  ∀ {α : Type} (read : Reader α) (a : α), read v = .ok a →
    s.get key read = .ok a ∧ s.find key read = .ok (some a)

theorem extract_eq {α : Type} {s : Settings} {t : Table} (h : s.merged = .ok t) (key : String)
    (read : Reader α) : s.extract key read =
      match t.dotted? key with
      | some v => (read v).mapError (·.atKey key)
      | none => .error (.ofCause (.missing key)) := by
  rw [extract, h]
  rfl

theorem prevails_iff_lookup? {s : Settings} {t : Table} {key : String} {v : Value}
    (h : s.merged = .ok t) : s.Prevails key v ↔ t.lookup? key = some v := by
  unfold Table.lookup?
  constructor
  · intro hprevails
    -- Reading without any conversion shows what was found.
    have hget := (hprevails Except.ok v rfl).1
    cases hnested : t.dotted? key with
    | some u =>
      simp only [get, extract_eq h, hnested, mapError_ok, Except.ok.injEq] at hget
      rw [Option.some_or, hget]
    | none =>
      simp only [get, extract_eq h, hnested, Misfit.ofCause] at hget
      cases hflat : t.dotted? (flatKey key) with
      | some u =>
        simp only [hflat, mapError_ok, Except.ok.injEq] at hget
        rw [Option.none_or, hget]
      | none => simp [hflat, mapError_error] at hget
  · intro hlookup α read a hread
    have hget : s.get key read = .ok a := by
      cases hnested : t.dotted? key with
      | some u =>
        obtain rfl : u = v := by simpa [hnested] using hlookup
        simp [get, extract_eq h, hnested, hread, mapError_ok]
      | none =>
        have hflat : t.dotted? (flatKey key) = some v := by simpa [hnested] using hlookup
        simp [get, extract_eq h, hnested, hflat, hread, Misfit.ofCause, mapError_ok]
    exact ⟨hget, by rw [find, hget]⟩

/-- A value under the flat spelling of a key is what the key leads to, where it leads to `nested` as it
is, and earlier layers have `flat` under the flat spelling. -/
def Uncontested (v : Value) : (nested flat : Option Value) → Prop
  | some found, _ => found = v
  | none, flat => overlay .append flat (some v) = some v

theorem merged_withEnvironment {s₀ s : Settings} {below : Table} {vars : List (String × String)}
    {given : String} (hbelow : s₀.merged = .ok below) (hs : s₀.withEnvironment vars given = .ok s) :
    s.merged = .ok (below.merge .append (Table.ofEnvironment (normalPrefix given) vars)) := by
  unfold withEnvironment at hs
  split at hs
  · cases hs
  · cases hs
    simp [layered, hbelow]

/-- What a variable sets is what its key leads to, unless the key leads to another value by way of nested
tables, or earlier layers hold a list or a table that the value is merged into. The nested tables are those
of the earlier layers, if no variable leads into them. -/
theorem variable_prevails_iff {s₀ s : Settings} {below : Table} {vars : List (String × String)}
    {given key text : String} (hbelow : s₀.merged = .ok below)
    (hs : s₀.withEnvironment vars given = .ok s)
    (hset : Environment.Sets (normalPrefix given) vars (flatKey key) text) :
    let merged := below.merge .append (Table.ofEnvironment (normalPrefix given) vars)
    (s.Prevails key (Environment.valueOf text) ↔
      Uncontested (Environment.valueOf text) (merged.dotted? key) (below.get? (flatKey key))) ∧
    ∀ part rest, parts key = part :: rest → part ≠ "" →
      (∀ var ∈ vars, Environment.root? (normalPrefix given) var.1 ≠ some part) →
      merged.dotted? key = below.dotted? key := by
  intro merged
  -- Of layers and tables three facts are used: where a variable stands, that the later layer counts, and
  -- that a dotted key is looked up part by part.
  obtain ⟨hnonempty, hvariable⟩ := Table.get?_ofEnvironment_flatKey hset
  have hlater := below.get?_merge_ofEnvironment (normalPrefix given) vars
  constructor
  · have hflat : merged.dotted? (flatKey key) =
        overlay .append (below.get? (flatKey key)) (some (Environment.valueOf text)) := by
      rw [Table.dotted?_of_parts (parts_flatKey key) hnonempty, Value.bind_find?_nil, hlater, hvariable]
    rw [prevails_iff_lookup? (merged_withEnvironment hbelow hs), Table.lookup?, hflat]
    cases merged.dotted? key with
    | some found => simp [Uncontested]
    | none => simp [Uncontested]
  · intro part rest hparts hpart hothers
    rw [Table.dotted?_of_parts hparts hpart, Table.dotted?_of_parts hparts hpart, hlater,
      Table.get?_ofEnvironment_eq_none hothers, overlay_none_right]

theorem eq_ok_of_toOption {ε α : Type} {e : Except ε α} {a : α} (h : e.toOption = some a) :
    e = .ok a := by
  cases e with
  | error => cases h
  | ok => exact congrArg _ (Option.some.inj h)

/-- The file gives another key of the same table a value. -/
theorem variable_prevails_iff_other_key : ∃ s₀ s,
    empty.withFile .yaml (some "a:\n  b: 1\n") = .ok s₀ ∧
    s₀.withEnvironment [("PFX_A_C", "2")] "pfx" = .ok s ∧
    s.Prevails "a.c" (Environment.valueOf "2") := by
  have hfile : ((empty.withFile .yaml (some "a:\n  b: 1\n")).toOption.bind (·.merged.toOption)).any
      (fun below => (below.dotted? "a.c").isNone && (below.get? "a_c").isNone) = true := by
    decide +kernel
  obtain ⟨below, hbelow, habsent⟩ := (Option.any_eq_true _ _).1 hfile
  obtain ⟨s₀, hs₀, hmerged⟩ := Option.bind_eq_some_iff.1 hbelow
  obtain ⟨hnested, hflat⟩ := (Bool.and_eq_true _ _).mp habsent
  have hset : Environment.Sets (normalPrefix "pfx") [("PFX_A_C", "2")] (flatKey "a.c") "2" :=
    ⟨[], [], "PFX_A_C", rfl, by decide +kernel, nofun⟩
  obtain ⟨hiff, hdotted⟩ := variable_prevails_iff (eq_ok_of_toOption hmerged) rfl hset
  refine ⟨s₀, _, eq_ok_of_toOption hs₀, rfl, hiff.2 ?_⟩
  rw [hdotted "a" ["c"] (by decide +kernel) (by decide) (by decide +kernel),
    Option.isNone_iff_eq_none.1 hnested]
  exact congrArg (overlay .append · (some (Environment.valueOf "2")))
    (Option.isNone_iff_eq_none.1 hflat)

/-- The file gives the key itself a value, which is what it leads to. -/
theorem nested_prevails_over_variable : ∃ s₀ s,
    empty.withFile .yaml (some "a:\n  b: 1\n") = .ok s₀ ∧
    s₀.withEnvironment [("PFX_A_B", "2")] "pfx" = .ok s ∧
    Environment.Sets (normalPrefix "pfx") [("PFX_A_B", "2")] (flatKey "a.b") "2" ∧
    s.get "a.b" (.natural "u32" 32) = .ok 1 ∧
    ¬ s.Prevails "a.b" (Environment.valueOf "2") := by
  have hread : ((empty.withFile .yaml (some "a:\n  b: 1\n")).toOption.bind fun s₀ =>
      (s₀.withEnvironment [("PFX_A_B", "2")] "pfx").toOption.bind fun s =>
        (s.get "a.b" (.natural "u32" 32)).toOption) = some 1 := by decide +kernel
  obtain ⟨s₀, hs₀, hread⟩ := Option.bind_eq_some_iff.1 hread
  obtain ⟨s, hs, hget⟩ := Option.bind_eq_some_iff.1 hread
  have hset : Environment.Sets (normalPrefix "pfx") [("PFX_A_B", "2")] (flatKey "a.b") "2" :=
    ⟨[], [], "PFX_A_B", rfl, by decide +kernel, nofun⟩
  refine ⟨s₀, s, eq_ok_of_toOption hs₀, eq_ok_of_toOption hs, hset, eq_ok_of_toOption hget,
    fun hprevails => ?_⟩
  have hvariable := (hprevails (.natural "u32" 32) 2 rfl).1
  rw [eq_ok_of_toOption hget] at hvariable
  cases hvariable

end Relay.Settings
