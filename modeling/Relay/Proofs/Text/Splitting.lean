import Relay.Text.Split

namespace Relay.Text

variable {c : Char} {separator cs before after : List Char}

theorem eq_of_splitAtFirst? (h : splitAtFirst? separator cs = some (before, after)) :
    cs = before ++ (separator ++ after) := by
  induction cs generalizing before with
  | nil =>
    rw [splitAtFirst?] at h
    split at h
    · rename_i hempty
      cases h
      rw [List.isEmpty_iff.1 hempty]
      rfl
    · cases h
  | cons d rest ih =>
    rw [splitAtFirst?] at h
    split at h
    · rename_i hhere
      cases h
      exact List.prefix_iff_eq_append.1 (List.isPrefixOf_iff_prefix.1 hhere) |>.symm
    · obtain ⟨⟨first, last⟩, hrest, hcut⟩ := Option.map_eq_some_iff.1 h
      cases hcut
      rw [List.cons_append, ← ih hrest]

theorem splitAtFirst?_append (h : c ∉ before) :
    splitAtFirst? (c :: separator) (before ++ (c :: separator ++ after)) = some (before, after) := by
  induction before with
  | nil =>
    rw [List.nil_append, List.cons_append, splitAtFirst?]
    simp
  | cons d before ih =>
    obtain ⟨hd, hbefore⟩ := not_or.1 (fun hor => h (List.mem_cons.2 hor))
    rw [List.cons_append, splitAtFirst?, ih hbefore]
    simp [hd]

theorem splitAtFirst?_eq_none_iff : splitAtFirst? [c] cs = none ↔ c ∉ cs := by
  constructor
  · intro h hmem
    obtain ⟨before, after, rfl, hbefore⟩ := List.eq_append_cons_of_mem hmem
    have hfound := @splitAtFirst?_append c [] before after hbefore
    exact nomatch h.symm.trans hfound
  · intro h
    cases hcut : splitAtFirst? [c] cs with
    | none => rfl
    | some parts => exact absurd (by simp [eq_of_splitAtFirst? hcut]) h

theorem splitAtFirst?_eq_some_iff :
    splitAtFirst? [c] cs = some (before, after) ↔ cs = before ++ c :: after ∧ c ∉ before := by
  constructor
  · intro h
    have hcs := eq_of_splitAtFirst? h
    have hmem : c ∈ cs := by simp [hcs]
    obtain ⟨first, last, hsplit, hfirst⟩ := List.eq_append_cons_of_mem hmem
    have hfound : splitAtFirst? [c] cs = some (first, last) :=
      hsplit ▸ @splitAtFirst?_append c [] first last hfirst
    cases h.symm.trans hfound
    exact ⟨hsplit, hfirst⟩
  · rintro ⟨rfl, hbefore⟩
    exact splitAtFirst?_append hbefore

theorem splitAtLast?_eq_none_iff : splitAtLast? c cs = none ↔ c ∉ cs := by
  rw [splitAtLast?, Option.map_eq_none_iff, splitAtFirst?_eq_none_iff, List.mem_reverse]

theorem splitAtLast?_eq_some_iff :
    splitAtLast? c cs = some (before, after) ↔ cs = before ++ c :: after ∧ c ∉ after := by
  have hreversed : cs.reverse = after.reverse ++ c :: before.reverse ↔ cs = before ++ c :: after := by
    rw [List.reverse_eq_iff]
    simp
  rw [← hreversed, ← @List.mem_reverse _ c after, ← splitAtFirst?_eq_some_iff, splitAtLast?,
    Option.map_eq_some_iff]
  constructor
  · rintro ⟨⟨first, last⟩, hcut, hparts⟩
    cases hparts
    simpa using hcut
  · intro h
    exact ⟨_, h, by simp⟩

theorem isDigit_of_mem_toString {n : Nat} (h : c ∈ (toString n).toList) : c.isDigit = true := by
  rw [Nat.toString_eq_repr, Nat.toList_repr] at h
  exact Nat.isDigit_of_mem_toDigits (by omega) (by omega) h

theorem natOfDigits?_eq_some_iff {n : Nat} : natOfDigits? cs = some n ↔
    cs ≠ [] ∧ (∀ c ∈ cs, c.isDigit = true) ∧ Nat.ofDigitChars 10 cs 0 = n := by
  rw [natOfDigits?, Nat.ofDigitChars_eq_foldl]
  simp only [Nat.mul_comm 10]
  split
  · rename_i hill
    refine iff_of_false nofun fun ⟨hne, hdigits, _⟩ => ?_
    rw [Bool.or_eq_true, List.isEmpty_iff, Bool.not_eq_true', Bool.eq_false_iff] at hill
    exact hill.elim hne fun hnot => hnot (List.all_eq_true.2 hdigits)
  · rename_i hwell
    rw [Bool.or_eq_true, not_or, List.isEmpty_iff, Bool.not_eq_true', Bool.not_eq_false,
      List.all_eq_true] at hwell
    exact Option.some_inj.trans ⟨fun h => ⟨hwell.1, hwell.2, h⟩, fun h => h.2.2⟩

theorem unsigned?_eq_some_iff {n limit : Nat} : unsigned? limit cs = some n ↔
    ∃ sign digits, cs = sign ++ digits ∧ (sign = [] ∨ sign = ['+']) ∧
      natOfDigits? digits = some n ∧ n < limit := by
  unfold unsigned?
  rw [Option.filter_eq_some_iff, decide_eq_true_iff]
  constructor
  · rintro ⟨hdigits, hlimit⟩
    split at hdigits
    · exact ⟨['+'], _, rfl, .inr rfl, hdigits, hlimit⟩
    · exact ⟨[], cs, rfl, .inl rfl, hdigits, hlimit⟩
  · rintro ⟨_, digits, rfl, rfl | rfl, hdigits, hlimit⟩
    · refine ⟨?_, hlimit⟩
      split
      · rename_i rest hplus
        rw [List.nil_append] at hplus
        subst hplus
        have hdigit := (natOfDigits?_eq_some_iff.1 hdigits).2.1 '+' List.mem_cons_self
        exact absurd hdigit (by decide)
      · exact hdigits
    · exact ⟨hdigits, hlimit⟩

theorem unsigned?_toString {n limit : Nat} (h : n < limit) :
    unsigned? limit (toString n).toList = some n := by
  have hread : natOfDigits? (toString n).toList = some n := by
    refine natOfDigits?_eq_some_iff.2 ⟨?_, fun _ => isDigit_of_mem_toString, ?_⟩
    · rw [Nat.toString_eq_repr, Nat.toList_repr]
      exact Nat.toDigits_ne_nil
    · rw [Nat.toString_eq_repr, Nat.toList_repr]
      exact Nat.ofDigitChars_ten_toDigits
  exact unsigned?_eq_some_iff.2 ⟨[], (toString n).toList, rfl, .inl rfl, hread, h⟩

theorem isDigit_of_unsigned? {n limit : Nat} (h : unsigned? limit cs = some n) (hc : c ∈ cs) :
    c = '+' ∨ c.isDigit = true := by
  obtain ⟨sign, digits, rfl, hsign, hdigits, -⟩ := unsigned?_eq_some_iff.1 h
  rcases List.mem_append.1 hc with hc | hc
  · rcases hsign with rfl | rfl
    · cases hc
    · exact .inl (List.mem_singleton.1 hc)
  · exact .inr ((natOfDigits?_eq_some_iff.1 hdigits).2.1 c hc)

end Relay.Text
