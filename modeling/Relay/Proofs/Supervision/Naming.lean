import Mathlib.Data.List.DropRight
import Relay.Proofs.Supervision.Roster
import Relay.Supervision.Forest

namespace Relay.Name

variable {alnum : Char → Bool} {cs segment : List Char}

/-- A segment of a name: alphanumeric characters and underscores, with an alphanumeric character at
either end. -/
structure Segment (alnum : Char → Bool) (cs : List Char) : Prop where
  first : ∃ c, cs.head? = some c ∧ alnum c = true
  last : ∃ c, cs.getLast? = some c ∧ alnum c = true
  chars : ∀ c ∈ cs, alnum c = true ∨ c = '_'

theorem isSegment_iff : isSegment alnum cs = true ↔ Segment alnum cs := by
  simp only [isSegment, Bool.and_eq_true, Option.any_eq_true, List.all_eq_true, Bool.or_eq_true,
    beq_iff_eq]
  exact ⟨fun h => ⟨h.1.1, h.1.2, h.2⟩, fun h => ⟨⟨h.first, h.last⟩, h.chars⟩⟩

namespace Segment

theorem ne_nil (h : Segment alnum cs) : cs ≠ [] := by
  rintro rfl
  obtain ⟨c, hc, -⟩ := h.first
  cases hc

theorem exists_alnum (h : Segment alnum cs) : ∃ c ∈ cs, alnum c = true := by
  obtain ⟨c, hc, halnum⟩ := h.first
  exact ⟨c, List.mem_of_mem_head? hc, halnum⟩

theorem point_notMem (h : Segment alnum cs) (hpoint : alnum '.' = false) : '.' ∉ cs := by
  intro hmem
  rcases h.chars _ hmem with halnum | hunderscore
  · rw [hpoint] at halnum
    cases halnum
  · cases hunderscore

end Segment

section Collapse

theorem of_mem_collapse {underscored : Bool} {c : Char} (h : c ∈ collapse alnum underscored cs) :
    alnum c = true ∨ c = '_' := by
  induction cs generalizing underscored with
  | nil => cases h
  | cons d cs ih =>
    rw [collapse] at h
    split at h
    · rename_i halnum
      rcases List.mem_cons.1 h with rfl | h
      · exact .inl halnum
      · exact ih h
    · split at h
      · exact ih h
      · rcases List.mem_cons.1 h with rfl | h
        · exact .inr rfl
        · exact ih h

theorem filter_collapse (hunderscore : alnum '_' = false) (underscored : Bool) (cs : List Char) :
    (collapse alnum underscored cs).filter alnum = cs.filter alnum := by
  induction cs generalizing underscored with
  | nil => rfl
  | cons c cs ih =>
    rw [collapse]
    split
    · rename_i halnum
      rw [List.filter_cons_of_pos halnum, List.filter_cons_of_pos halnum, ih]
    · rename_i hother
      rw [List.filter_cons_of_neg hother]
      split
      · exact ih true
      · rw [List.filter_cons_of_neg (by simp [hunderscore]), ih]

end Collapse

section Trim

theorem exists_trim (alnum : Char → Bool) (cs : List Char) : ∃ before after,
    cs = before ++ trim alnum cs ++ after ∧ (∀ c ∈ before, alnum c = false) ∧
      ∀ c ∈ after, alnum c = false := by
  refine ⟨cs.takeWhile (!alnum ·), (cs.dropWhile (!alnum ·)).rtakeWhile (!alnum ·), ?_,
    fun c hc => ?_, fun c hc => ?_⟩
  · have htrim : trim alnum cs = (cs.dropWhile (!alnum ·)).rdropWhile (!alnum ·) := rfl
    rw [htrim, List.append_assoc, List.rdropWhile_append_rtakeWhile, List.takeWhile_append_dropWhile]
  · simpa using List.mem_takeWhile_imp hc
  · simpa using List.mem_rtakeWhile_imp hc

theorem filter_trim (alnum : Char → Bool) (cs : List Char) :
    (trim alnum cs).filter alnum = cs.filter alnum := by
  obtain ⟨before, after, hcs, hbefore, hafter⟩ := exists_trim alnum cs
  have hnone {l : List Char} (hl : ∀ c ∈ l, alnum c = false) : l.filter alnum = [] :=
    List.filter_eq_nil_iff.2 fun c hc => by simp [hl c hc]
  conv => rhs; rw [hcs]
  rw [List.filter_append, List.filter_append, hnone hbefore, hnone hafter, List.nil_append,
    List.append_nil]

theorem mem_of_mem_trim {c : Char} (h : c ∈ trim alnum cs) : c ∈ cs := by
  obtain ⟨before, after, hcs, -, -⟩ := exists_trim alnum cs
  rw [hcs]
  exact List.mem_append_left after (List.mem_append_right before h)

theorem head?_trim (h : trim alnum cs ≠ []) :
    ∃ c, (trim alnum cs).head? = some c ∧ alnum c = true := by
  obtain ⟨c, rest, htrim⟩ := List.exists_cons_of_ne_nil h
  -- Trimming at the end leaves the first character where it is.
  obtain ⟨after, hahead⟩ : trim alnum cs <+: cs.dropWhile (!alnum ·) :=
    List.rdropWhile_prefix _ _
  have hfirst := List.head?_dropWhile_not (!alnum ·) cs
  rw [← hahead, htrim, List.cons_append, List.head?_cons] at hfirst
  exact ⟨c, by rw [htrim, List.head?_cons], by simpa using hfirst⟩

theorem getLast?_trim (h : trim alnum cs ≠ []) :
    ∃ c, (trim alnum cs).getLast? = some c ∧ alnum c = true := by
  refine ⟨(trim alnum cs).getLast h, List.getLast?_eq_some_getLast h, ?_⟩
  have hlast : ¬ (!alnum ((trim alnum cs).getLast h)) = true := List.rdropWhile_last_not _ _ h
  simpa using hlast

end Trim

section Sanitize

theorem sanitize_of_segment (h : Segment alnum cs) : sanitize alnum cs = some cs := by
  rw [sanitize, if_pos (isSegment_iff.2 h)]

theorem sanitize_cases (alnum : Char → Bool) (cs : List Char) :
    (Segment alnum cs ∧ sanitize alnum cs = some cs) ∨
    (trim alnum (collapse alnum true cs) = [] ∧ ¬ Segment alnum cs ∧ sanitize alnum cs = none) ∨
    (trim alnum (collapse alnum true cs) ≠ [] ∧
      sanitize alnum cs = some (trim alnum (collapse alnum true cs))) := by
  by_cases hsegment : Segment alnum cs
  · exact .inl ⟨hsegment, sanitize_of_segment hsegment⟩
  · have hnot : ¬ isSegment alnum cs = true := mt isSegment_iff.1 hsegment
    rw [sanitize, if_neg hnot]
    cases htrim : trim alnum (collapse alnum true cs) with
    | nil => exact .inr (.inl ⟨rfl, hsegment, rfl⟩)
    | cons c rest => exact .inr (.inr ⟨List.cons_ne_nil c rest, rfl⟩)

theorem sanitize_segment (h : sanitize alnum cs = some segment) : Segment alnum segment := by
  rcases sanitize_cases alnum cs with ⟨hsegment, heq⟩ | ⟨-, -, heq⟩ | ⟨hne, heq⟩
  · rw [heq] at h
    cases h
    exact hsegment
  · rw [heq] at h
    cases h
  · rw [heq] at h
    cases h
    exact ⟨head?_trim hne, getLast?_trim hne, fun c hc => of_mem_collapse (mem_of_mem_trim hc)⟩

theorem filter_of_sanitize (hunderscore : alnum '_' = false)
    (h : sanitize alnum cs = some segment) : segment.filter alnum = cs.filter alnum := by
  rcases sanitize_cases alnum cs with ⟨-, heq⟩ | ⟨-, -, heq⟩ | ⟨-, heq⟩
  · rw [heq] at h
    cases h
    rfl
  · rw [heq] at h
    cases h
  · rw [heq] at h
    cases h
    rw [filter_trim, filter_collapse hunderscore]

theorem sanitize_eq_none_iff (hunderscore : alnum '_' = false) :
    sanitize alnum cs = none ↔ ∀ c ∈ cs, alnum c = false := by
  have hfilter : (∀ c ∈ cs, alnum c = false) ↔ cs.filter alnum = [] := by
    simp [List.filter_eq_nil_iff]
  rw [hfilter]
  cases hsanitized : sanitize alnum cs with
  | none =>
    refine iff_of_true rfl ?_
    rcases sanitize_cases alnum cs with ⟨-, heq⟩ | ⟨htrim, -, -⟩ | ⟨-, heq⟩
    · rw [heq] at hsanitized
      cases hsanitized
    · rw [← filter_collapse hunderscore true, ← filter_trim, htrim]
      rfl
    · rw [heq] at hsanitized
      cases hsanitized
  | some segment =>
    refine iff_of_false nofun ?_
    obtain ⟨c, hc, halnum⟩ := (sanitize_segment hsanitized).exists_alnum
    rw [← filter_of_sanitize hunderscore hsanitized]
    exact List.ne_nil_of_mem (List.mem_filter.2 ⟨hc, halnum⟩)

end Sanitize

section Leaf

theorem ne_point_of_mem_reverse (h : '.' ∉ cs) : ∀ c ∈ cs.reverse, decide (c ≠ '.') = true :=
  fun _ hc => decide_eq_true fun heq => h (heq ▸ List.mem_reverse.1 hc)

theorem leafChars_of_notMem (h : '.' ∉ cs) : leafChars cs = cs := by
  rw [leafChars, List.takeWhile_eq_self_iff.2 (ne_point_of_mem_reverse h), List.reverse_reverse]

theorem leafChars_append_point (h : '.' ∉ cs) (above : List Char) :
    leafChars (above ++ '.' :: cs) = cs := by
  have hreverse : (above ++ '.' :: cs).reverse = cs.reverse ++ '.' :: above.reverse := by simp
  rw [leafChars, hreverse, List.takeWhile_append_of_pos (ne_point_of_mem_reverse h),
    List.takeWhile_cons_of_neg (by simp), List.append_nil, List.reverse_reverse]

theorem alphanumeric_underscore : Text.isAlphanumeric '_' = false := rfl

theorem alphanumeric_point : Text.isAlphanumeric '.' = false := rfl

variable {parent : Name} {text : String}

theorem scoped?_of_sanitize (h : sanitize Text.isAlphanumeric text.toList = some segment) :
    parent.scoped? text = some ⟨parent.text ++ "." ++ String.ofList segment⟩ := by
  rw [scoped?, h]
  rfl

theorem leaf_of_sanitize (h : sanitize Text.isAlphanumeric text.toList = some segment) :
    leaf ⟨parent.text ++ "." ++ String.ofList segment⟩ = String.ofList segment := by
  have hpoint := (sanitize_segment h).point_notMem alphanumeric_point
  have hchars : (parent.text ++ "." ++ String.ofList segment).toList =
      parent.text.toList ++ '.' :: segment := by
    simp [String.toList_append]
  rw [leaf, hchars, leafChars_append_point hpoint]

end Leaf

end Relay.Name

namespace Relay.Supervisor

open Supervision

variable {s n : Supervisor}

theorem Reachable.id_segment (hs : Reachable s) :
    ∃ segment, s.id.text = String.ofList segment ∧ Name.Segment Text.isAlphanumeric segment := by
  induction hs with
  | @create name s hcreated =>
    rw [Supervisor.create] at hcreated
    split at hcreated
    · cases hcreated
    · rename_i id hroot
      cases hcreated
      obtain ⟨segment, hsegment, rfl⟩ := Option.map_eq_some_iff.1 hroot
      exact ⟨segment, rfl, Name.sanitize_segment hsegment⟩
  | act _ a ih =>
    rw [(act_enlarged _ a).id]
    exact ih

/-- A supervisor can be a child of any other, under its own name. -/
theorem Reachable.scoped?_asTask (hn : Reachable n) (parent : Name) (number : Nat) :
    parent.scoped? (n.asTask number).name = some ⟨parent.text ++ "." ++ n.id.text⟩ := by
  obtain ⟨segment, hid, hsegment⟩ := hn.id_segment
  have hchars : (n.asTask number).name.toList = segment := by
    rw [asTask, Name.leaf, hid, String.toList_ofList, String.toList_ofList]
    exact Name.leafChars_of_notMem (hsegment.point_notMem Name.alphanumeric_point)
  have hsanitized : Name.sanitize Text.isAlphanumeric (n.asTask number).name.toList = some segment := by
    rw [hchars]
    exact Name.sanitize_of_segment hsegment
  rw [Name.scoped?_of_sanitize hsanitized, hid]

theorem register_asTask_ne_invalidName (hn : Reachable n) (s : Supervisor) (number : Nat)
    (denied : Denials) (text : String) :
    (s.register (n.asTask number) denied).1 ≠ .error (.invalidName text) := by
  have hname := hn.scoped?_asTask s.id number
  intro h
  cases hopen : s.status.isActive && !s.dynamic with
  | true =>
    rw [register_closed hname hopen] at h
    cases h
  | false =>
    obtain ⟨-, hok | ⟨e, herror⟩⟩ := register_enrolls denied hname hopen
    · rw [hok] at h
      cases h
    · rw [herror] at h
      cases h

theorem register_asTask_named (hn : Reachable n) (hopen : (s.status.isActive && !s.dynamic) = false)
    (number : Nat) (denied : Denials) : ∃ c,
    (s.register (n.asTask number) denied).2.children[s.children.length]? = some c ∧
      c.name.text = s.id.text ++ "." ++ n.id.text ∧ c.task = n.asTask number := by
  obtain ⟨hroster, -⟩ := register_enrolls denied (hn.scoped?_asTask s.id number) hopen
  have hlast : (s.register (n.asTask number) denied).2.roster[s.children.length]? =
      some (⟨s.id.text ++ "." ++ n.id.text⟩, n.asTask number) := by
    rw [hroster, ← length_roster]
    exact List.getElem?_concat_length
  rw [roster, List.getElem?_map, Option.map_eq_some_iff] at hlast
  obtain ⟨c, hc, hpost⟩ := hlast
  exact ⟨c, hc, congrArg (fun post => post.1.text) hpost, congrArg Prod.snd hpost⟩

end Relay.Supervisor

namespace Relay.Name

open Supervision Supervisor

/-- A text without alphanumeric characters gives no segment. Any other gives one with just these
characters, in their order, which itself stands as it is, and is found again as the last segment below any
name. So a supervisor is never refused as a child for its name, and is a child under that name. -/
theorem segments_sanitized (alnum : Char → Bool) (hunderscore : alnum '_' = false)
    (hpoint : alnum '.' = false) (cs : List Char) :
    (sanitize alnum cs = none ↔ ∀ c ∈ cs, alnum c = false) ∧
    (∀ segment, sanitize alnum cs = some segment → segment ≠ [] ∧ Segment alnum segment ∧
      segment.filter alnum = cs.filter alnum ∧ sanitize alnum segment = some segment ∧
      ∀ above, leafChars (above ++ '.' :: segment) = segment) ∧
    (∀ (parent : Name) (text : String) (segment : List Char),
      sanitize Text.isAlphanumeric text.toList = some segment →
      ∃ name, parent.scoped? text = some name ∧
        name.text = parent.text ++ "." ++ String.ofList segment ∧ name.leaf = String.ofList segment) ∧
    (∀ (s n : Supervisor) (number : Nat) (denied : Denials), Reachable s → Reachable n →
      (∀ text, (s.register (n.asTask number) denied).1 ≠ .error (.invalidName text)) ∧
      ((s.status.isActive && !s.dynamic) = false → ∃ c,
        (s.register (n.asTask number) denied).2.children[s.children.length]? = some c ∧
          c.name.text = s.id.text ++ "." ++ n.id.text ∧ c.task = n.asTask number)) := by
  refine ⟨sanitize_eq_none_iff hunderscore, fun segment h => ?_, fun parent text segment h => ?_,
    fun s n number denied _ hn => ?_⟩
  · have hsegment := sanitize_segment h
    exact ⟨hsegment.ne_nil, hsegment, filter_of_sanitize hunderscore h, sanitize_of_segment hsegment,
      leafChars_append_point (hsegment.point_notMem hpoint)⟩
  · exact ⟨_, scoped?_of_sanitize h, rfl, leaf_of_sanitize h⟩
  · exact ⟨register_asTask_ne_invalidName hn s number denied,
      fun hopen => register_asTask_named hn hopen number denied⟩

/-- Blanks and dashes are replaced, and a supervisor whose name had to be rewritten becomes a child. -/
theorem segments_sanitized_nested_pool : ∃ s n, create "sup" = .ok s ∧ create "tcp-pool" = .ok n ∧
    sanitize Text.isAlphanumeric "  tcp--listener ".toList = some "tcp_listener".toList ∧
    sanitize Text.isAlphanumeric "tcp_listener".toList = some "tcp_listener".toList ∧
    (∃ name, (⟨"sup"⟩ : Name).scoped? "  tcp--listener " = some name ∧
      name.text = "sup.tcp_listener" ∧ name.leaf = "tcp_listener") ∧
    ∃ c, (s.register (n.asTask 1) noDenials).2.children[0]? = some c ∧ c.name.text = "sup.tcp_pool" := by
  have hs : create "sup" = .ok _ := rfl
  have hn : create "tcp-pool" = .ok _ := rfl
  have hsanitized : sanitize Text.isAlphanumeric "  tcp--listener ".toList =
      some "tcp_listener".toList := by decide +kernel
  obtain ⟨-, hkept, hscoped, hchild⟩ := segments_sanitized Text.isAlphanumeric
    alphanumeric_underscore alphanumeric_point "  tcp--listener ".toList
  obtain ⟨-, -, -, hfixed, -⟩ := hkept _ hsanitized
  obtain ⟨-, hnamed⟩ := hchild _ _ 1 noDenials (.create hs) (.create hn)
  obtain ⟨c, hc, hname, -⟩ := hnamed rfl
  exact ⟨_, _, hs, hn, hsanitized, hfixed, hscoped ⟨"sup"⟩ _ _ hsanitized, c, hc, hname⟩

end Relay.Name
