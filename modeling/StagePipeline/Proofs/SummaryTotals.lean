import Mathlib.Algebra.Order.Ring.Nat
import Mathlib.Data.List.Nodup
import StagePipeline.Session

/-!
# The totals of a summary

A summary is made by adding one timing after the other to a list of totals.  Each timing
goes to the one entry of its category, or to a new entry at the end if there is none, so
whatever the labels are, every category that occurs has one entry, in the order in which
the categories first occur, and the entry holds the exact sum of its timings.
-/

namespace StagePipeline

theorem Duration.nanoseconds_of_add? {left right sum : Duration}
    (added : left.add? right = some sum) :
    sum.nanoseconds = left.nanoseconds + right.nanoseconds := by
  rw [add?, ofNanoseconds?] at added
  split at added
  · rw [← Option.some.inj added]
  · cases added

/-- A text that begins with a word and a blank has this as its first word. -/
theorem Text.firstWord_eq {text word : String} {blank : Char} {rest : List Char}
    (split : text.toList = word.toList ++ blank :: rest) (gap : isBlank blank = true)
    (solid : (word.toList.all fun character => !isBlank character) = true) (nonempty : word ≠ "") :
    firstWord text = word := by
  have word_is_solid := List.all_eq_true.1 solid
  have begins : text.toList.dropWhile isBlank = text.toList := by
    cases letters : word.toList with
    | nil => exact absurd (String.toList_eq_nil_iff.1 letters) nonempty
    | cons first others =>
      have here := word_is_solid first (letters ▸ List.mem_cons_self)
      rw [split, letters, List.cons_append, List.dropWhile_cons_of_neg (by simpa using here)]
  rw [firstWord, begins, split, List.takeWhile_append_of_pos word_is_solid,
    List.takeWhile_cons_of_neg (by simp [gap]), List.append_nil, String.ofList_toList]

namespace Session

/-- The categories of some timings, in the order in which they first occur. -/
def categories (timings : List Timing) : List String :=
  (timings.map category).eraseDups

/-- The nanoseconds of all timings of a category together. -/
def spent (timings : List Timing) (name : String) : Nat :=
  ((timings.filter (category · == name)).map (·.elapsed.nanoseconds)).sum

section Timings

variable {timings : List Timing} {name : String}

theorem mem_categories_iff :
    name ∈ categories timings ↔ ∃ timing ∈ timings, category timing = name := by
  rw [categories, List.mem_eraseDups, List.mem_map]

theorem categories_concat (timings : List Timing) (timing : Timing) :
    categories (timings ++ [timing]) =
      if category timing ∈ categories timings then categories timings
      else categories timings ++ [category timing] := by
  simp only [categories, List.map_append, List.eraseDups_append, List.mem_eraseDups, List.map_cons,
    List.map_nil, List.removeAll, List.filter_cons, List.filter_nil, List.elem_eq_mem]
  by_cases seen : category timing ∈ timings.map category
  · simp only [seen, decide_true, Bool.not_true, Bool.false_eq_true, if_true, if_false,
      List.eraseDups_nil, List.append_nil]
  · simp only [seen, decide_false, Bool.not_false, if_true, if_false, List.eraseDups_cons,
      List.filter_nil, List.eraseDups_nil]

theorem spent_concat (timings : List Timing) (timing : Timing) (name : String) :
    spent (timings ++ [timing]) name =
      spent timings name + if category timing = name then timing.elapsed.nanoseconds else 0 := by
  rw [spent, spent, List.filter_append, List.map_append, List.sum_append]
  by_cases same : category timing = name <;> simp [same]

theorem spent_concat_of_ne {timing : Timing} (other : name ≠ category timing) :
    spent (timings ++ [timing]) name = spent timings name := by
  rw [spent_concat, if_neg (Ne.symm other), Nat.add_zero]

theorem spent_eq_zero (absent : name ∉ categories timings) : spent timings name = 0 := by
  have nothing : timings.filter (category · == name) = [] := by
    refine List.filter_eq_nil_iff.2 fun timing member same => ?_
    exact absent (mem_categories_iff.2 ⟨timing, member, by simpa using same⟩)
  rw [spent, nothing]
  rfl

end Timings

/-- Every category that occurs has one entry, in first-seen order, with the time spent on it. -/
structure Tallies (timings : List Timing) (sums : List (String × Duration)) : Prop where
  names : sums.map (·.1) = categories timings
  distinct : (sums.map (·.1)).Nodup
  exact : ∀ entry ∈ sums, entry.2.nanoseconds = spent timings entry.1

/-- A duration goes to the first entry of its category, or to a new one at the end. -/
theorem addTo_cases {name : String} {elapsed : Duration} {sums next : List (String × Duration)}
    (added : addTo name elapsed sums = some next) :
    (name ∉ sums.map (·.1) ∧ next = sums ++ [(name, elapsed)]) ∨
      ∃ before total after sum, sums = before ++ (name, total) :: after ∧
        total.add? elapsed = some sum ∧ next = before ++ (name, sum) :: after := by
  induction sums generalizing next with
  | nil => exact .inl ⟨List.not_mem_nil, (Option.some.inj added).symm⟩
  | cons entry rest inductive_hypothesis =>
    rcases entry with ⟨other, total⟩
    rw [addTo] at added
    by_cases same : other = name
    · rw [if_pos same] at added
      rcases Option.map_eq_some_iff.1 added with ⟨sum, enough, rfl⟩
      exact .inr ⟨[], total, rest, sum, by rw [same]; rfl, enough, by rw [same]; rfl⟩
    · rw [if_neg same] at added
      rcases Option.map_eq_some_iff.1 added with ⟨later, addedLater, rfl⟩
      rcases inductive_hypothesis addedLater with
        ⟨absent, rfl⟩ | ⟨before, found, after, sum, rfl, enough, rfl⟩
      · refine .inl ⟨?_, rfl⟩
        rw [List.map_cons, List.mem_cons, not_or]
        exact ⟨Ne.symm same, absent⟩
      · exact .inr ⟨(other, total) :: before, found, after, sum, rfl, enough, rfl⟩

theorem tallies_nil : Tallies [] [] where
  names := rfl
  distinct := List.nodup_nil
  exact := nofun

section Added

variable {timings : List Timing} {timing : Timing}

/-- The first time of its category has an entry of its own. -/
theorem Tallies.concat {sums : List (String × Duration)} (tallies : Tallies timings sums)
    (absent : category timing ∉ sums.map (·.1)) :
    Tallies (timings ++ [timing]) (sums ++ [(category timing, timing.elapsed)]) := by
  have missing : category timing ∉ categories timings := tallies.names ▸ absent
  constructor
  case names => rw [categories_concat, if_neg missing, List.map_append, tallies.names]; rfl
  case distinct =>
    rw [List.map_append]
    exact List.nodup_append_comm.1 (List.nodup_cons.2 ⟨absent, tallies.distinct⟩)
  case exact =>
    intro entry member
    rcases List.mem_append.1 member with old | new
    · have other : entry.1 ≠ category timing := by
        intro same
        exact absent (same ▸ List.mem_map_of_mem old)
      rw [spent_concat_of_ne other, tallies.exact entry old]
    · rcases List.mem_singleton.1 new with rfl
      rw [spent_concat, spent_eq_zero missing, Nat.zero_add, if_pos rfl]

/-- A later time of its category is added to the entry, and no other entry changes. -/
theorem Tallies.raise {before after : List (String × Duration)} {total sum : Duration}
    (tallies : Tallies timings (before ++ (category timing, total) :: after))
    (enough : total.add? timing.elapsed = some sum) :
    Tallies (timings ++ [timing]) (before ++ (category timing, sum) :: after) := by
  have same_names : (before ++ (category timing, sum) :: after).map (·.1) =
      (before ++ (category timing, total) :: after).map (·.1) := by
    simp only [List.map_append, List.map_cons]
  have raised : (category timing, total) ∈ before ++ (category timing, total) :: after :=
    List.mem_append_right _ List.mem_cons_self
  have seen : category timing ∈ categories timings := tallies.names ▸ List.mem_map_of_mem raised
  constructor
  case names => rw [same_names, categories_concat, if_pos seen, tallies.names]
  case distinct => rw [same_names]; exact tallies.distinct
  case exact =>
    have once := tallies.distinct
    rw [List.map_append, List.map_cons, List.nodup_middle, List.nodup_cons,
      ← List.map_append] at once
    have kept : ∀ entry ∈ before ++ after,
        entry.2.nanoseconds = spent (timings ++ [timing]) entry.1 := by
      intro entry member
      have other : entry.1 ≠ category timing := by
        intro same
        exact once.1 (List.mem_map.2 ⟨entry, member, same⟩)
      rw [spent_concat_of_ne other]
      exact tallies.exact entry (List.perm_middle.symm.subset (List.mem_cons_of_mem _ member))
    have here : sum.nanoseconds = spent (timings ++ [timing]) (category timing) := by
      rw [Duration.nanoseconds_of_add? enough, spent_concat, if_pos rfl,
        ← tallies.exact _ raised]
    intro entry member
    rcases List.mem_cons.1 (List.perm_middle.subset member) with rfl | others
    · exact here
    · exact kept entry others

theorem Tallies.add {sums next : List (String × Duration)} (tallies : Tallies timings sums)
    (added : addTo (category timing) timing.elapsed sums = some next) :
    Tallies (timings ++ [timing]) next := by
  rcases addTo_cases added with ⟨absent, rfl⟩ | ⟨before, total, after, sum, rfl, enough, rfl⟩
  · exact tallies.concat absent
  · exact tallies.raise enough

end Added

/-- The totals of some timings, if none gets too long. -/
theorem tallies_of_totals {timings : List Timing} {sums : List (String × Duration)}
    (told : totals timings = some sums) : Tallies timings sums := by
  have continued : ∀ (rest past : List Timing) (between : List (String × Duration)),
      Tallies past between →
      rest.foldlM (fun sums timing => addTo (category timing) timing.elapsed sums) between =
        some sums →
      Tallies (past ++ rest) sums := by
    intro rest
    induction rest with
    | nil =>
      rintro past between tallies ⟨⟩
      rw [List.append_nil]
      exact tallies
    | cons timing rest inductive_hypothesis =>
      intro past between tallies folded
      rw [List.foldlM_cons] at folded
      rcases Option.bind_eq_some_iff.1 folded with ⟨next, added, later⟩
      rw [List.append_cons]
      exact inductive_hypothesis _ next (tallies.add added) later
  exact continued timings [] [] tallies_nil told

end Session

end StagePipeline
