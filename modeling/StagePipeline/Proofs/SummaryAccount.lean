import Mathlib.Algebra.BigOperators.Ring.List
import Mathlib.Data.List.Induction
import Mathlib.Data.List.TakeWhile
import StagePipeline.Proofs.SummaryTotals

/-!
# What a summary conserves

A summary adds its timings up one after the other, and gives nothing as soon as a total no
longer fits.  Totals only grow, so this happens exactly when the exact sum of a category does
not fit in the end.  That sum does not depend on the order of the timings, and neither do the
entries of the summary, except for their own order.
-/

namespace StagePipeline

namespace Text

/-- The words of a text: what stands between its blanks. -/
def words (text : String) : List String :=
  ((text.toList.splitOnP isBlank).filter (· ≠ [])).map String.ofList

theorem takeWhile_dropWhile_eq_head? (characters : List Char) :
    (characters.dropWhile isBlank).takeWhile (fun character => !isBlank character) =
      (((characters.splitOnP isBlank).filter (· ≠ [])).head?).getD [] := by
  induction characters with
  | nil => rfl
  | cons first rest inductive_hypothesis =>
    by_cases blank : isBlank first = true
    · rw [List.dropWhile_cons_of_pos blank, inductive_hypothesis,
        List.splitOnP_cons_eq_if_modifyHead, if_pos blank, List.filter_cons_of_neg (by simp)]
    · -- The text begins with its first word, which goes up to a blank or to the end.
      have solid : ∀ character ∈ (first :: rest).takeWhile (fun character => !isBlank character),
          isBlank character = false := by
        intro character member
        simpa using List.mem_takeWhile_imp member
      have nonempty : (first :: rest).takeWhile (fun character => !isBlank character) ≠ [] := by
        rw [List.takeWhile_cons_of_pos (by simpa using blank)]
        exact List.cons_ne_nil _ _
      have split := List.takeWhile_append_dropWhile (p := fun character => !isBlank character)
        (l := first :: rest)
      have behind := List.head?_dropWhile_not (fun character => !isBlank character) (first :: rest)
      rw [List.dropWhile_cons_of_neg blank]
      generalize (first :: rest).takeWhile (fun character => !isBlank character) = word at *
      cases after : (first :: rest).dropWhile (fun character => !isBlank character) with
      | nil =>
        rw [after, List.append_nil] at split
        rw [← split, List.splitOnP_eq_singleton solid, List.filter_cons_of_pos (by simpa)]
        rfl
      | cons blank later =>
        rw [after] at split behind
        rw [← split, List.splitOnP_append_cons_of_forall_mem solid blank (by simpa using behind),
          List.filter_cons_of_pos (by simpa)]
        rfl

/-- The first word, which is empty if there is none. -/
theorem firstWord_eq_words (text : String) : firstWord text = (words text).head?.getD "" := by
  rw [firstWord, takeWhile_dropWhile_eq_head?, words, List.head?_map]
  cases ((text.toList.splitOnP isBlank).filter (· ≠ [])).head? <;> rfl

end Text

namespace Duration

theorem eq_of_nanoseconds {left right : Duration} (same : left.nanoseconds = right.nanoseconds) :
    left = right := by
  cases left
  cases right
  cases same
  rfl

theorem nanoseconds_eq_parts (duration : Duration) :
    duration.nanoseconds =
      duration.wholeSeconds * nanosecondsPerSecond + duration.restNanoseconds :=
  (Nat.div_add_mod' duration.nanoseconds nanosecondsPerSecond).symm

/-- Some durations together, from the sums of their whole seconds and of their nanoseconds. -/
theorem sum_nanoseconds_eq_parts (durations : List Duration) :
    (durations.map (·.nanoseconds)).sum =
      (durations.map (·.wholeSeconds)).sum * nanosecondsPerSecond +
        (durations.map (·.restNanoseconds)).sum := by
  simp only [← List.sum_map_mul_right, ← List.sum_map_add, ← nanoseconds_eq_parts]

/-- The nanoseconds of a sum are carried into its seconds. -/
theorem carried_of_sum {total : Duration} {durations : List Duration}
    (exact : total.nanoseconds = (durations.map (·.nanoseconds)).sum) :
    total.wholeSeconds = (durations.map (·.wholeSeconds)).sum +
        (durations.map (·.restNanoseconds)).sum / nanosecondsPerSecond ∧
      total.restNanoseconds =
        (durations.map (·.restNanoseconds)).sum % nanosecondsPerSecond := by
  have positive : 0 < nanosecondsPerSecond := by decide
  rw [wholeSeconds, restNanoseconds, exact, sum_nanoseconds_eq_parts]
  constructor
  · rw [Nat.add_comm, Nat.add_mul_div_right _ _ positive, Nat.add_comm]
  · rw [Nat.add_comm, Nat.add_mul_mod_self_right]

theorem durationLimit_le_iff {nanoseconds : Nat} :
    durationLimit ≤ nanoseconds ↔ Nat.pow 2 64 ≤ nanoseconds / nanosecondsPerSecond :=
  (Nat.le_div_iff_mul_le (by decide)).symm

end Duration

namespace Session

/-- How long the scopes of a category were open, in the order in which they were recorded. -/
def elapsedOf (timings : List Timing) (name : String) : List Duration :=
  (timings.filter (category · == name)).map (·.elapsed)

/-- The first timing of one category was recorded before the first of another. -/
def SeenBefore (timings : List Timing) (left right : String) : Prop :=
  (timings.map category).idxOf left < (timings.map category).idxOf right

theorem spent_eq_sum (timings : List Timing) (name : String) :
    spent timings name = ((elapsedOf timings name).map (·.nanoseconds)).sum := by
  rw [spent, elapsedOf, List.map_map]
  rfl

section Reordered

variable {timings other : List Timing} (reordered : other.Perm timings)
include reordered

theorem spent_eq_of_perm (name : String) : spent other name = spent timings name :=
  ((reordered.filter _).map _).sum_eq

theorem mem_categories_iff_of_perm {name : String} :
    name ∈ categories other ↔ name ∈ categories timings := by
  simp only [mem_categories_iff, reordered.mem_iff]

end Reordered

theorem spent_le_concat (timings : List Timing) (timing : Timing) (name : String) :
    spent timings name ≤ spent (timings ++ [timing]) name := by
  rw [spent_concat]
  exact Nat.le_add_right _ _

/-! ### The order of the categories -/

theorem pairwise_categories (timings : List Timing) :
    (categories timings).Pairwise (SeenBefore timings) := by
  induction timings using List.reverseRecOn with
  | nil => exact .nil
  | append_singleton timings timing inductive_hypothesis =>
    have index : ∀ name ∈ categories timings,
        ((timings ++ [timing]).map category).idxOf name = (timings.map category).idxOf name := by
      intro name member
      rw [List.map_append, List.idxOf_append_of_mem (List.mem_eraseDups.1 member)]
    have kept : (categories timings).Pairwise (SeenBefore (timings ++ [timing])) := by
      refine inductive_hypothesis.imp_of_mem fun left right before => ?_
      rw [SeenBefore, index _ left, index _ right]
      exact before
    rw [categories_concat]
    split
    · exact kept
    · rename_i unseen
      rw [List.pairwise_append]
      refine ⟨kept, List.pairwise_singleton _ _, ?_⟩
      intro name member last isLast
      rcases List.mem_singleton.1 isLast with rfl
      have within := List.idxOf_lt_length_iff.2 (List.mem_eraseDups.1 member)
      have behind : category timing ∉ timings.map category :=
        fun occurs => unseen (List.mem_eraseDups.2 occurs)
      rw [SeenBefore, index name member, List.map_append, List.idxOf_append_of_notMem behind]
      exact Nat.lt_of_lt_of_le within (Nat.le_add_right _ _)

/-! ### When the totals fit -/

theorem totals_concat (timings : List Timing) (timing : Timing) :
    totals (timings ++ [timing]) =
      (totals timings).bind (addTo (category timing) timing.elapsed) := by
  rw [totals, List.foldlM_append]
  change (totals timings).bind _ = _
  congr 1
  funext sums
  simp

/-- A duration is refused because of the entry that it would go to. -/
theorem exists_of_addTo_eq_none {name : String} {elapsed : Duration}
    {sums : List (String × Duration)} (refused : addTo name elapsed sums = none) :
    ∃ total, (name, total) ∈ sums ∧ total.add? elapsed = none := by
  induction sums with
  | nil => cases refused
  | cons entry rest inductive_hypothesis =>
    rcases entry with ⟨other, total⟩
    rw [addTo] at refused
    by_cases same : other = name
    · rw [if_pos same, Option.map_eq_none_iff] at refused
      exact ⟨total, same ▸ List.mem_cons_self, refused⟩
    · rw [if_neg same, Option.map_eq_none_iff] at refused
      rcases inductive_hypothesis refused with ⟨found, member, tooLong⟩
      exact ⟨found, List.mem_cons_of_mem _ member, tooLong⟩

theorem exists_of_totals_eq_none {timings : List Timing} (refused : totals timings = none) :
    ∃ timing ∈ timings, durationLimit ≤ spent timings (category timing) := by
  induction timings using List.reverseRecOn with
  | nil => cases refused
  | append_singleton timings timing inductive_hypothesis =>
    rw [totals_concat] at refused
    cases told : totals timings with
    | none =>
      -- A total that was too long stays too long.
      rcases inductive_hypothesis told with ⟨early, member, tooLong⟩
      exact ⟨early, List.mem_append_left _ member,
        Nat.le_trans tooLong (spent_le_concat timings timing _)⟩
    | some sums =>
      rw [told] at refused
      rcases exists_of_addTo_eq_none refused with ⟨total, member, tooLong⟩
      refine ⟨timing, List.mem_append_right _ List.mem_cons_self, ?_⟩
      rw [spent_concat, if_pos rfl, ← (tallies_of_totals told).exact _ member]
      exact Duration.ofNanoseconds?_eq_none.1 tooLong

theorem Tallies.spent_lt {timings : List Timing} {sums : List (String × Duration)}
    (tallies : Tallies timings sums) {timing : Timing} (member : timing ∈ timings) :
    spent timings (category timing) < durationLimit := by
  have occurs : category timing ∈ sums.map (·.1) :=
    tallies.names ▸ mem_categories_iff.2 ⟨timing, member, rfl⟩
  rcases List.mem_map.1 occurs with ⟨entry, among, name⟩
  rw [← name, ← tallies.exact entry among]
  exact entry.2.inRange

theorem totals_eq_none_iff {timings : List Timing} :
    totals timings = none ↔
      ∃ timing ∈ timings, durationLimit ≤ spent timings (category timing) := by
  refine ⟨exists_of_totals_eq_none, ?_⟩
  rintro ⟨timing, member, tooLong⟩
  cases told : totals timings with
  | none => rfl
  | some sums =>
    exact absurd tooLong (Nat.not_le.2 ((tallies_of_totals told).spent_lt member))

theorem totals_eq_none_iff_of_perm {timings other : List Timing}
    (reordered : other.Perm timings) : totals other = none ↔ totals timings = none := by
  simp only [totals_eq_none_iff, reordered.mem_iff, spent_eq_of_perm reordered]

/-! ### The entries -/

namespace Tallies

variable {timings other : List Timing} {sums otherSums : List (String × Duration)}

theorem mem_iff (tallies : Tallies timings sums) {name : String} {total : Duration} :
    (name, total) ∈ sums ↔
      name ∈ categories timings ∧ total.nanoseconds = spent timings name := by
  constructor
  · intro member
    exact ⟨tallies.names ▸ List.mem_map_of_mem member, tallies.exact _ member⟩
  · rintro ⟨occurs, exact⟩
    rw [← tallies.names] at occurs
    rcases List.mem_map.1 occurs with ⟨⟨found, sum⟩, member, rfl⟩
    have same : sum = total :=
      Duration.eq_of_nanoseconds ((tallies.exact _ member).trans exact.symm)
    exact same ▸ member

/-- Timings in another order have the same entries. -/
theorem perm (tallies : Tallies timings sums) (otherTallies : Tallies other otherSums)
    (reordered : other.Perm timings) : otherSums.Perm sums := by
  rw [List.perm_ext_iff_of_nodup (otherTallies.distinct.of_map _) (tallies.distinct.of_map _)]
  rintro ⟨name, total⟩
  rw [otherTallies.mem_iff, tallies.mem_iff, mem_categories_iff_of_perm reordered,
    spent_eq_of_perm reordered]

end Tallies

theorem sum_of_addTo {name : String} {elapsed : Duration} {sums next : List (String × Duration)}
    (added : addTo name elapsed sums = some next) :
    (next.map (·.2.nanoseconds)).sum =
      (sums.map (·.2.nanoseconds)).sum + elapsed.nanoseconds := by
  rcases addTo_cases added with ⟨_, rfl⟩ | ⟨before, total, after, sum, rfl, enough, rfl⟩
  · simp
  · have exact := Duration.nanoseconds_of_add? enough
    simp only [List.map_append, List.map_cons, List.sum_append, List.sum_cons, exact]
    omega

theorem sum_of_totals {timings : List Timing} {sums : List (String × Duration)}
    (told : totals timings = some sums) :
    (sums.map (·.2.nanoseconds)).sum = (timings.map (·.elapsed.nanoseconds)).sum := by
  induction timings using List.reverseRecOn generalizing sums with
  | nil =>
    cases told
    rfl
  | append_singleton timings timing inductive_hypothesis =>
    rw [totals_concat] at told
    rcases Option.bind_eq_some_iff.1 told with ⟨before, toldBefore, added⟩
    rw [sum_of_addTo added, inductive_hypothesis toldBefore]
    simp

/-! ### The summary of a session -/

/--
A summary conserves time.  The category of a timing is the first of the words that stand
between the blanks of its label, or the empty text.  There is no summary exactly when the
seconds of all timings of some category together need more than 64 bits.  Otherwise the
summary has one entry for each category that occurs, in the order in which they first
occur.  The total of an entry is the exact sum of the timings of its category, whose
nanoseconds are carried into its seconds, and all totals together are all the time that was
recorded.  Timings in any other order have a summary under the same condition, and it has
the same entries.
-/
theorem summary_conserves_time (session : Session) :
    let timings := session.timings
    (∀ timing, category timing = (Text.words timing.label).head?.getD "") ∧
    (session.summary? = none ↔
      ∃ timing ∈ timings,
        Nat.pow 2 64 ≤ spent timings (category timing) / nanosecondsPerSecond) ∧
    (∀ sums, session.summary? = some sums →
      (∀ name, name ∈ sums.map (·.1) ↔ ∃ timing ∈ timings, category timing = name) ∧
      (sums.map (·.1)).Nodup ∧ (sums.map (·.1)).Pairwise (SeenBefore timings) ∧
      (∀ entry ∈ sums,
        let elapsed := elapsedOf timings entry.1
        entry.2.nanoseconds = (elapsed.map (·.nanoseconds)).sum ∧
        entry.2.wholeSeconds = (elapsed.map (·.wholeSeconds)).sum +
          (elapsed.map (·.restNanoseconds)).sum / nanosecondsPerSecond ∧
        entry.2.restNanoseconds =
          (elapsed.map (·.restNanoseconds)).sum % nanosecondsPerSecond) ∧
      (sums.map (·.2.nanoseconds)).sum = (timings.map (·.elapsed.nanoseconds)).sum) ∧
    ∀ other : Session, other.timings.Perm timings →
      (other.summary? = none ↔ session.summary? = none) ∧
      ∀ sums otherSums, session.summary? = some sums → other.summary? = some otherSums →
        otherSums.Perm sums := by
  intro timings
  refine ⟨fun timing => Text.firstWord_eq_words timing.label, ?_, ?_, ?_⟩
  · simp only [← Duration.durationLimit_le_iff]
    exact totals_eq_none_iff
  · intro sums told
    have tallies := tallies_of_totals told
    refine ⟨fun name => ?_, tallies.distinct, ?_, fun entry member => ?_, sum_of_totals told⟩
    · rw [tallies.names, mem_categories_iff]
    · rw [tallies.names]
      exact pairwise_categories timings
    · have exact := (tallies.exact entry member).trans (spent_eq_sum timings entry.1)
      exact ⟨exact, Duration.carried_of_sum exact⟩
  · intro other reordered
    refine ⟨totals_eq_none_iff_of_perm reordered, fun sums otherSums told otherTold => ?_⟩
    exact (tallies_of_totals told).perm (tallies_of_totals otherTold) reordered

end Session

end StagePipeline
