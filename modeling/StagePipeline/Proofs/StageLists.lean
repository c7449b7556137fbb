import Mathlib.Data.List.Nodup
import Mathlib.Data.List.Perm.Subperm
import StagePipeline.Config.FromToml
import StagePipeline.Proofs.RunOrder

/-!
# The stage list of a configuration

A configuration is read in two steps: a decoder takes an outline out of the text, or says
what is wrong with it, and then the list of stages in the outline is looked at.
`Config.firstRepeated` goes along the list with the stages that it has seen; what it finds
is the first entry that is of the same kind as one before it.  So exactly the lists with an
entry and without such a repetition become configurations, and the pipelines of these are
numbered from one without a gap.

Nothing here depends on how outlines are written: the statements hold for every decoder, and
`Config.ofToml` is the case of one of them.
-/

namespace StagePipeline

/-- The configuration is refused for what it says, with a message about some place in it. -/
structure ConfigError.IsValidation (error : ConfigError) (message : String) (span : Span) :
    Prop where
  code : error.code? = some "strata::config::validation_error"
  message : error.message = message
  span : error.span? = some span

/-! ### Numbered pipelines -/

namespace Pipeline

theorem name_assemble (kinds : List StageKind) (settings : StageSettings) :
    (assemble kinds settings).info.map (·.name) = kinds.map (·.name) := by
  have names : (assemble kinds settings).info.map (·.name) =
      ((assemble kinds settings).stages.map (·.phase)).map (·.name) := by
    rw [info, List.map_map, List.map_map]
    rfl
  rw [names, phases_assemble]
  apply List.ext_getElem
  · rw [List.length_map, List.length_mapIdx, List.length_map]
  · intro index _ _
    rw [List.getElem_map, List.getElem_mapIdx, List.getElem_map]

theorem id_assemble {kinds : List StageKind} (few : kinds.length < UInt32.size)
    (settings : StageSettings) :
    (assemble kinds settings).info.map (·.id.toNat) = List.range' 1 kinds.length := by
  have ids : (assemble kinds settings).info.map (·.id.toNat) =
      ((assemble kinds settings).stages.map (·.phase)).map (·.id.toNat) := by
    rw [info, List.map_map, List.map_map]
    rfl
  rw [ids, phases_assemble]
  apply List.ext_getElem
  · rw [List.length_map, List.length_mapIdx, List.length_range']
  · intro index within _
    rw [List.length_map, List.length_mapIdx] at within
    rw [List.getElem_map, List.getElem_mapIdx, List.getElem_range', UInt32.toNat_ofNat',
      Nat.mod_eq_of_lt (Nat.lt_of_le_of_lt within few), Nat.one_mul, Nat.add_comm]

end Pipeline

/-- There are no more different kinds than there are kinds. -/
theorem StageKind.length_le_of_nodup {kinds : List StageKind} (distinct : kinds.Nodup) :
    kinds.length ≤ all.length := by
  refine (distinct.subperm fun kind _ => ?_).length_le
  cases kind <;> decide

namespace Config

variable {stages : List (Spanned StageKind)}

/-! ### The first repetition -/

/-- The entry is of the same kind as one before it, and those before it are all different. -/
def IsFirstRepeated (stages : List (Spanned StageKind)) (entry : Spanned StageKind) : Prop :=
  ∃ before after, stages = before ++ entry :: after ∧
    (before.map (·.value)).Nodup ∧ entry.value ∈ before.map (·.value)

theorem IsFirstRepeated.not_nodup {entry : Spanned StageKind}
    (repeated : IsFirstRepeated stages entry) : ¬ (stages.map (·.value)).Nodup := by
  rcases repeated with ⟨before, after, rfl, -, seen⟩
  intro distinct
  rw [List.map_append, List.map_cons, List.nodup_middle, List.nodup_cons] at distinct
  exact distinct.1 (List.mem_append_left _ seen)

/-- Either all entries are different, or there is a first one that is the same as another. -/
theorem nodup_or_isFirstRepeated (stages : List (Spanned StageKind)) :
    (stages.map (·.value)).Nodup ∨ ∃ entry, IsFirstRepeated stages entry := by
  induction stages using List.reverseRecOn with
  | nil => exact .inl List.nodup_nil
  | append_singleton before last inductive_hypothesis =>
    rcases inductive_hypothesis with distinct | ⟨entry, first, after, rfl, distinct, seen⟩
    · by_cases seen : last.value ∈ before.map (·.value)
      · exact .inr ⟨last, before, [], rfl, distinct, seen⟩
      · refine .inl ?_
        rw [List.map_append]
        exact List.nodup_append_comm.1 (List.nodup_cons.2 ⟨seen, distinct⟩)
    · exact .inr ⟨entry, first, after ++ [last], by simp, distinct, seen⟩

/-- The search passes over entries that are different from each other and from what was seen. -/
theorem firstRepeated_append {seen : List StageKind} {before : List (Spanned StageKind)}
    (distinct : (seen ++ before.map (·.value)).Nodup) (rest : List (Spanned StageKind)) :
    firstRepeated seen (before ++ rest) =
      firstRepeated (seen ++ before.map (·.value)) rest := by
  induction before generalizing seen with
  | nil => rw [List.nil_append, List.map_nil, List.append_nil]
  | cons entry before inductive_hypothesis =>
    rw [List.map_cons, List.append_cons] at distinct ⊢
    have new : entry.value ∉ seen := by
      have here := List.nodup_append_comm.1 (List.Nodup.of_append_left distinct)
      exact (List.nodup_cons.1 here).1
    rw [List.cons_append, firstRepeated, if_neg new]
    exact inductive_hypothesis distinct

theorem IsFirstRepeated.found {entry : Spanned StageKind}
    (repeated : IsFirstRepeated stages entry) : firstRepeated [] stages = some entry := by
  rcases repeated with ⟨before, after, rfl, distinct, seen⟩
  rw [firstRepeated_append distinct, List.nil_append, firstRepeated, if_pos seen]

theorem firstRepeated_of_nodup (distinct : (stages.map (·.value)).Nodup) :
    firstRepeated [] stages = none := by
  rw [← List.append_nil stages, firstRepeated_append distinct]
  rfl

/-! ### What becomes of a list -/

variable {list : Spanned (List (Spanned StageKind))}

theorem checkStages_of_empty (empty : list.value = []) :
    checkStages list = .error (.noStage list.span) := by
  rw [checkStages, empty]
  rfl

theorem checkStages_of_repeated {entry : Spanned StageKind}
    (repeated : IsFirstRepeated list.value entry) :
    checkStages list = .error (.repeatedStage entry.value entry.span) := by
  have nonempty : list.value.isEmpty = false := by
    rcases repeated with ⟨before, after, split, -⟩
    rw [split]
    simp
  rw [checkStages, nonempty, if_neg Bool.false_ne_true, repeated.found]

theorem checkStages_of_proper (nonempty : list.value ≠ [])
    (distinct : (list.value.map (·.value)).Nodup) :
    checkStages list = .ok (list.value.map (·.value)) := by
  rw [checkStages, if_neg (mt List.isEmpty_iff.1 nonempty), firstRepeated_of_nodup distinct]

/-- The kinds in the list of an outline, or all kinds if there is no list. -/
def listedStages (outline : Outline) : List StageKind :=
  match outline.stages? with
  | none => [.parse, .check]
  | some list => list.value.map (·.value)

/-- The outline has no list of stages, or one with an entry and without a repetition. -/
def HasProperStages (outline : Outline) : Prop :=
  ∀ list, outline.stages? = some list →
    list.value ≠ [] ∧ (list.value.map (·.value)).Nodup

theorem ofOutline_of_list {outline : Outline} (listed : outline.stages? = some list) :
    ofOutline outline = (checkStages list).map fun stages => ⟨stages, outline.settings⟩ := by
  rw [ofOutline, listed]

theorem ofOutline_eq_ok_iff {outline : Outline} {config : Config} :
    ofOutline outline = .ok config ↔
      HasProperStages outline ∧ config = ⟨listedStages outline, outline.settings⟩ := by
  rw [HasProperStages, listedStages]
  cases listed : outline.stages? with
  | none => simp [ofOutline, listed, eq_comm, StageKind.all]
  | some list =>
    rw [ofOutline_of_list listed]
    by_cases empty : list.value = []
    · simp [checkStages_of_empty empty, empty, Except.map]
    · rcases nodup_or_isFirstRepeated list.value with distinct | ⟨entry, repeated⟩
      · simp [checkStages_of_proper empty distinct, empty, distinct, Except.map, eq_comm]
      · simp [checkStages_of_repeated repeated, repeated.not_nodup, Except.map]

theorem listedStages_proper {outline : Outline} (proper : HasProperStages outline) :
    listedStages outline ≠ [] ∧ (listedStages outline).Nodup := by
  rw [listedStages]
  cases listed : outline.stages? with
  | none => decide
  | some list =>
    rcases proper list listed with ⟨nonempty, distinct⟩
    exact ⟨mt List.map_eq_nil_iff.1 nonempty, distinct⟩

/-! ### What becomes of a text -/

variable {decode : Decoder} {text : String}

theorem ofText_of_outline {outline : Outline} (told : decode text = .ok outline) :
    ofText decode text = ofOutline outline := by
  rw [ofText, told]

theorem ofText_eq_ok_iff {config : Config} :
    ofText decode text = .ok config ↔
      ∃ outline, decode text = .ok outline ∧ HasProperStages outline ∧
        config = ⟨listedStages outline, outline.settings⟩ := by
  cases told : decode text with
  | error error => simp [ofText, told]
  | ok outline => simp [ofText_of_outline told, ofOutline_eq_ok_iff]

/--
Whatever decoder is used, a text is accepted exactly if an outline is decoded from it whose
list of stages, if there is one, has an entry and no repetition.  The stages of the
configuration are then the listed ones in their order, or a parse and a check if there is no
list.  There is at least one of them and none occurs twice, and the pipeline that is
assembled from them is in order, with the ids 1 to n.  An empty list is refused at its own
place.  A list that repeats a stage has a first entry that is the same as one before it, and
is refused with the name and at the place of that entry.
-/
theorem accepted_stages_assemble (decode : Decoder) (text : String) :
    (∀ config, ofText decode text = .ok config →
      (∃ outline, decode text = .ok outline ∧
        config.stages = listedStages outline ∧ config.settings = outline.settings) ∧
      config.stages ≠ [] ∧ config.stages.Nodup ∧
      let pipeline := Pipeline.assemble config.stages config.settings
      pipeline.orderError? = none ∧
      pipeline.info.map (·.name) = config.stages.map (·.name) ∧
      pipeline.info.map (·.id.toNat) = List.range' 1 config.stages.length) ∧
    ((∃ config, ofText decode text = .ok config) ↔
      ∃ outline, decode text = .ok outline ∧ HasProperStages outline) ∧
    ∀ outline list, decode text = .ok outline → outline.stages? = some list →
      (list.value = [] → ∃ error, ofText decode text = .error error ∧
        error.IsValidation "the pipeline must have at least one stage" list.span) ∧
      (¬ (list.value.map (·.value)).Nodup → ∃ entry, IsFirstRepeated list.value entry) ∧
      ∀ entry, IsFirstRepeated list.value entry →
        ∃ error, ofText decode text = .error error ∧
          error.IsValidation s!"stage '{entry.value.name}' is listed more than once"
            entry.span := by
  refine ⟨?_, ?_, ?_⟩
  · intro config accepted
    rcases ofText_eq_ok_iff.1 accepted with ⟨outline, told, proper, rfl⟩
    rcases listedStages_proper proper with ⟨nonempty, distinct⟩
    have few : (listedStages outline).length ≤ 2 := StageKind.length_le_of_nodup distinct
    have enough : (listedStages outline).length < UInt32.size :=
      Nat.lt_of_le_of_lt few (by decide)
    refine ⟨⟨outline, told, rfl, rfl⟩, nonempty, distinct, ?_, ?_, ?_⟩
    · exact Pipeline.orderError?_eq_none_iff.2 (Pipeline.increasing_assemble enough _)
    · exact Pipeline.name_assemble _ _
    · exact Pipeline.id_assemble enough _
  · constructor
    · rintro ⟨config, accepted⟩
      rcases ofText_eq_ok_iff.1 accepted with ⟨outline, told, proper, -⟩
      exact ⟨outline, told, proper⟩
    · rintro ⟨outline, told, proper⟩
      exact ⟨_, ofText_eq_ok_iff.2 ⟨outline, told, proper, rfl⟩⟩
  · intro outline list told listed
    have checked : ofText decode text =
        (checkStages list).map fun stages => ⟨stages, outline.settings⟩ :=
      (ofText_of_outline told).trans (ofOutline_of_list listed)
    refine ⟨?_, (nodup_or_isFirstRepeated list.value).resolve_left, ?_⟩
    · intro empty
      rw [checkStages_of_empty empty] at checked
      exact ⟨_, checked, rfl, rfl, rfl⟩
    · intro entry repeated
      rw [checkStages_of_repeated repeated] at checked
      exact ⟨_, checked, rfl, rfl, rfl⟩

/-- A list in the other order, an empty one, and one with two repetitions, as the program reads
them. -/
theorem accepted_stages_assemble_documents :
    let reversed := "[pipeline]\nstages = [\"check\", \"parse\"]\n"
    let empty := "[pipeline]\nstages = []\n"
    let repeating :=
      "[pipeline]\nstages = [\"check\", \"parse\", \"parse\", \"check\"]\n"
    (∃ config, ofToml reversed = .ok config ∧ config.stages = [.check, .parse] ∧
      let pipeline := Pipeline.assemble config.stages config.settings
      pipeline.orderError? = none ∧ pipeline.info.map (·.id.toNat) = [1, 2]) ∧
    (∃ error, ofToml empty = .error error ∧
      error.IsValidation "the pipeline must have at least one stage" (.ofLength 20 2)) ∧
    ∃ error, ofToml repeating = .error error ∧
      error.IsValidation "stage 'parse' is listed more than once" (.ofLength 39 7) := by
  intro reversed empty repeating
  let check : Spanned StageKind := ⟨.check, .ofLength 21 7⟩
  let parse : Spanned StageKind := ⟨.parse, .ofLength 30 7⟩
  let again : Spanned StageKind := ⟨.parse, .ofLength 39 7⟩
  let last : Spanned StageKind := ⟨.check, .ofLength 48 7⟩
  have reversed_eq : Toml.decode reversed =
      .ok { pipeline := some ⟨some ⟨[check, parse], .ofLength 20 18⟩⟩ } := by decide +kernel
  have empty_eq : Toml.decode empty =
      .ok { pipeline := some ⟨some ⟨[], .ofLength 20 2⟩⟩ } := by decide +kernel
  have repeating_eq : Toml.decode repeating =
      .ok { pipeline := some ⟨some ⟨[check, parse, again, last], .ofLength 20 36⟩⟩ } := by
    decide +kernel
  refine ⟨?_, ?_, ?_⟩
  · rcases accepted_stages_assemble Toml.decode reversed with ⟨accepted, accepted_iff, -⟩
    have proper : HasProperStages { pipeline := some ⟨some ⟨[check, parse], .ofLength 20 18⟩⟩ } := by
      rintro _ ⟨⟩
      decide
    rcases accepted_iff.2 ⟨_, reversed_eq, proper⟩ with ⟨config, made⟩
    rcases accepted config made with ⟨⟨outline, told, stages_eq, -⟩, -, -, ordered, -, ids⟩
    rcases Except.ok.inj (told.symm.trans reversed_eq) with rfl
    refine ⟨config, made, stages_eq, ordered, ?_⟩
    rw [ids, stages_eq]
    rfl
  · rcases accepted_stages_assemble Toml.decode empty with ⟨-, -, refused⟩
    exact (refused _ _ empty_eq rfl).1 rfl
  · rcases accepted_stages_assemble Toml.decode repeating with ⟨-, -, refused⟩
    have first : IsFirstRepeated [check, parse, again, last] again :=
      ⟨[check, parse], [last], rfl, by decide, by decide⟩
    exact (refused _ _ repeating_eq rfl).2.2 again first

end Config

end StagePipeline
