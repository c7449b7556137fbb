import Mathlib.Data.List.Nodup
import Mathlib.Data.List.Perm.Subperm
import StagePipeline.Proofs.JsonTexts
import StagePipeline.Settings.Encode
import StagePipeline.Settings.FromJson

/-!
# Written settings read again

A group of settings is written as an object with an entry for each of its parts.  An entry
that is read brings the part under its key into the group and leaves the other parts alone.
So it does not matter in which order the entries come, and a part that was in the group at
the beginning need not be written.
-/

namespace StagePipeline

open Json.Document

/-- The entries of an object. -/
def Json.entries : Json → List (String × Json)
  | .object entries => entries
  | _ => []

/-- The entries in any order, where some that are standard can be missing. -/
structure Json.IsVariant (standard entries written : List (String × Json)) : Prop where
  subperm : written.Subperm entries
  missing : ∀ entry ∈ entries, entry ∈ written ∨ entry ∈ standard

theorem Json.IsVariant.nodup_keys {standard entries written : List (String × Json)}
    (variant : IsVariant standard entries written) (distinct : (entries.map (·.1)).Nodup) :
    (written.map (·.1)).Nodup := by
  rcases variant.subperm with ⟨kept, perm, sublist⟩
  exact (perm.map _).nodup_iff.1 ((sublist.map _).nodup distinct)

/-! ### Groups of parts -/

section

variable {σ : Type} {parts : σ → List (String × Json)}
  {fields : List (Field Json.Document JsonFault σ)} {target : σ}

/--
The entry is for a field, and reading it gives a group the part of the target under its key;
the group keeps the other parts that it has in common with the target.
-/
def Brings (parts : σ → List (String × Json)) (fields : List (Field Json.Document JsonFault σ))
    (target : σ) (entry : String × Json) : Prop :=
  ∃ field, fields.find? (·.name == entry.1) = some field ∧
    ∀ group, ∃ brought, field.read entry.2.document group = .ok brought ∧
      ∀ part ∈ parts target, part.1 = entry.1 ∨ part ∈ parts group → part ∈ parts brought

/-- What has been read when some entries of a longer list have been. -/
theorem takeEntries_of_brings {entries : List (String × Json)}
    (brings : ∀ entry ∈ entries, Brings parts fields target entry)
    (distinct : (entries.map (·.1)).Nodup) (strict : Bool) {seen : List String}
    (fresh : ∀ key ∈ entries.map (·.1), key ∉ seen) (group : σ) :
    ∃ brought later, (∀ key ∈ later, key ∈ seen ∨ key ∈ entries.map (·.1)) ∧
      (∀ part ∈ parts target, part.1 ∈ entries.map (·.1) ∨ part ∈ parts group →
        part ∈ parts brought) ∧
      ∀ rest, takeEntries fields strict seen (Json.entryDocuments entries ++ rest) group =
        takeEntries fields strict later rest brought := by
  induction entries generalizing seen group with
  | nil =>
    refine ⟨group, seen, fun _ => .inl, fun part _ common => ?_, fun _ => rfl⟩
    exact common.resolve_left List.not_mem_nil
  | cons entry others inductive_hypothesis =>
    rcases entry with ⟨key, value⟩
    rcases List.forall_mem_cons.1 brings with ⟨⟨field, found, reads⟩, bringsOthers⟩
    rcases List.nodup_cons.1 distinct with ⟨once, distinctOthers⟩
    rcases List.forall_mem_cons.1 fresh with ⟨unseen, freshOthers⟩
    rcases reads group with ⟨next, read, common⟩
    have freshNext : ∀ other ∈ others.map (·.1), other ∉ key :: seen := fun other member =>
      List.not_mem_cons_of_ne_of_not_mem (fun same => once (same ▸ member))
        (freshOthers other member)
    rcases inductive_hypothesis bringsOthers distinctOthers freshNext next with
      ⟨brought, later, keys, gained, continues⟩
    refine ⟨brought, later, fun other member => ?_, fun part member shared => ?_, fun rest => ?_⟩
    · rcases keys other member with known | known
      · rcases List.mem_cons.1 known with rfl | known
        · exact .inr List.mem_cons_self
        · exact .inl known
      · exact .inr (List.mem_cons_of_mem _ known)
    · refine gained part member ?_
      rcases shared with listed | had
      · rcases List.mem_cons.1 listed with this | later
        · exact .inr (common part member (.inl this))
        · exact .inl later
      · exact .inr (common part member (.inr had))
    · rw [← continues rest, Json.entryDocuments, List.cons_append, takeEntries, found]
      simp only [unseen, if_false, read]

/-- A group is read from the entries of some of its parts if it had the others already. -/
theorem takeGroup_of_brings (expected : String) (strict : Bool) {initial : σ}
    (determined : ∀ group, parts target ⊆ parts group → group = target)
    {entries : List (String × Json)}
    (brings : ∀ entry ∈ entries, Brings parts fields target entry)
    (distinct : (entries.map (·.1)).Nodup)
    (missing : ∀ part ∈ parts target, part.1 ∈ entries.map (·.1) ∨ part ∈ parts initial) :
    takeGroup expected fields strict initial (Json.document (.object entries)) = .ok target := by
  rcases takeEntries_of_brings brings distinct strict (fun _ _ => List.not_mem_nil) initial with
    ⟨brought, later, -, gained, continues⟩
  have all : brought = target :=
    determined brought fun part member => gained part member (missing part member)
  have read := continues []
  rw [List.append_nil, takeEntries, all] at read
  rw [Json.document, takeGroup, read]
  rfl

/-- The parts of a group say which group it is, and each can be read by itself. -/
structure Legible (parts : σ → List (String × Json))
    (fields : List (Field Json.Document JsonFault σ)) : Prop where
  distinct : ∀ target, ((parts target).map (·.1)).Nodup
  brings : ∀ target, ∀ entry ∈ parts target, Brings parts fields target entry
  determined : ∀ target group, parts target ⊆ parts group → group = target

namespace Legible

variable {initial : σ} {entries : List (String × Json)} (legible : Legible parts fields)
  (variant : Json.IsVariant (parts initial) (parts target) entries)

include legible variant

theorem takeGroup_variant (expected : String) (strict : Bool) :
    takeGroup expected fields strict initial (Json.document (.object entries)) = .ok target := by
  refine takeGroup_of_brings expected strict (legible.determined target)
    (fun entry member => legible.brings target entry (variant.subperm.subset member))
    (variant.nodup_keys (legible.distinct target)) fun part member => ?_
  exact (variant.missing part member).imp_left (List.mem_map_of_mem ·)

end Legible

end

/-! ### The parts of the settings -/

section

variable (expected : String)

theorem scalars_word (value : UInt64) :
    scalars.word expected (Json.document (.number value.toNat)) = .ok value := by
  have fits : value.toNat < Nat.pow 2 64 := value.toNat_lt
  change take (Json.document (.number value.toNat)) (·.word expected) = _
  rw [Json.document, Json.Numeral.value_ofInt fits]
  change ((Found.integer value.toNat).word expected).mapError JsonFault.data = _
  rw [word_toNat]
  rfl

theorem scalars_word? (value : Option UInt64) :
    scalars.word? expected (Json.document (Json.ofOption (fun limit => .number limit.toNat) value)) =
      .ok value := by
  cases value with
  | none => rfl
  | some limit =>
    have found := scalars_word expected limit
    change (scalars.word expected (Json.document (.number limit.toNat))).map some = _
    rw [found]
    rfl

end

theorem scalars_truth (value : Bool) : scalars.truth (Json.document (.bool value)) = .ok value := rfl

theorem scalars_name {known : List String} {name : String} (member : name ∈ known) :
    scalars.name known (Json.document (.text name)) = .ok name := by
  change (knownName known name).mapError JsonFault.data = _
  rw [knownName, if_pos member]
  rfl

theorem ExecutionMode.name_mem_names (mode : ExecutionMode) : mode.name ∈ names := by
  cases mode <;> decide

theorem FailurePolicy.name_mem_names (policy : FailurePolicy) : policy.name ∈ names := by
  cases policy <;> decide

namespace ParseOptions

/-- The parts of the options as they are written. -/
def parts (options : ParseOptions) : List (String × Json) :=
  (Json.ofParseOptions options).entries

theorem parts_eq (options : ParseOptions) : parts options =
    [("mode", .text options.mode.name), ("workers", .number options.workers.toNat),
      ("on_error", .text options.onError.name), ("recover", .bool options.recover),
      ("timeout_ms",
        Json.ofOption (fun limit => .number limit.toNat) options.timeoutMilliseconds)] :=
  rfl

theorem brings {options : ParseOptions} {entry : String × Json} (member : entry ∈ parts options) :
    Brings parts (fields scalars) options entry := by
  simp only [parts_eq, List.mem_cons, List.not_mem_nil, or_false] at member
  rcases member with rfl | rfl | rfl | rfl | rfl
  · refine ⟨_, rfl, fun group => ⟨{ group with mode := options.mode }, ?_, ?_⟩⟩
    · simp only [scalars_name options.mode.name_mem_names, Except.map, ExecutionMode.ofName_name]
    · simp [parts_eq]
  · refine ⟨_, rfl, fun group => ⟨{ group with workers := options.workers }, ?_, ?_⟩⟩
    · simp only [scalars_word, Except.map]
    · simp [parts_eq]
  · refine ⟨_, rfl, fun group => ⟨{ group with onError := options.onError }, ?_, ?_⟩⟩
    · simp only [scalars_name options.onError.name_mem_names, Except.map, FailurePolicy.ofName_name]
    · simp [parts_eq]
  · refine ⟨_, rfl, fun group => ⟨{ group with recover := options.recover }, ?_, ?_⟩⟩
    · simp only [scalars_truth, Except.map]
    · simp [parts_eq]
  · refine ⟨_, rfl, fun group =>
      ⟨{ group with timeoutMilliseconds := options.timeoutMilliseconds }, ?_, ?_⟩⟩
    · simp only [scalars_word?, Except.map]
    · simp [parts_eq]

theorem nodup_keys (options : ParseOptions) : ((parts options).map (·.1)).Nodup := by
  change ["mode", "workers", "on_error", "recover", "timeout_ms"].Nodup
  decide

theorem eq_of_parts_subset {options group : ParseOptions} (subset : parts options ⊆ parts group) :
    group = options := by
  have same : options.mode.name = group.mode.name ∧
      (options.workers.toNat : Int) = group.workers.toNat ∧
      options.onError.name = group.onError.name ∧ options.recover = group.recover ∧
      Json.ofOption (fun limit => .number limit.toNat) options.timeoutMilliseconds =
        Json.ofOption (fun limit => .number limit.toNat) group.timeoutMilliseconds := by
    simpa [parts_eq] using subset
  rcases same with ⟨mode, workers, onError, recover, timeout⟩
  have modes : group.mode = options.mode := by
    rw [← ExecutionMode.ofName_name group.mode, ← mode, ExecutionMode.ofName_name]
  have policies : group.onError = options.onError := by
    rw [← FailurePolicy.ofName_name group.onError, ← onError, FailurePolicy.ofName_name]
  have limits : group.timeoutMilliseconds = options.timeoutMilliseconds := by
    have read := scalars_word? "u64" group.timeoutMilliseconds
    rw [← timeout, scalars_word?] at read
    exact (Except.ok.inj read).symm
  have counts : group.workers = options.workers :=
    UInt64.toNat_inj.1 (Int.natCast_inj.1 workers).symm
  rcases options with ⟨_, _, _, _, _⟩
  rcases modes with rfl
  rcases policies with rfl
  rcases limits with rfl
  rcases counts with rfl
  rcases recover with rfl
  rfl

theorem legible : Legible parts (fields scalars) :=
  ⟨nodup_keys, fun _ _ => brings, fun _ _ => eq_of_parts_subset⟩

end ParseOptions

namespace CheckOptions

/-- The parts of the options as they are written. -/
def parts (options : CheckOptions) : List (String × Json) :=
  (Json.ofCheckOptions options).entries

theorem parts_eq (options : CheckOptions) :
    parts options = [("max_depth", .number options.maxDepth.toNat)] := rfl

theorem brings {options : CheckOptions} {entry : String × Json} (member : entry ∈ parts options) :
    Brings parts (fields scalars) options entry := by
  rcases List.mem_singleton.1 member with rfl
  refine ⟨_, rfl, fun group => ⟨options, ?_, fun _ member _ => member⟩⟩
  simp only [scalars_word, Except.map]

theorem nodup_keys (options : CheckOptions) : ((parts options).map (·.1)).Nodup := by
  change ["max_depth"].Nodup
  decide

theorem eq_of_parts_subset {options group : CheckOptions} (subset : parts options ⊆ parts group) :
    group = options := by
  have same : (options.maxDepth.toNat : Int) = group.maxDepth.toNat := by
    simpa [parts_eq] using subset
  exact congrArg CheckOptions.mk (UInt64.toNat_inj.1 (Int.natCast_inj.1 same).symm)

theorem legible : Legible parts (fields scalars) :=
  ⟨nodup_keys, fun _ _ => brings, fun _ _ => eq_of_parts_subset⟩

end CheckOptions

namespace StageSettings

/-- The parts of the settings as they are written. -/
def parts (settings : StageSettings) : List (String × Json) :=
  (Json.ofSettings settings).entries

/-- The parts of the options of a stage as they are written. -/
def sectionParts (settings : StageSettings) : StageKind → List (String × Json)
  | .parse => settings.parse.parts
  | .check => settings.check.parts

theorem eq_of_parts_subset {settings group : StageSettings}
    (subset : parts settings ⊆ parts group) : group = settings := by
  have same : Json.ofParseOptions settings.parse = Json.ofParseOptions group.parse ∧
      Json.ofCheckOptions settings.check = Json.ofCheckOptions group.check := by
    simpa [parts, Json.ofSettings, Json.entries] using subset
  have parse : group.parse = settings.parse := by
    refine ParseOptions.eq_of_parts_subset fun part member => ?_
    rwa [ParseOptions.parts, ← same.1]
  have check : group.check = settings.check := by
    refine CheckOptions.eq_of_parts_subset fun part member => ?_
    rwa [CheckOptions.parts, ← same.2]
  rcases settings with ⟨_, _⟩
  rcases parse with rfl
  rcases check with rfl
  rfl

/--
The settings written in another way: the sections and the entries of each are in any order,
and what has the values that it would have anyway can be missing.
-/
structure Variant (settings : StageSettings) where
  /-- The sections that are there, in their order. -/
  sections : List StageKind
  entries : StageKind → List (String × Json)
  distinct : sections.Nodup
  missing : ∀ kind, kind ∈ sections ∨ settings.sectionParts kind = sectionParts {} kind
  isVariant : ∀ kind,
    Json.IsVariant (sectionParts {} kind) (settings.sectionParts kind) (entries kind)

namespace Variant

variable {settings : StageSettings} (variant : settings.Variant)

/-- Some sections as entries. -/
def written (kinds : List StageKind) : List (String × Json) :=
  kinds.map fun kind => (kind.name, .object (variant.entries kind))

/-- The settings written in this way. -/
def text : String :=
  (Json.object (variant.written variant.sections)).compact

theorem nodup_keys {kinds : List StageKind} (distinct : kinds.Nodup) :
    ((variant.written kinds).map (·.1)).Nodup := by
  rw [written, List.map_map]
  refine List.Nodup.map (fun left right same => ?_) distinct
  have named := congrArg StageKind.ofName? same
  rw [Function.comp_apply, Function.comp_apply, StageKind.ofName?_name,
    StageKind.ofName?_name] at named
  exact Option.some.inj named

theorem takeParseOptions_entries :
    takeParseOptions (Json.document (.object (variant.entries .parse))) = .ok settings.parse :=
  ParseOptions.legible.takeGroup_variant (variant.isVariant .parse) _ true

theorem takeCheckOptions_entries :
    takeCheckOptions (Json.document (.object (variant.entries .check))) = .ok settings.check :=
  CheckOptions.legible.takeGroup_variant (variant.isVariant .check) _ true

theorem brings {kinds : List StageKind} :
    ∀ entry ∈ variant.written kinds, Brings parts settingsFields settings entry := by
  intro entry member
  rcases List.mem_map.1 member with ⟨kind, -, rfl⟩
  cases kind with
  | parse =>
    refine ⟨_, rfl, fun group => ⟨{ group with parse := settings.parse }, ?_, ?_⟩⟩
    · simp only [takeParseOptions_entries, Except.map]
    · simp [parts, Json.ofSettings, Json.entries, StageKind.name]
  | check =>
    refine ⟨_, rfl, fun group => ⟨{ group with check := settings.check }, ?_, ?_⟩⟩
    · simp only [takeCheckOptions_entries, Except.map]
    · simp [parts, Json.ofSettings, Json.entries, StageKind.name]

end Variant

/-! ### Texts of settings -/

namespace Variant

/-- The settings as they are written. -/
def plain (settings : StageSettings) : settings.Variant where
  sections := [.parse, .check]
  entries := settings.sectionParts
  distinct := by decide
  missing kind := .inl (by cases kind <;> decide)
  isVariant _ := ⟨List.Subperm.refl _, fun _ => .inl⟩

variable {settings : StageSettings} (variant : settings.Variant)

section

variable {front back : List StageKind} {kind : StageKind} {before after : List (String × Json)}
  (sections : variant.sections = front ++ kind :: back)
  (options : variant.entries kind = before ++ after)

include sections options

end

end Variant

/-- Only a section is strict: what is meant for another stage is passed over. -/
example :
    ofJson "\x7b\"lint\": \x7b\"level\": 3\x7d, \"check\": \x7b\"max_depth\": 3\x7d\x7d" =
      .ok { check := { maxDepth := 3 } } := by
  decide +kernel

end StageSettings

end StagePipeline
