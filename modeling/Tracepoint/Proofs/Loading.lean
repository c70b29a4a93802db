import Tracepoint.Sample.Load
/-!
Loading a sample context from a path.  The content of the path is a text or there is a reason why
not, `FailsWith`; a text describes a context or it does not.  The expressions of a loaded context
have one value each.
-/

namespace Tracepoint.Sample

namespace Expressions

variable {expressions : Expressions} {source value : String}

def Ascending (expressions : Expressions) : Prop :=
  expressions.Pairwise fun one other => one.1 < other.1

theorem eq_or_mem_of_mem_set {entry : String × String}
    (member : entry ∈ set source value expressions) :
    entry = (source, value) ∨ entry ∈ expressions := by
  induction expressions with
  | nil => exact .inl (List.mem_singleton.mp member)
  | cons first rest ih =>
    rw [set] at member
    split at member
    case isTrue => grind
    case isFalse => split at member <;> grind

theorem Ascending.set (ascending : expressions.Ascending) :
    (set source value expressions).Ascending := by
  induction ascending with
  | nil => exact List.pairwise_singleton _ _
  | @cons first rest least ascending ih =>
    rw [Expressions.set]
    split
    case isTrue same => exact .cons (by rwa [same]) ascending
    case isFalse other =>
      split
      case isTrue less =>
        refine .cons ?_ (.cons least ascending)
        rw [List.forall_mem_cons]
        exact ⟨less, fun entry member => String.lt_trans less (least entry member)⟩
      case isFalse notLess =>
        have less : first.1 < source := by
          rw [← String.not_le]
          intro greater
          exact other (String.le_antisymm greater (String.not_lt.mp notLess))
        refine .cons (fun entry member => ?_) ih
        rcases eq_or_mem_of_mem_set member with rfl | later
        · exact less
        · exact least entry later

theorem Ascending.nodup (ascending : expressions.Ascending) :
    (expressions.map Prod.fst).Nodup := by
  rw [List.nodup_iff_pairwise_ne, List.pairwise_map]
  refine ascending.imp ?_
  intro one other less same
  rw [same] at less
  exact String.lt_irrefl _ less

theorem lookup_isSome_iff_mem :
    (expressions.lookup source).isSome ↔ source ∈ expressions.map Prod.fst := by
  rw [List.lookup_isSome_iff, List.mem_map]
  refine exists_congr fun entry => and_congr_right fun _ => ?_
  rw [beq_iff_eq, eq_comm]

end Expressions

theorem Fields.eq_absent_or_read {α : Type} {fields : Fields} {place : Nat} {name : String}
    {read : Toml.Value → Option α} {absent found : α}
    (given : fields.getD? place name read absent = some found) :
    found = absent ∨ ∃ value, read value = some found := by
  unfold getD? at given
  split at given
  case h_1 value _ => exact .inr ⟨value, given⟩
  case h_2 => exact .inl (Option.some.inj given).symm

theorem Expressions.Ascending.foldlM {known expressions : Expressions}
    {entries : List (String × Toml.Value)} (ascending : known.Ascending)
    (read : entries.foldlM (fun known (source, value) =>
      return known.set source (← readText? value)) known = some expressions) :
    expressions.Ascending := by
  induction entries generalizing known with
  | nil =>
    cases read
    exact ascending
  | cons entry entries ih =>
    rw [List.foldlM_cons, Option.bind_eq_bind, Option.bind_eq_some_iff] at read
    rcases read with ⟨next, written, others⟩
    rw [Option.bind_eq_bind, Option.bind_eq_some_iff] at written
    rcases written with ⟨value, -, same⟩
    cases same
    exact ih ascending.set others

theorem ascending_of_readExpressions? {value : Toml.Value} {expressions : Expressions}
    (read : readExpressions? value = some expressions) : expressions.Ascending := by
  rw [readExpressions?, Option.bind_eq_bind, Option.bind_eq_some_iff] at read
  rcases read with ⟨fields, -, read⟩
  cases fields with
  | named entries => exact Expressions.Ascending.foldlM .nil read
  | placed values => cases read

/-- Why a path holds no text: it is not read, or its bytes are none. -/
inductive FailsWith : Except ReadFailure ByteArray → ReadFailure → Prop
  | unread {failure : ReadFailure} : FailsWith (.error failure) failure
  | undecoded {bytes : ByteArray} (invalid : ¬ bytes.IsValidUTF8) :
    FailsWith (.ok bytes) .invalidText

namespace LoadError

theorem begins_unreadable (path : String) (failure : ReadFailure) :
    "CONTEXT_READ_ERROR: ".toList <+: (unreadable path failure).message.toList := by
  refine ⟨("failed to read '" ++ path ++ "': " ++ failure.reason).toList, ?_⟩
  unfold message
  simp

theorem begins_invalid (text : InvalidText) :
    "CONTEXT_INVALID: ".toList <+: (invalid text).message.toList := by
  refine ⟨("failed to parse '" ++ text.path ++ "': " ++ text.reason).toList, ?_⟩
  unfold message
  simp

theorem not_begins_both {message : List Char} (invalid : "CONTEXT_INVALID: ".toList <+: message) :
    ¬ "CONTEXT_READ_ERROR: ".toList <+: message := by
  intro unreadable
  have begun : "CONTEXT_INVALID: ".toList <+: "CONTEXT_READ_ERROR: ".toList :=
    List.prefix_of_prefix_length_le invalid unreadable (by decide)
  exact absurd begun (by decide)

end LoadError

namespace Context

variable {path text : String} {explain : String → String}
  {content : Except ReadFailure ByteArray} {context : Context}

theorem ascending_of_ofEntries? {entries : List (String × Toml.Value)}
    (described : ofEntries? entries = some context) : context.expressions.Ascending := by
  simp only [ofEntries?, Option.bind_eq_bind, Option.bind_eq_some_iff] at described
  rcases described with ⟨_, -, _, -, _, -, _, -, _, -, expressions, given, same⟩
  cases same
  rcases Fields.eq_absent_or_read given with rfl | ⟨value, read⟩
  · exact .nil
  · exact ascending_of_readExpressions? read

theorem parse_eq_ok_iff :
    parse path text explain = .ok context ↔ (Toml.parse? text).bind ofEntries? = some context := by
  unfold parse
  cases (Toml.parse? text).bind ofEntries? <;> simp

theorem parse_eq_error_iff {error : LoadError} :
    parse path text explain = .error error ↔
      error = .invalid ⟨path, explain text⟩ ∧ (Toml.parse? text).bind ofEntries? = none := by
  unfold parse
  cases (Toml.parse? text).bind ofEntries? <;> simp [eq_comm]

theorem load_of_failsWith {failure : ReadFailure} (fails : FailsWith content failure) :
    load path content explain = .error (.unreadable path failure) := by
  cases fails with
  | unread => rfl
  | undecoded invalid => rw [load, String.fromUTF8?, dif_neg invalid]

theorem load_toByteArray (path text : String) (explain : String → String) :
    load path (.ok text.toByteArray) explain = parse path text explain := by
  rw [load, String.fromUTF8?, dif_pos text.isValidUTF8]
  rfl

end Context

theorem exists_text_or_failsWith (content : Except ReadFailure ByteArray) :
    (∃ text : String, content = .ok text.toByteArray) ∨ ∃ failure, FailsWith content failure := by
  cases content with
  | error failure => exact .inr ⟨failure, .unread⟩
  | ok bytes =>
    by_cases valid : bytes.IsValidUTF8
    · exact .inl ⟨.fromUTF8 bytes valid, rfl⟩
    · exact .inr ⟨.invalidText, .undecoded valid⟩

theorem not_failsWith_toByteArray (text : String) (failure : ReadFailure) :
    ¬ FailsWith (.ok text.toByteArray) failure := by
  rintro (_ | ⟨invalid⟩)
  exact invalid text.isValidUTF8

namespace Context

variable {path : String} {explain : String → String} {content : Except ReadFailure ByteArray}
  {context : Context}

theorem load_eq_ok_iff : load path content explain = .ok context ↔
    ∃ text : String, content = .ok text.toByteArray ∧
      (Toml.parse? text).bind ofEntries? = some context := by
  constructor
  · intro succeeded
    rcases exists_text_or_failsWith content with ⟨text, rfl⟩ | ⟨failure, fails⟩
    · rw [load_toByteArray, parse_eq_ok_iff] at succeeded
      exact ⟨text, rfl, succeeded⟩
    · rw [load_of_failsWith fails] at succeeded
      cases succeeded
  · rintro ⟨text, rfl, described⟩
    rw [load_toByteArray, parse_eq_ok_iff]
    exact described

theorem eq_unreadable_of_load {error : LoadError} {failure : ReadFailure}
    (failed : load path content explain = .error error) (fails : FailsWith content failure) :
    error = .unreadable path failure := by
  rw [load_of_failsWith fails] at failed
  exact (Except.error.inj failed).symm

theorem eq_invalid_of_load {error : LoadError} {text : String}
    (failed : load path (.ok text.toByteArray) explain = .error error) :
    error = .invalid ⟨path, explain text⟩ := by
  rw [load_toByteArray, parse_eq_error_iff] at failed
  exact failed.1

theorem load_eq_error {error : LoadError} (failed : load path content explain = .error error) :
    (∃ failure, FailsWith content failure ∧ error = .unreadable path failure) ∨
      ∃ text : String, content = .ok text.toByteArray ∧
        error = .invalid ⟨path, explain text⟩ := by
  rcases exists_text_or_failsWith content with ⟨text, rfl⟩ | ⟨failure, fails⟩
  · exact .inr ⟨text, rfl, eq_invalid_of_load failed⟩
  · exact .inl ⟨failure, fails, eq_unreadable_of_load failed fails⟩

/-- An error is named for the reading just if there is no text to parse. -/
theorem begins_of_load {error : LoadError} (failed : load path content explain = .error error) :
    ("CONTEXT_READ_ERROR: ".toList <+: error.message.toList ↔
      ∃ failure, FailsWith content failure) ∧
    ("CONTEXT_INVALID: ".toList <+: error.message.toList ↔
      ∀ failure, ¬ FailsWith content failure) := by
  rcases load_eq_error failed with ⟨failure, fails, rfl⟩ | ⟨text, rfl, rfl⟩
  · have begins := LoadError.begins_unreadable path failure
    refine ⟨iff_of_true begins ⟨failure, fails⟩, iff_of_false ?_ ?_⟩
    · exact fun invalid => LoadError.not_begins_both invalid begins
    · exact fun readable => readable failure fails
  · have begins := LoadError.begins_invalid ⟨path, explain text⟩
    have readable := not_failsWith_toByteArray text
    refine ⟨iff_of_false (LoadError.not_begins_both begins) ?_, iff_of_true begins readable⟩
    rintro ⟨failure, fails⟩
    exact readable failure fails

theorem ascending_of_load (succeeded : load path content explain = .ok context) :
    context.expressions.Ascending := by
  rcases load_eq_ok_iff.mp succeeded with ⟨text, -, described⟩
  rcases Option.bind_eq_some_iff.mp described with ⟨entries, -, described⟩
  exact ascending_of_ofEntries? described

end Context

end Tracepoint.Sample
