import Tracepoint.Proofs.DocumentSchema
import Tracepoint.Sample.Writing
/-!
Reading a sample context from the values of a document.  Two things are shown of each kind of value,
from numbers up to whole documents: it is read as what it means, `Reads`, and it means something
just if it has the type that the schema asks for, `Types`.
-/

namespace Tracepoint.Sample

open Toml (Value)

variable {record value : Value} {place : Nat} {name : String} {fields : Fields}
  {entries : List (String × Value)}

/-! ## Fields of a record -/

theorem FieldOf.plain (plain : record.Plain) (here : FieldOf record place name value) :
    value.Plain := by
  cases here with
  | named member => exact (Value.plain_table_iff.mp plain).2 _ member
  | placed found => exact Value.plain_array_iff.mp plain _ (List.mem_of_getElem? found)

theorem lookup_eq_some_iff_mem {α : Type} {entries : List (String × α)} {value : α}
    (distinct : (entries.map Prod.fst).Nodup) :
    entries.lookup name = some value ↔ (name, value) ∈ entries := by
  induction entries with
  | nil => simp
  | cons entry entries ih =>
    obtain ⟨known, old⟩ := entry
    rw [List.map_cons, List.nodup_cons] at distinct
    by_cases same : name = known
    · subst same
      have fresh : (name, value) ∉ entries := fun member =>
        distinct.1 (List.mem_map.mpr ⟨_, member, rfl⟩)
      simp [fresh, eq_comm]
    · have differs : (name == known) = false := beq_eq_false_iff_ne.mpr same
      simp [List.lookup_cons, differs, ih distinct.2, same]

theorem isRecord_iff (plain : value.Plain) :
    IsRecord value ↔ ∃ fields, Fields.ofValue? value = some fields := by
  constructor
  · intro record
    obtain ⟨entries⟩ | ⟨values⟩ := record
    · exact ⟨.named entries, rfl⟩
    · exact ⟨.placed values, rfl⟩
  · intro ⟨fields, split⟩
    cases plain with
    | table => exact .table _
    | array => exact .array _
    | _ => cases split

theorem Fields.get?_eq_some_iff (plain : record.Plain)
    (split : Fields.ofValue? record = some fields) :
    fields.get? place name = some value ↔ FieldOf record place name value := by
  cases plain with
  | table distinct _ =>
    cases split
    exact (lookup_eq_some_iff_mem distinct).trans fieldOf_table_iff.symm
  | array _ =>
    cases split
    exact fieldOf_array_iff.symm
  | _ => cases split

theorem FieldOf.unique (plain : record.Plain) {other : Value}
    (here : FieldOf record place name value) (there : FieldOf record place name other) :
    value = other := by
  obtain ⟨fields, split⟩ : ∃ fields, Fields.ofValue? record = some fields := by
    cases here <;> exact ⟨_, rfl⟩
  rw [← Fields.get?_eq_some_iff plain split] at here there
  exact Option.some.inj (here.symm.trans there)

/-! ## Fields with a default -/

/-- A reader makes of each value what it means. -/
def Reads {α : Type} (read : Value → Option α) (means : Value → α → Prop) : Prop :=
  ∀ value, value.Plain → ∀ found, read value = some found ↔ means value found

/-- The values of a type are those that mean something. -/
def Types {α : Type} (type : Value → Prop) (means : Value → α → Prop) : Prop :=
  ∀ value, value.Plain → (type value ↔ ∃ found, means value found)

section Holds

variable {α : Type} {read : Value → Option α} {type : Value → Prop} {means : Value → α → Prop}
  {absent found : α}

theorem Fields.getD?_eq_some_iff (plain : record.Plain)
    (split : Fields.ofValue? record = some fields)
    (reads : Reads read means) :
    fields.getD? place name read absent = some found ↔
      Holds means absent record place name found := by
  have given (value : Value) : fields.get? place name = some value ↔
      FieldOf record place name value := get?_eq_some_iff plain split
  unfold getD?
  cases got : fields.get? place name with
  | some value =>
    have here := (given value).mp got
    constructor
    · intro same
      exact .given here ((reads value (here.plain plain) found).mp same)
    · intro holds
      obtain ⟨other, meant⟩ | ⟨nowhere⟩ := holds
      · rw [here.unique plain other]
        exact (reads _ (other.plain plain) found).mpr meant
      · exact absurd here (nowhere value)
  | none =>
    have nowhere (value : Value) : ¬ FieldOf record place name value := by
      rw [← given value, got]
      simp
    constructor
    · intro same
      cases same
      exact .absent nowhere
    · intro holds
      obtain ⟨here, meant⟩ | _ := holds
      · exact absurd here (nowhere _)
      · rfl

theorem exists_holds_iff (plain : record.Plain) (types : Types type means) :
    (∃ found, Holds means absent record place name found) ↔
      ∀ given, FieldOf record place name given → type given := by
  constructor
  · intro ⟨found, holds⟩ given there
    obtain ⟨here, meant⟩ | ⟨nowhere⟩ := holds
    · rw [there.unique plain here]
      exact (types _ (here.plain plain)).mpr ⟨_, meant⟩
    · exact absurd there (nowhere given)
  · intro typed
    by_cases anywhere : ∃ given, FieldOf record place name given
    · obtain ⟨given, here⟩ := anywhere
      obtain ⟨found, meant⟩ := (types given (here.plain plain)).mp (typed given here)
      exact ⟨found, .given here meant⟩
    · exact ⟨absent, .absent (not_exists.mp anywhere)⟩

end Holds

/-! ## Scalars -/

theorem reads_text : Reads readText? MeansText := by
  intro value _ s
  cases value <;> simp [readText?, MeansText]

theorem types_text : Types IsText MeansText := fun _ _ => Iff.rfl

theorem reads_number : Reads readNumber? MeansNumber := by
  intro value _ n
  cases value with
  | integer i =>
    simp only [readNumber?, MeansNumber, Value.integer.injEq]
    constructor
    · intro read
      split at read
      case isTrue inRange =>
        cases read
        simp only [Bool.and_eq_true, decide_eq_true_eq] at inRange
        rw [UInt32.toNat_ofNat_of_lt' inRange.2]
        omega
      case isFalse => cases read
    · intro same
      subst same
      simp [n.toNat_lt_size]
  | _ => simp [readNumber?, MeansNumber]

theorem types_number : Types IsNumber MeansNumber := by
  intro value _
  constructor
  · intro number
    obtain ⟨i, rfl, least, most⟩ := number
    have inRange : i.toNat < UInt32.size := by omega
    refine ⟨UInt32.ofNat i.toNat, ?_⟩
    rw [MeansNumber, UInt32.toNat_ofNat_of_lt' inRange, Int.toNat_of_nonneg least]
  · intro meant
    obtain ⟨n, rfl⟩ := meant
    have bound := n.toNat_lt_size
    exact ⟨n.toNat, rfl, by omega, by omega⟩

/-! ## Records -/

theorem reads_process : Reads readProcess? MeansProcess := by
  intro value plain process
  simp only [readProcess?, Option.bind_eq_bind, Option.bind_eq_some_iff, Option.pure_def]
  constructor
  · intro ⟨fields, split, id, readId, name, readName, same⟩
    cases same
    rw [Fields.getD?_eq_some_iff plain split reads_number] at readId
    rw [Fields.getD?_eq_some_iff plain split reads_text] at readName
    exact ⟨(isRecord_iff plain).mpr ⟨fields, split⟩, readId, readName⟩
  · intro ⟨record, id, name⟩
    obtain ⟨fields, split⟩ := (isRecord_iff plain).mp record
    rw [← Fields.getD?_eq_some_iff plain split reads_number] at id
    rw [← Fields.getD?_eq_some_iff plain split reads_text] at name
    exact ⟨fields, split, _, id, _, name, rfl⟩

theorem reads_thread : Reads readThread? MeansThread := by
  intro value plain thread
  simp only [readThread?, Option.bind_eq_bind, Option.bind_eq_some_iff, Option.pure_def]
  constructor
  · intro ⟨fields, split, id, readId, name, readName, managedId, readManagedId, same⟩
    cases same
    rw [Fields.getD?_eq_some_iff plain split reads_number] at readId readManagedId
    rw [Fields.getD?_eq_some_iff plain split reads_text] at readName
    exact ⟨(isRecord_iff plain).mpr ⟨fields, split⟩, readId, readName, readManagedId⟩
  · intro ⟨record, id, name, managedId⟩
    obtain ⟨fields, split⟩ := (isRecord_iff plain).mp record
    rw [← Fields.getD?_eq_some_iff plain split reads_number] at id managedId
    rw [← Fields.getD?_eq_some_iff plain split reads_text] at name
    exact ⟨fields, split, _, id, _, name, _, managedId, rfl⟩

theorem reads_frame : Reads readFrame? MeansFrame := by
  intro value plain frame
  simp only [readFrame?, Option.bind_eq_bind, Option.bind_eq_some_iff, Option.pure_def]
  constructor
  · intro ⟨fields, split, given, found, function, readFunction, module, readModule, address,
      readAddress, offset, readOffset, token, readToken, same⟩
    cases same
    rw [Fields.get?_eq_some_iff plain split] at found
    rw [reads_text _ (found.plain plain), MeansText] at readFunction
    rw [Fields.getD?_eq_some_iff plain split reads_text] at readModule readAddress
    rw [Fields.getD?_eq_some_iff plain split reads_text] at readOffset readToken
    exact ⟨(isRecord_iff plain).mpr ⟨fields, split⟩, readFunction ▸ found, readModule, readAddress,
      readOffset, readToken⟩
  · intro ⟨record, function, module, address, offset, token⟩
    obtain ⟨fields, split⟩ := (isRecord_iff plain).mp record
    rw [← Fields.get?_eq_some_iff plain split] at function
    rw [← Fields.getD?_eq_some_iff plain split reads_text] at module address offset token
    exact ⟨fields, split, _, function, _, rfl, _, module, _, address, _, offset, _, token, rfl⟩

theorem forall_field_cons {known : String} {type : Value → Prop} {schema : Schema}
    {holds : Nat → String → (Value → Prop) → Prop} :
    (∀ place name kind, ((known, type) :: schema)[place]? = some (name, kind) →
        holds place name kind) ↔
      holds 0 known type ∧
        ∀ place name kind, schema[place]? = some (name, kind) → holds (place + 1) name kind := by
  constructor
  · intro each
    exact ⟨each 0 known type rfl, fun place name kind listed => each (place + 1) name kind listed⟩
  · intro ⟨first, others⟩ place name kind listed
    cases place with
    | zero =>
      cases listed
      exact first
    | succ place => exact others place name kind listed

theorem fits_iff {schema : Schema} : Fits schema value ↔ IsRecord value ∧
    ∀ place name type, schema[place]? = some (name, type) →
      ∀ given, FieldOf value place name given → type given :=
  ⟨fun fits => ⟨fits.record, fits.fields⟩, fun ⟨record, fields⟩ => ⟨record, fields⟩⟩

theorem fits_processSchema_iff : Fits processSchema value ↔ IsRecord value ∧
    (∀ given, FieldOf value 0 "id" given → IsNumber given) ∧
      ∀ given, FieldOf value 1 "name" given → IsText given := by
  simp [processSchema, fits_iff, forall_field_cons]

theorem types_process : Types (Fits processSchema) MeansProcess := by
  intro value plain
  rw [fits_processSchema_iff]
  constructor
  · intro ⟨record, id, name⟩
    obtain ⟨id, meantId⟩ := (exists_holds_iff plain types_number).mpr id
    obtain ⟨name, meantName⟩ := (exists_holds_iff plain types_text).mpr name
    exact ⟨⟨id, name⟩, record, meantId, meantName⟩
  · intro ⟨process, record, id, name⟩
    exact ⟨record, (exists_holds_iff plain types_number).mp ⟨_, id⟩,
      (exists_holds_iff plain types_text).mp ⟨_, name⟩⟩

theorem fits_threadSchema_iff : Fits threadSchema value ↔ IsRecord value ∧
    (∀ given, FieldOf value 0 "id" given → IsNumber given) ∧
      (∀ given, FieldOf value 1 "name" given → IsText given) ∧
        ∀ given, FieldOf value 2 "managed_id" given → IsNumber given := by
  simp [threadSchema, fits_iff, forall_field_cons]

theorem types_thread : Types (Fits threadSchema) MeansThread := by
  intro value plain
  rw [fits_threadSchema_iff]
  constructor
  · intro ⟨record, id, name, managedId⟩
    obtain ⟨id, meantId⟩ := (exists_holds_iff plain types_number).mpr id
    obtain ⟨name, meantName⟩ := (exists_holds_iff plain types_text).mpr name
    obtain ⟨managedId, meantManagedId⟩ := (exists_holds_iff plain types_number).mpr managedId
    exact ⟨⟨id, name, managedId⟩, record, meantId, meantName, meantManagedId⟩
  · intro ⟨thread, record, id, name, managedId⟩
    exact ⟨record, (exists_holds_iff plain types_number).mp ⟨_, id⟩,
      (exists_holds_iff plain types_text).mp ⟨_, name⟩,
      (exists_holds_iff plain types_number).mp ⟨_, managedId⟩⟩

theorem isFrame_iff : IsFrame value ↔ IsRecord value ∧
    ((∀ given, FieldOf value 0 "function" given → IsText given) ∧
      ∃ given, FieldOf value 0 "function" given) ∧
    (∀ given, FieldOf value 1 "module" given → IsText given) ∧
      (∀ given, FieldOf value 2 "address" given → IsText given) ∧
        (∀ given, FieldOf value 3 "offset" given → IsText given) ∧
          ∀ given, FieldOf value 4 "token" given → IsText given := by
  simp [IsFrame, frameSchema, fits_iff, forall_field_cons, and_assoc, and_left_comm, and_comm]

theorem types_frame : Types IsFrame MeansFrame := by
  intro value plain
  rw [isFrame_iff]
  constructor
  · intro ⟨record, ⟨typed, given, here⟩, module, address, offset, token⟩
    obtain ⟨function, rfl⟩ := typed given here
    obtain ⟨module, meantModule⟩ := (exists_holds_iff plain types_text).mpr module
    obtain ⟨address, meantAddress⟩ := (exists_holds_iff plain types_text).mpr address
    obtain ⟨offset, meantOffset⟩ := (exists_holds_iff plain types_text).mpr offset
    obtain ⟨token, meantToken⟩ := (exists_holds_iff plain types_text).mpr token
    exact ⟨⟨function, module, address, offset, token⟩, record, here, meantModule, meantAddress,
      meantOffset, meantToken⟩
  · intro ⟨frame, record, function, module, address, offset, token⟩
    have text (given : Value) (here : FieldOf value 0 "function" given) : IsText given :=
      ⟨_, here.unique plain function⟩
    exact ⟨record, ⟨text, _, function⟩, (exists_holds_iff plain types_text).mp ⟨_, module⟩,
      (exists_holds_iff plain types_text).mp ⟨_, address⟩,
      (exists_holds_iff plain types_text).mp ⟨_, offset⟩,
      (exists_holds_iff plain types_text).mp ⟨_, token⟩⟩

/-! ## Lists of frames -/

section Lists

variable {α : Type} {read : Value → Option α} {type : Value → Prop} {means : Value → α → Prop}
  {values : List Value}

theorem mapM_eq_some_iff (reads : Reads read means) (plain : ∀ value ∈ values, value.Plain)
    (found : List α) : values.mapM read = some found ↔ List.Forall₂ means values found := by
  induction values generalizing found with
  | nil => simp [eq_comm]
  | cons value values ih =>
    rw [List.forall_mem_cons] at plain
    rw [List.mapM_cons, List.forall₂_cons_left_iff]
    simp only [Option.bind_eq_bind, Option.bind_eq_some_iff, Option.pure_def, Option.some.injEq,
      ih plain.2, reads value plain.1]
    constructor
    · intro read
      obtain ⟨first, meant, others, allMeant, rfl⟩ := read
      exact ⟨first, others, meant, allMeant, rfl⟩
    · intro related
      obtain ⟨first, others, meant, allMeant, rfl⟩ := related
      exact ⟨first, meant, others, allMeant, rfl⟩

theorem exists_forall₂_iff (types : Types type means) (plain : ∀ value ∈ values, value.Plain) :
    (∃ found, List.Forall₂ means values found) ↔ ∀ value ∈ values, type value := by
  induction values with
  | nil => simp
  | cons value values ih =>
    rw [List.forall_mem_cons] at plain ⊢
    rw [types value plain.1, ← ih plain.2]
    constructor
    · intro ⟨_, related⟩
      obtain _ | ⟨meant, others⟩ := related
      exact ⟨⟨_, meant⟩, _, others⟩
    · intro ⟨⟨first, meant⟩, others, allMeant⟩
      exact ⟨first :: others, .cons meant allMeant⟩

end Lists

theorem reads_frames : Reads readFrames? MeansFrames := by
  intro value plain frames
  cases plain with
  | array each =>
    rw [readFrames?, mapM_eq_some_iff reads_frame each]
    simp [MeansFrames]
  | _ => simp [readFrames?, MeansFrames]

theorem types_frames : Types IsFrames MeansFrames := by
  intro value plain
  cases plain with
  | array each =>
    have every := exists_forall₂_iff types_frame each
    simpa [IsFrames, MeansFrames] using every.symm
  | _ => simp [IsFrames, MeansFrames]

/-! ## Expressions -/

namespace Expressions

variable {expressions other known : Expressions} {source text : String}

theorem Ascending.ext (ascending : expressions.Ascending) (otherAscending : other.Ascending)
    (same : ∀ source text,
      expressions.lookup source = some text ↔ other.lookup source = some text) :
    expressions = other := by
  have distinct {list : Expressions} (ascends : list.Ascending) : list.Nodup := by
    apply List.Pairwise.imp ?_ ascends
    intro one other less same
    exact String.lt_irrefl _ (same ▸ less)
  have perm : expressions.Perm other := by
    apply (List.perm_ext_iff_of_nodup (distinct ascending) (distinct otherAscending)).mpr
    intro (source, text)
    rw [← lookup_eq_some_iff_mem ascending.nodup, ← lookup_eq_some_iff_mem otherAscending.nodup, same]
  refine List.Perm.eq_of_pairwise ?_ ascending otherAscending perm
  intro one other _ _ less greater
  exact absurd (String.lt_trans less greater) (String.lt_irrefl _)

theorem foldlM_eq_some_iff (distinct : (entries.map Prod.fst).Nodup)
    (ascending : known.Ascending) :
    entries.foldlM (fun known (source, value) =>
        return known.set source (← readText? value)) known = some expressions ↔
      (∀ entry ∈ entries, IsText entry.2) ∧ expressions.Ascending ∧
        ∀ source text, expressions.lookup source = some text ↔
          (source, .string text) ∈ entries ∨
            source ∉ entries.map Prod.fst ∧ known.lookup source = some text := by
  -- The texts known before vary in the induction; that they ascend is kept by each new one.
  induction entries generalizing known with
  | nil =>
    rw [List.foldlM_nil, Option.pure_def, Option.some.injEq]
    constructor
    · intro same
      subst same
      simpa using ascending
    · intro ⟨_, expressionsAscending, same⟩
      exact ascending.ext expressionsAscending fun source text => by simp [same]
  | cons entry entries ih =>
    obtain ⟨key, value⟩ := entry
    rw [List.map_cons, List.nodup_cons] at distinct
    rw [List.foldlM_cons, List.forall_mem_cons]
    cases value with
    | string s =>
      have fresh (text : String) : (key, Value.string text) ∉ entries := fun member =>
        distinct.1 (List.mem_map.mpr ⟨_, member, rfl⟩)
      refine (ih distinct.2 ascending.set).trans ?_
      have isText : IsText (.string s) := ⟨s, rfl⟩
      simp only [isText, true_and]
      refine and_congr_right fun _ => and_congr_right fun _ => forall₂_congr fun source text => ?_
      apply iff_congr Iff.rfl
      rw [lookup_set]
      by_cases same : source = key
      · subst same
        simp [fresh, distinct.1, eq_comm]
      · simp [same]
    | _ => simp [readText?, IsText]

end Expressions

theorem readExpressions?_of_texts (texts : ∀ entry ∈ entries, IsText entry.2) :
    ∃ expressions, readExpressions? (.table entries) = some expressions := by
  change ∃ expressions, entries.foldlM _ [] = some expressions
  generalize ([] : Expressions) = known
  induction entries generalizing known with
  | nil => exact ⟨known, rfl⟩
  | cons entry entries ih =>
    obtain ⟨key, value⟩ := entry
    rw [List.forall_mem_cons] at texts
    obtain ⟨⟨s, rfl⟩, others⟩ := texts
    exact ih others (Expressions.set key s known)

theorem meansExpressions_iff {expressions : Expressions} :
    MeansExpressions value expressions ↔ IsExpressions value ∧ expressions.Ascending ∧
      ∀ source text, expressions.lookup source = some text ↔
        ∃ entries, value = .table entries ∧ (source, .string text) ∈ entries :=
  ⟨fun ⟨texts, ascending, known⟩ => ⟨texts, ascending, known⟩,
    fun ⟨texts, ascending, known⟩ => ⟨texts, ascending, known⟩⟩

theorem reads_expressions : Reads readExpressions? MeansExpressions := by
  intro value plain expressions
  cases plain with
  | @table entries distinct each =>
    refine (Expressions.foldlM_eq_some_iff distinct .nil).trans ?_
    have texts : IsExpressions (.table entries) ↔ ∀ entry ∈ entries, IsText entry.2 := by
      simp [IsExpressions]
    rw [meansExpressions_iff, texts]
    simp
  | _ =>
    refine iff_of_false (fun read => by cases read) fun meant => ?_
    obtain ⟨⟨_, same, _⟩, _, _⟩ := meant
    cases same

theorem types_expressions : Types IsExpressions MeansExpressions := by
  intro value plain
  constructor
  · intro typed
    obtain ⟨entries, rfl, texts⟩ := typed
    obtain ⟨expressions, read⟩ := readExpressions?_of_texts texts
    exact ⟨expressions, (reads_expressions _ plain _).mp read⟩
  · intro ⟨expressions, meant⟩
    exact meant.texts

/-! ## Contexts -/

section Contexts

variable {context : Context}

theorem ofEntries?_eq_some_iff (plain : (Value.table entries).Plain) :
    Context.ofEntries? entries = some context ↔ Describes entries context := by
  have split : Fields.ofValue? (.table entries) = some (.named entries) := rfl
  simp only [Context.ofEntries?, Option.bind_eq_bind, Option.bind_eq_some_iff, Option.pure_def,
    Fields.getD?_eq_some_iff plain split reads_number,
    Fields.getD?_eq_some_iff plain split reads_text,
    Fields.getD?_eq_some_iff plain split reads_process,
    Fields.getD?_eq_some_iff plain split reads_thread,
    Fields.getD?_eq_some_iff plain split reads_frames,
    Fields.getD?_eq_some_iff plain split reads_expressions]
  constructor
  · intro read
    obtain ⟨_, appDomainId, _, breakpointAddress, _, process, _, thread, _, frames, _, expressions,
      same⟩ := read
    cases same
    exact ⟨appDomainId, breakpointAddress, process, thread, frames, expressions⟩
  · intro described
    exact ⟨_, described.appDomainId, _, described.breakpointAddress, _, described.process, _,
      described.thread, _, described.frames, _, described.expressions, rfl⟩

theorem fits_contextSchema_iff : Fits contextSchema (.table entries) ↔
    (∀ given, FieldOf (.table entries) 0 "app_domain_id" given → IsNumber given) ∧
      (∀ given, FieldOf (.table entries) 1 "breakpoint_address" given → IsText given) ∧
        (∀ given, FieldOf (.table entries) 2 "process" given → Fits processSchema given) ∧
          (∀ given, FieldOf (.table entries) 3 "thread" given → Fits threadSchema given) ∧
            (∀ given, FieldOf (.table entries) 4 "frames" given → IsFrames given) ∧
              ∀ given, FieldOf (.table entries) 5 "expressions" given → IsExpressions given := by
  have record : IsRecord (.table entries) := .table entries
  simp [contextSchema, fits_iff, forall_field_cons, record]

theorem exists_describes_iff (plain : (Value.table entries).Plain) :
    (∃ context, Describes entries context) ↔ Fits contextSchema (.table entries) := by
  rw [fits_contextSchema_iff]
  constructor
  · intro ⟨context, described⟩
    exact ⟨(exists_holds_iff plain types_number).mp ⟨_, described.appDomainId⟩,
      (exists_holds_iff plain types_text).mp ⟨_, described.breakpointAddress⟩,
      (exists_holds_iff plain types_process).mp ⟨_, described.process⟩,
      (exists_holds_iff plain types_thread).mp ⟨_, described.thread⟩,
      (exists_holds_iff plain types_frames).mp ⟨_, described.frames⟩,
      (exists_holds_iff plain types_expressions).mp ⟨_, described.expressions⟩⟩
  · intro typed
    obtain ⟨appDomainId, breakpointAddress, process, thread, frames, expressions⟩ := typed
    obtain ⟨appDomainId, meantId⟩ := (exists_holds_iff plain types_number).mpr appDomainId
    obtain ⟨breakpointAddress, meantAddress⟩ :=
      (exists_holds_iff plain types_text).mpr breakpointAddress
    obtain ⟨process, meantProcess⟩ := (exists_holds_iff plain types_process).mpr process
    obtain ⟨thread, meantThread⟩ := (exists_holds_iff plain types_thread).mpr thread
    obtain ⟨frames, meantFrames⟩ := (exists_holds_iff plain types_frames).mpr frames
    obtain ⟨expressions, meantExpressions⟩ :=
      (exists_holds_iff plain types_expressions).mpr expressions
    exact ⟨⟨appDomainId, breakpointAddress, process, thread, frames, expressions⟩, meantId,
      meantAddress, meantProcess, meantThread, meantFrames, meantExpressions⟩

end Contexts

end Tracepoint.Sample
