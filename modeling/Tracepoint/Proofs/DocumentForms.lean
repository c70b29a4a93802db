import Tracepoint.Proofs.TypedReading
/-!
Documents that are alike describe the same contexts.  A context is described field by field, so it
is enough that both documents give the same values for the fields of the schema, or values that
mean the same.  A context that is written as a document is described by it.  What is described is
read, so the types of a document decide whether it is read and its form has no say in it.
-/

namespace Tracepoint.Sample

open Toml (Value)

variable {one other value : Value} {entries : List (String × Value)} {values : List Value}
  {place : Nat} {name key : String}

/-! ## Fields -/

theorem mem_zip_iff {names : List String} (distinct : names.Nodup)
    (listed : names[place]? = some name) :
    (name, value) ∈ names.zip values ↔ values[place]? = some value := by
  rw [List.mem_iff_getElem?]
  constructor
  · intro ⟨found, paired⟩
    obtain ⟨named, valued⟩ := List.getElem?_zip_eq_some.mp paired
    have bound : place < names.length := (List.getElem?_eq_some_iff.mp listed).1
    have samePlace : place = found :=
      (List.getElem?_inj bound distinct).mp (listed.trans named.symm)
    rwa [samePlace]
  · intro valued
    exact ⟨place, List.getElem?_zip_eq_some.mpr ⟨listed, valued⟩⟩

section SameRecord

variable {schema : Schema}

theorem SameRecord.isRecord (same : SameRecord schema one other) :
    IsRecord one ∧ IsRecord other := by
  induction same with
  | order | unknown => exact ⟨.table _, .table _⟩
  | places => exact ⟨.table _, .array _⟩
  | symm _ ih => exact ih.symm
  | trans _ _ first second => exact ⟨first.1, second.2⟩

theorem SameRecord.fieldOf_iff (same : SameRecord schema one other)
    (distinct : (schema.map Prod.fst).Nodup)
    (listed : (schema.map Prod.fst)[place]? = some name) (value : Value) :
    FieldOf one place name value ↔ FieldOf other place name value := by
  induction same with
  | order perm =>
    rw [fieldOf_table_iff, fieldOf_table_iff]
    exact perm.mem_iff
  | @unknown entries unlisted ignored outside =>
    have differs : name ≠ unlisted := fun same =>
      outside (same ▸ List.mem_of_getElem? listed)
    simp [differs]
  | places =>
    rw [fieldOf_table_iff, fieldOf_array_iff]
    exact mem_zip_iff distinct listed
  | symm _ ih => exact ih.symm
  | trans _ _ first second => exact first.trans second

end SameRecord

/-! ## Meanings of fields -/

section Holds

variable {α : Type} {means : Value → α → Prop} {absent found : α}

theorem Holds.congr
    (agree : ∀ value, FieldOf one place name value ↔ FieldOf other place name value) :
    Holds means absent one place name found ↔ Holds means absent other place name found := by
  constructor
  · intro holds
    cases holds with
    | given here meant => exact .given ((agree _).mp here) meant
    | absent nowhere => exact .absent fun value here => nowhere value ((agree value).mpr here)
  · intro holds
    cases holds with
    | given here meant => exact .given ((agree _).mpr here) meant
    | absent nowhere => exact .absent fun value here => nowhere value ((agree value).mp here)

/-- Only what stands under its own key matters for a field. -/
theorem Holds.change (same : key = name → ∀ found, means one found → means other found)
    (holds : Holds means absent (.table ((key, one) :: entries)) place name found) :
    Holds means absent (.table ((key, other) :: entries)) place name found := by
  by_cases own : key = name
  · subst own
    cases holds with
    | absent nowhere => exact absurd (.named (.head _)) (nowhere one)
    | given here meant =>
      rw [fieldOf_table_iff, List.mem_cons] at here
      obtain here | later := here
      · cases here
        exact .given (.named (.head _)) (same rfl _ meant)
      · exact .given (.named (.tail _ later)) meant
  · apply (Holds.congr fun value => ?_).mp holds
    rw [fieldOf_table_iff, fieldOf_table_iff]
    simp [Ne.symm own]

end Holds

/-! ## Meanings of records -/

theorem SameRecord.holds {schema : Schema} {α : Type} {means : Value → α → Prop}
    {absent found : α} (same : SameRecord schema one other)
    (distinct : (schema.map Prod.fst).Nodup)
    (listed : (schema.map Prod.fst)[place]? = some name)
    (holds : Holds means absent one place name found) :
    Holds means absent other place name found :=
  (Holds.congr (same.fieldOf_iff distinct listed)).mp holds

theorem SameRecord.meansProcess {process : Process} (same : SameRecord processSchema one other)
    (meant : MeansProcess one process) : MeansProcess other process := by
  have distinct : (processSchema.map Prod.fst).Nodup := by decide
  exact ⟨same.isRecord.2, same.holds distinct rfl meant.id, same.holds distinct rfl meant.name⟩

theorem SameRecord.meansThread {thread : Thread} (same : SameRecord threadSchema one other)
    (meant : MeansThread one thread) : MeansThread other thread := by
  have distinct : (threadSchema.map Prod.fst).Nodup := by decide
  exact ⟨same.isRecord.2, same.holds distinct rfl meant.id, same.holds distinct rfl meant.name,
    same.holds distinct rfl meant.managedId⟩

theorem SameRecord.meansFrame {frame : Frame} (same : SameRecord frameSchema one other)
    (meant : MeansFrame one frame) : MeansFrame other frame := by
  have distinct : (frameSchema.map Prod.fst).Nodup := by decide
  exact ⟨same.isRecord.2, (same.fieldOf_iff distinct rfl _).mp meant.function,
    same.holds distinct rfl meant.module, same.holds distinct rfl meant.address,
    same.holds distinct rfl meant.offset, same.holds distinct rfl meant.token⟩

theorem SameRecord.meansFrames {before after : List Value} {frames : List Frame}
    (same : SameRecord frameSchema one other)
    (meant : MeansFrames (.array (before ++ one :: after)) frames) :
    MeansFrames (.array (before ++ other :: after)) frames := by
  obtain ⟨_, split, each⟩ := meant
  cases split
  refine ⟨_, rfl, ?_⟩
  induction before generalizing frames with
  | nil =>
    cases each with
    | cons first each => exact .cons (same.meansFrame first) each
  | cons value before ih =>
    cases each with
    | cons first each => exact .cons first (ih each)

theorem MeansExpressions.of_perm {entries others : List (String × Value)}
    {expressions : Expressions} (perm : entries.Perm others)
    (meant : MeansExpressions (.table entries) expressions) :
    MeansExpressions (.table others) expressions := by
  obtain ⟨⟨_, split, texts⟩, ascending, known⟩ := meant
  cases split
  refine ⟨⟨others, rfl, fun entry member => texts entry (perm.mem_iff.mpr member)⟩, ascending, ?_⟩
  intro source text
  rw [known]
  simp [perm.mem_iff]

/-! ## Documents -/

section Documents

variable {one other : List (String × Value)} {context : Context}

theorem SameRecord.describes (same : SameRecord contextSchema (.table one) (.table other))
    (described : Describes one context) : Describes other context := by
  have distinct : (contextSchema.map Prod.fst).Nodup := by decide
  exact ⟨same.holds distinct rfl described.appDomainId,
    same.holds distinct rfl described.breakpointAddress, same.holds distinct rfl described.process,
    same.holds distinct rfl described.thread, same.holds distinct rfl described.frames,
    same.holds distinct rfl described.expressions⟩

theorem Describes.change {old new : Value}
    (appDomainId : key ≠ "app_domain_id") (breakpointAddress : key ≠ "breakpoint_address")
    (process : key = "process" → ∀ process, MeansProcess old process → MeansProcess new process)
    (thread : key = "thread" → ∀ thread, MeansThread old thread → MeansThread new thread)
    (frames : key = "frames" → ∀ frames, MeansFrames old frames → MeansFrames new frames)
    (expressions : key = "expressions" →
      ∀ expressions, MeansExpressions old expressions → MeansExpressions new expressions)
    (described : Describes ((key, old) :: entries) context) :
    Describes ((key, new) :: entries) context :=
  ⟨described.appDomainId.change fun same => absurd same appDomainId,
    described.breakpointAddress.change fun same => absurd same breakpointAddress,
    described.process.change process, described.thread.change thread,
    described.frames.change frames, described.expressions.change expressions⟩

theorem Alike.describes_iff (alike : Alike one other) :
    Describes one context ↔ Describes other context := by
  -- A change of one value goes both ways, so the change and its inverse are one lemma.
  induction alike with
  | fields same => exact ⟨same.describes, same.symm.describes⟩
  | process entries same =>
    have change {old new : Value} (same : SameRecord processSchema old new) :
        Describes (("process", old) :: entries) context →
          Describes (("process", new) :: entries) context :=
      Describes.change (by decide) (by decide) (fun _ _ => same.meansProcess) (by simp) (by simp)
        (by simp)
    exact ⟨change same, change same.symm⟩
  | thread entries same =>
    have change {old new : Value} (same : SameRecord threadSchema old new) :
        Describes (("thread", old) :: entries) context →
          Describes (("thread", new) :: entries) context :=
      Describes.change (by decide) (by decide) (by simp) (fun _ _ => same.meansThread) (by simp)
        (by simp)
    exact ⟨change same, change same.symm⟩
  | frame before after entries same =>
    have change {old new : Value} (same : SameRecord frameSchema old new) :
        Describes (("frames", .array (before ++ old :: after)) :: entries) context →
          Describes (("frames", .array (before ++ new :: after)) :: entries) context :=
      Describes.change (by decide) (by decide) (by simp) (by simp) (fun _ _ => same.meansFrames)
        (by simp)
    exact ⟨change same, change same.symm⟩
  | expressions entries perm =>
    have change {old new : List (String × Value)} (perm : old.Perm new) :
        Describes (("expressions", .table old) :: entries) context →
          Describes (("expressions", .table new) :: entries) context :=
      Describes.change (by decide) (by decide) (by simp) (by simp) (by simp)
        (fun _ _ => MeansExpressions.of_perm perm)
    exact ⟨change perm, change perm.symm⟩
  | symm _ ih => exact ih.symm
  | trans _ _ first second => exact first.trans second

end Documents

/-! ## Written documents -/

section Writing

theorem Expressions.Ascending.plain_toValue {expressions : Expressions}
    (ascending : expressions.Ascending) : expressions.toValue.Plain := by
  rw [toValue, Value.plain_table_iff, List.map_map, List.forall_mem_map]
  exact ⟨ascending.nodup, fun _ _ => .string _⟩

theorem Context.plain_toEntries {context : Context} (ascending : context.expressions.Ascending) :
    (Value.table context.toEntries).Plain := by
  have process : context.process.toValue.Plain := by simp [Process.toValue, numberValue]
  have thread : context.thread.toValue.Plain := by simp [Thread.toValue, numberValue]
  have frame (frame : Frame) : frame.toValue.Plain := by simp [Frame.toValue]
  simp [toEntries, numberValue, process, thread, frame, ascending.plain_toValue]

theorem Process.meansProcess_toValue (process : Process) :
    MeansProcess process.toValue process := by
  refine ⟨.table _, .given (.named ?_) rfl, .given (.named ?_) rfl⟩
  all_goals simp [numberValue]

theorem Thread.meansThread_toValue (thread : Thread) : MeansThread thread.toValue thread := by
  refine ⟨.table _, .given (.named ?_) rfl, .given (.named ?_) rfl, .given (.named ?_) rfl⟩
  all_goals simp [numberValue]

theorem Frame.meansFrame_toValue (frame : Frame) : MeansFrame frame.toValue frame := by
  refine ⟨.table _, .named ?_, .given (.named ?_) rfl, .given (.named ?_) rfl,
    .given (.named ?_) rfl, .given (.named ?_) rfl⟩
  all_goals simp

theorem meansFrames_toValue (frames : List Frame) :
    MeansFrames (.array (frames.map Frame.toValue)) frames := by
  refine ⟨_, rfl, ?_⟩
  rw [List.forall₂_map_left_iff, List.forall₂_same]
  exact fun frame _ => frame.meansFrame_toValue

theorem Expressions.Ascending.meansExpressions_toValue {expressions : Expressions}
    (ascending : expressions.Ascending) : MeansExpressions expressions.toValue expressions := by
  have texts : IsExpressions expressions.toValue :=
    ⟨_, rfl, List.forall_mem_map.mpr fun _ _ => ⟨_, rfl⟩⟩
  refine ⟨texts, ascending, fun source text => ?_⟩
  rw [lookup_eq_some_iff_mem ascending.nodup]
  simp [toValue]

theorem Context.describes_toEntries {context : Context}
    (ascending : context.expressions.Ascending) : Describes context.toEntries context := by
  refine ⟨.given (.named ?_) rfl, .given (.named ?_) rfl,
    .given (.named ?_) context.process.meansProcess_toValue,
    .given (.named ?_) context.thread.meansThread_toValue,
    .given (.named ?_) (meansFrames_toValue context.frames),
    .given (.named ?_) ascending.meansExpressions_toValue⟩
  all_goals simp [toEntries, numberValue]

end Writing

/-! ## Reading -/

/-- A document has a context just if its values have the types of the schema, and the context has
those values; documents that are alike have the same context, and a written context is read back. -/
theorem Context.reads_typed_document (plain : (Value.table entries).Plain) :
    (∀ path text explain, Toml.parse? text = some entries → ∀ context,
      parse path text explain = .ok context ↔ ofEntries? entries = some context) ∧
    ((∃ context, ofEntries? entries = some context) ↔ Fits contextSchema (.table entries)) ∧
    (∀ context, ofEntries? entries = some context ↔ Describes entries context) ∧
    (∀ others, (Value.table others).Plain → Alike entries others →
      ofEntries? others = ofEntries? entries) ∧
    ∀ context : Context, context.expressions.Ascending →
      ofEntries? context.toEntries = some context := by
  have reads (context : Context) : ofEntries? entries = some context ↔
      Describes entries context := ofEntries?_eq_some_iff plain
  refine ⟨?parsed, ?typed, reads, ?alike, ?written⟩
  case parsed =>
    intro path text explain tree context
    rw [parse_eq_ok_iff, tree, Option.bind_some]
  case typed =>
    rw [← exists_describes_iff plain]
    exact exists_congr reads
  case alike =>
    intro others othersPlain alike
    apply Option.ext
    intro context
    calc ofEntries? others = some context
      _ ↔ Describes others context := ofEntries?_eq_some_iff othersPlain
      _ ↔ Describes entries context := alike.describes_iff.symm
      _ ↔ ofEntries? entries = some context := (reads context).symm
  case written =>
    intro context ascending
    rw [ofEntries?_eq_some_iff (plain_toEntries ascending)]
    exact describes_toEntries ascending

/-- A thread by places, a frame by names, and a key that no frame has. -/
def mixedDocument : List (String × Value) :=
  [("thread", .array [.integer 7]),
    ("frames", .array [.table [("line", .array []), ("function", .string "Main")]])]

def mixedText : String := "thread = [7]\nframes = [\x7bline = [], function = 'Main'\x7d]"

def mixedContext : Context :=
  { thread := { id := 7 }, frames := [{ function := "Main" }] }

def namedDocument : List (String × Value) :=
  [("frames", .array [.table [("function", .string "Main")]]),
    ("thread", .table [("id", .integer 7)])]

theorem parse?_mixedText : Toml.parse? mixedText = some mixedDocument := by
  decide +kernel

theorem plain_mixedDocument : (Value.table mixedDocument).Plain := by
  simp [mixedDocument]

theorem plain_namedDocument : (Value.table namedDocument).Plain := by
  simp [namedDocument]

theorem alike_namedDocument : Alike mixedDocument namedDocument := by
  have named : SameRecord threadSchema (.array [.integer 7]) (.table [("id", .integer 7)]) := by
    apply SameRecord.symm
    exact @SameRecord.places threadSchema [.integer 7] (by decide)
  have function : SameRecord frameSchema
      (.table [("line", .array []), ("function", .string "Main")])
      (.table [("function", .string "Main")]) := .unknown _ (by decide)
  apply (Alike.thread _ named).trans
  apply Alike.trans (.fields (.order (.swap _ _ _)))
  exact .frame [] [] _ function

theorem Context.mixedDocument_reads :
    (Value.table mixedDocument).Plain ∧ Toml.parse? mixedText = some mixedDocument ∧
      parse "sample.toml" mixedText = .ok mixedContext ∧
      Fits contextSchema (.table mixedDocument) ∧ Describes mixedDocument mixedContext ∧
      ofEntries? namedDocument = some mixedContext := by
  have read : ofEntries? mixedDocument = some mixedContext := rfl
  obtain ⟨parsed, typed, reads, alike, -⟩ := reads_typed_document plain_mixedDocument
  have same := alike namedDocument plain_namedDocument alike_namedDocument
  exact ⟨plain_mixedDocument, parse?_mixedText,
    (parsed "sample.toml" mixedText _ parse?_mixedText mixedContext).mpr read,
    typed.mp ⟨mixedContext, read⟩, (reads mixedContext).mp read, same.trans read⟩

end Tracepoint.Sample
