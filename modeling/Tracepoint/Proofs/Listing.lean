import Tracepoint.CommandLine.Run
import Tracepoint.Proofs.RecordText
import Tracepoint.Proofs.WellFormed
/-!
What the compile command prints.  The listing of a compiled template and its JSON form show the
same: either is the same for two templates just if they compile to the same parts.
-/

namespace Tracepoint

open Text (SelfDelimiting EndsWord endsWord_some selfDelimiting_of_letters)

namespace Kind

theorem name_injective : Function.Injective name := by
  have distinct : (all.map name).Nodup := by decide
  intro kind other same
  exact List.inj_on_of_nodup_map distinct kind.mem_all other.mem_all same

theorem name_selfDelimiting :
    SelfDelimiting (fun _ => True) (EndsWord Char.isAlpha)
      (fun kind : Kind => kind.name.toList) := by
  refine selfDelimiting_of_letters (fun kind other same => ?_) fun kind _ => ?_
  · exact name_injective (String.toList_inj.mp same)
  · exact List.all_eq_true.mp (by cases kind <;> rfl)

end Kind

namespace Template.Part

theorem record_injective : Function.Injective record := by
  intro part other same
  cases part <;> cases other <;> simp_all [record, Kind.name_injective.eq_iff, UInt32.toNat_inj]

def line (part : Part) : List Char := part.listing.toList ++ ['\n']

def argumentText : Option UInt32 → List Char
  | some argument => ['('] ++ argument.toNat.repr.toList ++ [')', '\n']
  | none => ['\n']

theorem argumentText_selfDelimiting :
    SelfDelimiting (fun _ => True) (fun _ => True) argumentText := by
  have inBrackets : SelfDelimiting (fun _ => True) (fun _ => True) (fun argument : UInt32 =>
      ['('] ++ argument.toNat.repr.toList ++ [')', '\n']) :=
    (Text.repr_selfDelimiting.comp fun _ _ => UInt32.toNat_inj.mp).enclosed
      (endsWord_some.mpr rfl) ['('] ['\n']
  intro one other rest otherRest _ _ _ _ same
  cases one with
  | some argument =>
    cases other with
    | some otherArgument =>
      obtain ⟨rfl, rests⟩ := inBrackets trivial trivial trivial trivial same
      exact ⟨rfl, rests⟩
    | none => exact absurd (List.cons.inj same).1 (by decide)
  | none =>
    cases other with
    | some otherArgument => exact absurd (List.cons.inj same).1 (by decide)
    | none => exact ⟨rfl, (List.cons.inj same).2⟩

theorem valueText_selfDelimiting :
    SelfDelimiting (fun _ => True) (fun _ => True) (fun value : Kind × Option UInt32 =>
      value.1.name.toList ++ argumentText value.2) := by
  have ended (argument : Option UInt32) (rest : List Char) :
      EndsWord Char.isAlpha (argumentText argument ++ rest).head? := by
    cases argument <;> simp [argumentText]
  exact (Kind.name_selfDelimiting.append argumentText_selfDelimiting ended).imp
    (fun _ _ => ⟨trivial, trivial⟩) (fun _ => id)

theorem line_numbered (kind : Kind) (argument : UInt32) :
    line (.numbered kind argument) = kind.name.toList ++ argumentText (some argument) := by
  simp [line, listing, argumentText]

theorem line_plain (kind : Kind) : line (.plain kind) = kind.name.toList ++ argumentText none := rfl

theorem textLine_selfDelimiting :
    SelfDelimiting (fun _ => True) (fun _ => True) (fun content => line (.text content)) := by
  simpa [line, listing] using Text.quoted_selfDelimiting.enclosed trivial "text ".toList []

theorem expressionLine_selfDelimiting :
    SelfDelimiting (fun source : String => '}' ∉ source.toList) (fun _ => True)
      (fun source => line (.expression source)) := by
  have sources : SelfDelimiting (fun source : String => '}' ∉ source.toList)
      (EndsWord (· != '}')) String.toList :=
    selfDelimiting_of_letters (fun _ _ => String.toList_inj.mp) fun source unclosed c inside =>
      bne_iff_ne.mpr fun closing => unclosed (closing ▸ inside)
  simpa [line, listing] using sources.enclosed (endsWord_some.mpr rfl) "expr \x7b".toList ['\n']

def lead : Part → Char
  | .text _ => 't'
  | .expression _ => 'e'
  | .numbered .. | .plain _ => 'W'

theorem head?_line (part : Part) (rest : List Char) :
    (part.line ++ rest).head? = some part.lead := by
  cases part with
  | text | expression => simp [line, listing, lead]
  | numbered kind | plain kind => cases kind <;> simp [line, listing, lead, Kind.name]

/-- Whether the brace that closes a part in a listing is the first one there. -/
def Closes : Part → Prop
  | .expression source => '}' ∉ source.toList
  | _ => True

/-- A source may hold quotes, line breaks and what looks like further lines: its first closing brace
ends it. -/
theorem line_selfDelimiting : SelfDelimiting Closes (fun _ => True) line := by
  intro one other rest otherRest closes otherCloses _ _ same
  -- The first letter tells texts, expressions and values from each other.
  have leads : one.lead = other.lead := by
    have heads := congrArg List.head? same
    rw [head?_line, head?_line] at heads
    exact Option.some.inj heads
  have values {kind otherKind : Kind} {argument otherArgument : Option UInt32}
      (same : kind.name.toList ++ argumentText argument ++ rest =
        otherKind.name.toList ++ argumentText otherArgument ++ otherRest) :
      (kind, argument) = (otherKind, otherArgument) ∧ rest = otherRest :=
    valueText_selfDelimiting trivial trivial trivial trivial same
  cases one with
  | text content =>
    cases other with
    | text otherContent =>
      obtain ⟨rfl, rests⟩ := textLine_selfDelimiting trivial trivial trivial trivial same
      exact ⟨rfl, rests⟩
    | numbered | plain | expression => simp [lead] at leads
  | numbered kind argument =>
    cases other with
    | numbered otherKind otherArgument =>
      rw [line_numbered, line_numbered] at same
      obtain ⟨⟨⟩, rests⟩ := values same
      exact ⟨rfl, rests⟩
    | plain otherKind =>
      rw [line_numbered, line_plain] at same
      cases (values same).1
    | text | expression => simp [lead] at leads
  | plain kind =>
    cases other with
    | numbered otherKind otherArgument =>
      rw [line_plain, line_numbered] at same
      cases (values same).1
    | plain otherKind =>
      rw [line_plain, line_plain] at same
      obtain ⟨⟨⟩, rests⟩ := values same
      exact ⟨rfl, rests⟩
    | text | expression => simp [lead] at leads
  | expression source =>
    cases other with
    | expression otherSource =>
      obtain ⟨rfl, rests⟩ := expressionLine_selfDelimiting closes otherCloses trivial trivial same
      exact ⟨rfl, rests⟩
    | text | numbered | plain => simp [lead] at leads

end Template.Part

namespace CommandLine

open Keyword (Table)
open Template (Part)

theorem toList_unlines (lines : List String) :
    (unlines lines).toList = lines.flatMap fun line => line.toList ++ ['\n'] := by
  simp [unlines, String.toList_join, List.flatMap_def, Function.comp_def]

theorem toList_partListing {parts : List Part} (nonempty : parts ≠ []) :
    (partListing false parts).toList = parts.flatMap Part.line := by
  have plain : partLine false = Part.listing := by
    funext part
    cases part <;> simp [partLine, Style.paint]
  rw [partListing, if_neg (by simpa using nonempty), toList_unlines, List.flatMap_map, plain]
  rfl

theorem partListing_nil_ne {parts : List Part} (nonempty : parts ≠ []) :
    partListing false [] ≠ partListing false parts := by
  obtain ⟨part, others, rfl⟩ := List.exists_cons_of_ne_nil nonempty
  intro same
  have heads := congrArg (fun listing => listing.toList.head?) same
  rw [toList_partListing nonempty, List.flatMap_cons, Part.head?_line] at heads
  cases part <;> simp [partListing, toList_unlines, Style.paint, Part.lead] at heads

theorem partListing_injective {parts others : List Part} (closes : ∀ part ∈ parts, part.Closes)
    (otherCloses : ∀ part ∈ others, part.Closes)
    (same : partListing false parts = partListing false others) : parts = others := by
  have lines : SelfDelimiting (∀ part ∈ ·, part.Closes) (· = none) (List.flatMap Part.line) :=
    Part.line_selfDelimiting.flatMap trivial fun part rest _ =>
      ⟨trivial, by rw [Part.head?_line]; exact Option.some_ne_none _⟩
  rcases eq_or_ne parts [] with rfl | filled <;> rcases eq_or_ne others [] with rfl | otherFilled
  · rfl
  · exact absurd same (partListing_nil_ne otherFilled)
  · exact absurd same.symm (partListing_nil_ne filled)
  · have written := congrArg String.toList same
    rw [toList_partListing filled, toList_partListing otherFilled] at written
    exact lines.eq_of_eq rfl closes otherCloses written

theorem partJson_injective : Function.Injective partJson := by
  intro parts others same
  have written := congrArg String.toList same
  simp only [partJson, toList_unlines, List.flatMap_singleton, List.append_cancel_right_eq,
    String.toList_inj] at written
  have records := Json.recordsText_injective written
  exact List.map_injective_iff.mpr Part.record_injective records

theorem compile_closes (table : Table) (template : String) :
    ∀ part ∈ (Template.compile table template).parts, part.Closes := by
  rcases Template.compile_reads table template with ⟨read, reading, parts, -⟩
  rw [parts]
  intro part member
  cases part with
  | expression source => exact reading.wellFormed.sources source member
  | text | numbered | plain => trivial

/-- The listing of a compiled template and its JSON form tell the same templates apart, and these
are the ones with different parts. -/
theorem compile_stdout_eq_iff (environment : Environment) (files : Files) (verbose : Bool)
    (one other : String) :
    let stdout (json : Bool) (template : String) : String :=
      (Invocation.run { environment with color := false } files
        ⟨verbose, .compile template json⟩).stdout
    (stdout false one = stdout false other ↔ stdout true one = stdout true other) ∧
      (stdout true one = stdout true other ↔
        (Template.compile Table.standard one).parts =
          (Template.compile Table.standard other).parts) := by
  intro stdout
  have listing : stdout false one = stdout false other ↔
      (Template.compile Table.standard one).parts =
        (Template.compile Table.standard other).parts := by
    constructor
    · exact partListing_injective (compile_closes _ _) (compile_closes _ _)
    · exact congrArg (partListing false)
  have json : stdout true one = stdout true other ↔
      (Template.compile Table.standard one).parts =
        (Template.compile Table.standard other).parts :=
    partJson_injective.eq_iff
  exact ⟨listing.trans json.symm, json⟩

end CommandLine

end Tracepoint
