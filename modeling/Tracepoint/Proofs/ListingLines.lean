import Mathlib.Algebra.GroupWithZero.Nat
import Tracepoint.Proofs.Listing
import Tracepoint.Proofs.Preview
/-!
The lines of a listing.  Each part is shown with a line break behind it, and quoted texts and values
hold none of their own; an expression is shown as it is written, so a line break in its source
breaks its line.  A listing has one line for each part just if no expression holds a line break.
-/

namespace Tracepoint

namespace Text

theorem newline_not_mem_toDigits {base : Nat} (least : 1 < base) (n : Nat) :
    '\n' ∉ Nat.toDigits base n := by
  intro written
  rcases exists_of_mem_toDigits least written with ⟨digit, same⟩
  exact Nat.digitChar_ne '\n' (by decide) same

theorem newline_not_mem_quotedChar (c : Char) : '\n' ∉ quotedChar c := by
  have digits := newline_not_mem_toDigits (by decide : 1 < 16) c.toNat
  unfold quotedChar
  split
  case h_7 notNewline _ _ _ =>
    split
    case isTrue => simp [codePointEscape, digits]
    case isFalse => simpa using Ne.symm notNewline
  all_goals decide

theorem newline_not_mem_quoted (text : String) : '\n' ∉ (quoted text).toList := by
  simp [quoted, newline_not_mem_quotedChar]

theorem splitOn_lines {lines : List (List Char)} (unbroken : ∀ line ∈ lines, '\n' ∉ line) :
    (lines.flatMap (· ++ ['\n'])).splitOn '\n' = lines ++ [[]] := by
  induction lines with
  | nil => rfl
  | cons line lines ih =>
    rw [List.forall_mem_cons] at unbroken
    rw [List.flatMap_cons, List.append_assoc, List.singleton_append,
      List.splitOn_append_cons_self_of_not_mem unbroken.1, ih unbroken.2, List.cons_append]

end Text

namespace Template.Part

def breaks : Part → Nat
  | .expression source => source.toList.count '\n'
  | _ => 0

theorem count_newline_name (kind : Kind) : kind.name.toList.count '\n' = 0 := by
  cases kind <;> decide

theorem count_newline_listing (part : Part) : part.listing.toList.count '\n' = part.breaks := by
  cases part with
  | text content =>
    have quoted := List.count_eq_zero_of_not_mem (Text.newline_not_mem_quoted content)
    simp [listing, breaks, quoted]
  | numbered kind argument =>
    have digits := List.count_eq_zero_of_not_mem
      (Text.newline_not_mem_toDigits (by decide : 1 < 10) argument.toNat)
    simp [listing, breaks, count_newline_name, digits]
  | plain kind => exact count_newline_name kind
  | expression source => simp [listing, breaks]

theorem count_newline_line (part : Part) : part.line.count '\n' = part.breaks + 1 := by
  rw [line, List.count_append, count_newline_listing, List.count_singleton_self]

theorem count_newline_lines (parts : List Part) :
    (parts.flatMap line).count '\n' = parts.length + (parts.map breaks).sum := by
  induction parts with
  | nil => rfl
  | cons part parts ih =>
    rw [List.flatMap_cons, List.count_append, count_newline_line, ih, List.map_cons, List.sum_cons,
      List.length_cons]
    omega

theorem breaks_eq_zero_iff {part : Part} :
    part.breaks = 0 ↔ ∀ source, part = .expression source → '\n' ∉ source.toList := by
  cases part with
  | expression source => simp [breaks, List.count_eq_zero]
  | text | numbered | plain => simp [breaks]

theorem newline_not_mem_listing {part : Part} (unbroken : part.breaks = 0) :
    '\n' ∉ part.listing.toList := by
  rw [← List.count_eq_zero, count_newline_listing, unbroken]

theorem sum_breaks_eq_zero_iff {parts : List Part} :
    (parts.map breaks).sum = 0 ↔ ∀ source, .expression source ∈ parts → '\n' ∉ source.toList := by
  rw [List.sum_eq_zero_iff_forall_eq_nat, List.forall_mem_map]
  constructor
  · intro unbroken source member
    exact breaks_eq_zero_iff.mp (unbroken _ member) source rfl
  · intro unbroken part member
    refine breaks_eq_zero_iff.mpr ?_
    rintro source rfl
    exact unbroken source member

end Template.Part

namespace CommandLine

open Keyword (Table)
open Template (Part Reads compile compile_of_reads)

/-- An output has one line for each part, and it is the part in a listing. -/
def OneLineEach (output : List Char) (parts : List Part) : Prop :=
  output.count '\n' = parts.length ∧
    output.splitOn '\n' = parts.map (fun part => part.listing.toList) ++ [[]]

theorem oneLineEach_lines_iff (parts : List Part) :
    OneLineEach (parts.flatMap Part.line) parts ↔
      ∀ source, .expression source ∈ parts → '\n' ∉ source.toList := by
  rw [← Part.sum_breaks_eq_zero_iff]
  constructor
  · rintro ⟨count, -⟩
    rw [Part.count_newline_lines] at count
    omega
  · intro unbroken
    have listings : ∀ line ∈ parts.map (fun part => part.listing.toList), '\n' ∉ line := by
      rw [List.forall_mem_map]
      intro part member
      rw [List.sum_eq_zero_iff_forall_eq_nat, List.forall_mem_map] at unbroken
      exact Part.newline_not_mem_listing (unbroken part member)
    refine ⟨by rw [Part.count_newline_lines, unbroken, Nat.add_zero], ?_⟩
    rw [← Text.splitOn_lines listings, List.flatMap_map]
    rfl

/-- The listing of a compiled template has a line break behind each part, and those that stand in
expressions.  With none of these every part has a line of its own, so it has in every template that
holds no line break, whatever its escapes write. -/
theorem compile_stdout_lines (environment : Environment) (files : Files) (verbose : Bool)
    (template : String) (filled : (compile Table.standard template).parts ≠ []) :
    let parts := (compile Table.standard template).parts
    let stdout := (Invocation.run { environment with color := false } files
      ⟨verbose, .compile template false⟩).stdout.toList
    stdout = parts.flatMap Part.line ∧
      stdout.count '\n' = parts.length + (parts.map Part.breaks).sum ∧
      (OneLineEach stdout parts ↔
        ∀ source, .expression source ∈ parts → '\n' ∉ source.toList) ∧
      ('\n' ∉ template.toList → OneLineEach stdout parts) := by
  intro parts stdout
  have lines : stdout = parts.flatMap Part.line := toList_partListing filled
  have iff_unbroken := oneLineEach_lines_iff parts
  rw [← lines] at iff_unbroken
  refine ⟨lines, ?_, iff_unbroken, ?_⟩
  · rw [lines, Part.count_newline_lines]
  · intro unbroken
    apply iff_unbroken.mpr
    intro source member broken
    have written := (Sample.expression_written member).2
    exact unbroken (written.subset (by simp [broken]))

def brokenSource : String := "\x7ba\nb\x7d"

theorem brokenSource_parts :
    (compile Table.standard brokenSource).parts = [.expression "a\nb"] := by
  have reading : Reads .standard brokenSource.toList [.expression "a\nb".toList] [] :=
    .next (.expression (by decide) rfl) .done
  exact compile_of_reads Table.standard_accepted reading

theorem brokenSource_filled : (compile Table.standard brokenSource).parts ≠ [] := by
  simp [brokenSource_parts]

theorem brokenSource_lines :
    (compile Table.standard brokenSource).parts ≠ [] ∧
      (Invocation.run {} (fun _ => .error .notFound)
        ⟨false, .compile brokenSource false⟩).stdout.toList.count '\n' = 2 := by
  obtain ⟨-, count, -⟩ :=
    compile_stdout_lines {} (fun _ => .error .notFound) false brokenSource brokenSource_filled
  refine ⟨brokenSource_filled, count.trans ?_⟩
  rw [brokenSource_parts]
  rfl

theorem brokenSource_not_oneLineEach :
    (compile Table.standard brokenSource).parts ≠ [] ∧
      ¬ OneLineEach (Invocation.run {} (fun _ => .error .notFound)
        ⟨false, .compile brokenSource false⟩).stdout.toList
          (compile Table.standard brokenSource).parts := by
  have printed : (Invocation.run {} (fun _ => .error .notFound)
      ⟨false, .compile brokenSource false⟩).stdout.toList =
        (compile Table.standard brokenSource).parts.flatMap Part.line :=
    toList_partListing brokenSource_filled
  refine ⟨brokenSource_filled, ?_⟩
  rw [printed, oneLineEach_lines_iff, brokenSource_parts]
  intro unbroken
  exact unbroken "a\nb" (List.mem_singleton.mpr rfl) (by decide)

end CommandLine

end Tracepoint
