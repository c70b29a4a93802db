import Mathlib.Data.List.Chain
import Tracepoint.Proofs.Scan
/-!
The shape of compiled templates.  Texts are never empty and never meet, expressions hold no closing
brace, and every other part comes from a keyword of the table.  The assertions that guard this
while a template is read hold in every run: `compileAsserting?_eq_some`.
-/

namespace Tracepoint.Template

open Keyword (Table)

variable {table : Table} {text rest : List Char} {read tokens : List Token} {parts : List Part}
  {part : Part}

structure WellFormed (table : Table) (parts : List Part) : Prop where
  apart : parts.IsChain Part.Apart
  texts : .text "" ∉ parts
  sources : ∀ source, .expression source ∈ parts → '}' ∉ source.toList
  numbered : ∀ kind argument, .numbered kind argument ∈ parts →
    ∃ keyword ∈ table.keywords, keyword.kind = kind ∧ keyword.argument = some argument
  plain : ∀ kind, .plain kind ∈ parts →
    ∃ keyword ∈ table.keywords, keyword.kind = kind ∧ keyword.argument = none

namespace Part

theorem ofKeyword_eq_numbered_iff {keyword : Keyword} {kind : Kind} {argument : UInt32} :
    ofKeyword keyword = .numbered kind argument ↔
      keyword.kind = kind ∧ keyword.argument = some argument := by
  cases here : keyword.argument <;> simp [ofKeyword, here]

theorem ofKeyword_eq_plain_iff {keyword : Keyword} {kind : Kind} :
    ofKeyword keyword = .plain kind ↔ keyword.kind = kind ∧ keyword.argument = none := by
  cases here : keyword.argument <;> simp [ofKeyword, here]

theorem joinTo_isChain (part : Part) (apart : parts.IsChain Apart) :
    (part.joinTo parts).IsChain Apart := by
  rcases part.joinTo_cases parts with ⟨front, back, others, rfl, rfl, joined⟩ | ⟨border, joined⟩
  · rw [joined]
    exact .imp_head (x := Part.text back) (y := Part.text (front ++ back)) (fun next => next) apart
  · rw [joined]
    exact apart.cons border

theorem empty_not_mem_joinTo (filled : part ≠ .text "") (others : .text "" ∉ parts) :
    .text "" ∉ part.joinTo parts := by
  rcases part.joinTo_cases parts with ⟨front, back, rest, rfl, rfl, joined⟩ | ⟨-, joined⟩
  · rw [List.mem_cons, not_or] at others
    rw [joined, List.mem_cons, not_or]
    constructor
    · intro empty
      have both := String.append_eq_empty_iff.mp (Part.text.inj empty).symm
      exact filled (congrArg Part.text both.1)
    · exact others.2
  · rw [joined, List.mem_cons, not_or]
    exact ⟨filled.symm, others⟩

end Part

theorem assemble_isChain (tokens : List Token) : (assemble tokens).IsChain Part.Apart := by
  induction tokens with
  | nil => exact .nil
  | cons token tokens ih => exact token.part.joinTo_isChain ih

theorem empty_not_mem_assemble (tokens : List Token) : .text "" ∉ assemble tokens := by
  induction tokens with
  | nil => simp
  | cons token tokens ih =>
    have filled : token.part ≠ .text "" := by
      cases token with
      | keyword found => cases here : found.argument <;> simp [Token.part, Part.ofKeyword, here]
      | _ => simp [Token.part]
    exact Part.empty_not_mem_joinTo filled ih

theorem mem_assemble_iff (apart : part.isText = false) :
    part ∈ assemble tokens ↔ ∃ token ∈ tokens, token.part = part := by
  induction tokens with
  | nil => simp
  | cons token tokens ih => simp [Part.mem_joinTo_iff apart, ih, eq_comm]

theorem expression_mem_assemble_iff {source : String} :
    .expression source ∈ assemble tokens ↔ .expression source.toList ∈ tokens := by
  rw [mem_assemble_iff rfl]
  constructor
  · rintro ⟨token, member, same⟩
    cases token with
    | expression chars =>
      cases same
      rwa [String.toList_ofList]
    | keyword found =>
      cases here : found.argument <;> simp [Token.part, Part.ofKeyword, here] at same
    | _ => cases same
  · intro member
    exact ⟨_, member, congrArg Part.expression String.ofList_toList⟩

theorem Reads.keyword_mem {found : Keyword} (reading : Reads table text read rest)
    (member : .keyword found ∈ read) : found ∈ table.keywords := by
  induction reading with
  | done => cases member
  | next first _ ih =>
    rcases List.mem_cons.mp member with rfl | later
    · cases first with
      | keyword longest => exact longest.mem
    · exact ih later

theorem Reads.brace_not_mem {source : List Char} (reading : Reads table text read rest)
    (member : .expression source ∈ read) : '}' ∉ source := by
  induction reading with
  | done => cases member
  | next first _ ih =>
    rcases List.mem_cons.mp member with rfl | later
    · cases first with
      | expression first => exact first
    · exact ih later

theorem Reads.exists_keyword (reading : Reads table text read rest)
    (member : part ∈ assemble read) (apart : part.isText = false)
    (other : ∀ source, part ≠ .expression source) :
    ∃ keyword ∈ table.keywords, Part.ofKeyword keyword = part := by
  rcases (mem_assemble_iff apart).mp member with ⟨token, taken, rfl⟩
  cases token with
  | keyword found => exact ⟨found, reading.keyword_mem taken, rfl⟩
  | expression source => exact absurd rfl (other _)
  | _ => cases apart

theorem Reads.wellFormed (reading : Reads table text read rest) :
    WellFormed table (assemble read) where
  apart := assemble_isChain read
  texts := empty_not_mem_assemble read
  sources := by
    intro source member
    exact reading.brace_not_mem (expression_mem_assemble_iff.mp member)
  numbered := by
    intro kind argument member
    rcases reading.exists_keyword member rfl (by simp) with ⟨keyword, known, same⟩
    exact ⟨keyword, known, Part.ofKeyword_eq_numbered_iff.mp same⟩
  plain := by
    intro kind member
    rcases reading.exists_keyword member rfl (by simp) with ⟨keyword, known, same⟩
    exact ⟨keyword, known, Part.ofKeyword_eq_plain_iff.mp same⟩

/-! Compiling with the assertions of a debug build: no result when one of them fails. -/

namespace Cursor

def addPart? (part : Part) (s : Cursor) : Option Cursor :=
  if part.isText then none else some (s.addPart part)

def readKeyword? (table : Table) (after : List Char) (s : Cursor) : Option Cursor :=
  match table.match? after with
  | some keyword =>
    (s.addPart? (.ofKeyword keyword)).map
      (moveTo (1 + keyword.nameLength) (after.drop keyword.name.toList.length))
  | none => some (s.readKeyword table after)

def readExpression? (after : List Char) (s : Cursor) : Option Cursor :=
  match s.splitAtBrace? after with
  | some (source, beyond) =>
    (s.addPart? (.expression (String.ofList source))).map
      (moveTo (Text.byteLength source + 2) beyond)
  | none => some (s.readExpression after)

def advance? (table : Table) (s : Cursor) : Option Cursor :=
  let s := s.skipPlain
  match s.rest with
  | [] => some s
  | '\\' :: after => some (s.readEscape after)
  | '$' :: after => s.readKeyword? table after
  | _ :: after => s.readExpression? after

theorem addPart?_ofKeyword (keyword : Keyword) (s : Cursor) :
    s.addPart? (.ofKeyword keyword) = some (s.addPart (.ofKeyword keyword)) := by
  rw [addPart?, Part.isText_ofKeyword]
  rfl

theorem readKeyword?_eq_some (table : Table) (after : List Char) (s : Cursor) :
    s.readKeyword? table after = some (s.readKeyword table after) := by
  unfold readKeyword?
  split
  case h_1 keyword matched => rw [addPart?_ofKeyword, readKeyword, matched]; rfl
  case h_2 => rfl

theorem readExpression?_eq_some (after : List Char) (s : Cursor) :
    s.readExpression? after = some (s.readExpression after) := by
  unfold readExpression?
  split
  case h_1 source beyond found => rw [readExpression, found]; rfl
  case h_2 => rfl

theorem advance?_eq_some (table : Table) (s : Cursor) :
    s.advance? table = some (s.advance table) := by
  simp only [advance?, advance]
  cases here : s.skipPlain.rest with
  | nil => rfl
  | cons c after =>
    by_cases backslash : c = '\\'
    · subst backslash
      rfl
    · by_cases dollar : c = '$'
      · subst dollar
        exact readKeyword?_eq_some table after s.skipPlain
      · simpa only [backslash, dollar] using readExpression?_eq_some after s.skipPlain

def toEnd? (table : Table) (s : Cursor) : Option Cursor :=
  if _ : s.rest = [] then
    let final := s.closeText
    if final.openText.isEmpty then some final else none
  else
    match _ : s.advance? table with
    | some next => next.toEnd? table
    | none => none
termination_by s.rest.length
decreasing_by
  rename_i unread advanced
  rw [advance?_eq_some, Option.some.injEq] at advanced
  rw [← advanced]
  exact advance_rest_length_lt table unread

theorem toEnd?_eq_some (table : Table) (s : Cursor) : s.toEnd? table = some (s.toEnd table) := by
  fun_induction toEnd table s with
  | case1 s done =>
    rw [toEnd?, dif_pos done]
    simp
  | case2 s unread ih =>
    rw [toEnd?, dif_neg unread]
    split
    case h_1 next advanced =>
      rw [advance?_eq_some, Option.some.injEq] at advanced
      rw [← advanced, ih]
    case h_2 failed =>
      rw [advance?_eq_some] at failed
      cases failed

end Cursor

def textsMeet : List Part → Bool
  | front :: back :: parts => (front.isText && back.isText) || textsMeet (back :: parts)
  | _ => false

theorem textsMeet_eq_false {parts : List Part} (apart : parts.IsChain Part.Apart) :
    textsMeet parts = false := by
  induction apart with
  | nil => rfl
  | singleton => rfl
  | @cons_cons front back parts border _ ih =>
    have noMeeting : (front.isText && back.isText) = false := by
      simpa [Part.Apart, ← Bool.not_eq_true] using border
    rw [textsMeet, noMeeting, ih]
    rfl

def compileAsserting? (table : Table) (template : String) : Option Compilation :=
  match (Cursor.atStart template).toEnd? table with
  | some final =>
    let parts := final.parts.toList
    if textsMeet parts then none
    else
      some ⟨parts,
        (final.events.push (.templateCompiled template.utf8ByteSize parts.length)).toList⟩
  | none => none

theorem compileAsserting?_eq_some (table : Table) (template : String) :
    compileAsserting? table template = some (compile table template) := by
  rcases compile_reads table template with ⟨read, reading, parts, -⟩
  have apart : textsMeet (compile table template).parts = false := by
    rw [parts]
    exact textsMeet_eq_false reading.wellFormed.apart
  rw [compileAsserting?, Cursor.toEnd?_eq_some]
  exact if_neg (Bool.eq_false_iff.mp apart)

theorem compile_wellFormed (accepted : table.Accepted) (template : String) :
    WellFormed table (compile table template).parts ∧
      (∀ kind argument, .numbered kind argument ∈ (compile table template).parts →
        kind.takesArgument = true) ∧
      (∀ kind, .plain kind ∈ (compile table template).parts →
        kind.isKeyword = true ∧ kind.takesArgument = false) ∧
      compileAsserting? table template = some (compile table template) := by
  rcases compile_reads table template with ⟨read, reading, parts, -⟩
  have shape : WellFormed table (compile table template).parts := parts ▸ reading.wellFormed
  refine ⟨shape, ?_, ?_, compileAsserting?_eq_some table template⟩
  · intro kind argument member
    rcases shape.numbered kind argument member with ⟨keyword, known, rfl, given⟩
    have fits := accepted.fits known
    rw [fits.2.2, given]
    rfl
  · intro kind member
    rcases shape.plain kind member with ⟨keyword, known, rfl, missing⟩
    have fits := accepted.fits known
    refine ⟨fits.2.1, ?_⟩
    rw [fits.2.2, missing]
    rfl

theorem standard_wellFormed :
    Table.standard.Accepted ∧
      WellFormed .standard (compile .standard "\x7ba$TID\x7d\\n$CALLER").parts ∧
      compileAsserting? .standard "\x7ba$TID\x7d\\n$CALLER" =
        some (compile .standard "\x7ba$TID\x7d\\n$CALLER") := by
  obtain ⟨shape, -, -, asserted⟩ :=
    compile_wellFormed Table.standard_accepted "\x7ba$TID\x7d\\n$CALLER"
  exact ⟨Table.standard_accepted, shape, asserted⟩

end Tracepoint.Template
