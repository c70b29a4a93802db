import Mathlib.Data.List.Infix
import Tracepoint.Proofs.Printing
import Tracepoint.Proofs.TokenBorder
/-!
Texts that come out of compiling as they went in.  A template does so just when nothing in it begins
an escape, a keyword or an expression: `compile_eq_text_iff`.  Any text does so with its triggers
escaped, in front of any template: `compile_quoteText_append`.
-/

namespace Tracepoint.Template

open Keyword (Table)

variable {table : Table} {text : List Char} {tokens : List Token} {content template : String}

/-- No escape, keyword or expression begins anywhere in a text. -/
structure Inert (table : Table) (text : List Char) : Prop where
  escape : ∀ letter ∈ escapes.map Prod.fst, ¬ ['\\', letter] <:+: text
  keyword : ∀ keyword ∈ table.keywords, ¬ '$' :: keyword.name.toList <:+: text
  expression : ∀ after, '{' :: after <:+ text → '}' ∉ after

def quoteText (content : String) : String := String.ofList (escapeText content.toList)

def putText (content : String) : List Part → List Part
  | .text back :: parts => .text (content ++ back) :: parts
  | parts => if content = "" then parts else .text content :: parts

theorem inert_iff : Inert table text ↔ ∀ rest, rest <:+ text → ¬ Construct table rest := by
  constructor
  · intro inert rest inside begun
    cases begun with
    | @escape letter meaning after known =>
      have written : ['\\', letter] <+: '\\' :: letter :: after := ⟨after, rfl⟩
      exact inert.escape letter (List.mem_map_of_mem known)
        (written.isInfix.trans inside.isInfix)
    | @keyword found after member begins =>
      have written : '$' :: found.name.toList <+: '$' :: after :=
        List.cons_prefix_cons.mpr ⟨rfl, begins⟩
      exact inert.keyword found member (written.isInfix.trans inside.isInfix)
    | @expression after closed => exact inert.expression after inside closed
  · intro plain
    constructor
    · intro letter known written
      rcases List.mem_map.mp known with ⟨⟨_, meaning⟩, pair, rfl⟩
      rcases List.infix_iff_prefix_suffix.mp written with ⟨_, ⟨after, rfl⟩, inside⟩
      exact plain _ inside (.escape pair)
    · intro keyword member written
      rcases List.infix_iff_prefix_suffix.mp written with ⟨_, ⟨after, rfl⟩, inside⟩
      exact plain _ inside (.keyword member (List.prefix_append _ _))
    · intro after inside closed
      exact plain _ inside (.expression closed)

instance Inert.decidable (table : Table) (text : List Char) : Decidable (Inert table text) :=
  decidable_of_iff (∀ rest ∈ text.tails, ¬ Construct table rest) (by simp [inert_iff])

theorem reads_literals_iff : Reads table text (text.map Token.literal) [] ↔ Inert table text := by
  rw [inert_iff]
  induction text with
  | nil =>
    constructor
    · intro _ rest inside begun
      rw [List.suffix_nil.mp inside] at begun
      cases begun
    · intro _
      exact .done
  | cons c text ih =>
    simp only [List.suffix_cons_iff, forall_eq_or_imp, ← ih]
    constructor
    · intro reading
      cases reading with
      | next first others =>
        have here : c :: text = c :: _ := first.source_append
        cases here
        exact ⟨first.not_construct, others⟩
    · intro plain
      exact .next (.literal plain.1) plain.2

theorem compile_of_inert (accepted : table.Accepted) (inert : Inert table template.toList) :
    (compile table template).parts = textPart template.toList := by
  have chars : (template.toList.map Token.literal).filterMap Token.char? = template.toList := by
    simp [List.filterMap_map, Function.comp_def, Token.char?]
  rw [compile_of_reads accepted (reads_literals_iff.mpr inert),
    assemble_texts (by simp [Token.char?]), chars]

theorem textPart_toList (filled : content ≠ "") : textPart content.toList = [.text content] := by
  simp [textPart, filled]

theorem filterMap_char?_of_assemble (single : assemble tokens = [.text content]) :
    tokens.filterMap Token.char? = content.toList := by
  have texts : ∀ token ∈ tokens, token.char?.isSome := by
    intro token member
    rw [← token.isText_part]
    by_contra other
    have apart : token.part.isText = false := by simpa using other
    have inside : token.part ∈ assemble tokens := (mem_assemble_iff apart).mpr ⟨token, member, rfl⟩
    rw [single, List.mem_singleton] at inside
    rw [inside] at apart
    cases apart
  rw [assemble_texts texts] at single
  unfold textPart at single
  split at single
  case isTrue => cases single
  case isFalse =>
    cases single
    rw [String.toList_ofList]

theorem Token.eq_literal_or_char?_lt (token : Token) :
    (∃ c, token = .literal c) ∨ token.char?.toList.length < token.source.length := by
  cases token with
  | literal c => exact .inl ⟨c, rfl⟩
  | escape | keyword | expression => exact .inr (by simp [char?, source])

theorem length_filterMap_char?_cons (token : Token) (tokens : List Token) :
    ((token :: tokens).filterMap Token.char?).length =
      token.char?.toList.length + (tokens.filterMap Token.char?).length := by
  cases adds : token.char? with
  | none => simp [adds]
  | some c => simp [adds, Nat.add_comm]

theorem length_filterMap_char?_le (tokens : List Token) :
    (tokens.filterMap Token.char?).length ≤ (tokens.flatMap Token.source).length := by
  induction tokens with
  | nil => rfl
  | cons token tokens ih =>
    rw [length_filterMap_char?_cons, List.flatMap_cons, List.length_append]
    rcases token.eq_literal_or_char?_lt with ⟨c, rfl⟩ | shorter
    · exact Nat.add_le_add_left ih 1
    · omega

/-- Tokens that stand for what they are written with are literal characters: any other token adds
fewer characters to a text than it takes. -/
theorem eq_map_literal (same : tokens.filterMap Token.char? = tokens.flatMap Token.source) :
    tokens = (tokens.flatMap Token.source).map Token.literal := by
  induction tokens with
  | nil => rfl
  | cons token tokens ih =>
    rcases token.eq_literal_or_char?_lt with ⟨c, rfl⟩ | shorter
    · have others : tokens.filterMap Token.char? = tokens.flatMap Token.source := by
        simpa [Token.char?, Token.source] using same
      exact congrArg (Token.literal c :: ·) (ih others)
    · have sizes := congrArg List.length same
      have othersLe := length_filterMap_char?_le tokens
      rw [length_filterMap_char?_cons, List.flatMap_cons, List.length_append] at sizes
      omega

/-- A template is kept as it stands just when nothing in it begins an escape, a keyword or an
expression. -/
theorem compile_eq_text_iff (accepted : table.Accepted) (filled : template ≠ "") :
    (compile table template).parts = [.text template] ↔ Inert table template.toList := by
  constructor
  · intro kept
    rcases compile_reads table template with ⟨read, reading, parts, -⟩
    have sources : read.flatMap Token.source = template.toList := by
      rw [reading.source_append, List.append_nil]
    have chars : read.filterMap Token.char? = read.flatMap Token.source := by
      rw [filterMap_char?_of_assemble (parts.symm.trans kept), sources]
    rw [← reads_literals_iff, ← sources, ← eq_map_literal chars, sources]
    exact reading
  · intro inert
    rw [compile_of_inert accepted inert, textPart_toList filled]

theorem malformed_kept :
    Table.standard.Accepted ∧ "\\q$caller\x7bé$$\x7b\\" ≠ "" ∧
      Inert .standard "\\q$caller\x7bé$$\x7b\\".toList ∧
      (compile .standard "\\q$caller\x7bé$$\x7b\\").parts =
        [.text "\\q$caller\x7bé$$\x7b\\"] := by
  have filled : "\\q$caller\x7bé$$\x7b\\" ≠ "" := by decide
  have inert : Inert .standard "\\q$caller\x7bé$$\x7b\\".toList := by decide
  exact ⟨Table.standard_accepted, filled, inert,
    (compile_eq_text_iff Table.standard_accepted filled).mpr inert⟩

/-! Escaped text. -/

theorem fuse_textPart (content : String) (parts : List Part) :
    fuse (textPart content.toList) parts = putText content parts := by
  by_cases empty : content = ""
  · subst empty
    cases parts with
    | nil => rfl
    | cons part parts => cases part <;> simp [textPart, fuse, putText]
  · rw [textPart_toList empty, fuse]
    cases parts with
    | nil => simp [Part.joinTo, putText, empty]
    | cons part parts => cases part <;> simp [Part.joinTo, putText, empty]

theorem reads_quoteText_append (table : Table) (content after : String) :
    Reads table (quoteText content ++ after).toList (content.toList.map quotedToken)
      after.toList := by
  rw [quoteText, String.toList_append, String.toList_ofList]
  exact reads_escapeText table content.toList after.toList

theorem compile_quoteText (accepted : table.Accepted) (content : String) :
    (compile table (quoteText content)).parts = textPart content.toList := by
  have reading := reads_quoteText_append table content ""
  rw [String.append_empty] at reading
  rw [compile_of_reads accepted reading, assemble_map_quotedToken]

/-- Whatever a template holds, an escaped text in front of it neither changes it nor is changed. -/
theorem compile_quoteText_append (accepted : table.Accepted) (content : String) :
    (∀ after, (compile table (quoteText content ++ after)).parts =
        putText content (compile table after).parts) ∧
      (content ≠ "" → (compile table (quoteText content)).parts = [.text content]) := by
  constructor
  · intro after
    calc
      (compile table (quoteText content ++ after)).parts =
          fuse (compile table (quoteText content)).parts (compile table after).parts :=
        compile_append_of_reads accepted (reads_quoteText_append table content after)
      _ = fuse (textPart content.toList) (compile table after).parts := by
        rw [compile_quoteText accepted]
      _ = putText content (compile table after).parts := fuse_textPart content _
  · intro filled
    rw [compile_quoteText accepted, textPart_toList filled]

theorem standard_quoteText :
    Table.standard.Accepted ∧
      (compile .standard (quoteText "\\\\n\x7b$CALL" ++ "ER5\x7d")).parts =
        [.text "\\\\n\x7b$CALLER5\x7d"] ∧
      "\\\\n\x7b$CALL" ≠ "" ∧
      (compile .standard (quoteText "\\\\n\x7b$CALL")).parts = [.text "\\\\n\x7b$CALL"] := by
  have behind : (compile .standard "ER5\x7d").parts = [.text "ER5\x7d"] :=
    compile_of_inert Table.standard_accepted (by decide)
  have filled : "\\\\n\x7b$CALL" ≠ "" := by decide
  refine ⟨Table.standard_accepted, ?_, filled,
    (compile_quoteText_append Table.standard_accepted _).2 filled⟩
  rw [(compile_quoteText_append Table.standard_accepted _).1, behind]
  rfl

end Tracepoint.Template
