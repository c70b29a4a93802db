import Tracepoint.Proofs.WellFormed
import Tracepoint.Template.Printer
/-!
The templates that compile to given parts.  Where no keyword name holds a character that an escape
stands for, a sequence of parts is the form of a template as soon as its keywords can be spelled so
that none runs on into the text after it; then its pieces, written one after the other, are such a
template.
-/

namespace Tracepoint.Template

open Keyword (Table IsLongestMatch)

variable {table : Table} {text after rest content more : List Char} {read : List Token}
  {parts : List Part} {pieces : List Piece} {found : Keyword}

def PlainNames (table : Table) : Prop :=
  ∀ keyword ∈ table.keywords, ∀ c ∈ keyword.name.toList, c ∉ escapes.map Prod.snd

/-- The name of a keyword does not run on into a text after it. -/
def Unswallowed (table : Table) : Piece → Piece → Prop
  | .keyword found, .text content =>
    ∀ longer ∈ table.keywords, ∀ more, more ≠ [] →
      longer.name.toList = found.name.toList ++ more → ¬ more <+: content
  | _, _ => True

/-- A choice of keywords for the keyword parts of a sequence. -/
structure Spells (table : Table) (pieces : List Piece) (parts : List Part) : Prop where
  parts_eq : pieces.map Piece.part = parts
  known : ∀ found, .keyword found ∈ pieces → found ∈ table.keywords
  unswallowed : pieces.IsChain (Unswallowed table)

/-! Written pieces are read back. -/

def quotedToken (c : Char) : Token := if isTrigger c then .escape c c else .literal c

def Piece.tokens : Piece → List Token
  | .text content => content.map quotedToken
  | .keyword found => [.keyword found]
  | .expression source => [.expression source]

theorem char?_quotedToken (c : Char) : (quotedToken c).char? = some c := by
  unfold quotedToken
  split <;> rfl

theorem trigger_mem_escapes {c : Char} (trigger : isTrigger c = true) : (c, c) ∈ escapes := by
  rw [← escaped?_eq_some_iff, escaped?, if_pos trigger]

theorem escapeText_trigger {c : Char} (trigger : isTrigger c = true) (content : List Char) :
    escapeText (c :: content) = '\\' :: c :: escapeText content := by
  simp [escapeText, trigger]

theorem escapeText_ordinary {c : Char} (ordinary : isTrigger c = false) (content : List Char) :
    escapeText (c :: content) = c :: escapeText content := by
  simp [escapeText, ordinary]

theorem reads_escapeText (table : Table) (content rest : List Char) :
    Reads table (escapeText content ++ rest) (content.map quotedToken) rest := by
  induction content with
  | nil => exact .done
  | cons c content ih =>
    cases kind : isTrigger c with
    | true =>
      rw [escapeText_trigger kind, List.map_cons, quotedToken, if_pos kind]
      exact .next (.escape (trigger_mem_escapes kind)) ih
    | false =>
      rw [escapeText_ordinary kind, List.map_cons, quotedToken, if_neg (by simp [kind])]
      exact .next (.plain kind) ih

theorem assemble_map_quotedToken (content : List Char) :
    assemble (content.map quotedToken) = textPart content := by
  have texts : ∀ token ∈ content.map quotedToken, token.char?.isSome := by
    simp [char?_quotedToken]
  have chars : (content.map quotedToken).filterMap Token.char? = content := by
    simp [List.filterMap_map, char?_quotedToken]
  rw [assemble_texts texts, chars]

theorem begins_of_begins_escapeText (ordinary : ∀ c ∈ more, isTrigger c = false)
    (stop : ∀ c ∈ rest.head?, isTrigger c = true) (begins : more <+: escapeText content ++ rest) :
    more <+: content := by
  induction content generalizing more with
  | nil =>
    cases more with
    | nil => exact List.nil_prefix
    | cons d more =>
      rcases begins with ⟨tail, same⟩
      have trigger := stop d (by simp [← show _ = rest from same])
      rw [ordinary d (by simp)] at trigger
      cases trigger
  | cons c content ih =>
    cases more with
    | nil => exact List.nil_prefix
    | cons d more =>
      rw [List.forall_mem_cons] at ordinary
      cases kind : isTrigger c with
      | true =>
        rw [escapeText_trigger kind, List.cons_append, List.cons_prefix_cons] at begins
        rw [begins.1] at ordinary
        exact absurd ordinary.1 (by decide)
      | false =>
        rw [escapeText_ordinary kind, List.cons_append, List.cons_prefix_cons] at begins
        rw [List.cons_prefix_cons]
        exact ⟨begins.1, ih ordinary.2 begins.2⟩

def Piece.Fits (table : Table) : Piece → Prop
  | .text content => content ≠ []
  | .keyword found => found ∈ table.keywords
  | .expression source => '}' ∉ source

def Piece.Borders (table : Table) (front back : Piece) : Prop :=
  front.part.Apart back.part ∧ Unswallowed table front back

theorem Piece.apart_of_text (apart : (Piece.text content :: pieces).IsChain (Piece.Borders table)) :
    ∀ next ∈ pieces.head?, next.part.isText = false := by
  intro next first
  simpa [Part.Apart, Piece.part, Part.isText] using ((List.isChain_cons.mp apart).1 next first).1

theorem Piece.trigger_of_head?_written (notText : ∀ next ∈ pieces.head?, next.part.isText = false) :
    ∀ c ∈ (pieces.flatMap Piece.written).head?, isTrigger c = true := by
  cases pieces with
  | nil => simp
  | cons piece pieces =>
    have notText := notText piece rfl
    cases piece with
    | text => cases notText
    | keyword | expression => simp [Piece.written, isTrigger]

theorem begins_text_of_begins_written (apart : pieces.IsChain (Piece.Borders table))
    (ordinary : ∀ c ∈ more, isTrigger c = false) (nonempty : more ≠ [])
    (begins : more <+: pieces.flatMap Piece.written) :
    ∃ content others, pieces = .text content :: others ∧ more <+: content := by
  by_cases notText : ∀ next ∈ pieces.head?, next.part.isText = false
  · -- Any piece but a text begins with a trigger, and `more` holds none.
    rcases List.exists_cons_of_ne_nil nonempty with ⟨d, more, rfl⟩
    rcases begins with ⟨tail, written⟩
    have trigger := Piece.trigger_of_head?_written notText d (by simp [← written])
    rw [ordinary d (by simp)] at trigger
    cases trigger
  · cases pieces with
    | nil => simp at notText
    | cons piece others =>
      cases piece with
      | text content =>
        have stop := Piece.trigger_of_head?_written (Piece.apart_of_text apart)
        exact ⟨content, others, rfl, begins_of_begins_escapeText ordinary stop begins⟩
      | keyword found => simp [Piece.part, Part.isText_ofKeyword] at notText
      | expression => simp [Piece.part, Part.isText] at notText

theorem PlainNames.ordinary (plain : PlainNames table) (member : found ∈ table.keywords) :
    ∀ c ∈ found.name.toList, isTrigger c = false := by
  intro c inside
  by_contra trigger
  have known := trigger_mem_escapes (by simpa using trigger)
  exact plain found member c inside (List.mem_map_of_mem known)

theorem longestMatch_written (plain : PlainNames table) (member : found ∈ table.keywords)
    (apart : (Piece.keyword found :: pieces).IsChain (Piece.Borders table)) :
    IsLongestMatch table (found.name.toList ++ pieces.flatMap Piece.written) found := by
  refine Keyword.isLongestMatch_append_iff.mpr ⟨member, ?_⟩
  intro longer longerMember more nonempty spelled begins
  have ordinary : ∀ c ∈ more, isTrigger c = false := by
    intro c inside
    exact plain.ordinary longerMember c (by simp [spelled, inside])
  rcases List.isChain_cons.mp apart with ⟨borders, others⟩
  -- A longer name runs on into a text that comes first, which the border rules out.
  rcases begins_text_of_begins_written others ordinary nonempty begins with
    ⟨content, rest, rfl, runsOn⟩
  exact (borders _ rfl).2 longer longerMember more nonempty spelled runsOn

theorem reads_written (plain : PlainNames table) (fits : ∀ piece ∈ pieces, piece.Fits table)
    (apart : pieces.IsChain (Piece.Borders table)) :
    Reads table (pieces.flatMap Piece.written) (pieces.flatMap Piece.tokens) [] := by
  induction pieces with
  | nil => exact .done
  | cons piece pieces ih =>
    rw [List.forall_mem_cons] at fits
    have others := ih fits.2 (List.isChain_cons.mp apart).2
    rw [List.flatMap_cons, List.flatMap_cons]
    cases piece with
    | text content => exact (reads_escapeText table content _).append others
    | keyword found => exact .next (.keyword (longestMatch_written plain fits.1 apart) rfl) others
    | expression source => exact .next (.expression fits.1 (by simp)) others

theorem Piece.head?_tokens (notText : ∀ next ∈ pieces.head?, next.part.isText = false) :
    (pieces.flatMap Piece.tokens).head?.bind Token.char? = none := by
  cases pieces with
  | nil => rfl
  | cons piece pieces =>
    have notText := notText piece rfl
    cases piece with
    | text => cases notText
    | keyword | expression => rfl

theorem assemble_pieces (fits : ∀ piece ∈ pieces, piece.Fits table)
    (apart : pieces.IsChain (Piece.Borders table)) :
    assemble (pieces.flatMap Piece.tokens) = pieces.map Piece.part := by
  induction pieces with
  | nil => rfl
  | cons piece pieces ih =>
    rw [List.forall_mem_cons] at fits
    rw [List.flatMap_cons, List.map_cons, ← ih fits.2 (List.isChain_cons.mp apart).2]
    cases piece with
    | text content =>
      have stop := Piece.head?_tokens (Piece.apart_of_text apart)
      have nonempty : content.isEmpty = false := List.isEmpty_eq_false_iff.mpr fits.1
      rw [Piece.tokens, assemble_append (.inr stop), assemble_map_quotedToken, textPart, nonempty]
      rfl
    | keyword found => exact assemble_cons_of_apart rfl
    | expression source => exact assemble_cons_of_apart rfl

theorem Spells.fits (spelled : Spells table pieces parts) (shape : WellFormed table parts) :
    ∀ piece ∈ pieces, piece.Fits table := by
  rcases spelled with ⟨rfl, known, -⟩
  intro piece member
  cases piece with
  | text content =>
    intro empty
    subst empty
    exact shape.texts (List.mem_map_of_mem member)
  | keyword found => exact known found member
  | expression source =>
    have unclosed := shape.sources (String.ofList source) (List.mem_map_of_mem member)
    rwa [String.toList_ofList] at unclosed

theorem Spells.borders (spelled : Spells table pieces parts) (shape : WellFormed table parts) :
    pieces.IsChain (Piece.Borders table) := by
  rcases spelled with ⟨rfl, -, unswallowed⟩
  have apart := (List.isChain_map _).mp shape.apart
  rw [List.isChain_iff_getElem] at *
  intro i inside
  exact ⟨apart i inside, unswallowed i inside⟩

theorem compile_ofPieces (accepted : table.Accepted) (plain : PlainNames table)
    (shape : WellFormed table parts) (spelled : Spells table pieces parts) :
    (compile table (ofPieces pieces)).parts = parts := by
  have fits := spelled.fits shape
  have borders := spelled.borders shape
  have reading : Reads table (ofPieces pieces).toList (pieces.flatMap Piece.tokens) [] := by
    rw [ofPieces, String.toList_ofList]
    exact reads_written plain fits borders
  calc
    (compile table (ofPieces pieces)).parts = assemble (pieces.flatMap Piece.tokens) :=
      compile_of_reads accepted reading
    _ = pieces.map Piece.part := assemble_pieces fits borders
    _ = parts := spelled.parts_eq

/-! Every reading is spelled by its keywords. -/

def Token.piece : Token → Piece
  | .escape _ meaning => .text [meaning]
  | .literal c => .text [c]
  | .keyword found => .keyword found
  | .expression source => .expression source

theorem Token.part_piece (token : Token) : token.piece.part = token.part := by
  cases token with
  | escape | literal => exact congrArg Part.text String.singleton_eq_ofList.symm
  | keyword | expression => rfl

theorem filterMap_keyword?_of_char? {token : Token} {c : Char} (adds : token.char? = some c)
    (read : List Token) :
    (token :: read).filterMap Token.keyword? = read.filterMap Token.keyword? := by
  refine List.filterMap_cons_none ?_
  cases token <;> cases adds <;> rfl

theorem spell_cons (token : Token) (read : List Token) (parts : List Part) :
    spell (token.part :: parts) ((token :: read).filterMap Token.keyword?) =
      token.piece :: spell parts (read.filterMap Token.keyword?) := by
  cases token with
  | escape | literal =>
    rw [filterMap_keyword?_of_char? rfl, Token.part, spell, String.toList_singleton]
    rfl
  | keyword found =>
    rw [List.filterMap_cons_some (f := Token.keyword?) rfl, Token.part, Part.ofKeyword]
    split <;> rfl
  | expression source =>
    rw [List.filterMap_cons_none (f := Token.keyword?) rfl, Token.part, spell,
      String.toList_ofList]
    rfl

theorem mem_of_mem_spell {keywords : List Keyword}
    (member : .keyword found ∈ spell parts keywords) : found ∈ keywords := by
  fun_induction spell parts keywords with
  | case1 content parts keywords ih | case2 source parts keywords ih =>
    exact ih (by simpa using member)
  | case3 kind argument parts other keywords ih | case4 kind parts other keywords ih =>
    rcases List.mem_cons.mp member with same | later
    · cases same
      exact List.mem_cons_self
    · exact List.mem_cons_of_mem _ (ih later)
  | case5 => cases member

theorem text_of_head?_spell {keywords : List Keyword}
    (first : (spell parts keywords).head? = some (.text content)) :
    ∃ back others, parts = .text back :: others ∧ back.toList = content := by
  revert first
  fun_cases spell parts keywords with
  | case1 back parts keywords =>
    intro first
    cases first
    exact ⟨back, parts, rfl, rfl⟩
  | case2 | case3 | case4 | case5 => intro first; cases first

/-- The raw text agrees with a text part as far as no escape is involved. -/
theorem begins_of_begins_assemble {content : String} {others : List Part}
    (reading : Reads table text read rest) (first : assemble read = .text content :: others)
    (ordinary : ∀ c ∈ more, c ∉ escapes.map Prod.snd) (begins : more <+: content.toList) :
    more <+: text := by
  induction reading generalizing content others more with
  | done => cases first
  | @next text between rest token read next _ ih =>
    cases more with
    | nil => exact List.nil_prefix
    | cons d more =>
      rw [List.forall_mem_cons] at ordinary
      -- Whether or not the token's text runs on, its character is `d` and `more` comes next.
      obtain ⟨adds, tail⟩ : token.char? = some d ∧ more <+: between := by
        rcases assemble_cons_cases token read with
          ⟨c, back, parts, adds, backText, joined⟩ | joined
        · rw [joined] at first
          cases first
          rw [String.toList_append, String.toList_singleton, List.singleton_append,
            List.cons_prefix_cons] at begins
          rw [begins.1]
          exact ⟨adds, ih backText ordinary.2 begins.2⟩
        · rw [joined, List.cons.injEq] at first
          rcases Token.char?_of_part first.1 with ⟨c, adds, rfl⟩
          rw [String.toList_singleton, List.cons_prefix_cons, List.prefix_nil] at begins
          rw [begins.1, begins.2]
          exact ⟨adds, List.nil_prefix⟩
      cases next with
      | escape known =>
        cases adds
        exact absurd (List.mem_map_of_mem known) ordinary.1
      | literal =>
        cases adds
        exact List.cons_prefix_cons.mpr ⟨rfl, tail⟩
      | _ => cases adds

theorem map_part_spell (read : List Token) :
    (spell (assemble read) (read.filterMap Token.keyword?)).map Piece.part = assemble read := by
  induction read with
  | nil => rfl
  | cons token read ih =>
    rcases assemble_cons_cases token read with ⟨c, back, parts, adds, backText, joined⟩ | joined
    · rw [backText, spell, List.map_cons, List.cons.injEq] at ih
      rw [joined, filterMap_keyword?_of_char? adds, spell, List.map_cons, ih.2, Piece.part,
        String.ofList_toList]
    · rw [joined, spell_cons, List.map_cons, token.part_piece, ih]

theorem Reads.unswallowed (plain : PlainNames table) (reading : Reads table text read rest) :
    (spell (assemble read) (read.filterMap Token.keyword?)).IsChain (Unswallowed table) := by
  induction reading with
  | done => exact .nil
  | @next text between rest token read first others ih =>
    rcases assemble_cons_cases token read with ⟨c, back, parts, adds, backText, joined⟩ | joined
    · rw [backText, spell] at ih
      rw [joined, filterMap_keyword?_of_char? adds, spell]
      exact .imp_head (x := Piece.text back.toList) (fun _ => trivial) ih
    · rw [joined, spell_cons]
      apply ih.cons
      intro next ahead
      cases token with
      | keyword found =>
        cases next with
        | text content =>
          rcases text_of_head?_spell ahead with ⟨back, parts, shape, rfl⟩
          intro longer member more nonempty spelled inside
          have ordinary : ∀ c ∈ more, c ∉ escapes.map Prod.snd := by
            intro c runsOn
            exact plain longer member c (by simp [spelled, runsOn])
          -- What runs on in the text part runs on in the template, where the match was longest.
          have begins := begins_of_begins_assemble others shape ordinary inside
          cases first with
          | keyword longest ahead =>
            rw [ahead] at longest
            have stops := (Keyword.isLongestMatch_append_iff.mp longest).2
            exact stops longer member more nonempty spelled begins
        | keyword | expression => trivial
      | _ => trivial

theorem Reads.spells (plain : PlainNames table) (reading : Reads table text read rest) :
    Spells table (spell (assemble read) (read.filterMap Token.keyword?)) (assemble read) where
  parts_eq := map_part_spell read
  known := by
    intro found member
    rcases List.mem_filterMap.mp (mem_of_mem_spell member) with ⟨token, taken, same⟩
    cases token <;> cases same
    exact reading.keyword_mem taken
  unswallowed := reading.unswallowed plain

theorem compile_image (accepted : table.Accepted) (plain : PlainNames table) :
    (∀ parts, (∃ template, (compile table template).parts = parts) ↔
      WellFormed table parts ∧ ∃ pieces, Spells table pieces parts) ∧
    (∀ parts pieces, WellFormed table parts → Spells table pieces parts →
      (compile table (ofPieces pieces)).parts = parts) ∧
    (∀ template, (compile table (ofPieces (spell (compile table template).parts
      ((Cursor.atStart template).keywordsAhead table)))).parts =
        (compile table template).parts) := by
  refine ⟨?_, ?_, ?_⟩
  · intro parts
    constructor
    · intro compiled
      rcases compiled with ⟨template, rfl⟩
      rcases compile_reads table template with ⟨read, reading, parts, -⟩
      rw [parts]
      exact ⟨reading.wellFormed, _, reading.spells plain⟩
    · intro spelled
      rcases spelled with ⟨shape, pieces, spelled⟩
      exact ⟨ofPieces pieces, compile_ofPieces accepted plain shape spelled⟩
  · intro parts pieces shape spelled
    exact compile_ofPieces accepted plain shape spelled
  · intro template
    rcases compile_reads table template with ⟨read, reading, parts, taken⟩
    rw [parts, ← taken]
    exact compile_ofPieces accepted plain reading.wellFormed (reading.spells plain)

theorem standard_plainNames : PlainNames .standard := by
  have letters : ∀ keyword ∈ Table.standard.keywords,
      keyword.name.toList.all Char.isAlphanum = true := by
    decide
  have others : ∀ c ∈ escapes.map Prod.snd, c.isAlphanum = false := by
    simp [escapes]
  intro keyword member c inside escaped
  have letter := List.all_eq_true.mp (letters keyword member) c inside
  rw [others c escaped] at letter
  cases letter

theorem not_spells_callStack_five (pieces : List Piece) :
    ¬ Spells .standard pieces [.numbered .callStack 20, .text "5"] := by
  rintro ⟨same, known, unswallowed⟩
  rcases List.map_eq_cons_iff.mp same with ⟨first, others, rfl, firstPart, same⟩
  rcases List.map_eq_cons_iff.mp same with ⟨second, others, rfl, secondPart, -⟩
  have named : ∀ keyword ∈ Table.standard.keywords,
      Part.ofKeyword keyword = .numbered .callStack 20 → keyword.name = "CALLSTACK" := by
    decide
  cases first with
  | text | expression => cases firstPart
  | keyword found =>
    have name := named found (known found List.mem_cons_self) firstPart
    cases second with
    | expression => cases secondPart
    | keyword other =>
      have noText := Part.isText_ofKeyword other
      rw [show Part.ofKeyword other = .text "5" from secondPart] at noText
      cases noText
    | text content =>
      have five : content = ['5'] := by
        rw [Piece.part, Part.text.injEq] at secondPart
        exact String.ofList_injective secondPart
      have swallows := (List.isChain_cons_cons.mp unswallowed).1
      apply swallows (Keyword.callStack "CALLSTACK5" 5) (by decide) ['5'] (by decide)
      · rw [name]
        decide
      · exact five ▸ List.prefix_rfl

theorem wellFormed_callStack_six : WellFormed .standard [.numbered .callStack 20, .text "6"] where
  apart := by simp [Part.Apart, Part.isText]
  texts := by decide
  sources := by simp
  numbered := by
    intro kind argument member
    rw [List.mem_pair] at member
    rcases member with same | same <;> cases same
    exact ⟨Keyword.callStack "CALLSTACK" 20, by decide, rfl, rfl⟩
  plain := by simp

theorem spells_callStack_six :
    Spells .standard [.keyword (Keyword.callStack "CALLSTACK" 20), .text ['6']]
      [.numbered .callStack 20, .text "6"] where
  parts_eq := by decide
  known := by
    intro found member
    rw [List.mem_pair] at member
    rcases member with same | same <;> cases same
    decide
  unswallowed := by
    refine List.isChain_pair.mpr ?_
    intro longer member more nonempty spelled begins
    have runsOn : ∀ keyword ∈ Table.standard.keywords,
        keyword.name.toList ≠ "CALLSTACK6".toList := by
      decide
    cases more with
    | nil => exact nonempty rfl
    | cons c more =>
      rw [List.cons_prefix_cons, List.prefix_nil] at begins
      rw [begins.1, begins.2] at spelled
      exact runsOn longer member spelled

/-- A five after the call stack of twenty frames is never kept apart, a six always is. -/
theorem standard_image :
    Table.standard.Accepted ∧ PlainNames .standard ∧
      (¬ ∃ template, (compile .standard template).parts =
        [.numbered .callStack 20, .text "5"]) ∧
      WellFormed .standard [.numbered .callStack 20, .text "6"] ∧
      Spells .standard [.keyword (Keyword.callStack "CALLSTACK" 20), .text ['6']]
        [.numbered .callStack 20, .text "6"] ∧
      (compile .standard "$CALLSTACK6").parts = [.numbered .callStack 20, .text "6"] := by
  rcases compile_image Table.standard_accepted standard_plainNames with ⟨image, printed, -⟩
  refine ⟨Table.standard_accepted, standard_plainNames, ?_, wellFormed_callStack_six,
    spells_callStack_six, ?_⟩
  · intro compiled
    rcases (image _).mp compiled with ⟨-, pieces, spelled⟩
    exact not_spells_callStack_five pieces spelled
  · have template : ofPieces [.keyword (Keyword.callStack "CALLSTACK" 20), .text ['6']] =
        "$CALLSTACK6" := by
      decide
    rw [← template]
    exact printed _ _ wellFormed_callStack_six spells_callStack_six

end Tracepoint.Template
