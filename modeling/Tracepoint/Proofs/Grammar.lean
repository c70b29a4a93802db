import Tracepoint.Proofs.LongestMatch
import Tracepoint.Template.Token
/-!
The grammar of templates.  A template is read one token at a time, and which token comes next
depends only on the text ahead.  In an accepted table a text has one reading: `Reads.unique`.
-/

namespace Tracepoint.Template

open Keyword (Table IsLongestMatch)

def escapes : List (Char × Char) :=
  [('\\', '\\'), ('$', '$'), ('{', '{'), ('a', '\x07'), ('b', '\x08'), ('f', '\x0c'),
    ('n', '\n'), ('r', '\r'), ('t', '\t'), ('v', '\x0b')]

theorem escaped?_eq_some_iff {letter meaning : Char} :
    escaped? letter = some meaning ↔ (letter, meaning) ∈ escapes := by
  constructor
  · intro known
    unfold escaped? at known
    split at known
    case isTrue trigger =>
      simp only [isTrigger, Bool.or_eq_true, beq_iff_eq] at trigger
      cases known
      rcases trigger with (rfl | rfl) | rfl <;> decide
    case isFalse =>
      unfold controlEscape? at known
      split at known <;> cases known <;> decide
  · intro known
    simp only [escapes, List.mem_cons, Prod.mk.injEq, List.not_mem_nil, or_false] at known
    rcases known with ⟨rfl, rfl⟩ | ⟨rfl, rfl⟩ | ⟨rfl, rfl⟩ | ⟨rfl, rfl⟩ | ⟨rfl, rfl⟩ |
      ⟨rfl, rfl⟩ | ⟨rfl, rfl⟩ | ⟨rfl, rfl⟩ | ⟨rfl, rfl⟩ | ⟨rfl, rfl⟩ <;> rfl

variable {table : Table} {text between rest : List Char} {token : Token} {read : List Token}

/-- Texts that begin with something other than a literal character. -/
inductive Construct (table : Table) : List Char → Prop
  | escape {letter meaning : Char} {after : List Char} (known : (letter, meaning) ∈ escapes) :
    Construct table ('\\' :: letter :: after)
  | keyword {found : Keyword} {after : List Char} (member : found ∈ table.keywords)
    (begins : found.name.toList <+: after) : Construct table ('$' :: after)
  | expression {after : List Char} (closed : '}' ∈ after) : Construct table ('{' :: after)

/-- The token that a text begins with, and the text after it. -/
inductive Next (table : Table) : List Char → Token → List Char → Prop
  | escape {letter meaning : Char} {after : List Char} (known : (letter, meaning) ∈ escapes) :
    Next table ('\\' :: letter :: after) (.escape letter meaning) after
  | keyword {ahead after : List Char} {found : Keyword}
    (longest : IsLongestMatch table ahead found) (spelled : ahead = found.name.toList ++ after) :
    Next table ('$' :: ahead) (.keyword found) after
  | expression {ahead source after : List Char} (first : '}' ∉ source)
    (closed : ahead = source ++ '}' :: after) : Next table ('{' :: ahead) (.expression source) after
  | literal {c : Char} {after : List Char} (plain : ¬ Construct table (c :: after)) :
    Next table (c :: after) (.literal c) after

/-- A text is read as a sequence of tokens, up to the rest. -/
inductive Reads (table : Table) : List Char → List Token → List Char → Prop
  | done {text : List Char} : Reads table text [] text
  | next {text between rest : List Char} {token : Token} {read : List Token}
    (first : Next table text token between) (others : Reads table between read rest) :
    Reads table text (token :: read) rest

theorem Construct.trigger {c : Char} (begun : Construct table (c :: rest)) :
    isTrigger c = true := by
  cases begun <;> rfl

theorem not_construct_backslash_iff : ¬ Construct table ('\\' :: rest) ↔
    ∀ letter ∈ rest.head?, letter ∉ escapes.map Prod.fst := by
  constructor
  · intro plain letter first known
    rcases List.mem_map.mp known with ⟨⟨_, meaning⟩, pair, rfl⟩
    rcases List.head?_eq_some_iff.mp first with ⟨after, rfl⟩
    exact plain (.escape pair)
  · intro inert begun
    cases begun with
    | escape known => exact inert _ rfl (List.mem_map_of_mem known)

theorem not_construct_dollar_iff : ¬ Construct table ('$' :: rest) ↔
    ∀ keyword ∈ table.keywords, ¬ keyword.name.toList <+: rest := by
  constructor
  · intro plain keyword member begins
    exact plain (.keyword member begins)
  · intro unknown begun
    cases begun with
    | keyword member begins => exact unknown _ member begins

theorem not_construct_brace_iff : ¬ Construct table ('{' :: rest) ↔ '}' ∉ rest := by
  constructor
  · intro plain closed
    exact plain (.expression closed)
  · intro unclosed begun
    cases begun with
    | expression closed => exact unclosed closed

theorem construct_backslash_iff :
    Construct table ('\\' :: rest) ↔ (rest.head?.bind escaped?).isSome = true := by
  constructor
  · intro begun
    cases begun with
    | escape known => simp [escaped?_eq_some_iff.mpr known]
  · intro known
    cases rest with
    | nil => cases known
    | cons letter after =>
      rcases Option.isSome_iff_exists.mp known with ⟨meaning, known⟩
      exact .escape (escaped?_eq_some_iff.mp known)

instance Construct.decidable (table : Table) : DecidablePred (Construct table)
  | [] => .isFalse nofun
  | c :: rest =>
    if backslash : c = '\\' then
      decidable_of_iff ((rest.head?.bind escaped?).isSome = true)
        (backslash ▸ construct_backslash_iff.symm)
    else if dollar : c = '$' then
      decidable_of_iff (¬ ∀ keyword ∈ table.keywords, ¬ keyword.name.toList <+: rest)
        (dollar ▸ not_iff_comm.mp not_construct_dollar_iff)
    else if brace : c = '{' then
      decidable_of_iff (¬ '}' ∉ rest) (brace ▸ not_iff_comm.mp not_construct_brace_iff)
    else
      .isFalse fun begun => by simpa [isTrigger, backslash, dollar, brace] using begun.trigger

theorem takeWhile_append_brace {source after : List Char} (first : '}' ∉ source) :
    (source ++ '}' :: after).takeWhile (· != '}') = source := by
  have other : ∀ c ∈ source, (c != '}') = true := by
    intro c member
    simpa using ne_of_mem_of_not_mem member first
  rw [List.takeWhile_append_of_pos other]
  simp

namespace Next

theorem source_append (first : Next table text token rest) : text = token.source ++ rest := by
  cases first with
  | escape => rfl
  | keyword _ spelled => rw [spelled]; rfl
  | expression _ closed => rw [closed]; simp [Token.source]
  | literal => rfl

theorem plain {c : Char} (ordinary : isTrigger c = false) :
    Next table (c :: rest) (.literal c) rest := by
  apply Next.literal
  intro begun
  rw [begun.trigger] at ordinary
  cases ordinary

theorem not_construct {c : Char} (first : Next table text (.literal c) rest) :
    ¬ Construct table text := by
  cases first
  assumption

theorem construct (first : Next table text token rest) (other : ∀ c, token ≠ .literal c) :
    Construct table text := by
  cases first with
  | escape known => exact .escape known
  | keyword longest => exact .keyword longest.mem longest.begins
  | expression _ closed => exact .expression (by simp [closed])
  | literal => exact absurd rfl (other _)

theorem unique {otherToken : Token} {otherRest : List Char} (accepted : table.Accepted)
    (first : Next table text token rest) (other : Next table text otherToken otherRest) :
    token = otherToken := by
  cases first with
  | escape known =>
    cases other with
    | escape otherKnown =>
      have meaning := escaped?_eq_some_iff.mpr known
      rw [escaped?_eq_some_iff.mpr otherKnown] at meaning
      cases meaning
      rfl
    | literal plain => exact absurd (.escape known) plain
  | keyword longest =>
    cases other with
    | keyword otherLongest => rw [accepted.longestMatch_unique longest otherLongest]
    | literal plain => exact absurd (.keyword longest.mem longest.begins) plain
  | expression first closed =>
    cases other with
    | expression otherFirst otherClosed =>
      rw [← takeWhile_append_brace first, ← closed, otherClosed,
        takeWhile_append_brace otherFirst]
    | literal plain => exact absurd (.expression (by simp [closed])) plain
  | literal plain =>
    by_cases literal : ∃ c, otherToken = .literal c
    · rcases literal with ⟨c, rfl⟩
      cases other
      rfl
    · have begun := other.construct (by simpa using literal)
      exact absurd begun plain

end Next

namespace Reads

theorem source_append (reading : Reads table text read rest) :
    text = read.flatMap Token.source ++ rest := by
  induction reading with
  | done => simp
  | next first _ ih => rw [first.source_append, ih, List.flatMap_cons, List.append_assoc]

theorem append {more : List Token} (front : Reads table text read between)
    (back : Reads table between more rest) : Reads table text (read ++ more) rest := by
  induction front with
  | done => exact back
  | next first _ ih => exact .next first (ih back)

theorem of_append {more : List Token} (reading : Reads table text (read ++ more) rest) :
    ∃ between, Reads table text read between ∧ Reads table between more rest := by
  induction read generalizing text with
  | nil => exact ⟨text, .done, reading⟩
  | cons token read ih =>
    cases reading with
    | next first others =>
      rcases ih others with ⟨between, front, back⟩
      exact ⟨between, .next first front, back⟩

theorem concat (front : Reads table text read between) (last : Next table between token rest) :
    Reads table text (read ++ [token]) rest :=
  front.append (.next last .done)

theorem plain {run : List Char} (ordinary : ∀ c ∈ run, isTrigger c = false) :
    Reads table (run ++ rest) (run.map Token.literal) rest := by
  induction run with
  | nil => exact .done
  | cons c run ih =>
    rw [List.forall_mem_cons] at ordinary
    exact .next (.plain ordinary.1) (ih ordinary.2)

theorem eq_nil (reading : Reads table text read text) : read = [] := by
  have sources := reading.source_append
  rw [List.self_eq_append_left, List.flatMap_eq_nil_iff] at sources
  cases read with
  | nil => rfl
  | cons first _ => exact absurd (sources first (by simp)) first.source_ne_nil

theorem unique {other : List Token} (accepted : table.Accepted)
    (reading : Reads table text read rest) (otherReading : Reads table text other rest) :
    read = other := by
  induction reading generalizing other with
  | done => exact otherReading.eq_nil.symm
  | next first others ih =>
    cases otherReading with
    | done => exact (Reads.next first others).eq_nil
    | next otherFirst otherOthers =>
      rcases first.unique accepted otherFirst with rfl
      have same := first.source_append.symm.trans otherFirst.source_append
      rcases List.append_cancel_left same with rfl
      rw [ih otherOthers]

end Reads

end Tracepoint.Template
