import Tracepoint.Proofs.Scan
/-!
Token borders.  A template may be cut where no token reaches over the cut.  The side before the cut
reads on its own as it read before, and what a cursor makes of the side after it depends on nothing
that came before.
-/

namespace Tracepoint.Template

open Keyword (Table)

variable {table : Table} {text front back kept dropped rest : List Char} {read : List Token}
  {token : Token}

/-- A token that is read behind others begins before a byte offset and ends after it. -/
def Token.Straddles (token : Token) (before : List Token) (offset : Nat) : Prop :=
  Text.byteLength (before.flatMap Token.source) < offset ∧
    offset < Text.byteLength ((before ++ [token]).flatMap Token.source)

def TokenBorder (table : Table) (text : List Char) (offset : Nat) : Prop :=
  ∀ before token after, Reads table text (before ++ token :: after) [] →
    ¬ token.Straddles before offset

theorem Token.straddles_cons_iff (first : Token) (before : List Token) (offset : Nat) :
    token.Straddles (first :: before) (Text.byteLength first.source + offset) ↔
      token.Straddles before offset := by
  simp only [Straddles, List.cons_append, List.flatMap_cons, Text.byteLength_append,
    Nat.add_lt_add_iff_left]

theorem Construct.append (begun : Construct table text) (more : List Char) :
    Construct table (text ++ more) := by
  cases begun with
  | escape known => exact .escape known
  | keyword member begins => exact .keyword member (begins.trans (List.prefix_append _ _))
  | expression closed => exact .expression (List.mem_append_left _ closed)

theorem Next.cut
    (first : Next table (token.source ++ (kept ++ dropped)) token (kept ++ dropped)) :
    Next table (token.source ++ kept) token kept := by
  cases token with
  | escape letter meaning =>
    cases first with
    | escape known => exact .escape known
  | keyword found =>
    cases first with
    | keyword longest spelled =>
      rw [spelled, Keyword.isLongestMatch_append_iff] at longest
      refine .keyword (Keyword.isLongestMatch_append_iff.mpr ⟨longest.1, ?_⟩) rfl
      intro longer member more nonempty runsOn begins
      have further := begins.trans (List.prefix_append kept dropped)
      exact longest.2 longer member more nonempty runsOn further
  | expression source =>
    cases first with
    | expression unclosed _ => exact .expression unclosed (by simp)
  | literal c => exact .literal fun begun => first.not_construct (begun.append dropped)

theorem Reads.alone (reading : Reads table text read rest) :
    Reads table (read.flatMap Token.source) read [] := by
  induction reading with
  | done => exact .done
  | @next text between rest token read first others ih =>
    rcases first.source_append with rfl
-- Without the text after it the token is still the longest match.
    rw [others.source_append] at first
    exact .next first.cut ih

theorem exists_reads (table : Table) (text : List Char) : ∃ read, Reads table text read [] := by
  rcases compile_reads table (String.ofList text) with ⟨read, reading, -⟩
  rw [String.toList_ofList] at reading
  exact ⟨read, reading⟩

theorem Reads.exists_front (reading : Reads table text read rest)
    (finished : rest = []) (here : text = front ++ back)
    (border : ∀ before token after, read = before ++ token :: after →
      ¬ token.Straddles before (Text.byteLength front)) :
    ∃ ahead, Reads table text ahead back := by
  induction reading generalizing front with
  | done =>
    have nothing := List.append_eq_nil_iff.mp (here.symm.trans finished)
    rw [finished, nothing.2]
    exact ⟨[], .done⟩
  | @next text between rest token read first others ih =>
-- A token that does not straddle the border ends before it, unless the border is right here.
    by_cases start : front = []
    · rw [here, start]
      exact ⟨[], .done⟩
    · have within : Text.byteLength token.source ≤ Text.byteLength front := by
        have positive := Text.byteLength_pos start
        have clear := border [] token read rfl
        simp only [Token.Straddles, List.flatMap_nil, Text.byteLength_nil, List.nil_append,
          List.flatMap_singleton] at clear
        omega
      have begins : token.source <+: text := ⟨between, first.source_append.symm⟩
      rcases Text.begins_of_byteLength_le begins ⟨back, here.symm⟩ within with ⟨more, rfl⟩
      have after : between = more ++ back := by
        rw [first.source_append, List.append_assoc] at here
        exact List.append_cancel_left here
      have borderAfter : ∀ before other after, read = before ++ other :: after →
          ¬ other.Straddles before (Text.byteLength more) := by
        intro before other after same
        have clear := border (token :: before) other after (by rw [same, List.cons_append])
        rwa [Text.byteLength_append, Token.straddles_cons_iff] at clear
      rcases ih finished after borderAfter with ⟨ahead, reading⟩
      exact ⟨token :: ahead, .next first reading⟩

theorem tokenBorder_iff (accepted : table.Accepted) :
    TokenBorder table (front ++ back) (Text.byteLength front) ↔
      ∃ ahead, Reads table (front ++ back) ahead back := by
  rcases exists_reads table back with ⟨tail, tailReading⟩
  constructor
  · intro border
    rcases exists_reads table (front ++ back) with ⟨read, reading⟩
    apply reading.exists_front rfl rfl
    intro before token after same
    exact border before token after (same ▸ reading)
  · -- The reading up to the border goes on to the end as the only reading of the whole.
    rintro ⟨ahead, reading⟩ before token after whole ⟨begins, ends⟩
    have sources : front = ahead.flatMap Token.source :=
      List.append_cancel_right reading.source_append
    have same := (reading.append tailReading).unique accepted whole
    rw [sources] at begins ends
    rcases List.append_eq_append_iff.mp same with ⟨more, rfl, -⟩ | ⟨more, rfl, rest⟩
    · rw [List.flatMap_append, Text.byteLength_append] at begins
      omega
    · cases more with
      | nil => simp at begins
      | cons other more =>
        cases rest
        simp only [List.flatMap_append, List.flatMap_cons, List.flatMap_nil,
          Text.byteLength_append, Text.byteLength_nil] at ends
        omega

theorem Cursor.HasRead.toEnd_eq_fuse {s : Cursor} (accepted : table.Accepted)
    (sound : s.HasRead table text read) :
    (s.toEnd table).parts.toList =
      fuse s.closeText.parts.toList (compile table (String.ofList s.rest)).parts := by
  rcases sound.toEnd with ⟨more, reading, parts, -⟩
  rcases exists_reads table s.rest with ⟨tail, tailReading⟩
  have same := reading.unique accepted (sound.reads.append tailReading)
  have afterRest : (compile table (String.ofList s.rest)).parts = assemble tail := by
    apply compile_of_reads accepted
    rwa [String.toList_ofList]
  calc
    (s.toEnd table).parts.toList = assemble (read ++ tail) := by rw [parts, same]
    _ = fuse (assemble read) (assemble tail) := assemble_append_eq_fuse read tail
    _ = fuse s.closeText.parts.toList (compile table (String.ofList s.rest)).parts := by
      rw [sound.holds.closeText_parts, afterRest]

theorem compile_append_of_reads (accepted : table.Accepted) {front back : String}
    (reading : Reads table (front ++ back).toList read back.toList) :
    (compile table (front ++ back)).parts =
      fuse (compile table front).parts (compile table back).parts := by
  rcases compile_reads table back with ⟨tail, tailReading, tailParts, -⟩
  have written : front.toList ++ back.toList = read.flatMap Token.source ++ back.toList := by
    rw [← String.toList_append, reading.source_append]
  have alone : Reads table front.toList read [] :=
    List.append_cancel_right written ▸ reading.alone
  calc
    (compile table (front ++ back)).parts = assemble (read ++ tail) :=
      compile_of_reads accepted (reading.append tailReading)
    _ = fuse (assemble read) (assemble tail) := assemble_append_eq_fuse read tail
    _ = fuse (compile table front).parts (compile table back).parts := by
      rw [compile_of_reads accepted alone, tailParts]

/-- The two sides of a token border compile apart from each other, and whatever a cursor has met
and noted on its way, the rest of the template comes to what it comes to alone. -/
theorem compile_append (accepted : table.Accepted) {front back : String}
    (border : TokenBorder table (front ++ back).toList front.utf8ByteSize) :
    (compile table (front ++ back)).parts =
        fuse (compile table front).parts (compile table back).parts ∧
      ∀ template s, Cursor.Reached table template s →
        (s.toEnd table).parts.toList =
          fuse s.closeText.parts.toList (compile table (String.ofList s.rest)).parts := by
  constructor
  · rw [String.toList_append, ← Text.byteLength_toList] at border
    rcases (tokenBorder_iff accepted).mp border with ⟨ahead, reading⟩
    rw [← String.toList_append] at reading
    exact compile_append_of_reads accepted reading
  · intro template s reached
    rcases reached.hasRead with ⟨read, sound⟩
    exact sound.toEnd_eq_fuse accepted

theorem standard_tokenBorder :
    TokenBorder .standard ("\x7b$TID a" ++ "b \x7b$CALLER1").toList "\x7b$TID a".utf8ByteSize := by
  rw [String.toList_append, ← Text.byteLength_toList]
  apply (tokenBorder_iff Table.standard_accepted).mpr
  have written : "\x7b$TID a".toList ++ "b \x7b$CALLER1".toList =
      '{' :: '$' :: "TID ab \x7b$CALLER1".toList := by decide
  have brace : ¬ Construct .standard ('{' :: '$' :: "TID ab \x7b$CALLER1".toList) := by
    intro begun
    cases begun with
    | expression closed => exact absurd closed (by decide)
  have longest : Keyword.IsLongestMatch .standard "TID ab \x7b$CALLER1".toList
      ⟨"TID", .threadId, none, "Thread id"⟩ := ⟨by decide, by decide, by decide⟩
  have spelled : "TID ab \x7b$CALLER1".toList =
      "TID".toList ++ ([' ', 'a'] ++ "b \x7b$CALLER1".toList) := by decide
  have ordinary : ∀ c ∈ [' ', 'a'], isTrigger c = false := by simp [isTrigger]
  rw [written]
  exact ⟨_, .next (.literal brace) (.next (.keyword longest spelled) (.plain ordinary))⟩

theorem standard_append :
    Table.standard.Accepted ∧
      TokenBorder .standard ("\x7b$TID a" ++ "b \x7b$CALLER1").toList "\x7b$TID a".utf8ByteSize ∧
      (compile .standard ("\x7b$TID a" ++ "b \x7b$CALLER1")).parts =
        fuse (compile .standard "\x7b$TID a").parts (compile .standard "b \x7b$CALLER1").parts :=
  ⟨Table.standard_accepted, standard_tokenBorder,
    (compile_append Table.standard_accepted standard_tokenBorder).1⟩

end Tracepoint.Template
