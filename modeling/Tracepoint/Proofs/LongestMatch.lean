import Mathlib.Data.List.Nodup
import Tracepoint.Keyword.Standard
/-!
Accepted keyword tables, and what a look-up finds in one.  Two names that stand at one place are
prefixes of each other, so among names that differ the longest is one keyword:
`match?_eq_some_iff`.
-/

namespace Tracepoint.Text

theorem begins_of_byteLength_le {front other text : List Char} (begins : front <+: text)
    (otherBegins : other <+: text) (size : byteLength front ≤ byteLength other) :
    front <+: other := by
  rcases List.prefix_or_prefix_of_prefix begins otherBegins with inside | inside
  · exact inside
  · rcases inside with ⟨more, rfl⟩
    by_cases empty : more = []
    · simp [empty]
    · have positive := byteLength_pos empty
      rw [byteLength_append] at size
      omega

end Tracepoint.Text

namespace Tracepoint.Keyword

/-- A keyword whose name begins the text, with no longer name of the table beginning it. -/
structure IsLongestMatch (table : Table) (text : List Char) (found : Keyword) : Prop where
  mem : found ∈ table.keywords
  begins : found.name.toList <+: text
  longest : ∀ other ∈ table.keywords, other.name.toList <+: text →
    other.nameLength ≤ found.nameLength

theorem isLongestMatch_append_iff {table : Table} {after : List Char} {found : Keyword} :
    IsLongestMatch table (found.name.toList ++ after) found ↔ found ∈ table.keywords ∧
      ∀ longer ∈ table.keywords, ∀ more, more ≠ [] →
        longer.name.toList = found.name.toList ++ more → ¬ more <+: after := by
  constructor
  · intro longestMatch
    refine ⟨longestMatch.mem, ?_⟩
    intro longer member more nonempty spelled inside
    have begins : longer.name.toList <+: found.name.toList ++ after := by
      rwa [spelled, List.prefix_append_right_inj]
    have size := longestMatch.longest longer member begins
    have positive := Text.byteLength_pos nonempty
    rw [nameLength, nameLength, spelled, Text.byteLength_append] at size
    omega
  · intro stops
    refine ⟨stops.1, List.prefix_append _ _, ?_⟩
    intro longer member begins
    by_contra shorter
    have size : found.nameLength ≤ longer.nameLength := by omega
    rcases Text.begins_of_byteLength_le (List.prefix_append _ _) begins size with ⟨more, spelled⟩
    rw [← spelled, List.prefix_append_right_inj] at begins
    have nonempty : more ≠ [] := by
      intro empty
      rw [empty, List.append_nil] at spelled
      exact shorter (Nat.le_of_eq (congrArg Text.byteLength spelled.symm))
    exact stops.2 longer member more nonempty spelled.symm begins

theorem rejection?_eq_none_iff {keyword : Keyword} :
    keyword.rejection? = none ↔ keyword.name ≠ "" ∧ keyword.kind.isKeyword = true ∧
      keyword.kind.takesArgument = keyword.argument.isSome := by
  unfold rejection? mismatch?
  by_cases unnamed : keyword.name = ""
  · simp [unnamed]
  · cases kind : keyword.kind.isKeyword <;> cases takes : keyword.kind.takesArgument <;>
      cases argument : keyword.argument <;> simp [unnamed]

namespace Table

variable {table : Table} {text : List Char} {found other : Keyword}

/-- Tables that the check of their keywords lets through. -/
def Accepted (table : Table) : Prop := ∃ keywords, ofKeywords? keywords = .ok table

theorem firstRejection?_eq_none_iff (seen : List String) (keywords : List Keyword) :
    firstRejection? seen keywords = none ↔
      (∀ keyword ∈ keywords, keyword.rejection? = none) ∧
        (keywords.map Keyword.name).Nodup ∧ ∀ keyword ∈ keywords, keyword.name ∉ seen := by
  induction keywords generalizing seen with
  | nil => simp [firstRejection?]
  | cons first rest ih =>
    rw [firstRejection?]
    cases fit : first.rejection? with
    | some rejection => simp [fit]
    | none =>
      by_cases known : first.name ∈ seen
      · simp [known]
      · have seenNext : (∀ keyword ∈ rest, keyword.name ∉ first.name :: seen) ↔
            first.name ∉ rest.map Keyword.name ∧ ∀ keyword ∈ rest, keyword.name ∉ seen := by
          simp only [List.mem_cons, not_or, List.mem_map, not_exists, not_and, forall_and]
        simp only [known, if_false, ih, seenNext, List.forall_mem_cons, List.map_cons,
          List.nodup_cons, fit]
        tauto

theorem ofKeywords?_eq_ok_iff {keywords : List Keyword} :
    ofKeywords? keywords = .ok table ↔
      firstRejection? [] keywords = none ∧ table = ofKeywords keywords := by
  unfold ofKeywords?
  cases firstRejection? [] keywords <;> simp [eq_comm]

theorem exists_ofKeywords?_iff {keywords : List Keyword} :
    (∃ table, ofKeywords? keywords = .ok table) ↔
      (∀ keyword ∈ keywords, keyword.rejection? = none) ∧ (keywords.map Keyword.name).Nodup := by
  have checks := firstRejection?_eq_none_iff [] keywords
  constructor
  · intro built
    rcases built with ⟨table, built⟩
    have checked := checks.mp (ofKeywords?_eq_ok_iff.mp built).1
    exact ⟨checked.1, checked.2.1⟩
  · intro checked
    exact ⟨ofKeywords keywords,
      ofKeywords?_eq_ok_iff.mpr ⟨checks.mpr ⟨checked.1, checked.2, by simp⟩, rfl⟩⟩

theorem accepted_iff :
    table.Accepted ↔ (∀ keyword ∈ table.keywords, keyword.rejection? = none) ∧
      (table.keywords.map Keyword.name).Nodup := by
  rw [← exists_ofKeywords?_iff]
  constructor
  · intro accepted
    rcases accepted with ⟨keywords, built⟩
    rcases ofKeywords?_eq_ok_iff.mp built with ⟨-, rfl⟩
    exact ⟨_, built⟩
  · intro built
    rcases built with ⟨other, built⟩
    have same : table = other := by
      rcases ofKeywords?_eq_ok_iff.mp built with ⟨-, rfl⟩
      rcases table with ⟨keywords, ranking, rfl⟩
      rfl
    exact ⟨table.keywords, same ▸ built⟩

theorem standard_accepted : standard.Accepted := by
  apply accepted_iff.mpr
  constructor
  · decide
  · decide

theorem Accepted.fits (accepted : table.Accepted) (member : found ∈ table.keywords) :
    found.name ≠ "" ∧ found.kind.isKeyword = true ∧
      found.kind.takesArgument = found.argument.isSome :=
  rejection?_eq_none_iff.mp ((accepted_iff.mp accepted).1 found member)

theorem Accepted.eq_of_name_eq (accepted : table.Accepted) (member : found ∈ table.keywords)
    (otherMember : other ∈ table.keywords) (same : found.name = other.name) : found = other :=
  List.inj_on_of_nodup_map (accepted_iff.mp accepted).2 member otherMember same

theorem rank_perm (keywords : List Keyword) : (rank keywords).Perm keywords.zipIdx :=
  List.mergeSort_perm _ _

theorem matchOrder_perm (table : Table) : table.matchOrder.Perm table.keywords := by
  have order := (rank_perm table.keywords).map Prod.fst
  rw [List.zipIdx_map_fst] at order
  rw [matchOrder, table.ranking_eq]
  exact order

theorem longestFirst_trans (front middle back : Keyword × Nat)
    (first : decide (middle.1.nameLength ≤ front.1.nameLength) = true)
    (second : decide (back.1.nameLength ≤ middle.1.nameLength) = true) :
    decide (back.1.nameLength ≤ front.1.nameLength) = true := by
  rw [decide_eq_true_eq] at *
  omega

theorem longestFirst_total (front back : Keyword × Nat) :
    (decide (back.1.nameLength ≤ front.1.nameLength) ||
      decide (front.1.nameLength ≤ back.1.nameLength)) = true := by
  rw [Bool.or_eq_true, decide_eq_true_eq, decide_eq_true_eq]
  omega

theorem rank_descending (keywords : List Keyword) :
    (rank keywords).Pairwise fun front back => back.1.nameLength ≤ front.1.nameLength := by
  have ordered : (rank keywords).Pairwise fun front back =>
      decide (back.1.nameLength ≤ front.1.nameLength) :=
    List.pairwise_mergeSort longestFirst_trans longestFirst_total _
  exact ordered.imp (by simp)

theorem matchOrder_descending (table : Table) :
    table.matchOrder.Pairwise fun front back => back.nameLength ≤ front.nameLength := by
  rw [matchOrder, table.ranking_eq, List.pairwise_map]
  exact rank_descending table.keywords

/-- Keywords whose names have one length are ranked as they are authored. -/
theorem rank_filter (keywords : List Keyword) (length : Nat) :
    (rank keywords).filter (·.1.nameLength == length) =
      keywords.zipIdx.filter (·.1.nameLength == length) := by
  let level := keywords.zipIdx.filter (·.1.nameLength == length)
  have sameLength : ∀ entry ∈ level, entry.1.nameLength = length := by
    intro entry member
    simpa using (List.mem_filter.mp member).2
  have ordered : level.Pairwise fun front back =>
      decide (back.1.nameLength ≤ front.1.nameLength) := by
    rw [List.pairwise_iff_forall_sublist]
    intro front back pair
    simp [sameLength front (pair.subset (by simp)), sameLength back (pair.subset (by simp))]
  -- Sorting is stable, so what is in order before it stays a sublist.
  have inside : level.Sublist (rank keywords) :=
    List.sublist_mergeSort longestFirst_trans longestFirst_total ordered List.filter_sublist
  have insideLevel := inside.filter (·.1.nameLength == length)
  rw [List.filter_eq_self.mpr (by simpa using sameLength)] at insideLevel
  have sameSize := ((rank_perm keywords).filter (·.1.nameLength == length)).length_eq
  exact (insideLevel.eq_of_length sameSize.symm).symm

theorem matchOrder_filter (table : Table) (length : Nat) :
    table.matchOrder.filter (·.nameLength == length) =
      table.keywords.filter (·.nameLength == length) := by
  have ranked := congrArg (List.map Prod.fst) (rank_filter table.keywords length)
  have fromPairs (pairs : List (Keyword × Nat)) :
      (pairs.filter (·.1.nameLength == length)).map Prod.fst =
        (pairs.map Prod.fst).filter (·.nameLength == length) := by
    rw [List.filter_map]
    rfl
  rw [fromPairs, fromPairs, List.zipIdx_map_fst] at ranked
  rw [matchOrder, table.ranking_eq]
  exact ranked

theorem match?_isLongestMatch (matched : table.match? text = some found) :
    IsLongestMatch table text found := by
  rcases List.find?_eq_some_iff_append.mp matched with ⟨begins, front, back, order, none⟩
  have descending := table.matchOrder_descending
  have perm := table.matchOrder_perm
  rw [order] at descending perm
  refine ⟨perm.mem_iff.mp (by simp), List.isPrefixOf_iff_prefix.mp begins, ?_⟩
  intro other member otherBegins
  have place := perm.mem_iff.mpr member
  simp only [List.mem_append, List.mem_cons] at place
  rcases place with inFront | rfl | inBack
  · -- What comes before the first name that begins the text does not begin it.
    have unmatched := none other inFront
    simp [List.isPrefixOf_iff_prefix.mpr otherBegins] at unmatched
  · exact Nat.le_refl _
  · have fromFound := (List.pairwise_append.mp descending).2.1
    exact (List.pairwise_cons.mp fromFound).1 other inBack

theorem match?_eq_none_iff :
    table.match? text = none ↔ ∀ other ∈ table.keywords, ¬ other.name.toList <+: text := by
  simp only [match?, List.find?_eq_none, table.matchOrder_perm.mem_iff,
    List.isPrefixOf_iff_prefix]

theorem Accepted.longestMatch_unique (accepted : table.Accepted)
    (foundMatch : IsLongestMatch table text found)
    (otherMatch : IsLongestMatch table text other) : found = other := by
  -- Neither name is longer than the other, and both begin the text: each begins the other.
  have front := Text.begins_of_byteLength_le foundMatch.begins otherMatch.begins
    (otherMatch.longest found foundMatch.mem foundMatch.begins)
  have back := Text.begins_of_byteLength_le otherMatch.begins foundMatch.begins
    (foundMatch.longest other otherMatch.mem otherMatch.begins)
  have same : found.name.toList = other.name.toList :=
    front.eq_of_length (Nat.le_antisymm front.length_le back.length_le)
  exact accepted.eq_of_name_eq foundMatch.mem otherMatch.mem (String.toList_inj.mp same)

theorem Accepted.match?_eq_some_iff (accepted : table.Accepted) :
    table.match? text = some found ↔ IsLongestMatch table text found := by
  constructor
  · exact match?_isLongestMatch
  · intro longest
    cases matched : table.match? text with
    | none => exact absurd longest.begins (match?_eq_none_iff.mp matched found longest.mem)
    | some other => rw [accepted.longestMatch_unique longest (match?_isLongestMatch matched)]

theorem Accepted.get?_eq_some_iff {name : String} (accepted : table.Accepted) :
    table.get? name = some found ↔ found ∈ table.keywords ∧ found.name = name := by
  constructor
  · intro got
    exact ⟨List.mem_of_find?_eq_some got, by simpa using List.find?_some got⟩
  · intro named
    cases got : table.get? name with
    | none =>
      have unknown := List.find?_eq_none.mp got found named.1
      simp [named.2] at unknown
    | some other =>
      have otherName : other.name = name := by simpa using List.find?_some got
      rw [accepted.eq_of_name_eq named.1 (List.mem_of_find?_eq_some got)
        (named.2.trans otherName.symm)]

end Table

end Tracepoint.Keyword
