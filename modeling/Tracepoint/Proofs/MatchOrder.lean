import Tracepoint.Proofs.LongestMatch
/-!
The order in which a table tries its keywords, as places in the authored order.  Longer names come
first and names of one length stay as authored, which leaves one order: `isMatchOrder_iff`.  A name
then never comes before a longer one that begins with it, and the assertions that guard this while
a table is built hold for keywords that are fit on their own, named apart or not.
-/

namespace Tracepoint.Keyword

/-- Whether the keyword at one place is to be tried before the keyword at another: a longer name
goes first, and of two names of one length the one authored first. -/
def TriedBefore (keywords : List Keyword) (front back : Nat) : Prop :=
  ∀ first ∈ keywords[front]?, ∀ second ∈ keywords[back]?,
    second.nameLength ≤ first.nameLength ∧ (second.nameLength = first.nameLength → front < back)

instance (keywords : List Keyword) : DecidableRel (TriedBefore keywords) := fun front back =>
  inferInstanceAs (Decidable (∀ first ∈ keywords[front]?, ∀ second ∈ keywords[back]?,
    second.nameLength ≤ first.nameLength ∧ (second.nameLength = first.nameLength → front < back)))

structure IsMatchOrder (keywords : List Keyword) (places : List Nat) : Prop where
  perm : places.Perm (List.range keywords.length)
  ordered : places.Pairwise (TriedBefore keywords)

def IsProperPrefix (name other : String) : Prop :=
  name.toList <+: other.toList ∧ name ≠ other

def beginsLonger (keyword other : Keyword) : Bool :=
  decide (keyword.nameLength < other.nameLength) &&
    keyword.name.toList.isPrefixOf other.name.toList

def prefixesFollow : List Keyword → Bool
  | [] => true
  | earlier :: later => later.all (!earlier.beginsLonger ·) && prefixesFollow later

/-- A table of keywords that are taken as they are, built with the assertions of a debug build: no
table when one of them fails. -/
def Table.ofKeywordsAsserting? (keywords : List Keyword) : Option Table :=
  if keywords.all (·.rejection?.isNone) then
    let table := ofKeywords keywords
    if prefixesFollow table.matchOrder then some table else none
  else none

variable {keywords : List Keyword} {places : List Nat}

theorem IsProperPrefix.nameLength_lt {keyword other : Keyword}
    (begins : IsProperPrefix keyword.name other.name) : keyword.nameLength < other.nameLength := by
  rcases begins with ⟨⟨more, spelled⟩, differ⟩
  have nonempty : more ≠ [] := by
    intro empty
    rw [empty, List.append_nil] at spelled
    exact differ (String.toList_inj.mp spelled)
  have positive := Text.byteLength_pos nonempty
  rw [nameLength, nameLength, ← spelled, Text.byteLength_append]
  omega

theorem beginsLonger_iff {keyword other : Keyword} :
    keyword.beginsLonger other = true ↔ IsProperPrefix keyword.name other.name := by
  rw [beginsLonger, Bool.and_eq_true, decide_eq_true_eq, List.isPrefixOf_iff_prefix]
  constructor
  · rintro ⟨shorter, begins⟩
    refine ⟨begins, ?_⟩
    intro same
    rw [nameLength, nameLength, same] at shorter
    exact Nat.lt_irrefl _ shorter
  · intro begins
    exact ⟨begins.nameLength_lt, begins.1⟩

theorem prefixesFollow_iff :
    prefixesFollow keywords = true ↔
      keywords.Pairwise fun earlier later => ¬ IsProperPrefix earlier.name later.name := by
  induction keywords with
  | nil => simp [prefixesFollow]
  | cons earlier later ih => simp [prefixesFollow, ih, ← beginsLonger_iff]

namespace IsMatchOrder

theorem lt_length (order : IsMatchOrder keywords places) {place : Nat} (member : place ∈ places) :
    place < keywords.length :=
  List.mem_range.mp (order.perm.mem_iff.mp member)

theorem unique {others : List Nat} (order : IsMatchOrder keywords places)
    (otherOrder : IsMatchOrder keywords others) : places = others := by
  refine List.Perm.eq_of_pairwise ?_ order.ordered otherOrder.ordered
    (order.perm.trans otherOrder.perm.symm)
  -- Of two places each would have to be tried before the other.
  intro front back member otherMember before after
  have first := List.getElem?_eq_getElem (order.lt_length member)
  have second := List.getElem?_eq_getElem (otherOrder.lt_length otherMember)
  have forth := before _ first _ second
  have back := after _ second _ first
  omega

end IsMatchOrder

namespace Table

theorem rank_ordered (keywords : List Keyword) :
    (rank keywords).Pairwise fun front back => back.1.nameLength ≤ front.1.nameLength ∧
      (back.1.nameLength = front.1.nameLength → front.2 < back.2) := by
  rw [List.pairwise_iff_forall_sublist]
  intro front back pair
  constructor
  · exact List.pairwise_iff_forall_sublist.mp (rank_descending keywords) pair
  · -- Among the names of one length the pair stands as authored.
    intro sameLength
    have authored : (keywords.zipIdx.map Prod.snd).Pairwise (· < ·) := by
      rw [List.zipIdx_map_snd]
      exact List.pairwise_lt_range' 1
    have level := pair.filter (·.1.nameLength == front.1.nameLength)
    simp only [List.filter_cons, sameLength, beq_self_eq_true, if_true, List.filter_nil,
      rank_filter] at level
    exact List.pairwise_iff_forall_sublist.mp (List.pairwise_map.mp authored)
      (level.trans List.filter_sublist)

theorem getElem?_of_mem_ranking {table : Table} {entry : Keyword × Nat}
    (member : entry ∈ table.ranking) : table.keywords[entry.2]? = some entry.1 := by
  rw [table.ranking_eq, (rank_perm table.keywords).mem_iff] at member
  exact List.mem_zipIdx_iff_getElem?.mp member

theorem isMatchOrder_matchIndices (table : Table) :
    IsMatchOrder table.keywords table.matchIndices where
  perm := by
    have order := (rank_perm table.keywords).map Prod.snd
    rw [List.zipIdx_map_snd, ← List.range_eq_range'] at order
    rwa [matchIndices, table.ranking_eq]
  ordered := by
    rw [matchIndices, List.pairwise_map]
    have ordered := table.ranking_eq ▸ rank_ordered table.keywords
    refine ordered.imp_of_mem ?_
    intro front back member otherMember before first firstFound second secondFound
    rw [getElem?_of_mem_ranking member, Option.mem_some_iff] at firstFound
    rw [getElem?_of_mem_ranking otherMember, Option.mem_some_iff] at secondFound
    rwa [← firstFound, ← secondFound]

theorem isMatchOrder_iff (table : Table) :
    IsMatchOrder table.keywords places ↔ places = table.matchIndices := by
  constructor
  · intro order
    exact order.unique table.isMatchOrder_matchIndices
  · intro same
    rw [same]
    exact table.isMatchOrder_matchIndices

theorem map_getElem?_matchIndices (table : Table) :
    table.matchIndices.map (table.keywords[·]?) = table.matchOrder.map some := by
  rw [matchIndices, matchOrder, List.map_map, List.map_map]
  apply List.map_congr_left
  intro entry member
  exact getElem?_of_mem_ranking member

theorem matchOrder_prefixes (table : Table) :
    table.matchOrder.Pairwise fun earlier later => ¬ IsProperPrefix earlier.name later.name := by
  refine table.matchOrder_descending.imp ?_
  intro earlier later noLonger begins
  exact Nat.not_lt.mpr noLonger begins.nameLength_lt

theorem ofKeywordsAsserting?_eq_some
    (fit : ∀ keyword ∈ keywords, keyword.rejection? = none) :
    ofKeywordsAsserting? keywords = some (ofKeywords keywords) := by
  have checked : keywords.all (·.rejection?.isNone) = true := by
    simpa using fit
  rw [ofKeywordsAsserting?, if_pos checked]
  exact if_pos (prefixesFollow_iff.mpr (ofKeywords keywords).matchOrder_prefixes)

/-- Keywords that are fit on their own make a table that ranks them by length, whether or not names
are repeated. -/
theorem ofKeywords_matchOrder (fit : ∀ keyword ∈ keywords, keyword.rejection? = none) :
    (ofKeywords keywords).keywords = keywords ∧
      (∀ places, IsMatchOrder keywords places ↔ places = (ofKeywords keywords).matchIndices) ∧
      (ofKeywords keywords).matchIndices.map (keywords[·]?) =
        (ofKeywords keywords).matchOrder.map some ∧
      ((ofKeywords keywords).matchOrder.Pairwise fun earlier later =>
        ¬ IsProperPrefix earlier.name later.name) ∧
      prefixesFollow (ofKeywords keywords).matchOrder = true ∧
      ofKeywordsAsserting? keywords = some (ofKeywords keywords) := by
  have prefixes := (ofKeywords keywords).matchOrder_prefixes
  exact ⟨rfl, fun _ => (ofKeywords keywords).isMatchOrder_iff,
    (ofKeywords keywords).map_getElem?_matchIndices, prefixes, prefixesFollow_iff.mpr prefixes,
    ofKeywordsAsserting?_eq_some fit⟩

/-- Names that begin each other, a name of one character and two bytes, and a repeated name. -/
def tangledKeywords : List Keyword :=
  [⟨"A", .processId, none, ""⟩, ⟨"AB", .threadId, none, ""⟩, ⟨"é", .managedId, none, ""⟩,
    ⟨"AB", .caller, some 1, ""⟩, ⟨"ABC", .callStack, some 0, ""⟩]

theorem tangledKeywords_matchOrder :
    (∀ keyword ∈ tangledKeywords, keyword.rejection? = none) ∧
      ¬ (tangledKeywords.map Keyword.name).Nodup ∧
      (ofKeywords tangledKeywords).matchIndices = [4, 1, 2, 3, 0] ∧
      prefixesFollow (ofKeywords tangledKeywords).matchOrder = true ∧
      ofKeywordsAsserting? tangledKeywords = some (ofKeywords tangledKeywords) := by
  have fit : ∀ keyword ∈ tangledKeywords, keyword.rejection? = none := by decide
  obtain ⟨-, order, -, -, prefixes, asserted⟩ := ofKeywords_matchOrder fit
  have places : IsMatchOrder tangledKeywords [4, 1, 2, 3, 0] := ⟨by decide, by decide⟩
  exact ⟨fit, by decide, ((order _).mp places).symm, prefixes, asserted⟩

end Table

end Tracepoint.Keyword
