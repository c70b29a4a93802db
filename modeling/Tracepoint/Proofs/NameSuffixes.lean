import Tracepoint.Proofs.Legend
import Tracepoint.Proofs.TokenBorder
/-!
Names with a suffix.  Behind the name of a family, a suffix that the family knows chooses the
argument of the keyword; any other text leaves the bare name its own argument and is compiled as if
nothing stood before it: `compile_family`.  The standard families are of this form:
`standard_suffixes`.
-/

namespace Tracepoint.Keyword

/-- What the names that run on from a name add to it. -/
def Table.continuations (table : Table) (name : String) : List (List Char) :=
  (table.keywords.filterMap fun keyword => name.toList.isPrefixOf? keyword.name.toList).filter
    (· ≠ [])

variable {table : Table} {found : Keyword}

theorem Table.mem_continuations_iff {name : String} {more : List Char} :
    more ∈ table.continuations name ↔
      more ≠ [] ∧ ∃ longer ∈ table.keywords, longer.name.toList = name.toList ++ more := by
  simp only [continuations, List.mem_filter, List.mem_filterMap,
    List.isPrefixOf?_eq_some_iff_append_eq, decide_eq_true_eq]
  constructor
  · intro continued
    rcases continued with ⟨⟨longer, member, spelled⟩, nonempty⟩
    exact ⟨nonempty, longer, member, spelled.symm⟩
  · intro continued
    rcases continued with ⟨nonempty, longer, member, spelled⟩
    exact ⟨⟨longer, member, spelled.symm⟩, nonempty⟩

theorem isLongestMatch_of_continuations {after : List Char} (member : found ∈ table.keywords)
    (stops : ∀ more ∈ table.continuations found.name, ¬ more <+: after) :
    IsLongestMatch table (found.name.toList ++ after) found := by
  refine isLongestMatch_append_iff.mpr ⟨member, ?_⟩
  intro longer longerMember more nonempty spelled
  exact stops more (Table.mem_continuations_iff.mpr ⟨nonempty, longer, longerMember, spelled⟩)

end Tracepoint.Keyword

namespace Tracepoint.Template

open Keyword (Table IsLongestMatch)

/-- Keywords of one kind whose names are a common name and a suffix, or the common name alone. -/
structure Family where
  name : String
  kind : Kind
  suffixes : List (String × UInt32)
  bare : UInt32

namespace Family

def suffix? (family : Family) (after : String) : Option (String × UInt32) :=
  family.suffixes.find? (·.1.toList.isPrefixOf after.toList)

def parts (table : Table) (family : Family) (after : String) : List Part :=
  match family.suffix? after with
  | some (suffix, argument) =>
    let rest := String.ofList (after.toList.drop suffix.toList.length)
    .numbered family.kind argument :: (compile table rest).parts
  | none => .numbered family.kind family.bare :: (compile table after).parts

/-- A table has the names of a family, and none runs on from a name with a suffix. -/
structure Within (table : Table) (family : Family) : Prop where
  suffixed : ∀ entry ∈ family.suffixes, ∃ keyword ∈ table.keywords,
    keyword.name = family.name ++ entry.1 ∧
      Part.ofKeyword keyword = .numbered family.kind entry.2 ∧
      table.continuations keyword.name = []
  bare : ∃ keyword ∈ table.keywords, keyword.name = family.name ∧
    Part.ofKeyword keyword = .numbered family.kind family.bare

theorem suffix?_eq_some {family : Family} {after : String} {entry : String × UInt32}
    (here : family.suffix? after = some entry) :
    entry ∈ family.suffixes ∧ entry.1.toList <+: after.toList := by
  unfold suffix? at here
  exact ⟨List.mem_of_find?_eq_some here, by simpa using List.find?_some here⟩

theorem suffix?_eq_none_iff {family : Family} {after : String} :
    family.suffix? after = none ↔
      ∀ entry ∈ family.suffixes, ¬ entry.1.toList <+: after.toList := by
  simp only [suffix?, List.find?_eq_none, List.isPrefixOf_iff_prefix]

end Family

variable {table : Table} {family : Family} {found : Keyword} {after : String}

theorem compile_name_append (accepted : table.Accepted)
    (longest : IsLongestMatch table (found.name.toList ++ after.toList) found) :
    (compile table ("$" ++ found.name ++ after)).parts =
      .ofKeyword found :: (compile table after).parts := by
  have written : ("$" ++ found.name ++ after).toList =
      '$' :: (found.name.toList ++ after.toList) := by
    simp
  have reading : Reads table ("$" ++ found.name ++ after).toList [.keyword found] after.toList :=
    written ▸ .next (.keyword longest rfl) .done
  calc
    (compile table ("$" ++ found.name ++ after)).parts =
        fuse (compile table ("$" ++ found.name)).parts (compile table after).parts :=
      compile_append_of_reads accepted reading
    _ = fuse [.ofKeyword found] (compile table after).parts := by
      rw [compile_keyword accepted longest.mem]
    _ = .ofKeyword found :: (compile table after).parts :=
      Part.joinTo_of_not_text (Part.isText_ofKeyword found) _

theorem compile_family (accepted : table.Accepted) (within : family.Within table)
    (others : ∀ more ∈ table.continuations family.name,
      more ∉ family.suffixes.map (·.1.toList) → ¬ more <+: after.toList) :
    (compile table ("$" ++ family.name ++ after)).parts = family.parts table after := by
  unfold Family.parts
  cases here : family.suffix? after with
  | some entry =>
    rcases Family.suffix?_eq_some here with ⟨known, rest, spelled⟩
    rcases within.suffixed entry known with ⟨keyword, member, named, part, ends⟩
    have whole : "$" ++ family.name ++ after = "$" ++ keyword.name ++ String.ofList rest := by
      rw [← String.toList_inj]
      simp [named, spelled]
    have dropped : after.toList.drop entry.1.toList.length = rest := by
      rw [← spelled, List.drop_left]
    -- No name runs on from one with a suffix, so whatever follows is left alone.
    have longest : IsLongestMatch table
        (keyword.name.toList ++ (String.ofList rest).toList) keyword :=
      Keyword.isLongestMatch_of_continuations member (by simp [ends])
    simp only [whole, dropped]
    rw [compile_name_append accepted longest, part]
  | none =>
    rcases within.bare with ⟨keyword, member, named, part⟩
    have longest : IsLongestMatch table (keyword.name.toList ++ after.toList) keyword := by
      apply Keyword.isLongestMatch_of_continuations member
      intro more continued begins
      rw [named] at continued
      refine others more continued ?_ begins
      intro known
      rcases List.mem_map.mp known with ⟨entry, inside, rfl⟩
      exact Family.suffix?_eq_none_iff.mp here entry inside begins
    rw [← named, compile_name_append accepted longest, part]

/-! The standard families. -/

def frames (name : String) (kind : Kind) : Family :=
  ⟨name, kind, [("1", 1), ("2", 2), ("3", 3), ("4", 4), ("5", 5)], 1⟩

def depths : Family := ⟨"CALLSTACK", .callStack, [("10", 10), ("5", 5)], 20⟩

/-- The families whose names run on from the name of another, each behind what its name adds. -/
def callerFamilies : List (String × Family) :=
  [("MODULE", frames "CALLERMODULE" .callerModule),
    ("OFFSET", frames "CALLEROFFSET" .callerOffset),
    ("TOKEN", frames "CALLERTOKEN" .callerToken)]

def separateFamilies : List Family :=
  [frames "ADDRESS" .address, frames "FUNCTION" .function, depths] ++ callerFamilies.map Prod.snd

theorem standard_within :
    ∀ family ∈ frames "CALLER" .caller :: separateFamilies, family.Within .standard := by
  have suffixed : ∀ family ∈ frames "CALLER" .caller :: separateFamilies,
      ∀ entry ∈ family.suffixes, ∃ keyword ∈ Table.standard.keywords,
        keyword.name = family.name ++ entry.1 ∧
          Part.ofKeyword keyword = .numbered family.kind entry.2 ∧
          Table.standard.continuations keyword.name = [] := by
    decide +kernel
  have bare : ∀ family ∈ frames "CALLER" .caller :: separateFamilies,
      ∃ keyword ∈ Table.standard.keywords, keyword.name = family.name ∧
        Part.ofKeyword keyword = .numbered family.kind family.bare := by
    decide +kernel
  intro family member
  exact ⟨suffixed family member, bare family member⟩

theorem separate_continuations :
    ∀ family ∈ separateFamilies, ∀ more ∈ Table.standard.continuations family.name,
      more ∈ family.suffixes.map (·.1.toList) := by
  decide +kernel

theorem caller_continuations :
    ∀ more ∈ Table.standard.continuations "CALLER",
      more ∈ (frames "CALLER" .caller).suffixes.map (·.1.toList) ∨
        ∃ longer ∈ callerFamilies, longer.1.toList <+: more := by
  decide +kernel

/-- Every text behind the name of a standard family is read as a suffix of the family and a rest, or
as a rest alone; behind `CALLER` it may also go on to the name of a longer family. -/
theorem standard_suffixes :
    (∀ family ∈ separateFamilies, ∀ after,
      (compile .standard ("$" ++ family.name ++ after)).parts = family.parts .standard after) ∧
    (∀ longer ∈ callerFamilies, ∀ after,
      (compile .standard ("$CALLER" ++ (longer.1 ++ after))).parts =
        longer.2.parts .standard after) ∧
    (∀ after, (∀ longer ∈ callerFamilies, ¬ longer.1.toList <+: after.toList) →
      (compile .standard ("$CALLER" ++ after)).parts =
        (frames "CALLER" .caller).parts .standard after) := by
  have separate : ∀ family ∈ separateFamilies, ∀ after,
      (compile .standard ("$" ++ family.name ++ after)).parts = family.parts .standard after := by
    intro family member after
    apply compile_family Table.standard_accepted
      (standard_within family (List.mem_cons_of_mem _ member))
    intro more continued unknown
    exact absurd (separate_continuations family member more continued) unknown
  refine ⟨separate, ?_, ?_⟩
  · intro longer member after
    have spelled : ∀ longer ∈ callerFamilies, "$" ++ longer.2.name = "$CALLER" ++ longer.1 := by
      decide +kernel
    rw [← String.append_assoc, ← spelled longer member]
    exact separate longer.2 (List.mem_append_right _ (List.mem_map_of_mem member)) after
  · intro after stops
    apply compile_family Table.standard_accepted (standard_within _ List.mem_cons_self)
    intro more continued unknown begins
    rcases caller_continuations more continued with known | ⟨longer, member, runsOn⟩
    · exact unknown known
    · exact stops longer member (runsOn.trans begins)

theorem callerModul_suffixes :
    (∀ longer ∈ callerFamilies, ¬ longer.1.toList <+: "MODUL3".toList) ∧
      (compile .standard ("$CALLER" ++ "MODUL3")).parts =
        .numbered .caller 1 :: (compile .standard "MODUL3").parts ∧
      (compile .standard ("$CALLER" ++ ("MODULE" ++ "35"))).parts =
        .numbered .callerModule 3 :: (compile .standard "5").parts ∧
      (compile .standard ("$" ++ depths.name ++ "100")).parts =
        .numbered .callStack 10 :: (compile .standard "0").parts := by
  have stops : ∀ longer ∈ callerFamilies, ¬ longer.1.toList <+: "MODUL3".toList := by decide
  exact ⟨stops, standard_suffixes.2.2 "MODUL3" stops,
    standard_suffixes.2.1 _ List.mem_cons_self "35",
    standard_suffixes.1 depths (by simp [separateFamilies]) "100"⟩

end Tracepoint.Template
