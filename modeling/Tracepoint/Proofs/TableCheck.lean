import Tracepoint.Proofs.LongestMatch
/-!
The check of a list of keywords.  A list makes a table just when each of its keywords is fit for use
and no name stands in it twice.  Of any other list the check blames the first keyword that offends,
and says what its first fault is: `ofKeywords?_blames_first`.
-/

namespace Tracepoint.Keyword

structure Fit (keyword : Keyword) : Prop where
  named : keyword.name ≠ ""
  kind : keyword.kind.isKeyword = true
  argument : keyword.argument.isSome = keyword.kind.takesArgument

structure FitTogether (keywords : List Keyword) : Prop where
  fit : ∀ keyword ∈ keywords, keyword.Fit
  apart : (keywords.map Keyword.name).Nodup

/-- A keyword at a place of a list cannot be used on its own, or it repeats the name of an earlier
one. -/
def OffendsAt (keywords : List Keyword) (place : Nat) (culprit : Keyword) : Prop :=
  keywords[place]? = some culprit ∧
    (¬ culprit.Fit ∨
      ∃ earlier < place, ∃ other, keywords[earlier]? = some other ∧ other.name = culprit.name)

structure FirstOffender (keywords : List Keyword) (place : Nat) (culprit : Keyword) : Prop where
  offends : OffendsAt keywords place culprit
  first : ∀ earlier < place, ∀ other, ¬ OffendsAt keywords earlier other

/-- What is said of a keyword that offends.  An empty name comes before a wrong kind, a wrong kind
before a wrong argument, and a name is called repeated only of a keyword without other faults. -/
inductive Earns (culprit : Keyword) : Rejection → Prop
  | emptyName (unnamed : culprit.name = "") : Earns culprit (.emptyName culprit.kind)
  | notKeyword (named : culprit.name ≠ "") (kind : culprit.kind.isKeyword = false) :
    Earns culprit (.mismatch culprit.name culprit.kind .notKeyword)
  | argumentMissing (named : culprit.name ≠ "") (kind : culprit.kind.isKeyword = true)
    (takes : culprit.kind.takesArgument = true) (missing : culprit.argument = none) :
    Earns culprit (.mismatch culprit.name culprit.kind .argumentMissing)
  | argumentUnexpected (named : culprit.name ≠ "") (kind : culprit.kind.isKeyword = true)
    (takes : culprit.kind.takesArgument = false) (given : culprit.argument ≠ none) :
    Earns culprit (.mismatch culprit.name culprit.kind .argumentUnexpected)
  | duplicate (fit : culprit.Fit) : Earns culprit (.duplicate culprit.name)

variable {keywords front back : List Keyword} {keyword culprit : Keyword} {rejection : Rejection}
  {place : Nat}

theorem fit_iff : keyword.Fit ↔ keyword.rejection? = none := by
  rw [rejection?_eq_none_iff]
  constructor
  · intro fit
    exact ⟨fit.named, fit.kind, fit.argument.symm⟩
  · intro faultless
    exact ⟨faultless.1, faultless.2.1, faultless.2.2.symm⟩

theorem earns_of_rejection? (faulty : keyword.rejection? = some rejection) :
    keyword.Earns rejection := by
  unfold rejection? at faulty
  simp only [String.isEmpty_iff] at faulty
  by_cases named : keyword.name = ""
  · rw [if_pos named, Option.some.injEq] at faulty
    exact faulty ▸ .emptyName named
  · rw [if_neg named, Option.map_eq_some_iff] at faulty
    rcases faulty with ⟨cause, fault, rfl⟩
    cases kind : keyword.kind.isKeyword with
    | false =>
      simp only [mismatch?, kind, Bool.not_false, if_true, Option.some.injEq] at fault
      exact fault ▸ .notKeyword named kind
    | true =>
      simp only [mismatch?, kind, Bool.not_true, Bool.false_eq_true, if_false] at fault
      cases takes : keyword.kind.takesArgument with
      | false =>
        cases given : keyword.argument with
        | none => simp [takes, given] at fault
        | some argument =>
          have cause : .argumentUnexpected = cause := by simpa [takes, given] using fault
          exact cause ▸ .argumentUnexpected named kind takes (by simp [given])
      | true =>
        cases given : keyword.argument with
        | none =>
          have cause : .argumentMissing = cause := by simpa [takes, given] using fault
          exact cause ▸ .argumentMissing named kind takes given
        | some argument => simp [takes, given] at fault

theorem fitTogether_iff : FitTogether keywords ↔ Table.firstRejection? [] keywords = none := by
  rw [Table.firstRejection?_eq_none_iff]
  constructor
  · intro fits
    exact ⟨fun keyword member => fit_iff.mp (fits.fit keyword member), fits.apart, by simp⟩
  · intro checked
    exact ⟨fun keyword member => fit_iff.mpr (checked.1 keyword member), checked.2.1⟩

theorem Table.firstRejection?_eq_some {seen : List String}
    (refused : firstRejection? seen keywords = some rejection) :
    ∃ front culprit back, keywords = front ++ culprit :: back ∧
      firstRejection? seen front = none ∧
      (culprit.rejection? = some rejection ∨ culprit.rejection? = none ∧
        (culprit.name ∈ seen ∨ culprit.name ∈ front.map Keyword.name) ∧
          rejection = .duplicate culprit.name) := by
  induction keywords generalizing seen with
  | nil => cases refused
  | cons first rest ih =>
    rw [firstRejection?] at refused
    cases fault : first.rejection? with
    | some own =>
      simp only [fault, Option.some.injEq] at refused
      exact ⟨[], first, rest, rfl, rfl, .inl (refused ▸ fault)⟩
    | none =>
      simp only [fault] at refused
      split at refused
      case isTrue known =>
        cases refused
        exact ⟨[], first, rest, rfl, rfl, .inr ⟨fault, .inl known, rfl⟩⟩
      case isFalse new =>
        rcases ih refused with ⟨front, culprit, back, rfl, passed, reason⟩
        refine ⟨first :: front, culprit, back, rfl, ?_, ?_⟩
        · rw [firstRejection?, fault]
          simpa [new] using passed
        · simpa [or_assoc, or_left_comm] using reason

theorem FitTogether.not_offendsAt (fits : FitTogether keywords) (place : Nat)
    (culprit : Keyword) : ¬ OffendsAt keywords place culprit := by
  intro offends
  rcases offends with ⟨here, unfit | ⟨earlier, before, other, there, same⟩⟩
  · exact unfit (fits.fit culprit (List.mem_of_getElem? here))
  · have names : (keywords.map Keyword.name)[earlier]? = (keywords.map Keyword.name)[place]? := by
      simp [here, there, same]
    have inside : place < (keywords.map Keyword.name).length := by
      simpa using (List.getElem?_eq_some_iff.mp here).1
    exact List.nodup_iff_getElem?_ne_getElem?.mp fits.apart earlier place before inside names

theorem OffendsAt.of_append (offends : OffendsAt (front ++ back) place culprit)
    (inside : place < front.length) : OffendsAt front place culprit := by
  rcases offends with ⟨here, fault⟩
  rw [List.getElem?_append_left inside] at here
  refine ⟨here, fault.imp_right ?_⟩
  intro repeated
  rcases repeated with ⟨earlier, before, other, there, same⟩
  rw [List.getElem?_append_left (Nat.lt_trans before inside)] at there
  exact ⟨earlier, before, other, there, same⟩

theorem firstOffender_of_firstRejection?
    (refused : Table.firstRejection? [] keywords = some rejection) :
    ∃ place culprit, FirstOffender keywords place culprit ∧ culprit.Earns rejection := by
  rcases Table.firstRejection?_eq_some refused with ⟨front, culprit, back, rfl, passed, reason⟩
  have here : (front ++ culprit :: back)[front.length]? = some culprit := by simp
  -- The keywords in front have passed the check, and what stands behind them does not count there.
  have first : ∀ earlier < front.length, ∀ other,
      ¬ OffendsAt (front ++ culprit :: back) earlier other := by
    intro earlier before other offends
    exact (fitTogether_iff.mpr passed).not_offendsAt earlier other (offends.of_append before)
  refine ⟨front.length, culprit, ?_⟩
  rcases reason with faulty | ⟨faultless, known | known, rfl⟩
  · refine ⟨⟨⟨here, .inl ?_⟩, first⟩, earns_of_rejection? faulty⟩
    rw [fit_iff, faulty]
    exact Option.some_ne_none rejection
  · cases known
  · rcases List.mem_map.mp known with ⟨other, member, same⟩
    rcases List.mem_iff_getElem?.mp member with ⟨earlier, there⟩
    have before : earlier < front.length := (List.getElem?_eq_some_iff.mp there).1
    have stands : (front ++ culprit :: back)[earlier]? = some other := by
      rw [List.getElem?_append_left before, there]
    exact ⟨⟨⟨here, .inr ⟨earlier, before, other, stands, same⟩⟩, first⟩,
      .duplicate (fit_iff.mpr faultless)⟩

/-- A list of keywords is made into a table just when its keywords fit together; any other list is
refused for its first offender. -/
theorem ofKeywords?_blames_first (keywords : List Keyword) :
    ((∃ table, Table.ofKeywords? keywords = .ok table ∧ table.keywords = keywords) ↔
        FitTogether keywords) ∧
      (¬ FitTogether keywords → ∃ place culprit rejection,
        FirstOffender keywords place culprit ∧ culprit.Earns rejection ∧
          Table.ofKeywords? keywords = .error rejection) := by
  rw [fitTogether_iff]
  constructor
  · constructor
    · intro built
      rcases built with ⟨table, built, -⟩
      exact (Table.ofKeywords?_eq_ok_iff.mp built).1
    · intro passed
      exact ⟨_, Table.ofKeywords?_eq_ok_iff.mpr ⟨passed, rfl⟩, rfl⟩
  · intro failed
    rcases Option.ne_none_iff_exists'.mp failed with ⟨rejection, refused⟩
    rcases firstOffender_of_firstRejection? refused with ⟨place, culprit, first, earned⟩
    refine ⟨place, culprit, rejection, first, earned, ?_⟩
    rw [Table.ofKeywords?, refused]

/-- The second keyword repeats a name and has an argument that it must not have; the third has no
name. -/
def crowdedFaults : List Keyword :=
  [⟨"CALLER", .caller, some 1, ""⟩, ⟨"CALLER", .threadId, some 2, ""⟩, ⟨"", .text, none, ""⟩]

theorem crowdedFaults_blamed :
    ¬ FitTogether crowdedFaults ∧
      (∃ place culprit rejection, FirstOffender crowdedFaults place culprit ∧
        culprit.Earns rejection ∧ Table.ofKeywords? crowdedFaults = .error rejection) ∧
      Table.ofKeywords? crowdedFaults =
        .error (.mismatch "CALLER" .threadId .argumentUnexpected) := by
  have failed : ¬ FitTogether crowdedFaults := by
    rw [fitTogether_iff]
    decide
  exact ⟨failed, (ofKeywords?_blames_first crowdedFaults).2 failed, rfl⟩

end Tracepoint.Keyword
