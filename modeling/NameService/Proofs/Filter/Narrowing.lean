import NameService.Membership.Plan
import NameService.Proofs.Filter.Grammar

/-!
Filters narrowed by the filter of a search descriptor. The narrowed filter is to match what both
filters match.

## Main result

`build_intersects_iff`: with a filled template the extra filter takes its place in front of the last
parenthesis, which narrows a conjunction, widens a disjunction, and leaves no filter of anything
else. A template without values is wrapped instead, and always narrowed.
-/

namespace NameService.Filter

namespace Formula

/-- A descriptor gives its filter with or without the outer parentheses. -/
def Denotes (text : String) (formula : Formula) : Prop :=
  text.toList = formula.inside ∨ text.toList = formula.print

private theorem inside_ne_paren {formula : Formula} (formed : formula.WellFormed)
    (rest : List Char) : formula.inside ≠ '(' :: rest := by
  cases formed with
  | all nonempty each => simp [inside]
  | any nonempty each => simp [inside]
  | not formed => simp [inside]
  | test formed => simpa [inside] using Item.written_ne formed (c := '(') rfl [] rest

theorem bare_inside {formula : Formula} (formed : formula.WellFormed) :
    bare formula.inside = formula.inside := by
  unfold bare
  split
  next rest paren => exact absurd paren (inside_ne_paren formed rest)
  · rfl

theorem bare_print (formula : Formula) : bare formula.print = formula.inside := by
  simp [bare, print]

theorem bare_of_denotes {text : String} {formula : Formula} (formed : formula.WellFormed)
    (denotes : Denotes text formula) : bare text.toList = formula.inside := by
  rcases denotes with given | given <;> rw [given]
  · exact bare_inside formed
  · exact bare_print formula

theorem inside_ne_nil {formula : Formula} (formed : formula.WellFormed) : formula.inside ≠ [] := by
  cases formed with
  | all nonempty each => simp [inside]
  | any nonempty each => simp [inside]
  | not formed => simp [inside]
  | @test item formed => cases item <;> simp [inside, Item.written]

theorem ne_empty_of_denotes {text : String} {formula : Formula} (formed : formula.WellFormed)
    (denotes : Denotes text formula) : text.isEmpty = false := by
  have nonempty : text.toList ≠ [] := by
    rcases denotes with given | given <;> rw [given]
    · exact inside_ne_nil formed
    · simp [print]
  simpa using nonempty

/-- The extra filter goes in front of the last parenthesis. -/
theorem conjoin_print (formula extra : Formula) :
    conjoin formula.print extra.inside = '(' :: formula.inside ++ extra.print ++ [')'] := by
  have last : formula.print.getLast? = some ')' := List.getLast?_concat
  have stem : formula.print.dropLast = '(' :: formula.inside := List.dropLast_concat
  rw [conjoin, if_pos last, stem]
  simp [print]

theorem wrap_print (formula extra : Formula) :
    '(' :: '&' :: formula.print ++ '(' :: extra.inside ++ [')', ')'] =
      (all [formula, extra]).print := by
  simp [print, inside, printAll]

/-- A conjunction is joined by the extra filter. -/
theorem conjoin_all (parts : List Formula) (extra : Formula) :
    conjoin (all parts).print extra.inside = (all (parts ++ [extra])).print := by
  rw [conjoin_print]
  simp [print, inside, printAll_append, printAll]

/-- So is a disjunction. -/
theorem conjoin_any (parts : List Formula) (extra : Formula) :
    conjoin (any parts).print extra.inside = (any (parts ++ [extra])).print := by
  rw [conjoin_print]
  simp [print, inside, printAll_append, printAll]

/-- A negation takes no second filter. -/
theorem conjoin_not_ne {part extra other : Formula} (formed : part.WellFormed)
    (otherFormed : other.WellFormed) :
    conjoin (not part).print extra.inside ≠ other.print := by
  intro same
  rw [conjoin_print] at same
  cases otherFormed with
  | all nonempty each => simp [print, inside] at same
  | any nonempty each => simp [print, inside] at same
  | test formed =>
    simp only [print, inside, List.cons_append, List.append_assoc, List.cons.injEq, true_and]
      at same
    exact Item.written_ne formed rfl _ _ same.symm
  | @not negated formed' =>
    -- The negated filter has been read, but the extra one still follows.
    have parts : part.print ++ (extra.print ++ [')']) = negated.print ++ [')'] := by
      simpa [print, inside] using same
    simpa [print] using (print_append_inj formed formed' parts).2

/-- No filter stands inside a test. -/
theorem conjoin_test_ne {item : Item} {extra other : Formula} (formed : item.WellFormed)
    (otherFormed : other.WellFormed) :
    conjoin (test item).print extra.inside ≠ other.print := by
  intro same
  rw [conjoin_print] at same
  have insides : item.written ++ extra.print = other.inside := by
    simpa [print, inside, ← List.append_assoc] using same
  cases otherFormed with
  | all nonempty each => exact Item.written_ne formed rfl _ _ insides
  | any nonempty each => exact Item.written_ne formed rfl _ _ insides
  | not formed' => exact Item.written_ne formed rfl _ _ insides
  | test formed' =>
    -- The parenthesis of the extra filter would stand in a test.
    apply Item.paren_notMem_written formed'
    have written : item.written ++ extra.print = Item.written _ := insides
    rw [← written]
    simp [print]

end Formula

/-- A text is a filter, and matches the entries that both of two filters match. -/
def Intersects {ε : Type} (passes : ε → Item → Prop) (first second : Formula) (text : String) :
    Prop :=
  ∃ result : Formula, result.WellFormed ∧ text.toList = result.print ∧
    ∀ entry, result.Matches (passes entry) ↔
      first.Matches (passes entry) ∧ second.Matches (passes entry)

open Formula

variable {template descriptor filled : String} {args : Args} {filter extra : Formula}

theorem build_eq_narrow (rendered : render template args = .ok filled)
    (formed : extra.WellFormed) (denotes : Denotes descriptor extra) :
    build template args (some descriptor) =
      .ok (String.ofList (narrow filled.toList args descriptor.toList)) := by
  simp [build, rendered, ne_empty_of_denotes formed denotes, bind, Except.bind, pure, Except.pure]

theorem narrow_none (reads : filled.toList = filter.print) (formed : extra.WellFormed)
    (denotes : Denotes descriptor extra) :
    narrow filled.toList .none descriptor.toList = (all [filter, extra]).print := by
  rw [narrow, bare_of_denotes formed denotes, reads, wrap_print]

theorem narrow_some (values : args ≠ .none) (reads : filled.toList = filter.print)
    (formed : extra.WellFormed) (denotes : Denotes descriptor extra) :
    narrow filled.toList args descriptor.toList = conjoin filter.print extra.inside := by
  rw [← bare_of_denotes formed denotes, ← reads]
  cases args <;> first | exact absurd rfl values | rfl

private theorem wellFormed_snoc {parts : List Formula} {extra : Formula}
    (each : ∀ part ∈ parts, part.WellFormed) (formed : extra.WellFormed) :
    ∀ part ∈ parts ++ [extra], part.WellFormed := by
  intro part member
  rcases List.mem_append.mp member with member | member
  · exact each part member
  · rw [List.mem_singleton.mp member]
    exact formed

variable {ε : Type} {passes : ε → Item → Prop}

/-- What a text says as a filter is settled by one reading of it. -/
private theorem intersects_iff {result : Formula} (formed : result.WellFormed) {text : String}
    (reads : text.toList = result.print) :
    Intersects passes filter extra text ↔ ∀ entry, result.Matches (passes entry) ↔
      filter.Matches (passes entry) ∧ extra.Matches (passes entry) := by
  constructor
  · rintro ⟨other, otherFormed, otherReads, agree⟩
    have same : other.print ++ [] = result.print ++ [] := by rw [← otherReads, ← reads]
    -- No text is read as two filters.
    obtain ⟨rfl, -⟩ := print_append_inj otherFormed formed same
    exact agree
  · exact fun agree => ⟨result, formed, reads, agree⟩

theorem intersects_wrapped (formed : filter.WellFormed) (extraFormed : extra.WellFormed) :
    Intersects passes filter extra (String.ofList (all [filter, extra]).print) := by
  have whole : (all [filter, extra]).WellFormed :=
    .all (by simp) (by simpa using ⟨formed, extraFormed⟩)
  exact (intersects_iff whole (by simp)).mpr (by simp [Matches, MatchesAll])

theorem intersects_all {parts : List Formula} (formed : (all parts).WellFormed)
    (extraFormed : extra.WellFormed) :
    Intersects passes (all parts) extra
      (String.ofList (conjoin (all parts).print extra.inside)) := by
  rw [conjoin_all]
  cases formed with
  | all nonempty each =>
    refine (intersects_iff (.all (by simp) (wellFormed_snoc each extraFormed)) (by simp)).mpr ?_
    simp [Matches, matchesAll_append, MatchesAll]

/-- A disjunction is narrowed only by a filter that matches just the same entries. -/
theorem intersects_any_iff {parts : List Formula} (formed : (any parts).WellFormed)
    (extraFormed : extra.WellFormed) :
    Intersects passes (any parts) extra
        (String.ofList (conjoin (any parts).print extra.inside)) ↔
      ∀ entry, (any parts).Matches (passes entry) ↔ extra.Matches (passes entry) := by
  rw [conjoin_any]
  cases formed with
  | any nonempty each =>
    -- The text says `filter ∨ extra`, which is to be the same as `filter ∧ extra`.
    rw [intersects_iff (.any (by simp) (wellFormed_snoc each extraFormed)) (by simp)]
    refine forall_congr' fun entry => ?_
    simp only [Matches, matchesAny_append, MatchesAny, or_false]
    constructor
    · intro agree
      exact ⟨fun first => (agree.mp (Or.inl first)).2, fun second => (agree.mp (Or.inr second)).1⟩
    · intro agree
      rw [agree, or_self, and_self]

/-- A filled template is narrowed if it is a conjunction, or if it takes no values. A disjunction is
    widened by all that the extra filter matches, and anything else is no filter any more. -/
theorem build_intersects_iff (rendered : render template args = .ok filled)
    (reads : filled.toList = filter.print) (formed : filter.WellFormed)
    (extraFormed : extra.WellFormed) (denotes : Denotes descriptor extra)
    (passes : ε → Item → Prop) :
    (∃ text, build template args (some descriptor) = .ok text ∧
        Intersects passes filter extra text) ↔
      args = .none ∨ (∃ parts, filter = all parts) ∨
        ((∃ parts, filter = any parts) ∧
          ∀ entry, filter.Matches (passes entry) ↔ extra.Matches (passes entry)) := by
  rw [build_eq_narrow rendered extraFormed denotes]
  simp only [Except.ok.injEq, exists_eq_left']
  -- Without values the two filters are wrapped, whatever they are.
  by_cases values : args = .none
  · subst values
    rw [narrow_none reads extraFormed denotes]
    simpa using intersects_wrapped formed extraFormed
  · rw [narrow_some values reads extraFormed denotes]
    simp only [values, false_or]
    cases formed with
    | all nonempty each => simpa using intersects_all (.all nonempty each) extraFormed
    | any nonempty each => simpa using intersects_any_iff (.any nonempty each) extraFormed
    | not formed =>
      simp only [reduceCtorEq, exists_false, false_or, false_and, iff_false]
      rintro ⟨result, resultFormed, same, -⟩
      exact conjoin_not_ne formed resultFormed (by simpa using same)
    | test formed =>
      simp only [reduceCtorEq, exists_false, false_or, false_and, iff_false]
      rintro ⟨result, resultFormed, same, -⟩
      exact conjoin_test_ne formed resultFormed (by simpa using same)

/-- A user is asked for by a conjunction, so the filter of a descriptor narrows the question. -/
theorem build_intersects_account :
    ∃ text, build "(&(objectClass=posixAccount)(uid=%s))" (.text "j*doe") (some "(host=web)") =
        .ok text ∧
      Intersects (fun (entry : List Item) item => item ∈ entry)
        (all [test (.equals "objectClass".toList "posixAccount".toList),
          test (.equals "uid".toList "j\\2adoe".toList)])
        (test (.equals "host".toList "web".toList)) text := by
  have rendered : render "(&(objectClass=posixAccount)(uid=%s))" (.text "j*doe") =
      .ok "(&(objectClass=posixAccount)(uid=j\\2adoe))" := by rfl
  have formed : (all [test (.equals "objectClass".toList "posixAccount".toList),
      test (.equals "uid".toList "j\\2adoe".toList)]).WellFormed := by
    refine .all (by simp) ?_
    simp only [List.mem_cons, List.not_mem_nil, or_false, forall_eq_or_imp, forall_eq]
    exact ⟨.test ⟨by decide +kernel, by decide +kernel⟩,
      .test ⟨by decide +kernel, by decide +kernel⟩⟩
  have extraFormed : (test (.equals "host".toList "web".toList)).WellFormed :=
    .test ⟨by decide +kernel, by decide +kernel⟩
  exact (build_intersects_iff rendered (by decide +kernel) formed extraFormed
    (Or.inr (by decide +kernel)) _).mpr (Or.inr (Or.inl ⟨_, rfl⟩))

/-- A question that tests one attribute is spoilt by the filter of a descriptor. The question for
    the groups of some names is answered with groups of any name. -/
theorem build_not_intersecting :
    (¬ ∃ text, build "(uid=%s)" (.text "jdoe") (some "host=web") = .ok text ∧
      Intersects (fun (entry : List Item) item => item ∈ entry)
        (test (.equals "uid".toList "jdoe".toList))
        (test (.equals "host".toList "web".toList)) text) ∧
    ¬ ∃ text, build (Membership.Templates.ofMap []).backlink (.anyOf ["cn=a"])
        (some "objectClass=posixGroup") = .ok text ∧
      Intersects (fun (entry : List Item) item => item ∈ entry)
        (any [test (.equals "distinguishedName".toList "cn=a".toList)])
        (test (.equals "objectClass".toList "posixGroup".toList)) text := by
  constructor
  · have user : (Item.equals "uid".toList "jdoe".toList).WellFormed :=
      ⟨by decide +kernel, by decide +kernel⟩
    have built : build "(uid=%s)" (.text "jdoe") (some "host=web") =
        .ok (String.ofList (conjoin (test (.equals "uid".toList "jdoe".toList)).print
          (test (.equals "host".toList "web".toList)).inside)) := by rfl
    rintro ⟨text, same, result, formed, reads, -⟩
    obtain rfl := Except.ok.inj (built.symm.trans same)
    exact conjoin_test_ne user formed (by simpa using reads)
  · have named : (any [test (.equals "distinguishedName".toList "cn=a".toList)]).WellFormed :=
      .any (by simp) (by simpa using .test ⟨by decide +kernel, by decide +kernel⟩)
    have group : (test (.equals "objectClass".toList "posixGroup".toList)).WellFormed :=
      .test ⟨by decide +kernel, by decide +kernel⟩
    have built : build (Membership.Templates.ofMap []).backlink (.anyOf ["cn=a"])
        (some "objectClass=posixGroup") =
        .ok (String.ofList (conjoin
          (any [test (.equals "distinguishedName".toList "cn=a".toList)]).print
          (test (.equals "objectClass".toList "posixGroup".toList)).inside)) := by rfl
    rintro ⟨text, same, narrowed⟩
    obtain rfl := Except.ok.inj (built.symm.trans same)
    -- An entry that is a group and has no name is matched by one filter and not by the other.
    have agree := (intersects_any_iff named group).mp narrowed
      [.equals "objectClass".toList "posixGroup".toList]
    simp [Matches, MatchesAny] at agree

end NameService.Filter
