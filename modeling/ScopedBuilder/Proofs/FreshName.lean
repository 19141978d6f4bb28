import Mathlib.Data.Finset.Card
import Mathlib.Order.Interval.Finset.Nat
import ScopedBuilder.Proofs.Outcome

/-!
# Names that are free

A name that is taken gets a number. The candidates are pairwise different, so one of the first ones is free,
and the numbered scheme never hands out a name that is taken. The search for the number would end without a
bound on it as well, and it finds the least one.
-/

namespace ScopedBuilder.NameScheme

variable {name separator : String} {taken : List String}

/-! ## Candidates -/

/-- Numbers behind the same text can be told apart. -/
theorem append_toString_injective (text : String) :
    Function.Injective fun n : Nat => text ++ toString n := by
  intro m n h
  have hnumber : m.repr = n.repr := (String.append_right_inj _).mp h
  have hdigits : Nat.toDigits 10 m = Nat.toDigits 10 n := by
    rw [← Nat.toList_repr, ← Nat.toList_repr, hnumber]
  calc m
      = Nat.ofDigitChars 10 (Nat.toDigits 10 m) 0 := Nat.ofDigitChars_ten_toDigits.symm
    _ = n := by rw [hdigits, Nat.ofDigitChars_ten_toDigits]

theorem candidate_injective (name separator : String) :
    Function.Injective (candidate name separator) :=
  append_toString_injective (name ++ separator)

/-- A candidate is longer than the name that it is made for. -/
theorem candidate_ne (name separator : String) (n : Nat) : candidate name separator n ≠ name := by
  intro h
  have hlength := congrArg String.length h
  have hdigits : 0 < (toString n).length := Nat.length_repr_pos
  rw [candidate, String.length_append, String.length_append] at hlength
  omega

/-- Candidates that are taken use up as many names. -/
theorem le_card_of_candidate_mem (name separator : String) {names : Finset String} {n : Nat}
    (h : ∀ m, 1 ≤ m → m ≤ n → candidate name separator m ∈ names) : n ≤ names.card := by
  have hmaps : Set.MapsTo (candidate name separator) (Finset.Icc 1 n) names := by
    intro m hm
    obtain ⟨hle, hlt⟩ := Finset.mem_Icc.mp hm
    exact h m hle hlt
  calc n = (Finset.Icc 1 n).card := by rw [Nat.card_Icc, Nat.add_sub_cancel]
    _ ≤ names.card :=
      Finset.card_le_card_of_injOn _ hmaps (candidate_injective name separator).injOn

/-- There are more candidates than taken names. -/
theorem exists_candidate_notMem (name separator : String) (taken : List String) :
    ∃ n ∈ List.range' 1 (taken.length + 1), candidate name separator n ∉ taken := by
  by_contra! hall
  have hcard : taken.length + 1 ≤ taken.toFinset.card :=
    le_card_of_candidate_mem name separator fun m hle hlt =>
      List.mem_toFinset.mpr (hall m (List.mem_range'_1.mpr ⟨hle, by omega⟩))
  have hlength := taken.toFinset_card_le
  omega

/-! ## The search for a number -/

/-- The search for a free number from a given one on: one candidate after the other is tried, without a bound.
It ends with the number that it finds. -/
inductive Search (name separator : String) (taken : List String) : Nat → Nat → Prop where
  | found {n : Nat} : candidate name separator n ∉ taken → Search name separator taken n n
  | next {n found : Nat} : candidate name separator n ∈ taken →
      Search name separator taken (n + 1) found → Search name separator taken n found

/-- The search finds a number exactly if it is the least one that is free. -/
theorem search_iff {start found : Nat} :
    Search name separator taken start found ↔
      start ≤ found ∧ candidate name separator found ∉ taken ∧
        ∀ n, start ≤ n → n < found → candidate name separator n ∈ taken := by
  constructor
  · intro h
    induction h with
    | found hfree => exact ⟨Nat.le_refl _, hfree, fun n hle hlt => absurd hlt (Nat.not_lt.mpr hle)⟩
    | next htaken _ ih =>
        obtain ⟨hle, hfree, hleast⟩ := ih
        refine ⟨Nat.le_of_succ_le hle, hfree, fun n hn hlt => ?_⟩
        rcases Nat.eq_or_lt_of_le hn with rfl | hn
        · exact htaken
        · exact hleast n hn hlt
  · rintro ⟨hle, hfree, hleast⟩
    induction hle using Nat.decreasingInduction with
    | self => exact .found hfree
    | of_succ n hlt ih =>
        refine .next (hleast n (Nat.le_refl n) hlt) (ih fun m hm => ?_)
        exact hleast m (Nat.le_of_succ_le hm)

/-- The search from one on ends, and the bound on it is never reached. -/
theorem search_firstFree (name separator : String) (taken : List String) :
    Search name separator taken 1 (firstFree name separator taken) := by
  unfold firstFree
  cases hfind : (List.range' 1 (taken.length + 1)).find? fun n =>
      !taken.contains (candidate name separator n) with
  | none =>
      obtain ⟨n, hn, hfree⟩ := exists_candidate_notMem name separator taken
      have htaken := List.find?_eq_none.mp hfind n hn
      simp [hfree] at htaken
  | some n =>
      obtain ⟨hfree, hn, hleast⟩ := List.find?_range'_eq_some.mp hfind
      refine search_iff.mpr ⟨(List.mem_range'_1.mp hn).1, by simpa using hfree, ?_⟩
      intro m hle hlt
      simpa using hleast m hle hlt

/-- The number of a name that is taken is at most the number of the taken names. -/
theorem Search.le_card {n : Nat} (h : Search name separator taken 1 n) (hname : name ∈ taken) :
    n ≤ taken.toFinset.card := by
  obtain ⟨hle, -, hleast⟩ := search_iff.mp h
  have hothers : n - 1 ≤ (taken.toFinset.erase name).card := by
    refine le_card_of_candidate_mem name separator fun m hm hlt => ?_
    exact Finset.mem_erase.mpr
      ⟨candidate_ne name separator m, List.mem_toFinset.mpr (hleast m hm (by omega))⟩
  have hpos : 0 < taken.toFinset.card := Finset.card_pos.mpr ⟨name, List.mem_toFinset.mpr hname⟩
  rw [Finset.card_erase_of_mem (List.mem_toFinset.mpr hname)] at hothers
  omega

/-- The numbered scheme hands out names that are free. -/
theorem fresh_numbered_notMem : (numbered separator).fresh name taken ∉ taken := by
  rw [fresh]
  split
  · exact (search_iff.mp (search_firstFree name separator taken)).2.1
  · rename_i hfree
    simpa using hfree

/-- The numbered scheme always hands out a name that is free, whatever the separator: the name that was asked
for if it is free, and otherwise the candidate with the least number from one on that is free. The search for
that number ends, after no more candidates than there are taken names. -/
theorem fresh_numbered (name separator : String) (taken : List String) :
    let text := (numbered separator).fresh name taken
    text ∉ taken ∧
      if name ∈ taken then
        ∃ n, Search name separator taken 1 n ∧ text = name ++ separator ++ toString n ∧
          1 ≤ n ∧ n ≤ taken.toFinset.card ∧
          ∀ m, 1 ≤ m → m < n → name ++ separator ++ toString m ∈ taken
      else text = name := by
  intro text
  refine ⟨fresh_numbered_notMem, ?_⟩
  have hsearch := search_firstFree name separator taken
  obtain ⟨hle, -, hleast⟩ := search_iff.mp hsearch
  split
  · rename_i htaken
    have htext : text = candidate name separator (firstFree name separator taken) := by
      simp [text, fresh, htaken]
    exact ⟨_, hsearch, htext, hle, hsearch.le_card htaken, hleast⟩
  · rename_i hfree
    simp [text, fresh, hfree]

/-- Taken names may look like numbered ones. -/
example : (numbered "1").fresh "f" ["f", "f11", "f111", "f13"] = "f12" := by decide

end ScopedBuilder.NameScheme
