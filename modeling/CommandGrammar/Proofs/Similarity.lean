import CommandGrammar.Text.Similarity
import Mathlib.Data.List.Basic

/-!
What the similarity of two texts counts. Each block that the search settles on is common to both
texts, and the search goes on to its left and to its right only, so the matched characters are those
of one common subsequence, in both texts in the same order. Therefore a ratio is at most one. The
block settled on first is no shorter than any other piece of usable characters that both texts have,
so at least as many characters match.
-/

namespace CommandGrammar.Text

variable {usable : Char → Bool} {as bs : List Char}

/-! ### Common blocks -/

/-- Both texts have the same characters where the block stands in them. -/
inductive Block.IsCommon : Block → List Char → List Char → Prop
  | intro (before before' shared after after' : List Char) :
    IsCommon ⟨before.length, before'.length, shared.length⟩ (before ++ shared ++ after)
      (before' ++ shared ++ after')

/-- What of two texts stands before a common piece is extended over from its end, and what stands
behind from its beginning. -/
lemma Block.extend_append (before before' shared after after' : List Char) :
    Block.extend ⟨before.length, before'.length, shared.length⟩ (before ++ shared ++ after)
      (before' ++ shared ++ after') =
    ⟨before.length - commonPrefix before.reverse before'.reverse,
      before'.length - commonPrefix before.reverse before'.reverse,
      commonPrefix before.reverse before'.reverse + shared.length + commonPrefix after after'⟩ := by
  simp [extend]

/-- A common beginning is a beginning of both texts. -/
lemma exists_eq_append_of_commonRun (usable : Char → Bool) (as bs : List Char) :
    ∃ shared after after', as = shared ++ after ∧ bs = shared ++ after' ∧
      shared.length = commonRun usable as bs := by
  induction as generalizing bs with
  | nil => exact ⟨[], [], bs, rfl, rfl, rfl⟩
  | cons a as ih =>
    cases bs with
    | nil => exact ⟨[], a :: as, [], rfl, rfl, rfl⟩
    | cons b bs =>
      by_cases h : (a == b && usable a) = true
      · obtain ⟨shared, after, after', rfl, rfl, hlength⟩ := ih bs
        obtain ⟨hab, -⟩ := Bool.and_eq_true_iff.1 h
        obtain rfl := eq_of_beq hab
        refine ⟨a :: shared, after, after', rfl, rfl, ?_⟩
        rw [commonRun, if_pos h, List.length_cons, hlength]
      · exact ⟨[], a :: as, b :: bs, rfl, rfl, by rw [commonRun, if_neg h, List.length_nil]⟩

/-- A common end is an end of both texts. -/
lemma exists_eq_append_of_commonPrefix_reverse (as bs : List Char) :
    ∃ shared before before', as = before ++ shared ∧ bs = before' ++ shared ∧
      shared.length = commonPrefix as.reverse bs.reverse := by
  obtain ⟨shared, after, after', has, hbs, hlength⟩ :=
    exists_eq_append_of_commonRun (fun _ => true) as.reverse bs.reverse
  refine ⟨shared.reverse, after.reverse, after'.reverse, ?_, ?_, ?_⟩
  · rw [← List.reverse_append, ← has, List.reverse_reverse]
  · rw [← List.reverse_append, ← hbs, List.reverse_reverse]
  · rw [List.length_reverse, hlength]
    rfl

namespace Block.IsCommon

variable {best block : Block}

lemma longestInRow (before before' : List Char)
    (h : best.IsCommon (before ++ as) (before' ++ bs)) :
    (longestInRow usable before.length as best before'.length bs).IsCommon (before ++ as)
      (before' ++ bs) := by
  induction bs generalizing before' best with
  | nil => exact h
  | cons b bs ih =>
    have hnext : before' ++ b :: bs = before' ++ [b] ++ bs := by simp
    have hplace : before'.length + 1 = (before' ++ [b]).length := by simp
    rw [Text.longestInRow, hplace, hnext]
    refine ih (before' ++ [b]) ?_
    rw [← hnext]
    split
    · -- The row has a longer block at this place.
      obtain ⟨shared, after, after', has, hbs, hlength⟩ :=
        exists_eq_append_of_commonRun usable as (b :: bs)
      rw [← hlength, hbs, has, ← List.append_assoc, ← List.append_assoc]
      exact .intro before before' shared after after'
    · exact h

lemma longestFrom (before : List Char) (h : best.IsCommon (before ++ as) bs) :
    (longestFrom usable bs best before.length as).IsCommon (before ++ as) bs := by
  induction as generalizing before best with
  | nil => exact h
  | cons a as ih =>
    have hnext : before ++ a :: as = before ++ [a] ++ as := by simp
    have hplace : before.length + 1 = (before ++ [a]).length := by simp
    rw [Text.longestFrom, hplace, hnext]
    refine ih (before ++ [a]) ?_
    rw [← hnext]
    exact longestInRow before [] h

/-- A block with equal neighbours taken in is still common. -/
lemma extend (h : block.IsCommon as bs) : (block.extend as bs).IsCommon as bs := by
  obtain ⟨before, before', shared, after, after'⟩ := h
  rw [extend_append]
  obtain ⟨ahead, outer, outer', rfl, rfl, hahead⟩ :=
    exists_eq_append_of_commonPrefix_reverse before before'
  obtain ⟨behind, rest, rest', rfl, rfl, hbehind⟩ :=
    exists_eq_append_of_commonRun (fun _ => true) after after'
  rw [← hahead, commonPrefix, ← hbehind]
  have hintro := intro outer outer' (ahead ++ shared ++ behind) rest rest'
  simpa only [List.append_assoc, List.length_append, Nat.add_sub_cancel, Nat.add_assoc] using hintro

end Block.IsCommon

/-- The block that the search settles on is common to both texts. -/
lemma isCommon_longestBlock (usable : Char → Bool) (as bs : List Char) :
    (longestBlock usable as bs).IsCommon as bs :=
  (Block.IsCommon.longestFrom [] (.intro [] [] [] as bs)).extend

/-! ### The longest block -/

section Longest

variable {shared : List Char}

/-- A common piece of usable characters is part of the common beginning. -/
lemma length_le_commonRun (h : ∀ c ∈ shared, usable c = true) (after after' : List Char) :
    shared.length ≤ commonRun usable (shared ++ after) (shared ++ after') := by
  induction shared with
  | nil => exact Nat.zero_le _
  | cons c shared ih =>
    obtain ⟨hc, hrest⟩ := List.forall_mem_cons.1 h
    have hstep : (c == c && usable c) = true := by simp [hc]
    rw [List.cons_append, List.cons_append, commonRun, if_pos hstep]
    exact Nat.succ_le_succ (ih hrest)

lemma commonRun_nil_right (usable : Char → Bool) (as : List Char) : commonRun usable as [] = 0 := by
  cases as <;> rfl

/-- A row is left with no shorter a block. -/
lemma size_le_longestInRow (left right : Nat) (as bs : List Char) (best : Block) :
    best.size ≤ (longestInRow usable left as best right bs).size := by
  induction bs generalizing best right with
  | nil => exact Nat.le_refl _
  | cons b bs ih =>
    refine Nat.le_trans ?_ (ih (right + 1) _)
    split
    · next h => exact Nat.le_of_lt h
    · exact Nat.le_refl _

/-- A row is left with a block no shorter than what begins in it. -/
lemma commonRun_le_longestInRow (left right : Nat) (as before bs : List Char) (best : Block) :
    commonRun usable as bs ≤ (longestInRow usable left as best right (before ++ bs)).size := by
  induction before generalizing best right with
  | nil =>
    cases bs with
    | nil =>
      rw [commonRun_nil_right]
      exact Nat.zero_le _
    | cons b bs =>
      refine Nat.le_trans ?_ (size_le_longestInRow left (right + 1) as bs _)
      split
      · exact Nat.le_refl _
      · next h => exact Nat.le_of_not_lt h
  | cons b before ih => exact ih (right + 1) _

lemma size_le_longestFrom (left : Nat) (as bs : List Char) (best : Block) :
    best.size ≤ (longestFrom usable bs best left as).size := by
  induction as generalizing best left with
  | nil => exact Nat.le_refl _
  | cons a as ih =>
    exact Nat.le_trans (size_le_longestInRow left 0 (a :: as) bs best) (ih (left + 1) _)

/-- The search is left with a block no shorter than what begins at any two places. -/
lemma commonRun_le_longestFrom (left : Nat) (before as before' bs : List Char) (best : Block) :
    commonRun usable as bs ≤
      (longestFrom usable (before' ++ bs) best left (before ++ as)).size := by
  induction before generalizing best left with
  | nil =>
    cases as with
    | nil => exact Nat.zero_le _
    | cons a as =>
      exact Nat.le_trans (commonRun_le_longestInRow left 0 (a :: as) before' bs best)
        (size_le_longestFrom (left + 1) as (before' ++ bs) _)
  | cons a before ih => exact ih (left + 1) _

lemma size_le_extend (block : Block) (as bs : List Char) :
    block.size ≤ (block.extend as bs).size := by
  simp only [Block.extend]
  omega

/-- **The block that the search settles on is a longest one:** no piece of usable characters that
both texts have is longer. -/
theorem length_le_longestBlock (h : ∀ c ∈ shared, usable c = true) (hs : shared <:+: as)
    (hs' : shared <:+: bs) : shared.length ≤ (longestBlock usable as bs).size := by
  obtain ⟨before, after, rfl⟩ := hs
  obtain ⟨before', after', rfl⟩ := hs'
  rw [List.append_assoc, List.append_assoc, longestBlock]
  calc shared.length
      ≤ commonRun usable (shared ++ after) (shared ++ after') := length_le_commonRun h after after'
    _ ≤ _ := commonRun_le_longestFrom 0 before _ before' _ _
    _ ≤ _ := size_le_extend _ _ _

end Longest

/-! ### Matched characters -/

/-- Nothing matches, or both texts share the block that is settled on, and the search goes on before
it and behind it. -/
lemma matched_cases (usable : Char → Bool) (as bs : List Char) :
    (longestBlock usable as bs).size = 0 ∧ matched usable as bs = 0 ∨
    ∃ before before' shared after after', as = before ++ shared ++ after ∧
      bs = before' ++ shared ++ after' ∧ shared.length = (longestBlock usable as bs).size ∧
      0 < shared.length ∧ matched usable as bs =
        matched usable before before' + shared.length + matched usable after after' := by
  have hcommon := isCommon_longestBlock usable as bs
  rw [matched]
  generalize longestBlock usable as bs = block at hcommon
  cases hcommon with
  | intro before before' shared after after' =>
    simp only [List.append_assoc]
    split
    case isTrue h =>
      refine .inr ⟨before, before', shared, after, after', rfl, rfl, rfl, h.1, ?_⟩
      simp
    case isFalse h =>
      rw [List.length_append, List.length_append] at h
      exact .inl ⟨by omega, rfl⟩

/-- **The matched characters are those of a common subsequence.** -/
theorem exists_common_of_matched (usable : Char → Bool) (as bs : List Char) :
    ∃ common : List Char, common.Sublist as ∧ common.Sublist bs ∧
      common.length = matched usable as bs := by
  induction hn : as.length using Nat.strongRecOn generalizing as bs with
  | ind n ih =>
    rcases matched_cases usable as bs with ⟨-, hnone⟩ |
      ⟨before, before', shared, after, after', rfl, rfl, -, hshared, hmatched⟩
    · exact ⟨[], List.nil_sublist as, List.nil_sublist bs, hnone.symm⟩
    · rw [List.length_append, List.length_append] at hn
      obtain ⟨left, hleft, hleft', hl⟩ := ih before.length (by omega) before before' rfl
      obtain ⟨right, hright, hright', hr⟩ := ih after.length (by omega) after after' rfl
      refine ⟨left ++ shared ++ right, ?_, ?_, ?_⟩
      · exact (hleft.append (List.Sublist.refl shared)).append hright
      · exact (hleft'.append (List.Sublist.refl shared)).append hright'
      · rw [List.length_append, List.length_append, hl, hr, hmatched]

/-- As many characters match as any piece of usable characters has that is in both texts. -/
lemma length_le_matched {shared : List Char} (h : ∀ c ∈ shared, usable c = true)
    (hs : shared <:+: as) (hs' : shared <:+: bs) : shared.length ≤ matched usable as bs := by
  have hlongest := length_le_longestBlock h hs hs'
  rcases matched_cases usable as bs with ⟨hnone, -⟩ | ⟨_, _, _, _, _, -, -, hsize, -, hmatched⟩
  · omega
  · omega

/-- No ratio is more than one. -/
lemma similarity_numerator_le (text word : String) :
    (similarity text word).numerator ≤ (similarity text word).denominator := by
  obtain ⟨common, htext, hword, hlength⟩ := exists_common_of_matched
    (fun c => !(popularIn word.toList).contains c) text.toList word.toList
  have hleft := htext.length_le
  have hright := hword.length_le
  unfold Ratio.numerator Ratio.denominator
  split
  · exact Nat.le_refl 1
  · simp only [similarity]
    omega

end CommandGrammar.Text
