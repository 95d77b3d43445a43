import Mathlib.Data.List.DropRight
import Mathlib.Data.List.Infix
import SysReg.Text.Lower

/-!
# Lower case and parts of a text

The lower case of a part of a text need not be a part of the lower case of the text: a capital sigma
becomes another letter at the end of a word, and a part may end where a word goes on.  Everything
else keeps its lower case wherever it stands, so the whole matter is decided by the sigmas, and of
those only by the ones at the edge of the part, with nothing beside them that would tell whether a
word ends there (`Exposed`).

A part without such a sigma has the same lower case in all surroundings
(`not_turns_of_not_exposed`); to a part with one a letter can be joined that changes it
(`Exposed.exists_missed`).
-/

namespace SysReg.Text

variable {before before' cs after after' xs ys : List Char}

/-! ## The next character that counts -/

lemma leadsWithCased_append_of_forall (h : ∀ c ∈ xs, isCaseIgnorable c = true) (ys : List Char) :
    leadsWithCased (xs ++ ys) = leadsWithCased ys := by
  rw [leadsWithCased, List.dropWhile_append_of_pos h, leadsWithCased]

lemma leadsWithCased_append_of_exists (h : ∃ c ∈ xs, isCaseIgnorable c = false) (ys : List Char) :
    leadsWithCased (xs ++ ys) = leadsWithCased xs := by
  have hne : xs.dropWhile isCaseIgnorable ≠ [] := by
    simpa [List.dropWhile_eq_nil_iff] using h
  obtain ⟨c, rest, hrest⟩ := List.exists_cons_of_ne_nil hne
  simp [leadsWithCased, List.dropWhile_append, hrest]

lemma leadsWithCased_append_congr {ys ys' : List Char} (xs : List Char)
    (h : leadsWithCased ys = leadsWithCased ys') :
    leadsWithCased (xs ++ ys) = leadsWithCased (xs ++ ys') := by
  by_cases hxs : ∀ c ∈ xs, isCaseIgnorable c = true
  · rw [leadsWithCased_append_of_forall hxs, leadsWithCased_append_of_forall hxs, h]
  · have hxs : ∃ c ∈ xs, isCaseIgnorable c = false := by simpa using hxs
    rw [leadsWithCased_append_of_exists hxs, leadsWithCased_append_of_exists hxs]

lemma leadsWithCased_of_forall (h : ∀ c ∈ xs, isCaseIgnorable c = true) :
    leadsWithCased xs = false := by
  rw [leadsWithCased, List.dropWhile_eq_nil_iff.2 h]

/-- A text that leads with a cased letter has a character that counts. -/
lemma exists_of_leadsWithCased (h : leadsWithCased xs = true) :
    ∃ c ∈ xs, isCaseIgnorable c = false := by
  by_contra hnone
  have hall : ∀ c ∈ xs, isCaseIgnorable c = true := by simpa using hnone
  simp [leadsWithCased_of_forall hall] at h

/-- A sigma between these characters, the first of them in reverse, ends a word. -/
def endsWord (before after : List Char) : Bool :=
  leadsWithCased before && !leadsWithCased after

/-! ## Parts -/

/-- The lower case of a part of a text: `before` stands in front of it, in reverse, and `after`
behind it. -/
def lowerBetween (before : List Char) (cs after : List Char) : List Char :=
  match cs with
  | [] => []
  | c :: cs => lowerAt before c (cs ++ after) ++ lowerBetween (c :: before) cs after

lemma lowerBetween_nil_right (before cs : List Char) :
    lowerBetween before cs [] = lowerFrom before cs := by
  induction cs generalizing before with
  | nil => rfl
  | cons c cs ih => rw [lowerBetween, lowerFrom, ih, List.append_nil]

lemma lowerBetween_append (before xs ys after : List Char) :
    lowerBetween before (xs ++ ys) after =
      lowerBetween before xs (ys ++ after) ++ lowerBetween (xs.reverse ++ before) ys after := by
  induction xs generalizing before with
  | nil => rfl
  | cons c xs ih =>
    simp only [List.cons_append, lowerBetween, ih, List.append_assoc, List.reverse_cons,
      List.nil_append]

/-- The lower case of a text is put together from those of its parts, each in its place. -/
lemma lower_append_append (before cs after : List Char) :
    lower (before ++ cs ++ after) = lowerBetween [] before (cs ++ after) ++
      lowerBetween before.reverse cs after ++ lowerBetween (before ++ cs).reverse after [] := by
  rw [lower, ← lowerBetween_nil_right, lowerBetween_append, lowerBetween_append]
  simp only [List.append_nil]

lemma lowerAt_ne_nil (before : List Char) (c : Char) (after : List Char) :
    lowerAt before c after ≠ [] := by
  simp only [lowerAt]
  split_ifs <;> simp

lemma lower_eq_nil_iff : lower cs = [] ↔ cs = [] := by
  cases cs with
  | nil => exact iff_of_true rfl rfl
  | cons c cs => simp [lower, lowerFrom, lowerAt_ne_nil]

/-! ## Surroundings -/

/-- Only a sigma looks at what stands around it. -/
lemma lowerAt_congr {c : Char}
    (h : c = 'Σ' → endsWord before after = endsWord before' after') :
    lowerAt before c after = lowerAt before' c after' := by
  by_cases hc : c = 'Σ'
  · rw [lowerAt, lowerAt, if_pos hc, if_pos hc, ← endsWord, ← endsWord, h hc]
  · rw [lowerAt, lowerAt, if_neg hc, if_neg hc]

/-- A part has the same lower case in two places if each of its sigmas ends a word in both or in
neither. -/
lemma lowerBetween_congr
    (h : ∀ u v, cs = u ++ 'Σ' :: v →
      endsWord (u.reverse ++ before) (v ++ after) = endsWord (u.reverse ++ before') (v ++ after')) :
    lowerBetween before cs after = lowerBetween before' cs after' := by
  induction cs generalizing before before' with
  | nil => rfl
  | cons c cs ih =>
    have hhead : lowerAt before c (cs ++ after) = lowerAt before' c (cs ++ after') :=
      lowerAt_congr fun hc => h [] cs (by rw [hc, List.nil_append])
    have htail : lowerBetween (c :: before) cs after = lowerBetween (c :: before') cs after' := by
      refine ih fun u v huv => ?_
      simpa using h (c :: u) v (by rw [huv, List.cons_append])
    rw [lowerBetween, lowerBetween, hhead, htail]

/-- A part without a sigma has the same lower case everywhere. -/
lemma lowerBetween_of_notMem (h : 'Σ' ∉ cs) :
    lowerBetween before cs after = lowerBetween before' cs after' :=
  lowerBetween_congr fun u v huv => absurd (huv ▸ by simp) h

/-- A sigma of the part ends a word in the text and not in the part, or the other way round.  The
text has `before` in front of the part, in reverse, and `after` behind it. -/
def Turns (before cs after : List Char) : Prop :=
  ∃ u v, cs = u ++ 'Σ' :: v ∧
    endsWord (u.reverse ++ before) (v ++ after) ≠ endsWord u.reverse v

lemma lowerBetween_of_not_turns (h : ¬Turns before cs after) :
    lowerBetween before cs after = lower cs := by
  rw [lower, ← lowerBetween_nil_right]
  refine lowerBetween_congr fun u v huv => ?_
  rw [List.append_nil, List.append_nil]
  exact not_not.1 fun hne => h ⟨u, v, huv, hne⟩

/-- The part stands somewhere in the text, and each sigma of it ends a word there exactly if it does
in the part. -/
def StandsUnturned (cs text : List Char) : Prop :=
  ∃ before after, text = before ++ cs ++ after ∧ ¬Turns before.reverse cs after

/-- A part that stands in the text unturned also stands there in lower case. -/
lemma lower_infix_of_standsUnturned {text : List Char} (h : StandsUnturned cs text) :
    lower cs <:+: lower text := by
  obtain ⟨before, after, rfl, hturns⟩ := h
  rw [lower_append_append, lowerBetween_of_not_turns hturns]
  exact List.infix_append _ _ _

/-! ## Exposed sigmas -/

/-- There is a sigma in the text at which a word ends or goes on by what is joined to the text. -/
inductive Exposed : List Char → Prop
  /-- The sigma follows a cased letter, and nothing behind it counts: a letter joined there makes
  the word go on. -/
  | behind {u v : List Char} (hword : leadsWithCased u.reverse = true)
      (hend : ∀ c ∈ v, isCaseIgnorable c = true) : Exposed (u ++ 'Σ' :: v)
  /-- Nothing in front of the sigma counts, and no word goes on behind it: a letter joined in front
  makes it the end of a word. -/
  | front {u v : List Char} (hstart : ∀ c ∈ u, isCaseIgnorable c = true)
      (hend : leadsWithCased v = false) : Exposed (u ++ 'Σ' :: v)

/-- What stands around a text without an exposed sigma does not matter. -/
lemma not_turns_of_not_exposed (h : ¬Exposed cs) (before after : List Char) : ¬Turns before cs after := by
  rintro ⟨u, v, rfl, hne⟩
  apply hne
  by_cases hstart : ∀ c ∈ u, isCaseIgnorable c = true
  · have hu : ∀ c ∈ u.reverse, isCaseIgnorable c = true := by simpa using hstart
    have hv : leadsWithCased v = true := by
      by_contra hv
      exact h (.front hstart (by simpa using hv))
    simp only [endsWord, leadsWithCased_of_forall hu, hv, Bool.not_true, Bool.and_false,
      leadsWithCased_append_of_exists (exists_of_leadsWithCased hv)]
  · have hu : ∃ c ∈ u.reverse, isCaseIgnorable c = false := by simpa using hstart
    simp only [endsWord, leadsWithCased_append_of_exists hu]
    cases hword : leadsWithCased u.reverse with
    | false => rfl
    | true =>
      have hv : ∃ c ∈ v, isCaseIgnorable c = false := by
        by_contra hv
        exact h (.behind hword (by simpa using hv))
      rw [leadsWithCased_append_of_exists hv]

lemma standsUnturned_of_not_exposed {text : List Char} (hexposed : ¬Exposed cs)
    (h : cs <:+: text) : StandsUnturned cs text := by
  obtain ⟨before, after, htext⟩ := h
  exact ⟨before, after, htext.symm, not_turns_of_not_exposed hexposed _ _⟩

/-! ## Missing a part -/

lemma leadsWithCased_sigma (xs : List Char) : leadsWithCased ('Σ' :: xs) = true := by
  have hcounts : isCaseIgnorable 'Σ' = false := by decide +kernel
  have hcased : isCased 'Σ' = true := by decide +kernel
  simp only [leadsWithCased, List.dropWhile_cons, hcounts, Bool.false_eq_true, if_false, hcased]

lemma notMem_of_forall_isCaseIgnorable (h : ∀ c ∈ xs, isCaseIgnorable c = true) : 'Σ' ∉ xs := by
  intro hmem
  have hcounts : isCaseIgnorable 'Σ' = false := by decide +kernel
  rw [h _ hmem] at hcounts
  contradiction

/-- Surroundings matter only through the next character that counts. -/
lemma lowerBetween_congr_leads (hbefore : leadsWithCased before = leadsWithCased before')
    (hafter : leadsWithCased after = leadsWithCased after') :
    lowerBetween before cs after = lowerBetween before' cs after' :=
  lowerBetween_congr fun u v _ => by
    rw [endsWord, endsWord, leadsWithCased_append_congr u.reverse hbefore,
      leadsWithCased_append_congr v hafter]

/-- The lower case of a part that is taken apart at a sigma. -/
lemma lowerBetween_sigma (before u v after : List Char) :
    lowerBetween before (u ++ 'Σ' :: v) after =
      lowerBetween before u ('Σ' :: (v ++ after)) ++
        (if endsWord (u.reverse ++ before) (v ++ after) then 'ς' else 'σ') ::
          lowerBetween ('Σ' :: (u.reverse ++ before)) v after := by
  rw [lowerBetween_append, lowerBetween, lowerAt, if_pos rfl, ← endsWord]
  rfl

lemma lower_sigma (u v : List Char) :
    lower (u ++ 'Σ' :: v) = lowerBetween [] u ('Σ' :: v) ++
      (if endsWord u.reverse v then 'ς' else 'σ') :: lowerBetween ('Σ' :: u.reverse) v [] := by
  rw [lower, ← lowerBetween_nil_right, lowerBetween_sigma, List.append_nil, List.append_nil]

lemma lowerBetween_letter (before after : List Char) : lowerBetween before ['a'] after = ['a'] := by
  rw [lowerBetween, lowerBetween, lowerAt, if_neg (by decide), if_neg (by decide),
    if_pos (by decide)]
  decide

/-- A text is not found in one that has a character of it replaced and no more of that character. -/
lemma not_infix_of_replaced {c d : Char} (hne : c ≠ d) (hxs : c ∉ xs) (hys : c ∉ ys) :
    ¬before ++ c :: after <:+: xs ++ (before ++ d :: after) ++ ys := by
  intro h
  have hcount := h.sublist.count_le c
  simp only [List.count_append, List.count_cons_self, List.count_cons_of_ne hne.symm,
    List.count_eq_zero_of_not_mem hxs, List.count_eq_zero_of_not_mem hys] at hcount
  omega

/-- A letter joined to a text with an exposed sigma changes its lower case, so that it is not found
there. -/
lemma Exposed.exists_missed (h : Exposed cs) :
    ∃ before after, ¬lower cs <:+: lower (before ++ cs ++ after) := by
  have hletter : leadsWithCased ['a'] = true := by decide +kernel
  cases h with
  | @behind u v hword hend =>
    have hfinal : endsWord u.reverse v = true := by
      rw [endsWord, hword, leadsWithCased_of_forall hend, Bool.not_false, Bool.and_true]
    have hinner : endsWord u.reverse (v ++ ['a']) = false := by
      rw [endsWord, leadsWithCased_append_of_forall hend, hletter, Bool.not_true, Bool.and_false]
    have hu : lowerBetween [] u ('Σ' :: (v ++ ['a'])) = lowerBetween [] u ('Σ' :: v) :=
      lowerBetween_congr_leads rfl (by rw [leadsWithCased_sigma, leadsWithCased_sigma])
    have hv : lowerBetween ('Σ' :: u.reverse) v ['a'] = lowerBetween ('Σ' :: u.reverse) v [] :=
      lowerBetween_of_notMem (notMem_of_forall_isCaseIgnorable hend)
    refine ⟨[], ['a'], ?_⟩
    rw [lower_sigma, lower_append_append, lowerBetween_sigma, lowerBetween_letter,
      List.reverse_nil, List.append_nil, hu, hv, if_pos hfinal, hinner]
    exact not_infix_of_replaced (by decide) List.not_mem_nil (by decide)
  | @front u v hstart hend =>
    have hstart' : ∀ c ∈ u.reverse, isCaseIgnorable c = true := by simpa using hstart
    have hinner : endsWord u.reverse v = false := by
      rw [endsWord, leadsWithCased_of_forall hstart', Bool.false_and]
    have hfinal : endsWord (u.reverse ++ ['a']) v = true := by
      rw [endsWord, leadsWithCased_append_of_forall hstart', hletter, hend, Bool.not_false,
        Bool.and_true]
    have hu : lowerBetween ['a'] u ('Σ' :: v) = lowerBetween [] u ('Σ' :: v) :=
      lowerBetween_of_notMem (notMem_of_forall_isCaseIgnorable hstart)
    have hv : lowerBetween ('Σ' :: (u.reverse ++ ['a'])) v [] =
        lowerBetween ('Σ' :: u.reverse) v [] :=
      lowerBetween_congr_leads (by rw [leadsWithCased_sigma, leadsWithCased_sigma]) rfl
    refine ⟨['a'], [], ?_⟩
    rw [lower_sigma, lower_append_append, lowerBetween_sigma, lowerBetween_letter,
      List.reverse_singleton, List.append_nil, hu, hv, if_pos hfinal, hinner]
    exact not_infix_of_replaced (by decide) (by decide) List.not_mem_nil

end SysReg.Text
