import PinballScout.Proofs.Grouping

/-! Stable sorting by a key. A list in key order is fixed by the elements it holds and by the
    order of each class of elements with equal keys: two such lists that hold the same elements and
    list every class alike are equal. Merge sort by a key leaves each class in its input order, so
    it is stable, and sorting and keeping some of the elements may be done in either order. -/

namespace PinballScout

section Classes
variable {α β : Type} [LinearOrder β] (key : α → β)

/-- Lists in key order that hold the same elements and list each class of equal keys alike are
equal. -/
theorem eq_of_perm_of_classes {l₁ l₂ : List α} (hp : l₁.Perm l₂)
    (h₁ : l₁.Pairwise fun a b => key a ≤ key b) (h₂ : l₂.Pairwise fun a b => key a ≤ key b)
    (hc : ∀ x ∈ l₁, l₁.filter (fun y => key y = key x) = l₂.filter (fun y => key y = key x)) :
    l₁ = l₂ := by
  induction l₁ generalizing l₂ with
  | nil => exact hp.nil_eq
  | cons a t ih =>
    obtain _ | ⟨b, t₂⟩ := l₂
    · exact absurd hp.eq_nil (List.cons_ne_nil a t)
    -- both heads hold the least key, so they stand first in the same class
    have hba : key b ≤ key a := by
      rcases List.mem_cons.mp (hp.subset List.mem_cons_self) with rfl | ha
      · exact le_refl _
      · exact List.rel_of_pairwise_cons h₂ ha
    have hab : key a ≤ key b := by
      rcases List.mem_cons.mp (hp.symm.subset (List.mem_cons_self (a := b) (l := t₂))) with rfl | hb
      · exact le_refl _
      · exact List.rel_of_pairwise_cons h₁ hb
    have hkey : key b = key a := le_antisymm hba hab
    have hhead := hc a List.mem_cons_self
    simp only [List.filter_cons, hkey, decide_true, if_true, List.cons.injEq] at hhead
    obtain ⟨rfl, htail⟩ := hhead
    refine congrArg (a :: ·) (ih (List.perm_cons a |>.mp hp) h₁.of_cons h₂.of_cons fun x hx => ?_)
    by_cases hk : key x = key a
    · rw [hk]; exact htail
    · have hrest := hc x (List.mem_cons_of_mem a hx)
      simpa [List.filter_cons, Ne.symm hk] using hrest

variable {le : α → α → Bool} (hle : ∀ a b, le a b = true ↔ key a ≤ key b)
include hle

/-- Merge sort by a key leaves each class of equal keys in its input order. -/
theorem filter_mergeSort_of_key (l : List α) (v : β) :
    (l.mergeSort le).filter (fun y => key y = v) = l.filter (fun y => key y = v) := by
  have hclass : (l.filter fun y => key y = v).Pairwise fun a b => le a b = true :=
    List.pairwise_of_forall_mem_list fun a ha b hb => by
      simp only [List.mem_filter, decide_eq_true_eq] at ha hb
      exact (hle a b).mpr (by rw [ha.2, hb.2])
  have hsub := (List.sublist_mergeSort (trans_of_key key hle) (total_of_key key hle) hclass
    List.filter_sublist).filter (fun y => key y = v)
  simp only [List.filter_filter, Bool.and_self] at hsub
  have hlen := ((List.mergeSort_perm l le).filter (fun y => key y = v)).length_eq
  exact (hsub.eq_of_length hlen.symm).symm

/-- Merge sort is stable: a list ordered by a tie order comes out ordered by key, and by the tie
order among equal keys. -/
theorem pairwise_mergeSort_stable {tie : α → α → Prop} {l : List α} (hl : l.Pairwise tie) :
    (l.mergeSort le).Pairwise fun a b => key a < key b ∨ key a = key b ∧ tie a b := by
  refine List.pairwise_of_forall_sublist fun {a b} hab => ?_
  rcases lt_or_eq_of_le ((pairwise_mergeSort_of_key key hle l).forall_sublist hab) with hlt | heq
  · exact .inl hlt
  · refine .inr ⟨heq, ?_⟩
    -- `a` and `b` stand in one class of equal keys, which the sort leaves as it was
    have hab' := hab.filter fun x => decide (key x = key a)
    rw [filter_mergeSort_of_key key hle] at hab'
    simp [heq] at hab'
    exact (hl.filter _).forall_sublist hab'

/-- Sorting by a key and keeping some elements commute. -/
theorem mergeSort_filter_comm (l : List α) (p : α → Bool) :
    (l.filter p).mergeSort le = (l.mergeSort le).filter p := by
  have hcomm : ∀ (m : List α) (v : β),
      (m.filter p).filter (fun y => key y = v) = (m.filter fun y => key y = v).filter p := by
    intro m v
    rw [List.filter_filter, List.filter_filter]
    exact List.filter_congr fun y _ => Bool.and_comm _ _
  refine eq_of_perm_of_classes key ?_ (pairwise_mergeSort_of_key key hle _)
    ((pairwise_mergeSort_of_key key hle l).filter p) fun x _ => ?_
  · exact (List.mergeSort_perm _ _).trans ((List.mergeSort_perm l _).filter p).symm
  · rw [filter_mergeSort_of_key key hle, hcomm, hcomm, filter_mergeSort_of_key key hle]

end Classes

end PinballScout
