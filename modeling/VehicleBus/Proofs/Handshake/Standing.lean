import VehicleBus.Handshake.Sequence

/-!
What is open at the end of a list of entries, some of which open it and some of which close it
again. A request that was made and not withdrawn is open in this sense, and so is one that was made
and not served.
-/
namespace VehicleBus.Handshake

/-- An entry of a list opened something, and none since closed it. Whether an entry closes it may
depend on those before. -/
def Standing {α : Type} (opens : α → Prop) (closes : List α → α → Prop) (entries : List α) : Prop :=
  ∃ before opening since, entries = before ++ opening :: since ∧ opens opening ∧
    ∀ between entry after, since = between ++ entry :: after →
      ¬ closes (before ++ opening :: between) entry

namespace Standing

variable {α : Type} {opens : α → Prop} {closes : List α → α → Prop}

theorem not_nil : ¬ Standing opens closes [] := by
  rintro ⟨before, opening, since, split, -⟩
  simp at split

theorem concat_of_opens (entries : List α) {entry : α} (opening : opens entry) :
    Standing opens closes (entries ++ [entry]) :=
  ⟨entries, entry, [], rfl, opening, by simp⟩

theorem concat_of_kept {entries : List α} {entry : α} (standing : Standing opens closes entries)
    (kept : ¬ closes entries entry) : Standing opens closes (entries ++ [entry]) := by
  obtain ⟨before, opening, since, rfl, opened, unclosed⟩ := standing
  refine ⟨before, opening, since ++ [entry], by simp, opened, ?_⟩
  intro between other after split
  rcases after.eq_nil_or_concat with rfl | ⟨after, last, rfl⟩
  · obtain ⟨rfl, ⟨⟩⟩ := List.append_inj' split rfl
    exact kept
  · rw [List.concat_eq_append, ← List.cons_append, ← List.append_assoc] at split
    obtain ⟨rfl, -⟩ := List.append_inj' split rfl
    exact unclosed between other after rfl

/-- The last entry decides: it opens, or it leaves open what was. -/
theorem concat_iff (entries : List α) (entry : α) :
    Standing opens closes (entries ++ [entry]) ↔
      opens entry ∨ Standing opens closes entries ∧ ¬ closes entries entry := by
  constructor
  · rintro ⟨before, opening, since, split, opened, unclosed⟩
    rcases since.eq_nil_or_concat with rfl | ⟨since, last, rfl⟩
    · obtain ⟨-, ⟨⟩⟩ := List.append_inj' split rfl
      exact .inl opened
    · rw [List.concat_eq_append] at split unclosed
      rw [← List.cons_append, ← List.append_assoc] at split
      obtain ⟨rfl, ⟨⟩⟩ := List.append_inj' split rfl
      refine .inr ⟨⟨before, opening, since, rfl, opened, ?_⟩, unclosed since entry [] rfl⟩
      rintro between other after rfl
      exact unclosed between other (after ++ [entry]) (by simp)
  · rintro (opening | ⟨standing, kept⟩)
    · exact concat_of_opens entries opening
    · exact standing.concat_of_kept kept

end Standing

end VehicleBus.Handshake
