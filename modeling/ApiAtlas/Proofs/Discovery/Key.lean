import ApiAtlas.Discovery.Endpoint
import Mathlib.Data.List.Basic

/-! Keys of endpoints. A key is a method in upper case, a space and a path. Upper case makes a space from
nothing but a space, so that the first space of a key ends a method without one, and the key tells both parts. -/
namespace ApiAtlas

theorem CaseRuns.mem_of_image? {runs : CaseRuns} {n m : Nat} (found : runs.image? n = some m) :
    ∃ r ∈ runs, r.first ≤ n ∧ n ≤ r.last ∧ m = ((n : Int) + r.shift).toNat := by
  obtain ⟨r, member, image⟩ := List.exists_of_findSome?_eq_some found
  split at image
  next inside => exact ⟨r, member, inside.1, inside.2.1, (Option.some.inj image).symm⟩
  next => contradiction

namespace Case

theorem space_not_mem_upperSpecial : ∀ entry ∈ upperSpecial, ' ' ∉ entry.2.map Char.ofNat := by
  decide

theorem space_lt_upperRuns : ∀ r ∈ upperRuns, 0x20 < (r.first : Int) + r.shift := by
  decide +kernel

theorem ofNat_ne_space {n : Nat} (above : 0x20 < n) : Char.ofNat n ≠ ' ' := by
  intro same
  have number : (Char.ofNat n).toNat = 0x20 := by rw [same]; rfl
  unfold Char.ofNat at number
  by_cases valid : n.isValidChar
  · rw [dif_pos valid] at number
    have kept : n = 0x20 := number
    omega
  · rw [dif_neg valid] at number
    contradiction

/-- No other character has a space in its upper case. -/
theorem space_not_mem_upper {c : Char} (other : c ≠ ' ') : ' ' ∉ upper c := by
  unfold upper mapped
  split
  next ns found =>
    obtain ⟨before, after, whole, -⟩ := List.lookup_eq_some_iff.mp found
    exact space_not_mem_upperSpecial (c.toNat, ns) (by simp [whole])
  next =>
    split
    next n found =>
      obtain ⟨r, member, low, -, rfl⟩ := CaseRuns.mem_of_image? found
      have above := space_lt_upperRuns r member
      simpa using (ofNat_ne_space (by omega)).symm
    next => simpa using other.symm

theorem space_not_mem_upperText {s : String} (spaceless : ' ' ∉ s.toList) :
    ' ' ∉ (upperText s).toList := by
  simp only [upperText, String.toList_ofList, List.mem_flatMap, not_exists, not_and]
  intro c member
  exact space_not_mem_upper fun same => spaceless (same ▸ member)

theorem ascii_lt_upperSpecial : ∀ entry ∈ upperSpecial, 0x80 ≤ entry.1 := by decide

/-- The letters are the only run among the ASCII characters. -/
theorem ascii_lt_upperRuns : ∀ r ∈ upperRuns.tail, 0x80 ≤ r.first := by decide +kernel

theorem toUpper_ofNat : ∀ n < 0x80, (Char.ofNat n).toUpper =
    if 0x61 ≤ n ∧ n ≤ 0x7A then Char.ofNat (n - 0x20) else Char.ofNat n := by
  decide

theorem upper_of_ascii {c : Char} (ascii : c.toNat < 0x80) : upper c = [c.toUpper] := by
  have special : upperSpecial.lookup c.toNat = none := by
    refine List.lookup_eq_none_iff.mpr fun entry member => bne_iff_ne.mpr ?_
    have apart := ascii_lt_upperSpecial entry member
    omega
  have others : CaseRuns.image? upperRuns.tail c.toNat = none := by
    refine List.findSome?_eq_none_iff.mpr fun r member => if_neg ?_
    have apart := ascii_lt_upperRuns r member
    omega
  have runs : upperRuns = ⟨0x61, 0x7A, 1, -32⟩ :: upperRuns.tail := rfl
  have raised := toUpper_ofNat c.toNat ascii
  rw [Char.ofNat_toNat] at raised
  unfold CaseRuns.image? at others
  rw [upper, mapped, special, runs, CaseRuns.image?, List.findSome?_cons, others, raised]
  by_cases letter : 0x61 ≤ c.toNat ∧ c.toNat ≤ 0x7A
  · have shifted : ((c.toNat : Int) + -32).toNat = c.toNat - 0x20 := by omega
    simp [letter, shifted, Nat.mod_one]
  · have apart : ¬(0x61 ≤ c.toNat ∧ c.toNat ≤ 0x7A ∧ (c.toNat - 0x61) % 1 = 0) := fun inside =>
      letter ⟨inside.1, inside.2.1⟩
    simp only [if_neg apart, if_neg letter]

/-- A character that is raised to an ASCII one has that as its upper case. -/
theorem upper_of_toUpper {c : Char} (ascii : c.toUpper.toNat < 0x80) : upper c = [c.toUpper] := by
  have small : c.toNat < 0x80 := by
    by_contra large
    have kept : c.toUpper = c := by
      unfold Char.toUpper
      rw [dif_neg]
      rintro ⟨-, below⟩
      have bound : c.toNat ≤ 'z'.toNat := below
      have z : 'z'.toNat = 0x7A := rfl
      omega
    exact large (kept ▸ ascii)
  exact upper_of_ascii small

/-- A text that is raised to an ASCII one has that as its upper case. -/
theorem upperText_of_toUpper {s t : String} (ascii : ∀ c ∈ t.toList, c.toNat < 0x80)
    (raised : s.toList.map Char.toUpper = t.toList) : upperText s = t := by
  have each : s.toList.flatMap upper = s.toList.map Char.toUpper := by
    rw [List.map_eq_flatMap]
    refine List.flatMap_congr fun c member => upper_of_toUpper (ascii _ ?_)
    exact raised ▸ List.mem_map_of_mem member
  rw [upperText, each, raised, String.ofList_toList]

end Case

/-- The first occurrence of a separator parts a list in one way. -/
theorem parts_eq_of_append_cons {α : Type} {a : α} {front rest front' rest' : List α}
    (same : front ++ a :: rest = front' ++ a :: rest') (absent : a ∉ front) (absent' : a ∉ front') :
    front = front' ∧ rest = rest' := by
  induction front generalizing front' with
  | nil =>
    cases front' with
    | nil => simpa using same
    | cons b front' =>
      obtain ⟨rfl, -⟩ := List.cons.inj same
      exact absurd List.mem_cons_self absent'
  | cons b front ih =>
    cases front' with
    | nil =>
      obtain ⟨rfl, -⟩ := List.cons.inj same
      exact absurd List.mem_cons_self absent
    | cons b' front' =>
      obtain ⟨rfl, tails⟩ := List.cons.inj same
      obtain ⟨rfl, others⟩ :=
        ih tails (fun member => absent (.tail _ member)) (fun member => absent' (.tail _ member))
      exact ⟨rfl, others⟩

namespace Endpoint

/-- Methods without a space give different keys unless they are the same in upper case. -/
theorem keyOf_injective {method path method' path' : String}
    (same : keyOf method path = keyOf method' path') (spaceless : ' ' ∉ method.toList)
    (spaceless' : ' ' ∉ method'.toList) :
    Case.upperText method = Case.upperText method' ∧ path = path' := by
  have lists := congrArg String.toList same
  simp only [keyOf, String.toList_append, List.append_assoc] at lists
  obtain ⟨methods, paths⟩ := parts_eq_of_append_cons (a := ' ') lists
    (Case.space_not_mem_upperText spaceless) (Case.space_not_mem_upperText spaceless')
  exact ⟨String.toList_injective methods, String.toList_injective paths⟩

end Endpoint
end ApiAtlas
